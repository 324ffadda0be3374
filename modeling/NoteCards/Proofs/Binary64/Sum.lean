import NoteCards.Proofs.Binary64.Monotone

/-!
# Sums of numbers

A sum of finite numbers is a whole number of units, of either sign, that is rounded once. Rounding
takes magnitudes only, so a sum is followed to its place in the order instead, where the sign counts
(`key?_add`): the nearest place grows with the units (`nearestPlace_mono`), and so a sum grows with
both of its terms (`add_le_add`). A zero term changes no place, though it may change the sign of a
zero (`key?_add_of_units_eq_zero`).
-/

namespace NoteCards.Binary64

/-- The place in the order of the number that is nearest to some units. -/
def nearestPlace (units : ℤ) : ℤ :=
  if units < 0 then -((min (nearestRank units.natAbs 1) topRank : ℕ) : ℤ)
  else (min (nearestRank units.natAbs 1) topRank : ℕ)

/-- The units in a finite number; none in all others. -/
def units : Binary64 → ℤ
  | .finite negative rank => signedUnits negative rank
  | _ => 0

theorem nearestRank_mono {n m : ℕ} (hle : n ≤ m) : nearestRank n 1 ≤ nearestRank m 1 := by
  have hn := isNearest_nearestRank n Nat.one_pos
  have hm := isNearest_nearestRank m Nat.one_pos
  apply hn.le hm
  gcongr

theorem nearestPlace_mono : Monotone nearestPlace := by
  intro low high hle
  rw [nearestPlace, nearestPlace]
  by_cases hhigh : high < 0
  · -- below zero the greater one has the smaller magnitude
    have hrank : nearestRank high.natAbs 1 ≤ nearestRank low.natAbs 1 :=
      nearestRank_mono (by omega)
    rw [if_pos (by omega), if_pos hhigh]
    omega
  · rw [if_neg hhigh]
    by_cases hlow : low < 0
    · rw [if_pos hlow]
      omega
    · have hrank : nearestRank low.natAbs 1 ≤ nearestRank high.natAbs 1 :=
        nearestRank_mono (by omega)
      rw [if_neg hlow]
      omega

theorem nearestPlace_magnitude (rank : Fin topRank) :
    nearestPlace (magnitude rank) = rank.val := by
  rw [nearestPlace, if_neg (by omega), Int.natAbs_natCast, nearestRank_magnitude,
    Nat.min_eq_left rank.isLt.le]

theorem nearestPlace_zero : nearestPlace 0 = 0 := by
  have hzero := nearestPlace_magnitude ⟨0, by decide⟩
  rwa [magnitude_zero] at hzero

theorem nearestPlace_neg (units : ℤ) : nearestPlace (-units) = -nearestPlace units := by
  rcases lt_trichotomy units 0 with hbelow | rfl | habove
  · rw [nearestPlace, nearestPlace, if_neg (by omega), if_pos hbelow, Int.natAbs_neg, neg_neg]
  · rw [neg_zero, nearestPlace_zero, neg_zero]
  · rw [nearestPlace, nearestPlace, if_pos (by omega), if_neg (by omega), Int.natAbs_neg]

section Sums

variable {x y z w : Binary64}

theorem key?_eq_nearestPlace (hx : x.isFinite = true) : x.key? = some (nearestPlace x.units) := by
  match x, hx with
  | .finite true rank, _ =>
    have hunits : units (.finite true rank) = -(magnitude rank : ℤ) := rfl
    rw [hunits, nearestPlace_neg, nearestPlace_magnitude]
    rfl
  | .finite false rank, _ =>
    have hunits : units (.finite false rank) = (magnitude rank : ℤ) := rfl
    rw [hunits, nearestPlace_magnitude]
    rfl

theorem key?_add (hx : x.isFinite = true) (hy : y.isFinite = true) :
    (x + y).key? = some (nearestPlace (x.units + y.units)) := by
  match x, y, hx, hy with
  | .finite a r, .finite b s, _, _ =>
    rw [add_finite, units, units]
    by_cases hzero : signedUnits a r + signedUnits b s = 0
    · rw [if_pos hzero, hzero, nearestPlace_zero]
      cases a && b <;> rfl
    · rw [if_neg hzero, ofQuotient, key?_ofRank, nearestPlace]
      by_cases hnegative : signedUnits a r + signedUnits b s < 0
      · rw [if_pos hnegative, if_pos (decide_eq_true hnegative)]
      · rw [if_neg hnegative, if_neg (by simpa using hnegative)]

theorem units_le_units (hx : x.isFinite = true) (hy : y.isFinite = true) (hxy : x.le y = true) :
    x.units ≤ y.units := by
  match x, y, hx, hy with
  | .finite false r, .finite false s, _, _ =>
    have hplaces : (r.val : ℤ) ≤ s.val := of_decide_eq_true hxy
    exact Nat.cast_le.2 (magnitude_strictMono.monotone (Nat.cast_le.1 hplaces))
  | .finite true r, .finite true s, _, _ =>
    have hplaces : -(r.val : ℤ) ≤ -s.val := of_decide_eq_true hxy
    exact neg_le_neg (Nat.cast_le.2 (magnitude_strictMono.monotone (by omega)))
  | .finite true r, .finite false s, _, _ =>
    exact (neg_nonpos.2 (Nat.cast_nonneg _)).trans (Nat.cast_nonneg _)
  | .finite false r, .finite true s, _, _ =>
    -- both are zeros
    have hplaces : (r.val : ℤ) ≤ -s.val := of_decide_eq_true hxy
    have hr : r.val = 0 := by omega
    have hs : s.val = 0 := by omega
    change (magnitude r : ℤ) ≤ -magnitude s
    rw [hr, hs, magnitude_zero, Nat.cast_zero, neg_zero]

theorem add_le_add (hx : x.isFinite = true) (hy : y.isFinite = true) (hz : z.isFinite = true)
    (hw : w.isFinite = true) (hxz : x.le z = true) (hyw : y.le w = true) :
    (x + y).le (z + w) = true := by
  have hfirst := units_le_units hx hz hxz
  have hsecond := units_le_units hy hw hyw
  exact le_iff.2 ⟨_, _, key?_add hx hy, key?_add hz hw, nearestPlace_mono (by omega)⟩

/-- A zero changes nothing but the sign of another zero. -/
theorem key?_add_of_units_eq_zero (hx : x.isFinite = true) (hy : y.isFinite = true)
    (hzero : y.units = 0) : (x + y).key? = x.key? := by
  rw [key?_add hx hy, key?_eq_nearestPlace hx, hzero, Int.add_zero]

theorem key?_add_of_units_eq_zero_left (hx : x.isFinite = true) (hy : y.isFinite = true)
    (hzero : x.units = 0) : (x + y).key? = y.key? := by
  rw [key?_add hx hy, key?_eq_nearestPlace hy, hzero, Int.zero_add]

theorem add_ne_nan (hx : x.isFinite = true) (hy : y.isFinite = true) : x + y ≠ .nan := by
  intro hnan
  exact nomatch (key?_add hx hy).symm.trans (key?_eq_none_iff.2 hnan)

theorem add_le_of_units (hx : x.isFinite = true) (hy : y.isFinite = true) (hz : z.isFinite = true)
    (hunits : x.units + y.units ≤ z.units) : (x + y).le z = true :=
  le_iff.2 ⟨_, _, key?_add hx hy, key?_eq_nearestPlace hz, nearestPlace_mono hunits⟩

theorem le_add_of_units (hx : x.isFinite = true) (hy : y.isFinite = true) (hz : z.isFinite = true)
    (hunits : z.units ≤ x.units + y.units) : z.le (x + y) = true :=
  le_iff.2 ⟨_, _, key?_eq_nearestPlace hz, key?_add hx hy, nearestPlace_mono hunits⟩

end Sums

/-! ### Opposites and doubles -/

section Doubles

variable {x y : Binary64} {r s : Fin topRank}

theorem HasRank.isFinite_neg (hx : x.HasRank r) : (-x).isFinite = true := by
  obtain ⟨negative, rfl, -⟩ := hx.exists_sign
  rfl

theorem units_neg : (-x).units = -x.units := by
  match x with
  | .nan | .infinite _ => exact neg_zero.symm
  | .finite true rank => exact (neg_neg (magnitude rank : ℤ)).symm
  | .finite false rank => rfl

protected theorem sub_neg (x y : Binary64) : x - -y = x + y := by
  have hy : negate (negate y) = y := by
    cases y <;> simp only [negate, Bool.not_not]
  change add x (negate (negate y)) = add x y
  rw [hy]

theorem units_zero (negative : Bool) : (zero negative).units = 0 := by
  cases negative <;> simp [zero, units, signedUnits, magnitude_zero]

theorem HasRank.units (hx : x.HasRank r) : x.units = magnitude r := by
  obtain ⟨negative, rfl, hsign⟩ := hx.exists_sign
  cases negative with
  | false => rfl
  | true =>
    change -(magnitude r : ℤ) = magnitude r
    rw [hsign rfl, Nat.cast_zero, neg_zero]

theorem exists_hasRank_add_self (hx : x.HasRank r) (hy : y.HasRank s) (hxy : x.le y = true)
    (hfinite : (y + y).isFinite = true) : ∃ rank, (x + x).HasRank rank := by
  have hnonneg : (0 : Binary64).le (x + x) = true := by
    rw [zero_eq]
    apply le_add_of_units hx.isFinite hx.isFinite rfl
    rw [units_zero, hx.units]
    omega
  exact exists_hasRank hnonneg
    (add_le_add hx.isFinite hx.isFinite hy.isFinite hy.isFinite hxy hxy) hfinite

end Doubles

end NoteCards.Binary64

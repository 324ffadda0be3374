import NoteCards.Proofs.Binary64.Nearest
import NoteCards.Proofs.Binary64.Order
import NoteCards.Proofs.Binary64.Whole

/-!
# Arithmetic on numbers from zero on

Products, quotients and diagonals of finite numbers that are not negative are exact magnitudes that
are rounded once (`HasRank.mul`, `HasRank.div`, `HasRank.hypot`), and rounding keeps the order
(`Rounds.le`). So each of the operations is monotone. The two zeros have the same rank: that a
factor is the negative zero can be seen in the sign of a zero only.
-/

namespace NoteCards.Binary64

variable {x y z w : Binary64}

theorem zero_eq : (0 : Binary64) = zero false := by
  have hrank : nearestRank 0 1 = 0 := by decide
  change ofRank false (nearestRank (0 * unitsPerOne) 1) = zero false
  rw [Nat.zero_mul, hrank, ofRank, dif_pos (by decide)]
  rfl

theorem key?_zero : (0 : Binary64).key? = some 0 := by
  rw [zero_eq]
  rfl

theorem le_trans (hxy : x.le y = true) (hyz : y.le z = true) : x.le z = true := by
  obtain ⟨a, b, ha, hb, hab⟩ := le_iff.1 hxy
  obtain ⟨b', c, hb', hc, hbc⟩ := le_iff.1 hyz
  cases hb.symm.trans hb'
  exact le_iff.2 ⟨a, c, ha, hc, hab.trans hbc⟩

theorem clamp_le_clamp {low high : Binary64} (hbounds : low.le high = true)
    (hxy : x.le y = true) : (clamp low high x).le (clamp low high y) = true := by
  obtain ⟨a, b, hlow, hhigh, hab⟩ := le_iff.1 hbounds
  obtain ⟨p, q, hp, hq, hpq⟩ := le_iff.1 hxy
  refine le_iff.2 ⟨_, _, key?_clamp hlow hhigh hab hp, key?_clamp hlow hhigh hab hq, ?_⟩
  omega

/-! ### Ranks of numbers -/

/-- The number is finite and not negative, and this is its rank. -/
def HasRank (x : Binary64) (rank : Fin topRank) : Prop :=
  x.key? = some (rank.val : ℤ)

/-- The number is what a magnitude is rounded to. -/
def Rounds (x : Binary64) (units : ℝ) : Prop :=
  ∃ rank, IsNearest units rank ∧ x.key? = some ((min rank topRank : ℕ) : ℤ)

theorem Rounds.le {units others : ℝ} (hx : x.Rounds units) (hy : y.Rounds others)
    (hle : units ≤ others) : x.le y = true := by
  obtain ⟨r, hr, hx⟩ := hx
  obtain ⟨s, hs, hy⟩ := hy
  have hrank := hr.le hs hle
  exact le_iff.2 ⟨_, _, hx, hy, by omega⟩

theorem Rounds.nonneg {units : ℝ} (hx : x.Rounds units) : (0 : Binary64).le x = true := by
  obtain ⟨rank, -, hx⟩ := hx
  exact le_iff.2 ⟨_, _, key?_zero, hx, Int.natCast_nonneg _⟩

theorem exists_hasRank (hx : (0 : Binary64).le x = true) (hxy : x.le y = true)
    (hy : y.isFinite = true) : ∃ rank, x.HasRank rank := by
  obtain ⟨low, a, hlow, ha, hnonneg⟩ := le_iff.1 hx
  obtain ⟨a', b, ha', hb, hab⟩ := le_iff.1 hxy
  obtain ⟨place, hplace, -, hbound⟩ := isFinite_iff.1 hy
  cases ha.symm.trans ha'
  cases key?_zero.symm.trans hlow
  cases hb.symm.trans hplace
  exact ⟨⟨a.toNat, by omega⟩, ha.trans (congrArg some (Int.toNat_of_nonneg hnonneg).symm)⟩

theorem exists_hasRank_self (hx : (0 : Binary64).le x = true) (hfinite : x.isFinite = true) :
    ∃ rank, x.HasRank rank :=
  exists_hasRank hx (Binary64.le_refl hfinite) hfinite

theorem hasRank_numeral (hx : ((0 : Binary64).le x && x.isFinite) = true) :
    ∃ rank, x.HasRank rank := by
  obtain ⟨hnonneg, hfinite⟩ := Bool.and_eq_true_iff.1 hx
  exact exists_hasRank_self hnonneg hfinite

theorem hasRank_positive (hx : ((0 : Binary64).lt x && x.isFinite) = true) :
    ∃ rank, x.HasRank rank ∧ rank.val ≠ 0 := by
  obtain ⟨hpositive, hfinite⟩ := Bool.and_eq_true_iff.1 hx
  obtain ⟨rank, hrank⟩ := exists_hasRank_self (le_of_lt hpositive) hfinite
  rw [lt_of_key? key?_zero hrank, decide_eq_true_eq] at hpositive
  exact ⟨rank, hrank, by omega⟩

section Ranks

variable {r s : Fin topRank}

theorem HasRank.exists_sign (hx : x.HasRank r) :
    ∃ negative, x = .finite negative r ∧ (negative = true → magnitude r = 0) := by
  match x with
  | .infinite true =>
    have hkey : -(topRank : ℤ) = r.val := Option.some.inj hx
    have : 0 < topRank := by decide
    omega
  | .infinite false =>
    have hkey : (topRank : ℤ) = r.val := Option.some.inj hx
    have := r.isLt
    omega
  | .finite false rank =>
    have hkey : (rank.val : ℤ) = r.val := Option.some.inj hx
    exact ⟨false, congrArg _ (Fin.ext (by omega)), nofun⟩
  | .finite true rank =>
    have hkey : -(rank.val : ℤ) = r.val := Option.some.inj hx
    have hzero : r.val = 0 := by omega
    refine ⟨true, congrArg _ (Fin.ext (by omega)), fun _ => ?_⟩
    rw [hzero, magnitude_zero]

theorem HasRank.le_iff (hx : x.HasRank r) (hy : y.HasRank s) : x.le y = true ↔ r ≤ s := by
  rw [le_of_key? hx hy, decide_eq_true_eq, Nat.cast_le, Fin.le_def]

theorem hasRank_zero : (0 : Binary64).HasRank ⟨0, by decide⟩ :=
  key?_zero

theorem HasRank.isFinite (hx : x.HasRank r) : x.isFinite = true := by
  obtain ⟨negative, rfl, -⟩ := hx.exists_sign
  rfl

theorem HasRank.rounds (hx : x.HasRank r) : x.Rounds (magnitude r) :=
  ⟨r, .self r, by rw [Nat.min_eq_left r.isLt.le]; exact hx⟩

/-- A magnitude of a finite number is rounded to that number. -/
theorem Rounds.hasRank (hx : x.Rounds (magnitude r)) : x.HasRank r := by
  obtain ⟨rank, hnearest, hx⟩ := hx
  rw [hnearest.unique (.self r), Nat.min_eq_left r.isLt.le] at hx
  exact hx

theorem key?_ofRank (negative : Bool) (rank : ℕ) :
    (ofRank negative rank).key? =
      some (if negative then -((min rank topRank : ℕ) : ℤ) else (min rank topRank : ℕ)) := by
  by_cases hfinite : rank < topRank
  · rw [ofRank, dif_pos hfinite, Nat.min_eq_left hfinite.le]
    rfl
  · rw [ofRank, dif_neg hfinite, Nat.min_eq_right (Nat.le_of_not_lt hfinite)]
    rfl

theorem hasRank_ofRank {rank : ℕ} (hrank : rank < topRank) :
    (ofRank false rank).HasRank ⟨rank, hrank⟩ := by
  rw [ofRank, dif_pos hrank]
  rfl

/-- A sign that is not positive is that of a zero, and does not show in the order. -/
theorem rounds_ofQuotient {negative : Bool} {num den : ℕ} (hden : 0 < den)
    (hsign : negative = true → num = 0) : (ofQuotient negative num den).Rounds (num / den) := by
  refine ⟨_, isNearest_nearestRank num hden, ?_⟩
  rw [ofQuotient, key?_ofRank]
  cases negative with
  | false => rfl
  | true =>
    have hzero : IsNearest ((0 : ℕ) / den) 0 := by
      have hself := IsNearest.self 0
      rw [magnitude_zero] at hself
      rwa [Nat.cast_zero, zero_div, ← Nat.cast_zero]
    rw [hsign rfl, (isNearest_nearestRank 0 hden).unique hzero]
    rfl

theorem mul_finite (a b : Bool) (r s : Fin topRank) :
    .finite a r * .finite b s = ofQuotient (a != b) (magnitude r * magnitude s) unitsPerOne := by
  change mul _ _ = _
  rw [mul]

protected theorem mul_comm (x y : Binary64) : x * y = y * x := by
  change mul x y = mul y x
  cases x <;> cases y <;> simp only [mul, bne_comm, Nat.mul_comm]

theorem div_finite (a b : Bool) (r : Fin topRank) (hs : s.val ≠ 0) :
    .finite a r / .finite b s = ofQuotient (a != b) (magnitude r * unitsPerOne) (magnitude s) := by
  change div _ _ = _
  rw [div, if_neg hs]

theorem add_finite (a b : Bool) (r s : Fin topRank) :
    Binary64.finite a r + .finite b s =
      if signedUnits a r + signedUnits b s = 0 then zero (a && b)
      else ofQuotient (signedUnits a r + signedUnits b s < 0)
        (signedUnits a r + signedUnits b s).natAbs 1 := by
  change add _ _ = _
  rw [add]

theorem sub_finite (a b : Bool) (r s : Fin topRank) :
    Binary64.finite a r - .finite b s =
      if signedUnits a r + signedUnits (!b) s = 0 then zero (a && !b)
      else ofQuotient (signedUnits a r + signedUnits (!b) s < 0)
        (signedUnits a r + signedUnits (!b) s).natAbs 1 := by
  change Binary64.finite a r + .finite (!b) s = _
  exact add_finite a (!b) r s

theorem HasRank.mul (hx : x.HasRank r) (hy : y.HasRank s) :
    (x * y).Rounds (magnitude r * magnitude s / unitsPerOne) := by
  obtain ⟨a, rfl, ha⟩ := hx.exists_sign
  obtain ⟨b, rfl, hb⟩ := hy.exists_sign
  rw [mul_finite, ← Nat.cast_mul]
  refine rounds_ofQuotient unitsPerOne_pos fun hsign => ?_
  cases a with
  | true => rw [ha rfl, Nat.zero_mul]
  | false =>
    cases b with
    | true => rw [hb rfl, Nat.mul_zero]
    | false => exact nomatch hsign

theorem HasRank.mul_of_magnitude_eq_zero (hx : x.HasRank r) (hy : y.HasRank s)
    (hzero : magnitude r = 0) : (x * y).HasRank r := by
  have hproduct := hx.mul hy
  have hunits : (magnitude r * magnitude s / unitsPerOne : ℝ) = magnitude r := by
    rw [hzero, Nat.cast_zero, zero_mul, zero_div]
  rw [hunits] at hproduct
  exact hproduct.hasRank

theorem HasRank.div (hx : x.HasRank r) (hy : y.HasRank s) (hs : s.val ≠ 0) :
    (x / y).Rounds (magnitude r * unitsPerOne / magnitude s) := by
  have hpos : 0 < magnitude s := by
    rw [← magnitude_zero]
    exact magnitude_strictMono (Nat.pos_of_ne_zero hs)
  obtain ⟨a, rfl, ha⟩ := hx.exists_sign
  obtain ⟨b, rfl, hb⟩ := hy.exists_sign
  rw [div_finite a b r hs, ← Nat.cast_mul]
  refine rounds_ofQuotient hpos fun hsign => ?_
  cases a with
  | true => rw [ha rfl, Nat.zero_mul]
  | false =>
    cases b with
    | true => exact absurd (hb rfl) hpos.ne'
    | false => exact nomatch hsign

theorem rounds_ofSquare (square : ℕ) : (ofSquare square).Rounds √square :=
  ⟨nearestRootRank square, isNearest_nearestRootRank square, key?_ofRank false _⟩

theorem hypot_finite (a b : Bool) (r s : Fin topRank) :
    (Binary64.finite a r).hypot (.finite b s) =
      ofSquare (magnitude r * magnitude r + magnitude s * magnitude s) := by
  rw [Binary64.hypot]

theorem HasRank.hypot (hx : x.HasRank r) (hy : y.HasRank s) :
    (x.hypot y).Rounds √(magnitude r * magnitude r + magnitude s * magnitude s : ℕ) := by
  obtain ⟨a, rfl, -⟩ := hx.exists_sign
  obtain ⟨b, rfl, -⟩ := hy.exists_sign
  rw [hypot_finite]
  exact rounds_ofSquare _

end Ranks

/-! ### Monotone operations -/

section Monotone

variable {r s t u : Fin topRank}

theorem HasRank.mul_le_mul (hx : x.HasRank r) (hy : y.HasRank s) (hz : z.HasRank t)
    (hw : w.HasRank u) (hxz : x.le z = true) (hyw : y.le w = true) :
    (x * y).le (z * w) = true := by
  have hfirst : (magnitude r : ℝ) ≤ magnitude t :=
    magnitude_strictMono_real.monotone ((hx.le_iff hz).1 hxz)
  have hsecond : (magnitude s : ℝ) ≤ magnitude u :=
    magnitude_strictMono_real.monotone ((hy.le_iff hw).1 hyw)
  have hproduct : (magnitude r * magnitude s : ℝ) ≤ magnitude t * magnitude u := by gcongr
  exact (hx.mul hy).le (hz.mul hw) (div_le_div_of_nonneg_right hproduct (Nat.cast_nonneg _))

theorem mul_le_mul_of_le (hx : x.HasRank r) (hy : y.HasRank s) (hz : z.HasRank t)
    (hxy : x.le y = true) : (x * z).le (y * z) = true :=
  hx.mul_le_mul hz hy hz hxy ((hz.le_iff hz).2 le_rfl)

theorem div_le_div_of_le (hx : x.HasRank r) (hy : y.HasRank s) (hz : z.HasRank t)
    (ht : t.val ≠ 0) (hxy : x.le y = true) : (x / z).le (y / z) = true := by
  have hunits : (magnitude r : ℝ) ≤ magnitude s :=
    magnitude_strictMono_real.monotone ((hx.le_iff hy).1 hxy)
  refine (hx.div hz ht).le (hy.div hz ht) ?_
  exact div_le_div_of_nonneg_right (mul_le_mul_of_nonneg_right hunits (Nat.cast_nonneg _))
    (Nat.cast_nonneg _)

theorem hypot_le_hypot (hx : x.HasRank r) (hy : y.HasRank s) (hz : z.HasRank t)
    (hw : w.HasRank u) (hxz : x.le z = true) (hyw : y.le w = true) :
    (x.hypot y).le (z.hypot w) = true := by
  have hfirst := magnitude_strictMono.monotone ((hx.le_iff hz).1 hxz)
  have hsecond := magnitude_strictMono.monotone ((hy.le_iff hw).1 hyw)
  refine (hx.hypot hy).le (hz.hypot hw) (Real.sqrt_le_sqrt (Nat.cast_le.2 ?_))
  exact Nat.add_le_add (Nat.mul_le_mul hfirst hfirst) (Nat.mul_le_mul hsecond hsecond)

theorem le_hypot_left (hx : x.HasRank r) (hy : y.HasRank s) : x.le (x.hypot y) = true := by
  refine hx.rounds.le (hx.hypot hy) (Real.le_sqrt_of_sq_le ?_)
  rw [← Nat.cast_pow, Nat.cast_le, sq]
  exact Nat.le_add_right _ _

theorem le_hypot_right (hx : x.HasRank r) (hy : y.HasRank s) : y.le (x.hypot y) = true := by
  refine hy.rounds.le (hx.hypot hy) (Real.le_sqrt_of_sq_le ?_)
  rw [← Nat.cast_pow, Nat.cast_le, sq]
  exact Nat.le_add_left _ _

theorem ofNat_le_ofNat {n m : ℕ} (hle : n ≤ m) : (ofNat n).le (ofNat m) = true := by
  have hrounds : ∀ k, (ofNat k).Rounds ((k * unitsPerOne : ℕ) / (1 : ℕ)) :=
    fun k => rounds_ofQuotient Nat.one_pos nofun
  refine (hrounds n).le (hrounds m) ?_
  gcongr

theorem exists_hasRank_ofNat {n m : ℕ} (hle : n ≤ m) (hfinite : (ofNat m).isFinite = true) :
    ∃ rank, (ofNat n).HasRank rank :=
  exists_hasRank (ofNat_le_ofNat (Nat.zero_le n)) (ofNat_le_ofNat hle) hfinite

theorem nearestRank_magnitude (rank : ℕ) : nearestRank (magnitude rank) 1 = rank := by
  have hnearest := isNearest_nearestRank (magnitude rank) Nat.one_pos
  rw [Nat.cast_one, div_one] at hnearest
  exact hnearest.unique (.self rank)

/-- Counting downwards from zero is exact, and gives the positive zero for either zero. -/
theorem zero_sub (hx : x.HasRank r) :
    0 - x = if r.val = 0 then zero false else .finite true r := by
  obtain ⟨negative, rfl, hsign⟩ := hx.exists_sign
  rw [zero_eq, zero, sub_finite, signedUnits, magnitude_zero, if_neg Bool.false_ne_true,
    Nat.cast_zero, Int.zero_add, signedUnits]
  by_cases hr : r.val = 0
  · rw [if_pos hr, hr, magnitude_zero]
    cases negative <;> rfl
  · have hpos : 0 < magnitude r := by
      rw [← magnitude_zero]
      exact magnitude_strictMono (Nat.pos_of_ne_zero hr)
    cases negative with
    | true => exact absurd (hsign rfl) hpos.ne'
    | false =>
      rw [if_pos Bool.not_false, if_neg (by omega), if_neg hr, Int.natAbs_neg, Int.natAbs_natCast,
        ofQuotient, nearestRank_magnitude, decide_eq_true (by omega), ofRank, dif_pos r.isLt]

theorem zero_sub_ne (hx : x.HasRank r) : 0 - x ≠ zero true := by
  rw [zero_sub hx]
  by_cases hr : r.val = 0
  · rw [if_pos hr]
    decide
  · rw [if_neg hr]
    intro hzero
    rw [zero, finite.injEq] at hzero
    exact hr (congrArg Fin.val hzero.2)

theorem key?_zero_sub (hx : x.HasRank r) : (0 - x).key? = some (-(r.val : ℤ)) := by
  rw [zero_sub hx]
  by_cases hr : r.val = 0
  · rw [if_pos hr, hr]
    rfl
  · rw [if_neg hr]
    rfl

theorem zero_sub_le_zero_sub (hx : x.HasRank r) (hy : y.HasRank s) (hxy : x.le y = true) :
    (0 - y).le (0 - x) = true := by
  have hrank := (hx.le_iff hy).1 hxy
  exact le_iff.2 ⟨_, _, key?_zero_sub hy, key?_zero_sub hx, by omega⟩

/-! ### Numbers up to one, and from one on -/

theorem exists_hasRank_whole {n : ℕ} (hpos : 0 < n) (hbound : n < 2 ^ 53) :
    ∃ rank : Fin topRank, (ofNat n).HasRank rank ∧ magnitude rank = n * unitsPerOne ∧
      rank.val ≠ 0 := by
  obtain ⟨rank, hn, hunits⟩ := ofNat_eq_finite hbound
  refine ⟨rank, congrArg key? hn, hunits, fun hzero => ?_⟩
  rw [hzero, magnitude_zero] at hunits
  exact (Nat.mul_pos hpos unitsPerOne_pos).ne hunits

theorem exists_hasRank_one :
    ∃ rank : Fin topRank, (1 : Binary64).HasRank rank ∧ magnitude rank = unitsPerOne := by
  obtain ⟨rank, hrank, hunits, -⟩ := exists_hasRank_whole Nat.one_pos (by decide)
  exact ⟨rank, hrank, hunits.trans (Nat.one_mul _)⟩

theorem mul_le_of_le_one (hx : x.HasRank r) (hz : z.HasRank t) (hone : x.le 1 = true) :
    (x * z).le z = true := by
  obtain ⟨one, hrank, hunits⟩ := exists_hasRank_one
  have hle : magnitude r ≤ unitsPerOne := by
    rw [← hunits]
    exact magnitude_strictMono.monotone ((hx.le_iff hrank).1 hone)
  have hpos : (0 : ℝ) < unitsPerOne := by exact_mod_cast unitsPerOne_pos
  apply (hx.mul hz).le hz.rounds
  rw [div_le_iff₀ hpos, mul_comm]
  exact mul_le_mul_of_nonneg_left (Nat.cast_le.2 hle) (Nat.cast_nonneg _)

theorem exists_hasRank_mul (hx : x.HasRank r) (hz : z.HasRank t) (hone : x.le 1 = true) :
    ∃ rank, (x * z).HasRank rank :=
  exists_hasRank (hx.mul hz).nonneg (mul_le_of_le_one hx hz hone) hz.isFinite

theorem div_le_one (hx : x.HasRank r) (hz : z.HasRank t) (ht : t.val ≠ 0) (hxz : x.le z = true) :
    (x / z).le 1 = true := by
  obtain ⟨one, hrank, hunits⟩ := exists_hasRank_one
  have hone := hrank.rounds
  rw [hunits] at hone
  have hle : (magnitude r : ℝ) ≤ magnitude t :=
    magnitude_strictMono_real.monotone ((hx.le_iff hz).1 hxz)
  apply (hx.div hz ht).le hone
  apply div_le_of_le_mul₀ (Nat.cast_nonneg _) (Nat.cast_nonneg _)
  rw [mul_comm]
  exact mul_le_mul_of_nonneg_left hle (Nat.cast_nonneg _)

theorem nearestRank_le {num den rank : ℕ} (hden : 0 < den) (hle : num ≤ magnitude rank * den) :
    nearestRank num den ≤ rank := by
  have hdenR : (0 : ℝ) < den := by exact_mod_cast hden
  apply (isNearest_nearestRank num hden).le (.self rank)
  rw [div_le_iff₀ hdenR]
  exact_mod_cast hle

theorem HasRank.unitsPerOne_le (hz : z.HasRank t) (hone : (1 : Binary64).le z = true) :
    unitsPerOne ≤ magnitude t ∧ t.val ≠ 0 := by
  obtain ⟨one, hrank, hunits⟩ := exists_hasRank_one
  have hle : unitsPerOne ≤ magnitude t := by
    rw [← hunits]
    exact magnitude_strictMono.monotone ((hrank.le_iff hz).1 hone)
  refine ⟨hle, fun hzero => ?_⟩
  rw [hzero, magnitude_zero] at hle
  exact unitsPerOne_pos.not_ge hle

theorem div_le_of_one_le (hx : x.HasRank r) (hz : z.HasRank t) (hone : (1 : Binary64).le z = true) :
    (x / z).le x = true := by
  obtain ⟨hle, ht⟩ := hz.unitsPerOne_le hone
  apply (hx.div hz ht).le hx.rounds
  apply div_le_of_le_mul₀ (Nat.cast_nonneg _) (Nat.cast_nonneg _)
  exact mul_le_mul_of_nonneg_left (Nat.cast_le.2 hle) (Nat.cast_nonneg _)

/-- A quotient by a number of at least one has no greater magnitude, so it stays finite. -/
theorem isFinite_div_of_one_le (hx : x.isFinite = true) (hz : z.HasRank t)
    (hone : (1 : Binary64).le z = true) : (x / z).isFinite = true := by
  obtain ⟨hle, ht⟩ := hz.unitsPerOne_le hone
  obtain ⟨b, rfl, -⟩ := hz.exists_sign
  match x, hx with
  | .finite a r, _ =>
    have hquotient : nearestRank (magnitude r * unitsPerOne) (magnitude t) ≤ r :=
      nearestRank_le (unitsPerOne_pos.trans_le hle) (Nat.mul_le_mul_left _ hle)
    rw [div_finite a b r ht, ofQuotient, ofRank, dif_pos (hquotient.trans_lt r.isLt)]
    rfl

theorem exists_two : ∃ rank : Fin topRank, (2 : Binary64).HasRank rank ∧ rank.val ≠ 0 := by
  obtain ⟨rank, hrank, -, hpositive⟩ := exists_hasRank_whole Nat.two_pos (by decide)
  exact ⟨rank, hrank, hpositive⟩

protected theorem one_le_two : (1 : Binary64).le 2 = true :=
  ofNat_le_ofNat Nat.one_le_ofNat

theorem isFinite_half (hx : x.isFinite = true) : (x / 2).isFinite = true := by
  obtain ⟨two, htwo, -⟩ := exists_two
  exact isFinite_div_of_one_le hx htwo Binary64.one_le_two

theorem exists_hasRank_half (hx : x.HasRank r) : ∃ rank, (x / 2).HasRank rank := by
  obtain ⟨two, htwo, hpositive⟩ := exists_two
  exact exists_hasRank_self (hx.div htwo hpositive).nonneg (isFinite_half hx.isFinite)

theorem half_le_half (hx : x.HasRank r) (hy : y.HasRank s) (hxy : x.le y = true) :
    (x / 2).le (y / 2) = true := by
  obtain ⟨two, htwo, hpositive⟩ := exists_two
  exact div_le_div_of_le hx hy htwo hpositive hxy

theorem half_le_self (hx : x.HasRank r) : (x / 2).le x = true := by
  obtain ⟨two, htwo, -⟩ := exists_two
  exact div_le_of_one_le hx htwo Binary64.one_le_two

theorem max_eq_left (hxy : y.le x = true) : x.max y = x := by
  obtain ⟨a, b, hy, hx, hab⟩ := le_iff.1 hxy
  have hnumber : x.isNaN = false := by
    cases x with
    | nan => exact nomatch hx
    | infinite negative | finite negative rank => rfl
  rw [Binary64.max, hnumber, lt_of_key? hx hy, if_neg Bool.false_ne_true,
    if_neg (by simpa using hab)]

theorem max_zero (x : Binary64) : x.max 0 = if (0 : Binary64).le x then x else 0 := by
  by_cases hx : (0 : Binary64).le x = true
  · rw [max_eq_left hx, if_pos hx]
  · rw [if_neg hx, Binary64.max]
    by_cases hnan : x = .nan
    · rw [hnan]
      rfl
    · obtain ⟨place, hplace⟩ := exists_key? hnan
      rw [le_of_key? key?_zero hplace, decide_eq_true_eq] at hx
      rw [lt_of_key? hplace key?_zero, decide_eq_true (by omega), if_pos rfl, ite_self]

/-- What is not a number counts as zero here. -/
theorem max_zero_between (hy : (0 : Binary64).le y = true) (hxy : x = .nan ∨ x.le y = true) :
    (0 : Binary64).le (x.max 0) = true ∧ (x.max 0).le y = true := by
  rw [max_zero]
  by_cases hx : (0 : Binary64).le x = true
  · rw [if_pos hx]
    rcases hxy with rfl | hxy
    · exact nomatch hx
    · exact ⟨hx, hxy⟩
  · rw [if_neg hx]
    exact ⟨hasRank_zero.rounds.nonneg, hy⟩

end Monotone

end NoteCards.Binary64

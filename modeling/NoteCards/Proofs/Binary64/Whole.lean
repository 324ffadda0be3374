import Mathlib.Data.Rat.Floor
import Mathlib.Tactic.FieldSimp
import Mathlib.Tactic.Linarith
import NoteCards.Binary64.Arithmetic
import NoteCards.Proofs.Binary64.Magnitude
import NoteCards.Proofs.Binary64.Order

/-!
# Whole numbers

A whole number below `2 ^ 53` is a number of the format (`ofNat_eq_finite`), and so going there and
back, by rounding or by cutting off the fraction, gives it back. Rounding keeps the order, and so it
can be done before or after a number is pulled between whole bounds (`roundInto_clamp`). The number
that rounding finds is described by the value of a number as a fraction: it is the nearest one, of
two the one farther from zero (`roundInto_eq_nearestCount`).
-/

namespace NoteCards.Binary64

theorem exists_unitsPerOne_eq : ∃ exponent ≤ 1074, unitsPerOne = 2 ^ exponent := by
  -- stated for a variable: with the numeral in place the power would be computed
  have hshift : ∀ exponent : Nat, 1 <<< exponent = 2 ^ exponent := Nat.one_shiftLeft
  exact ⟨1074, by decide, hshift 1074⟩

theorem unitsPerOne_pos : 0 < unitsPerOne := by
  obtain ⟨exponent, -, hunits⟩ := exists_unitsPerOne_eq
  rw [hunits]
  exact Nat.two_pow_pos _

section Whole

variable {n m : Nat}

theorem magnitude_nearestRank_mul_two_pow (hn : n < 2 ^ 53) (exponent : Nat) :
    magnitude (nearestRank (n * 2 ^ exponent) 1) = n * 2 ^ exponent := by
  apply magnitude_nearestRank
  have hlog : (n * 2 ^ exponent).log2 < 53 + exponent := by
    by_cases hzero : n * 2 ^ exponent = 0
    · rw [hzero, Nat.log2_zero]
      omega
    · rw [Nat.log2_lt hzero, Nat.pow_add]
      exact Nat.mul_lt_mul_of_pos_right hn (Nat.two_pow_pos _)
  have hblock : 2 ^ ((n * 2 ^ exponent).log2 - 52) ∣ 2 ^ exponent :=
    Nat.pow_dvd_pow 2 (by omega)
  exact hblock.trans (Nat.dvd_mul_left _ _)

theorem ofNat_mul_two_pow_eq_finite {shift : Nat} (hn : n < 2 ^ 53) (hshift : shift ≤ 971) :
    ∃ rank : Fin topRank, ofNat (n * 2 ^ shift) = .finite false rank ∧
      magnitude rank = n * 2 ^ shift * unitsPerOne := by
  obtain ⟨exponent, hexponent, hunits⟩ := exists_unitsPerOne_eq
  have hpower : n * 2 ^ shift * unitsPerOne = n * 2 ^ (shift + exponent) := by
    rw [hunits, Nat.mul_assoc, ← Nat.pow_add]
  have hexact := magnitude_nearestRank_mul_two_pow hn (shift + exponent)
  rw [← hpower] at hexact
  have hfinite : nearestRank (n * 2 ^ shift * unitsPerOne) 1 < topRank := by
    rw [← magnitude_strictMono.lt_iff_lt, hexact, hpower]
    exact (Nat.mul_lt_mul_of_pos_right hn (Nat.two_pow_pos _)).trans_le
      (le_magnitude_topRank (by omega))
  exact ⟨⟨_, hfinite⟩, by rw [ofNat, ofQuotient, ofRank, dif_pos hfinite], hexact⟩

theorem ofNat_eq_finite (hn : n < 2 ^ 53) :
    ∃ rank : Fin topRank, ofNat n = .finite false rank ∧ magnitude rank = n * unitsPerOne := by
  have hfinite := ofNat_mul_two_pow_eq_finite hn (Nat.zero_le 971)
  rwa [Nat.pow_zero, Nat.mul_one] at hfinite

theorem roundHalfUp_mul_unitsPerOne (n : Nat) : roundHalfUp (n * unitsPerOne) = n := by
  have hpos := unitsPerOne_pos
  have hsum : 2 * (n * unitsPerOne) + unitsPerOne = unitsPerOne + n * (2 * unitsPerOne) := by ring
  rw [roundHalfUp, hsum, Nat.add_mul_div_right _ _ (by omega), Nat.div_eq_of_lt (by omega),
    Nat.zero_add]

theorem roundInto_le (limit : Nat) (x : Binary64) : x.roundInto limit ≤ limit := by
  cases x with
  | nan => exact Nat.zero_le _
  | infinite negative => cases negative <;> simp [roundInto]
  | finite negative rank => cases negative <;> simp [roundInto]

theorem roundInto_ofNat (hn : n < 2 ^ 53) (limit : Nat) :
    (ofNat n).roundInto limit = min n limit := by
  obtain ⟨rank, hnumber, hmagnitude⟩ := ofNat_eq_finite hn
  rw [hnumber, roundInto, hmagnitude, roundHalfUp_mul_unitsPerOne, if_neg Bool.false_ne_true]

theorem truncateInto_ofNat (hn : n < 2 ^ 53) (limit : Nat) :
    (ofNat n).truncateInto limit = min n limit := by
  obtain ⟨rank, hnumber, hmagnitude⟩ := ofNat_eq_finite hn
  rw [hnumber, truncateInto, hmagnitude, Nat.mul_div_cancel _ unitsPerOne_pos,
    if_neg Bool.false_ne_true]

theorem lt_ofNat (hn : n < 2 ^ 53) (hm : m < 2 ^ 53) :
    (ofNat n).lt (ofNat m) = decide (n < m) := by
  obtain ⟨low, hlow, hlowUnits⟩ := ofNat_eq_finite hn
  obtain ⟨high, hhigh, hhighUnits⟩ := ofNat_eq_finite hm
  have hiff : low.val < high.val ↔ n < m := by
    rw [← magnitude_strictMono.lt_iff_lt, hlowUnits, hhighUnits]
    exact Nat.mul_lt_mul_right unitsPerOne_pos
  rw [hlow, hhigh, lt]
  simp [key?, hiff]

end Whole

/-! ### Rounding keeps the order

A place from zero on is a rank, or the end of the ranks; places below zero are rounded like zero. -/

section Rounding

variable {x y : Binary64}

theorem roundHalfUp_zero : roundHalfUp 0 = 0 := by
  have hexact := roundHalfUp_mul_unitsPerOne 0
  rwa [Nat.zero_mul] at hexact

theorem roundHalfUp_mono : Monotone roundHalfUp := by
  intro units others hle
  apply Nat.div_le_div_right
  omega

theorem roundInto_of_key? {place : ℤ} (hx : x.key? = some place) (limit : Nat) :
    x.roundInto limit =
      if place < topRank then min (roundHalfUp (magnitude place.toNat)) limit else limit := by
  have htop : 0 < topRank := by decide
  match x with
  | .nan => exact nomatch hx
  | .infinite false =>
    have hplace : (topRank : ℤ) = place := Option.some.inj hx
    rw [roundInto, if_neg Bool.false_ne_true, if_neg (by omega)]
  | .infinite true =>
    have hplace : -(topRank : ℤ) = place := Option.some.inj hx
    have hnone : place.toNat = 0 := by omega
    rw [roundInto, if_pos rfl, if_pos (by omega), hnone, magnitude_zero, roundHalfUp_zero,
      Nat.zero_min]
  | .finite false rank =>
    have hrank := rank.isLt
    have hplace : (rank.val : ℤ) = place := Option.some.inj hx
    have hsame : place.toNat = rank := by omega
    rw [roundInto, if_neg Bool.false_ne_true, if_pos (by omega), hsame]
  | .finite true rank =>
    have hplace : -(rank.val : ℤ) = place := Option.some.inj hx
    have hnone : place.toNat = 0 := by omega
    rw [roundInto, if_pos rfl, if_pos (by omega), hnone, magnitude_zero, roundHalfUp_zero,
      Nat.zero_min]

theorem roundInto_le_roundInto (limit : Nat) (hxy : x.le y = true) :
    x.roundInto limit ≤ y.roundInto limit := by
  obtain ⟨a, b, ha, hb, hab⟩ := le_iff.1 hxy
  by_cases hfinite : b < topRank
  · have hunits := magnitude_strictMono.monotone (Int.toNat_le_toNat hab)
    rw [roundInto_of_key? ha, roundInto_of_key? hb, if_pos (by omega), if_pos hfinite]
    exact min_le_min_right limit (roundHalfUp_mono hunits)
  · rw [roundInto_of_key? hb, if_neg hfinite]
    exact roundInto_le limit x

/-- Pulling a number between whole bounds and rounding it can change places. -/
theorem roundInto_clamp {n limit : Nat} (hn : n < 2 ^ 53) (hlimit : n ≤ limit) :
    (clamp (ofNat 0) (ofNat n) x).roundInto limit = min (x.roundInto limit) n := by
  have hzero : (ofNat 0).roundInto limit = 0 := by
    rw [roundInto_ofNat (by decide), Nat.zero_min]
  have hbound : (ofNat n).roundInto limit = n := by
    rw [roundInto_ofNat hn, Nat.min_eq_left hlimit]
  by_cases hx : x = .nan
  · subst hx
    rw [clamp_nan]
    exact (Nat.zero_min n).symm
  · rw [clamp]
    by_cases hbelow : x.lt (ofNat 0) = true
    · have hle := roundInto_le_roundInto limit (le_of_lt hbelow)
      rw [if_pos hbelow]
      omega
    · rw [if_neg hbelow]
      by_cases habove : (ofNat n).lt x = true
      · have hle := roundInto_le_roundInto limit (le_of_lt habove)
        rw [if_pos habove]
        omega
      · obtain ⟨rank, hfinite, -⟩ := ofNat_eq_finite hn
        have hnumber : ofNat n ≠ .nan := ne_nan_of_isFinite (congrArg isFinite hfinite)
        have hle := roundInto_le_roundInto limit (le_of_not_lt hx hnumber habove)
        rw [if_neg habove]
        omega

end Rounding

/-! ### The nearest whole number -/

/-- The whole number nearest to a fraction, of two the one farther from zero. -/
def nearestWhole (q : ℚ) : ℤ :=
  if q < 0 then ⌈q - 1 / 2⌉ else ⌊q + 1 / 2⌋

/-- The number of `0 … limit` nearest to what a number stands for; 0 for what is not a number. -/
def nearestCount (limit : Nat) : Binary64 → Nat
  | .nan => 0
  | .infinite negative => if negative then 0 else limit
  | .finite negative rank =>
    (min (nearestWhole (signedUnits negative rank / unitsPerOne)) limit).toNat

theorem nearestWhole_neg_le (units : Nat) :
    nearestWhole (-(units : ℚ) / unitsPerOne) ≤ 0 := by
  have hvalue : -(units : ℚ) / unitsPerOne ≤ 0 := by
    rw [neg_div, neg_nonpos]
    exact div_nonneg units.cast_nonneg unitsPerOne.cast_nonneg
  rw [nearestWhole]
  split
  · rw [Int.ceil_le]
    push_cast
    linarith
  · next hnot =>
    have hzero : -(units : ℚ) / unitsPerOne = 0 := le_antisymm hvalue (not_lt.1 hnot)
    rw [hzero]
    norm_num

theorem nearestWhole_eq_roundHalfUp (units : Nat) :
    nearestWhole ((units : ℚ) / unitsPerOne) = roundHalfUp units := by
  have hpos : (0 : ℚ) < unitsPerOne := by exact_mod_cast unitsPerOne_pos
  have hnonneg : ¬(units : ℚ) / unitsPerOne < 0 := not_lt.2 (div_nonneg units.cast_nonneg hpos.le)
  have hquotient : (units : ℚ) / unitsPerOne + 1 / 2 =
      ((2 * units + unitsPerOne : ℕ) : ℚ) / ((2 * unitsPerOne : ℕ) : ℚ) := by
    push_cast
    field_simp
  calc nearestWhole ((units : ℚ) / unitsPerOne)
      = ⌊(units : ℚ) / unitsPerOne + 1 / 2⌋ := if_neg hnonneg
    _ = ⌊((2 * units + unitsPerOne : ℕ) : ℚ) / ((2 * unitsPerOne : ℕ) : ℚ)⌋ := by rw [hquotient]
    _ = ((2 * units + unitsPerOne : ℕ) : ℤ) / ((2 * unitsPerOne : ℕ) : ℤ) :=
      Rat.floor_intCast_div_natCast _ _
    _ = roundHalfUp units := by rw [roundHalfUp, Int.natCast_ediv]

theorem roundInto_eq_nearestCount (limit : Nat) (x : Binary64) :
    x.roundInto limit = x.nearestCount limit := by
  match x with
  | .nan => rfl
  | .infinite _ => rfl
  | .finite true rank =>
    -- rounding away from zero goes below zero here, and is pulled back to it
    have hbelow := nearestWhole_neg_le (magnitude rank)
    have hunits : ((signedUnits true rank : ℤ) : ℚ) = -(magnitude rank : ℚ) := by
      simp [signedUnits]
    rw [roundInto, nearestCount, hunits, if_pos rfl]
    omega
  | .finite false rank =>
    have hunits : ((signedUnits false rank : ℤ) : ℚ) = (magnitude rank : ℚ) := by
      simp [signedUnits]
    rw [roundInto, nearestCount, hunits, nearestWhole_eq_roundHalfUp, if_neg Bool.false_ne_true]
    omega

end NoteCards.Binary64

import NoteCards.Proofs.Binary64.Monotone
import NoteCards.Proofs.Json.WrittenNumber

/-!
# Numbers read again

A written number is read with two roundings, one of its digits and one of their product or quotient
with a power of ten, so it need not come back. It does where the digits and the power are numbers of
the format (`HasFewDigits.rereads`): then nothing is lost before the last rounding, and the decimal
rounds to the number that was written.
-/

namespace NoteCards.Json

open NoteCards.Binary64

/-! ### Powers of ten -/

section Powers

variable {places : ℕ}

/-- A power of ten is a power of two times a number of the format. -/
theorem ofNat_pow_eq_finite (hplaces : places ≤ 22) :
    ∃ rank : Fin topRank, ofNat (10 ^ places) = .finite false rank ∧
      magnitude rank = 10 ^ places * unitsPerOne := by
  have hodd : 5 ^ places < 2 ^ 53 :=
    (Nat.pow_le_pow_right (by decide) hplaces).trans_lt (by decide)
  have hpower : 10 ^ places = 5 ^ places * 2 ^ places := Nat.mul_pow 5 2 places
  rw [hpower]
  exact ofNat_mul_two_pow_eq_finite hodd (by omega)

theorem ofDecimal_one (hplaces : places ≤ 400) :
    ofDecimal false 1 places = ofNat (10 ^ places) := by
  have hlog : Nat.log2 1 = 0 := by decide
  rw [ofDecimal, if_neg one_ne_zero, hlog]
  dsimp only
  rw [if_neg (by omega), if_neg (by omega), if_pos (by omega), Int.toNat_natCast, ofNat,
    Nat.one_mul]
  rfl

end Powers

section Exact

variable {rank : ℕ}

theorem ofQuotient_eq_finite (negative : Bool) {num den : ℕ} (hden : 0 < den)
    (hnearest : IsNearest (num / den) rank) (htop : rank < topRank) :
    ofQuotient negative num den = .finite negative ⟨rank, htop⟩ := by
  have hrank : nearestRank num den = rank := (isNearest_nearestRank num hden).unique hnearest
  rw [ofQuotient, hrank, ofRank, dif_pos htop]

/-- With digits and a power of ten that are numbers of the format, only the last rounding counts. -/
theorem scale_eq_ok {digits : ℕ} {exponent : ℤ} (hdigits : digits < 2 ^ 53)
    (hexponent : exponent.natAbs ≤ 22) (hnearest : IsNearest (decimalUnits digits exponent) rank)
    (htop : rank < topRank) :
    scale (.ofNat digits) exponent = .ok (.finite false ⟨rank, htop⟩) := by
  obtain ⟨number, hnumber, hnumberUnits⟩ := ofNat_eq_finite hdigits
  obtain ⟨power, hpower, hpowerUnits⟩ := ofNat_pow_eq_finite hexponent
  have hunits : (unitsPerOne : ℝ) ≠ 0 := by exact_mod_cast unitsPerOne_pos.ne'
  have hpositive : 0 < magnitude power := by
    rw [hpowerUnits]
    exact Nat.mul_pos (Nat.pow_pos (by decide)) unitsPerOne_pos
  rw [scale, if_pos (by omega), ofDecimal_one (by omega), hnumber, hpower]
  dsimp only
  by_cases hsign : 0 ≤ exponent
  · have hproduct : IsNearest ((magnitude number * magnitude power : ℕ) / unitsPerOne) rank := by
      have hplaces : exponent = exponent.natAbs := by omega
      rw [hplaces, decimalUnits, zpow_natCast] at hnearest
      rw [hnumberUnits, hpowerUnits]
      convert hnearest using 1
      push_cast
      field_simp
    rw [if_pos hsign, mul_finite, ofQuotient_eq_finite _ unitsPerOne_pos hproduct htop]
    rfl
  · have hne : power.val ≠ 0 := by
      intro hzero
      rw [hzero, magnitude_zero] at hpositive
      exact hpositive.false
    have hquotient : IsNearest ((magnitude number * unitsPerOne : ℕ) / magnitude power) rank := by
      have hplaces : exponent = -exponent.natAbs := by omega
      rw [hplaces, decimalUnits, zpow_neg, zpow_natCast] at hnearest
      rw [hnumberUnits, hpowerUnits]
      convert hnearest using 1
      push_cast
      field_simp
    rw [if_neg hsign, div_finite _ _ _ hne, ofQuotient_eq_finite _ hpositive hquotient htop]
    rfl

/-- The decimal that is written rounds to the number. -/
theorem isNearest_writtenDecimal (htop : rank < topRank) :
    IsNearest (decimalUnits (writtenDecimal rank).digits (writtenDecimal rank).exponent) rank := by
  by_cases hzero : rank = 0
  · subst hzero
    have hdecimal : writtenDecimal 0 = ⟨0, -1⟩ := by decide
    rw [hdecimal, decimalUnits, Nat.cast_zero, zero_mul, ← Nat.cast_zero, ← magnitude_zero]
    exact .self 0
  · obtain ⟨hnearest, -⟩ := shortest_spec .even (Nat.pos_of_ne_zero hzero) htop
    rw [writtenDecimal, if_neg hzero]
    generalize shortest .even rank = decimal at hnearest ⊢
    split
    · next hwhole =>
      -- the zero behind the point is undone by the exponent
      have hplaces : decimal.exponent = decimal.exponent.toNat := by omega
      have hunits : decimalUnits (decimal.digits * 10 ^ (decimal.exponent.toNat + 1)) (-1) =
          decimalUnits decimal.digits decimal.exponent := by
        conv_rhs => rw [hplaces]
        rw [decimalUnits, decimalUnits, zpow_natCast, zpow_neg_one]
        push_cast
        field_simp
        ring
      rwa [hunits]
    · exact hnearest

end Exact

/-! ### Numbers that come back -/

theorem signed_eq_finite_iff {negative : Bool} {rank : Fin topRank} {x : Binary64} :
    signed negative x = .finite negative rank ↔ x = .finite false rank := by
  cases negative with
  | false => exact Iff.rfl
  | true =>
    match x with
    | .nan => exact ⟨nofun, nofun⟩
    | .infinite _ => exact ⟨nofun, nofun⟩
    | .finite false _ => exact ⟨fun h => by cases h; rfl, fun h => by cases h; rfl⟩
    | .finite true _ => exact ⟨nofun, nofun⟩

/-- The sign has no part in what is lost. -/
theorem reread_eq_ok_iff {negative : Bool} {rank : Fin topRank} :
    reread negative rank = .ok (.finite negative rank) ↔
      scale (.ofNat (writtenDecimal rank).digits) (writtenDecimal rank).exponent =
        .ok (.finite false rank) := by
  rw [reread]
  cases scale (.ofNat (writtenDecimal rank).digits) (writtenDecimal rank).exponent with
  | error fault => simp [Except.map]
  | ok x =>
    change Except.ok (signed negative x) = _ ↔ _
    rw [Except.ok.injEq, Except.ok.injEq, signed_eq_finite_iff]

end NoteCards.Json

namespace NoteCards.Binary64

open NoteCards.Json

/-- The digits of the number's text, rounded to a number, and the product or quotient of that number
with its power of ten, rounded again, are the magnitude of the number. -/
def Rereads : Binary64 → Prop
  | .finite _ rank =>
    scale (.ofNat (writtenDecimal rank).digits) (writtenDecimal rank).exponent =
      .ok (.finite false rank)
  | _ => False

/-- The digits of the number's text make up a number of the format, and so does the power of ten
that scales them. -/
def HasFewDigits : Binary64 → Prop
  | .finite _ rank =>
    (writtenDecimal rank).digits < 2 ^ 53 ∧ (writtenDecimal rank).exponent.natAbs ≤ 22
  | _ => False

instance : DecidablePred HasFewDigits := fun x =>
  match x with
  | .finite _ _ => inferInstanceAs (Decidable (_ ∧ _))
  | .nan | .infinite _ => inferInstanceAs (Decidable False)

theorem HasFewDigits.rereads {x : Binary64} (hx : x.HasFewDigits) : x.Rereads := by
  match x with
  | .finite _ rank => exact scale_eq_ok hx.1 hx.2 (isNearest_writtenDecimal rank.isLt) rank.isLt

end NoteCards.Binary64

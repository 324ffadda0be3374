import NoteCards.Proofs.Json.Reread

/-!
# Written numbers are in range

The two roundings of a reader may carry a number beyond the range of the format, and then the text
is refused. No text of a number is (`exists_reread`): roundings keep the order, so it is enough that
the greatest digits of each power of ten stay in range, and of these only the few powers matter that
lead to the end of the range. The greatest number of all is a case of its own, since digits beyond
those it is written with would read as it, too, were they not refused.
-/

namespace NoteCards.Json

open NoteCards.Binary64

/-! ### Products -/

/-- The digits and the power are finite, and so is their product. -/
def Fits (digits power : ℕ) : Prop :=
  (ofNat digits).isFinite = true ∧ (ofNat power).isFinite = true ∧
    (ofNat digits * ofNat power).isFinite = true

instance (digits power : ℕ) : Decidable (Fits digits power) :=
  inferInstanceAs (Decidable (_ ∧ _ ∧ _))

theorem Fits.mono {digits fewer power lower : ℕ} (hfits : Fits digits power)
    (hdigits : fewer ≤ digits) (hpower : lower ≤ power) :
    (ofNat fewer * ofNat lower).isFinite = true := by
  obtain ⟨hfirst, hsecond, hproduct⟩ := hfits
  obtain ⟨r, hr⟩ := exists_hasRank_ofNat hdigits hfirst
  obtain ⟨s, hs⟩ := exists_hasRank_ofNat hpower hsecond
  obtain ⟨t, ht⟩ := exists_hasRank_ofNat (le_refl digits) hfirst
  obtain ⟨u, hu⟩ := exists_hasRank_ofNat (le_refl power) hsecond
  have hle : (ofNat fewer * ofNat lower).le (ofNat digits * ofNat power) = true :=
    hr.mul_le_mul hs ht hu (ofNat_le_ofNat hdigits) (ofNat_le_ofNat hpower)
  obtain ⟨rank, hrank⟩ := exists_hasRank (hr.mul hs).nonneg hle hproduct
  obtain ⟨negative, hfinite, -⟩ := hrank.exists_sign
  rw [hfinite]
  rfl

/-! ### Numbers below the greatest -/

/-- Twice the magnitudes below which numbers other than the greatest one are the nearest. -/
def twiceBound : ℕ := magnitude (topRank - 2) + magnitude (topRank - 1)

/-- The digits that a power of ten leaves below the bound. -/
def mostDigits (power : ℕ) : ℕ := twiceBound / (2 * (power * unitsPerOne))

/-- The greatest power of ten in the range of the format. -/
def greatestPlaces : ℕ := 308

section Below

variable {digits places : ℕ}

theorem isFinite_of_few_places (hdigits : digits ≤ 10 ^ 17)
    (hplaces : places ≤ greatestPlaces - 17) :
    (ofNat digits * ofNat (10 ^ places)).isFinite = true := by
  have hfits : Fits (10 ^ 17) (10 ^ (greatestPlaces - 17)) := by decide +kernel
  exact hfits.mono hdigits (Nat.pow_le_pow_right (by decide) hplaces)

theorem places_le_of_below (hpos : 0 < digits)
    (hbelow : 2 * (digits * (10 ^ places * unitsPerOne)) ≤ twiceBound) :
    places ≤ greatestPlaces := by
  by_contra hbeyond
  have hlast : twiceBound < 2 * (10 ^ (greatestPlaces + 1) * unitsPerOne) := by decide +kernel
  have hpower : 10 ^ (greatestPlaces + 1) ≤ 10 ^ places :=
    Nat.pow_le_pow_right (by decide) (not_le.1 hbeyond)
  have hunits := calc 10 ^ (greatestPlaces + 1) * unitsPerOne ≤ 10 ^ places * unitsPerOne :=
        Nat.mul_le_mul_right _ hpower
      _ ≤ digits * (10 ^ places * unitsPerOne) := Nat.le_mul_of_pos_left _ hpos
  exact absurd hbelow (not_le.2 (hlast.trans_le (Nat.mul_le_mul_left 2 hunits)))

theorem isFinite_of_below (hpos : 0 < digits) (hdigits : digits ≤ 10 ^ 17)
    (hbelow : 2 * (digits * (10 ^ places * unitsPerOne)) ≤ twiceBound) :
    (ofNat digits * ofNat (10 ^ places)).isFinite = true := by
  by_cases hfew : places ≤ greatestPlaces - 17
  · exact isFinite_of_few_places hdigits hfew
  · have hfits : ∀ k < 17, Fits (mostDigits (10 ^ (greatestPlaces - 16 + k)))
        (10 ^ (greatestPlaces - 16 + k)) := by decide +kernel
    obtain ⟨k, rfl⟩ : ∃ k, places = greatestPlaces - 16 + k :=
      Nat.exists_eq_add_of_le (Nat.succ_le_of_lt (not_le.1 hfew))
    have hk : k < 17 := by
      have hplaces := places_le_of_below hpos hbelow
      rw [greatestPlaces] at hplaces
      omega
    refine (hfits k hk).mono ?_ le_rfl
    rw [mostDigits, Nat.le_div_iff_mul_le]
    · linarith
    · exact Nat.mul_pos Nat.two_pos (Nat.mul_pos (Nat.pow_pos (by decide)) unitsPerOne_pos)

end Below

/-! ### Texts of numbers -/

theorem exists_scale_of_neg (x : Binary64) {exponent : ℤ} (hnegative : exponent < 0) :
    ∃ y, scale x exponent = .ok y := by
  rw [scale]
  split
  · exact ⟨_, if_neg (not_le.2 hnegative)⟩
  · split
    · exact ⟨_, rfl⟩
    · rw [if_neg (not_le.2 hnegative)]
      exact exists_scale_of_neg _ (by omega)
termination_by (-exponent).toNat

theorem scale_eq_ok_of_isFinite {x : Binary64} {places : ℕ} (hplaces : places ≤ greatestPlaces)
    (hfinite : (x * ofNat (10 ^ places)).isFinite = true) :
    ∃ y, scale x places = .ok y := by
  rw [greatestPlaces] at hplaces
  rw [scale, if_pos (by omega)]
  dsimp only
  rw [if_pos (Int.natCast_nonneg places), Int.natAbs_natCast, ofDecimal_one (by omega),
    if_pos hfinite]
  exact ⟨_, rfl⟩

theorem digits_of_exponent_eq {rank places : ℕ} (htop : rank < topRank)
    (hplaces : (writtenDecimal rank).exponent = places) :
    0 < (writtenDecimal rank).digits ∧ (writtenDecimal rank).digits ≤ 10 ^ 17 := by
  by_cases hzero : rank = 0
  · subst hzero
    have hdecimal : writtenDecimal 0 = ⟨0, -1⟩ := by decide
    rw [hdecimal] at hplaces
    dsimp only at hplaces
    omega
  · obtain ⟨-, hpos, hdigits, -⟩ := shortest_spec .even (Nat.pos_of_ne_zero hzero) htop
    rw [writtenDecimal, if_neg hzero] at hplaces ⊢
    split at hplaces
    · dsimp only at hplaces
      omega
    · next hscientific =>
      rw [if_neg hscientific]
      exact ⟨hpos, hdigits⟩

/-- The digits of a number below the greatest, where they are to be multiplied. -/
theorem writtenDecimal_below {rank places : ℕ} (hrank : rank < topRank - 1)
    (hplaces : (writtenDecimal rank).exponent = places) :
    0 < (writtenDecimal rank).digits ∧ (writtenDecimal rank).digits ≤ 10 ^ 17 ∧
      2 * ((writtenDecimal rank).digits * (10 ^ places * unitsPerOne)) ≤ twiceBound := by
  have htop : rank < topRank := by omega
  have hhigh := (isNearest_writtenDecimal htop).high
  have hunits : decimalUnits (writtenDecimal rank).digits (writtenDecimal rank).exponent =
      ((writtenDecimal rank).digits * (10 ^ places * unitsPerOne) : ℕ) := by
    rw [decimalUnits, hplaces, zpow_natCast]
    push_cast
    rfl
  have hbound : magnitude rank + magnitude (rank + 1) ≤ twiceBound :=
    Nat.add_le_add (magnitude_strictMono.monotone (by omega))
      (magnitude_strictMono.monotone (by omega))
  rw [hunits] at hhigh
  have hbelow : 2 * ((writtenDecimal rank).digits * (10 ^ places * unitsPerOne)) ≤
      magnitude rank + magnitude (rank + 1) := by exact_mod_cast hhigh
  obtain ⟨hpos, hdigits⟩ := digits_of_exponent_eq htop hplaces
  exact ⟨hpos, hdigits, hbelow.trans hbound⟩

/-- **Written numbers are read.** The text of a finite number is in the range of its reader. -/
theorem exists_reread (negative : Bool) (rank : Fin topRank) :
    ∃ x, reread negative rank = .ok x := by
  suffices hscale : ∃ y,
      scale (.ofNat (writtenDecimal rank).digits) (writtenDecimal rank).exponent = .ok y by
    obtain ⟨y, hy⟩ := hscale
    exact ⟨signed negative y, by rw [reread, hy]; rfl⟩
  by_cases hnegative : (writtenDecimal rank).exponent < 0
  · exact exists_scale_of_neg _ hnegative
  obtain ⟨places, hplaces⟩ := Int.eq_ofNat_of_zero_le (not_lt.1 hnegative)
  by_cases hgreatest : rank.val = topRank - 1
  · have hdecimal : writtenDecimal (topRank - 1) =
        ⟨17976931348623157, ((greatestPlaces - 16 : ℕ) : ℤ)⟩ := by decide +kernel
    have hfinite :
        (ofNat 17976931348623157 * ofNat (10 ^ (greatestPlaces - 16))).isFinite = true := by
      decide +kernel
    rw [hgreatest, hdecimal]
    exact scale_eq_ok_of_isFinite (by decide) hfinite
  · obtain ⟨hpos, hdigits, hbelow⟩ := writtenDecimal_below (by omega) hplaces
    rw [hplaces]
    exact scale_eq_ok_of_isFinite (places_le_of_below hpos hbelow)
      (isFinite_of_below hpos hdigits hbelow)

end NoteCards.Json

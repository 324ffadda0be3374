import Mathlib.Algebra.Order.Field.Power
import Mathlib.Tactic.FieldSimp
import Mathlib.Tactic.Positivity
import NoteCards.Binary64.Shortest
import NoteCards.Proofs.Binary64.Nearest
import NoteCards.Proofs.Binary64.Whole

/-!
# The shortest decimal

The test for a decimal is the test for the nearest rank (`readsBack_iff`). Seventeen digits are
always enough: neighbours differ by a part in `2 ^ 53` at least (`magnitude_le_gap_above`,
`magnitude_le_gap_below`), points of the grid of seventeen digits by a part in `10 ^ 16` at most,
and `2 ^ 53 < 10 ^ 16`, so the nearer one of the two points around a number reads back. Hence the
search succeeds, and the decimal that it gives rounds to the number (`shortest_spec`).
-/

namespace NoteCards.Binary64

/-- The magnitude of `digits · 10^exponent`. -/
noncomputable def decimalUnits (digits : ℕ) (exponent : ℤ) : ℝ :=
  digits * ((10 : ℝ) ^ exponent * unitsPerOne)

/-! ### Gaps between neighbours -/

theorem magnitude_le_gap_above (rank : ℕ) :
    magnitude rank + 2 ^ 53 * magnitude rank ≤ 2 ^ 53 * magnitude (rank + 1) := by
  obtain ⟨block, significand, hbound, hnormal, rfl⟩ := exists_block rank
  have hnext := le_magnitude_next hbound.le hnormal
  rw [magnitude_block hbound hnormal]
  calc significand * 2 ^ block + 2 ^ 53 * (significand * 2 ^ block)
      ≤ 2 ^ 53 * 2 ^ block + 2 ^ 53 * (significand * 2 ^ block) :=
        Nat.add_le_add_right (Nat.mul_le_mul_right _ hbound.le) _
    _ = 2 ^ 53 * ((significand + 1) * 2 ^ block) := by ring
    _ ≤ 2 ^ 53 * magnitude (block * 2 ^ 52 + significand + 1) := Nat.mul_le_mul_left _ hnext

theorem magnitude_le_gap_below {rank : ℕ} (hrank : 0 < rank) :
    magnitude rank + 2 ^ 53 * magnitude (rank - 1) ≤ 2 ^ 53 * magnitude rank := by
  obtain ⟨block, significand, hbound, hnormal, hblock⟩ := exists_block (rank - 1)
  -- the number is the end of the block of its predecessor, or lies in that block
  have hself : magnitude rank = (significand + 1) * 2 ^ block := by
    have hsucc : rank = block * 2 ^ 52 + (significand + 1) := by omega
    rw [hsucc, magnitude_block_of_le hbound (by omega)]
  rw [hself, hblock, magnitude_block hbound hnormal]
  calc (significand + 1) * 2 ^ block + 2 ^ 53 * (significand * 2 ^ block)
      ≤ 2 ^ 53 * 2 ^ block + 2 ^ 53 * (significand * 2 ^ block) :=
        Nat.add_le_add_right (Nat.mul_le_mul_right _ hbound) _
    _ = 2 ^ 53 * ((significand + 1) * 2 ^ block) := by ring

/-! ### Grids -/

/-- The two halves of the test, whose bounds belong to the numbers of even rank. -/
theorem isNearest_iff {units : ℝ} {rank : ℕ} :
    IsNearest units rank ↔
      if rank % 2 = 0 then
        (magnitude (rank - 1) + magnitude rank : ℝ) ≤ 2 * units ∧
          2 * units ≤ (magnitude rank + magnitude (rank + 1) : ℝ)
      else
        (magnitude (rank - 1) + magnitude rank : ℝ) < 2 * units ∧
          2 * units < (magnitude rank + magnitude (rank + 1) : ℝ) := by
  split
  · next heven =>
    exact ⟨fun hnearest => ⟨hnearest.low, hnearest.high⟩,
      fun ⟨hlow, hhigh⟩ => ⟨hlow, hhigh, fun _ => heven, fun _ => heven⟩⟩
  · next hodd =>
    constructor
    · intro hnearest
      exact ⟨hnearest.low.lt_of_ne fun hsame => hodd (hnearest.even_low hsame),
        hnearest.high.lt_of_ne fun hsame => hodd (hnearest.even_high hsame)⟩
    · rintro ⟨hlow, hhigh⟩
      exact ⟨hlow.le, hhigh.le, fun hsame => absurd hsame hlow.ne,
        fun hsame => absurd hsame hhigh.ne⟩

section Grid

variable {rank digits : ℕ} {exponent : ℤ}

theorem gridUnit_pos (exponent : ℤ) : (0 : ℝ) < (10 : ℝ) ^ exponent * unitsPerOne := by
  have hunits : (0 : ℝ) < unitsPerOne := by exact_mod_cast unitsPerOne_pos
  positivity

theorem onGrid_den (units others : ℕ) (exponent : ℤ) :
    (onGrid units exponent).2 = (onGrid others exponent).2 := by
  rw [onGrid, onGrid]
  split <;> rfl

theorem onGrid_den_pos (units : ℕ) (exponent : ℤ) : 0 < (onGrid units exponent).2 := by
  rw [onGrid]
  split
  · exact Nat.mul_pos unitsPerOne_pos (Nat.pow_pos (by decide))
  · exact unitsPerOne_pos

theorem onGrid_num (units : ℕ) (exponent : ℤ) :
    ((onGrid units exponent).1 : ℝ) * ((10 : ℝ) ^ exponent * unitsPerOne) =
      units * (onGrid units exponent).2 := by
  rw [onGrid]
  split
  · next hexponent =>
    obtain ⟨power, rfl⟩ := Int.eq_ofNat_of_zero_le hexponent
    change (units : ℝ) * _ = units * ((unitsPerOne * 10 ^ power : ℕ) : ℝ)
    push_cast
    rw [zpow_natCast]
    ring
  · next hexponent =>
    obtain ⟨power, hpower⟩ := Int.eq_ofNat_of_zero_le (by omega : 0 ≤ -exponent)
    have hnegative : exponent = -(power : ℤ) := by omega
    subst hnegative
    change ((units * 10 ^ (- -(power : ℤ)).toNat : ℕ) : ℝ) * _ = _
    rw [neg_neg, Int.toNat_natCast, zpow_neg, zpow_natCast]
    push_cast
    field_simp

/-- Points of a grid are compared with a magnitude as the numerators of its quotient. -/
theorem grid_compare {num den : ℕ} {units : ℝ} (hden : 0 < den)
    (hnum : (num : ℝ) * ((10 : ℝ) ^ exponent * unitsPerOne) = units * den) (point : ℕ) :
    (num ≤ point * den ↔ units ≤ decimalUnits point exponent) ∧
      (point * den ≤ num ↔ decimalUnits point exponent ≤ units) := by
  have hunit := gridUnit_pos exponent
  have hdenR : (0 : ℝ) < den := by exact_mod_cast hden
  have hpoint : ((point * den : ℕ) : ℝ) * ((10 : ℝ) ^ exponent * unitsPerOne) =
      decimalUnits point exponent * den := by
    rw [decimalUnits]
    push_cast
    ring
  constructor
  · rw [← Nat.cast_le (α := ℝ), ← mul_le_mul_iff_left₀ hunit, hnum, hpoint,
      mul_le_mul_iff_left₀ hdenR]
  · rw [← Nat.cast_le (α := ℝ), ← mul_le_mul_iff_left₀ hunit, hnum, hpoint,
      mul_le_mul_iff_left₀ hdenR]

theorem decimalUnits_two_mul (digits : ℕ) (exponent : ℤ) :
    decimalUnits (2 * digits) exponent = 2 * decimalUnits digits exponent := by
  rw [decimalUnits, decimalUnits]
  push_cast
  ring

theorem readsBack_iff :
    readsBack rank digits exponent = true ↔ IsNearest (decimalUnits digits exponent) rank := by
  have hden := onGrid_den_pos (magnitude (rank - 1) + magnitude rank) exponent
  have hlow := onGrid_num (magnitude (rank - 1) + magnitude rank) exponent
  have hhigh := onGrid_num (magnitude rank + magnitude (rank + 1)) exponent
  rw [onGrid_den _ (magnitude (rank - 1) + magnitude rank)] at hhigh
  rw [readsBack, isNearest_iff]
  generalize onGrid (magnitude (rank - 1) + magnitude rank) exponent = below at hlow hhigh hden ⊢
  generalize onGrid (magnitude rank + magnitude (rank + 1)) exponent = above at hhigh ⊢
  obtain ⟨hlowle, hlowge⟩ := grid_compare hden hlow (2 * digits)
  obtain ⟨hhighle, hhighge⟩ := grid_compare hden hhigh (2 * digits)
  rw [decimalUnits_two_mul, Nat.cast_add] at hlowle hlowge hhighle hhighge
  dsimp only
  split
  · rw [Bool.and_eq_true, decide_eq_true_eq, decide_eq_true_eq, hlowle, hhighge]
  · rw [Bool.and_eq_true, decide_eq_true_eq, decide_eq_true_eq, ← not_le, ← not_le, hlowge, hhighle,
      not_le, not_le]

/-- The points of a grid around a magnitude. -/
theorem grid_floor (units : ℕ) (exponent : ℤ) :
    decimalUnits ((onGrid units exponent).1 / (onGrid units exponent).2) exponent ≤ units ∧
      units <
        decimalUnits ((onGrid units exponent).1 / (onGrid units exponent).2 + 1) exponent := by
  have hden := onGrid_den_pos units exponent
  have hnum := onGrid_num units exponent
  generalize onGrid units exponent = quotient at hden hnum ⊢
  obtain ⟨-, hfloor⟩ := grid_compare hden hnum (quotient.1 / quotient.2)
  obtain ⟨-, hceil⟩ := grid_compare hden hnum (quotient.1 / quotient.2 + 1)
  refine ⟨hfloor.1 (Nat.div_mul_le_self _ _), ?_⟩
  rw [← not_le, ← hceil, not_le, Nat.mul_comm]
  exact Nat.lt_mul_div_succ _ hden

/-- A magnitude is nearest to a rank that it misses by less than a part in `2 ^ 54`. -/
theorem isNearest_of_close {units : ℝ} (hrank : 0 < rank)
    (hbelow : 2 ^ 54 * (magnitude rank - units) < magnitude rank)
    (habove : 2 ^ 54 * (units - magnitude rank) < magnitude rank) : IsNearest units rank := by
  have hnext : (magnitude rank + 2 ^ 53 * magnitude rank : ℝ) ≤ 2 ^ 53 * magnitude (rank + 1) := by
    exact_mod_cast magnitude_le_gap_above rank
  have hprevious : (magnitude rank + 2 ^ 53 * magnitude (rank - 1) : ℝ) ≤
      2 ^ 53 * magnitude rank := by
    exact_mod_cast magnitude_le_gap_below hrank
  have hlow : (magnitude (rank - 1) + magnitude rank : ℝ) < 2 * units := by linarith
  have hhigh : 2 * units < (magnitude rank + magnitude (rank + 1) : ℝ) := by linarith
  exact ⟨hlow.le, hhigh.le, fun hsame => absurd hsame hlow.ne, fun hsame => absurd hsame hhigh.ne⟩

theorem decimalUnits_succ (digits : ℕ) (exponent : ℤ) :
    decimalUnits (digits + 1) exponent =
      decimalUnits digits exponent + decimalUnits 1 exponent := by
  rw [decimalUnits, decimalUnits, decimalUnits]
  push_cast
  ring

/-- On a grid that is fine enough one of the two points around a number reads back. -/
theorem readsBack_floor_or (hrank : 0 < rank)
    (hfine : 10 ^ 16 * decimalUnits 1 exponent ≤ magnitude rank) :
    let floor := (onGrid (magnitude rank) exponent).1 / (onGrid (magnitude rank) exponent).2
    readsBack rank floor exponent = true ∨ readsBack rank (floor + 1) exponent = true := by
  intro floor
  obtain ⟨hfloor, hceil⟩ := grid_floor (magnitude rank) exponent
  change decimalUnits floor exponent ≤ _ at hfloor
  change _ < decimalUnits (floor + 1) exponent at hceil
  have hstep : 0 < decimalUnits 1 exponent := by
    have := gridUnit_pos exponent
    rw [decimalUnits]
    push_cast
    linarith
  rw [readsBack_iff, readsBack_iff, decimalUnits_succ]
  rw [decimalUnits_succ] at hceil
  by_cases hnearer : 2 * (magnitude rank - decimalUnits floor exponent) ≤ decimalUnits 1 exponent
  · exact .inl (isNearest_of_close hrank (by linarith) (by linarith))
  · exact .inr (isNearest_of_close hrank (by linarith) (by linarith))

end Grid

/-! ### The leading digit -/

section Leading

variable {rank : ℕ}

theorem decimalUnits_one (exponent : ℤ) :
    decimalUnits 1 exponent = (10 : ℝ) ^ exponent * unitsPerOne := by
  rw [decimalUnits, Nat.cast_one, one_mul]

/-- A magnitude that was shifted by some places has digits before the point, and their number tells
the exponent of the first one. -/
theorem leading_bounds (hrank : 0 < rank) :
    ∃ places length : ℕ, places = 400 ∧ leadingExponent rank = length - places ∧
      10 ^ length * unitsPerOne ≤ magnitude rank * 10 ^ places ∧
      magnitude rank * 10 ^ places < 10 ^ (length + 1) * unitsPerOne := by
  -- a variable, since the power of the numeral would be computed
  obtain ⟨places, hplaces⟩ : ∃ places, places = 400 := ⟨_, rfl⟩
  have hleading : leadingExponent rank =
      (Nat.toDigits 10 (magnitude rank * 10 ^ places / unitsPerOne)).length - (places + 1) := by
    rw [leadingExponent, ← hplaces]
    change ((Nat.toDigits 10 (magnitude rank * 10 ^ places / unitsPerOne)).length : ℤ) - 401 = _
    omega
  have hmagnitude : 0 < magnitude rank := by
    have := magnitude_strictMono hrank
    omega
  have hshifted : unitsPerOne ≤ magnitude rank * 10 ^ places := by
    have hone : unitsPerOne ≤ 10 ^ places := by
      subst hplaces
      decide +kernel
    exact hone.trans (Nat.le_mul_of_pos_left _ hmagnitude)
  have hpos : 0 < magnitude rank * 10 ^ places / unitsPerOne :=
    Nat.div_pos hshifted unitsPerOne_pos
  have hlength := Nat.length_toDigits_pos (b := 10)
    (n := magnitude rank * 10 ^ places / unitsPerOne)
  have hdigits : ∀ k, 0 < k → _ := fun k hk => Nat.length_toDigits_le_iff (b := 10)
    (n := magnitude rank * 10 ^ places / unitsPerOne) (k := k) (by decide) hk
  generalize (Nat.toDigits 10 (magnitude rank * 10 ^ places / unitsPerOne)).length = length at *
  obtain ⟨length, rfl⟩ : ∃ shorter, length = shorter + 1 := ⟨length - 1, by omega⟩
  refine ⟨places, length, hplaces, by omega, ?_, ?_⟩
  · rw [← Nat.le_div_iff_mul_le unitsPerOne_pos]
    cases length with
    | zero => exact hpos
    | succ shorter =>
      have hlong := (hdigits (shorter + 1) (by omega)).not
      omega
  · rw [← Nat.div_lt_iff_lt_mul unitsPerOne_pos]
    exact (hdigits (length + 1) (by omega)).1 le_rfl

theorem leadingExponent_bounds (hrank : 0 < rank) :
    decimalUnits 1 (leadingExponent rank) ≤ magnitude rank ∧
      magnitude rank < decimalUnits 1 (leadingExponent rank + 1) := by
  obtain ⟨places, length, -, hleading, hlow, hhigh⟩ := leading_bounds hrank
  have hpower : ∀ k : ℕ, (10 : ℝ) ^ ((k : ℤ) - places) = 10 ^ k / 10 ^ places := by
    intro k
    rw [zpow_sub₀ (by norm_num), zpow_natCast, zpow_natCast]
  have hshift : leadingExponent rank + 1 = ((length + 1 : ℕ) : ℤ) - places := by omega
  rw [hshift, hleading, decimalUnits_one, decimalUnits_one, hpower, hpower, div_mul_eq_mul_div,
    div_mul_eq_mul_div, div_le_iff₀ (by positivity), lt_div_iff₀ (by positivity)]
  exact_mod_cast And.intro hlow hhigh

theorem leadingExponent_range (hrank : 0 < rank) (htop : rank < topRank) :
    -400 ≤ leadingExponent rank ∧ leadingExponent rank ≤ 400 := by
  obtain ⟨places, length, hplaces, hleading, hlow, -⟩ := leading_bounds hrank
  have hlength : length < 2 * places := by
    by_contra hlong
    have hgreatest : magnitude topRank * 10 ^ places ≤ 10 ^ (2 * places) * unitsPerOne := by
      subst hplaces
      decide +kernel
    have hpower : 10 ^ (2 * places) * unitsPerOne ≤ 10 ^ length * unitsPerOne :=
      Nat.mul_le_mul_right _ (Nat.pow_le_pow_right (by decide) (not_lt.1 hlong))
    have hbelow : magnitude rank * 10 ^ places < magnitude topRank * 10 ^ places :=
      Nat.mul_lt_mul_of_pos_right (magnitude_strictMono htop) (Nat.pow_pos (by decide))
    omega
  omega

end Leading

/-! ### The search -/

section Search

variable {rank : ℕ} {tie : Tie} {exponent : ℤ} {decimal : Decimal}

theorem nearestOnGrid?_eq_some (hfound : nearestOnGrid? tie rank exponent = some decimal) :
    decimal.exponent = exponent ∧ readsBack rank decimal.digits exponent = true ∧
      decimal.digits ≤
        (onGrid (magnitude rank) exponent).1 / (onGrid (magnitude rank) exponent).2 + 1 := by
  rw [nearestOnGrid?] at hfound
  generalize onGrid (magnitude rank) exponent = quotient at hfound ⊢
  dsimp only at hfound
  split at hfound
  · exact nomatch hfound
  · next hfloor _ =>
    cases hfound
    exact ⟨rfl, hfloor, Nat.le_succ _⟩
  · next _ hceil =>
    cases hfound
    exact ⟨rfl, hceil, le_rfl⟩
  · next hfloor hceil =>
    cases hfound
    refine ⟨rfl, ?_, ?_⟩
    · dsimp only
      split
      · exact hfloor
      · exact hceil
    · dsimp only
      split
      · exact Nat.le_succ _
      · exact le_rfl

theorem isSome_nearestOnGrid? (hrank : 0 < rank)
    (hfine : 10 ^ 16 * decimalUnits 1 exponent ≤ magnitude rank) :
    (nearestOnGrid? tie rank exponent).isSome = true := by
  have hor := readsBack_floor_or hrank hfine
  rw [nearestOnGrid?]
  generalize onGrid (magnitude rank) exponent = quotient at hor ⊢
  dsimp only at hor ⊢
  split
  · next hfloor hceil =>
    rw [hfloor, hceil] at hor
    exact absurd hor (by decide)
  · rfl
  · rfl
  · rfl

theorem dropZeros_spec (fuel : ℕ) (decimal : Decimal) :
    decimalUnits (decimal.dropZeros fuel).digits (decimal.dropZeros fuel).exponent =
        decimalUnits decimal.digits decimal.exponent ∧
      (0 < decimal.digits → 0 < (decimal.dropZeros fuel).digits) ∧
      (decimal.dropZeros fuel).digits ≤ decimal.digits ∧
      decimal.exponent ≤ (decimal.dropZeros fuel).exponent ∧
      (decimal.dropZeros fuel).exponent ≤ decimal.exponent + fuel := by
  induction fuel generalizing decimal with
  | zero => exact ⟨rfl, id, le_rfl, le_rfl, by rw [Decimal.dropZeros]; omega⟩
  | succ fuel ih =>
    rw [Decimal.dropZeros]
    split
    · next hzero =>
      obtain ⟨hunits, hpos, hle, hlow, hhigh⟩ := ih ⟨decimal.digits / 10, decimal.exponent + 1⟩
      dsimp only at hunits hpos hle hlow hhigh
      refine ⟨?_, fun hdigits => hpos (by omega), by omega, by omega, by push_cast; omega⟩
      have hdigits : decimal.digits = 10 * (decimal.digits / 10) := by omega
      rw [hunits, decimalUnits, decimalUnits, zpow_add_one₀ (by norm_num), hdigits,
        Nat.mul_div_cancel_left _ (by decide)]
      push_cast
      ring
    · exact ⟨rfl, id, le_rfl, le_rfl, by push_cast; omega⟩

/-- A number has at most as many digits on a grid as there are places from its leading digit on. -/
theorem floor_lt_of_leading {leading : ℤ} {more : ℕ}
    (hleading : (magnitude rank : ℝ) < decimalUnits 1 (leading + 1)) (hmore : more ≤ 16) :
    (onGrid (magnitude rank) (leading - more)).1 / (onGrid (magnitude rank) (leading - more)).2 <
      10 ^ 17 := by
  obtain ⟨hfloor, -⟩ := grid_floor (magnitude rank) (leading - more)
  generalize (onGrid (magnitude rank) (leading - more)).1 /
    (onGrid (magnitude rank) (leading - more)).2 = floor at hfloor ⊢
  have hunit := gridUnit_pos (leading - more)
  have hnext : decimalUnits 1 (leading + 1) = decimalUnits (10 ^ (more + 1)) (leading - more) := by
    have hexponent : leading + 1 = ((more + 1 : ℕ) : ℤ) + (leading - more) := by
      push_cast
      ring
    rw [hexponent, decimalUnits_one, zpow_add₀ (by norm_num), zpow_natCast, decimalUnits]
    push_cast
    ring
  have hlt := hfloor.trans_lt hleading
  rw [hnext, decimalUnits, decimalUnits, mul_lt_mul_iff_left₀ hunit] at hlt
  calc floor < 10 ^ (more + 1) := by exact_mod_cast hlt
    _ ≤ 10 ^ 17 := Nat.pow_le_pow_right (by decide) (by omega)

/-- **Shortest decimals read back.** The search for a decimal succeeds, its result is positive, has
at most seventeen digits but for a power of ten, and rounds to the number. -/
theorem shortest_spec (tie : Tie) (hrank : 0 < rank) (htop : rank < topRank) :
    IsNearest (decimalUnits (shortest tie rank).digits (shortest tie rank).exponent) rank ∧
      0 < (shortest tie rank).digits ∧ (shortest tie rank).digits ≤ 10 ^ 17 ∧
      -500 ≤ (shortest tie rank).exponent ∧ (shortest tie rank).exponent ≤ 500 := by
  obtain ⟨hlow, hhigh⟩ := leadingExponent_bounds hrank
  obtain ⟨hleast, hgreatest⟩ := leadingExponent_range hrank htop
  rw [shortest]
  generalize leadingExponent rank = leading at *
  have hshift : ∀ places : ℕ, (10 : ℝ) ^ places * decimalUnits 1 (leading - places) =
      decimalUnits 1 leading := by
    intro places
    rw [decimalUnits_one, decimalUnits_one, zpow_sub₀ (by norm_num), zpow_natCast]
    field_simp
  have hfine : 10 ^ 16 * decimalUnits 1 (leading - (16 : ℕ)) ≤ magnitude rank :=
    (hshift 16).le.trans hlow
  have hsome : ((List.range 17).findSome? fun (more : Nat) =>
      nearestOnGrid? tie rank (leading - more)).isSome := by
    rw [List.findSome?_isSome_iff]
    exact ⟨16, by simp, isSome_nearestOnGrid? hrank hfine⟩
  obtain ⟨decimal, hdecimal⟩ := Option.isSome_iff_exists.1 hsome
  obtain ⟨more, hmore, hfound⟩ := List.exists_of_findSome?_eq_some hdecimal
  have hplaces : more ≤ 16 := Nat.le_of_lt_succ (List.mem_range.1 hmore)
  obtain ⟨hexponent, hreads, hdigits⟩ := nearestOnGrid?_eq_some hfound
  obtain ⟨hunits, hpos, hle, hbelow, habove⟩ := dropZeros_spec 17 decimal
  rw [hdecimal, Option.getD_some]
  have hnearest : IsNearest (decimalUnits decimal.digits decimal.exponent) rank := by
    rw [hexponent]
    exact readsBack_iff.1 hreads
  have hdecimal_pos : 0 < decimal.digits := by
    by_contra hzero
    have hlow := hnearest.low
    rw [Nat.eq_zero_of_not_pos hzero, decimalUnits, Nat.cast_zero, zero_mul, mul_zero] at hlow
    have hmagnitude : (0 : ℝ) < magnitude rank := by
      exact_mod_cast (Nat.zero_le _).trans_lt (magnitude_strictMono hrank)
    have hprevious : (0 : ℝ) ≤ magnitude (rank - 1) := Nat.cast_nonneg _
    linarith
  have hbound : decimal.digits ≤ 10 ^ 17 :=
    hdigits.trans (floor_lt_of_leading hhigh hplaces)
  exact ⟨by rw [hunits]; exact hnearest, hpos hdecimal_pos, hle.trans hbound, by omega, by omega⟩

end Search

end NoteCards.Binary64

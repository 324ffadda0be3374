import Mathlib.Analysis.Real.Sqrt
import Mathlib.Tactic.Linarith
import Mathlib.Tactic.Ring
import NoteCards.Binary64.Arithmetic
import NoteCards.Proofs.Binary64.Magnitude

/-!
# Rounding goes to the nearest rank

A rank is nearest to a magnitude when the magnitude lies between the two points halfway to its
neighbours, the points themselves counting only for an even rank (`IsNearest`). Stated like this
rounding is monotone (`IsNearest.le`), so that at most one rank is nearest, and nothing has to be
said about blocks anymore: a quotient and a square root are rounded by the same rule
(`isNearest_nearestRank`, `isNearest_nearestRootRank`).
-/

namespace NoteCards.Binary64

theorem magnitude_strictMono_real : StrictMono fun rank => (magnitude rank : ℝ) :=
  Nat.strictMono_cast.comp magnitude_strictMono

/-- The rank whose number is nearest to a magnitude, the even one of two. -/
structure IsNearest (units : ℝ) (rank : ℕ) : Prop where
  low : (magnitude (rank - 1) + magnitude rank : ℝ) ≤ 2 * units
  high : 2 * units ≤ (magnitude rank + magnitude (rank + 1) : ℝ)
  even_low : (magnitude (rank - 1) + magnitude rank : ℝ) = 2 * units → rank % 2 = 0
  even_high : 2 * units = (magnitude rank + magnitude (rank + 1) : ℝ) → rank % 2 = 0

namespace IsNearest

variable {units others : ℝ} {rank other : ℕ}

theorem le (hrank : IsNearest units rank) (hother : IsNearest others other)
    (hle : units ≤ others) : rank ≤ other := by
  by_contra hbelow
  have hmono := magnitude_strictMono_real.monotone
  have hfirst : (magnitude other : ℝ) ≤ magnitude (rank - 1) := hmono (by omega)
  have hsecond : (magnitude (other + 1) : ℝ) ≤ magnitude rank := hmono (by omega)
  have hlow := hrank.low
  have hhigh := hother.high
  -- both lie halfway between the two ranks, which are then neighbours and both even
  have heven := hrank.even_low (by linarith)
  have hother_even := hother.even_high (by linarith)
  have hnext : (magnitude (other + 1) : ℝ) = magnitude rank := by linarith
  have := magnitude_strictMono_real.injective hnext
  omega

theorem unique (hrank : IsNearest units rank) (hother : IsNearest units other) : rank = other :=
  Nat.le_antisymm (hrank.le hother le_rfl) (hother.le hrank le_rfl)

/-- The magnitude of a rank has no nearer one. -/
theorem self (rank : ℕ) : IsNearest (magnitude rank) rank where
  low := by
    have := magnitude_strictMono_real.monotone (Nat.sub_le rank 1)
    linarith
  high := by
    have := magnitude_strictMono_real.monotone (Nat.le_succ rank)
    linarith
  even_low hhalf := by
    have hsame : (magnitude (rank - 1) : ℝ) = magnitude rank := by linarith
    have := magnitude_strictMono_real.injective hsame
    omega
  even_high hhalf := by
    have hsame : (magnitude rank : ℝ) = magnitude (rank + 1) := by linarith
    have := magnitude_strictMono_real.injective hsame
    omega

end IsNearest

/-! ### Rounding in a block -/

section Block

variable {block floor significand : ℕ} {units : ℝ}

/-- The last significand of a block is the first one of the next block. -/
theorem magnitude_block_of_le (hbound : significand ≤ 2 ^ 53)
    (hnormal : block = 0 ∨ 2 ^ 52 ≤ significand) :
    magnitude (block * 2 ^ 52 + significand) = significand * 2 ^ block := by
  by_cases hlast : significand < 2 ^ 53
  · exact magnitude_block hlast hnormal
  · have hstart : block * 2 ^ 52 + significand = (block + 1) * 2 ^ 52 + 2 ^ 52 := by omega
    have hsignificand : significand = 2 ^ 53 := by omega
    rw [hstart, magnitude_block (by decide) (.inr le_rfl), hsignificand]
    ring

theorem le_magnitude_next (hbound : significand ≤ 2 ^ 53)
    (hnormal : block = 0 ∨ 2 ^ 52 ≤ significand) :
    (significand + 1) * 2 ^ block ≤ magnitude (block * 2 ^ 52 + significand + 1) := by
  by_cases hlast : significand < 2 ^ 53
  · rw [Nat.add_assoc, magnitude_block_of_le hlast (by omega)]
  · have hstart : block * 2 ^ 52 + significand + 1 =
        (block + 1) * 2 ^ 52 + (2 ^ 52 + 1) := by omega
    have hsignificand : significand = 2 ^ 53 := by omega
    rw [hstart, magnitude_block (by decide) (.inr (by omega)), hsignificand]
    calc (2 ^ 53 + 1) * 2 ^ block ≤ (2 ^ 53 + 2) * 2 ^ block := Nat.mul_le_mul_right _ (by omega)
      _ = (2 ^ 52 + 1) * 2 ^ (block + 1) := by ring

/-- Rounding down is right up to halfway between two significands. -/
theorem isNearest_floor (hbound : floor < 2 ^ 53) (hnormal : block = 0 ∨ 2 ^ 52 ≤ floor)
    (hfloor : (floor * 2 ^ block : ℝ) ≤ units) (hhalf : 2 * units ≤ (2 * floor + 1) * 2 ^ block)
    (heven : 2 * units = (2 * floor + 1) * 2 ^ block → floor % 2 = 0) :
    IsNearest units (block * 2 ^ 52 + floor) := by
  have hrank : (magnitude (block * 2 ^ 52 + floor) : ℝ) = floor * 2 ^ block := by
    rw [magnitude_block hbound hnormal]
    push_cast
    ring
  have hnext : ((floor + 1) * 2 ^ block : ℝ) ≤ magnitude (block * 2 ^ 52 + floor + 1) := by
    exact_mod_cast le_magnitude_next hbound.le hnormal
  have hbefore := magnitude_strictMono_real.monotone (Nat.sub_le (block * 2 ^ 52 + floor) 1)
  rw [hrank] at hbefore
  constructor
  · rw [hrank]
    linarith
  · rw [hrank]
    linarith
  · intro hlow
    -- only the rank zero is its own predecessor
    have hsame : (magnitude (block * 2 ^ 52 + floor - 1) : ℝ) =
        magnitude (block * 2 ^ 52 + floor) := by
      rw [hrank] at hlow ⊢
      linarith
    have := magnitude_strictMono_real.injective hsame
    omega
  · intro hhigh
    rw [hrank] at hhigh
    have := heven (by linarith)
    omega

/-- Rounding up is right from halfway between two significands on. -/
theorem isNearest_floor_succ (hbound : floor < 2 ^ 53) (hnormal : block = 0 ∨ 2 ^ 52 ≤ floor)
    (hceil : units ≤ (floor + 1) * 2 ^ block) (hhalf : (2 * floor + 1) * 2 ^ block ≤ 2 * units)
    (heven : 2 * units = (2 * floor + 1) * 2 ^ block → floor % 2 = 1) :
    IsNearest units (block * 2 ^ 52 + (floor + 1)) := by
  have hrank : (magnitude (block * 2 ^ 52 + (floor + 1)) : ℝ) = (floor + 1) * 2 ^ block := by
    rw [magnitude_block_of_le hbound (by omega)]
    push_cast
    ring
  have hbefore : (magnitude (block * 2 ^ 52 + (floor + 1) - 1) : ℝ) = floor * 2 ^ block := by
    rw [← Nat.add_assoc, Nat.add_sub_cancel, magnitude_block hbound hnormal]
    push_cast
    ring
  have hnext : ((floor + 1 + 1) * 2 ^ block : ℝ) ≤
      magnitude (block * 2 ^ 52 + (floor + 1) + 1) := by
    have hle : (floor + 1 + 1) * 2 ^ block ≤ magnitude (block * 2 ^ 52 + (floor + 1) + 1) :=
      le_magnitude_next hbound (by omega)
    exact_mod_cast hle
  have hunit : (0 : ℝ) < 2 ^ block := by positivity
  constructor
  · rw [hrank, hbefore]
    linarith
  · rw [hrank]
    linarith
  · intro hlow
    rw [hrank, hbefore] at hlow
    have := heven (by linarith)
    omega
  · intro hhigh
    rw [hrank] at hhigh
    linarith

end Block

/-! ### Quotients -/

theorem roundDiv_eq_or (num den : ℕ) :
    (roundDiv num den = num / den ∧ 2 * (num % den) ≤ den ∧
        (2 * (num % den) = den → num / den % 2 = 0)) ∨
      (roundDiv num den = num / den + 1 ∧ den ≤ 2 * (num % den) ∧
        (2 * (num % den) = den → num / den % 2 = 1)) := by
  rw [roundDiv]
  split
  · exact .inl ⟨rfl, by omega, by omega⟩
  · split
    · exact .inr ⟨rfl, by omega, by omega⟩
    · split
      · exact .inl ⟨rfl, by omega, fun _ => ‹_›⟩
      · exact .inr ⟨rfl, by omega, by omega⟩

theorem log2_sub_bounds (n : ℕ) :
    n < 2 ^ 53 * 2 ^ (n.log2 - 52) ∧ (n.log2 - 52 = 0 ∨ 2 ^ 52 * 2 ^ (n.log2 - 52) ≤ n) := by
  constructor
  · have hlog : n < 2 ^ (n.log2 + 1) := Nat.lt_log2_self
    refine hlog.trans_le ?_
    rw [← Nat.pow_add]
    exact Nat.pow_le_pow_right (by decide) (by omega)
  · by_cases hfirst : n.log2 ≤ 52
    · exact .inl (by omega)
    · have hne : n ≠ 0 := by
        rintro rfl
        exact hfirst (by decide)
      refine .inr ?_
      rw [← Nat.pow_add]
      have hsum : 52 + (n.log2 - 52) = n.log2 := by omega
      rw [hsum]
      exact Nat.log2_self_le hne

theorem isNearest_nearestRank (num : ℕ) {den : ℕ} (hden : 0 < den) :
    IsNearest (num / den) (nearestRank num den) := by
  obtain ⟨hupper, hlower⟩ := log2_sub_bounds (num / den)
  generalize hblock : (num / den).log2 - 52 = block at hupper hlower
  have hunit : 0 < 2 ^ block := Nat.two_pow_pos block
  have hrank : nearestRank num den = block * 2 ^ 52 + roundDiv num (den * 2 ^ block) := by
    rw [nearestRank, hblock, Nat.shiftLeft_eq, Nat.shiftLeft_eq]
  -- the significand below the quotient, and what is left of it
  have hfloor : num / (den * 2 ^ block) = num / den / 2 ^ block := (Nat.div_div_eq_div_mul ..).symm
  have hbound : num / (den * 2 ^ block) < 2 ^ 53 := by
    rw [hfloor, Nat.div_lt_iff_lt_mul hunit]
    exact hupper
  have hnormal : block = 0 ∨ 2 ^ 52 ≤ num / (den * 2 ^ block) := by
    rw [hfloor, Nat.le_div_iff_mul_le hunit]
    exact hlower
  have hdiv := Nat.div_add_mod num (den * 2 ^ block)
  have hrest := Nat.mod_lt num (Nat.mul_pos hden hunit)
  have hround := roundDiv_eq_or num (den * 2 ^ block)
  rw [hrank]
  generalize num / (den * 2 ^ block) = floor at hdiv hbound hnormal hround
  generalize num % (den * 2 ^ block) = rest at hdiv hrest hround
  have hdenR : (0 : ℝ) < den := by exact_mod_cast hden
  have hunits : (num / den : ℝ) = floor * 2 ^ block + rest / den := by
    rw [← hdiv]
    push_cast
    field_simp
  have hrestR : (rest / den : ℝ) < 2 ^ block := by
    rw [div_lt_iff₀ hdenR, mul_comm]
    exact_mod_cast hrest
  have hrest0 : (0 : ℝ) ≤ rest / den := by positivity
  have htwice : (2 * (rest / den) : ℝ) = (2 * rest : ℕ) / den := by
    push_cast
    ring
  have hstep : (2 ^ block : ℝ) = (den * 2 ^ block : ℕ) / den := by
    push_cast
    field_simp
  have hhalfway : (2 * (num / den) : ℝ) = (2 * floor + 1) * 2 ^ block →
      2 * rest = den * 2 ^ block := by
    intro hhalf
    have hsame : (2 * (rest / den) : ℝ) = 2 ^ block := by
      rw [hunits] at hhalf
      linarith
    rw [htwice, hstep, div_left_inj' hdenR.ne'] at hsame
    exact_mod_cast hsame
  rcases hround with ⟨hdown, hle, heven⟩ | ⟨hup, hle, heven⟩
  · rw [hdown]
    have hleR : (2 * (rest / den) : ℝ) ≤ 2 ^ block := by
      rw [htwice, hstep, div_le_div_iff_of_pos_right hdenR]
      exact_mod_cast hle
    exact isNearest_floor hbound hnormal (by linarith) (by linarith) fun hhalf =>
      heven (hhalfway hhalf)
  · rw [hup]
    have hleR : (2 ^ block : ℝ) ≤ 2 * (rest / den) := by
      rw [htwice, hstep, div_le_div_iff_of_pos_right hdenR]
      exact_mod_cast hle
    exact isNearest_floor_succ hbound hnormal (by linarith) (by linarith) fun hhalf =>
      heven (hhalfway hhalf)

/-! ### Square roots -/

theorem log2_half_bounds (square : ℕ) :
    square < (2 ^ 53 * 2 ^ (square.log2 / 2 - 52)) ^ 2 ∧
      (square.log2 / 2 - 52 = 0 ∨ (2 ^ 52 * 2 ^ (square.log2 / 2 - 52)) ^ 2 ≤ square) := by
  constructor
  · have hlog : square < 2 ^ (square.log2 + 1) := Nat.lt_log2_self
    refine hlog.trans_le ?_
    rw [← Nat.pow_add, ← Nat.pow_mul]
    exact Nat.pow_le_pow_right (by decide) (by omega)
  · by_cases hfirst : square.log2 / 2 ≤ 52
    · exact .inl (by omega)
    · have hne : square ≠ 0 := by
        rintro rfl
        exact hfirst (by decide)
      refine .inr ?_
      rw [← Nat.pow_add, ← Nat.pow_mul]
      exact (Nat.pow_le_pow_right (by decide) (by omega)).trans (Nat.log2_self_le hne)

theorem sqrt_shiftRight_bounds (square block : ℕ) :
    ((square >>> (2 * block)).sqrt * 2 ^ block) ^ 2 ≤ square ∧
      square < (((square >>> (2 * block)).sqrt + 1) * 2 ^ block) ^ 2 := by
  have hunit : 0 < (2 ^ block) ^ 2 := Nat.pow_pos (Nat.two_pow_pos block)
  have hshift : square >>> (2 * block) = square / (2 ^ block) ^ 2 := by
    rw [Nat.shiftRight_eq_div_pow, Nat.mul_comm, Nat.pow_mul]
  rw [hshift, Nat.mul_pow, Nat.mul_pow]
  constructor
  · rw [← Nat.le_div_iff_mul_le hunit]
    exact Nat.sqrt_le' _
  · rw [← Nat.div_lt_iff_lt_mul hunit]
    exact Nat.lt_succ_sqrt' _

theorem isNearest_nearestRootRank (square : ℕ) :
    IsNearest (√square) (nearestRootRank square) := by
  obtain ⟨hupper, hlower⟩ := log2_half_bounds square
  rw [nearestRootRank]
  generalize square.log2 / 2 - 52 = block at hupper hlower ⊢
  obtain ⟨hbelow, habove⟩ := sqrt_shiftRight_bounds square block
  generalize (square >>> (2 * block)).sqrt = floor at hbelow habove ⊢
  rw [Nat.shiftLeft_eq, Nat.shiftLeft_eq]
  have hunit : 0 < 2 ^ block := Nat.two_pow_pos block
  have hbound : floor < 2 ^ 53 :=
    Nat.lt_of_mul_lt_mul_right (lt_of_pow_lt_pow_left₀ 2 (Nat.zero_le _) (hbelow.trans_lt hupper))
  have hnormal : block = 0 ∨ 2 ^ 52 ≤ floor :=
    hlower.imp_right fun hle => Nat.le_of_lt_succ <|
      Nat.lt_of_mul_lt_mul_right (lt_of_pow_lt_pow_left₀ 2 (Nat.zero_le _) (hle.trans_lt habove))
  -- whole numbers are compared with the root through their squares
  have hfloor : (floor * 2 ^ block : ℝ) ≤ √square :=
    Real.le_sqrt_of_sq_le (by exact_mod_cast hbelow)
  have hceil : √square ≤ ((floor + 1) * 2 ^ block : ℝ) :=
    Real.sqrt_le_iff.2 ⟨by positivity, by exact_mod_cast habove.le⟩
  have hdouble : 2 * √(square : ℝ) = √((4 * square : ℕ) : ℝ) := by
    have hfour : ((4 * square : ℕ) : ℝ) = 2 ^ 2 * square := by
      push_cast
      ring
    rw [hfour, Real.sqrt_mul (by positivity), Real.sqrt_sq (by norm_num)]
  have hmiddle : ((2 * floor + 1) * 2 ^ block : ℝ) = ((2 * floor + 1) * 2 ^ block : ℕ) := by
    push_cast
    rfl
  have hhalfway : 2 * √(square : ℝ) = (2 * floor + 1) * 2 ^ block ↔
      (2 * floor + 1) * 2 ^ block * ((2 * floor + 1) * 2 ^ block) = 4 * square := by
    rw [hdouble, hmiddle, Real.sqrt_eq_iff_mul_self_eq (by positivity) (by positivity), eq_comm]
    norm_cast
  have hbeyond : (2 * floor + 1) * 2 ^ block < 2 * √(square : ℝ) ↔
      (2 * floor + 1) * 2 ^ block * ((2 * floor + 1) * 2 ^ block) < 4 * square := by
    rw [hdouble, hmiddle, Real.lt_sqrt (by positivity), sq]
    norm_cast
  split
  · next hup =>
    refine isNearest_floor_succ hbound hnormal hceil ?_ ?_
    · rcases hup with hlt | ⟨heq, -⟩
      · exact (hbeyond.2 hlt).le
      · exact (hhalfway.2 heq).ge
    · intro hhalf
      rcases hup with hlt | ⟨-, hodd⟩
      · exact absurd (hhalfway.1 hhalf) hlt.ne
      · exact hodd
  · next hdown =>
    obtain ⟨hnot, hodd⟩ := not_or.1 hdown
    refine isNearest_floor hbound hnormal hfloor (not_lt.1 (mt hbeyond.1 hnot)) fun hhalf => ?_
    have := mt (And.intro (hhalfway.1 hhalf)) hodd
    omega

end NoteCards.Binary64

import Mathlib.Algebra.Order.Ring.Nat
import Mathlib.Order.Monotone.Basic
import Mathlib.Tactic.Ring
import NoteCards.Binary64.Rounding

/-!
# Magnitudes and ranks

A rank is a block of `2 ^ 52` ranks and a significand of fewer than `2 ^ 53` units, each of which is
worth `2 ^ block` of the least ones (`magnitude_block`). All but the first block start at the
significand `2 ^ 52`, so that the magnitude grows with the rank across the blocks too
(`magnitude_strictMono`), and rounding gives back every magnitude that a block can hold
(`magnitude_nearestRank`).
-/

namespace NoteCards.Binary64

theorem magnitude_block {block significand : Nat} (hbound : significand < 2 ^ 53)
    (hnormal : block = 0 ∨ 2 ^ 52 ≤ significand) :
    magnitude (block * 2 ^ 52 + significand) = significand * 2 ^ block := by
  rw [magnitude, Nat.shiftRight_eq_div_pow]
  rw [Nat.shiftLeft_eq, Nat.shiftLeft_eq, Nat.one_mul]
  by_cases hfirst : (block * 2 ^ 52 + significand) / 2 ^ 52 ≤ 1
  · have hblock : block = 0 := by omega
    rw [if_pos hfirst, hblock]
    omega
  · have hlow : 2 ^ 52 ≤ significand := by omega
    have hindex : (block * 2 ^ 52 + significand) / 2 ^ 52 - 1 = block := by omega
    have hrest : 2 ^ 52 + (block * 2 ^ 52 + significand) % 2 ^ 52 = significand := by omega
    rw [if_neg hfirst, hindex, hrest]

theorem exists_block (rank : Nat) :
    ∃ block significand, significand < 2 ^ 53 ∧ (block = 0 ∨ 2 ^ 52 ≤ significand) ∧
      rank = block * 2 ^ 52 + significand := by
  by_cases hfirst : rank < 2 ^ 53
  · exact ⟨0, rank, hfirst, .inl rfl, by omega⟩
  · exact ⟨rank / 2 ^ 52 - 1, 2 ^ 52 + rank % 2 ^ 52, by omega, .inr (by omega), by omega⟩

theorem magnitude_zero : magnitude 0 = 0 := by
  decide

theorem magnitude_lt_succ (rank : Nat) : magnitude rank < magnitude (rank + 1) := by
  obtain ⟨block, significand, hbound, hnormal, rfl⟩ := exists_block rank
  have hunit : 0 < 2 ^ block := Nat.two_pow_pos block
  rw [magnitude_block hbound hnormal]
  by_cases hlast : significand + 1 < 2 ^ 53
  · have hnext : magnitude (block * 2 ^ 52 + (significand + 1)) = (significand + 1) * 2 ^ block :=
      magnitude_block hlast (by omega)
    rw [Nat.add_assoc, hnext]
    exact Nat.mul_lt_mul_of_pos_right (Nat.lt_succ_self _) hunit
  · -- the next rank is the first one of the next block
    have hstart : block * 2 ^ 52 + significand + 1 = (block + 1) * 2 ^ 52 + 2 ^ 52 := by omega
    rw [hstart, magnitude_block (by decide) (.inr le_rfl)]
    calc significand * 2 ^ block < 2 ^ 53 * 2 ^ block := Nat.mul_lt_mul_of_pos_right hbound hunit
      _ = 2 ^ 52 * 2 ^ (block + 1) := by ring

theorem magnitude_strictMono : StrictMono magnitude :=
  strictMono_nat_of_lt_succ magnitude_lt_succ

theorem le_magnitude_topRank {block : Nat} (hblock : block ≤ 2045) :
    2 ^ 53 * 2 ^ block ≤ magnitude topRank := by
  obtain ⟨top, habove, htop⟩ : ∃ top, block + 1 ≤ top ∧ topRank = top * 2 ^ 52 + 2 ^ 52 :=
    ⟨2046, by omega, by decide⟩
  rw [htop, magnitude_block (by decide) (.inr le_rfl)]
  calc 2 ^ 53 * 2 ^ block = 2 ^ 52 * 2 ^ (block + 1) := by ring
    _ ≤ 2 ^ 52 * 2 ^ top := Nat.mul_le_mul_left _ (Nat.pow_le_pow_right (by decide) habove)

/-- Rounding a whole number of units that fits a significand of its block is exact. -/
theorem magnitude_nearestRank {units : Nat} (hfits : 2 ^ (units.log2 - 52) ∣ units) :
    magnitude (nearestRank units 1) = units := by
  obtain ⟨significand, hunits⟩ := hfits
  have hpos : 0 < 2 ^ (units.log2 - 52) := Nat.two_pow_pos _
  have hround : roundDiv units (2 ^ (units.log2 - 52)) = significand := by
    have hmod : units % 2 ^ (units.log2 - 52) = 0 := Nat.mod_eq_zero_of_dvd ⟨_, hunits⟩
    have hdiv : units / 2 ^ (units.log2 - 52) = significand :=
      Nat.div_eq_of_eq_mul_right hpos hunits
    rw [roundDiv, hmod, hdiv, if_pos (by omega)]
  have hrank : nearestRank units 1 = (units.log2 - 52) * 2 ^ 52 + significand := by
    rw [nearestRank, Nat.div_one, Nat.shiftLeft_eq, Nat.shiftLeft_eq, Nat.one_mul, hround]
  have hbound : significand < 2 ^ 53 := by
    have hlog : units < 2 ^ (units.log2 + 1) := Nat.lt_log2_self
    have hsplit : 2 ^ (units.log2 + 1) ≤ 2 ^ (units.log2 - 52) * 2 ^ 53 := by
      rw [← Nat.pow_add]
      exact Nat.pow_le_pow_right (by decide) (by omega)
    refine Nat.lt_of_mul_lt_mul_left (a := 2 ^ (units.log2 - 52)) ?_
    omega
  have hnormal : units.log2 - 52 = 0 ∨ 2 ^ 52 ≤ significand := by
    by_cases hfirst : units.log2 ≤ 52
    · exact .inl (by omega)
    · have hne : units ≠ 0 := by
        rintro rfl
        exact hfirst (by decide)
      have hlog : 2 ^ units.log2 ≤ units := Nat.log2_self_le hne
      have hsplit : 2 ^ units.log2 = 2 ^ (units.log2 - 52) * 2 ^ 52 := by
        rw [← Nat.pow_add]
        congr 1
        omega
      refine .inr (Nat.le_of_mul_le_mul_left (c := 2 ^ (units.log2 - 52)) ?_ hpos)
      omega
  rw [hrank, magnitude_block hbound hnormal, Nat.mul_comm]
  exact hunits.symm

end NoteCards.Binary64

import NoteCards.Binary64.Basic

/-!
# The order of numbers

Every number but the one that is not a number has a place in the order, and comparisons compare
places (`lt_iff`, `le_iff`). Pulling a number between two bounds moves its place to the nearest one
between theirs (`key?_clamp`); what is not a number stays what it is (`clamp_nan`).
-/

namespace NoteCards.Binary64

theorem key?_eq_none_iff {x : Binary64} : x.key? = none ↔ x = .nan := by
  cases x <;> simp [key?]

theorem exists_key? {x : Binary64} (hx : x ≠ .nan) : ∃ place, x.key? = some place :=
  Option.ne_none_iff_exists'.1 fun hnone => hx (key?_eq_none_iff.1 hnone)

section Places

variable {x y low high : Binary64} {a b place : Int}

theorem lt_of_key? (hx : x.key? = some a) (hy : y.key? = some b) : x.lt y = decide (a < b) := by
  rw [lt, hx, hy]

theorem le_of_key? (hx : x.key? = some a) (hy : y.key? = some b) : x.le y = decide (a ≤ b) := by
  rw [le, hx, hy]

theorem le_iff :
    x.le y = true ↔ ∃ a b, x.key? = some a ∧ y.key? = some b ∧ a ≤ b := by
  constructor
  · intro hle
    have hx : x ≠ .nan := by
      rintro rfl
      exact Bool.false_ne_true hle
    have hy : y ≠ .nan := by
      rintro rfl
      cases x <;> exact Bool.false_ne_true hle
    obtain ⟨a, ha⟩ := exists_key? hx
    obtain ⟨b, hb⟩ := exists_key? hy
    rw [le_of_key? ha hb, decide_eq_true_eq] at hle
    exact ⟨a, b, ha, hb, hle⟩
  · rintro ⟨a, b, ha, hb, hle⟩
    rw [le_of_key? ha hb, decide_eq_true_eq]
    exact hle

theorem lt_iff :
    x.lt y = true ↔ ∃ a b, x.key? = some a ∧ y.key? = some b ∧ a < b := by
  rw [lt]
  cases x.key? <;> cases y.key? <;> simp

theorem le_of_lt (hlt : x.lt y = true) : x.le y = true := by
  obtain ⟨a, b, ha, hb, hab⟩ := lt_iff.1 hlt
  exact le_iff.2 ⟨a, b, ha, hb, Int.le_of_lt hab⟩

theorem le_of_not_lt (hx : x ≠ .nan) (hy : y ≠ .nan) (hlt : ¬y.lt x = true) :
    x.le y = true := by
  obtain ⟨a, ha⟩ := exists_key? hx
  obtain ⟨b, hb⟩ := exists_key? hy
  rw [lt_of_key? hb ha, decide_eq_true_eq] at hlt
  exact le_iff.2 ⟨a, b, ha, hb, Int.not_lt.1 hlt⟩

theorem ne_nan_of_isFinite (hx : x.isFinite = true) : x ≠ .nan := by
  rintro rfl
  exact Bool.false_ne_true hx

/-- The finite numbers are those strictly between the infinities. -/
theorem isFinite_iff :
    x.isFinite = true ↔
      ∃ place, x.key? = some place ∧ -(topRank : Int) < place ∧ place < topRank := by
  match x with
  | .nan => simp [isFinite, key?]
  | .infinite negative => cases negative <;> simp [isFinite, key?]
  | .finite negative rank =>
    have hrank := rank.isLt
    refine iff_of_true rfl ⟨_, rfl, ?_⟩
    split <;> omega

theorem isFinite_of_between (hlow : low.isFinite = true) (hhigh : high.isFinite = true)
    (hlowx : low.le x = true) (hxhigh : x.le high = true) : x.isFinite = true := by
  obtain ⟨first, hfirst, hbelow, -⟩ := isFinite_iff.1 hlow
  obtain ⟨last, hlast, -, habove⟩ := isFinite_iff.1 hhigh
  obtain ⟨a, place, ha, hplace, haplace⟩ := le_iff.1 hlowx
  obtain ⟨place', b, hplace', hb, hplaceb⟩ := le_iff.1 hxhigh
  cases hfirst.symm.trans ha
  cases hlast.symm.trans hb
  cases hplace.symm.trans hplace'
  exact isFinite_iff.2 ⟨place, hplace, by omega, by omega⟩

protected theorem le_refl (hx : x.isFinite = true) : x.le x = true := by
  obtain ⟨place, hplace, -⟩ := isFinite_iff.1 hx
  exact le_iff.2 ⟨place, place, hplace, hplace, Int.le_refl place⟩

theorem clamp_nan : clamp low high .nan = .nan := by
  have hbelow : lt .nan low = false := rfl
  have habove : lt high .nan = false := by
    cases high <;> rfl
  rw [clamp, hbelow, habove]
  rfl

theorem key?_clamp (hlow : low.key? = some a) (hhigh : high.key? = some b) (hbounds : a ≤ b)
    (hx : x.key? = some place) : (clamp low high x).key? = some (Max.max a (Min.min place b)) := by
  rw [clamp, lt_of_key? hx hlow, lt_of_key? hhigh hx]
  by_cases hbelow : place < a
  · rw [if_pos (by simpa using hbelow), hlow]
    congr 1
    omega
  · rw [if_neg (by simpa using hbelow)]
    by_cases habove : b < place
    · rw [if_pos (by simpa using habove), hhigh]
      congr 1
      omega
    · rw [if_neg (by simpa using habove), hx]
      congr 1
      omega

end Places

end NoteCards.Binary64

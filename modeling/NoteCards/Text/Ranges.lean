/-!
# Ranges of code points

A property of characters is kept as the ascending list of the ranges of code points that have it.
All the lists are those of one version of the standard, Unicode 17.0.

`Ranges.covers` decides the property; `covers_eq_any` says that stopping at the first range above
a code point loses nothing when the list is ascending.
-/

namespace NoteCards.Text

/-- Ranges of code points, both ends included, each range above the one before it. -/
abbrev Ranges := List (Nat × Nat)

namespace Ranges

/-- Whether some range holds the code point; the search stops at the first range above it. -/
def covers : Ranges → Nat → Bool
  | [], _ => false
  | (low, high) :: rest, code =>
    if code < low then false else if code ≤ high then true else covers rest code

/-- Every range starts at or above `bound` and above the range before it. -/
def Ascending : Ranges → Nat → Prop
  | [], _ => True
  | (low, high) :: rest, bound => bound ≤ low ∧ low ≤ high ∧ Ascending rest (high + 1)

instance : (ranges : Ranges) → (bound : Nat) → Decidable (Ascending ranges bound)
  | [], _ => isTrue trivial
  | (low, high) :: rest, bound =>
    have := instDecidableAscending rest (high + 1)
    inferInstanceAs (Decidable (bound ≤ low ∧ low ≤ high ∧ Ascending rest (high + 1)))

theorem covers_eq_false_of_lt {ranges : Ranges} {bound code : Nat}
    (ascending : Ascending ranges bound) (below : code < bound) : ranges.covers code = false := by
  cases ranges with
  | nil => rfl
  | cons range rest =>
    have := ascending.1
    simp [covers, show code < range.1 by omega]

theorem covers_eq_any {ranges : Ranges} {bound : Nat} (ascending : Ascending ranges bound)
    (code : Nat) :
    ranges.covers code = ranges.any fun range => range.1 ≤ code && code ≤ range.2 := by
  induction ranges generalizing bound with
  | nil => rfl
  | cons range rest ih =>
    obtain ⟨_, _, tail⟩ := ascending
    by_cases low : code < range.1
    · have none := covers_eq_false_of_lt tail (show code < range.2 + 1 by omega)
      rw [ih tail] at none
      simp [covers, low, none, show ¬range.1 ≤ code by omega]
    · by_cases high : code ≤ range.2
      · simp [covers, low, high, show range.1 ≤ code by omega]
      · simp [covers, low, high, ih tail]

end Ranges

end NoteCards.Text

/-!
# Occurrence of a text in a text

`occursIn needle text` decides whether the needle stands somewhere in the text without a gap;
`occursIn_iff` states it as a splitting of the text.
-/

namespace NoteCards.Text

def occursIn (needle : List Char) : List Char → Bool
  | [] => needle.isEmpty
  | c :: rest => needle.isPrefixOf (c :: rest) || occursIn needle rest

theorem occursIn_iff {needle text : List Char} :
    occursIn needle text = true ↔ ∃ before after, text = before ++ needle ++ after := by
  induction text with
  | nil => cases needle <;> simp [occursIn]
  | cons c rest ih =>
    simp only [occursIn, Bool.or_eq_true, ih, List.isPrefixOf_iff_prefix]
    constructor
    · rintro (⟨after, eq⟩ | ⟨before, after, eq⟩)
      · exact ⟨[], after, by simp [eq]⟩
      · exact ⟨c :: before, after, by simp [eq]⟩
    · rintro ⟨before, after, eq⟩
      cases before with
      | nil => exact .inl ⟨after, by simpa using eq.symm⟩
      | cons d before =>
        simp only [List.cons_append, List.cons.injEq] at eq
        exact .inr ⟨before, after, eq.2⟩

theorem occursIn_iff_isInfix {needle text : List Char} :
    occursIn needle text = true ↔ needle <:+: text := by
  rw [occursIn_iff]
  exact ⟨fun ⟨before, after, eq⟩ => ⟨before, after, eq.symm⟩,
    fun ⟨before, after, eq⟩ => ⟨before, after, eq.symm⟩⟩

end NoteCards.Text

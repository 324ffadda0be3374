import NoteCards.Proofs.Query.Reading
import Mathlib.Data.List.Infix

/-!
# What the terms of a line look like

A term of a line comes from one lexeme of it. Its value is the lower case of a piece of that lexeme,
is never empty, ends with no blank and, unless it asks for a tag, starts with none. The exception is
the `#` that a tag loses after it was trimmed: a second `#` or a blank can stand behind it.
-/

namespace NoteCards

open NoteCards.Text

theorem dropHash_suffix (s : List Char) : dropHash s <:+ s := by
  unfold dropHash
  split
  · exact List.suffix_cons _ _
  · exact List.suffix_rfl

theorem dropHash_eq_self_iff {s : List Char} : dropHash s = s ↔ s.head? ≠ some '#' := by
  unfold dropHash
  split
  · simp
  · next hhash =>
    refine ⟨fun _ hhead => ?_, fun _ => rfl⟩
    obtain ⟨rest, hrest⟩ := List.head?_eq_some_iff.1 hhead
    exact hhash rest hrest

namespace Lexeme

theorem wanted_eq (lexeme : Lexeme) :
    lexeme.wanted =
      if lexeme.scope = .tag then dropHash lexeme.body.content else lexeme.body.content := by
  obtain ⟨⟨negated, scope, body⟩, mark⟩ := lexeme
  cases scope <;> cases body <;> rfl

theorem wanted_suffix_content (lexeme : Lexeme) : lexeme.wanted <:+ lexeme.body.content := by
  rw [wanted_eq]
  split
  · exact dropHash_suffix _
  · exact List.suffix_rfl

theorem body_text_infix (lexeme : Lexeme) : lexeme.body.text <:+: lexeme.text :=
  (List.suffix_append_of_suffix (List.suffix_append _ _)).isInfix

theorem content_infix_text (body : Body) : body.content <:+: body.text := by
  cases body with
  | quoted inside => exact (trim_isInfix inside).trans ⟨['"'], ['"'], by simp [Body.text]⟩
  | bare word => exact List.infix_rfl

theorem wanted_infix_text (lexeme : Lexeme) : lexeme.wanted <:+: lexeme.text :=
  (lexeme.wanted_suffix_content.isInfix.trans (content_infix_text _)).trans lexeme.body_text_infix

/-- A lexeme that asks for all of its text is a word and so starts with no quote. -/
theorem WellFormed.head?_ne_of_wanted_eq_text {lexeme : Lexeme} (hlexeme : lexeme.WellFormed)
    (hall : lexeme.wanted = lexeme.text) : lexeme.text.head? ≠ some '"' := by
  have hbody := hlexeme.body_wellFormed
  have hcontent := (lexeme.wanted_suffix_content).length_le
  have hshort := lexeme.body_text_infix.length_le
  rw [hall] at hcontent
  cases heq : lexeme.body with
  | quoted inside =>
    rw [heq] at hcontent hshort
    have hinside := (trim_isInfix inside).length_le
    simp only [Body.content, Body.text, List.length_cons, List.length_append] at hcontent hshort
    omega
  | bare word =>
    rw [heq] at hcontent hbody
    have hword : word = lexeme.text := by
      have hpart := lexeme.body_text_infix
      rw [heq] at hpart
      exact hpart.eq_of_length_le hcontent
    rw [← hword]
    exact hbody.2

/-- No blank ends what a lexeme asks for, and only the text of a tag can start with one. -/
theorem WellFormed.wanted_plain {lexeme : Lexeme} (hlexeme : lexeme.WellFormed) :
    EndsPlain lexeme.wanted ∧ (lexeme.scope ≠ .tag → StartsPlain lexeme.wanted) := by
  have htrimmed : IsTrimmed lexeme.body.content := by
    have hbody := hlexeme.body_wellFormed
    cases heq : lexeme.body with
    | quoted inside => exact isTrimmed_trim inside
    | bare word =>
      rw [heq] at hbody
      exact isTrimmed_of_forall hbody.1
  refine ⟨htrimmed.2.of_suffix lexeme.wanted_suffix_content, fun hscope => ?_⟩
  rw [wanted_eq, if_neg hscope]
  exact htrimmed.1

end Lexeme

/-! ### From a term to its lexeme -/

theorem Layout.mem_lexemes {layout : Layout} (hlayout : layout.WellFormed) {lexeme : Lexeme}
    (hmem : lexeme ∈ layout.lexemes) : lexeme.WellFormed ∧ lexeme.text <:+: layout.text := by
  induction layout with
  | done => simp [lexemes] at hmem
  | unclosed tail => simp [lexemes] at hmem
  | token first gap rest ih =>
    rcases List.mem_cons.1 hmem with rfl | hmem
    · exact ⟨hlayout.1, (List.prefix_append _ _).isInfix⟩
    · obtain ⟨hlexeme, hpart⟩ := ih hlayout.2.2.2 hmem
      refine ⟨hlexeme, hpart.trans ?_⟩
      exact (List.suffix_append_of_suffix (List.suffix_append _ _)).isInfix

theorem exists_lexeme_of_mem_termsOf {line : List Char} {term : Term}
    (hmem : term ∈ Query.termsOf line) :
    ∃ lexeme : Lexeme, lexeme.WellFormed ∧ lexeme.text <:+: line ∧ lexeme.wanted ≠ [] ∧
      term = lexeme.term := by
  obtain ⟨reading, hreading⟩ := exists_reading line
  rw [termsOf_eq_terms hreading, Layout.terms] at hmem
  obtain ⟨lexeme, hlexeme, rfl⟩ := List.mem_map.1 hmem
  obtain ⟨hlexeme, hwanted⟩ := List.mem_filter.1 hlexeme
  obtain ⟨hwellFormed, hpart⟩ := Layout.mem_lexemes hreading.layout_wellFormed hlexeme
  refine ⟨lexeme, hwellFormed, hpart.trans ?_, by simpa using hwanted, rfl⟩
  rw [hreading.spells]
  exact (List.suffix_append _ _).isInfix

section Value

variable {line : List Char} {term : Term}

theorem toList_value (lexeme : Lexeme) : lexeme.term.value.toList = lower lexeme.wanted :=
  String.toList_ofList

theorem value_ne_nil_of_mem_termsOf (hmem : term ∈ Query.termsOf line) :
    term.value.toList ≠ [] := by
  obtain ⟨lexeme, -, -, hwanted, rfl⟩ := exists_lexeme_of_mem_termsOf hmem
  rw [toList_value]
  exact fun hnil => hwanted (lower_eq_nil_iff.1 hnil)

theorem lower_value_of_mem_termsOf (hmem : term ∈ Query.termsOf line) :
    lower term.value.toList = term.value.toList := by
  obtain ⟨lexeme, -, -, -, rfl⟩ := exists_lexeme_of_mem_termsOf hmem
  rw [toList_value, lower_lower]

/-- A value is the lower case of a piece of the line, and of the whole line only if that starts with
no quote. -/
theorem exists_infix_of_mem_termsOf (hmem : term ∈ Query.termsOf line) :
    ∃ piece, piece <:+: line ∧ term.value.toList = lower piece ∧
      (piece = line → line.head? ≠ some '"') := by
  obtain ⟨lexeme, hlexeme, hpart, -, rfl⟩ := exists_lexeme_of_mem_termsOf hmem
  refine ⟨lexeme.wanted, lexeme.wanted_infix_text.trans hpart, toList_value lexeme, ?_⟩
  rintro rfl
  have hall : lexeme.wanted = lexeme.text :=
    List.infix_antisymm lexeme.wanted_infix_text hpart
  rw [hall]
  exact hlexeme.head?_ne_of_wanted_eq_text hall

theorem endsPlain_value_of_mem_termsOf (hmem : term ∈ Query.termsOf line) :
    EndsPlain term.value.toList := by
  obtain ⟨lexeme, hlexeme, -, -, rfl⟩ := exists_lexeme_of_mem_termsOf hmem
  rw [toList_value]
  exact endsPlain_lower hlexeme.wanted_plain.1

theorem startsPlain_value_of_mem_termsOf (hmem : term ∈ Query.termsOf line)
    (hscope : term.scope ≠ .tag) : StartsPlain term.value.toList := by
  obtain ⟨lexeme, hlexeme, -, -, rfl⟩ := exists_lexeme_of_mem_termsOf hmem
  rw [toList_value]
  exact startsPlain_lower (hlexeme.wanted_plain.2 hscope)

end Value

end NoteCards

import Mathlib.Tactic.TFAE
import NoteCards.Proofs.Note.Label

/-!
# No term is vacuous

The value of a term is a label: in lower case, not blank, without a blank at its end, and without
one at its start unless a `#` was taken off there. So each term of a line asks for something: some
documents hold it and some do not, and the term accepts the ones or the others.

A query rejects a document as soon as one of its terms does. The document that one term rejects
settles the question for all of them, whatever the others ask for, and a query accepts every
document only if it has no terms (`terms_are_demands`).
-/

namespace NoteCards

open NoteCards.Text

/-- Every label is the label of itself behind a `#`, even if it starts with a blank or a `#` of its
own. -/
theorem IsLabel.tagLabel?_marked {label : String} (hlabel : IsLabel label) :
    tagLabel? ("#" ++ label) = some label := by
  obtain ⟨c, hc, -⟩ := hlabel.not_blank
  have hne : label.toList ≠ [] := List.ne_nil_of_mem hc
  have hmarked : ("#" ++ label).toList = '#' :: label.toList := String.toList_append
  have htrim : trim ('#' :: label.toList) = '#' :: label.toList := by
    apply trim_eq_self_iff.2
    constructor
    · intro d hd
      cases hd
      decide
    · intro d hd
      apply hlabel.ends_plain d
      rwa [List.getLast?_cons_of_ne_nil hne] at hd
  rw [tagLabel?_eq_labelOf?, hmarked, htrim, labelOf?_eq_some_iff]
  exact ⟨hne, (lowercase_eq_self_iff.1 hlabel.lower_eq).symm⟩

namespace Term

variable {term : Term}

theorem foundIn_nothing (hne : term.value.toList ≠ []) :
    term.foundIn (.ofRaw "" [] []) = false := by
  have hempty : occursIn term.value.toList [] = false := by
    rw [occursIn]
    simpa using hne
  unfold foundIn
  cases term.scope <;>
    simp [Document.ofRaw, lowercase, lower, lowerAfter, LabelSet.any, LabelSet.ofList,
      LabelSet.empty, hempty]

/-- A document that holds what a term asks for, and holds it where the term looks. -/
def sample (term : Term) : Document :=
  match term.scope with
  | .tag => .ofRaw "" [] ["#" ++ term.value]
  | .text | .path => .ofRaw term.value [] []

theorem foundIn_sample (hvalue : IsLabel term.value) : term.foundIn term.sample = true := by
  have hself : occursIn term.value.toList term.value.toList = true :=
    occursIn_iff_isInfix.2 List.infix_rfl
  unfold foundIn sample
  cases term.scope with
  | tag =>
    apply List.any_eq_true.2
    refine ⟨term.value, LabelSet.mem_ofList.2 ?_, hself⟩
    rw [List.filterMap_cons_some hvalue.tagLabel?_marked]
    exact List.mem_cons_self
  | text => simp only [Document.ofRaw, hvalue.lower_eq, hself, Bool.true_or]
  | path => simp only [Document.ofRaw, hvalue.lower_eq, hself]

theorem exists_foundIn_eq (hvalue : IsLabel term.value) (found : Bool) :
    ∃ path aliases tags, term.foundIn (.ofRaw path aliases tags) = found := by
  cases found with
  | false =>
    obtain ⟨c, hc, -⟩ := hvalue.not_blank
    exact ⟨"", [], [], foundIn_nothing (List.ne_nil_of_mem hc)⟩
  | true =>
    have hfound := foundIn_sample hvalue
    unfold sample at hfound
    split at hfound <;> exact ⟨_, _, _, hfound⟩

/-- The sign turns the answer around, so both answers are given as well. -/
theorem exists_accepts_eq (hvalue : IsLabel term.value) (answer : Bool) :
    ∃ path aliases tags, term.accepts (.ofRaw path aliases tags) = answer := by
  obtain ⟨path, aliases, tags, hfound⟩ := exists_foundIn_eq hvalue (answer != term.negated)
  refine ⟨path, aliases, tags, ?_⟩
  calc term.accepts (.ofRaw path aliases tags)
      = ((answer != term.negated) != term.negated) := by rw [accepts, hfound]
    _ = answer := by cases answer <;> cases term.negated <;> rfl

end Term

namespace Query

theorem isLabel_value_of_mem_termsOf {line : List Char} {term : Term}
    (hmem : term ∈ termsOf line) : IsLabel term.value := by
  apply isLabel_of_labelOf? (endsPlain_value_of_mem_termsOf hmem)
  apply labelOf?_eq_some_iff.2
  exact ⟨value_ne_nil_of_mem_termsOf hmem, (lower_value_of_mem_termsOf hmem).symm⟩

theorem accepts_eq_false_of_mem {query : Query} {term : Term} {document : Document}
    (hmem : term ∈ query.terms) (hrejects : term.accepts document = false) :
    query.accepts document = false := by
  apply List.all_eq_false.2
  exact ⟨term, hmem, by rw [hrejects]; decide⟩

/-- **Terms are demands.** The value of every term of a line is a label and, unless it is a tag's,
starts with no blank; and the term gives both answers. So the query of a line is empty exactly if it
accepts every document, or every document that is made of raw text. -/
theorem terms_are_demands (line : String) :
    (∀ term ∈ (parse line).terms,
        IsLabel term.value ∧ (term.scope ≠ .tag → StartsPlain term.value.toList) ∧
          ∀ answer, ∃ path aliases tags, term.accepts (.ofRaw path aliases tags) = answer) ∧
      List.TFAE [(parse line).isEmpty = true,
        ∀ document, (parse line).accepts document = true,
        ∀ path aliases tags, (parse line).accepts (.ofRaw path aliases tags) = true] := by
  constructor
  · intro term hmem
    have hvalue := isLabel_value_of_mem_termsOf hmem
    exact ⟨hvalue, startsPlain_value_of_mem_termsOf hmem, Term.exists_accepts_eq hvalue⟩
  · tfae_have 1 → 2 := by
      intro hempty document
      rw [accepts, List.isEmpty_iff.1 hempty, List.all_nil]
    tfae_have 2 → 3 := fun hall path aliases tags => hall _
    tfae_have 3 → 1 := by
      intro hraw
      by_contra hterms
      obtain ⟨term, hmem⟩ := List.exists_mem_of_ne_nil _ (mt List.isEmpty_iff.2 hterms)
      obtain ⟨path, aliases, tags, hrejects⟩ :=
        Term.exists_accepts_eq (isLabel_value_of_mem_termsOf hmem) false
      have haccepts := hraw path aliases tags
      rw [accepts_eq_false_of_mem hmem hrejects] at haccepts
      contradiction
    tfae_finish

/-- A blank where a `#` was taken off, and a sigma that ends the word only after trimming. -/
theorem terms_are_demands_road :
    ⟨.tag, " x", true⟩ ∈ (parse "-TAG:\"# X\" \" ΟΔΟΣ\u3000\" tag:#").terms ∧ IsLabel " x" ∧
      (∀ answer, ∃ path aliases tags,
        Term.accepts ⟨.tag, " x", true⟩ (.ofRaw path aliases tags) = answer) ∧
      ⟨.text, "οδος", false⟩ ∈ (parse "-TAG:\"# X\" \" ΟΔΟΣ\u3000\" tag:#").terms ∧
      Scope.text ≠ .tag ∧ IsLabel "οδος" ∧ StartsPlain "οδος".toList := by
  have htag : ⟨.tag, " x", true⟩ ∈ (parse "-TAG:\"# X\" \" ΟΔΟΣ\u3000\" tag:#").terms := by
    decide +kernel
  have htext : ⟨.text, "οδος", false⟩ ∈ (parse "-TAG:\"# X\" \" ΟΔΟΣ\u3000\" tag:#").terms := by
    decide +kernel
  obtain ⟨hblank, -, hanswers⟩ := (terms_are_demands _).1 _ htag
  obtain ⟨hroad, hstart, -⟩ := (terms_are_demands _).1 _ htext
  have hscope : Scope.text ≠ .tag := by decide
  exact ⟨htag, hblank, hanswers, htext, hscope, hroad, hstart hscope⟩

end Query

end NoteCards

import NoteCards.Note.Document
import NoteCards.Proofs.Query.Terms

/-!
# Labels

A document stores its tags and aliases as labels, and a query asks for values. The rules for the two
are written down apart: a label is trimmed and then loses a `#`, while a query is first cut into
tokens, trims what stands in quotes and nothing else, and looks for the `#` after that.

What both of them end with is one step, `labelOf?`: no label for an empty text, its lower case
otherwise. All that is known of labels and of values comes from it, and a token has the label of a
text for its value as soon as its content is that text trimmed.
-/

namespace NoteCards

open NoteCards.Text

/-- A text as it is stored and asked for: in lower case, not blank, and without a blank at its
end. -/
structure IsLabel (label : String) : Prop where
  lower_eq : lowercase label = label
  not_blank : ∃ c ∈ label.toList, isBlank c = false
  ends_plain : EndsPlain label.toList

/-- The label of a text that is already cut out, if there is any of it. -/
def labelOf? (wanted : List Char) : Option String :=
  if wanted.isEmpty then none else some (String.ofList (lower wanted))

theorem labelOf?_of_ne_nil {wanted : List Char} (hne : wanted ≠ []) :
    labelOf? wanted = some (String.ofList (lower wanted)) :=
  if_neg (by simpa using hne)

theorem labelOf?_eq_some_iff {wanted : List Char} {label : String} :
    labelOf? wanted = some label ↔ wanted ≠ [] ∧ label.toList = lower wanted := by
  rw [labelOf?]
  split
  · next hempty => simp [List.isEmpty_iff.1 hempty]
  · next hne =>
    rw [Option.some_inj, ← String.toList_inj, String.toList_ofList, eq_comm]
    exact (and_iff_right (by simpa using hne)).symm

/-- Lower case changes neither that there is a text nor that it ends with no blank, so that a label
has a character that is none: its last. -/
theorem isLabel_of_labelOf? {wanted : List Char} (hends : EndsPlain wanted) {label : String}
    (hlabel : labelOf? wanted = some label) : IsLabel label := by
  obtain ⟨hne, hchars⟩ := labelOf?_eq_some_iff.1 hlabel
  have hlower : lower wanted ≠ [] := mt lower_eq_nil_iff.1 hne
  have hplain : EndsPlain (lower wanted) := endsPlain_lower hends
  refine ⟨?_, ?_, ?_⟩
  · rw [lowercase_eq_self_iff, hchars, lower_lower]
  · rw [hchars]
    exact ⟨_, List.getLast_mem hlower, hplain _ (List.getLast?_eq_some_getLast hlower)⟩
  · rw [hchars]
    exact hplain

/-! ### Labels of a document -/

section Raw

variable {raw label : String}

theorem tagLabel?_eq_labelOf? (raw : String) :
    tagLabel? raw = labelOf? (dropHash (trim raw.toList)) := rfl

theorem aliasLabel?_eq_labelOf? (raw : String) :
    aliasLabel? raw = labelOf? (trim raw.toList) := rfl

/-- Behind the `#` that a tag loses a blank can stand, so only its end is known to be plain. -/
theorem isLabel_of_tagLabel? (hlabel : tagLabel? raw = some label) : IsLabel label :=
  isLabel_of_labelOf? ((isTrimmed_trim raw.toList).2.of_suffix (dropHash_suffix _)) hlabel

theorem isLabel_of_aliasLabel? (hlabel : aliasLabel? raw = some label) :
    IsLabel label ∧ StartsPlain label.toList := by
  have htrimmed : IsTrimmed (trim raw.toList) := isTrimmed_trim raw.toList
  refine ⟨isLabel_of_labelOf? htrimmed.2 hlabel, ?_⟩
  rw [(labelOf?_eq_some_iff.1 hlabel).2]
  exact startsPlain_lower htrimmed.1

end Raw

/-! ### Values of a query -/

theorem Term.ofToken?_eq_map (token : Token) :
    ofToken? token =
      (labelOf? (if token.scope = .tag then dropHash token.body.content
        else token.body.content)).map fun value => ⟨token.scope, value, token.negated⟩ := by
  rw [ofToken?, ofContent?, labelOf?]
  generalize (if token.scope = .tag then dropHash token.body.content
    else token.body.content) = wanted
  cases wanted <;> rfl

section Value

variable {body : Body} {s : String} (hcontent : body.content = trim s.toList) (negated : Bool)

include hcontent

theorem Term.ofToken?_tag :
    ofToken? ⟨negated, .tag, body⟩ = (tagLabel? s).map fun label => ⟨.tag, label, negated⟩ := by
  rw [ofToken?_eq_map, if_pos rfl, hcontent, tagLabel?_eq_labelOf?]

theorem Term.ofToken?_of_ne_tag {scope : Scope} (hscope : scope ≠ .tag) :
    ofToken? ⟨negated, scope, body⟩ =
      (aliasLabel? s).map fun label => ⟨scope, label, negated⟩ := by
  rw [ofToken?_eq_map, if_neg hscope, hcontent, aliasLabel?_eq_labelOf?]

end Value

end NoteCards

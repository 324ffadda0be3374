import NoteCards.Proofs.Query.Single
import NoteCards.Proofs.Text.Sigma
import Mathlib.Tactic.TFAE

/-!
# Finding a note by a part of its path

A query asks whether the lower case of its text stands in the lower case of a path or an alias. For
a text that is a part of the path this is not certain: lower case is taken of the part and of the
whole, and a capital sigma at the end of the part can have another form in the whole.

`part_found` says when it is certain. A part is found wherever its sigmas keep their forms, and the
parts that are found in every path around them are those that settle the forms of their sigmas. The
three ways to ask for a part of a path or an alias stand or fall together.
-/

namespace NoteCards

open NoteCards.Text

/-! ### What a path and an alias hold -/

section Attribute

variable {wanted : List Char} {negated : Bool}

theorem pathTerm_foundIn_ofRaw (p : String) :
    Term.foundIn ⟨.path, String.ofList wanted, negated⟩ (.ofRaw p [] []) = true ↔
      wanted <:+: lower p.toList := by
  rw [← occursIn_iff_isInfix]
  simp [Term.foundIn, Document.ofRaw, toList_lowercase]

theorem textTerm_foundIn_ofRaw_path (p : String) :
    Term.foundIn ⟨.text, String.ofList wanted, negated⟩ (.ofRaw p [] []) = true ↔
      wanted <:+: lower p.toList := by
  rw [← occursIn_iff_isInfix]
  simp [Term.foundIn, Document.ofRaw, toList_lowercase, LabelSet.any, LabelSet.ofList,
    LabelSet.empty]

theorem textTerm_foundIn_ofRaw_alias (hwanted : wanted ≠ []) {a : String}
    (htrim : trim a.toList = a.toList) (hne : a.toList ≠ []) :
    Term.foundIn ⟨.text, String.ofList wanted, negated⟩ (.ofRaw "" [a] []) = true ↔
      wanted <:+: lower a.toList := by
  have hlabel : aliasLabel? a = some (String.ofList (lower a.toList)) := by
    rw [aliasLabel?_eq_labelOf?, htrim, labelOf?_of_ne_nil hne]
  have hempty : occursIn wanted [] = false := by
    rw [occursIn]
    simpa using hwanted
  rw [← occursIn_iff_isInfix]
  simp [Term.foundIn, Document.ofRaw, toList_lowercase, hlabel, LabelSet.any, LabelSet.ofList,
    LabelSet.empty, LabelSet.insert, LabelSet.insertInto, hempty, lower, lowerAfter]

end Attribute

/-! ### Asking for a trimmed text in quotes -/

section Quoted

variable {s : String}

theorem accepts_quoted {scope : Scope} (hscope : scope ≠ .tag) (hne : s ≠ "")
    (hquote : '"' ∉ s.toList) (htrim : trim s.toList = s.toList) {line : String}
    (hline : line.toList = scope.mark ++ (Body.quoted s.toList).text) (document : Document) :
    (Query.parse line).accepts document =
      Term.foundIn ⟨scope, String.ofList (lower s.toList), false⟩ document := by
  have hwanted : (if scope = .tag then dropHash (Body.quoted s.toList).content
      else (Body.quoted s.toList).content) = s.toList := by
    rw [if_neg hscope]
    exact htrim
  have hnonempty : s.toList ≠ [] := fun hnil => hne (String.toList_eq_nil_iff.1 hnil)
  rw [Query.accepts_of_body (quoted_wellFormed false scope hquote) hline hwanted hnonempty,
    Bool.bne_false]

theorem path_accepts_iff (hne : s ≠ "") (hquote : '"' ∉ s.toList)
    (htrim : trim s.toList = s.toList) (p : String) :
    (Query.parse ("path:\"" ++ s ++ "\"")).accepts (.ofRaw p [] []) = true ↔
      lower s.toList <:+: lower p.toList := by
  rw [accepts_quoted (by decide) hne hquote htrim (toList_quoted .path (by rfl) s),
    pathTerm_foundIn_ofRaw]

theorem text_accepts_iff (hne : s ≠ "") (hquote : '"' ∉ s.toList)
    (htrim : trim s.toList = s.toList) (p : String) :
    (Query.parse ("\"" ++ s ++ "\"")).accepts (.ofRaw p [] []) = true ↔
      lower s.toList <:+: lower p.toList := by
  rw [accepts_quoted (by decide) hne hquote htrim (toList_quoted .text (by rfl) s),
    textTerm_foundIn_ofRaw_path]

theorem alias_accepts_iff (hne : s ≠ "") (hquote : '"' ∉ s.toList)
    (htrim : trim s.toList = s.toList) {a : String} (htrimmed : trim a.toList = a.toList)
    (hpart : s.toList <:+: a.toList) :
    (Query.parse ("\"" ++ s ++ "\"")).accepts (.ofRaw "" [a] []) = true ↔
      lower s.toList <:+: lower a.toList := by
  have hnonempty : s.toList ≠ [] := fun hnil => hne (String.toList_eq_nil_iff.1 hnil)
  have hlower : lower s.toList ≠ [] := fun hnil => hnonempty (lower_eq_nil_iff.1 hnil)
  have hwhole : a.toList ≠ [] := by
    intro hnil
    rw [hnil] at hpart
    exact hnonempty (List.eq_nil_of_infix_nil hpart)
  rw [accepts_quoted (by decide) hne hquote htrim (toList_quoted .text (by rfl) s),
    textTerm_foundIn_ofRaw_alias hlower htrimmed hwhole]

end Quoted

theorem isTrimmed_append {front s back : List Char} (hs : IsTrimmed s) (hne : s ≠ [])
    (hplain : ∀ c ∈ front ++ back, isBlank c = false) : IsTrimmed (front ++ s ++ back) := by
  rw [List.forall_mem_append] at hplain
  obtain ⟨hfront, hback⟩ := hplain
  constructor
  · rw [List.append_assoc]
    refine startsPlain_append hfront fun c hc => hs.1 c ?_
    rwa [List.head?_append_of_ne_nil _ hne] at hc
  · intro c hc
    rcases List.eq_nil_or_concat' back with rfl | ⟨rest, d, rfl⟩
    · rw [List.append_nil, List.getLast?_append_of_ne_nil _ hne] at hc
      exact hs.2 c hc
    · rw [← List.append_assoc, List.getLast?_concat] at hc
      cases hc
      exact hback c (by simp)

/-- **Finding by a part.** A text without quotes and without blanks at its ends, asked for in a path
or an alias that it is a part of, is found exactly when its lower case stands in the lower case of
the whole. At the place of the part it stands there exactly when the sigmas of the part keep their
forms. And the parts that are found in every whole are those that settle the forms of their
sigmas. -/
theorem part_found (s : String) (hne : s ≠ "") (hquote : '"' ∉ s.toList)
    (htrim : trim s.toList = s.toList) :
    (∀ whole : String, s.toList <:+: whole.toList →
        ((Query.parse ("path:\"" ++ s ++ "\"")).accepts (.ofRaw whole [] []) = true ↔
            lower s.toList <:+: lower whole.toList) ∧
          ((Query.parse ("\"" ++ s ++ "\"")).accepts (.ofRaw whole [] []) = true ↔
            lower s.toList <:+: lower whole.toList) ∧
          (trim whole.toList = whole.toList →
            ((Query.parse ("\"" ++ s ++ "\"")).accepts (.ofRaw "" [whole] []) = true ↔
              lower s.toList <:+: lower whole.toList))) ∧
      (∀ front back : List Char, KeepsSigmas front s.toList back ↔
        ∃ before after, lower (front ++ s.toList ++ back) = before ++ lower s.toList ++ after ∧
          before.length = (lower front).length) ∧
      List.TFAE [
        SettlesSigmas s.toList,
        ∀ p : String, s.toList <:+: p.toList →
          (Query.parse ("path:\"" ++ s ++ "\"")).accepts (.ofRaw p [] []) = true,
        ∀ p : String, s.toList <:+: p.toList →
          (Query.parse ("\"" ++ s ++ "\"")).accepts (.ofRaw p [] []) = true,
        ∀ a : String, trim a.toList = a.toList → s.toList <:+: a.toList →
          (Query.parse ("\"" ++ s ++ "\"")).accepts (.ofRaw "" [a] []) = true] := by
  have hpath := path_accepts_iff hne hquote htrim
  have htext := text_accepts_iff hne hquote htrim
  have hnonempty : s.toList ≠ [] := fun hnil => hne (String.toList_eq_nil_iff.1 hnil)
  have hfound : SettlesSigmas s.toList → ∀ whole : String, s.toList <:+: whole.toList →
      lower s.toList <:+: lower whole.toList := by
    rintro hsettles whole ⟨front, back, hwhole⟩
    rw [← hwhole]
    exact lower_isInfix_of_keepsSigmas (hsettles.keepsSigmas front back)
  have hlost : (∀ whole : String, trim whole.toList = whole.toList → s.toList <:+: whole.toList →
      lower s.toList <:+: lower whole.toList) → SettlesSigmas s.toList := by
    intro hall
    by_contra hopen
    obtain ⟨front, back, hplain, hnot⟩ := exists_not_isInfix_of_not_settlesSigmas hopen
    have htrimmed : trim (front ++ s.toList ++ back) = front ++ s.toList ++ back :=
      trim_eq_self_iff.2 (isTrimmed_append (trim_eq_self_iff.1 htrim) hnonempty hplain)
    have hwhole := hall (String.ofList (front ++ s.toList ++ back))
    rw [String.toList_ofList] at hwhole
    exact hnot (hwhole htrimmed ⟨front, back, rfl⟩)
  refine ⟨fun whole hpart => ⟨hpath whole, htext whole, fun htrimmed =>
    alias_accepts_iff hne hquote htrim htrimmed hpart⟩, fun _ _ => keepsSigmas_iff_at_place, ?_⟩
  tfae_have 1 → 2 := fun hsettles p hpart => (hpath p).2 (hfound hsettles p hpart)
  tfae_have 2 → 3 := fun hall p hpart => (htext p).2 ((hpath p).1 (hall p hpart))
  tfae_have 3 → 4 := fun hall a htrimmed hpart =>
    (alias_accepts_iff hne hquote htrim htrimmed hpart).2 ((htext a).1 (hall a hpart))
  tfae_have 4 → 1 := fun hall => hlost fun a htrimmed hpart =>
    (alias_accepts_iff hne hquote htrim htrimmed hpart).1 (hall a htrimmed hpart)
  tfae_finish

/-- Behind the sigma of this part stands a blank, so that it ends a word wherever the part is. -/
theorem part_found_street :
    "ΟΔΟΣ 1" ≠ "" ∧ '"' ∉ "ΟΔΟΣ 1".toList ∧ trim "ΟΔΟΣ 1".toList = "ΟΔΟΣ 1".toList ∧
      SettlesSigmas "ΟΔΟΣ 1".toList ∧
      ∀ p : String, "ΟΔΟΣ 1".toList <:+: p.toList →
        (Query.parse ("path:\"" ++ "ΟΔΟΣ 1" ++ "\"")).accepts (.ofRaw p [] []) = true := by
  have hne : "ΟΔΟΣ 1" ≠ "" := by decide
  have hquote : '"' ∉ "ΟΔΟΣ 1".toList := by decide
  have htrim : trim "ΟΔΟΣ 1".toList = "ΟΔΟΣ 1".toList := by decide +kernel
  have hsettles : SettlesSigmas "ΟΔΟΣ 1".toList := by decide +kernel
  have hall := ((part_found "ΟΔΟΣ 1" hne hquote htrim).2.2.out 0 1).1 hsettles
  exact ⟨hne, hquote, htrim, hsettles, hall⟩

/-- The first syllable of a word is not found in it: its sigma ends a word only where the syllable
stands alone. -/
theorem syllable_lost :
    ¬((∀ p s : String, s.toList <:+: p.toList → s ≠ "" → '"' ∉ s.toList →
          trim s.toList = s.toList →
            (Query.parse ("path:\"" ++ s ++ "\"")).accepts (.ofRaw p [] []) = true ∧
            (Query.parse ("\"" ++ s ++ "\"")).accepts (.ofRaw p [] []) = true) ∧
        ∀ a s : String, trim a.toList = a.toList → s.toList <:+: a.toList → s ≠ "" →
          '"' ∉ s.toList → trim s.toList = s.toList →
            (Query.parse ("\"" ++ s ++ "\"")).accepts (.ofRaw "" [a] []) = true) := by
  rintro ⟨hpaths, -⟩
  have hfound := (hpaths "ΚΟΣΜΟΣ" "ΚΟΣ" (by decide) (by decide) (by decide) (by decide +kernel)).1
  revert hfound
  decide +kernel

end NoteCards

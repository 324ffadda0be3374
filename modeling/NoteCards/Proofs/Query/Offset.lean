import NoteCards.Proofs.Query.LetterCase
import NoteCards.Proofs.Query.Reading
import NoteCards.Proofs.Text.Cut
import NoteCards.Query.Cut

/-!
# Cutting tokens off a line at byte offsets

A line that is cut at byte offsets falls into the tokens that scanning its characters gives
(`Token.cut_eq`), and no cut is a fault: each offset is that of a character that was looked for, or
one more where that is a single byte.

Every token takes something off the line, although its sign, its mark and its body may each be
empty: where sign and mark are, a body that takes nothing would have to start with a blank. So the
line is used up after at most as many rounds as it has characters (`Query.cutTerms_eq`).
-/

namespace NoteCards

open NoteCards.Text

/-! ### The cuts are made and give what scanning gives -/

namespace Scope

theorem mark_eq {scope : Scope} (hscope : scope ≠ .text) :
    scope.mark = scope.name.toList ++ [':'] := by
  cases scope with
  | text => contradiction
  | _ => decide

/-- The colon of a mark is its only one. -/
theorem SpelledBy.exists_name {scope : Scope} {mark : List Char} (hmark : scope.SpelledBy mark)
    (hscope : scope ≠ .text) : ∃ name, mark = name ++ [':'] ∧ ':' ∉ name := by
  rw [SpelledBy, mark_eq hscope, List.map_eq_append_iff] at hmark
  obtain ⟨name, colon, rfl, hname, hcolon⟩ := hmark
  obtain ⟨c, rfl, hlower⟩ := List.map_eq_singleton_iff.1 hcolon
  refine ⟨name, by rw [eq_colon_of_toLower_eq hlower], fun hmem => ?_⟩
  have hnone : ':' ∉ scope.name.toList := by cases scope <;> decide
  rw [← hname] at hnone
  exact hnone (List.mem_map_of_mem hmem)

theorem toLower_eq_name_iff {scope : Scope} (hscope : scope ≠ .text) {name : List Char} :
    (String.ofList name).toLower = scope.name ↔ scope.SpelledBy (name ++ [':']) := by
  rw [← String.toList_inj, toList_toLower, String.toList_ofList, SpelledBy, mark_eq hscope,
    List.map_append]
  exact (List.append_left_inj _).symm

theorem ofMark?_eq_some_iff {name : List Char} {scope : Scope} :
    ofMark? (.ofList name) = some scope ↔ scope ≠ .text ∧ scope.SpelledBy (name ++ [':']) := by
  constructor
  · intro hfound
    have hscope : scope ≠ .text := by
      rintro rfl
      exact absurd (List.mem_of_find?_eq_some hfound) (by decide)
    exact ⟨hscope, (toLower_eq_name_iff hscope).1 (by simpa using List.find?_some hfound)⟩
  · rintro ⟨hscope, hmark⟩
    have hname := (toLower_eq_name_iff hscope).2 hmark
    rw [ofMark?, hname]
    cases scope with
    | text => contradiction
    | _ => decide

end Scope

namespace Token

theorem cutSign_eq (s : List Char) :
    cutSign (.ofList s) = .ok ((splitSign s).1, .ofList (splitSign s).2) := by
  rw [cutSign, String.toList_ofList]
  split
  · next hminus =>
    obtain ⟨rest, rfl⟩ := List.head?_eq_some_iff.1 hminus
    rw [dropBytes_one (by decide)]
    rfl
  · next hminus =>
    rw [splitSign_of_head?_ne hminus]
    rfl

theorem cutMark_colon {name rest : List Char} (hname : ':' ∉ name) :
    cutMark (.ofList (name ++ ':' :: rest)) =
      match Scope.ofMark? (.ofList name) with
      | none => .ok (.text, .ofList (name ++ ':' :: rest))
      | some scope => .ok (scope, .ofList rest) := by
  rw [cutMark, String.toList_ofList, offsetOf?_first hname]
  simp only [takeBytes_append, dropBytes_behind (show ':'.utf8Size = 1 by decide)]
  rfl

/-- The first colon of a text is that of the mark at its start, if there is a mark. -/
theorem cutMark_eq (s : List Char) :
    cutMark (.ofList s) = .ok ((splitScope s).1, .ofList (splitScope s).2) := by
  obtain ⟨scope, rest, hsplit⟩ : ∃ scope rest, splitScope s = (scope, rest) := ⟨_, _, rfl⟩
  obtain ⟨mark, hmark, rfl, hunmarked⟩ := splitScope_eq_iff.1 hsplit
  rw [hsplit]
  by_cases hscope : scope = .text
  · subst hscope
    obtain rfl := Scope.SpelledBy.text_iff.1 hmark
    rw [List.nil_append]
    by_cases hcolon : ':' ∈ rest
    · obtain ⟨name, behind, rfl, hname⟩ := List.eq_append_cons_of_mem hcolon
      have hnone : Scope.ofMark? (.ofList name) = none := by
        rw [Option.eq_none_iff_forall_ne_some]
        intro other hother
        obtain ⟨hother, hspelled⟩ := Scope.ofMark?_eq_some_iff.1 hother
        refine hunmarked rfl other hother _ hspelled ⟨behind, ?_⟩
        rw [← List.append_cons]
      rw [cutMark_colon hname, hnone]
    · rw [cutMark, String.toList_ofList, offsetOf?_of_not_mem hcolon]
      rfl
  · obtain ⟨name, rfl, hname⟩ := hmark.exists_name hscope
    rw [← List.append_cons, cutMark_colon hname, Scope.ofMark?_eq_some_iff.2 ⟨hscope, hmark⟩]

theorem cutQuoted_open {inside : List Char} (hopen : '"' ∉ inside) :
    cutQuoted (.ofList inside) = .ok (none, "") := by
  rw [cutQuoted, String.toList_ofList, offsetOf?_of_not_mem hopen]
  rfl

theorem cutQuoted_closed {inside rest : List Char} (hinside : '"' ∉ inside) :
    cutQuoted (.ofList (inside ++ '"' :: rest)) = .ok (some (.quoted inside), .ofList rest) := by
  rw [cutQuoted, String.toList_ofList, offsetOf?_first hinside]
  simp only [takeBytes_append, dropBytes_behind (show '"'.utf8Size = 1 by decide)]
  exact congrArg (fun inside => Except.ok (some (Body.quoted inside), String.ofList rest))
    String.toList_ofList

theorem cutWord_append {word rest : List Char} (hword : ∀ c ∈ word, isBlank c = false)
    (hrest : ∀ c ∈ rest.head?, isBlank c = true) :
    cutWord (.ofList (word ++ rest)) = .ok (some (.bare word), .ofList rest) := by
  have hblank :
      (offsetOf? isBlank (word ++ rest)).getD (String.ofList (word ++ rest)).utf8ByteSize =
        (String.ofList word).utf8ByteSize := by
    cases rest with
    | nil => rw [List.append_nil, offsetOf?_eq_none hword, Option.getD_none]
    | cons c rest => rw [offsetOf?_append hword (hrest c rfl), Option.getD_some]
  rw [cutWord, String.toList_ofList, hblank, takeBytes_append, dropBytes_append]
  exact congrArg (fun word => Except.ok (some (Body.bare word), String.ofList rest))
    String.toList_ofList

theorem cutBody_quote (quoted : List Char) :
    cutBody (.ofList ('"' :: quoted)) = cutQuoted (.ofList quoted) := by
  rw [cutBody, String.toList_ofList, if_pos List.head?_cons, dropBytes_one (by decide)]
  rfl

theorem cutBody_eq (s : List Char) :
    cutBody (.ofList s) =
      .ok ((scanBody? s).map Prod.fst, .ofList ((scanBody? s).elim [] Prod.snd)) := by
  cases hscan : scanBody? s with
  | none =>
    obtain ⟨inside, rfl, hopen⟩ := scanBody?_eq_none_iff.1 hscan
    rw [cutBody_quote, cutQuoted_open hopen]
    rfl
  | some found =>
    obtain ⟨body, rest⟩ := found
    obtain ⟨hbody, hstops, rfl⟩ := scanBody?_eq_some_iff.1 hscan
    cases body with
    | quoted inside =>
      have htext : (Body.quoted inside).text ++ rest = '"' :: (inside ++ '"' :: rest) := by
        simp [Body.text]
      rw [htext, cutBody_quote, cutQuoted_closed hbody]
      rfl
    | bare word =>
      have hhead : (word ++ rest).head? ≠ some '"' := by
        rw [List.head?_append]
        intro hfirst
        rcases Option.or_eq_some_iff.1 hfirst with hfirst | ⟨-, hfirst⟩
        · exact hbody.2 hfirst
        · exact absurd (hstops '"' hfirst) (by decide)
      rw [Body.text, cutBody, String.toList_ofList, if_neg hhead, cutWord_append hbody.1 hstops]
      rfl

/-- What scanning finds at the start of a text, and what it leaves: nothing behind an open quote. -/
def next (s : List Char) : Option Token × List Char :=
  match scan? s with
  | none => (none, [])
  | some (token, rest) => (some token, rest)

theorem cut_eq (s : List Char) : cut (.ofList s) = .ok ((next s).1, .ofList (next s).2) := by
  have hcut : cut (.ofList s) = .ok
      ((scanBody? (splitScope (splitSign s).2).2).map fun found =>
          ⟨(splitSign s).1, (splitScope (splitSign s).2).1, found.1⟩,
        .ofList ((scanBody? (splitScope (splitSign s).2).2).elim [] Prod.snd)) := by
    simp only [cut, cutSign_eq, cutMark_eq, cutBody_eq, bind, Except.bind, Option.map_map]
    rfl
  rw [hcut, next, scan?_eq_map]
  cases scanBody? (splitScope (splitSign s).2).2 <;> rfl

/-- What is left of a text that starts with no blank is less than the text. -/
theorem exists_taken {s : List Char} (hstart : StartsPlain s) (hne : s ≠ []) :
    ∃ taken, taken ≠ [] ∧ s = taken ++ (next s).2 := by
  rw [next]
  cases hscan : scan? s with
  | none => exact ⟨s, hne, (List.append_nil s).symm⟩
  | some found =>
    obtain ⟨lexeme, -, hlexeme, -, hs⟩ := exists_lexeme_of_scan? hstart hne hscan
    exact ⟨lexeme.text, hlexeme.text_ne_nil, hs⟩

end Token

/-! ### Rounds -/

namespace Query

variable {s : List Char} {rounds : Nat}

theorem termsOf_of_blank (hs : trimStart s = []) : termsOf s = [] := by
  rw [termsOf, TokenLine.ofChars_of_trimStart_eq_nil hs]
  rfl

theorem termsOf_next (hs : trimStart s ≠ []) :
    termsOf s = ((Token.next (trimStart s)).1.bind Term.ofToken?).toList ++
      termsOf (Token.next (trimStart s)).2 := by
  rw [termsOf, Token.next]
  cases hscan : Token.scan? (trimStart s) with
  | none =>
    rw [TokenLine.ofChars_of_scan?_eq_none hs hscan, termsOf_of_blank rfl]
    rfl
  | some found =>
    obtain ⟨token, rest⟩ := found
    rw [TokenLine.ofChars_of_scan?_eq_some hs hscan, List.filterMap_cons]
    change _ = (Term.ofToken? token).toList ++ termsOf rest
    cases Term.ofToken? token <;> rfl

theorem cutTerms_of_blank (hs : trimStart s = []) : cutTerms rounds (.ofList s) = .ok [] := by
  rw [cutTerms.eq_def, String.toList_ofList, hs]
  rfl

theorem cutTerms_succ (hs : trimStart s ≠ []) :
    cutTerms (rounds + 1) (.ofList s) =
      (cutTerms rounds (.ofList (Token.next (trimStart s)).2)).map
        (((Token.next (trimStart s)).1.bind Term.ofToken?).toList ++ ·) := by
  have htext : ¬(trimStart s).isEmpty = true := by simpa using hs
  rw [cutTerms, String.toList_ofList, if_neg htext, Token.cut_eq]
  rfl

/-- Every round takes a character off the line, so it has no more rounds than characters. -/
theorem cutTerms_eq (hrounds : s.length ≤ rounds) :
    cutTerms rounds (.ofList s) = .ok (termsOf s) := by
  induction rounds generalizing s with
  | zero =>
    obtain rfl := List.length_eq_zero_iff.1 (Nat.le_zero.1 hrounds)
    rw [cutTerms_of_blank rfl, termsOf_of_blank rfl]
  | succ rounds ih =>
    by_cases hs : trimStart s = []
    · rw [cutTerms_of_blank hs, termsOf_of_blank hs]
    · obtain ⟨taken, htaken, heq⟩ := Token.exists_taken (startsPlain_trimStart s) hs
      have hfewer : (Token.next (trimStart s)).2.length ≤ rounds := by
        have htrim := Token.length_dropWhile_le isBlank s
        have hlength := congrArg List.length heq
        have hpos := List.length_pos_of_ne_nil htaken
        rw [List.length_append] at hlength
        rw [trimStart] at hlength ⊢
        omega
      rw [cutTerms_succ hs, ih hfewer, termsOf_next hs]
      rfl

/-- **Cutting a line to its end.** A line that is not empty and starts with no blank is cut at ends
of characters only, and what is left behind its first token is less than the line; token and rest
are those that scanning gives, and behind an open quote nothing is left. So every line is used up,
without a fault, after at most as many rounds as it has characters, and gives the terms of its
query. -/
theorem cutting_ends (line : String) :
    (line ≠ "" → StartsPlain line.toList → ∃ token taken rest,
        Token.cut line = .ok (token, rest) ∧ line = taken ++ rest ∧ taken ≠ "" ∧
          Token.next line.toList = (token, rest.toList)) ∧
      ∀ rounds, line.length ≤ rounds → cutTerms rounds line = .ok (parse line).terms := by
  obtain ⟨s, rfl⟩ := line.exists_eq_ofList
  rw [String.toList_ofList, parse, String.toList_ofList]
  constructor
  · intro hne hstart
    have hchars : s ≠ [] := by
      rintro rfl
      exact hne String.ofList_nil
    obtain ⟨taken, htaken, heq⟩ := Token.exists_taken hstart hchars
    refine ⟨(Token.next s).1, .ofList taken, .ofList (Token.next s).2, Token.cut_eq s, ?_, ?_, ?_⟩
    · rw [← String.ofList_append, ← heq]
    · exact fun hnil => htaken (String.ofList_eq_empty_iff.1 hnil)
    · rw [String.toList_ofList]
  · intro rounds hrounds
    rw [String.length_ofList] at hrounds
    exact cutTerms_eq hrounds

/-- A mark with nothing behind it is all that the first round takes, and the blank that ends it is
not a single byte. -/
theorem cutting_ends_bare_mark :
    "TAG:\u3000é" ≠ "" ∧ StartsPlain "TAG:\u3000é".toList ∧
      Token.cut "TAG:\u3000é" = .ok (some ⟨false, .tag, .bare []⟩, "\u3000é") ∧
      (∃ taken, "TAG:\u3000é" = taken ++ "\u3000é" ∧ taken ≠ "") ∧
      "TAG:\u3000é".length ≤ 6 ∧ cutTerms 6 "TAG:\u3000é" = .ok [⟨.text, "é", false⟩] := by
  obtain ⟨hfirst, hrounds⟩ := cutting_ends "TAG:\u3000é"
  have hne : "TAG:\u3000é" ≠ "" := by decide
  have hstart : StartsPlain "TAG:\u3000é".toList := by decide +kernel
  have hlength : "TAG:\u3000é".length ≤ 6 := by decide +kernel
  have hvalue : Token.cut "TAG:\u3000é" = .ok (some ⟨false, .tag, .bare []⟩, "\u3000é") := by
    decide +kernel
  have hterms : (parse "TAG:\u3000é").terms = [⟨.text, "é", false⟩] := by decide +kernel
  obtain ⟨token, taken, rest, hcut, heq, htaken, -⟩ := hfirst hne hstart
  obtain ⟨-, rfl⟩ := Prod.mk.inj (Except.ok.inj (hcut.symm.trans hvalue))
  refine ⟨hne, hstart, hvalue, ⟨taken, heq, htaken⟩, hlength, ?_⟩
  rw [← hterms]
  exact hrounds 6 hlength

/-- A sign or an open quote alone takes a round, blanks take none; a second word takes a second. -/
example : cutTerms 1 "-" = .ok [] ∧ cutTerms 1 "\"" = .ok [] ∧ cutTerms 0 "\u3000\u2003" = .ok [] ∧
    cutTerms 1 "a\u3000b" = .error .tooManyRounds := by
  decide +kernel

end Query

end NoteCards

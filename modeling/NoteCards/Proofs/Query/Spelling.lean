import Mathlib.Data.List.TakeWhile
import NoteCards.Query.Basic
import NoteCards.Proofs.Text.LetterCase

/-!
# How tokens are spelled

A lexeme is a token together with the letters of its mark as they stand in the line. Its spelling
is the sign, the mark and the body, and four rules keep every other reading of the same characters
out: a bare body holds no blank and starts with no quote, no lexeme is empty, one without a sign
does not start with a minus sign, and one without a mark has no mark after its sign.

Scanning inverts spelling. A lexeme scans to its token (`scan?_text`), whatever scans is a lexeme
and what follows it (`exists_lexeme_of_scan?`), and a text fails to scan exactly when it is a quote
that stays open (`scan?_eq_none_iff`). Only the mark needs a thought: it is looked for in the whole
text and not in the token, but a mark that reached past the token would hold a blank or start with a
quote.
-/

namespace NoteCards

open NoteCards.Text

/-- The mark of a scope with its letters in either case. -/
def Scope.SpelledBy (scope : Scope) (mark : List Char) : Prop :=
  mark.map Char.toLower = scope.mark

instance (scope : Scope) (mark : List Char) : Decidable (scope.SpelledBy mark) :=
  inferInstanceAs (Decidable (mark.map Char.toLower = scope.mark))

/-- No mark at the start of the text, in any case. -/
def Unmarked (s : List Char) : Prop :=
  ∀ scope ≠ Scope.text, ∀ mark, scope.SpelledBy mark → ¬mark <+: s

namespace Body

def text : Body → List Char
  | .quoted inside => '"' :: (inside ++ ['"'])
  | .bare word => word

/-- A quoted body holds no quote; a bare one holds no blank and does not start with a quote. -/
def WellFormed : Body → Prop
  | .quoted inside => '"' ∉ inside
  | .bare word => (∀ c ∈ word, isBlank c = false) ∧ word.head? ≠ some '"'

/-- What may follow a body: anything after a closing quote, a blank or nothing after a word. -/
def StopsAt : Body → List Char → Prop
  | .quoted _, _ => True
  | .bare _, rest => ∀ c ∈ rest.head?, isBlank c = true

end Body

def signText (negated : Bool) : List Char := if negated then ['-'] else []

structure Lexeme extends Token where
  mark : List Char

structure OpenQuote where
  negated : Bool
  scope : Scope
  mark : List Char
  inside : List Char

namespace Lexeme

def text (lexeme : Lexeme) : List Char :=
  signText lexeme.negated ++ (lexeme.mark ++ lexeme.body.text)

/-- The rules that single out one reading of the characters. -/
structure WellFormed (lexeme : Lexeme) : Prop where
  mark_spelled : lexeme.scope.SpelledBy lexeme.mark
  body_wellFormed : lexeme.body.WellFormed
  text_ne_nil : lexeme.text ≠ []
  unsigned : lexeme.negated = false → lexeme.text.head? ≠ some '-'
  unmarked : lexeme.scope = .text → Unmarked lexeme.body.text

end Lexeme

namespace OpenQuote

def text (tail : OpenQuote) : List Char :=
  signText tail.negated ++ (tail.mark ++ '"' :: tail.inside)

structure WellFormed (tail : OpenQuote) : Prop where
  mark_spelled : tail.scope.SpelledBy tail.mark
  inside_open : '"' ∉ tail.inside

end OpenQuote

/-! ### Marks -/

namespace Scope.SpelledBy

variable {scope : Scope} {mark : List Char}

theorem text_iff : Scope.text.SpelledBy mark ↔ mark = [] := List.map_eq_nil_iff

theorem self (scope : Scope) : scope.SpelledBy scope.mark := by
  cases scope <;> decide

theorem toLower_mem (hmark : scope.SpelledBy mark) {c : Char} (hc : c ∈ mark) :
    c.toLower ∈ scope.mark := by
  rw [← hmark]
  exact List.mem_map_of_mem hc

/-- A mark of a scope other than plain text starts with the first letter of the scope's name. -/
theorem exists_cons (hmark : scope.SpelledBy mark) (hscope : scope ≠ .text) :
    ∃ c rest, mark = c :: rest ∧
      (scope = .tag ∧ c.toLower = 't' ∨ scope = .path ∧ c.toLower = 'p') := by
  cases mark with
  | nil => cases scope <;> simp_all [SpelledBy, Scope.mark]
  | cons c rest => cases scope <;> simp_all [SpelledBy, Scope.mark]

end Scope.SpelledBy

theorem toLower_eq_self_of_isBlank {c : Char} (hblank : isBlank c = true) : c.toLower = c := by
  have hplain : (capitals.all fun d => !isBlank d) = true := by decide
  refine toLower_eq_self_of_not_mem_capitals fun hcapital => ?_
  have hnot := List.all_eq_true.1 hplain c hcapital
  rw [hblank] at hnot
  contradiction

theorem eq_colon_of_toLower_eq {c : Char} (hlower : c.toLower = ':') : c = ':' :=
  (toLower_eq_iff (by decide)).1 hlower

theorem Scope.SpelledBy.isBlank_eq_false {scope : Scope} {mark : List Char}
    (hmark : scope.SpelledBy mark) {c : Char} (hc : c ∈ mark) : isBlank c = false := by
  by_contra hblank
  rw [Bool.not_eq_false] at hblank
  have hmem := hmark.toLower_mem hc
  rw [toLower_eq_self_of_isBlank hblank] at hmem
  have hclear : scope.mark.all (!isBlank ·) = true := by cases scope <;> decide
  have hplain := List.all_eq_true.1 hclear c hmem
  rw [hblank] at hplain
  contradiction

theorem unmarked_cons {c : Char} {s : List Char} (htag : c.toLower ≠ 't')
    (hpath : c.toLower ≠ 'p') : Unmarked (c :: s) := by
  intro scope hscope mark hmark hstarts
  obtain ⟨d, rest, rfl, hfirst⟩ := hmark.exists_cons hscope
  obtain ⟨rfl, -⟩ := List.cons_prefix_cons.1 hstarts
  rcases hfirst with ⟨-, ht⟩ | ⟨-, hp⟩
  · exact htag ht
  · exact hpath hp

theorem unmarked_quote (s : List Char) : Unmarked ('"' :: s) :=
  unmarked_cons (by decide) (by decide)

theorem unmarked_of_not_mem_colon {s : List Char} (hcolon : ':' ∉ s) : Unmarked s := by
  intro scope hscope mark hmark hstarts
  have hlast : ':' ∈ mark.map Char.toLower := by
    rw [hmark]
    cases scope <;> simp_all [Scope.mark]
  obtain ⟨c, hc, hlower⟩ := List.mem_map.1 hlast
  exact hcolon (eq_colon_of_toLower_eq hlower ▸ hstarts.subset hc)

namespace Token

/-! ### Scanning the parts -/

theorem splitSign_of_head?_ne {s : List Char} (hs : s.head? ≠ some '-') :
    splitSign s = (false, s) := by
  unfold splitSign
  split
  · simp at hs
  · rfl

theorem splitSign_eq_iff {s rest : List Char} {negated : Bool} :
    splitSign s = (negated, rest) ↔
      s = signText negated ++ rest ∧ (negated = false → rest.head? ≠ some '-') := by
  constructor
  · intro hsplit
    unfold splitSign at hsplit
    split at hsplit
    · cases hsplit
      exact ⟨rfl, fun hfalse => absurd hfalse (by decide)⟩
    · next hminus =>
      cases hsplit
      refine ⟨rfl, fun _ hhead => ?_⟩
      obtain ⟨tail, htail⟩ := List.head?_eq_some_iff.1 hhead
      exact hminus tail htail
  · rintro ⟨rfl, hunsigned⟩
    cases negated with
    | false => exact splitSign_of_head?_ne (hunsigned rfl)
    | true => rfl

theorem afterMark?_eq_some_iff {mark s rest : List Char} :
    afterMark? mark s = some rest ↔ ∃ spelled, spelled.map Char.toLower = mark ∧
      s = spelled ++ rest := by
  induction mark generalizing s with
  | nil => simp [afterMark?, eq_comm]
  | cons m mark ih =>
    cases s with
    | nil => simp [afterMark?]
    | cons c s =>
      rw [afterMark?]
      constructor
      · intro hafter
        split at hafter
        · next hlower =>
          obtain ⟨spelled, hspelled, rfl⟩ := ih.1 hafter
          exact ⟨c :: spelled, by rw [List.map_cons, hlower, hspelled], rfl⟩
        · contradiction
      · rintro ⟨spelled, hspelled, hs⟩
        cases spelled with
        | nil => simp at hspelled
        | cons d spelled =>
          obtain ⟨rfl, rfl⟩ := List.cons.inj hs
          obtain ⟨hlower, hrest⟩ := List.cons.inj hspelled
          rw [if_pos hlower]
          exact ih.2 ⟨spelled, hrest, rfl⟩

theorem splitScope_append {scope : Scope} {mark : List Char} (hmark : scope.SpelledBy mark)
    (hscope : scope ≠ .text) (rest : List Char) : splitScope (mark ++ rest) = (scope, rest) := by
  have hafter : afterMark? scope.mark (mark ++ rest) = some rest :=
    afterMark?_eq_some_iff.2 ⟨mark, hmark, rfl⟩
  unfold splitScope
  cases scope with
  | text => contradiction
  | tag => rw [hafter]
  | path =>
    have htag : afterMark? Scope.tag.mark (mark ++ rest) = none := by
      rw [Option.eq_none_iff_forall_ne_some]
      intro other hother
      obtain ⟨spelled, hspelled, heq⟩ := afterMark?_eq_some_iff.1 hother
      obtain ⟨c, _, rfl, hp⟩ := hmark.exists_cons hscope
      have htag : Scope.tag.SpelledBy spelled := hspelled
      obtain ⟨d, _, rfl, ht⟩ := htag.exists_cons (by decide)
      rw [List.cons_append, List.cons_append] at heq
      rw [(List.cons.inj heq).1] at hp
      simp_all
    rw [htag, hafter]

theorem splitScope_of_unmarked {s : List Char} (hs : Unmarked s) : splitScope s = (.text, s) := by
  have hnone : ∀ scope ≠ Scope.text, afterMark? scope.mark s = none := by
    intro scope hscope
    rw [Option.eq_none_iff_forall_ne_some]
    intro rest hrest
    obtain ⟨mark, hmark, rfl⟩ := afterMark?_eq_some_iff.1 hrest
    exact hs scope hscope mark hmark (List.prefix_append mark rest)
  rw [splitScope, hnone .tag (by decide), hnone .path (by decide)]

theorem splitScope_eq_iff {s rest : List Char} {scope : Scope} :
    splitScope s = (scope, rest) ↔
      ∃ mark, scope.SpelledBy mark ∧ s = mark ++ rest ∧ (scope = .text → Unmarked rest) := by
  constructor
  · intro hsplit
    by_cases hs : Unmarked s
    · rw [splitScope_of_unmarked hs] at hsplit
      cases hsplit
      exact ⟨[], rfl, rfl, fun _ => hs⟩
    · simp only [Unmarked, not_forall, not_not] at hs
      obtain ⟨other, hother, mark, hmark, after, rfl⟩ := hs
      rw [splitScope_append hmark hother] at hsplit
      cases hsplit
      exact ⟨mark, hmark, rfl, fun htext => absurd htext hother⟩
  · rintro ⟨mark, hmark, rfl, hunmarked⟩
    by_cases hscope : scope = .text
    · subst hscope
      rw [Scope.SpelledBy.text_iff.1 hmark]
      exact splitScope_of_unmarked (hunmarked rfl)
    · exact splitScope_append hmark hscope rest

theorem splitQuote?_eq_some_iff {s inside rest : List Char} :
    splitQuote? s = some (inside, rest) ↔ s = inside ++ '"' :: rest ∧ '"' ∉ inside := by
  induction s generalizing inside with
  | nil => simp [splitQuote?]
  | cons c s ih =>
    rw [splitQuote?]
    by_cases hquote : c = '"'
    · subst hquote
      rw [if_pos rfl]
      constructor
      · intro heq
        cases heq
        simp
      · rintro ⟨heq, hinside⟩
        cases inside with
        | nil => simp_all
        | cons d inside => simp_all
    · rw [if_neg hquote]
      constructor
      · intro heq
        obtain ⟨⟨before, after⟩, hfound, hpair⟩ := Option.map_eq_some_iff.1 heq
        cases hpair
        obtain ⟨rfl, hbefore⟩ := ih.1 hfound
        exact ⟨rfl, by simp [hbefore, Ne.symm hquote]⟩
      · rintro ⟨heq, hinside⟩
        cases inside with
        | nil => simp_all
        | cons d inside =>
          obtain ⟨rfl, rfl⟩ := List.cons.inj heq
          rw [ih.2 ⟨rfl, fun hmem => hinside (List.mem_cons_of_mem _ hmem)⟩]
          rfl

theorem splitQuote?_eq_none_iff {s : List Char} : splitQuote? s = none ↔ '"' ∉ s := by
  induction s with
  | nil => simp [splitQuote?]
  | cons c s ih =>
    rw [splitQuote?]
    by_cases hquote : c = '"'
    · simp [hquote]
    · simp [hquote, ih, Ne.symm hquote]

theorem splitWord_eq_iff {s word rest : List Char} :
    splitWord s = (word, rest) ↔
      s = word ++ rest ∧ (∀ c ∈ word, isBlank c = false) ∧ ∀ c ∈ rest.head?, isBlank c = true := by
  rw [splitWord, Prod.mk.injEq]
  constructor
  · rintro ⟨rfl, rfl⟩
    refine ⟨List.takeWhile_append_dropWhile.symm, fun c hc => ?_, fun c hc => ?_⟩
    · simpa using List.mem_takeWhile_imp hc
    · have hhead := List.head?_dropWhile_not (!isBlank ·) s
      rw [Option.mem_def.1 hc] at hhead
      simpa using hhead
  · rintro ⟨rfl, hword, hrest⟩
    have hplain : ∀ c ∈ word, (!isBlank c) = true := by simpa using hword
    rw [List.takeWhile_append_of_pos hplain, List.dropWhile_append_of_pos hplain]
    cases rest with
    | nil => simp
    | cons c rest => simp [hrest c (by simp)]

/-- A body scans to itself and what follows it, if it stops there. -/
theorem scanBody?_eq_some_iff {s rest : List Char} {body : Body} :
    scanBody? s = some (body, rest) ↔
      body.WellFormed ∧ body.StopsAt rest ∧ s = body.text ++ rest := by
  unfold scanBody?
  split
  · next after =>
    cases body with
    | quoted inside =>
      have hquoted : scanBody? ('"' :: after) = some (.quoted inside, rest) ↔
          splitQuote? after = some (inside, rest) := by
        simp only [scanBody?, Option.map_eq_some_iff, Prod.exists, Prod.mk.injEq, Body.quoted.injEq]
        constructor
        · rintro ⟨_, _, hfound, rfl, rfl⟩
          exact hfound
        · exact fun hfound => ⟨inside, rest, hfound, rfl, rfl⟩
      rw [scanBody?] at hquoted
      rw [hquoted, splitQuote?_eq_some_iff]
      simp [Body.WellFormed, Body.StopsAt, Body.text, and_comm]
    | bare word =>
      constructor
      · intro hscan
        simp at hscan
      · rintro ⟨⟨-, hquote⟩, hstops, heq⟩
        cases word with
        | nil =>
          have hblank := hstops '"' (by rw [← show '"' :: after = rest from heq]; rfl)
          exact absurd hblank (by decide)
        | cons c word =>
          obtain ⟨rfl, -⟩ := List.cons.inj heq
          simp at hquote
  · next hquote =>
    cases body with
    | quoted inside =>
      constructor
      · intro hscan
        simp at hscan
      · rintro ⟨-, -, rfl⟩
        exact absurd rfl (hquote _)
    | bare word =>
      simp only [Option.some.injEq, Prod.mk.injEq, Body.bare.injEq]
      rw [← Prod.mk.injEq, splitWord_eq_iff]
      constructor
      · rintro ⟨rfl, hword, hrest⟩
        refine ⟨⟨hword, fun hhead => ?_⟩, hrest, rfl⟩
        obtain ⟨tail, rfl⟩ := List.head?_eq_some_iff.1 hhead
        exact hquote _ rfl
      · rintro ⟨⟨hword, -⟩, hrest, rfl⟩
        exact ⟨rfl, hword, hrest⟩

theorem scanBody?_eq_none_iff {s : List Char} :
    scanBody? s = none ↔ ∃ inside, s = '"' :: inside ∧ '"' ∉ inside := by
  unfold scanBody?
  split
  · next after =>
    rw [Option.map_eq_none_iff, splitQuote?_eq_none_iff]
    simp
  · next hquote =>
    constructor
    · intro hscan
      simp at hscan
    · rintro ⟨inside, rfl, -⟩
      exact absurd rfl (hquote _)

/-! ### Scanning a token -/

theorem scan?_eq_map (s : List Char) :
    scan? s = (scanBody? (splitScope (splitSign s).2).2).map fun (body, rest) =>
      (⟨(splitSign s).1, (splitScope (splitSign s).2).1, body⟩, rest) := rfl

/-- What follows a body completes no mark: the mark would start with the quote of the body or hold
the blank after it. -/
theorem unmarked_append {body : Body} {rest : List Char} (hstops : body.StopsAt rest)
    (hunmarked : Unmarked body.text) : Unmarked (body.text ++ rest) := by
  cases body with
  | quoted inside => exact unmarked_quote _
  | bare word =>
    intro scope hscope mark hmark hstarts
    rcases List.prefix_or_prefix_of_prefix hstarts (List.prefix_append word rest) with
      hword | ⟨tail, rfl⟩
    · exact hunmarked scope hscope mark hmark hword
    · cases tail with
      | nil => exact hunmarked scope hscope _ hmark (by simp [Body.text])
      | cons c tail =>
        obtain ⟨after, rfl⟩ := (List.prefix_append_right_inj word).1 hstarts
        have hblank : isBlank c = true := hstops c rfl
        rw [hmark.isBlank_eq_false (List.mem_append_right _ List.mem_cons_self)] at hblank
        contradiction

theorem scan?_text {lexeme : Lexeme} (hlexeme : lexeme.WellFormed) {rest : List Char}
    (hstops : lexeme.body.StopsAt rest) :
    scan? (lexeme.text ++ rest) = some (lexeme.toToken, rest) := by
  have hsign : splitSign (lexeme.text ++ rest) =
      (lexeme.negated, lexeme.mark ++ (lexeme.body.text ++ rest)) := by
    refine splitSign_eq_iff.2 ⟨by simp [Lexeme.text], fun hnegated hhead => ?_⟩
    have hunsigned := hlexeme.unsigned hnegated
    have hne := hlexeme.text_ne_nil
    simp only [Lexeme.text, signText, hnegated, Bool.false_eq_true, if_false,
      List.nil_append] at hunsigned hne
    rw [← List.append_assoc, List.head?_append_of_ne_nil _ hne] at hhead
    exact hunsigned hhead
  have hscope : splitScope (lexeme.mark ++ (lexeme.body.text ++ rest)) =
      (lexeme.scope, lexeme.body.text ++ rest) :=
    splitScope_eq_iff.2 ⟨lexeme.mark, hlexeme.mark_spelled, rfl, fun htext =>
      unmarked_append hstops (hlexeme.unmarked htext)⟩
  have hbody : scanBody? (lexeme.body.text ++ rest) = some (lexeme.body, rest) :=
    scanBody?_eq_some_iff.2 ⟨hlexeme.body_wellFormed, hstops, rfl⟩
  rw [scan?_eq_map, hsign, hscope, hbody]
  rfl

/-- Whatever scans is a lexeme of its token and what follows it. -/
theorem exists_lexeme_of_scan? {s rest : List Char} {token : Token} (hstart : StartsPlain s)
    (hne : s ≠ []) (hscan : scan? s = some (token, rest)) :
    ∃ lexeme : Lexeme, lexeme.toToken = token ∧ lexeme.WellFormed ∧ lexeme.body.StopsAt rest ∧
      s = lexeme.text ++ rest := by
  obtain ⟨negated, signed, hsign⟩ : ∃ negated signed, splitSign s = (negated, signed) :=
    ⟨_, _, rfl⟩
  obtain ⟨scope, marked, hscope⟩ : ∃ scope marked, splitScope signed = (scope, marked) :=
    ⟨_, _, rfl⟩
  rw [scan?_eq_map, hsign, hscope] at hscan
  obtain ⟨⟨body, after⟩, hbody, heq⟩ := Option.map_eq_some_iff.1 hscan
  cases heq
  obtain ⟨rfl, hunsigned⟩ := splitSign_eq_iff.1 hsign
  obtain ⟨mark, hmark, rfl, hunmarked⟩ := splitScope_eq_iff.1 hscope
  obtain ⟨hwellFormed, hstops, rfl⟩ := scanBody?_eq_some_iff.1 hbody
  have hnonempty : signText negated ++ (mark ++ body.text) ≠ [] := by
    intro htext
    simp only [List.append_eq_nil_iff] at htext
    obtain ⟨hsigned, rfl, hnil⟩ := htext
    rw [hsigned, hnil] at hstart hne
    cases body with
    | quoted inside => simp [Body.text] at hnil
    | bare word =>
      obtain ⟨c, tail, rfl⟩ := List.exists_cons_of_ne_nil hne
      have hplain := hstart c rfl
      rw [hstops c rfl] at hplain
      contradiction
  refine ⟨⟨⟨negated, scope, body⟩, mark⟩, rfl, ⟨hmark, hwellFormed, hnonempty, ?_, ?_⟩, hstops,
    by simp [Lexeme.text]⟩
  · intro hnegated hhead
    have hfalse : negated = false := hnegated
    subst hfalse
    have hminus : (mark ++ body.text).head? = some '-' := hhead
    refine hunsigned rfl ?_
    rw [← List.append_assoc, List.head?_append, hminus, Option.some_or]
  · intro htext other hother spelled hspelled hstarts
    exact hunmarked htext other hother spelled hspelled (hstarts.trans (List.prefix_append _ _))

theorem splitSign_openQuote {tail : OpenQuote} (htail : tail.WellFormed) :
    splitSign tail.text = (tail.negated, tail.mark ++ '"' :: tail.inside) := by
  refine splitSign_eq_iff.2 ⟨rfl, fun _ hhead => ?_⟩
  cases hmark : tail.mark with
  | nil =>
    rw [hmark] at hhead
    simp at hhead
  | cons c mark =>
    rw [hmark] at hhead
    have hminus : c = '-' := by simpa using hhead
    have hmem := htail.mark_spelled.toLower_mem (c := c) (by simp [hmark])
    rw [hminus] at hmem
    exact absurd hmem (by cases tail.scope <;> decide)

theorem splitScope_openQuote {tail : OpenQuote} (htail : tail.WellFormed) :
    splitScope (tail.mark ++ '"' :: tail.inside) = (tail.scope, '"' :: tail.inside) :=
  splitScope_eq_iff.2 ⟨tail.mark, htail.mark_spelled, rfl, fun _ => unmarked_quote _⟩

theorem scan?_eq_none_iff {s : List Char} :
    scan? s = none ↔ ∃ tail : OpenQuote, tail.WellFormed ∧ s = tail.text := by
  constructor
  · intro hscan
    obtain ⟨negated, signed, hsign⟩ : ∃ negated signed, splitSign s = (negated, signed) :=
      ⟨_, _, rfl⟩
    obtain ⟨scope, marked, hscope⟩ : ∃ scope marked, splitScope signed = (scope, marked) :=
      ⟨_, _, rfl⟩
    rw [scan?_eq_map, hsign, hscope, Option.map_eq_none_iff] at hscan
    obtain ⟨inside, rfl, hinside⟩ := scanBody?_eq_none_iff.1 hscan
    obtain ⟨rfl, -⟩ := splitSign_eq_iff.1 hsign
    obtain ⟨mark, hmark, rfl, -⟩ := splitScope_eq_iff.1 hscope
    exact ⟨⟨negated, scope, mark, inside⟩, ⟨hmark, hinside⟩, rfl⟩
  · rintro ⟨tail, htail, rfl⟩
    rw [scan?_eq_map, splitSign_openQuote htail, splitScope_openQuote htail,
      Option.map_eq_none_iff, scanBody?_eq_none_iff]
    exact ⟨tail.inside, rfl, htail.inside_open⟩

end Token

end NoteCards

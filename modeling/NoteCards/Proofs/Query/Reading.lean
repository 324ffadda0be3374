import NoteCards.Proofs.Query.Spelling
import Mathlib.Logic.ExistsUnique

/-!
# Every line is read in one way

A reading of a line is blanks, then lexemes each with the blanks after it, and at the end possibly a
quote that stays open. A lexeme with a bare body is followed by a blank or by nothing, so that it
could not have been longer.

Every line has exactly one reading (`existsUnique_reading`), and the terms of the line are the terms
of the lexemes in it. Both halves come from scanning being the inverse of spelling:
`ofChars_append_text` walks down a given reading, `exists_reading` walks down the line, and two
readings of the same text agree because each step scans to the same token and leaves the same rest.
-/

namespace NoteCards

open NoteCards.Text

/-- What a line is made of after its leading blanks. -/
inductive Layout where
  | done
  | unclosed (tail : OpenQuote)
  | token (lexeme : Lexeme) (gap : List Char) (rest : Layout)

namespace Layout

def text : Layout → List Char
  | done => []
  | unclosed tail => tail.text
  | token lexeme gap rest => lexeme.text ++ (gap ++ rest.text)

/-- Only blanks stand between lexemes, and a bare body is followed by one or ends the line. -/
def WellFormed : Layout → Prop
  | done => True
  | unclosed tail => tail.WellFormed
  | token lexeme gap rest =>
    lexeme.WellFormed ∧ (∀ c ∈ gap, isBlank c = true) ∧
      (∀ word, lexeme.body = .bare word → gap ≠ [] ∨ rest = done) ∧ rest.WellFormed

def lexemes : Layout → List Lexeme
  | done => []
  | unclosed _ => []
  | token lexeme _ rest => lexeme :: rest.lexemes

def isOpen : Layout → Bool
  | done => false
  | unclosed _ => true
  | token _ _ rest => rest.isOpen

end Layout

structure Reading where
  lead : List Char
  layout : Layout

/-- A reading is one of a line when it is well formed and spells the line. -/
structure Reading.IsOf (reading : Reading) (line : List Char) : Prop where
  lead_blank : ∀ c ∈ reading.lead, isBlank c = true
  layout_wellFormed : reading.layout.WellFormed
  spells : line = reading.lead ++ reading.layout.text

/-! ### The terms of a reading -/

/-- The text that a lexeme asks for: a word, or a quoted text without the blanks at its ends; after
the mark of a tag without one leading `#`. -/
def Lexeme.wanted (lexeme : Lexeme) : List Char :=
  match lexeme.scope, lexeme.body with
  | .tag, .quoted inside => dropHash (trim inside)
  | .tag, .bare word => dropHash word
  | _, .quoted inside => trim inside
  | _, .bare word => word

/-- The term of a lexeme that asks for some text. -/
def Lexeme.term (lexeme : Lexeme) : Term :=
  ⟨lexeme.scope, String.ofList (lower lexeme.wanted), lexeme.negated⟩

def Layout.terms (layout : Layout) : List Term :=
  (layout.lexemes.filter fun lexeme => !lexeme.wanted.isEmpty).map Lexeme.term

theorem ofToken?_toToken (lexeme : Lexeme) :
    Term.ofToken? lexeme.toToken = if lexeme.wanted.isEmpty then none else some lexeme.term := by
  obtain ⟨⟨negated, scope, body⟩, mark⟩ := lexeme
  cases scope <;> cases body <;> rfl

theorem filterMap_ofToken? (lexemes : List Lexeme) :
    (lexemes.map Lexeme.toToken).filterMap Term.ofToken? =
      (lexemes.filter fun lexeme => !lexeme.wanted.isEmpty).map Lexeme.term := by
  induction lexemes with
  | nil => rfl
  | cons lexeme lexemes ih =>
    rw [List.map_cons, List.filterMap_cons, ofToken?_toToken, List.filter_cons]
    cases hwanted : lexeme.wanted.isEmpty with
    | true => simpa using ih
    | false => simpa using ih

/-! ### Spellings start with no blank -/

theorem signText_plain (negated : Bool) {c : Char} (hc : c ∈ signText negated) :
    isBlank c = false := by
  cases negated with
  | false => simp [signText] at hc
  | true =>
    rw [List.mem_singleton.1 hc]
    decide

theorem Lexeme.WellFormed.startsPlain {lexeme : Lexeme} (hlexeme : lexeme.WellFormed) :
    StartsPlain lexeme.text := by
  refine startsPlain_append (fun c => signText_plain _) (startsPlain_append
    (fun c => hlexeme.mark_spelled.isBlank_eq_false) ?_)
  have hbody := hlexeme.body_wellFormed
  cases heq : lexeme.body with
  | quoted inside =>
    intro c hc
    cases hc
    decide
  | bare word =>
    rw [heq] at hbody
    exact fun c hc => hbody.1 c (List.mem_of_mem_head? hc)

theorem Lexeme.WellFormed.startsPlain_append {lexeme : Lexeme} (hlexeme : lexeme.WellFormed)
    (rest : List Char) : StartsPlain (lexeme.text ++ rest) := by
  intro c hc
  rw [List.head?_append_of_ne_nil _ hlexeme.text_ne_nil] at hc
  exact hlexeme.startsPlain c hc

theorem OpenQuote.WellFormed.startsPlain {tail : OpenQuote} (htail : tail.WellFormed) :
    StartsPlain tail.text := by
  refine startsPlain_append (fun c => signText_plain _) (startsPlain_append
    (fun c => htail.mark_spelled.isBlank_eq_false) ?_)
  intro c hc
  cases hc
  decide

theorem OpenQuote.text_ne_nil (tail : OpenQuote) : tail.text ≠ [] := by
  simp [OpenQuote.text]

namespace Layout

theorem WellFormed.startsPlain {layout : Layout} (hlayout : layout.WellFormed) :
    StartsPlain layout.text := by
  cases layout with
  | done =>
    intro c hc
    cases hc
  | unclosed tail => exact OpenQuote.WellFormed.startsPlain hlayout
  | token lexeme gap rest => exact hlayout.1.startsPlain_append _

theorem WellFormed.text_eq_nil_iff {layout : Layout} (hlayout : layout.WellFormed) :
    layout.text = [] ↔ layout = done := by
  cases layout with
  | done => simp [text]
  | unclosed tail => simp [text, tail.text_ne_nil]
  | token lexeme gap rest => simp [text, hlayout.1.text_ne_nil]

/-- A lexeme of a layout stops where the next blanks or the end of the line are. -/
theorem WellFormed.stopsAt {lexeme : Lexeme} {gap : List Char} {rest : Layout}
    (hlayout : (token lexeme gap rest).WellFormed) : lexeme.body.StopsAt (gap ++ rest.text) := by
  obtain ⟨-, hgap, hbare, -⟩ := hlayout
  cases heq : lexeme.body with
  | quoted inside => trivial
  | bare word =>
    intro c hc
    cases gap with
    | nil =>
      obtain hne | rfl := hbare word heq
      · exact absurd rfl hne
      · cases hc
    | cons d gap =>
      cases hc
      exact hgap _ List.mem_cons_self

theorem WellFormed.scan?_text {lexeme : Lexeme} {gap : List Char} {rest : Layout}
    (hlayout : (token lexeme gap rest).WellFormed) :
    Token.scan? (token lexeme gap rest).text = some (lexeme.toToken, gap ++ rest.text) :=
  Token.scan?_text hlayout.1 hlayout.stopsAt

end Layout

/-! ### One step of cutting a line -/

namespace TokenLine

theorem ofChars_of_trimStart_eq_nil {s : List Char} (hs : trimStart s = []) :
    ofChars s = ⟨[], false⟩ := by
  rw [ofChars]
  split
  · rfl
  · next hcons =>
    rw [hs] at hcons
    contradiction

theorem ofChars_of_scan?_eq_none {s : List Char} (hne : trimStart s ≠ [])
    (hscan : Token.scan? (trimStart s) = none) : ofChars s = ⟨[], true⟩ := by
  rw [ofChars]
  split
  · next hnil => exact absurd hnil hne
  · next hcons =>
    rw [hcons] at hscan
    split
    · rfl
    · next hsome =>
      rw [hscan] at hsome
      contradiction

theorem ofChars_of_scan?_eq_some {s rest : List Char} {token : Token} (hne : trimStart s ≠ [])
    (hscan : Token.scan? (trimStart s) = some (token, rest)) :
    ofChars s = ⟨token :: (ofChars rest).tokens, (ofChars rest).openQuote⟩ := by
  rw [ofChars]
  split
  · next hnil => exact absurd hnil hne
  · next hcons =>
    rw [hcons] at hscan
    split
    · next hnone =>
      rw [hscan] at hnone
      contradiction
    · next hsome =>
      rw [hscan] at hsome
      cases hsome
      rfl

/-- Blanks and a lexeme at the start of a line give one token; the others are those of the rest. -/
theorem ofChars_lexeme_append {lead rest : List Char} {lexeme : Lexeme}
    (hlead : ∀ c ∈ lead, isBlank c = true) (hlexeme : lexeme.WellFormed)
    (hstops : lexeme.body.StopsAt rest) :
    ofChars (lead ++ (lexeme.text ++ rest)) =
      ⟨lexeme.toToken :: (ofChars rest).tokens, (ofChars rest).openQuote⟩ := by
  have htrim := trimStart_append hlead (hlexeme.startsPlain_append rest)
  refine ofChars_of_scan?_eq_some ?_ ?_
  · rw [htrim]
    simp [hlexeme.text_ne_nil]
  · rw [htrim]
    exact Token.scan?_text hlexeme hstops

theorem ofChars_openQuote {lead : List Char} {tail : OpenQuote}
    (hlead : ∀ c ∈ lead, isBlank c = true) (htail : tail.WellFormed) :
    ofChars (lead ++ tail.text) = ⟨[], true⟩ := by
  have htrim := trimStart_append hlead htail.startsPlain
  refine ofChars_of_scan?_eq_none ?_ ?_
  · rw [htrim]
    exact tail.text_ne_nil
  · rw [htrim]
    exact Token.scan?_eq_none_iff.2 ⟨tail, htail, rfl⟩

theorem ofChars_append_text {lead : List Char} {layout : Layout}
    (hlead : ∀ c ∈ lead, isBlank c = true) (hlayout : layout.WellFormed) :
    ofChars (lead ++ layout.text) = ⟨layout.lexemes.map Lexeme.toToken, layout.isOpen⟩ := by
  induction layout generalizing lead with
  | done => exact ofChars_of_trimStart_eq_nil (trimStart_append hlead hlayout.startsPlain)
  | unclosed tail => exact ofChars_openQuote hlead hlayout
  | token lexeme gap rest ih =>
    rw [Layout.text, ofChars_lexeme_append hlead hlayout.1 hlayout.stopsAt,
      ih hlayout.2.1 hlayout.2.2.2]
    rfl

end TokenLine

/-- The terms of a line are the terms of any reading of it. -/
theorem termsOf_eq_terms {reading : Reading} {line : List Char} (hreading : reading.IsOf line) :
    Query.termsOf line = reading.layout.terms := by
  rw [Query.termsOf, hreading.spells,
    TokenLine.ofChars_append_text hreading.lead_blank hreading.layout_wellFormed]
  exact filterMap_ofToken? reading.layout.lexemes

/-- A lexeme at the start of a line gives its term, if it asks for anything, before the others. -/
theorem termsOf_text_append {lexeme : Lexeme} (hlexeme : lexeme.WellFormed) {rest : List Char}
    (hstops : lexeme.body.StopsAt rest) :
    Query.termsOf (lexeme.text ++ rest) =
      (Term.ofToken? lexeme.toToken).toList ++ Query.termsOf rest := by
  have hline := TokenLine.ofChars_lexeme_append (List.forall_mem_nil _) hlexeme hstops
  rw [List.nil_append] at hline
  rw [Query.termsOf, hline, List.filterMap_cons]
  cases Term.ofToken? lexeme.toToken <;> rfl

/-! ### Every line has a reading -/

theorem exists_reading (line : List Char) : ∃ reading : Reading, reading.IsOf line := by
  induction hlength : line.length using Nat.strongRecOn generalizing line with
  | ind n ih =>
    have hblank : ∀ c ∈ line.takeWhile isBlank, isBlank c = true := fun c hc =>
      List.mem_takeWhile_imp hc
    have hline : line = line.takeWhile isBlank ++ trimStart line :=
      List.takeWhile_append_dropWhile.symm
    have hstart := startsPlain_trimStart line
    by_cases hne : trimStart line = []
    · exact ⟨⟨line.takeWhile isBlank, .done⟩, hblank, trivial, by rw [hne] at hline; exact hline⟩
    · cases hscan : Token.scan? (trimStart line) with
      | none =>
        obtain ⟨tail, htail, htext⟩ := Token.scan?_eq_none_iff.1 hscan
        exact ⟨⟨line.takeWhile isBlank, .unclosed tail⟩, hblank, htail,
          by rw [htext] at hline; exact hline⟩
      | some found =>
        obtain ⟨token, rest⟩ := found
        obtain ⟨lexeme, -, hlexeme, hstops, htext⟩ := Token.exists_lexeme_of_scan? hstart hne hscan
        have hshorter : rest.length < n := by
          have hpos := List.length_pos_of_ne_nil hlexeme.text_ne_nil
          rw [← hlength, hline, htext]
          simp only [List.length_append]
          omega
        obtain ⟨⟨gap, layout⟩, hgap, hlayout, hrest⟩ := ih rest.length hshorter rest rfl
        refine ⟨⟨line.takeWhile isBlank, .token lexeme gap layout⟩, hblank,
          ⟨hlexeme, hgap, fun word hbare => ?_, hlayout⟩, ?_⟩
        · -- a word that touched the next lexeme would have gone on
          by_cases hgapNil : gap = []
          · subst hgapNil
            refine .inr (hlayout.text_eq_nil_iff.1 ?_)
            rw [hbare, hrest] at hstops
            cases hrestText : layout.text with
            | nil => rfl
            | cons c after =>
              have hplain := hlayout.startsPlain c (by rw [hrestText]; rfl)
              have hblank := hstops c (by simp [hrestText])
              rw [hplain] at hblank
              contradiction
          · exact .inl hgapNil
        · rw [htext, hrest] at hline
          exact hline

/-! ### No line has two readings -/

/-- Blanks and a text without leading blanks are found again in what they make up. -/
theorem append_inj_of_startsPlain {lead other s t : List Char}
    (hlead : ∀ c ∈ lead, isBlank c = true) (hother : ∀ c ∈ other, isBlank c = true)
    (hs : StartsPlain s) (ht : StartsPlain t) (heq : lead ++ s = other ++ t) :
    lead = other ∧ s = t := by
  have htrim := congrArg trimStart heq
  rw [trimStart_append hlead hs, trimStart_append hother ht] at htrim
  subst htrim
  exact ⟨List.append_cancel_right heq, rfl⟩

/-- The sign, the mark and the body of a token leave no choice of its mark's letters. -/
theorem Lexeme.eq_of_text_eq {lexeme other : Lexeme} (htoken : lexeme.toToken = other.toToken)
    (htext : lexeme.text = other.text) : lexeme = other := by
  obtain ⟨token, mark⟩ := lexeme
  obtain ⟨token', mark'⟩ := other
  cases htoken
  have hmark : mark = mark' :=
    List.append_cancel_right (List.append_cancel_left htext)
  rw [hmark]

theorem OpenQuote.eq_of_text_eq {tail other : OpenQuote} (htail : tail.WellFormed)
    (hother : other.WellFormed) (htext : tail.text = other.text) : tail = other := by
  have hsign := Token.splitSign_openQuote htail
  rw [htext, Token.splitSign_openQuote hother] at hsign
  obtain ⟨hnegated, hmarked⟩ := Prod.mk.inj hsign
  have hscope := Token.splitScope_openQuote htail
  rw [← hmarked, Token.splitScope_openQuote hother] at hscope
  obtain ⟨hscope, hinside⟩ := Prod.mk.inj hscope
  obtain ⟨negated, scope, mark, inside⟩ := tail
  obtain ⟨negated', scope', mark', inside'⟩ := other
  simp only at hnegated hscope hinside hmarked
  cases hnegated
  cases hscope
  cases hinside
  rw [List.append_cancel_right hmarked]

theorem Layout.eq_of_text_eq {layout other : Layout} (hlayout : layout.WellFormed)
    (hother : other.WellFormed) (htext : layout.text = other.text) : layout = other := by
  induction layout generalizing other with
  | done => exact (hother.text_eq_nil_iff.1 htext.symm).symm
  | unclosed tail =>
    have hscan : Token.scan? tail.text = none := Token.scan?_eq_none_iff.2 ⟨tail, hlayout, rfl⟩
    cases other with
    | done => exact absurd htext tail.text_ne_nil
    | unclosed tail' => rw [OpenQuote.eq_of_text_eq hlayout hother htext]
    | token lexeme gap rest =>
      have hsome := hother.scan?_text
      rw [← htext] at hsome
      exact absurd (hscan.symm.trans hsome) (by simp)
  | token lexeme gap rest ih =>
    have hsome := hlayout.scan?_text
    cases other with
    | done => exact hlayout.text_eq_nil_iff.1 htext
    | unclosed tail =>
      have hscan : Token.scan? tail.text = none := Token.scan?_eq_none_iff.2 ⟨tail, hother, rfl⟩
      rw [htext] at hsome
      exact absurd (hscan.symm.trans hsome) (by simp)
    | token lexeme' gap' rest' =>
      rw [htext, hother.scan?_text, Option.some.injEq, Prod.mk.injEq] at hsome
      obtain ⟨htoken, hrest⟩ := hsome
      have hlexeme : lexeme = lexeme' := by
        refine Lexeme.eq_of_text_eq htoken.symm ?_
        rw [Layout.text, Layout.text, ← hrest] at htext
        exact List.append_cancel_right htext
      obtain ⟨rfl, hrestText⟩ := append_inj_of_startsPlain hother.2.1 hlayout.2.1
        hother.2.2.2.startsPlain hlayout.2.2.2.startsPlain hrest
      rw [hlexeme, ih hlayout.2.2.2 hother.2.2.2 hrestText.symm]

theorem Reading.eq_of_isOf {reading other : Reading} {line : List Char}
    (hreading : reading.IsOf line) (hother : other.IsOf line) : reading = other := by
  obtain ⟨lead, layout⟩ := reading
  obtain ⟨lead', layout'⟩ := other
  obtain ⟨rfl, htext⟩ := append_inj_of_startsPlain hreading.lead_blank hother.lead_blank
    hreading.layout_wellFormed.startsPlain hother.layout_wellFormed.startsPlain
    (hreading.spells.symm.trans hother.spells)
  have hlayout := Layout.eq_of_text_eq hreading.layout_wellFormed hother.layout_wellFormed htext
  simp only at hlayout
  rw [hlayout]

/-- **The grammar of a line.** A line has exactly one reading, and its query has the terms of that
reading, in order and with repetitions. An open quote and a lexeme that asks for nothing give
none. -/
theorem existsUnique_reading (line : String) :
    (∃! reading : Reading, reading.IsOf line.toList) ∧
      ∀ reading : Reading, reading.IsOf line.toList →
        (Query.parse line).terms = reading.layout.terms := by
  obtain ⟨reading, hreading⟩ := exists_reading line.toList
  exact ⟨⟨reading, hreading, fun other hother => Reading.eq_of_isOf hother hreading⟩,
    fun other hother => termsOf_eq_terms hother⟩

end NoteCards

import NoteCards.Proofs.Query.Reading

/-!
# Lines that grow

A query is read anew at every keystroke, so it matters which of its terms can still change. Reading
looks ahead for a quote, for a blank and for a mark, and each of these searches runs over the whole
rest of the line; yet none of them gets past the token that it is made for. So a line reads as its
*settled* tokens, all but the last, before a shorter line that holds the last one alone
(`exists_endsIn`), and whatever is typed behind the line meets only that ending.

What it does there depends on the ending. Blanks close a word or a quoted text, and what follows
them is read as if it stood alone; an open quote takes in everything up to the next quote.
-/

namespace NoteCards

open NoteCards.Text

namespace TokenLine

/-- A line with other tokens before its own. -/
def behind (line : TokenLine) (tokens : List Token) : TokenLine :=
  ⟨tokens ++ line.tokens, line.openQuote⟩

/-- The tokens before the last one, or all of them where a quote stays open behind them. -/
def settled (line : TokenLine) : List Token :=
  if line.openQuote then line.tokens else line.tokens.dropLast

theorem behind_nil (line : TokenLine) : line.behind [] = line := rfl

theorem behind_behind (line : TokenLine) (tokens before : List Token) :
    (line.behind tokens).behind before = line.behind (before ++ tokens) := by
  simp [behind]

theorem settled_behind {line : TokenLine} (hline : line.openQuote = true ∨ line.tokens ≠ [])
    (before : List Token) : (line.behind before).settled = before ++ line.settled := by
  unfold settled behind
  cases hopen : line.openQuote with
  | true => simp
  | false =>
    have hne : line.tokens ≠ [] := by simpa [hopen] using hline
    simp [List.dropLast_append_of_ne_nil hne]

theorem ofChars_of_isOf {reading : Reading} {line : List Char} (hreading : reading.IsOf line) :
    ofChars line = ⟨reading.layout.lexemes.map Lexeme.toToken, reading.layout.isOpen⟩ := by
  rw [hreading.spells, ofChars_append_text hreading.lead_blank hreading.layout_wellFormed]

theorem ofChars_blanks_append {blanks : List Char} (hblanks : ∀ c ∈ blanks, isBlank c = true)
    (s : List Char) : ofChars (blanks ++ s) = ofChars s := by
  obtain ⟨⟨lead, layout⟩, hreading⟩ := exists_reading s
  have hlonger : Reading.IsOf ⟨blanks ++ lead, layout⟩ (blanks ++ s) := by
    refine ⟨List.forall_mem_append.2 ⟨hblanks, hreading.lead_blank⟩,
      hreading.layout_wellFormed, ?_⟩
    rw [hreading.spells, List.append_assoc]
  rw [ofChars_of_isOf hlonger, ofChars_of_isOf hreading]

end TokenLine

/-! ### What a longer line keeps -/

/-- What may follow a body may itself be followed by anything, unless it is nothing. -/
theorem Body.StopsAt.append {body : Body} {rest more : List Char} (hstops : body.StopsAt rest)
    (hmore : rest = [] → ∀ c ∈ more.head?, isBlank c = true) : body.StopsAt (rest ++ more) := by
  cases body with
  | quoted inside => trivial
  | bare word =>
    cases rest with
    | nil => exact hmore rfl
    | cons c rest => exact hstops

theorem OpenQuote.WellFormed.append {tail : OpenQuote} (htail : tail.WellFormed) {s : List Char}
    (hs : '"' ∉ s) : ({ tail with inside := tail.inside ++ s } : OpenQuote).WellFormed := by
  refine ⟨htail.mark_spelled, fun hmem => ?_⟩
  rcases List.mem_append.1 hmem with hinside | hmem
  · exact htail.inside_open hinside
  · exact hs hmem

namespace TokenLine

theorem ofChars_token {lead gap : List Char} {lexeme : Lexeme} {rest : Layout}
    (hlead : ∀ c ∈ lead, isBlank c = true) (hlayout : (Layout.token lexeme gap rest).WellFormed) :
    ofChars (lead ++ (Layout.token lexeme gap rest).text) =
      (ofChars (gap ++ rest.text)).behind [lexeme.toToken] :=
  ofChars_lexeme_append hlead hlayout.1 hlayout.stopsAt

/-- A lexeme with more behind it than blanks stops at the same place in every longer line. -/
theorem ofChars_token_append {lead gap : List Char} {lexeme : Lexeme} {rest : Layout}
    (hlead : ∀ c ∈ lead, isBlank c = true) (hlayout : (Layout.token lexeme gap rest).WellFormed)
    (hrest : rest ≠ .done) (more : List Char) :
    ofChars (lead ++ (Layout.token lexeme gap rest).text ++ more) =
      (ofChars (gap ++ rest.text ++ more)).behind [lexeme.toToken] := by
  have htext : rest.text ≠ [] := fun hnil => hrest (hlayout.2.2.2.text_eq_nil_iff.1 hnil)
  have hstops : lexeme.body.StopsAt (gap ++ rest.text ++ more) :=
    hlayout.stopsAt.append fun hnil => absurd (List.append_eq_nil_iff.1 hnil).2 htext
  rw [Layout.text, List.append_assoc, List.append_assoc]
  exact ofChars_lexeme_append hlead hlayout.1 hstops

/-- Blanks end the last token of a line that leaves no quote open, and the rest is read alone. -/
theorem ofChars_text_append {lead more : List Char} {layout : Layout}
    (hlead : ∀ c ∈ lead, isBlank c = true) (hlayout : layout.WellFormed)
    (hclosed : layout.isOpen = false) (hmore : ∀ c ∈ more.head?, isBlank c = true) :
    ofChars (lead ++ (layout.text ++ more)) =
      (ofChars more).behind (layout.lexemes.map Lexeme.toToken) := by
  induction layout generalizing lead with
  | done => exact ofChars_blanks_append hlead more
  | unclosed tail => exact absurd hclosed (by simp [Layout.isOpen])
  | token lexeme gap rest ih =>
    have hstops : lexeme.body.StopsAt (gap ++ rest.text ++ more) :=
      hlayout.stopsAt.append fun _ => hmore
    rw [Layout.text, List.append_assoc, ofChars_lexeme_append hlead hlayout.1 hstops,
      List.append_assoc, ih hlayout.2.1 hlayout.2.2.2 hclosed]
    rfl

/-- An open quote takes in everything before the next quote. -/
theorem ofChars_open_append {lead more : List Char} {layout : Layout}
    (hlead : ∀ c ∈ lead, isBlank c = true) (hlayout : layout.WellFormed)
    (hopen : layout.isOpen = true) (hmore : '"' ∉ more) :
    ofChars (lead ++ layout.text ++ more) = ofChars (lead ++ layout.text) := by
  induction layout generalizing lead with
  | done => exact absurd hopen (by simp [Layout.isOpen])
  | unclosed tail =>
    have hlonger := ofChars_openQuote hlead (OpenQuote.WellFormed.append hlayout hmore)
    have hnow : ofChars (lead ++ tail.text) = ⟨[], true⟩ := ofChars_openQuote hlead hlayout
    rw [Layout.text, hnow, ← hlonger]
    simp [OpenQuote.text]
  | token lexeme gap rest ih =>
    have hrest : rest ≠ .done := by
      rintro rfl
      exact absurd hopen (by simp [Layout.isOpen])
    rw [ofChars_token_append hlead hlayout hrest, ih hlayout.2.1 hlayout.2.2.2 hopen,
      ofChars_token hlead hlayout]

theorem ofChars_append_of_closed {line : List Char} (hclosed : (ofChars line).openQuote = false)
    {blanks : List Char} (hblanks : ∀ c ∈ blanks, isBlank c = true) (hne : blanks ≠ [])
    (s : List Char) :
    ofChars (line ++ blanks ++ s) = (ofChars s).behind (ofChars line).tokens := by
  obtain ⟨reading, hreading⟩ := exists_reading line
  rw [ofChars_of_isOf hreading] at hclosed
  have hhead : ∀ c ∈ (blanks ++ s).head?, isBlank c = true := by
    intro c hc
    rw [List.head?_append_of_ne_nil _ hne] at hc
    exact hblanks c (List.mem_of_mem_head? hc)
  rw [ofChars_of_isOf hreading, List.append_assoc, hreading.spells, List.append_assoc,
    ofChars_text_append hreading.lead_blank hreading.layout_wellFormed hclosed hhead,
    ofChars_blanks_append hblanks]

theorem ofChars_append_of_open {line : List Char} (hopen : (ofChars line).openQuote = true)
    {s : List Char} (hs : '"' ∉ s) : ofChars (line ++ s) = ofChars line := by
  obtain ⟨reading, hreading⟩ := exists_reading line
  rw [ofChars_of_isOf hreading] at hopen
  rw [hreading.spells]
  exact ofChars_open_append hreading.lead_blank hreading.layout_wellFormed hopen hs

end TokenLine

namespace Query

/-- Reading the line token by token ends at a quote that is never closed. -/
def leavesOpen (line : String) : Bool :=
  (TokenLine.ofChars line.toList).openQuote

/-- **Lines behind lines.** Behind a line that leaves no quote open and a blank, another line adds
its own terms and changes none. A line that leaves a quote open goes on without a change up to the
next quote. -/
theorem parse_append (line : String) :
    (leavesOpen line = false →
        ∀ blanks s : String, blanks ≠ "" → (∀ c ∈ blanks.toList, isBlank c = true) →
          (parse (line ++ blanks ++ s)).terms = (parse line).terms ++ (parse s).terms) ∧
      (leavesOpen line = true →
        ∀ s : String, '"' ∉ s.toList → parse (line ++ s) = parse line) := by
  constructor
  · intro hclosed blanks s hne hblanks
    have hnonempty : blanks.toList ≠ [] := fun hnil => hne (String.toList_eq_nil_iff.1 hnil)
    have hread := TokenLine.ofChars_append_of_closed hclosed hblanks hnonempty s.toList
    rw [parse, termsOf, String.toList_append, String.toList_append, hread]
    exact List.filterMap_append
  · intro hopen s hs
    rw [parse, termsOf, String.toList_append, TokenLine.ofChars_append_of_open hopen hs]
    rfl

theorem parse_append_shopping :
    leavesOpen "- tag:" = false ∧ "\u3000" ≠ "" ∧ (∀ c ∈ "\u3000".toList, isBlank c = true) ∧
      (parse ("- tag:" ++ "\u3000" ++ "x")).terms = (parse "- tag:").terms ++ (parse "x").terms ∧
      leavesOpen "milk path:\"a " = true ∧ '"' ∉ " tag:b".toList ∧
      parse ("milk path:\"a " ++ " tag:b") = parse "milk path:\"a " := by
  have hclosed : leavesOpen "- tag:" = false := by decide +kernel
  have hopen : leavesOpen "milk path:\"a " = true := by decide +kernel
  have hblank : ∀ c ∈ "\u3000".toList, isBlank c = true :=
    List.all_eq_true.1 (by decide +kernel)
  have hquote : '"' ∉ " tag:b".toList := by decide
  have hne : "\u3000" ≠ "" := by decide
  exact ⟨hclosed, hne, hblank, (parse_append _).1 hclosed _ _ hne hblank, hopen, hquote,
    (parse_append _).2 hopen _ hquote⟩

end Query

/-! ### The ending of a line -/

namespace TokenLine

/-- A line ends in another one, of its last token alone or of the quote that stays open in it: what
is typed behind the first is read as if it were typed behind the second, after the settled
tokens. -/
structure EndsIn (line typed : List Char) : Prop where
  typed_suffix : typed <:+ line
  settled_typed : (ofChars typed).settled = []
  ofChars_append : ∀ more, ofChars (line ++ more) =
    (ofChars (typed ++ more)).behind (ofChars line).settled

theorem endsIn_self {line : List Char} (hsettled : (ofChars line).settled = []) :
    EndsIn line line := by
  refine ⟨List.suffix_rfl, hsettled, fun more => ?_⟩
  rw [hsettled, behind_nil]

/-- A lexeme before the last one is settled, whatever the line ends in. -/
theorem EndsIn.token {lead gap typed : List Char} {lexeme : Lexeme} {rest : Layout}
    (hlead : ∀ c ∈ lead, isBlank c = true) (hlayout : (Layout.token lexeme gap rest).WellFormed)
    (hrest : rest ≠ .done) (hends : EndsIn (gap ++ rest.text) typed) :
    EndsIn (lead ++ (Layout.token lexeme gap rest).text) typed := by
  have hlater : (ofChars (gap ++ rest.text)).openQuote = true ∨
      (ofChars (gap ++ rest.text)).tokens ≠ [] := by
    rw [ofChars_append_text hlayout.2.1 hlayout.2.2.2]
    cases rest with
    | done => exact absurd rfl hrest
    | unclosed tail => exact .inl rfl
    | token next gap rest => exact .inr (List.cons_ne_nil _ _)
  refine ⟨?_, hends.settled_typed, fun more => ?_⟩
  · exact hends.typed_suffix.trans ⟨lead ++ lexeme.text, by simp [Layout.text]⟩
  · rw [ofChars_token_append hlead hlayout hrest, hends.ofChars_append, behind_behind,
      ofChars_token hlead hlayout, settled_behind hlater]

theorem exists_endsIn (line : List Char) : ∃ typed, EndsIn line typed := by
  obtain ⟨⟨lead, layout⟩, hreading⟩ := exists_reading line
  induction layout generalizing line lead with
  | done => exact ⟨line, endsIn_self (by rw [ofChars_of_isOf hreading]; rfl)⟩
  | unclosed tail => exact ⟨line, endsIn_self (by rw [ofChars_of_isOf hreading]; rfl)⟩
  | token lexeme gap rest ih =>
    by_cases hrest : rest = .done
    · subst hrest
      exact ⟨line, endsIn_self (by rw [ofChars_of_isOf hreading]; rfl)⟩
    · obtain ⟨hlead, hlayout, rfl⟩ := hreading
      obtain ⟨typed, hends⟩ := ih _ gap ⟨hlayout.2.1, hlayout.2.2.2, rfl⟩
      exact ⟨typed, hends.token hlead hlayout hrest⟩

end TokenLine

namespace Query

/-- The terms of a line that nothing typed behind it can change. -/
def settledTerms (line : String) : List Term :=
  (TokenLine.ofChars line.toList).settled.filterMap Term.ofToken?

/-- **Keystrokes.** Whatever is typed behind a line leaves the terms of its settled tokens as they
are. All that it changes is what is read at the end of the line, where the last token alone
stands. -/
theorem settledTerms_stay (line : String) :
    (∀ more : String, settledTerms line <+: (parse (line ++ more)).terms) ∧
      ∃ typed : String, typed.toList <:+ line.toList ∧
        (TokenLine.ofChars typed.toList).settled = [] ∧
        ∀ more : String,
          (parse (line ++ more)).terms = settledTerms line ++ (parse (typed ++ more)).terms := by
  obtain ⟨typed, hends⟩ := TokenLine.exists_endsIn line.toList
  have hmore : ∀ more : String, (parse (line ++ more)).terms =
      settledTerms line ++ (parse (String.ofList typed ++ more)).terms := by
    intro more
    rw [parse, termsOf, String.toList_append, hends.ofChars_append, parse, termsOf,
      String.toList_append, String.toList_ofList]
    exact List.filterMap_append
  refine ⟨fun more => ?_, String.ofList typed, ?_, ?_, hmore⟩
  · rw [hmore]
    exact List.prefix_append _ _
  · rw [String.toList_ofList]
    exact hends.typed_suffix
  · rw [String.toList_ofList]
    exact hends.settled_typed

end Query

end NoteCards

import NoteCards.Proofs.Query.Terms

/-!
# The canonical line reads back

Writing a query and reading it again gives the query when each of its values is *displayable*: not
empty, in lower case, without the `#` that a tag would lose, and, where it is written in quotes,
trimmed and free of quotes. For a single term the condition is exact (`displayable_reads_back`).

The written line is the text of a layout as soon as no quoted value holds a quote, and then reading
it goes term by term. The hard case is a quoted value that does hold one: its line falls apart into
several lexemes, and the argument is about length. A value is the lower case of a piece of the text
it was read from, so it is such a piece itself, and no piece on either side of the inner quote is
long enough.

The parser does not keep its own terms displayable. It strips one `#` off a tag after trimming, and
whatever stands behind it, another `#` or a blank, stays in the value; `parse_toString_parse_iff`
says that this is all that can go wrong.
-/

namespace NoteCards

open NoteCards.Text

theorem quoted_wellFormed (negated : Bool) (scope : Scope) {inside : List Char}
    (hinside : '"' ∉ inside) :
    (⟨⟨negated, scope, .quoted inside⟩, scope.mark⟩ : Lexeme).WellFormed := by
  refine ⟨Scope.SpelledBy.self scope, hinside, by simp [Lexeme.text, Body.text], ?_,
    fun _ => unmarked_quote _⟩
  intro hnegated
  simp only at hnegated
  cases scope <;> simp [Lexeme.text, Body.text, signText, hnegated, Scope.mark]

namespace Term

/-- The values whose written form reads back as themselves. -/
structure Displayable (term : Term) : Prop where
  value_ne_empty : term.value ≠ ""
  value_lower : lowercase term.value = term.value
  no_marker : term.scope = .tag → term.value.toList.head? ≠ some '#'
  quoted_plain : needsQuotes term.scope term.value.toList = true →
    '"' ∉ term.value.toList ∧ IsTrimmed term.value.toList

/-- Written as one lexeme: there is a value, and it holds no quote where it is written in quotes. -/
structure Quotable (term : Term) : Prop where
  value_ne_nil : term.value.toList ≠ []
  no_quote : needsQuotes term.scope term.value.toList = true → '"' ∉ term.value.toList

def lexeme (term : Term) : Lexeme where
  negated := term.negated
  scope := term.scope
  body := if needsQuotes term.scope term.value.toList then .quoted term.value.toList
    else .bare term.value.toList
  mark := term.scope.mark

/-- What a written term reads back as, if it is one lexeme. -/
def reread? (term : Term) : Option Term := ofToken? term.lexeme.toToken

variable {term : Term}

theorem needsQuotes_eq_false_iff {scope : Scope} {value : List Char} :
    needsQuotes scope value = false ↔
      (∀ c ∈ value, isBlank c = false) ∧ value.head? ≠ some '"' ∧
        (scope = .text → value.head? ≠ some '-' ∧ ':' ∉ value) := by
  simp only [needsQuotes, Bool.or_eq_false_iff, List.any_eq_false, decide_eq_false_iff_not,
    Bool.and_eq_false_iff, List.contains_eq_mem, Bool.not_eq_true, and_assoc]
  refine and_congr_right fun _ => and_congr_right fun _ => ?_
  by_cases hscope : scope = .text <;> simp [hscope]

theorem lexeme_text (term : Term) : term.lexeme.text = term.toChars := by
  rw [Lexeme.text, toChars, showValue, List.append_assoc]
  unfold lexeme
  cases needsQuotes term.scope term.value.toList <;> rfl

theorem Quotable.lexeme_wellFormed (hterm : term.Quotable) : term.lexeme.WellFormed := by
  obtain ⟨hne, hquote⟩ := hterm
  cases hquotes : needsQuotes term.scope term.value.toList with
  | true =>
    have hlexeme : term.lexeme =
        ⟨⟨term.negated, term.scope, .quoted term.value.toList⟩, term.scope.mark⟩ := by
      simp [lexeme, hquotes]
    rw [hlexeme]
    exact quoted_wellFormed term.negated term.scope (hquote hquotes)
  | false =>
    have hlexeme : term.lexeme =
        ⟨⟨term.negated, term.scope, .bare term.value.toList⟩, term.scope.mark⟩ := by
      simp [lexeme, hquotes]
    obtain ⟨hplain, hstart, htext⟩ := needsQuotes_eq_false_iff.1 hquotes
    rw [hlexeme]
    refine ⟨Scope.SpelledBy.self term.scope, ⟨hplain, hstart⟩, ?_, ?_, fun hscope => ?_⟩
    · simp [Lexeme.text, Body.text, hne]
    · intro hnegated
      simp only at hnegated
      cases hscope : term.scope with
      | text =>
        have hhead := (htext hscope).1
        simpa [Lexeme.text, Body.text, signText, hnegated, Scope.mark] using hhead
      | tag => simp [Lexeme.text, signText, hnegated, Scope.mark]
      | path => simp [Lexeme.text, signText, hnegated, Scope.mark]
    · exact unmarked_of_not_mem_colon (htext hscope).2

theorem Displayable.quotable (hterm : term.Displayable) : term.Quotable :=
  ⟨fun hnil => hterm.value_ne_empty (String.toList_eq_nil_iff.1 hnil),
    fun hquotes => (hterm.quoted_plain hquotes).1⟩

theorem content_lexeme (term : Term) :
    term.lexeme.body.content =
      if needsQuotes term.scope term.value.toList then trim term.value.toList
      else term.value.toList := by
  unfold lexeme
  cases needsQuotes term.scope term.value.toList <;> rfl

theorem content_lexeme_isInfix (term : Term) :
    term.lexeme.body.content <:+: term.value.toList := by
  rw [content_lexeme]
  split
  · exact trim_isInfix _
  · exact List.infix_rfl

/-- The lexeme of a term asks for the term's value where that is trimmed and no tag loses a `#`. -/
theorem wanted_lexeme_eq_iff :
    term.lexeme.wanted = term.value.toList ↔
      (term.scope = .tag → term.value.toList.head? ≠ some '#') ∧
        (needsQuotes term.scope term.value.toList = true → IsTrimmed term.value.toList) := by
  constructor
  · intro hwanted
    have hback : term.value.toList <:+: term.lexeme.body.content := by
      have hsuffix := term.lexeme.wanted_suffix_content
      rw [hwanted] at hsuffix
      exact hsuffix.isInfix
    have hcontent : term.lexeme.body.content = term.value.toList :=
      List.infix_antisymm term.content_lexeme_isInfix hback
    rw [Lexeme.wanted_eq, hcontent] at hwanted
    rw [content_lexeme] at hcontent
    refine ⟨fun hscope => ?_, fun hquotes => ?_⟩
    · have htag : term.lexeme.scope = .tag := hscope
      rw [if_pos htag] at hwanted
      exact dropHash_eq_self_iff.1 hwanted
    · rw [if_pos hquotes] at hcontent
      exact trim_eq_self_iff.1 hcontent
  · rintro ⟨hmarker, htrimmed⟩
    have hcontent : term.lexeme.body.content = term.value.toList := by
      rw [content_lexeme]
      split
      · next hquotes => exact trim_eq_self_iff.2 (htrimmed hquotes)
      · rfl
    rw [Lexeme.wanted_eq, hcontent]
    split
    · next htag => exact dropHash_eq_self_iff.2 (hmarker htag)
    · rfl

theorem reread?_eq_some_self_iff :
    term.reread? = some term ↔
      term.lexeme.wanted ≠ [] ∧ lower term.lexeme.wanted = term.value.toList := by
  rw [reread?, ofToken?_toToken]
  cases hempty : term.lexeme.wanted.isEmpty with
  | true => simp [List.isEmpty_iff.1 hempty]
  | false =>
    have hne : term.lexeme.wanted ≠ [] := by simpa using hempty
    have hterm : term.lexeme.term = term ↔ lower term.lexeme.wanted = term.value.toList := by
      constructor
      · intro heq
        rw [← toList_value, heq]
      · intro hvalue
        rw [Lexeme.term, hvalue, String.ofList_toList]
        rfl
    simp [hne, hterm]

theorem reread?_eq_self_iff (hterm : term.Quotable) :
    term.reread? = some term ↔ term.Displayable := by
  rw [reread?_eq_some_self_iff]
  constructor
  · rintro ⟨-, hvalue⟩
    have hlower : lower term.value.toList = term.value.toList := by rw [← hvalue, lower_lower]
    have hpart : term.lexeme.wanted ⊆ term.value.toList :=
      (term.lexeme.wanted_suffix_content.isInfix.trans term.content_lexeme_isInfix).subset
    have hwanted : term.lexeme.wanted = term.value.toList := by
      rw [← hvalue, lower_of_lower_eq_self_of_subset hlower hpart]
    obtain ⟨hmarker, htrimmed⟩ := wanted_lexeme_eq_iff.1 hwanted
    exact ⟨fun hempty => hterm.value_ne_nil (String.toList_eq_nil_iff.2 hempty),
      lowercase_eq_self_iff.2 hlower, hmarker,
      fun hquotes => ⟨hterm.no_quote hquotes, htrimmed hquotes⟩⟩
  · intro hdisplay
    have hwanted := wanted_lexeme_eq_iff.2
      ⟨hdisplay.no_marker, fun hquotes => (hdisplay.quoted_plain hquotes).2⟩
    rw [hwanted]
    exact ⟨hterm.value_ne_nil, lowercase_eq_self_iff.1 hdisplay.value_lower⟩

end Term

/-! ### Written lines -/

namespace Query

def layoutOf : List Term → Layout
  | [] => .done
  | [term] => .token term.lexeme [] .done
  | term :: next :: rest => .token term.lexeme [' '] (layoutOf (next :: rest))

theorem text_layoutOf (terms : List Term) : (layoutOf terms).text = lineOf terms := by
  induction terms using layoutOf.induct with
  | case1 => rfl
  | case2 term => simp [layoutOf, lineOf, Layout.text, term.lexeme_text]
  | case3 term next rest ih => simp [layoutOf, lineOf, Layout.text, term.lexeme_text, ih]

theorem lexemes_layoutOf (terms : List Term) :
    (layoutOf terms).lexemes = terms.map Term.lexeme := by
  induction terms using layoutOf.induct with
  | case1 => rfl
  | case2 term => rfl
  | case3 term next rest ih =>
    rw [layoutOf, Layout.lexemes, ih]
    rfl

theorem layoutOf_wellFormed {terms : List Term} (hterms : ∀ term ∈ terms, term.Quotable) :
    (layoutOf terms).WellFormed := by
  induction terms using layoutOf.induct with
  | case1 => trivial
  | case2 term =>
    have hlexeme := (hterms term List.mem_cons_self).lexeme_wellFormed
    exact ⟨hlexeme, by simp, fun _ _ => .inr rfl, trivial⟩
  | case3 term next rest ih =>
    have hlexeme := (hterms term List.mem_cons_self).lexeme_wellFormed
    refine ⟨hlexeme, ?_, fun _ _ => .inl (by simp), ?_⟩
    · intro c hc
      rw [List.mem_singleton.1 hc]
      decide
    · exact ih fun other hother => hterms other (List.mem_cons_of_mem _ hother)

/-- A line of terms that are written as one lexeme each reads back term by term. -/
theorem termsOf_lineOf {terms : List Term} (hterms : ∀ term ∈ terms, term.Quotable) :
    termsOf (lineOf terms) = terms.filterMap Term.reread? := by
  have hlead : ∀ c ∈ ([] : List Char), isBlank c = true := by simp
  have hcut := TokenLine.ofChars_append_text hlead (layoutOf_wellFormed hterms)
  rw [List.nil_append, text_layoutOf, lexemes_layoutOf] at hcut
  rw [termsOf, hcut, List.map_map, List.filterMap_map]
  rfl

theorem filterMap_eq_self_iff {α : Type} {f : α → Option α} {l : List α} :
    l.filterMap f = l ↔ ∀ x ∈ l, f x = some x := by
  induction l with
  | nil => simp
  | cons x l ih =>
    rw [List.forall_mem_cons]
    cases hx : f x with
    | none =>
      rw [List.filterMap_cons_none hx]
      refine ⟨fun heq => ?_, fun hall => absurd hall.1 (by simp)⟩
      have hlength := List.length_filterMap_le f l
      rw [heq, List.length_cons] at hlength
      omega
    | some y =>
      rw [List.filterMap_cons_some hx, List.cons.injEq, Option.some.injEq, ih]

theorem termsOf_lineOf_eq_self_iff {terms : List Term} (hterms : ∀ term ∈ terms, term.Quotable) :
    termsOf (lineOf terms) = terms ↔ ∀ term ∈ terms, term.Displayable := by
  rw [termsOf_lineOf hterms, filterMap_eq_self_iff]
  exact forall₂_congr fun term hterm => Term.reread?_eq_self_iff (hterms term hterm)

/-! ### A quote inside quotes -/

theorem eq_of_lower_eq_self {value piece : List Char} (hlower : lower value = value)
    (hpiece : piece ⊆ value) (hvalue : value = lower piece) : value = piece := by
  rw [hvalue, lower_of_lower_eq_self_of_subset hlower hpiece]

theorem ofToken?_ne_of_length_lt {term : Term} {inside : List Char} {negated : Bool} {scope : Scope}
    (hlower : lower term.value.toList = term.value.toList) (hsubset : inside ⊆ term.value.toList)
    (hlength : inside.length < term.value.toList.length) :
    Term.ofToken? ⟨negated, scope, .quoted inside⟩ ≠ some term := by
  intro hterm
  let lexeme : Lexeme := ⟨⟨negated, scope, .quoted inside⟩, scope.mark⟩
  have hwanted : term.value.toList = lower lexeme.wanted := by
    have hread : Term.ofToken? lexeme.toToken = some term := hterm
    rw [ofToken?_toToken] at hread
    split at hread
    · contradiction
    · rw [← toList_value, Option.some.inj hread]
  have hpart : lexeme.wanted <:+: inside :=
    lexeme.wanted_suffix_content.isInfix.trans (trim_isInfix inside)
  have hshort := hpart.length_le
  rw [← eq_of_lower_eq_self hlower (List.Subset.trans hpart.subset hsubset) hwanted] at hshort
  omega

/-- A value that is no shorter than a line and holds its characters can only be all of the line, and
no line that starts with a quote is a value of its own. -/
theorem not_mem_termsOf_of_length_le {term : Term} {line : List Char}
    (hlower : lower term.value.toList = term.value.toList) (hsubset : line ⊆ term.value.toList)
    (hlength : line.length ≤ term.value.toList.length)
    (hquote : term.value.toList = line → line.head? = some '"') : term ∉ termsOf line := by
  intro hmem
  obtain ⟨piece, hpart, hpiece, hwhole⟩ := exists_infix_of_mem_termsOf hmem
  obtain rfl := eq_of_lower_eq_self hlower (List.Subset.trans hpart.subset hsubset) hpiece
  have hall : term.value.toList = line := hpart.eq_of_length_le hlength
  exact hwhole hall (hquote hall)

/-- A quoted value with a quote in it does not read back: it would have to be a piece of the text
before that quote or of the text from behind it on. -/
theorem termsOf_toChars_ne_of_mem_quote {term : Term}
    (hquotes : Term.needsQuotes term.scope term.value.toList = true)
    (hmem : '"' ∈ term.value.toList) : termsOf term.toChars ≠ [term] := by
  intro hback
  obtain ⟨before, after, hvalue, hbefore⟩ := List.eq_append_cons_of_mem hmem
  have hlower : lower term.value.toList = term.value.toList :=
    lower_value_of_mem_termsOf (hback ▸ List.mem_singleton_self term)
  have hlength : term.value.toList.length = before.length + (after.length + 1) := by
    rw [hvalue, List.length_append, List.length_cons]
  let first : Lexeme := ⟨⟨term.negated, term.scope, .quoted before⟩, term.scope.mark⟩
  have hfirst : first.WellFormed := quoted_wellFormed term.negated term.scope hbefore
  have hchars : term.toChars = first.text ++ (after ++ ['"']) := by
    rw [Term.toChars, Term.showValue, if_pos hquotes, hvalue]
    simp [first, Lexeme.text, Body.text, signText]
  have hterm : term ∈ (Term.ofToken? first.toToken).toList ++ termsOf (after ++ ['"']) := by
    rw [← termsOf_text_append hfirst (show first.body.StopsAt (after ++ ['"']) from trivial),
      ← hchars, hback]
    exact List.mem_singleton_self _
  rcases List.mem_append.1 hterm with hbeforeTerm | hafterTerm
  · have hsubset : before ⊆ term.value.toList := by
      rw [hvalue]
      exact List.subset_append_left _ _
    have hread : Term.ofToken? first.toToken = some term := Option.mem_toList.1 hbeforeTerm
    exact ofToken?_ne_of_length_lt hlower hsubset (by omega) hread
  · have hsubset : after ++ ['"'] ⊆ term.value.toList := by
      intro c hc
      simp only [hvalue, List.mem_append, List.mem_cons, List.not_mem_nil, or_false] at hc ⊢
      tauto
    refine not_mem_termsOf_of_length_le hlower hsubset ?_ (fun hall => ?_) hafterTerm
    · rw [List.length_append, List.length_singleton]
      omega
    · -- the piece is as long as the value only if nothing stands before the inner quote
      have hsame := congrArg List.length hall
      rw [List.length_append, List.length_singleton] at hsame
      have hnil : before = [] := List.eq_nil_of_length_eq_zero (by omega)
      rw [← hall, hvalue, hnil]
      rfl

/-! ### Reading back -/

theorem terms_parse_toString (query : Query) :
    (parse (toString query)).terms = termsOf (lineOf query.terms) := by
  change termsOf (String.ofList (lineOf query.terms)).toList = _
  rw [String.toList_ofList]

theorem terms_parse_toString_term (term : Term) :
    (parse (toString term)).terms = termsOf term.toChars := by
  change termsOf (String.ofList term.toChars).toList = _
  rw [String.toList_ofList]

theorem termsOf_toChars_eq_self_iff (term : Term) :
    termsOf term.toChars = [term] ↔ term.Displayable := by
  by_cases hterm : term.Quotable
  · have hall : ∀ other ∈ [term], other.Quotable := by simpa using hterm
    have hline := termsOf_lineOf_eq_self_iff hall
    rw [lineOf] at hline
    simpa using hline
  · refine ⟨fun hback => ?_, fun hdisplay => absurd hdisplay.quotable hterm⟩
    have hmem : term ∈ termsOf term.toChars := by
      rw [hback]
      exact List.mem_singleton_self _
    refine absurd ⟨value_ne_nil_of_mem_termsOf hmem, fun hquotes hquote => ?_⟩ hterm
    exact termsOf_toChars_ne_of_mem_quote hquotes hquote hback

/-- **Reading back what was written.** Every list of displayable terms is read back from its
canonical line, and a single term is read back exactly when it is displayable. -/
theorem displayable_reads_back :
    (∀ terms : List Term, (∀ term ∈ terms, term.Displayable) →
        (parse (toString (⟨terms⟩ : Query))).terms = terms) ∧
      ∀ term : Term, (parse (toString term)).terms = [term] ↔ term.Displayable := by
  refine ⟨fun terms hterms => ?_, fun term => ?_⟩
  · rw [terms_parse_toString]
    exact (termsOf_lineOf_eq_self_iff fun term hterm => (hterms term hterm).quotable).2 hterms
  · rw [terms_parse_toString_term]
    exact termsOf_toChars_eq_self_iff term

/-- A term of a line is displayable unless a tag's value starts with a `#` or a blank. -/
theorem displayable_iff_of_mem_termsOf {line : List Char} {term : Term}
    (hmem : term ∈ termsOf line) (hquote : '"' ∉ term.value.toList) :
    term.Displayable ↔
      (term.scope = .tag → ∀ c ∈ term.value.toList.head?, c ≠ '#' ∧ isBlank c = false) := by
  constructor
  · intro hdisplay hscope c hc
    refine ⟨?_, ?_⟩
    · rintro rfl
      exact hdisplay.no_marker hscope hc
    · by_contra hblank
      rw [Bool.not_eq_false] at hblank
      have hquotes : Term.needsQuotes term.scope term.value.toList = true := by
        by_contra hbare
        rw [Bool.not_eq_true] at hbare
        have hplain := (Term.needsQuotes_eq_false_iff.1 hbare).1 c (List.mem_of_mem_head? hc)
        rw [hblank] at hplain
        contradiction
      have hplain := (hdisplay.quoted_plain hquotes).2.1 c hc
      rw [hblank] at hplain
      contradiction
  · intro htag
    refine ⟨fun hempty => ?_, ?_, fun hscope hhash => ?_, fun _ => ⟨hquote, ?_, ?_⟩⟩
    · exact value_ne_nil_of_mem_termsOf hmem (String.toList_eq_nil_iff.2 hempty)
    · exact lowercase_eq_self_iff.2 (lower_value_of_mem_termsOf hmem)
    · exact (htag hscope '#' hhash).1 rfl
    · by_cases hscope : term.scope = .tag
      · exact fun c hc => (htag hscope c hc).2
      · exact startsPlain_value_of_mem_termsOf hmem hscope
    · exact endsPlain_value_of_mem_termsOf hmem

/-- **Reading back what was read.** Where no value holds a quote, a query is read back from its
canonical line exactly when no tag asks for a text that starts with a `#` or a blank. -/
theorem parse_toString_parse_iff (line : String)
    (hquotes : ∀ term ∈ (parse line).terms, '"' ∉ term.value.toList) :
    parse (toString (parse line)) = parse line ↔
      ∀ term ∈ (parse line).terms, term.scope = .tag →
        ∀ c ∈ term.value.toList.head?, c ≠ '#' ∧ isBlank c = false := by
  have hquotable : ∀ term ∈ (parse line).terms, term.Quotable := fun term hmem =>
    ⟨value_ne_nil_of_mem_termsOf hmem, fun _ => hquotes term hmem⟩
  have hback : parse (toString (parse line)) = parse line ↔
      termsOf (lineOf (parse line).terms) = (parse line).terms := by
    rw [← terms_parse_toString]
    exact ⟨congrArg terms, fun hterms => by rw [← Query.mk.injEq] at hterms; exact hterms⟩
  rw [hback, termsOf_lineOf_eq_self_iff hquotable]
  exact forall₂_congr fun term hmem => displayable_iff_of_mem_termsOf hmem (hquotes term hmem)

theorem parse_toString_parse_iff_mixed_line :
    (∀ term ∈ (parse "foo tag:##x -path:\"My Notes\" a:b").terms, '"' ∉ term.value.toList) ∧
      (parse (toString (parse "foo tag:##x -path:\"My Notes\" a:b")) =
          parse "foo tag:##x -path:\"My Notes\" a:b" ↔
        ∀ term ∈ (parse "foo tag:##x -path:\"My Notes\" a:b").terms, term.scope = .tag →
          ∀ c ∈ term.value.toList.head?, c ≠ '#' ∧ isBlank c = false) :=
  ⟨by decide +kernel, parse_toString_parse_iff _ (by decide +kernel)⟩

/-- The second `#` of a tag is lost when its canonical line is read. -/
theorem second_marker_lost :
    ¬∀ line : String, (∀ term ∈ (parse line).terms, '"' ∉ term.value.toList) →
      parse (toString (parse line)) = parse line := by
  intro hall
  have hquotes : ∀ term ∈ (parse "tag:##x").terms, '"' ∉ term.value.toList := by decide +kernel
  have hback := hall "tag:##x" hquotes
  revert hback
  decide +kernel

end Query

end NoteCards

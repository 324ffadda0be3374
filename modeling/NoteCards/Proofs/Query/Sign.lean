import NoteCards.Proofs.Note.Label

/-!
# A minus sign in front of a line

A minus sign belongs to the token that it is written before. Typed in front of a line that starts
with neither a blank nor a minus sign, it signs the first token and moves nothing else: the mark is
looked for behind the sign, so the rest of the token is cut off the same text as before
(`scan?_minus`), and with it the rest of the line.

What comes of it depends on whether the first token asks for something. If it does, its term is
denied and the other terms stay; if it does not, there is no term to deny. So a line of one token
and its denial share the documents among them (`parse_minus`).
-/

namespace NoteCards

open NoteCards.Text

def Token.signed (token : Token) : Token := { token with negated := true }

/-- The term that asks for the absence of what a term asks for. -/
def Term.denied (term : Term) : Term := { term with negated := true }

namespace Term

theorem ofToken?_signed (token : Token) : ofToken? token.signed = (ofToken? token).map denied := by
  rw [ofToken?_eq_map, ofToken?_eq_map, Option.map_map]
  rfl

theorem negated_of_ofToken? {token : Token} {term : Term} (hterm : ofToken? token = some term) :
    term.negated = token.negated := by
  rw [ofToken?_eq_map] at hterm
  obtain ⟨value, -, rfl⟩ := Option.map_eq_some_iff.1 hterm
  rfl

theorem accepts_denied {term : Term} (hplain : term.negated = false) (document : Document) :
    term.denied.accepts document = !term.accepts document := by
  have hfound : term.denied.foundIn document = term.foundIn document := rfl
  rw [accepts, accepts, hfound, hplain]
  cases term.foundIn document <;> rfl

end Term

theorem Token.scan?_minus {s : List Char} (hsign : s.head? ≠ some '-') :
    scan? ('-' :: s) = (scan? s).map fun (token, rest) => (token.signed, rest) := by
  have hsplit : splitSign ('-' :: s) = (true, s) := rfl
  rw [scan?_eq_map, scan?_eq_map, hsplit, splitSign_of_head?_ne hsign, Option.map_map]
  rfl

theorem Token.negated_of_scan? {s rest : List Char} {token : Token} (hsign : s.head? ≠ some '-')
    (hscan : scan? s = some (token, rest)) : token.negated = false := by
  rw [scan?_eq_map, splitSign_of_head?_ne hsign] at hscan
  obtain ⟨found, -, heq⟩ := Option.map_eq_some_iff.1 hscan
  cases heq
  rfl

namespace TokenLine

section Line

variable {s : List Char} (hne : s ≠ []) (hstart : StartsPlain s)

include hne hstart

theorem ofChars_of_scan?_none (hscan : Token.scan? s = none) : ofChars s = ⟨[], true⟩ := by
  have htrim : trimStart s = s := trimStart_eq_self hstart
  apply ofChars_of_scan?_eq_none
  · rwa [htrim]
  · rwa [htrim]

theorem ofChars_of_scan?_some {token : Token} {rest : List Char}
    (hscan : Token.scan? s = some (token, rest)) :
    ofChars s = ⟨token :: (ofChars rest).tokens, (ofChars rest).openQuote⟩ := by
  have htrim : trimStart s = s := trimStart_eq_self hstart
  apply ofChars_of_scan?_eq_some
  · rwa [htrim]
  · rwa [htrim]

/-- The first token of the line gets the sign, and the tokens behind it are those they were. -/
theorem ofChars_minus (hsign : s.head? ≠ some '-') :
    ofChars ('-' :: s) =
      ⟨(ofChars s).tokens.modifyHead Token.signed, (ofChars s).openQuote⟩ := by
  have hminus : StartsPlain ('-' :: s) := by
    intro c hc
    cases hc
    decide
  have hcons : '-' :: s ≠ [] := List.cons_ne_nil _ _
  have hscans := Token.scan?_minus hsign
  cases hscan : Token.scan? s with
  | none =>
    rw [hscan, Option.map_none] at hscans
    rw [ofChars_of_scan?_none hcons hminus hscans, ofChars_of_scan?_none hne hstart hscan]
    rfl
  | some found =>
    rw [hscan, Option.map_some] at hscans
    rw [ofChars_of_scan?_some hcons hminus hscans, ofChars_of_scan?_some hne hstart hscan]
    rfl

theorem negated_of_head? (hsign : s.head? ≠ some '-') {token : Token}
    (htoken : (ofChars s).tokens.head? = some token) : token.negated = false := by
  cases hscan : Token.scan? s with
  | none =>
    rw [ofChars_of_scan?_none hne hstart hscan] at htoken
    contradiction
  | some found =>
    rw [ofChars_of_scan?_some hne hstart hscan, List.head?_cons, Option.some_inj] at htoken
    exact htoken ▸ Token.negated_of_scan? hsign hscan

end Line

end TokenLine

namespace Query

/-- The term of the first token of a line, if the line has a token and that asks for something. -/
def firstTerm? (line : String) : Option Term :=
  (TokenLine.ofChars line.toList).tokens.head?.bind Term.ofToken?

section Terms

variable {line : String} (hne : line ≠ "") (hstart : StartsPlain line.toList)
  (hsign : line.toList.head? ≠ some '-')

include hne hstart hsign

theorem terms_minus : (parse ("-" ++ line)).terms =
    ((TokenLine.ofChars line.toList).tokens.modifyHead Token.signed).filterMap Term.ofToken? := by
  have hchars : line.toList ≠ [] := mt String.toList_eq_nil_iff.1 hne
  have hminus : ("-" ++ line).toList = '-' :: line.toList := String.toList_append
  rw [parse, termsOf, hminus, TokenLine.ofChars_minus hchars hstart hsign]

theorem negated_of_firstTerm? {term : Term} (hterm : firstTerm? line = some term) :
    term.negated = false := by
  have hchars : line.toList ≠ [] := mt String.toList_eq_nil_iff.1 hne
  obtain ⟨token, htoken, hof⟩ := Option.bind_eq_some_iff.1 hterm
  rw [Term.negated_of_ofToken? hof]
  exact TokenLine.negated_of_head? hchars hstart hsign htoken

theorem terms_minus_of_firstTerm? {term : Term} (hterm : firstTerm? line = some term) :
    ∃ others, (parse line).terms = term :: others ∧
      (parse ("-" ++ line)).terms = term.denied :: others := by
  obtain ⟨token, htoken, hof⟩ := Option.bind_eq_some_iff.1 hterm
  obtain ⟨rest, htokens⟩ := List.head?_eq_some_iff.1 htoken
  have hsigned : Term.ofToken? token.signed = some term.denied := by
    rw [Term.ofToken?_signed, hof, Option.map_some]
  refine ⟨rest.filterMap Term.ofToken?, ?_, ?_⟩
  · rw [parse, termsOf, htokens, List.filterMap_cons_some hof]
  · rw [terms_minus hne hstart hsign, htokens, List.modifyHead_cons,
      List.filterMap_cons_some hsigned]

theorem terms_minus_of_firstTerm?_eq_none (hnone : firstTerm? line = none) :
    (parse ("-" ++ line)).terms = (parse line).terms := by
  rw [terms_minus hne hstart hsign, parse, termsOf]
  cases htokens : (TokenLine.ofChars line.toList).tokens with
  | nil => rfl
  | cons token rest =>
    rw [firstTerm?, htokens, List.head?_cons, Option.bind_some] at hnone
    have hsigned : Term.ofToken? token.signed = none := by
      rw [Term.ofToken?_signed, hnone, Option.map_none]
    rw [List.modifyHead_cons, List.filterMap_cons_none hsigned, List.filterMap_cons_none hnone]

/-- With one term on each side the two lines differ in its sign alone. -/
theorem accepts_minus_of_single {term : Term} (hfirst : firstTerm? line = some term)
    (hsingle : (parse line).terms = [term]) (document : Document) :
    (parse ("-" ++ line)).accepts document = !(parse line).accepts document := by
  have hplain := negated_of_firstTerm? hne hstart hsign hfirst
  obtain ⟨others, hline, hminus⟩ := terms_minus_of_firstTerm? hne hstart hsign hfirst
  obtain ⟨-, hnil⟩ := List.cons.inj (hsingle.symm.trans hline)
  calc (parse ("-" ++ line)).accepts document
      = term.denied.accepts document := by
        rw [accepts, hminus, ← hnil, List.all_cons, List.all_nil, Bool.and_true]
    _ = !term.accepts document := Term.accepts_denied hplain document
    _ = !(parse line).accepts document := by
        rw [accepts, hsingle, List.all_cons, List.all_nil, Bool.and_true]

end Terms

theorem firstTerm?_of_single {line : String} {token : Token} {term : Term}
    (htokens : (TokenLine.ofChars line.toList).tokens = [token])
    (hterms : (parse line).terms = [term]) : firstTerm? line = some term := by
  have hlist : (Term.ofToken? token).toList = [term] := by
    rw [← hterms, parse, termsOf, htokens, List.filterMap_cons]
    cases Term.ofToken? token <;> rfl
  rw [firstTerm?, htokens, List.head?_cons, Option.bind_some]
  exact Option.toList_eq_singleton_iff.1 hlist

/-- **A minus sign denies one term.** In front of a line that starts with neither a blank nor a
minus sign it denies the term of the first token, which was not denied before, and keeps the other
terms; if the first token has no term, all terms stay. So where a line has one term, of its only
token, every document is accepted either by the line or by the line with the sign, and by one of
them only. -/
theorem parse_minus (line : String) (hne : line ≠ "") (hstart : StartsPlain line.toList)
    (hsign : line.toList.head? ≠ some '-') :
    (∀ term, firstTerm? line = some term → term.negated = false ∧
        ∃ others, (parse line).terms = term :: others ∧
          (parse ("-" ++ line)).terms = term.denied :: others) ∧
      (firstTerm? line = none → parse ("-" ++ line) = parse line) ∧
      ∀ token term, (TokenLine.ofChars line.toList).tokens = [token] →
        (parse line).terms = [term] → ∀ document,
          (parse ("-" ++ line)).accepts document = !(parse line).accepts document := by
  refine ⟨?_, ?_, ?_⟩
  · intro term hterm
    exact ⟨negated_of_firstTerm? hne hstart hsign hterm,
      terms_minus_of_firstTerm? hne hstart hsign hterm⟩
  · intro hnone
    exact congrArg Query.mk (terms_minus_of_firstTerm?_eq_none hne hstart hsign hnone)
  · intro token term htokens hterms document
    have hfirst := firstTerm?_of_single htokens hterms
    exact accepts_minus_of_single hne hstart hsign hfirst hterms document

/-- A first token with a term and one without, and a quote that is never closed behind the only
token of a line. -/
theorem parse_minus_lines :
    "TAG:\"# Old\"sea" ≠ "" ∧ StartsPlain "TAG:\"# Old\"sea".toList ∧
      "TAG:\"# Old\"sea".toList.head? ≠ some '-' ∧
      firstTerm? "TAG:\"# Old\"sea" = some ⟨.tag, " old", false⟩ ∧
      (∃ others, (parse "TAG:\"# Old\"sea").terms = ⟨.tag, " old", false⟩ :: others ∧
        (parse ("-" ++ "TAG:\"# Old\"sea")).terms = ⟨.tag, " old", true⟩ :: others) ∧
      "tag:# sea" ≠ "" ∧ StartsPlain "tag:# sea".toList ∧ "tag:# sea".toList.head? ≠ some '-' ∧
      firstTerm? "tag:# sea" = none ∧ parse ("-" ++ "tag:# sea") = parse "tag:# sea" ∧
      "Σ \"x" ≠ "" ∧ StartsPlain "Σ \"x".toList ∧ "Σ \"x".toList.head? ≠ some '-' ∧
      (TokenLine.ofChars "Σ \"x".toList).tokens = [⟨false, .text, .bare ['Σ']⟩] ∧
      (parse "Σ \"x").terms = [⟨.text, "σ", false⟩] ∧
      (parse ("-" ++ "Σ \"x")).accepts (.ofRaw "Σ" [] []) =
        !(parse "Σ \"x").accepts (.ofRaw "Σ" [] []) := by
  have hstarts : ∀ s ∈ ["TAG:\"# Old\"sea", "tag:# sea", "Σ \"x"],
      s ≠ "" ∧ StartsPlain s.toList ∧ s.toList.head? ≠ some '-' := by
    decide +kernel
  obtain ⟨hold, holdStart, holdSign⟩ := hstarts "TAG:\"# Old\"sea" (by decide)
  obtain ⟨hsea, hseaStart, hseaSign⟩ := hstarts "tag:# sea" (by decide)
  obtain ⟨hword, hwordStart, hwordSign⟩ := hstarts "Σ \"x" (by decide)
  have hfirst : firstTerm? "TAG:\"# Old\"sea" = some ⟨.tag, " old", false⟩ := by decide +kernel
  have hnone : firstTerm? "tag:# sea" = none := by decide +kernel
  have htokens : (TokenLine.ofChars "Σ \"x".toList).tokens = [⟨false, .text, .bare ['Σ']⟩] := by
    decide +kernel
  have hterms : (parse "Σ \"x").terms = [⟨.text, "σ", false⟩] := by decide +kernel
  exact ⟨hold, holdStart, holdSign, hfirst,
    ((parse_minus _ hold holdStart holdSign).1 _ hfirst).2,
    hsea, hseaStart, hseaSign, hnone, (parse_minus _ hsea hseaStart hseaSign).2.1 hnone,
    hword, hwordStart, hwordSign, htokens, hterms,
    (parse_minus _ hword hwordStart hwordSign).2.2 _ _ htokens hterms _⟩

end Query

end NoteCards

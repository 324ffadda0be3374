import NoteCards.Proofs.Note.Label
import NoteCards.Proofs.Query.Canonical

/-!
# Lines of one token

A line that is the text of one lexeme asks one question: whether the document holds the text that
the lexeme asks for, or, with a minus sign, whether it does not (`accepts_of_body`). So where such a
line accepts a document, the same line with a minus sign in front of it rejects it
(`picks_of_body`).

For a text in quotes the line asks for the label that a document would store for it. Without quotes
a text that has no blanks is asked for in the same way, because there is nothing that could be
trimmed (`terms_eq_label`).
-/

namespace NoteCards

open NoteCards.Text

theorem bare_wellFormed (negated : Bool) {scope : Scope} (hscope : scope ≠ .text) {word : List Char}
    (hplain : ∀ c ∈ word, isBlank c = false) (hquote : word.head? ≠ some '"') :
    (⟨⟨negated, scope, .bare word⟩, scope.mark⟩ : Lexeme).WellFormed := by
  refine ⟨Scope.SpelledBy.self scope, ⟨hplain, hquote⟩, ?_, ?_, fun htext => absurd htext hscope⟩
  · cases scope <;> simp_all [Lexeme.text, Scope.mark]
  · intro hnegated
    simp only at hnegated
    cases scope <;> simp_all [Lexeme.text, signText, Scope.mark]

theorem toList_tagWord (s : String) :
    ("tag:" ++ s).toList = Scope.tag.mark ++ (Body.bare s.toList).text := by
  rw [String.toList_append]
  rfl

theorem toList_quoted (scope : Scope) {front : String} (hfront : front.toList = scope.mark ++ ['"'])
    (s : String) : (front ++ s ++ "\"").toList = scope.mark ++ (Body.quoted s.toList).text := by
  rw [String.toList_append, String.toList_append, hfront, List.append_assoc, List.append_assoc]
  rfl

namespace Query

theorem termsOf_text {lexeme : Lexeme} (hlexeme : lexeme.WellFormed) :
    termsOf lexeme.text = (Term.ofToken? lexeme.toToken).toList := by
  have hstops : lexeme.body.StopsAt [] := by
    cases lexeme.body with
    | quoted inside => trivial
    | bare word =>
      intro c hc
      cases hc
  have hnothing : termsOf [] = [] := by
    rw [termsOf, TokenLine.ofChars_of_trimStart_eq_nil rfl, List.filterMap_nil]
  have hterms := termsOf_text_append hlexeme hstops
  rwa [List.append_nil, hnothing, List.append_nil] at hterms

theorem terms_of_body {negated : Bool} {scope : Scope} {body : Body} {line : String}
    (hlexeme : (⟨⟨negated, scope, body⟩, scope.mark⟩ : Lexeme).WellFormed)
    (hline : line.toList = signText negated ++ (scope.mark ++ body.text)) :
    (parse line).terms = (Term.ofToken? ⟨negated, scope, body⟩).toList := by
  have hterms := termsOf_text hlexeme
  rwa [Lexeme.text, ← hline] at hterms

section Body

variable {scope : Scope} {body : Body} {wanted : List Char} {document : Document}

/-- The answer of a line of one token is whether its text is found, turned around by its sign. -/
theorem accepts_of_body {negated : Bool} {line : String}
    (hlexeme : (⟨⟨negated, scope, body⟩, scope.mark⟩ : Lexeme).WellFormed)
    (hline : line.toList = signText negated ++ (scope.mark ++ body.text))
    (hwanted : (if scope = .tag then dropHash body.content else body.content) = wanted)
    (hne : wanted ≠ []) :
    (parse line).accepts document =
      (Term.foundIn ⟨scope, String.ofList (lower wanted), false⟩ document != negated) := by
  have hterm : Term.ofToken? ⟨negated, scope, body⟩ =
      some ⟨scope, String.ofList (lower wanted), negated⟩ := by
    rw [Term.ofToken?_eq_map, hwanted, labelOf?_of_ne_nil hne, Option.map_some]
  rw [accepts, terms_of_body hlexeme hline, hterm]
  simp [Term.accepts, Term.foundIn]

/-- The line accepts the document, and with a minus sign in front of it rejects it. -/
def Picks (line : String) (document : Document) : Prop :=
  (parse line).accepts document = true ∧ (parse ("-" ++ line)).accepts document = false

theorem picks_of_body {line : String}
    (hlexeme : ∀ negated, (⟨⟨negated, scope, body⟩, scope.mark⟩ : Lexeme).WellFormed)
    (hline : line.toList = scope.mark ++ body.text)
    (hwanted : (if scope = .tag then dropHash body.content else body.content) = wanted)
    (hne : wanted ≠ [])
    (hfound : Term.foundIn ⟨scope, String.ofList (lower wanted), false⟩ document = true) :
    Picks line document := by
  constructor
  · rw [accepts_of_body (hlexeme false) hline hwanted hne, hfound]
    rfl
  · have hsigned : ("-" ++ line).toList = signText true ++ (scope.mark ++ body.text) := by
      rw [String.toList_append, hline]
      rfl
    rw [accepts_of_body (hlexeme true) hsigned hwanted hne, hfound]
    rfl

end Body

/-! ### Asking for a label -/

/-- **Asked for as stored.** The term of a text in quotes, for a tag or for plain text, has the
label of that text for its value, and where the text has no label the line has no term. For a tag
without blanks that starts with no quote the same holds without quotes. -/
theorem terms_eq_label :
    (∀ s : String, '"' ∉ s.toList →
        (parse ("tag:\"" ++ s ++ "\"")).terms =
            (tagLabel? s).toList.map (fun label => ⟨.tag, label, false⟩) ∧
          (parse ("\"" ++ s ++ "\"")).terms =
            (aliasLabel? s).toList.map fun label => ⟨.text, label, false⟩) ∧
      ∀ s : String, (∀ c ∈ s.toList, isBlank c = false) → s.toList.head? ≠ some '"' →
        (parse ("tag:" ++ s)).terms =
          (tagLabel? s).toList.map fun label => ⟨.tag, label, false⟩ := by
  refine ⟨fun s hquote => ⟨?_, ?_⟩, fun s hplain hstart => ?_⟩
  · have hline := toList_quoted .tag (by rfl : "tag:\"".toList = Scope.tag.mark ++ ['"']) s
    rw [terms_of_body (quoted_wellFormed false .tag hquote) hline, Term.ofToken?_tag rfl,
      Option.toList_map]
  · have hline := toList_quoted .text (by rfl : "\"".toList = Scope.text.mark ++ ['"']) s
    rw [terms_of_body (quoted_wellFormed false .text hquote) hline,
      Term.ofToken?_of_ne_tag rfl false (by decide), Option.toList_map]
  · have hcontent : (Body.bare s.toList).content = trim s.toList := by
      apply Eq.symm
      exact trim_eq_self_iff.2 (isTrimmed_of_forall hplain)
    have hscope : Scope.tag ≠ .text := by decide
    rw [terms_of_body (bare_wellFormed false hscope hplain hstart) (toList_tagWord s),
      Term.ofToken?_tag hcontent, Option.toList_map]

/-- Texts that the two sets of rules could tell apart: blanks around two `#`, nothing but a `#`
between blanks, and letters whose lower case depends on their place. -/
theorem terms_eq_label_markers :
    '"' ∉ " ##ΟΔΟΣ\u3000".toList ∧
      (parse ("tag:\"" ++ " ##ΟΔΟΣ\u3000" ++ "\"")).terms =
        (tagLabel? " ##ΟΔΟΣ\u3000").toList.map (fun label => ⟨.tag, label, false⟩) ∧
      tagLabel? " ##ΟΔΟΣ\u3000" = some "#οδος" ∧
      '"' ∉ " # ".toList ∧
      (parse ("\"" ++ " # " ++ "\"")).terms =
        (aliasLabel? " # ").toList.map (fun label => ⟨.text, label, false⟩) ∧
      tagLabel? " # " = none ∧
      (∀ c ∈ "#İ\"-Σ".toList, isBlank c = false) ∧ "#İ\"-Σ".toList.head? ≠ some '"' ∧
      (parse ("tag:" ++ "#İ\"-Σ")).terms =
        (tagLabel? "#İ\"-Σ").toList.map (fun label => ⟨.tag, label, false⟩) := by
  have hroad : '"' ∉ " ##ΟΔΟΣ\u3000".toList := by decide
  have hmarker : '"' ∉ " # ".toList := by decide
  have hall : "#İ\"-Σ".toList.all (isBlank · == false) = true := by decide +kernel
  have hplain : ∀ c ∈ "#İ\"-Σ".toList, isBlank c = false :=
    fun c hc => eq_of_beq (List.all_eq_true.1 hall c hc)
  have hstart : "#İ\"-Σ".toList.head? ≠ some '"' := by decide
  obtain ⟨hquoted, hbare⟩ := terms_eq_label
  refine ⟨hroad, (hquoted _ hroad).1, by decide +kernel, hmarker, (hquoted _ hmarker).2,
    by decide +kernel, hplain, hstart, hbare _ hplain hstart⟩

end Query

end NoteCards

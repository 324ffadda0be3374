import NoteCards.Note.Document
import NoteCards.Proofs.Query.Growth

/-!
# Queries narrow

A query is a list of demands, all of which a document has to meet, so a line put together from two
asks for what both of them ask for, and yields what both yield (`hits_append`). A list may hold one
document several times, so a hit is a document together with its position.

The order of the parts and repetitions do not matter then. And what is typed behind a blank never
brings a document back, not even where it closes a quote of the line: the terms that the line had
are still there (`terms_isPrefix_append`).
-/

namespace NoteCards

open NoteCards.Text

namespace Query

/-- The documents that a query yields, each with its position in the list. -/
def hits (query : Query) (documents : List Document) : List (Document × Nat) :=
  documents.zipIdx.filter fun entry => query.accepts entry.1

theorem map_fst_hits (query : Query) (documents : List Document) :
    (query.hits documents).map Prod.fst = query.filter documents := by
  have hall : documents.zipIdx.map Prod.fst = documents := List.zipIdx_map_fst 0 documents
  conv_rhs => rw [filter, ← hall, List.filter_map]
  rfl

section Hits

variable {query other both : Query} {documents : List Document}

theorem hits_eq_filter (hboth : ∀ document,
      both.accepts document = (query.accepts document && other.accepts document)) :
    both.hits documents = (query.hits documents).filter (· ∈ other.hits documents) := by
  rw [hits, hits.eq_def query, List.filter_filter]
  refine List.filter_congr fun entry hentry => ?_
  have hmem : entry ∈ other.hits documents ↔ other.accepts entry.1 = true := by
    rw [hits, List.mem_filter, and_iff_right hentry]
  simp only [hboth, hmem, Bool.decide_eq_true, Bool.and_comm]

theorem hits_congr (hsame : ∀ document, query.accepts document = other.accepts document) :
    query.hits documents = other.hits documents :=
  List.filter_congr fun entry _ => hsame entry.1

theorem hits_sublist
    (hnarrow : ∀ document, query.accepts document = true → other.accepts document = true) :
    (query.hits documents).Sublist (other.hits documents) :=
  List.monotone_filter_right _ fun entry => hnarrow entry.1

end Hits

/-! ### The demands of a longer line -/

section Lines

variable {line blanks : String}

theorem terms_append_of_closed (hclosed : leavesOpen line = false) (hne : blanks ≠ "")
    (hblanks : ∀ c ∈ blanks.toList, isBlank c = true) (s : String) :
    (parse (line ++ blanks ++ s)).terms = (parse line).terms ++ (parse s).terms := by
  have hnonempty : blanks.toList ≠ [] := fun hnil => hne (String.toList_eq_nil_iff.1 hnil)
  have hread := TokenLine.ofChars_append_of_closed hclosed hblanks hnonempty s.toList
  rw [parse, termsOf, String.toList_append, String.toList_append, hread]
  exact List.filterMap_append

/-- All tokens before an open quote are settled. -/
theorem terms_isPrefix_of_open (hopen : leavesOpen line = true) (more : String) :
    (parse line).terms <+: (parse (line ++ more)).terms := by
  obtain ⟨typed, hends⟩ := TokenLine.exists_endsIn line.toList
  have hsettled : (TokenLine.ofChars line.toList).settled =
      (TokenLine.ofChars line.toList).tokens := if_pos hopen
  rw [parse, parse, termsOf, termsOf, String.toList_append, hends.ofChars_append, hsettled,
    TokenLine.behind, List.filterMap_append]
  exact List.prefix_append _ _

theorem terms_isPrefix_append (hne : blanks ≠ "") (hblanks : ∀ c ∈ blanks.toList, isBlank c = true)
    (line more : String) : (parse line).terms <+: (parse (line ++ blanks ++ more)).terms := by
  cases hopen : leavesOpen line with
  | false =>
    rw [terms_append_of_closed hopen hne hblanks]
    exact List.prefix_append _ _
  | true =>
    rw [String.append_assoc]
    exact terms_isPrefix_of_open hopen _

theorem accepts_append (hclosed : leavesOpen line = false) (hne : blanks ≠ "")
    (hblanks : ∀ c ∈ blanks.toList, isBlank c = true) (s : String) (document : Document) :
    (parse (line ++ blanks ++ s)).accepts document =
      ((parse line).accepts document && (parse s).accepts document) := by
  rw [accepts, terms_append_of_closed hclosed hne hblanks, List.all_append]
  rfl

end Lines

/-- **Narrowing.** A line of two parts with blanks between them, none of which leaves a quote open,
yields the documents that both parts yield, at the same positions. So the parts can change places
and be repeated. And blanks with more text behind them never add a document to those that a line
yields, be its quotes closed or not. -/
theorem hits_append (first second blanks : String) (hfirst : leavesOpen first = false)
    (hsecond : leavesOpen second = false) (hne : blanks ≠ "")
    (hblanks : ∀ c ∈ blanks.toList, isBlank c = true) (documents : List Document) :
    (∀ query : Query, (query.hits documents).map Prod.fst = query.filter documents) ∧
      (parse (first ++ blanks ++ second)).hits documents =
        ((parse first).hits documents).filter (· ∈ (parse second).hits documents) ∧
      (parse (second ++ blanks ++ first)).hits documents =
        (parse (first ++ blanks ++ second)).hits documents ∧
      (parse (first ++ blanks ++ first)).hits documents = (parse first).hits documents ∧
      ∀ line more : String, ((parse (line ++ blanks ++ more)).hits documents).Sublist
        ((parse line).hits documents) := by
  have hbehindFirst := accepts_append hfirst hne hblanks
  have hbehindSecond := accepts_append hsecond hne hblanks
  refine ⟨fun query => query.map_fst_hits documents, hits_eq_filter (hbehindFirst second),
    hits_congr fun document => ?_, hits_congr fun document => ?_, fun line more => ?_⟩
  · rw [hbehindSecond, hbehindFirst, Bool.and_comm]
  · rw [hbehindFirst, Bool.and_self]
  · refine hits_sublist fun document haccepts => ?_
    rw [accepts, List.all_eq_true] at haccepts ⊢
    have hterms := terms_isPrefix_append hne hblanks line more
    exact fun term hterm => haccepts term (hterms.subset hterm)

/-- Two parts with quotes of their own, over a list that holds a document twice. -/
theorem hits_append_sea :
    let documents : List Document :=
      [.ofRaw "a/sea.md" [] ["old map"], .ofRaw "b.md" ["Sea"] [],
        .ofRaw "a/sea.md" [] ["old map"], .ofRaw "sea.md" [] ["#Old Map", "torn"]]
    leavesOpen "tag:\"old map\"" = false ∧ leavesOpen "sea -tag:torn" = false ∧
      "\u3000" ≠ "" ∧ (∀ c ∈ "\u3000".toList, isBlank c = true) ∧
      (parse ("tag:\"old map\"" ++ "\u3000" ++ "sea -tag:torn")).hits documents =
        ((parse "tag:\"old map\"").hits documents).filter
          (· ∈ (parse "sea -tag:torn").hits documents) ∧
      ((parse ("tag:\"old map\"" ++ "\u3000" ++ "sea -tag:torn")).hits documents).map Prod.snd =
        [0, 2] := by
  intro documents
  have hfirst : leavesOpen "tag:\"old map\"" = false := by decide +kernel
  have hsecond : leavesOpen "sea -tag:torn" = false := by decide +kernel
  have hne : "\u3000" ≠ "" := by decide
  have hblanks : ∀ c ∈ "\u3000".toList, isBlank c = true :=
    List.all_eq_true.1 (by decide +kernel)
  obtain ⟨-, hboth, -⟩ := hits_append _ _ _ hfirst hsecond hne hblanks documents
  exact ⟨hfirst, hsecond, hne, hblanks, hboth, by decide +kernel⟩

end Query

end NoteCards

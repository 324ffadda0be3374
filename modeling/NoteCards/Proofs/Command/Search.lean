import NoteCards.Command.Run
import NoteCards.Proofs.Note.Export

/-!
# Searching on the command line

A search reads a file of notes and prints the path of each note that the query accepts. The same
file can be read as documents for the query to choose from, but documents have their paths in lower
case, and several notes may share one: the documents that are chosen do not say which notes they
are. Their positions do. The paths that are printed are those of the notes at the positions of the
chosen documents (`Note.search_eq`), because what is chosen depends on the document alone.

Nothing is printed before everything is read. So one record that is not read, wherever in the file
it stands, leaves the output empty.
-/

namespace NoteCards

open NoteCards.Configuration NoteCards.Json NoteCards.Text

/-! ### Positions -/

/-- What stands at the positions of a test is what passes it. -/
theorem filterMap_findIdxs {α : Type} (test : α → Bool) (entries : List α) :
    (entries.findIdxs test).filterMap (entries[·]?) = entries.filter test := by
  induction entries with
  | nil => rfl
  | cons first rest ih =>
    have hrest : (rest.findIdxs test 1).filterMap ((first :: rest)[·]?) = rest.filter test := by
      rw [List.findIdxs_start, List.filterMap_map, ← ih]
      rfl
    rw [List.findIdxs_cons]
    cases hfirst : test first with
    | false => rw [List.filter_cons_of_neg (by simp [hfirst]), ← hrest]; rfl
    | true => rw [List.filter_cons_of_pos hfirst, ← hrest]; rfl

/-- The positions of the documents that a query yields. -/
def Query.positions (query : Query) (documents : List Document) : List Nat :=
  documents.findIdxs (· ∈ query.filter documents)

/-- Whether a query yields a document does not depend on where it stands. -/
theorem Query.mem_filter_eq_accepts {query : Query} {documents : List Document}
    {document : Document} (hmem : document ∈ documents) :
    decide (document ∈ query.filter documents) = query.accepts document := by
  have hyields : document ∈ query.filter documents ↔ query.accepts document = true :=
    List.mem_filter.trans (and_iff_right hmem)
  rw [Bool.decide_congr hyields, Bool.decide_eq_true]

theorem Query.filterMap_positions (query : Query) (documents : List Document) :
    (query.positions documents).filterMap (documents[·]?) = query.filter documents := by
  rw [positions, filterMap_findIdxs]
  exact List.filter_congr fun _ => mem_filter_eq_accepts

namespace Note

/-- The notes that are found are those at the positions of the documents that are yielded. -/
theorem search_eq (query : Query) (notes : List Note) :
    search query notes =
      (query.positions (notes.map toDocument)).filterMap fun i => (notes[i]?).map path := by
  have hpositions : query.positions (notes.map toDocument) =
      notes.findIdxs fun note => decide (note.toDocument ∈ query.filter (notes.map toDocument)) :=
    List.findIdxs_map
  have haccepts : ∀ note ∈ notes,
      decide (note.toDocument ∈ query.filter (notes.map toDocument)) =
        query.accepts note.toDocument :=
    fun _ hnote => Query.mem_filter_eq_accepts (List.mem_map_of_mem hnote)
  calc search query notes
      = (notes.filter fun note =>
          decide (note.toDocument ∈ query.filter (notes.map toDocument))).map path := by
        rw [search, List.filter_congr haccepts]
    _ = ((query.positions (notes.map toDocument)).filterMap (notes[·]?)).map path := by
        rw [hpositions, filterMap_findIdxs]
    _ = (query.positions (notes.map toDocument)).filterMap fun i => (notes[i]?).map path := by
        rw [List.map_filterMap]

/-! ### Reading all notes or none -/

theorem readDocuments_eq_ok_iff {contents : Source} {documents : List Document} :
    readDocuments contents = .ok documents ↔
      ∃ notes, readAll contents = .ok notes ∧ notes.map toDocument = documents :=
  map_eq_ok_iff

/-- Notes are read from a whole array each of whose trees is read. -/
theorem exists_readAll_iff {contents : Source} :
    (∃ notes, readAll contents = .ok notes) ↔ ∃ nodes after,
      Node.ofSource contents = (.array (.ofList nodes), some after) ∧ skipSpace after = [] ∧
        ∀ node ∈ nodes, ∃ note, shape.read (fullRoom - 1) node = .ok note := by
  constructor
  · rintro ⟨notes, hread⟩
    obtain ⟨node, after, hsource, hafter, hlist⟩ := readText_ofSource_iff.1 hread
    obtain ⟨items, rfl, heach⟩ := (readList_eq_ok_iff (by decide)).1 hlist
    obtain ⟨nodes, rfl⟩ := exists_ofList_of_readEach heach
    exact ⟨nodes, after, hsource, hafter, exists_read_of_mem heach⟩
  · rintro ⟨nodes, after, hsource, hafter, hnodes⟩
    obtain ⟨notes, heach⟩ := exists_readEach_of_forall hnodes
    exact ⟨notes, readText_ofSource_iff.2 ⟨_, after, hsource, hafter,
      (readList_eq_ok_iff (by decide)).2 ⟨_, rfl, heach⟩⟩⟩

end Note

/-! ### The command -/

namespace Command

section Arguments

variable {options : List ValueOption} {found next : Arguments} {argument name value : String}
  {rest : List String}

/-- An option ends at its first equals sign, and the rest is its value. -/
theorem splitOption_eq (hname : '=' ∉ name.toList)
    (hargument : argument.toList = name.toList ++ '=' :: value.toList) :
    splitOption argument = (name, some value) := by
  have hplain : ∀ c ∈ name.toList, decide (c ≠ '=') = true := fun c hc =>
    decide_eq_true (ne_of_mem_of_not_mem hc hname)
  rw [splitOption, hargument, List.dropWhile_append_of_pos hplain,
    List.takeWhile_append_of_pos hplain]
  simp only [List.dropWhile_cons, List.takeWhile_cons, ne_eq, not_true_eq_false, decide_false,
    Bool.false_eq_true, if_false, List.append_nil, String.ofList_toList]

theorem scanArguments_assignment (hminus : name.toList.head? = some '-')
    (hname : '=' ∉ name.toList)
    (hargument : argument.toList = name.toList ++ '=' :: value.toList)
    (hput : (findOption? options name).bind (found.put value) = some next) :
    scanArguments options found (argument :: rest) = scanArguments options next rest := by
  have hne : ∀ other : String, '=' ∉ other.toList → argument ≠ other := by
    rintro _ hother rfl
    exact hother (by rw [hargument]; simp)
  have hoption : isOption argument = true := by
    rw [isOption, hargument, List.head?_append, hminus, Option.some_or,
      decide_eq_true (hne "-" (by decide)), decide_eq_true rfl, Bool.and_true]
  rw [scanArguments.eq_def]
  dsimp only
  rw [if_neg (hne "--" (by decide)), if_neg (by simpa using hoption),
    if_neg (hne "--debug" (by decide)), splitOption_eq hname hargument]
  dsimp only
  rw [hput]

theorem scanArguments_separator :
    scanArguments options found ("--" :: rest) = some (found.addPositional rest) := by
  rw [scanArguments.eq_def]
  exact if_pos rfl

end Arguments

section Search

variable {query notes : String} {disk : Disk} {contents : Source}

/-- Every query can be given, also one that starts with a minus sign. -/
theorem parse?_search (hnotes : notes ≠ "") (query : String) :
    parse? ["search", "--notes=" ++ notes, "--", query] = some (.search query notes) := by
  have hargument : ("--notes=" ++ notes).toList = "--notes".toList ++ '=' :: notes.toList := by
    rw [String.toList_append]
    rfl
  have hput : (findOption? [.notes] "--notes").bind (Arguments.put {} notes) =
      some { notes := some notes } := by
    have hfind : findOption? [.notes] "--notes" = some .notes := by decide
    rw [hfind, Option.bind_some, Arguments.put, firstPath, if_neg (by simpa using hnotes)]
    rfl
  have hscan : scanArguments [.notes] {} ["--notes=" ++ notes, "--", query] =
      some { positional := [query], notes := some notes } := by
    rw [scanArguments_assignment (by decide) (by decide) hargument hput, scanArguments_separator]
    rfl
  have hverb : Verb.ofName? "search" = some .search := by decide
  rw [parse?, parseVerb?, hverb, Option.bind_some]
  · exact congrArg (Option.bind · fun arguments => ofArguments? arguments .search) hscan
  · simp

theorem runSearch_of_readAll {records : List Note} (hfile : disk notes = .file contents)
    (hread : Note.readAll contents = .ok records) :
    runSearch disk query notes =
      .success (pathLines (Note.search (Query.parse query) records)) := by
  rw [runSearch, hfile]
  dsimp only
  rw [hread]

/-- A search can fail in more than one way, but never with anything printed. -/
theorem exists_failure_of_not_readAll (query : String)
    (hread : ∀ contents records, disk notes = .file contents →
      Note.readAll contents ≠ .ok records) :
    ∃ reason, runSearch disk query notes = .failure reason := by
  rw [runSearch]
  split
  · exact ⟨_, rfl⟩
  · exact ⟨_, rfl⟩
  · next contents hfile =>
    split
    · exact ⟨_, rfl⟩
    · next records hok => exact absurd hok (hread contents records hfile)

/-- **Searches.** For notes that can be read, the paths are printed as the notes have them, a line
for each, at the positions where the query yields the document, among those read from the same
file, in order; what stands at these positions is all that the query yields. If the notes cannot be
read nothing is printed and the run fails, and they can be read only from a whole array of which
each tree is read as a note, the last as well as the first. Every query can be asked. -/
theorem search_prints_positions (disk : Disk) (surroundings : Surroundings)
    (query notes : String) :
    (∀ contents documents, disk notes = .file contents →
      Note.readDocuments contents = .ok documents → ∃ records,
        Note.readAll contents = .ok records ∧ records.map Note.toDocument = documents ∧
        ((Query.parse query).positions documents).filterMap (documents[·]?) =
          (Query.parse query).filter documents ∧
        run disk surroundings (.search query notes) = .success (pathLines
          (((Query.parse query).positions documents).filterMap fun i =>
            (records[i]?).map Note.path))) ∧
      ((∀ contents documents, disk notes = .file contents →
          Note.readDocuments contents ≠ .ok documents) →
        (run disk surroundings (.search query notes)).output = "" ∧
          (run disk surroundings (.search query notes)).status = 1) ∧
      (∀ contents, (∃ documents, Note.readDocuments contents = .ok documents) ↔ ∃ nodes after,
        Node.ofSource contents = (.array (.ofList nodes), some after) ∧ skipSpace after = [] ∧
          ∀ node ∈ nodes, ∃ note, Note.shape.read (fullRoom - 1) node = .ok note) ∧
      (notes ≠ "" → runLine disk surroundings ["search", "--notes=" ++ notes, "--", query] =
        run disk surroundings (.search query notes)) := by
  refine ⟨?_, ?_, ?_, ?_⟩
  · intro contents documents hfile hdocuments
    obtain ⟨records, hread, rfl⟩ := Note.readDocuments_eq_ok_iff.1 hdocuments
    refine ⟨records, hread, rfl, Query.filterMap_positions _ _, ?_⟩
    rw [run, runSearch_of_readAll hfile hread, Note.search_eq]
  · intro hnone
    obtain ⟨reason, hfails⟩ := exists_failure_of_not_readAll query
      fun contents records hfile hread =>
        hnone contents _ hfile (Note.readDocuments_eq_ok_iff.2 ⟨records, hread, rfl⟩)
    rw [run, hfails]
    exact ⟨rfl, rfl⟩
  · intro contents
    rw [← Note.exists_readAll_iff]
    simp only [Note.readDocuments_eq_ok_iff]
    exact ⟨fun ⟨_, records, hread, _⟩ => ⟨records, hread⟩,
      fun ⟨records, hread⟩ => ⟨_, records, hread, rfl⟩⟩
  · intro hnotes
    rw [runLine, parse?_search hnotes]

/-- Two notes of one path are found and a third with the same letters is not; a fourth without a
path spoils the run. -/
theorem search_prints_positions_sea :
    let found := "[[\"Sea.md\",null,[\"#x\"]],[\"sea.md\"],[\"Sea.md\",null,[],\"#X\"]]"
    let spoiled := "[[\"Sea.md\",null,[\"#x\"]],[\"sea.md\"],[\"Sea.md\",null,[],\"#X\"],[]]"
    let disk : Disk := fun path => .file (.ofString (if path = "a.json" then found else spoiled))
    let documents : List Document :=
      [.ofRaw "sea.md" [] ["x"], .ofRaw "sea.md" [] [], .ofRaw "sea.md" [] ["x"]]
    Note.readDocuments (.ofString found) = .ok documents ∧
      (Query.parse "tag:#X").positions documents = [0, 2] ∧
      (∃ records, Note.readAll (.ofString found) = .ok records ∧
        run disk ⟨none, none⟩ (.search "tag:#X" "a.json") = .success (pathLines
          ([0, 2].filterMap fun i => (records[i]?).map Note.path))) ∧
      (runLine disk ⟨none, none⟩ ["search", "--notes=a.json", "--", "tag:#X"]).output =
        "Sea.md\nSea.md\n" ∧
      (∀ documents, Note.readDocuments (.ofString spoiled) ≠ .ok documents) ∧
      (run disk ⟨none, none⟩ (.search "tag:#X" "b.json")).output = "" ∧
      (run disk ⟨none, none⟩ (.search "tag:#X" "b.json")).status = 1 := by
  intro found spoiled disk documents
  have hdocuments : Note.readDocuments (.ofString found) = .ok documents := by decide +kernel
  have hpositions : (Query.parse "tag:#X").positions documents = [0, 2] := by decide +kernel
  have houtput : (run disk ⟨none, none⟩ (.search "tag:#X" "a.json")).output =
      "Sea.md\nSea.md\n" := by
    decide +kernel
  have hspoiled : ∀ documents, Note.readDocuments (.ofString spoiled) ≠ .ok documents := by
    have herror : Note.readDocuments (.ofString spoiled) =
        .error (.data (.wrongLength 0 "struct NoteRecord with 4 elements")) := by
      decide +kernel
    intro documents hread
    rw [herror] at hread
    contradiction
  obtain ⟨hprints, -, -, hgiven⟩ := search_prints_positions disk ⟨none, none⟩ "tag:#X" "a.json"
  obtain ⟨records, hread, -, -, hrun⟩ := hprints _ documents rfl hdocuments
  have hline : runLine disk ⟨none, none⟩ ["search", "--notes=a.json", "--", "tag:#X"] =
      run disk ⟨none, none⟩ (.search "tag:#X" "a.json") := by
    have hnotes : "--notes=a.json" = "--notes=" ++ "a.json" := by decide
    rw [hnotes]
    exact hgiven (by decide)
  have hfails := (search_prints_positions disk ⟨none, none⟩ "tag:#X" "b.json").2.1
  rw [hpositions] at hrun
  rw [← hline] at houtput
  refine ⟨hdocuments, hpositions, ⟨records, hread, hrun⟩, houtput, hspoiled, hfails ?_⟩
  rintro _ others ⟨⟩
  exact hspoiled others

end Search

end Command

end NoteCards

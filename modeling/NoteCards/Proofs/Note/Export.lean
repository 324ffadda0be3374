import NoteCards.Json.RecordReader
import NoteCards.Proofs.Json.Grammar
import NoteCards.Proofs.Json.ValueTree
import NoteCards.Proofs.Note.Sources

/-!
# Exported notes

An export is an array of trees, one for each note. `Note.ExportedAs` says which trees stand for a
note: objects with the entries in any order, unknown ones among them, and arrays of the fields in
order, both without the entries that are optional and say nothing. Such an export is read note by
note (`readAll_export`), and the documents do not tell the notes that are read from those that were
exported. One tree that is no note spoils it all.

The notes themselves may differ: front matter comes back with its numbers rounded, its keys in the
order of the text and overwritten entries among them. So the run over the entries of a note keeps
track of what the labels are made of (`Note.Progress`), not of the note as a whole.
-/

namespace NoteCards

open NoteCards.Data NoteCards.Json NoteCards.Json.RecordShape NoteCards.Text

namespace Note

/-! ### Exports -/

/-- The entries of an optional field: none at all or `null` where it is absent, else one. -/
inductive OptionalEntry {α : Type} (StandsFor : Node → α → Prop) : List Node → Option α → Prop
  | omitted : OptionalEntry StandsFor [] none
  | null : OptionalEntry StandsFor [.null] none
  | given {node a} (hnode : StandsFor node a) : OptionalEntry StandsFor [node] (some a)

/-- The entries stand for the note. The list and the note take two of the levels that are left for
front matter. -/
structure HasEntries (note : Note) (entries : List (String × Node)) : Prop where
  path : ∃ node : Node, nodesUnder entries "path" = [node] ∧ node.Holds (.string note.path)
  frontMatter : OptionalEntry (fun node value => node.Holds value ∧ node.depth + 2 < fullRoom)
    (nodesUnder entries "frontmatter") note.frontMatter
  tags : nodesUnder entries "inline_tags" = [] ∧ note.tags = [] ∨
    ∃ node : Node, nodesUnder entries "inline_tags" = [node] ∧
      node.Holds (.array (note.tags.map .string))
  body : OptionalEntry (fun node s => node.Holds (.string s)) (nodesUnder entries "body") note.body

/-- The tree stands for the note. -/
def ExportedAs (note : Note) (tree : Node) : Prop :=
  ∃ entries, shape.Gives tree entries ∧ note.HasEntries entries

/-- The value is none that the field of this name takes. Front matter takes any value. -/
inductive IllTyped : String → Node → Prop
  | path {node : Node} (hnode : ∀ s, ¬node.Holds (.string s)) : IllTyped "path" node
  | tags {node : Node} (hnode : ∀ strings : List String,
      ¬node.Holds (.array (strings.map .string))) : IllTyped "inline_tags" node
  | body {node : Node} (hnull : node ≠ .null) (hnode : ∀ s, ¬node.Holds (.string s)) :
      IllTyped "body" node

/-- The tree stands for no note. -/
inductive Malformed : Node → Prop
  | other {tree} (harray : ∀ items, tree ≠ .array items)
      (hobject : ∀ members, tree ≠ .object members) : Malformed tree
  | tooLong {values : List Node} (hlength : shape.fields.length < values.length) :
      Malformed (.array (.ofList values))
  | withoutPath {tree entries} (hgives : shape.Gives tree entries)
      (hpath : nodesUnder entries "path" = []) : Malformed tree
  | repeated {tree entries name} (hgives : shape.Gives tree entries) (hname : name ∈ shape.names)
      (hmany : 1 < (nodesUnder entries name).length) : Malformed tree
  | illTyped {tree entries name node} (hgives : shape.Gives tree entries)
      (hnode : node ∈ nodesUnder entries name) (htype : IllTyped name node) : Malformed tree

/-! ### Reading an entry -/

/-- The room for the fields of a note. -/
def fieldRoom : Nat := fullRoom - 2

/-- The labels of a document are made of the same strings. -/
def SameStrings (first second : Option Value) : Prop :=
  ∀ key, stringsUnder (first.getD .null) key = stringsUnder (second.getD .null) key

/-- A field with this value either is as wanted and has no entries ahead, or has one entry ahead and
will be as wanted when this is read. -/
def Awaits {α : Type} (reader : Reader α) (Wanted : α → Prop) (ahead : List Node) (a : α) : Prop :=
  ahead = [] ∧ Wanted a ∨
    ∃ node read, ahead = [node] ∧ reader fieldRoom node = .ok read ∧ Wanted read

section Awaits

variable {α : Type} {reader : Reader α} {Wanted : α → Prop} {ahead : List Node} {node : Node}
  {a : α}

/-- The entry ahead is read, and nothing is left to wait for. -/
theorem Awaits.read (hawaits : Awaits reader Wanted (node :: ahead) a) :
    ∃ read, reader fieldRoom node = .ok read ∧ Awaits reader Wanted ahead read := by
  rcases hawaits with ⟨hnone, -⟩ | ⟨other, read, hahead, hread, hwanted⟩
  · contradiction
  · obtain ⟨rfl, rfl⟩ := List.cons.inj hahead
    exact ⟨read, hread, .inl ⟨rfl, hwanted⟩⟩

theorem Awaits.wanted (hawaits : Awaits reader Wanted [] a) : Wanted a := by
  rcases hawaits with ⟨-, hwanted⟩ | ⟨_, _, hahead, -⟩
  · exact hwanted
  · contradiction

theorem Awaits.length_le (hawaits : Awaits reader Wanted ahead a) : ahead.length ≤ 1 := by
  rcases hawaits with ⟨rfl, -⟩ | ⟨_, _, rfl, -⟩
  · exact Nat.zero_le _
  · exact Nat.le_refl _

end Awaits

theorem OptionalEntry.awaits_frontMatter {ahead : List Node} {frontMatter : Option Value}
    (hentry : OptionalEntry (fun node value => node.Holds value ∧ node.depth + 2 < fullRoom) ahead
      frontMatter) :
    Awaits (readOptional readValue) (SameStrings · frontMatter) ahead none := by
  cases hentry with
  | omitted => exact .inl ⟨rfl, fun _ => rfl⟩
  | null => exact .inr ⟨.null, none, rfl, rfl, fun _ => rfl⟩
  | @given node value hnode =>
    obtain ⟨hholds, hdepth⟩ := hnode
    obtain ⟨read, hread, hagain⟩ := hholds.exists_readValue (Nat.lt_sub_of_add_lt hdepth)
    have hsame := stringsUnder_eq_of_holds hagain hholds
    -- A note may have `null` as its front matter, which is read as no front matter at all.
    by_cases hnull : node = .null
    · subst hnull
      cases hagain
      exact .inr ⟨.null, none, rfl, rfl, hsame⟩
    · refine .inr ⟨node, some read, rfl, ?_, hsame⟩
      rw [readOptional, fieldRoom, hread]
      · rfl
      · exact hnull

theorem OptionalEntry.awaits_body {ahead : List Node} {body : Option String}
    (hentry : OptionalEntry (fun node s => node.Holds (.string s)) ahead body) :
    Awaits (readOptional readString) (· = body) ahead none := by
  cases hentry with
  | omitted => exact .inl ⟨rfl, rfl⟩
  | null => exact .inr ⟨.null, none, rfl, rfl, rfl⟩
  | @given node s hnode =>
    refine .inr ⟨node, some s, rfl, ?_, rfl⟩
    rw [readOptional, readString_eq_ok_iff.2 hnode]
    · rfl
    · rintro rfl
      cases hnode

/-! ### Reading a note -/

/-- What is kept while the entries of a note are read. -/
structure Progress (note : Note) (entries : List (String × Node)) (record : Note) : Prop where
  path : Awaits readString (· = note.path) (nodesUnder entries "path") record.path
  frontMatter : Awaits (readOptional readValue) (SameStrings · note.frontMatter)
    (nodesUnder entries "frontmatter") record.frontMatter
  tags : Awaits (readList readString) (· = note.tags) (nodesUnder entries "inline_tags") record.tags
  body : Awaits (readOptional readString) (· = note.body) (nodesUnder entries "body") record.body

variable {note record : Note} {entries : List (String × Node)} {tree : Node}

theorem nodup_names : shape.names.Nodup := by decide

theorem HasEntries.progress (hentries : note.HasEntries entries) :
    note.Progress entries shape.initial where
  path := by
    obtain ⟨node, hahead, hholds⟩ := hentries.path
    exact .inr ⟨node, note.path, hahead, readString_eq_ok_iff.2 hholds, rfl⟩
  frontMatter := hentries.frontMatter.awaits_frontMatter
  tags := by
    rcases hentries.tags with ⟨hahead, htags⟩ | ⟨node, hahead, hholds⟩
    · exact .inl ⟨hahead, htags.symm⟩
    · exact .inr ⟨node, note.tags, hahead,
        (readList_readString_eq_ok_iff (by decide)).2 hholds, rfl⟩
  body := hentries.body.awaits_body

theorem HasEntries.admits (hentries : note.HasEntries entries) : shape.Admits [] entries := by
  obtain ⟨hpath, hfrontMatter, htags, hbody⟩ := hentries.progress
  obtain ⟨node, hahead, -⟩ := hentries.path
  have hgiven : 0 < (nodesUnder entries "path").length := by simp [hahead]
  have hoptional : ∀ {P : Prop}, false = true → P := fun h => absurd h Bool.false_ne_true
  simp only [Admits, timesGiven_nil, shape, List.forall_mem_cons]
  exact ⟨⟨hpath.length_le, fun _ => hgiven⟩, ⟨hfrontMatter.length_le, hoptional⟩,
    ⟨htags.length_le, hoptional⟩, ⟨hbody.length_le, hoptional⟩, List.forall_mem_nil _⟩

/-- One entry is read into its field, and the others are waited for as before. -/
theorem reads_progress (note : Note) : shape.Reads fieldRoom note.Progress where
  known field hfield node entries record hprogress := by
    obtain ⟨hpath, hfrontMatter, htags, hbody⟩ := hprogress
    simp only [shape, List.mem_cons, List.not_mem_nil, or_false] at hfield
    rcases hfield with rfl | rfl | rfl | rfl
    · simp only [requiredField, nodesUnder_cons, String.reduceEq, reduceIte] at *
      obtain ⟨read, hread, hpath⟩ := hpath.read
      exact ⟨{ record with path := read }, map_eq_ok_iff.2 ⟨read, hread, rfl⟩,
        hpath, hfrontMatter, htags, hbody⟩
    · simp only [optionalField, nodesUnder_cons, String.reduceEq, reduceIte] at *
      obtain ⟨read, hread, hfrontMatter⟩ := hfrontMatter.read
      exact ⟨{ record with frontMatter := read }, map_eq_ok_iff.2 ⟨read, hread, rfl⟩,
        hpath, hfrontMatter, htags, hbody⟩
    · simp only [optionalField, nodesUnder_cons, String.reduceEq, reduceIte] at *
      obtain ⟨read, hread, htags⟩ := htags.read
      exact ⟨{ record with tags := read }, map_eq_ok_iff.2 ⟨read, hread, rfl⟩,
        hpath, hfrontMatter, htags, hbody⟩
    · simp only [optionalField, nodesUnder_cons, String.reduceEq, reduceIte] at *
      obtain ⟨read, hread, hbody⟩ := hbody.read
      exact ⟨{ record with body := read }, map_eq_ok_iff.2 ⟨read, hread, rfl⟩,
        hpath, hfrontMatter, htags, hbody⟩
  unknown name hname node entries record hprogress := by
    obtain ⟨hpath, hfrontMatter, htags, hbody⟩ := hprogress
    have hother : ∀ other ∈ shape.names,
        nodesUnder ((name, node) :: entries) other = nodesUnder entries other :=
      fun other hmem => nodesUnder_cons_of_ne fun hsame => hname (hsame ▸ hmem)
    rw [hother _ (by decide)] at hpath hfrontMatter htags hbody
    exact ⟨hpath, hfrontMatter, htags, hbody⟩

/-- A note that was exported is read, if its tree can be passed over: what is read has the path of
the note and makes the same document. -/
theorem ExportedAs.exists_read (hexported : note.ExportedAs tree) (hskip : skipNode tree = .ok ()) :
    ∃ record, shape.read (fullRoom - 1) tree = .ok record ∧ record.path = note.path ∧
      record.toDocument = note.toDocument := by
  obtain ⟨entries, hgives, hentries⟩ := hexported
  obtain ⟨record, hread, hpath, hfrontMatter, htags, hbody⟩ :=
    (reads_progress note).readMembers nodup_names hentries.admits (hgives.skipNode hskip)
      hentries.progress
  -- The front matter that is read may differ: labels look at nothing but the strings under a key.
  have hsame := hfrontMatter.wanted
  refine ⟨record, (hgives.read_eq_ok_iff nodup_names (by decide)).2 hread, hpath.wanted, ?_⟩
  rw [toDocument_eq, toDocument_eq, namedAliases, namedTags, looseTags, hpath.wanted, htags.wanted,
    hbody.wanted, hsame "aliases", hsame "alias", hsame "tags", hsame "tag"]
  rfl

/-- The field of the name is never read. -/
theorem IllTyped.exists_field {name : String} {node : Node} (htype : IllTyped name node) :
    ∃ field ∈ shape.fields, field.name = name ∧
      ∀ record next, field.read record fieldRoom node ≠ .ok next := by
  cases htype with
  | path hnode =>
    refine ⟨requiredField "path" readString ({ · with path := · }), by simp [shape], rfl, ?_⟩
    intro record next hread
    obtain ⟨s, hs, -⟩ := map_eq_ok_iff.1 hread
    exact hnode s (readString_eq_ok_iff.1 hs)
  | tags hnode =>
    refine ⟨optionalField "inline_tags" (readList readString) ({ · with tags := · }),
      by simp [shape], rfl, ?_⟩
    intro record next hread
    obtain ⟨strings, hstrings, -⟩ := map_eq_ok_iff.1 hread
    exact hnode strings ((readList_readString_eq_ok_iff (by decide)).1 hstrings)
  | body hnull hnode =>
    refine ⟨optionalField "body" (readOptional readString) ({ · with body := · }),
      by simp [shape], rfl, ?_⟩
    intro record next hread
    obtain ⟨body, hbody, -⟩ := map_eq_ok_iff.1 hread
    rw [readOptional] at hbody
    · obtain ⟨s, hs, -⟩ := map_eq_ok_iff.1 hbody
      exact hnode s (readString_eq_ok_iff.1 hs)
    · exact hnull

/-- What is no note is not read as one. -/
theorem Malformed.not_read (hmalformed : Malformed tree) :
    shape.read (fullRoom - 1) tree ≠ .ok record := by
  intro hread
  cases hmalformed with
  | other harray hobject =>
    unfold RecordShape.read at hread
    split at hread
    · exact hobject _ rfl
    · exact harray _ rfl
    · exact mismatch_ne_ok _ _ _ hread
  | tooLong hlength =>
    exact absurd (length_le_of_readFields hread) (not_le.2 hlength)
  | withoutPath hgives hpath =>
    rw [hgives.read_eq_ok_iff nodup_names (by decide)] at hread
    obtain ⟨hadmits, -⟩ := admits_of_readMembers nodup_names hread
    have hgiven := (hadmits (requiredField "path" readString ({ · with path := · }))
      (by simp [shape])).2 rfl
    simp [timesGiven_nil, requiredField, hpath] at hgiven
  | repeated hgives hname hmany =>
    rw [hgives.read_eq_ok_iff nodup_names (by decide)] at hread
    obtain ⟨hadmits, -⟩ := admits_of_readMembers nodup_names hread
    obtain ⟨field, hfield, rfl⟩ := List.mem_map.1 hname
    have honce := (hadmits field hfield).1
    rw [timesGiven_nil] at honce
    exact absurd honce (not_le.2 hmany)
  | illTyped hgives hnode htype =>
    rw [hgives.read_eq_ok_iff nodup_names (by decide)] at hread
    obtain ⟨-, htyped⟩ := admits_of_readMembers nodup_names hread
    obtain ⟨field, hfield, rfl, hnever⟩ := htype.exists_field
    obtain ⟨record, next, hvalue⟩ := htyped field hfield _ hnode
    exact hnever record next hvalue

/-! ### Reading an export -/

/-- A list of notes that was exported is read note by note. -/
theorem exists_records {notes : List Note} {nodes : List Node}
    (hexported : List.Forall₂ ExportedAs notes nodes)
    (hskip : ∀ node ∈ nodes, skipNode node = .ok ()) :
    ∃ records, readEach shape.read (fullRoom - 1) (.ofList nodes) = .ok records ∧
      records.map path = notes.map path ∧ records.map toDocument = notes.map toDocument := by
  simp only [readEach_ofList_eq_ok_iff]
  induction hexported with
  | nil => exact ⟨[], .nil, rfl, rfl⟩
  | cons hfirst _ ih =>
    rw [List.forall_mem_cons] at hskip
    obtain ⟨record, hread, hpath, hdocument⟩ := hfirst.exists_read hskip.1
    obtain ⟨records, hrecords, hpaths, hdocuments⟩ := ih hskip.2
    refine ⟨record :: records, .cons hread hrecords, ?_, ?_⟩
    · rw [List.map_cons, List.map_cons, hpath, hpaths]
    · rw [List.map_cons, List.map_cons, hdocument, hdocuments]

/-- **Exports.** Whatever way an array of trees is written, it is read as one list of notes if each
tree stands for a note: in order, with the paths as they are and with the same documents. If one of
the trees stands for no note, nothing is read. -/
theorem readAll_export {text : String} {nodes : List Node}
    (htext : (Node.array (.ofList nodes)).Spaced text.toList) :
    (∀ notes, List.Forall₂ ExportedAs notes nodes →
      ∃ records, readAll (.ofString text) = .ok records ∧
        records.map path = notes.map path ∧
        readDocuments (.ofString text) = .ok (notes.map toDocument)) ∧
    ∀ node ∈ nodes, Malformed node →
      ∃ e, readAll (.ofString text) = .error e ∧ readDocuments (.ofString text) = .error e := by
  have hread : readAll (.ofString text) =
      readEach shape.read (fullRoom - 1) (.ofList nodes) := htext.readText _
  rw [readDocuments, hread]
  constructor
  · intro notes hexported
    have hskip := htext.skipNode
    rw [skipNode] at hskip
    obtain ⟨records, hrecords, hpaths, hdocuments⟩ :=
      exists_records hexported (skipItems_ofList hskip)
    refine ⟨records, hrecords, hpaths, ?_⟩
    rw [hrecords, ← hdocuments]
    rfl
  · intro node hnode hmalformed
    cases hall : readEach shape.read (fullRoom - 1) (.ofList nodes) with
    | error e => exact ⟨e, rfl, rfl⟩
    | ok records =>
      obtain ⟨record, hrecord⟩ := exists_read_of_mem hall node hnode
      exact absurd hrecord hmalformed.not_read

/-- A note as an object with its entries in no particular order, one of them unknown. -/
def shipEntry : Value :=
  .object [("pinned", .array [.integer 0]), ("body", .string "at #dock"),
    ("path", .string "Ship.md"), ("frontmatter", .object [("tags", .array [.string "#Sea"])])]

def shipNote : Note where
  path := "Ship.md"
  frontMatter := some (.object [("tags", .array [.string "#Sea"])])
  body := some "at #dock"

/-- A note as an array of its first fields. -/
def pierEntry : Value := .array [.string "Pier.md", .null]

def pierNote : Note := { path := "Pier.md" }

theorem exportedAs_shipEntry : shipNote.ExportedAs (.ofValue shipEntry) := by
  rw [shipEntry, Node.ofValue, ofEntries_eq_ofNodes]
  refine ⟨_, .object _, ?_⟩
  constructor <;> simp only [List.map_cons, List.map_nil, nodesUnder_cons, nodesUnder_nil,
    String.reduceEq, reduceIte]
  case path => exact ⟨_, rfl, .string (value_toList _)⟩
  case frontMatter =>
    have hformat : InFormat (.object [("tags", .array [.string "#Sea"])]) := by
      refine .object fun entry hentry => ?_
      rw [List.mem_singleton.1 hentry]
      refine .array fun item hitem => ?_
      rw [List.mem_singleton.1 hitem]
      exact .string _
    exact .given ⟨hformat.holds_ofValue, by decide⟩
  case tags => exact .inl ⟨trivial, rfl⟩
  case body => exact .given (.string (value_toList _))

theorem exportedAs_pierEntry : pierNote.ExportedAs (.ofValue pierEntry) := by
  rw [pierEntry, Node.ofValue, ofValues_eq_ofList]
  refine ⟨_, .array (by decide), ?_⟩
  constructor <;> simp only [names, shape, requiredField, optionalField, List.map_cons,
    List.map_nil, List.zip_cons_cons, List.zip_nil_right, nodesUnder_cons, nodesUnder_nil,
    String.reduceEq, reduceIte]
  case path => exact ⟨_, rfl, .string (value_toList _)⟩
  case frontMatter => exact .null
  case tags => exact .inl ⟨trivial, rfl⟩
  case body => exact .omitted

theorem readAll_export_ship :
    (Node.array (.ofList [.ofValue shipEntry, .ofValue pierEntry])).Spaced
        (pretty (.array [shipEntry, pierEntry])).toList ∧
      (∃ records, readAll (.ofString (pretty (.array [shipEntry, pierEntry]))) = .ok records ∧
        records.map path = ["Ship.md", "Pier.md"] ∧
        readDocuments (.ofString (pretty (.array [shipEntry, pierEntry]))) =
          .ok ([shipNote, pierNote].map toDocument)) ∧
      ∃ e, readAll (.ofString (pretty (.array [shipEntry, .object []]))) = .error e ∧
        readDocuments (.ofString (pretty (.array [shipEntry, .object []]))) = .error e := by
  have hspaced := spaced_pretty [shipEntry, pierEntry]
  have hspoiled := spaced_pretty [shipEntry, .object []]
  refine ⟨hspaced, ?_, ?_⟩
  · exact (readAll_export hspaced).1 [shipNote, pierNote]
      (.cons exportedAs_shipEntry (.cons exportedAs_pierEntry .nil))
  · exact (readAll_export hspoiled).2 (.ofValue (.object [])) (by simp)
      (.withoutPath (.object []) rfl)

end Note

end NoteCards

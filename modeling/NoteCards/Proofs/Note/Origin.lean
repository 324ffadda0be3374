import Mathlib.Data.String.Basic
import NoteCards.Proofs.Note.Attributes
import NoteCards.Proofs.Note.Label

/-!
# Documents and what they are made of

A document can be made of raw text, of front matter with a list of tags, or of a note. In each case
it holds the labels of the strings that are given there and nothing else (`Document.MadeOf`), and
that is all there is to know of it: a set of labels has one list, in the order of the code points
and without repetitions, and each label is the label of some string. So how often a string is given,
in which order, and in which of the places for it cannot be seen in the document
(`document_normal_and_determined`).

What makes this work is that labels are taken of strings one by one. Strings that are not the same
can have one label, so two documents can be equal although nothing that they are made of is.
-/

namespace NoteCards

open NoteCards.Data NoteCards.Text

/-- The code points of a text; texts are ordered by the first of these in which they differ. -/
def codes (s : String) : List Nat := s.toList.map Char.toNat

theorem codes_lt_codes {s t : String} (hlt : s < t) : codes s < codes t := by
  apply List.map_lt
  · intro c d hless
    exact hless
  · exact String.lt_iff_toList_lt.1 hlt

/-- What holds of every document: lower case throughout, and labels in ascending order and each
once. -/
structure Document.Normal (document : Document) : Prop where
  path_lower : lowercase document.path = document.path
  aliases_ascending : document.aliases.toList.Pairwise fun label other => codes label < codes other
  aliases_nodup : document.aliases.toList.Nodup
  tags_ascending : document.tags.toList.Pairwise fun label other => codes label < codes other
  tags_nodup : document.tags.toList.Nodup
  alias_label : ∀ label ∈ document.aliases, IsLabel label ∧ StartsPlain label.toList
  tag_label : ∀ label ∈ document.tags, IsLabel label

/-! ### What a document is made of -/

/-- Front matter and a list of tags, as a note without a body. -/
def Note.ofMetadata (path : String) (frontMatter : Option Value) (tags : List String) : Note :=
  { path, frontMatter, tags }

inductive Origin where
  | raw (path : String) (aliases tags : List String)
  | metadata (path : String) (frontMatter : Option Value) (tags : List String)
  | note (n : Note)

namespace Origin

def document : Origin → Document
  | raw path aliases tags => .ofRaw path aliases tags
  | metadata path frontMatter tags => .ofFrontMatter path frontMatter tags
  | note n => n.toDocument

def path : Origin → String
  | raw path _ _ => path
  | metadata path _ _ => path
  | note n => n.path

/-- A string that is given as an alias: in the list of them, or under one of two keys. -/
def GivesAlias : Origin → String → Prop
  | raw _ aliases _, s => s ∈ aliases
  | metadata path frontMatter tags, s =>
    (Note.ofMetadata path frontMatter tags).Names "aliases" s ∨
      (Note.ofMetadata path frontMatter tags).Names "alias" s
  | note n, s => n.Names "aliases" s ∨ n.Names "alias" s

/-- A string that is given as a tag: under one of two keys, in the list of tags, or in the body. -/
def GivesTag : Origin → String → Prop
  | raw _ _ tags, s => s ∈ tags
  | metadata path frontMatter tags, s =>
    (Note.ofMetadata path frontMatter tags).Names "tags" s ∨
      (Note.ofMetadata path frontMatter tags).Names "tag" s ∨ s ∈ tags
  | note n, s =>
    n.Names "tags" s ∨ n.Names "tag" s ∨ s ∈ n.tags ∨
      ∃ body, n.body = some body ∧ s ∈ Hashtag.inBody body

/-- Origins that give the same strings, be it in another order, several times, under the other key
or in another place for tags. -/
structure AgreesWith (other origin : Origin) : Prop where
  path_eq : other.path = origin.path
  alias_iff : ∀ s, other.GivesAlias s ↔ origin.GivesAlias s
  tag_iff : ∀ s, other.GivesTag s ↔ origin.GivesTag s

end Origin

/-- The document holds the labels of the strings that the origin gives, and no others. -/
structure Document.MadeOf (document : Document) (origin : Origin) : Prop where
  path_eq : document.path = lowercase origin.path
  mem_aliases_iff : ∀ label, label ∈ document.aliases ↔
    ∃ s, origin.GivesAlias s ∧ aliasLabel? s = some label
  mem_tags_iff : ∀ label, label ∈ document.tags ↔
    ∃ s, origin.GivesTag s ∧ tagLabel? s = some label

/-! ### Every origin makes its document -/

theorem LabelSet.mem_ofList_filterMap {label? : String → Option String} {strings : List String}
    {label : String} :
    label ∈ ofList (strings.filterMap label?) ↔ ∃ s, s ∈ strings ∧ label? s = some label := by
  rw [mem_ofList, List.mem_filterMap]

/-- Which labels there are is settled by which strings are given. -/
theorem exists_label_congr {label? : String → Option String} {given other : String → Prop}
    (hsame : ∀ s, given s ↔ other s) {label : String} :
    (∃ s, given s ∧ label? s = some label) ↔ ∃ s, other s ∧ label? s = some label :=
  exists_congr fun s => and_congr_left fun _ => hsame s

theorem Note.mem_looseTags_iff {note : Note} {s : String} :
    s ∈ note.looseTags ↔
      s ∈ note.tags ∨ ∃ body, note.body = some body ∧ s ∈ Hashtag.inBody body := by
  rw [looseTags, List.mem_append]
  cases note.body <;> simp

namespace Origin

theorem madeOf_raw (path : String) (aliases tags : List String) :
    (raw path aliases tags).document.MadeOf (raw path aliases tags) where
  path_eq := rfl
  mem_aliases_iff _ := LabelSet.mem_ofList_filterMap
  mem_tags_iff _ := LabelSet.mem_ofList_filterMap

theorem givesAlias_note_iff {n : Note} {s : String} :
    (note n).GivesAlias s ↔ s ∈ n.frontMatter.elim [] namedAliases := Note.mem_elim_iff.symm

theorem givesTag_note_iff {n : Note} {s : String} :
    (note n).GivesTag s ↔ s ∈ n.frontMatter.elim [] namedTags ++ n.looseTags := by
  rw [List.mem_append, Note.mem_looseTags_iff]
  exact ((or_congr_left Note.mem_elim_iff).trans or_assoc).symm

theorem givesTag_metadata_iff {path : String} {frontMatter : Option Value} {tags : List String}
    {s : String} :
    (metadata path frontMatter tags).GivesTag s ↔
      (note (.ofMetadata path frontMatter tags)).GivesTag s := by
  simp [GivesTag, Note.ofMetadata]

theorem madeOf_note (n : Note) : (note n).document.MadeOf (note n) where
  path_eq := rfl
  mem_aliases_iff label := by
    apply LabelSet.mem_ofList_filterMap.trans
    exact exists_label_congr fun s => givesAlias_note_iff.symm
  mem_tags_iff label := by
    have hlist : (note n).document.tags = .ofList
        ((n.frontMatter.elim [] namedTags ++ n.looseTags).filterMap tagLabel?) := by
      rw [List.filterMap_append]
      rfl
    rw [hlist]
    apply LabelSet.mem_ofList_filterMap.trans
    exact exists_label_congr fun s => givesTag_note_iff.symm

theorem toDocument_ofMetadata (path : String) (frontMatter : Option Value) (tags : List String) :
    (Note.ofMetadata path frontMatter tags).toDocument =
      .ofFrontMatter path frontMatter tags := by
  have hloose : (Note.ofMetadata path frontMatter tags).looseTags = tags := List.append_nil tags
  rw [Note.toDocument, hloose]
  rfl

theorem madeOf_metadata (path : String) (frontMatter : Option Value) (tags : List String) :
    (metadata path frontMatter tags).document.MadeOf (metadata path frontMatter tags) := by
  have hnote := madeOf_note (.ofMetadata path frontMatter tags)
  have hdocument : (metadata path frontMatter tags).document =
      (note (.ofMetadata path frontMatter tags)).document :=
    (toDocument_ofMetadata path frontMatter tags).symm
  rw [hdocument]
  refine ⟨hnote.path_eq, hnote.mem_aliases_iff, fun label => ?_⟩
  apply (hnote.mem_tags_iff label).trans
  exact exists_label_congr fun s => givesTag_metadata_iff.symm

theorem madeOf (origin : Origin) : origin.document.MadeOf origin := by
  cases origin with
  | raw path aliases tags => exact madeOf_raw path aliases tags
  | metadata path frontMatter tags => exact madeOf_metadata path frontMatter tags
  | note n => exact madeOf_note n

end Origin

/-! ### What follows for the document -/

theorem LabelSet.ascending_codes (labels : LabelSet) :
    labels.toList.Pairwise fun label other => codes label < codes other :=
  labels.ascending.imp codes_lt_codes

namespace Document.MadeOf

variable {document copy : Document} {origin other : Origin}

theorem normal (hmade : document.MadeOf origin) : document.Normal where
  path_lower := by
    rw [hmade.path_eq, lowercase_eq_self_iff, toList_lowercase, lower_lower]
  aliases_ascending := document.aliases.ascending_codes
  aliases_nodup := document.aliases.nodup
  tags_ascending := document.tags.ascending_codes
  tags_nodup := document.tags.nodup
  alias_label label hmem := by
    obtain ⟨s, -, hlabel⟩ := (hmade.mem_aliases_iff label).1 hmem
    exact isLabel_of_aliasLabel? hlabel
  tag_label label hmem := by
    obtain ⟨s, -, hlabel⟩ := (hmade.mem_tags_iff label).1 hmem
    exact isLabel_of_tagLabel? hlabel

theorem of_agreesWith (hmade : document.MadeOf other) (hagrees : other.AgreesWith origin) :
    document.MadeOf origin where
  path_eq := by rw [hmade.path_eq, hagrees.path_eq]
  mem_aliases_iff label := by
    apply (hmade.mem_aliases_iff label).trans
    exact exists_label_congr hagrees.alias_iff
  mem_tags_iff label := by
    apply (hmade.mem_tags_iff label).trans
    exact exists_label_congr hagrees.tag_iff

/-- An origin makes one document. -/
theorem unique (hmade : document.MadeOf origin) (hcopy : copy.MadeOf origin) :
    copy = document := by
  have haliases : copy.aliases = document.aliases := by
    apply LabelSet.ext
    intro label
    rw [hcopy.mem_aliases_iff, hmade.mem_aliases_iff]
  have htags : copy.tags = document.tags := by
    apply LabelSet.ext
    intro label
    rw [hcopy.mem_tags_iff, hmade.mem_tags_iff]
  have hpath : copy.path = document.path := hcopy.path_eq.trans hmade.path_eq.symm
  obtain ⟨path, aliases, tags⟩ := document
  obtain ⟨copyPath, copyAliases, copyTags⟩ := copy
  rw [Document.mk.injEq]
  exact ⟨hpath, haliases, htags⟩

end Document.MadeOf

/-- **Documents are normal and determined.** Whatever a document is made of, its path is in lower
case, its labels are in ascending order and each once, no label is blank or ends with a blank, and
no alias starts with one. Its labels are those of the strings given, and every other origin that
gives the same strings makes the same document. -/
theorem document_normal_and_determined (origin : Origin) :
    origin.document.Normal ∧ origin.document.MadeOf origin ∧
      ∀ other : Origin, other.AgreesWith origin → other.document = origin.document := by
  refine ⟨origin.madeOf.normal, origin.madeOf, fun other hagrees => ?_⟩
  exact origin.madeOf.unique (other.madeOf.of_agreesWith hagrees)

/-- A note that gives tags in each place for them, three of them with one label. -/
def quayNote : Note where
  path := "Quay.md"
  frontMatter := some (.object
    [("tags", .array [.string "#Sea", .integer 3, .string " sea"]), ("alias", .string " Port")])
  tags := ["Ship"]
  body := some "at #dock, #Sea"

/-- The same strings in another order, under the other keys and moved between the front matter, the
list and the body, an alias and a tag of them twice. -/
def quayCopy : Note := .ofMetadata "Quay.md"
  (some (.object
    [("tag", .array [.string "dock", .string "Ship", .string "#Sea", .string "Ship"]),
      ("aliases", .array [.string " Port", .null, .string " Port"])]))
  ["Sea", " sea"]

theorem quayCopy_agreesWith :
    (Origin.metadata quayCopy.path quayCopy.frontMatter quayCopy.tags).AgreesWith
      (.note quayNote) where
  path_eq := rfl
  alias_iff s := by
    have hnote : quayNote.frontMatter.elim [] namedAliases = [" Port"] := by decide +kernel
    have hcopy : quayCopy.frontMatter.elim [] namedAliases = [" Port", " Port"] := by
      decide +kernel
    apply (Origin.givesAlias_note_iff (n := quayCopy)).trans
    rw [Origin.givesAlias_note_iff, hnote, hcopy]
    simp
  tag_iff s := by
    have hnote : quayNote.frontMatter.elim [] namedTags ++ quayNote.looseTags =
        ["#Sea", " sea", "Ship", "dock", "Sea"] := by
      decide +kernel
    have hcopy : quayCopy.frontMatter.elim [] namedTags ++ quayCopy.looseTags =
        ["dock", "Ship", "#Sea", "Ship", "Sea", " sea"] := by
      decide +kernel
    have hsame : ∀ t ∈ ["dock", "Ship", "#Sea", "Ship", "Sea", " sea"],
        t ∈ ["#Sea", " sea", "Ship", "dock", "Sea"] := by
      decide
    have hback : ∀ t ∈ ["#Sea", " sea", "Ship", "dock", "Sea"],
        t ∈ ["dock", "Ship", "#Sea", "Ship", "Sea", " sea"] := by
      decide
    apply Origin.givesTag_metadata_iff.trans
    apply (Origin.givesTag_note_iff (n := quayCopy)).trans
    rw [Origin.givesTag_note_iff, hnote, hcopy]
    exact ⟨hsame s, hback s⟩

theorem document_normal_and_determined_quay :
    (Origin.note quayNote).document.tags.toList = ["dock", "sea", "ship"] ∧
      (Origin.metadata quayCopy.path quayCopy.frontMatter quayCopy.tags).AgreesWith
        (.note quayNote) ∧
      Document.ofFrontMatter quayCopy.path quayCopy.frontMatter quayCopy.tags =
        quayNote.toDocument := by
  obtain ⟨-, -, hsame⟩ := document_normal_and_determined (.note quayNote)
  exact ⟨by decide +kernel, quayCopy_agreesWith, hsame _ quayCopy_agreesWith⟩

end NoteCards

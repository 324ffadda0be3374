import NoteCards.Note.Basic
import Mathlib.Logic.ExistsUnique

/-!
# Where the labels of a note come from

The document of a note is put together from its front matter, its listed tags and its body, each of
them made into labels on a way of its own. `Note.Sources` says what all of these ways come down to:
two lists of strings, read off the note in a fixed order. Every note has exactly one such pair, and
its document is the raw document of the pair (`toDocument_eq_ofRaw`), so that nothing else that the
front matter holds, in whatever shape, can be seen in it.
-/

namespace NoteCards

open NoteCards.Data

/-- The strings among the items of an array, in order. -/
inductive StringItems : List Value → List String → Prop
  | nil : StringItems [] []
  | string (s : String) {items strings} :
      StringItems items strings → StringItems (.string s :: items) (s :: strings)
  | other {item items strings} :
      (∀ s, item ≠ .string s) → StringItems items strings → StringItems (item :: items) strings

/-- The strings found in an entry: it alone if it is one, those in it if it is an array, and none
otherwise or where there is no entry. -/
inductive FoundIn : Option Value → List String → Prop
  | string (s : String) : FoundIn (some (.string s)) [s]
  | array {items strings} : StringItems items strings → FoundIn (some (.array items)) strings
  | other {entry} : (∀ s, entry ≠ some (.string s)) → (∀ items, entry ≠ some (.array items)) →
      FoundIn entry []

namespace Note

/-- What a note has under a key of its front matter, if that is an object with the key. -/
def entry? (note : Note) (key : String) : Option Value :=
  note.frontMatter.bind (·.get? key)

/-- The strings that a note gives as aliases and as tags, each key, the listed tags and the tags of
the body in turn. -/
inductive Sources (note : Note) : List String → List String → Prop
  | intro {aliases moreAliases tags moreTags : List String} :
      FoundIn (note.entry? "aliases") aliases → FoundIn (note.entry? "alias") moreAliases →
      FoundIn (note.entry? "tags") tags → FoundIn (note.entry? "tag") moreTags →
      Sources note (aliases ++ moreAliases)
        (tags ++ moreTags ++ note.tags ++ note.body.elim [] Hashtag.inBody)

end Note

theorem stringItems_iff {items : List Value} {strings : List String} :
    StringItems items strings ↔ items.filterMap Value.string? = strings := by
  have hother : ∀ {item : Value}, (∀ s, item ≠ .string s) → item.string? = none := by
    intro item hitem
    cases item with
    | string s => exact absurd rfl (hitem s)
    | _ => rfl
  constructor
  · intro hitems
    induction hitems with
    | nil => rfl
    | string s _ ih =>
      rw [List.filterMap_cons, ih]
      rfl
    | other hitem _ ih => rw [List.filterMap_cons_none (hother hitem), ih]
  · rintro rfl
    induction items with
    | nil => exact .nil
    | cons item items ih =>
      by_cases hitem : ∃ s, item = .string s
      · obtain ⟨s, rfl⟩ := hitem
        exact .string s ih
      · rw [not_exists] at hitem
        rw [List.filterMap_cons_none (hother hitem)]
        exact .other hitem ih

theorem foundIn_get?_iff {frontMatter : Value} {key : String} {strings : List String} :
    FoundIn (frontMatter.get? key) strings ↔ stringsUnder frontMatter key = strings := by
  unfold stringsUnder
  generalize frontMatter.get? key = entry
  split
  · next s =>
    constructor
    · intro hfound
      cases hfound with
      | string => rfl
      | other hstring _ => exact absurd rfl (hstring s)
    · rintro rfl
      exact .string s
  · next items =>
    rw [← stringItems_iff]
    constructor
    · intro hfound
      cases hfound with
      | array hitems => exact hitems
      | other _ harray => exact absurd rfl (harray items)
    · exact .array
  · next hstring harray =>
    constructor
    · intro hfound
      cases hfound with
      | string s => exact absurd rfl (hstring s)
      | array _ => exact absurd rfl (harray _)
      | other _ _ => rfl
    · rintro rfl
      exact .other hstring harray

namespace Note

variable {note : Note} {aliases tags : List String}

/-- A note without front matter has the entries of one that holds nothing, which are none. -/
theorem entry?_eq_get? (note : Note) (key : String) :
    note.entry? key = (note.frontMatter.getD .null).get? key := by
  unfold entry?
  cases note.frontMatter <;> rfl

theorem sources_iff :
    note.Sources aliases tags ↔
      namedAliases (note.frontMatter.getD .null) = aliases ∧
        namedTags (note.frontMatter.getD .null) ++ note.looseTags = tags := by
  constructor
  · rintro ⟨haliases, hmoreAliases, htags, hmoreTags⟩
    rw [entry?_eq_get?, foundIn_get?_iff] at haliases hmoreAliases htags hmoreTags
    rw [namedAliases, namedTags, looseTags, haliases, hmoreAliases, htags, hmoreTags]
    exact ⟨rfl, (List.append_assoc _ _ _).symm⟩
  · rintro ⟨rfl, rfl⟩
    have hfound : ∀ key, FoundIn (note.entry? key)
        (stringsUnder (note.frontMatter.getD .null) key) := by
      intro key
      rw [entry?_eq_get?, foundIn_get?_iff]
    rw [namedTags, looseTags, ← List.append_assoc]
    exact ⟨hfound _, hfound _, hfound _, hfound _⟩

theorem toDocument_eq (note : Note) :
    note.toDocument = .ofRaw note.path (namedAliases (note.frontMatter.getD .null))
      (namedTags (note.frontMatter.getD .null) ++ note.looseTags) := by
  rw [toDocument, Document.ofFrontMatter, Document.ofRaw, List.filterMap_append]
  cases note.frontMatter <;> rfl

/-- **One document from all sources.** A note gives exactly one list of aliases and one of tags, its
document is the raw document of these, and every other note with the same path that gives the same
lists has the same document, whatever else it holds. -/
theorem toDocument_eq_ofRaw (note : Note) :
    (∃! strings : List String × List String, note.Sources strings.1 strings.2) ∧
      ∀ aliases tags, note.Sources aliases tags →
        note.toDocument = .ofRaw note.path aliases tags ∧
          ∀ other : Note, other.path = note.path → other.Sources aliases tags →
            other.toDocument = note.toDocument := by
  refine ⟨⟨(_, _), sources_iff.2 ⟨rfl, rfl⟩, ?_⟩, ?_⟩
  · rintro ⟨aliases, tags⟩ hsources
    obtain ⟨rfl, rfl⟩ := sources_iff.1 hsources
    rfl
  · intro aliases tags hsources
    obtain ⟨haliases, htags⟩ := sources_iff.1 hsources
    have hnote : note.toDocument = .ofRaw note.path aliases tags := by
      rw [toDocument_eq, haliases, htags]
    refine ⟨hnote, fun other hpath hother => ?_⟩
    obtain ⟨hotherAliases, hotherTags⟩ := sources_iff.1 hother
    rw [hnote, toDocument_eq, hotherAliases, hotherTags, hpath]

/-- A note whose labels come from every source, among values that are none. -/
def harborNote : Note where
  path := "Harbor.md"
  frontMatter := some (.object
    [("tags", .array [.integer 3, .string "#Sea", .array [.string "deep"]]),
      ("alias", .string " Port"), ("title", .null)])
  tags := ["Ship"]
  body := some "at #dock"

/-- The same strings under other keys and in other shapes. -/
def harborCopy : Note :=
  { harborNote with frontMatter := some (.object
      [("tag", .string "#Sea"), ("aliases", .array [.string " Port", .bool true])]) }

theorem toDocument_eq_ofRaw_harborNote :
    harborNote.Sources [" Port"] ["#Sea", "Ship", "dock"] ∧
      harborNote.toDocument = .ofRaw "Harbor.md" [" Port"] ["#Sea", "Ship", "dock"] ∧
      harborCopy.path = harborNote.path ∧
      harborCopy.Sources [" Port"] ["#Sea", "Ship", "dock"] ∧
      harborCopy.toDocument = harborNote.toDocument := by
  have hsources : harborNote.Sources [" Port"] ["#Sea", "Ship", "dock"] :=
    sources_iff.2 ⟨rfl, by decide +kernel⟩
  have hcopy : harborCopy.Sources [" Port"] ["#Sea", "Ship", "dock"] :=
    sources_iff.2 ⟨rfl, by decide +kernel⟩
  obtain ⟨hnote, hothers⟩ := (toDocument_eq_ofRaw harborNote).2 _ _ hsources
  exact ⟨hsources, hnote, rfl, hcopy, hothers harborCopy rfl hcopy⟩

end Note

end NoteCards

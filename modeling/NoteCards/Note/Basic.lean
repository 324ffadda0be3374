import NoteCards.Data.Value
import NoteCards.Note.Document
import NoteCards.Note.Hashtag

/-!
# Notes

A note has a path and may have front matter, a list of tags that were found in it, and a body. Its
aliases and tags are named in the front matter under two keys each, as a string or as an array;
whatever is no string there is passed over.
-/

namespace NoteCards

open NoteCards.Data NoteCards.Text

def stringsUnder (frontMatter : Value) (key : String) : List String :=
  match frontMatter.get? key with
  | some (.string s) => [s]
  | some (.array items) => items.filterMap Value.string?
  | _ => []

def namedAliases (frontMatter : Value) : List String :=
  stringsUnder frontMatter "aliases" ++ stringsUnder frontMatter "alias"

def namedTags (frontMatter : Value) : List String :=
  stringsUnder frontMatter "tags" ++ stringsUnder frontMatter "tag"

/-- The document of a path, of front matter if there is any, and of tags found elsewhere. -/
def Document.ofFrontMatter (path : String) (frontMatter : Option Value) (tags : List String) :
    Document where
  path := lowercase path
  aliases := .ofList ((frontMatter.elim [] namedAliases).filterMap aliasLabel?)
  tags := .ofList ((frontMatter.elim [] namedTags).filterMap tagLabel? ++
    tags.filterMap tagLabel?)

/-- A note as it is handed over for searching. -/
structure Note where
  path : String
  frontMatter : Option Value := none
  tags : List String := []
  body : Option String := none

namespace Note

/-- The tags of a note outside its front matter: the listed ones and those in its body. -/
def looseTags (note : Note) : List String :=
  note.tags ++ note.body.elim [] Hashtag.inBody

def toDocument (note : Note) : Document :=
  .ofFrontMatter note.path note.frontMatter note.looseTags

def search (query : Query) (notes : List Note) : List String :=
  (notes.filter fun note => query.accepts note.toDocument).map Note.path

end Note

end NoteCards

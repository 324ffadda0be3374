import NoteCards.Note.LabelSet
import NoteCards.Query.Basic
import NoteCards.Text.Occurs

/-!
# Documents

A document is what a query can ask of a note: its path, its aliases and its tags, all in lower case.
A query accepts a document when each of its terms finds its text there, or, negated, does not.
-/

namespace NoteCards

open NoteCards.Text

/-- The label of a tag as written: without blanks at its ends, one leading `#` and upper case. -/
def tagLabel? (raw : String) : Option String :=
  let bare := dropHash (trim raw.toList)
  if bare.isEmpty then none else some (String.ofList (lower bare))

/-- The label of an alias as written: without blanks at its ends and upper case. -/
def aliasLabel? (raw : String) : Option String :=
  let bare := trim raw.toList
  if bare.isEmpty then none else some (String.ofList (lower bare))

/-- The searchable attributes of a note. -/
structure Document where
  path : String
  aliases : LabelSet
  tags : LabelSet
  deriving DecidableEq, Repr

namespace Document

/-- The document of a path, of aliases and of tags as written. Blank ones are left out. -/
def ofRaw (path : String) (aliases tags : List String) : Document where
  path := lowercase path
  aliases := .ofList (aliases.filterMap aliasLabel?)
  tags := .ofList (tags.filterMap tagLabel?)

end Document

namespace Term

def foundIn (term : Term) (document : Document) : Bool :=
  let holds (text : String) := occursIn term.value.toList text.toList
  match term.scope with
  | .tag => document.tags.any holds
  | .path => holds document.path
  | .text => holds document.path || document.aliases.any holds

def accepts (term : Term) (document : Document) : Bool :=
  term.foundIn document != term.negated

end Term

namespace Query

def accepts (query : Query) (document : Document) : Bool :=
  query.terms.all (·.accepts document)

def filter (query : Query) (documents : List Document) : List Document :=
  documents.filter query.accepts

end Query

end NoteCards

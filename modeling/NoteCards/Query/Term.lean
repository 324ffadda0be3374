/-!
# Terms

A term asks for a piece of text in one scope of a note: among its tags, in its path, or, for plain
text, in its path and its aliases. A negated term asks for the absence of that text.
-/

namespace NoteCards

/-- Where a term looks. -/
inductive Scope where
  | text
  | tag
  | path
  deriving DecidableEq, Repr

namespace Scope

/-- Every scope, in the order in which they are listed to a reader. -/
def all : List Scope := [.text, .tag, .path]

def name : Scope → String
  | .text => "text"
  | .tag => "tag"
  | .path => "path"

/-- The mark that selects a scope in a query; plain text has none. -/
def mark : Scope → List Char
  | .text => []
  | .tag => ['t', 'a', 'g', ':']
  | .path => ['p', 'a', 't', 'h', ':']

def ofName? (s : String) : Option Scope :=
  all.find? (·.name = s)

end Scope

/-- One demand of a query. -/
structure Term where
  scope : Scope
  value : String
  negated : Bool
  deriving DecidableEq, Repr

end NoteCards

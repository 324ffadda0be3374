import NoteCards.Query.Token
import NoteCards.Text.Lowercase

/-!
# Queries

A query is the list of the terms of its line, in order and with repetitions. A token whose body is
empty leaves no term; the others give the lower case of their body, a quoted body without the
blanks at its ends and a tag without one leading `#`.

The canonical line of a query quotes a value exactly where it would otherwise be read differently:
where it holds a blank or starts with a quote, and in plain text also where it starts with a minus
sign or holds a colon.
-/

namespace NoteCards

open NoteCards.Text

def Body.content : Body → List Char
  | .quoted inside => trim inside
  | .bare word => word

/-- A text without one leading `#`. -/
def dropHash : List Char → List Char
  | '#' :: rest => rest
  | s => s

namespace Term

/-- The term of a scope for a text, if any of the text is left to ask for. -/
def ofContent? (scope : Scope) (content : List Char) (negated : Bool) : Option Term :=
  let wanted := if scope = .tag then dropHash content else content
  if wanted.isEmpty then none else some ⟨scope, String.ofList (lower wanted), negated⟩

/-- The term that a token stands for, unless its body is empty. -/
def ofToken? (token : Token) : Option Term :=
  ofContent? token.scope token.body.content token.negated

def needsQuotes (scope : Scope) (value : List Char) : Bool :=
  value.any isBlank || value.head? = some '"' ||
    scope = .text && (value.head? = some '-' || value.contains ':')

def showValue (scope : Scope) (value : List Char) : List Char :=
  if needsQuotes scope value then '"' :: value ++ ['"'] else value

def toChars (term : Term) : List Char :=
  (if term.negated then ['-'] else []) ++ term.scope.mark ++
    showValue term.scope term.value.toList

instance : ToString Term where
  toString term := String.ofList term.toChars

end Term

/-- A list of terms, all of which are to hold. -/
structure Query where
  terms : List Term
  deriving DecidableEq, Repr

namespace Query

def termsOf (s : List Char) : List Term :=
  (TokenLine.ofChars s).tokens.filterMap Term.ofToken?

def parse (line : String) : Query :=
  ⟨termsOf line.toList⟩

def isEmpty (query : Query) : Bool :=
  query.terms.isEmpty

/-- The canonical line of a list of terms: their canonical forms with a space between. -/
def lineOf : List Term → List Char
  | [] => []
  | [term] => term.toChars
  | term :: next :: rest => term.toChars ++ ' ' :: lineOf (next :: rest)

instance : ToString Query where
  toString query := String.ofList (lineOf query.terms)

end Query

end NoteCards

import NoteCards.Query.Basic
import NoteCards.Text.Cut

/-!
# Cutting tokens off a line

A line as it is stored is cut at byte offsets: behind a minus sign, behind the first colon if a mark
stands before it, behind a quote and the next quote after it, and at the first blank. A line is cut
in rounds, one for each token, until nothing but blanks is left of it.
-/

namespace NoteCards

open NoteCards.Text

/-- The scope that a mark is for, by what stands before its colon. -/
def Scope.ofMark? (name : String) : Option Scope :=
  [tag, path].find? fun scope => name.toLower = scope.name

namespace Token

def cutSign (s : String) : Except BadCut (Bool × String) :=
  if s.toList.head? = some '-' then do return (true, ← dropBytes s 1)
  else return (false, s)

def cutMark (s : String) : Except BadCut (Scope × String) :=
  match offsetOf? (· = ':') s.toList with
  | none => return (.text, s)
  | some colon => do
    let name ← takeBytes s colon
    let rest ← dropBytes s (colon + 1)
    match Scope.ofMark? name with
    | none => return (.text, s)
    | some scope => return (scope, rest)

/-- The body behind an opening quote and what follows it; an open quote leaves nothing. -/
def cutQuoted (quoted : String) : Except BadCut (Option Body × String) :=
  match offsetOf? (· = '"') quoted.toList with
  | none => return (none, "")
  | some quote => do
    let inside ← takeBytes quoted quote
    let rest ← dropBytes quoted (quote + 1)
    return (some (.quoted inside.toList), rest)

def cutWord (s : String) : Except BadCut (Option Body × String) := do
  let word ← takeBytes s ((offsetOf? isBlank s.toList).getD s.utf8ByteSize)
  let rest ← dropBytes s ((offsetOf? isBlank s.toList).getD s.utf8ByteSize)
  return (some (.bare word.toList), rest)

def cutBody (s : String) : Except BadCut (Option Body × String) :=
  if s.toList.head? = some '"' then do cutQuoted (← dropBytes s 1)
  else cutWord s

/-- The token at the start of the line and what follows it; an open quote leaves nothing. -/
def cut (s : String) : Except BadCut (Option Token × String) := do
  let (negated, signed) ← cutSign s
  let (scope, marked) ← cutMark signed
  let (body, rest) ← cutBody marked
  return (body.map (⟨negated, scope, ·⟩), rest)

end Token

/-- What can end the cutting of a line before its end. -/
inductive CutFailure where
  | badCut (cut : BadCut)
  | tooManyRounds
  deriving DecidableEq, Repr

/-- The terms of the tokens of a line, cut off it one in each round. Finding the end of the line
takes no round. -/
def Query.cutTerms (rounds : Nat) (line : String) : Except CutFailure (List Term) :=
  let text := trimStart line.toList
  if text.isEmpty then return []
  else
    match rounds with
    | 0 => .error .tooManyRounds
    | rounds + 1 => do
      let (token, rest) ← (Token.cut (.ofList text)).mapError .badCut
      return (token.bind Term.ofToken?).toList ++ (← cutTerms rounds rest)

end NoteCards

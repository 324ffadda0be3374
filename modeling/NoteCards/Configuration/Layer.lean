import NoteCards.Data.Value
import NoteCards.Text.Blank
import NoteCards.Text.Digits

/-!
# Layers of configuration

A configuration is put together from layers, each a list of entries, later ones over earlier ones.
Tables are merged entry by entry; any other value replaces what stands in its place. The key of a
top entry may be a path through tables and arrays, such as `forces.link_force` or `views[0].width`;
keys further inside are taken as they are.
-/

namespace NoteCards.Configuration

open NoteCards.Data NoteCards.Text

inductive Step where
  | key (name : String)
  | index (position : Int)
  deriving DecidableEq, Repr

/-! ### Paths -/

def isNameChar (c : Char) : Bool :=
  c.isAlphanum || c = '_' || c = '-'

/-- The position at the start of a text, after its bracket, and the text after the closing one. -/
def scanIndex (s : List Char) : Option (Int × List Char) :=
  let (negative, unsigned) := match skipSpacing s with
    | '-' :: rest => (true, rest)
    | rest => (false, rest)
  let digits := unsigned.takeWhile Char.isDigit
  let size := ofDigits 10 digits
  if digits.isEmpty || 1 <<< 63 ≤ size then none
  else
    match skipSpacing (unsigned.dropWhile Char.isDigit) with
    | ']' :: rest => some (if negative then -size else size, rest)
    | _ => none

/-- The steps of a text that goes on after a name, of which there are at most `fuel`. -/
def scanSteps : (fuel : Nat) → List Char → Option (List Step)
  | _, [] => some []
  | 0, _ => none
  | fuel + 1, '.' :: rest =>
    let name := rest.takeWhile isNameChar
    if name.isEmpty then none
    else (scanSteps fuel (rest.dropWhile isNameChar)).map (.key (String.ofList name) :: ·)
  | fuel + 1, '[' :: rest =>
    (scanIndex rest).bind fun (position, after) =>
      (scanSteps fuel after).map (.index position :: ·)
  | _, _ => none

/-- The steps that a key stands for: itself where it is no path. -/
def stepsOf (key : String) : List Step :=
  match scanSteps (key.length + 1) ('.' :: key.toList) with
  | some steps => steps
  | none => [.key key]

/-! ### Merging -/

/-- The entries of a table; none of a value that is no table. -/
def entriesOf : Value → List (String × Value)
  | .object entries => entries
  | _ => []

/-- The items of an array; none of a value that is no array. -/
def itemsOf : Value → List Value
  | .array items => items
  | _ => []

/-- The entries with the value under a key changed; a key that is not there stands for nothing. -/
def modifyEntry (key : String) (change : Value → Value) :
    List (String × Value) → List (String × Value)
  | [] => [(key, change .null)]
  | (name, value) :: rest =>
    if name = key then (name, change value) :: rest
    else (name, value) :: modifyEntry key change rest

/-- The items with the one at a position changed. Positions below zero count from the end; items
are added at either end as the position needs. -/
def modifyItem (position : Int) (change : Value → Value) (items : List Value) : List Value :=
  let filled :=
    if 0 ≤ position then items ++ List.replicate (position.toNat + 1 - items.length) .null
    else List.replicate (position.natAbs - items.length) .null ++ items
  let place := if 0 ≤ position then position.toNat else filled.length - position.natAbs
  filled.modify place change

/-- A value with the part that a path leads to changed. What stands in the way of the path becomes
a table or an array. -/
def modifyAt (change : Value → Value) : List Step → Value → Value
  | [], value => change value
  | .key name :: steps, value =>
    .object (modifyEntry name (modifyAt change steps) (entriesOf value))
  | .index position :: steps, value =>
    .array (modifyItem position (modifyAt change steps) (itemsOf value))

mutual

/-- A value with another one laid over it. -/
def merge (incoming : Value) (value : Value) : Value :=
  match incoming with
  | .object entries => .object (mergeEntries entries (entriesOf value))
  | other => other

def mergeEntries : (incoming entries : List (String × Value)) → List (String × Value)
  | [], entries => entries
  | (key, incoming) :: rest, entries =>
    mergeEntries rest (modifyEntry key (merge incoming) entries)

end

def overlay (layer : List (String × Value)) (configuration : Value) : Value :=
  layer.foldl (fun value (key, incoming) => modifyAt (merge incoming) (stepsOf key) value)
    configuration

end NoteCards.Configuration

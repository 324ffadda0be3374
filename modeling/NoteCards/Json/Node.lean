import NoteCards.Json.NumberText
import NoteCards.Json.StringText

/-!
# JSON texts as trees

A text is read into a tree once, before anyone asks what it should hold. Where the text breaks the
grammar the fault stands in the tree, at the place where a reader going through the tree in order
of the text meets it, and the text after it is not looked at. So one tree serves every reader: each
reports the first problem in the order of the text, be it a fault or a value of the wrong sort.

A fault is kept in two forms, for a reader that wants what stands there and for one that passes
over it, since the latter is content with less.
-/

namespace NoteCards.Json

open NoteCards.Text

mutual

/-- A value as far as it can be read. -/
inductive Node where
  | null
  | bool (value : Bool)
  | number (text : NumberText)
  | string (text : StringText)
  | array (items : Items)
  | object (members : Members)
  | broken (read skip : Fault)

/-- The items of an array up to its end or to a fault between them. -/
inductive Items where
  | closed
  | cut (read skip : Fault)
  | item (first : Node) (rest : Items)

/-- The members of an object up to its end or to a fault between them. Where something other than
a string stands in the place of a key, it is kept. -/
inductive Members where
  | closed
  | cut (read skip : Fault)
  | noKey (found : Node)
  | member (key : StringText) (value : Node) (rest : Members)

end

instance : Inhabited Node := ⟨.null⟩

def isSpace (symbol : Option Char) : Bool :=
  symbol = some ' ' || symbol = some '\n' || symbol = some '\t' || symbol = some '\r'

def skipSpace (s : Source) : Source :=
  s.dropWhile isSpace

/-- What is left of a text after a value; none where the value breaks off. -/
abbrev Remainder := Option Source

def scanWord (node : Node) : (letters : List Char) → Source → Node × Remainder
  | [], rest => (node, some rest)
  | _ :: _, [] => (.broken .endOfWord .endOfWord, none)
  | letter :: letters, symbol :: rest =>
    if symbol = some letter then scanWord node letters rest
    else (.broken .expectedWord .expectedWord, none)

def NumberScan.toNode : NumberScan → Node × Remainder
  | .number text rest => (.number text, some rest)
  | .broken read skip => (.broken read skip, none)

def StringScan.toNode : StringScan → Node × Remainder
  | .string text rest => (.string text, some rest)
  | .broken read skip => (.broken read skip, none)

mutual

def scanNode : (fuel : Nat) → Source → Node × Remainder
  | 0, _ => (.broken .endOfValue .endOfValue, none)
  | fuel + 1, s =>
    match skipSpace s with
    | [] => (.broken .endOfValue .endOfValue, none)
    | some '"' :: rest => (scanString fuel rest).toNode
    | some '[' :: rest =>
      match skipSpace rest with
      | [] => (.array (.cut .endOfList .endOfList), none)
      | some ']' :: after => (.array .closed, some after)
      | start =>
        let (items, after) := scanItems fuel start
        (.array items, after)
    | some '{' :: rest =>
      match skipSpace rest with
      | [] => (.object (.cut .endOfObject .endOfObject), none)
      | some '}' :: after => (.object .closed, some after)
      | start =>
        let (members, after) := scanMembers fuel start
        (.object members, after)
    | some 'n' :: rest => scanWord .null ['u', 'l', 'l'] rest
    | some 't' :: rest => scanWord (.bool true) ['r', 'u', 'e'] rest
    | some 'f' :: rest => scanWord (.bool false) ['a', 'l', 's', 'e'] rest
    | some '-' :: rest => (scanNumber true rest).toNode
    | some c :: rest =>
      if c.isDigit then (scanNumber false (some c :: rest)).toNode
      else (.broken .expectedValue .expectedValue, none)
    | none :: _ => (.broken .expectedValue .expectedValue, none)

/-- The items of an array from one of them on, and what follows the array. -/
def scanItems : (fuel : Nat) → Source → Items × Remainder
  | 0, _ => (.cut .endOfList .endOfList, none)
  | fuel + 1, s =>
    match scanNode fuel s with
    | (first, none) => (.item first .closed, none)
    | (first, some rest) =>
      match skipSpace rest with
      | [] => (.item first (.cut .endOfList .endOfList), none)
      | some ']' :: after => (.item first .closed, some after)
      | some ',' :: after =>
        match skipSpace after with
        | some ']' :: _ => (.item first (.cut .trailingComma .expectedValue), none)
        | start =>
          let (more, last) := scanItems fuel start
          (.item first more, last)
      | _ => (.item first (.cut .expectedListSeparator .expectedListSeparator), none)

/-- The members of an object from one of them on, and what follows the object. -/
def scanMembers : (fuel : Nat) → Source → Members × Remainder
  | 0, _ => (.cut .endOfObject .endOfObject, none)
  | fuel + 1, some '"' :: s =>
    match scanString fuel s with
    | .broken read skip => (.cut read skip, none)
    | .string key afterKey =>
      match skipSpace afterKey with
      | [] => (.member key (.broken .endOfObject .endOfObject) .closed, none)
      | some ':' :: rest =>
        match scanNode fuel rest with
        | (value, none) => (.member key value .closed, none)
        | (value, some afterValue) =>
          match skipSpace afterValue with
          | [] => (.member key value (.cut .endOfObject .endOfObject), none)
          | some '}' :: after => (.member key value .closed, some after)
          | some ',' :: after =>
            match skipSpace after with
            | [] => (.member key value (.cut .endOfValue .endOfObject), none)
            | some '}' :: _ => (.member key value (.cut .trailingComma .keyNotString), none)
            | start =>
              let (more, last) := scanMembers fuel start
              (.member key value more, last)
          | _ =>
            (.member key value (.cut .expectedObjectSeparator .expectedObjectSeparator), none)
      | _ => (.member key (.broken .expectedColon .expectedColon) .closed, none)
  | fuel + 1, s => (.noKey (scanNode fuel s).1, none)

end

/-- The value of a text, and what follows it. No step looks at a place of the text more than
twice, so the fuel is enough for every text. -/
def Node.ofSource (s : Source) : Node × Remainder :=
  scanNode (2 * s.length + 2) s

end NoteCards.Json

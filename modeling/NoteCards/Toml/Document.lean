import NoteCards.Toml.Scalar
import NoteCards.Toml.Table
import NoteCards.Toml.Text

/-!
# TOML documents

A document is a sequence of lines, each with a header, an assignment or neither. Arrays and tables
in braces may stretch over lines and end in a comma, and may be nested eighty deep.
-/

namespace NoteCards.Toml

open NoteCards.Data NoteCards.Text

/-- How deep arrays and tables in braces may be nested. -/
def nestingLimit : Nat := 80

mutual

/-- The value at the start of a text, with room for so many further levels. -/
def scanValue : (fuel room : Nat) → List Char → Option (Value × List Char)
  | 0, _, _ => none
  | fuel + 1, room, s =>
    match s with
    | '[' :: rest =>
      if room = 0 then none
      else (scanItems fuel (room - 1) rest).map fun (items, after) => (.array items, after)
    | '{' :: rest =>
      if room = 0 then none
      else
        (scanEntries fuel (room - 1) [] rest).map fun (entries, after) =>
          (.object (entriesToValue entries), after)
    | c :: _ =>
      if c = '"' || c = '\'' then
        (scanString s).map fun (chars, after) => (.string (String.ofList chars), after)
      else
        let (word, after) := splitWord s
        (word? word).map fun value => (value, after)
    | [] => none

def scanItems : (fuel room : Nat) → List Char → Option (List Value × List Char)
  | 0, _, _ => none
  | fuel + 1, room, s =>
    match skipLayout false s with
    | none => none
    | some (']' :: after) => some ([], after)
    | some start => do
      let (item, rest) ← scanValue fuel room start
      match ← skipLayout false rest with
      | ']' :: after => some ([item], after)
      | ',' :: more => (scanItems fuel room more).map fun (items, after) => (item :: items, after)
      | _ => none

/-- The entries of a table in braces, after its brace or a comma. -/
def scanEntries : (fuel room : Nat) → Entries → List Char → Option (Entries × List Char)
  | 0, _, _, _ => none
  | fuel + 1, room, entries, s =>
    match skipLayout false s with
    | none => none
    | some ('}' :: after) => some (entries, after)
    | some start => do
      let (key, afterKey) ← scanKey start
      let '=' :: afterMark := skipSpacing afterKey | none
      let (value, rest) ← scanValue fuel room (skipSpacing afterMark)
      let next ← entries.assign [] key value
      match ← skipLayout false rest with
      | '}' :: after => some (next, after)
      | ',' :: more => scanEntries fuel room next more
      | _ => none

end

inductive Statement where
  | table (path : List String)
  | element (path : List String)
  | assign (path : List String) (value : Value)

def scanStatement (s : List Char) : Option (Statement × List Char) :=
  match s with
  | '[' :: '[' :: rest => do
    let (path, after) ← scanKey rest
    let ']' :: ']' :: last := after | none
    some (.element path, last)
  | '[' :: rest => do
    let (path, after) ← scanKey rest
    let ']' :: last := after | none
    some (.table path, last)
  | _ => do
    let (path, afterKey) ← scanKey s
    let '=' :: afterMark := skipSpacing afterKey | none
    let (value, rest) ← scanValue (2 * s.length + 2) nestingLimit (skipSpacing afterMark)
    some (.assign path value, rest)

/-- The statements of a text in order, of which there are at most `fuel`. -/
def scanStatements : (fuel : Nat) → List Char → Option (List Statement)
  | 0, _ => none
  | fuel + 1, s => do
    match ← skipLayout false s with
    | [] => some []
    | start =>
      let (statement, rest) ← scanStatement start
      let after ← skipComment false rest
      (scanStatements fuel after).map (statement :: ·)

/-- The tables of a document under construction, and the path to the open one. -/
structure Building where
  entries : Entries
  current : List String

def Building.add (building : Building) : Statement → Option Building
  | .table path => (building.entries.openTable path).map fun entries => ⟨entries, path⟩
  | .element path => (building.entries.openElement path).map fun entries => ⟨entries, path⟩
  | .assign path value =>
    (building.entries.assign building.current path value).map fun entries =>
      ⟨entries, building.current⟩

def read? (s : List Char) : Option (List (String × Value)) := do
  let text := match s with
    | '\ufeff' :: rest => rest
    | _ => s
  let statements ← scanStatements (text.length + 1) text
  let building ← statements.foldlM Building.add ⟨[], []⟩
  some (entriesToValue building.entries)

end NoteCards.Toml

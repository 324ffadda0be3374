import NoteCards.Binary64.Layout
import NoteCards.Data.Value

/-!
# Writing JSON

A value is written on one line without spaces, or with one entry to a line and two spaces for each
level. Strings escape the quote, the backslash and the controls below U+0020. Numbers that are not
finite have no JSON form and are written as `null`.
-/

namespace NoteCards.Json

open NoteCards.Data

/-- Numbers are positional from 10⁻⁵ up to 10¹⁶, whole ones with `.0`, and scientific beyond. -/
def numberLayout : Binary64.Layout := ⟨some (-5, 16), true, .even⟩

def writeNumber (x : Binary64) : List Char :=
  if x.isFinite then numberLayout.write x else ['n', 'u', 'l', 'l']

def hexByte (n : Nat) : List Char :=
  [Nat.digitChar (n / 16), Nat.digitChar (n % 16)]

/-- A character of a string, escaped where it has to be. -/
def writeChar (c : Char) : List Char :=
  if c = '"' then ['\\', '"']
  else if c = '\\' then ['\\', '\\']
  else if c = '\x08' then ['\\', 'b']
  else if c = '\t' then ['\\', 't']
  else if c = '\n' then ['\\', 'n']
  else if c = '\x0c' then ['\\', 'f']
  else if c = '\r' then ['\\', 'r']
  else if c.toNat < 0x20 then ['\\', 'u', '0', '0'] ++ hexByte c.toNat
  else [c]

def writeString (s : String) : List Char :=
  '"' :: s.toList.flatMap writeChar ++ ['"']

/-- The line break before an entry of a level, in a text that has line breaks. -/
def lineBreak : Option Nat → List Char
  | none => []
  | some level => '\n' :: List.replicate (2 * level) ' '

def keyMark (level : Option Nat) : List Char :=
  if level.isSome then [':', ' '] else [':']

mutual

/-- The text of a value at a level of a text with line breaks, or on one line. -/
def write (level : Option Nat) : Value → List Char
  | .null => ['n', 'u', 'l', 'l']
  | .bool true => ['t', 'r', 'u', 'e']
  | .bool false => ['f', 'a', 'l', 's', 'e']
  | .integer n => (toString n).toList
  | .number x => writeNumber x
  | .string s => writeString s
  | .array [] => ['[', ']']
  | .array (first :: rest) =>
    let inner := level.map (· + 1)
    '[' :: (lineBreak inner ++ write inner first ++ writeItems inner rest ++ lineBreak level ++
      [']'])
  | .object [] => ['{', '}']
  | .object ((key, value) :: rest) =>
    let inner := level.map (· + 1)
    '{' :: (lineBreak inner ++ writeString key ++ keyMark inner ++ write inner value ++
      writeEntries inner rest ++ lineBreak level ++ ['}'])

def writeItems (level : Option Nat) : List Value → List Char
  | [] => []
  | item :: rest => ',' :: (lineBreak level ++ write level item ++ writeItems level rest)

def writeEntries (level : Option Nat) : List (String × Value) → List Char
  | [] => []
  | (key, value) :: rest =>
    ',' :: (lineBreak level ++ writeString key ++ keyMark level ++ write level value ++
      writeEntries level rest)

end

def compact (value : Value) : String :=
  String.ofList (write none value)

def pretty (value : Value) : String :=
  String.ofList (write (some 0) value)

end NoteCards.Json

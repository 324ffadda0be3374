import NoteCards.Text.Printable

/-!
# Quoted text

A text shown inside double quotes: the quote and the backslash take a backslash, four controls have
a letter of their own, and whatever is not printable is shown by its code in braces.
-/

namespace NoteCards.Text

/-- The digits of a number in base sixteen, lower case, without leading zeros. -/
def hexDigits (n : Nat) : List Char :=
  Nat.toDigits 16 n

def quotedChar (c : Char) : List Char :=
  match c with
  | '"' => ['\\', '"']
  | '\\' => ['\\', '\\']
  | '\n' => ['\\', 'n']
  | '\r' => ['\\', 'r']
  | '\t' => ['\\', 't']
  | '\x00' => ['\\', '0']
  | _ => if isPrintable c then [c] else ['\\', 'u', '{'] ++ hexDigits c.toNat ++ ['}']

def quoted (s : List Char) : List Char :=
  '"' :: s.flatMap quotedChar ++ ['"']

def quote (s : String) : String :=
  String.ofList (quoted s.toList)

example : quote "a\"b\u0301\x7f é" = "\"a\\\"b\\u\x7b301\x7d\\u\x7b7f\x7d é\"" := by decide +kernel

end NoteCards.Text

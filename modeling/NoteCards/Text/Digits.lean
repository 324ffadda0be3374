/-!
# Digits

The ASCII digits of the bases up to sixteen, letters in either case, and the numbers they make up.
-/

namespace NoteCards.Text

def hexValue? (c : Char) : Option Nat :=
  if c.isDigit then some (c.toNat - '0'.toNat)
  else if 'a' ≤ c ∧ c ≤ 'f' then some (c.toNat - 'a'.toNat + 10)
  else if 'A' ≤ c ∧ c ≤ 'F' then some (c.toNat - 'A'.toNat + 10)
  else none

def isDigitOf (base : Nat) (c : Char) : Bool :=
  (hexValue? c).any (· < base)

/-- The value of a digit, and 0 for any other character. -/
def digitValue (c : Char) : Nat :=
  (hexValue? c).getD 0

/-- The number that digits make up in a base, the highest digit first. -/
def ofDigits (base : Nat) (digits : List Char) : Nat :=
  digits.foldl (fun value c => base * value + digitValue c) 0

/-- Whether a minus sign stands at the start of a numeral, and the numeral without its sign. -/
def splitSign : List Char → Bool × List Char
  | '-' :: rest => (true, rest)
  | '+' :: rest => (false, rest)
  | s => (false, s)

example : ofDigits 16 "1aF".toList = 431 ∧ ofDigits 10 "0042".toList = 42 := by decide

end NoteCards.Text

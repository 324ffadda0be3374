import NoteCards.Binary64.Rounding
import NoteCards.Text.Digits

/-!
# Reading a number

A written number is an optional sign and either digits with at most one point among them and an
optional exponent, or one of the words `inf`, `infinity` and `nan` in any letter case. It stands
for the number nearest to it.
-/

namespace NoteCards.Binary64

open NoteCards.Text

/-- The value of an exponent: an optional sign and digits. -/
def exponent? (s : List Char) : Option Int :=
  let (negative, digits) := splitSign s
  if digits.isEmpty || !digits.all Char.isDigit then none
  else some (if negative then -(ofDigits 10 digits) else ofDigits 10 digits)

def ofPlainText? (negative : Bool) (s : List Char) : Option Binary64 :=
  let whole := s.takeWhile Char.isDigit
  let afterWhole := s.dropWhile Char.isDigit
  let (fraction, afterFraction) := match afterWhole with
    | '.' :: rest => (rest.takeWhile Char.isDigit, rest.dropWhile Char.isDigit)
    | rest => ([], rest)
  if whole.isEmpty && fraction.isEmpty then none
  else
    let value (exponent : Int) :=
      ofDecimal negative (ofDigits 10 (whole ++ fraction)) (exponent - fraction.length)
    match afterFraction with
    | [] => some (value 0)
    | c :: rest => if c = 'e' || c = 'E' then (exponent? rest).map value else none

def ofChars? (s : List Char) : Option Binary64 :=
  let (negative, rest) := splitSign s
  let word := rest.map Char.toLower
  if word = ['n', 'a', 'n'] then some .nan
  else if word = ['i', 'n', 'f'] || word = ['i', 'n', 'f', 'i', 'n', 'i', 't', 'y'] then
    some (.infinite negative)
  else ofPlainText? negative rest

end NoteCards.Binary64

import NoteCards.Binary64.Rounding
import NoteCards.Data.Value
import NoteCards.Text.Digits

/-!
# Words of TOML

A value that starts with neither a quote nor a bracket is a word: a truth value, a whole number, a
number with a fraction or an exponent, or a date. Whole numbers have 64 bits and a sign; a finite
number too great for the format is refused. Dates are kept as they are written.
-/

namespace NoteCards.Toml

open NoteCards.Data NoteCards.Text

/-- The digits of a numeral less the underscores, each of which stands between two digits. -/
def plainDigits? (isDigit : Char → Bool) : List Char → Option (List Char)
  | [] => none
  | [c] => if isDigit c then some [c] else none
  | c :: '_' :: rest => if isDigit c then (plainDigits? isDigit rest).map (c :: ·) else none
  | c :: rest => if isDigit c then (plainDigits? isDigit rest).map (c :: ·) else none

/-- The digits of a decimal numeral, which starts with a zero only where it is zero. -/
def decimal? (s : List Char) : Option (List Char) :=
  (plainDigits? Char.isDigit s).bind fun digits =>
    if digits.head? = some '0' && digits.length ≠ 1 then none else some digits

def word64? (n : Int) : Option Value :=
  if Int64.minValue.toInt ≤ n ∧ n ≤ Int64.maxValue.toInt then some (.integer n) else none

/-- A whole number in decimal, or without sign in base sixteen, eight or two. -/
def integer? (s : List Char) : Option Value :=
  let based (base : Nat) (digits : List Char) : Option Value :=
    (plainDigits? (isDigitOf base) digits).bind fun plain => word64? (ofDigits base plain)
  match s with
  | '0' :: 'x' :: digits => based 16 digits
  | '0' :: 'o' :: digits => based 8 digits
  | '0' :: 'b' :: digits => based 2 digits
  | _ =>
    let (negative, unsigned) := splitSign s
    (decimal? unsigned).bind fun digits =>
      word64? (if negative then -(ofDigits 10 digits) else ofDigits 10 digits)

def exponent? (s : List Char) : Option Int :=
  let (negative, unsigned) := splitSign s
  (plainDigits? Char.isDigit unsigned).map fun digits =>
    if negative then -(ofDigits 10 digits) else ofDigits 10 digits

def isExponentMark (c : Char) : Bool :=
  c = 'e' || c = 'E'

def splitExponent (s : List Char) : List Char × Option (List Char) :=
  let mantissa := s.takeWhile fun c => !isExponentMark c
  match s.dropWhile fun c => !isExponentMark c with
  | [] => (mantissa, none)
  | _ :: exponent => (mantissa, some exponent)

/-- The part of a mantissa before its point, and the part after it. -/
def splitPoint (s : List Char) : List Char × Option (List Char) :=
  match s.dropWhile (· ≠ '.') with
  | [] => (s, none)
  | _ :: fraction => (s.takeWhile (· ≠ '.'), some fraction)

def finiteFloat? (negative : Bool) (s : List Char) : Option Binary64 := do
  let (mantissa, exponentText) := splitExponent s
  let (wholeText, fractionText) := splitPoint mantissa
  let whole ← decimal? wholeText
  let fraction ← match fractionText with
    | none => some []
    | some text => plainDigits? Char.isDigit text
  let exponent ← match exponentText with
    | none => some 0
    | some text => exponent? text
  let x := Binary64.ofDecimal negative (ofDigits 10 (whole ++ fraction)) (exponent - fraction.length)
  if x.isFinite then some x else none

def float? (s : List Char) : Option Value :=
  let (negative, unsigned) := splitSign s
  if unsigned = ['i', 'n', 'f'] then some (.number (.infinite negative))
  else if unsigned = ['n', 'a', 'n'] then some (.number .nan)
  else (finiteFloat? negative unsigned).map .number

/-! ### Dates and times -/

/-- The value of so many digits at the start of a text, and the text after them. -/
def digits? (count : Nat) (s : List Char) : Option (Nat × List Char) :=
  let digits := s.take count
  if digits.length = count && digits.all Char.isDigit then some (ofDigits 10 digits, s.drop count)
  else none

def daysInMonth (year month : Nat) : Nat :=
  match month with
  | 2 => if year % 4 = 0 && (year % 100 ≠ 0 || year % 400 = 0) then 29 else 28
  | 4 | 6 | 9 | 11 => 30
  | _ => 31

def afterDate? (s : List Char) : Option (List Char) := do
  let (year, s) ← digits? 4 s
  let '-' :: s := s | none
  let (month, s) ← digits? 2 s
  let '-' :: s := s | none
  let (day, s) ← digits? 2 s
  if 1 ≤ month ∧ month ≤ 12 ∧ 1 ≤ day ∧ day ≤ daysInMonth year month then some s else none

/-- The text after the seconds at its start, which may have a fraction. -/
def afterSeconds? (s : List Char) : Option (List Char) := do
  let (second, s) ← digits? 2 s
  if 60 < second then none
  else
    match s with
    | '.' :: fraction =>
      if (fraction.takeWhile Char.isDigit).isEmpty then none
      else some (fraction.dropWhile Char.isDigit)
    | _ => some s

def afterMinutes? (s : List Char) : Option (List Char) := do
  let (hour, s) ← digits? 2 s
  let ':' :: s := s | none
  let (minute, s) ← digits? 2 s
  if hour < 24 ∧ minute < 60 then some s else none

/-- The text after the time at its start; seconds may be left out. -/
def afterTime? (s : List Char) : Option (List Char) := do
  match ← afterMinutes? s with
  | ':' :: seconds => afterSeconds? seconds
  | rest => some rest

/-- Whether a text is empty or the distance from universal time. -/
def isOffset : List Char → Bool
  | [] => true
  | ['Z'] | ['z'] => true
  | '+' :: rest | '-' :: rest => afterMinutes? rest = some []
  | _ => false

def isDateMark (c : Char) : Bool :=
  c = 'T' || c = 't' || c = ' '

/-- Whether a text is a date, a time, or a date with a time. -/
def isDate (s : List Char) : Bool :=
  match afterDate? s with
  | some [] => true
  | some (mark :: time) =>
    isDateMark mark &&
      match afterTime? time with
      | some offset => isOffset offset
      | none => false
  | none => afterTime? s = some []

def word? (s : List Char) : Option Value :=
  if s = ['t', 'r', 'u', 'e'] then some (.bool true)
  else if s = ['f', 'a', 'l', 's', 'e'] then some (.bool false)
  else
    match integer? s with
    | some value => some value
    | none =>
      -- A numeral that is a whole number too great for 64 bits is not a number with a fraction.
      if (decimal? (splitSign s).2).isSome then none
      else
        match float? s with
        | some value => some value
        | none => if isDate s then some (.string (String.ofList s)) else none

def isWordChar (c : Char) : Bool :=
  c.isAlphanum || c = '+' || c = '-' || c = '_' || c = '.' || c = ':'

/-- The word at the start of a text and the text after it. A date takes a time after one space. -/
def splitWord (s : List Char) : List Char × List Char :=
  let word := s.takeWhile isWordChar
  match s.dropWhile isWordChar with
  | ' ' :: c :: rest =>
    if afterDate? word = some [] && c.isDigit then
      (word ++ ' ' :: (c :: rest).takeWhile isWordChar, (c :: rest).dropWhile isWordChar)
    else (word, ' ' :: c :: rest)
  | rest => (word, rest)

end NoteCards.Toml

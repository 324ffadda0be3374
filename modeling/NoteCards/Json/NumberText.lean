import NoteCards.Binary64.Arithmetic
import NoteCards.Json.Fault
import NoteCards.Text.Digits
import NoteCards.Text.Source

/-!
# Numbers in JSON

A numeral without fraction and exponent is a whole number while it fits into 64 bits. Any other is
read fast rather than exactly: as many digits as fit into 64 bits are taken as a whole number, which
is rounded once, and the power of ten for the rest is multiplied or divided with a second rounding.
The result is near the written number but not always the nearest.
-/

namespace NoteCards.Json

open NoteCards.Text

structure NumberText where
  negative : Bool
  whole : List Char
  /-- The digits after the point, of which there is at least one. -/
  fraction : Option (List Char)
  /-- The sign and the digits of the exponent, of which there is at least one. -/
  exponent : Option (Bool × List Char)
  deriving DecidableEq, Repr

inductive Number where
  | integer (value : Int)
  | float (value : Binary64)
  deriving DecidableEq, Repr

def greatestExponent : Nat := 0x7FFFFFFF

/-- Appends digits to a whole number until one would lead beyond 64 bits. Gives the number, how
many digits it took and how many it left. -/
def absorb (number : Nat) : List Char → Nat × Nat × Nat
  | [] => (number, 0, 0)
  | c :: rest =>
    let next := 10 * number + digitValue c
    if UInt64.size ≤ next then (number, 0, rest.length + 1)
    else
      let (total, taken, left) := absorb next rest
      (total, taken + 1, left)

/-- A number times a power of ten, in one step where the power is in the range of the format and
in steps of 10³⁰⁸ downwards where it is not. -/
def scale (x : Binary64) (exponent : Int) : Except Fault Binary64 :=
  if exponent.natAbs ≤ 308 then
    let power := Binary64.ofDecimal false 1 exponent.natAbs
    if 0 ≤ exponent then
      if (x * power).isFinite then .ok (x * power) else .error .numberOutOfRange
    else .ok (x / power)
  else if x.sameValue 0 then .ok x
  else if 0 ≤ exponent then .error .numberOutOfRange
  else scale (x / Binary64.ofDecimal false 1 308) (exponent + 308)
termination_by (-exponent).toNat
decreasing_by omega

def signed (negative : Bool) (x : Binary64) : Binary64 :=
  if negative then -x else x

namespace NumberText

/-- The value of a numeral with digits after a point or with an exponent. -/
def float? (text : NumberText) : Except Fault Binary64 :=
  let (start, _, wholeLeft) := absorb 0 text.whole
  let (digits, fractionTaken, _) := absorb start (text.fraction.getD [])
  let shift : Int := (wholeLeft : Int) - fractionTaken
  let result := match text.exponent with
    | none => scale (.ofNat digits) shift
    | some (negative, exponent) =>
      let size := ofDigits 10 exponent
      if greatestExponent < size then
        if digits ≠ 0 ∧ ¬negative then .error .numberOutOfRange else .ok (.zero false)
      else scale (.ofNat digits) (if negative then shift - size else shift + size)
  result.map (signed text.negative)

def value (text : NumberText) : Except Fault Number :=
  let (number, _, left) := absorb 0 text.whole
  if text.fraction.isSome || text.exponent.isSome || left ≠ 0 then text.float?.map .float
  else if !text.negative then .ok (.integer number)
  else if number = 0 || 1 <<< 63 < number then .ok (.float (-.ofNat number))
  else .ok (.integer (-number))

end NumberText

/-! ### The grammar of numerals -/

/-- A numeral at the start of a text, and the text after it; or the fault for a reader that wants
the number and the fault for one that passes over it. -/
inductive NumberScan where
  | number (text : NumberText) (rest : Source)
  | broken (read skip : Fault)

/-- The digits at the start of a text and the text after them. -/
def splitDigits : Source → List Char × Source
  | some c :: rest =>
    if c.isDigit then
      let (digits, after) := splitDigits rest
      (c :: digits, after)
    else ([], some c :: rest)
  | rest => ([], rest)

/-- The fault where a digit is missing. -/
def missingDigit (rest : Source) : NumberScan :=
  if rest.isEmpty then .broken .endOfWord .invalidNumber
  else .broken .invalidNumber .invalidNumber

def scanExponent (number : NumberText) : Source → NumberScan
  | some c :: rest =>
    if c = 'e' || c = 'E' then
      let (negative, unsigned) := match rest with
        | some '+' :: after => (false, after)
        | some '-' :: after => (true, after)
        | after => (false, after)
      match splitDigits unsigned with
      | ([], after) => missingDigit after
      | (digits, after) => .number { number with exponent := some (negative, digits) } after
    else .number number (some c :: rest)
  | rest => .number number rest

def scanFraction (number : NumberText) : Source → NumberScan
  | some '.' :: rest =>
    match splitDigits rest with
    | ([], after) => missingDigit after
    | (digits, after) => scanExponent { number with fraction := some digits } after
  | rest => scanExponent number rest

def scanNumber (negative : Bool) (s : Source) : NumberScan :=
  match splitDigits s with
  | ([], after) => missingDigit after
  | ('0' :: _ :: _, _) => .broken .invalidNumber .invalidNumber
  | (digits, after) => scanFraction ⟨negative, digits, none, none⟩ after

end NoteCards.Json

import NoteCards.Binary64.Shortest

/-!
# Writing a number

A layout fixes what the shortest digits leave open: which numbers are written positionally, whether
a whole number shows a fraction, and which of two equally near decimals is taken. Scientific
notation gives the exponent its sign.
-/

namespace NoteCards.Binary64

structure Layout where
  /-- The exponents of the leading digit, from the first up to before the second, that are written
  positionally; all of them where there is no limit. -/
  positional : Option (Int × Int)
  /-- Whether a whole number in positional notation ends in `.0`. -/
  fraction : Bool
  tie : Tie

namespace Layout

def positionally (fraction : Bool) (digits : List Char) (exponent : Int) : List Char :=
  if 0 ≤ exponent then
    digits ++ List.replicate exponent.toNat '0' ++ (if fraction then ['.', '0'] else [])
  else
    let places := (-exponent).toNat
    if places < digits.length then
      digits.take (digits.length - places) ++ '.' :: digits.drop (digits.length - places)
    else
      '0' :: '.' :: List.replicate (places - digits.length) '0' ++ digits

/-- Digits in scientific notation, with the exponent of the leading digit. -/
def scientifically (digits : List Char) (leading : Int) : List Char :=
  digits.take 1 ++ (if digits.length = 1 then [] else '.' :: digits.drop 1) ++
    'e' :: (if leading < 0 then '-' else '+') :: Nat.toDigits 10 leading.natAbs

def writeRank (layout : Layout) (rank : Nat) : List Char :=
  let decimal : Decimal := if rank = 0 then ⟨0, 0⟩ else shortest layout.tie rank
  let digits := Nat.toDigits 10 decimal.digits
  let leading := decimal.exponent + digits.length - 1
  let inside := match layout.positional with
    | none => true
    | some (first, last) => rank = 0 || (first ≤ leading && leading < last)
  if inside then positionally layout.fraction digits decimal.exponent
  else scientifically digits leading

def write (layout : Layout) : Binary64 → List Char
  | .nan => ['N', 'a', 'N']
  | .infinite negative => (if negative then ['-'] else []) ++ ['i', 'n', 'f']
  | .finite negative rank => (if negative then ['-'] else []) ++ layout.writeRank rank.val

end Layout

/-- Numbers shown to a reader: never an exponent, and whole numbers without a fraction. -/
def plainLayout : Layout := ⟨none, false, .up⟩

def plain (x : Binary64) : String :=
  String.ofList (plainLayout.write x)

end NoteCards.Binary64

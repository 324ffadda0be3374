import NoteCards.Binary64.Basic

/-!
# Rounding to the nearest number

A real magnitude is given as a quotient of two whole numbers of units, or as the square root of
one. It goes to the nearest number, and from halfway between two numbers to the one of even rank.
Because a rank is a whole number that grows by one from number to number, even where the distance
between numbers changes, rounding is the rounding of one quotient to a whole number.
-/

namespace NoteCards.Binary64

/-- The whole number nearest to a quotient, the even one of two. -/
def roundDiv (num den : Nat) : Nat :=
  let floor := num / den
  let twice := 2 * (num % den)
  if twice < den then floor
  else if den < twice then floor + 1
  else if floor % 2 = 0 then floor else floor + 1

/-- The rank nearest to `num / den` units. -/
def nearestRank (num den : Nat) : Nat :=
  let block := (num / den).log2 - 52
  block <<< 52 + roundDiv num (den <<< block)

/-- The number nearest to `num / den` units. -/
def ofQuotient (negative : Bool) (num den : Nat) : Binary64 :=
  ofRank negative (nearestRank num den)

/-- The rank nearest to the square root of `square` square units. -/
def nearestRootRank (square : Nat) : Nat :=
  let block := square.log2 / 2 - 52
  let floor := (square >>> (2 * block)).sqrt
  let middle := (2 * floor + 1) <<< block
  let above := middle * middle < 4 * square
  let halfway := middle * middle = 4 * square
  block <<< 52 + (if above ∨ halfway ∧ floor % 2 = 1 then floor + 1 else floor)

/-- The number nearest to the square root of `square` square units. -/
def ofSquare (square : Nat) : Binary64 :=
  ofRank false (nearestRootRank square)

def ofNat (n : Nat) : Binary64 :=
  ofQuotient false (n * unitsPerOne) 1

/-- The number nearest to a signed whole number; zero is positive. -/
def ofInt (n : Int) : Binary64 :=
  ofQuotient (n < 0) (n.natAbs * unitsPerOne) 1

/-- The number nearest to `digits · 10^exponent`. The exponents of the two shortcuts are out of the
range of the format for every `digits` with that many places. -/
def ofDecimal (negative : Bool) (digits : Nat) (exponent : Int) : Binary64 :=
  if digits = 0 then zero negative
  else
    let places : Int := digits.log2 / 3 + 1
    if 400 < exponent then .infinite negative
    else if places + exponent < -400 then zero negative
    else if 0 ≤ exponent then
      ofQuotient negative (digits * Nat.pow 10 exponent.toNat * unitsPerOne) 1
    else
      ofQuotient negative (digits * unitsPerOne) (Nat.pow 10 (-exponent).toNat)

instance (n : Nat) : OfNat Binary64 n := ⟨ofNat n⟩

instance : OfScientific Binary64 where
  ofScientific digits down exponent :=
    ofDecimal false digits (if down then -(exponent : Int) else exponent)

end NoteCards.Binary64

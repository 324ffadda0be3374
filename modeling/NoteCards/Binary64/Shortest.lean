import NoteCards.Binary64.Rounding

/-!
# The fewest decimal digits that read back

Each finite number stands for the interval of the reals that round to it; the ends belong to it
exactly when its rank is even. Its shortest decimal is sought on the grids of one, two, … seventeen
digits: the first grid with a point in the interval wins, and of two such points the nearer one.
Only the two neighbours of the number on a grid need a look, since the interval holds the number.
-/

namespace NoteCards.Binary64

/-- The decimal `digits · 10^exponent`. -/
structure Decimal where
  digits : Nat
  exponent : Int
  deriving DecidableEq, Repr

inductive Tie where
  | even
  | up
  deriving DecidableEq, Repr

/-- The quotient, as numerator and denominator, of a number of units by a power of ten. -/
def onGrid (units : Nat) (exponent : Int) : Nat × Nat :=
  if 0 ≤ exponent then (units, unitsPerOne * Nat.pow 10 exponent.toNat)
  else (units * Nat.pow 10 (-exponent).toNat, unitsPerOne)

/-- Whether `digits · 10^exponent` rounds to the number of a rank. -/
def readsBack (rank digits : Nat) (exponent : Int) : Bool :=
  let (low, den) := onGrid (magnitude (rank - 1) + magnitude rank) exponent
  let (high, _) := onGrid (magnitude rank + magnitude (rank + 1)) exponent
  let twice := 2 * digits * den
  if rank % 2 = 0 then low ≤ twice && twice ≤ high else low < twice && twice < high

/-- The decimal of a grid nearest to the number of a rank, if one on that grid reads back. -/
def nearestOnGrid? (tie : Tie) (rank : Nat) (exponent : Int) : Option Decimal :=
  let (num, den) := onGrid (magnitude rank) exponent
  let floor := num / den
  let twice := 2 * (num % den)
  match readsBack rank floor exponent, readsBack rank (floor + 1) exponent with
  | false, false => none
  | true, false => some ⟨floor, exponent⟩
  | false, true => some ⟨floor + 1, exponent⟩
  | true, true =>
    let below := twice < den || (twice = den && tie = .even && floor % 2 = 0)
    some ⟨if below then floor else floor + 1, exponent⟩

/-- The exponent of ten of the leading digit of a positive rank. -/
def leadingExponent (rank : Nat) : Int :=
  (Nat.toDigits 10 (magnitude rank * Nat.pow 10 400 / unitsPerOne)).length - 401

/-- A decimal without zeros at its end, for at most `fuel` of them. -/
def Decimal.dropZeros : (fuel : Nat) → Decimal → Decimal
  | 0, decimal => decimal
  | fuel + 1, decimal =>
    if decimal.digits % 10 = 0 then dropZeros fuel ⟨decimal.digits / 10, decimal.exponent + 1⟩
    else decimal

/-- The shortest decimal that rounds to the number of a positive rank. -/
def shortest (tie : Tie) (rank : Nat) : Decimal :=
  let leading := leadingExponent rank
  let found := (List.range 17).findSome? fun (more : Nat) =>
    nearestOnGrid? tie rank (leading - more)
  (found.getD ⟨0, 0⟩).dropZeros 17

end NoteCards.Binary64

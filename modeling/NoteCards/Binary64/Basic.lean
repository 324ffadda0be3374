/-!
# Numbers of the binary64 format

A finite number is a sign and a *rank*: zero has rank 0, the least positive number rank 1, and each
next number the next rank, so that the order of magnitudes is the order of ranks. The magnitude of
a rank is a whole number of units, where the unit is the least positive number, 2⁻¹⁰⁷⁴: up to 2⁵³
a rank is its own magnitude, and from there on every 2⁵² ranks the distance between neighbours
doubles.

The two zeros are two numbers here, as they are two bit patterns; all not-a-number patterns are one.
-/

namespace NoteCards

/-- The rank that would follow the greatest finite number. -/
def topRank : Nat := 0x7FF0000000000000

/-- A number of the binary64 format. -/
inductive Binary64 where
  | nan
  | infinite (negative : Bool)
  | finite (negative : Bool) (rank : Fin topRank)
  deriving DecidableEq, Repr

namespace Binary64

/-- The number of units in the magnitude of a rank. -/
def magnitude (rank : Nat) : Nat :=
  let block := rank >>> 52
  if block ≤ 1 then rank else (1 <<< 52 + rank % (1 <<< 52)) <<< (block - 1)

/-- The unit's inverse: a whole number `n` has the magnitude `n * unitsPerOne`. -/
def unitsPerOne : Nat := 1 <<< 1074

/-- The number of a sign and a rank; infinite beyond the greatest finite one. -/
def ofRank (negative : Bool) (rank : Nat) : Binary64 :=
  if h : rank < topRank then .finite negative ⟨rank, h⟩ else .infinite negative

def zero (negative : Bool) : Binary64 :=
  .finite negative ⟨0, by decide⟩

def isFinite : Binary64 → Bool
  | .finite _ _ => true
  | _ => false

def isNaN : Binary64 → Bool
  | .nan => true
  | _ => false

def negate : Binary64 → Binary64
  | .nan => .nan
  | .infinite negative => .infinite !negative
  | .finite negative rank => .finite (!negative) rank

instance : Neg Binary64 := ⟨negate⟩

/-! ### Order

Numbers are compared by a signed key. Both zeros have the key 0, and what is not a number has none:
every comparison with it fails. -/

/-- The place of a number in the order. -/
def key? : Binary64 → Option Int
  | .nan => none
  | .infinite negative => some (if negative then -topRank else topRank)
  | .finite negative rank => some (if negative then -rank.val else rank.val)

def lt (x y : Binary64) : Bool :=
  match x.key?, y.key? with
  | some a, some b => a < b
  | _, _ => false

def le (x y : Binary64) : Bool :=
  match x.key?, y.key? with
  | some a, some b => a ≤ b
  | _, _ => false

/-- Equality of values: the zeros are equal, and what is not a number equals nothing. -/
def sameValue (x y : Binary64) : Bool :=
  match x.key?, y.key? with
  | some a, some b => a = b
  | _, _ => false

/-- The greater of two numbers; the other one where one is not a number. -/
def max (x y : Binary64) : Binary64 :=
  if x.isNaN then y else if lt x y then y else x

/-- The nearest number between two bounds; what is not a number is kept. -/
def clamp (low high x : Binary64) : Binary64 :=
  if lt x low then low else if lt high x then high else x

/-! ### Bits -/

def toBits : Binary64 → Nat
  | .nan => 0x7FF8000000000000
  | .infinite negative => (if negative then 1 <<< 63 else 0) + topRank
  | .finite negative rank => (if negative then 1 <<< 63 else 0) + rank.val

end Binary64

end NoteCards

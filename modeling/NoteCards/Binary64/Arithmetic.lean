import NoteCards.Binary64.Rounding

/-!
# Arithmetic

Every operation on finite numbers is the exact result on magnitudes followed by one rounding. The
rest is the rules for infinities, for the sign of a zero, and for what is not a number.
-/

namespace NoteCards.Binary64

def signedUnits (negative : Bool) (rank : Nat) : Int :=
  if negative then -(magnitude rank) else magnitude rank

/-- The sum. Opposite numbers give the positive zero. -/
def add : Binary64 → Binary64 → Binary64
  | .nan, _ | _, .nan => .nan
  | .infinite a, .infinite b => if a = b then .infinite a else .nan
  | .infinite a, .finite _ _ => .infinite a
  | .finite _ _, .infinite b => .infinite b
  | .finite a r, .finite b s =>
    let sum := signedUnits a r + signedUnits b s
    if sum = 0 then zero (a && b) else ofQuotient (sum < 0) sum.natAbs 1

def sub (x y : Binary64) : Binary64 :=
  add x (-y)

def mul : Binary64 → Binary64 → Binary64
  | .nan, _ | _, .nan => .nan
  | .infinite a, .infinite b => .infinite (a != b)
  | .infinite a, .finite b s => if s.val = 0 then .nan else .infinite (a != b)
  | .finite a r, .infinite b => if r.val = 0 then .nan else .infinite (a != b)
  | .finite a r, .finite b s => ofQuotient (a != b) (magnitude r * magnitude s) unitsPerOne

def div : Binary64 → Binary64 → Binary64
  | .nan, _ | _, .nan => .nan
  | .infinite _, .infinite _ => .nan
  | .infinite a, .finite b _ => .infinite (a != b)
  | .finite a _, .infinite b => zero (a != b)
  | .finite a r, .finite b s =>
    if s.val = 0 then if r.val = 0 then .nan else .infinite (a != b)
    else ofQuotient (a != b) (magnitude r * unitsPerOne) (magnitude s)

instance : Add Binary64 := ⟨add⟩
instance : Sub Binary64 := ⟨sub⟩
instance : Mul Binary64 := ⟨mul⟩
instance : Div Binary64 := ⟨div⟩

/-- The length of the diagonal of a rectangle; infinite if a side is. -/
def hypot : Binary64 → Binary64 → Binary64
  | .infinite _, _ | _, .infinite _ => .infinite false
  | .nan, _ | _, .nan => .nan
  | .finite _ r, .finite _ s =>
    ofSquare (magnitude r * magnitude r + magnitude s * magnitude s)

/-- The nearest whole number to a magnitude in units, halves upwards. -/
def roundHalfUp (units : Nat) : Nat :=
  (2 * units + unitsPerOne) / (2 * unitsPerOne)

/-- The whole number nearest to a number, halves away from zero, pulled into `0 … limit`; 0 for
what is not a number. -/
def roundInto (limit : Nat) : Binary64 → Nat
  | .nan => 0
  | .infinite negative => if negative then 0 else limit
  | .finite negative rank => if negative then 0 else min (roundHalfUp (magnitude rank)) limit

/-- The whole part of a number, pulled into `0 … limit`; 0 for what is not a number. -/
def truncateInto (limit : Nat) : Binary64 → Nat
  | .nan => 0
  | .infinite negative => if negative then 0 else limit
  | .finite negative rank => if negative then 0 else min (magnitude rank / unitsPerOne) limit

end NoteCards.Binary64

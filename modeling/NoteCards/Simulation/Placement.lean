import NoteCards.Simulation.Parameters

/-!
# Placement of cards

A card with a saved position stays there and takes nothing from the source of random words. Any
other card is placed in a square around the centre of the view: two words are drawn, first for the
horizontal and then for the vertical offset.

An offset is a word's upper 52 bits as a fraction of one, stretched to the width of the square and
moved by half of it. The stretch starts at the width over the greatest fraction and is lowered
until the greatest fraction no longer leads out of the square.
-/

namespace NoteCards

structure Point where
  x : Binary64
  y : Binary64
  deriving DecidableEq, Repr

/-- The visible part of the canvas. -/
structure Viewport where
  width : Binary64
  height : Binary64
  deriving DecidableEq, Repr

def Viewport.center (viewport : Viewport) : Point :=
  ⟨viewport.width / 2, viewport.height / 2⟩

/-- A source of random words: each draw gives a word and the source to go on with. -/
structure WordSource (S : Type) where
  draw : S → UInt64 × S

/-- The source that counts up in equal steps, wrapping around. -/
def WordSource.counting (step : UInt64) : WordSource UInt64 where
  draw word := (word, word + step)

namespace Placement

/-- The fraction of one in the upper 52 bits of a word. -/
def fraction (word : UInt64) : Binary64 :=
  .ofNat (word >>> 12).toNat / .ofNat (1 <<< 52)

def greatestFraction : Binary64 :=
  .ofNat (1 <<< 52 - 1) / .ofNat (1 <<< 52)

/-- The stretch of a rank, lowered until the greatest fraction stays at or below `half`. -/
def lowerStretch (half : Binary64) : (rank : Nat) → Binary64
  | 0 => .zero false
  | rank + 1 =>
    let stretch := Binary64.ofRank false (rank + 1)
    if half.lt (stretch * greatestFraction + -half) then lowerStretch half rank else stretch

/-- The stretch that takes fractions to the offsets from `-half` to `half`; none where the square
is too wide for the format. -/
def stretch? (half : Binary64) : Option Binary64 :=
  if half.isFinite then
    match (half - -half) / greatestFraction with
    | .finite _ rank => some (lowerStretch half rank.val)
    | _ => none
  else none

def offset (half stretch : Binary64) (word : UInt64) : Binary64 :=
  fraction word * stretch + -half

def halfSpread (physics : Physics) : Binary64 :=
  physics.initialSpread.max 0 / 2

variable {S : Type}

/-- A point in the square around the centre of the view, and the source after its two draws; none
where the square is too wide for the format. -/
def newPoint? (viewport : Viewport) (physics : Physics) (source : WordSource S) (state : S) :
    Option (Point × S) :=
  let half := halfSpread physics
  (stretch? half).map fun stretch =>
    let center := viewport.center
    let (first, next) := source.draw state
    let (second, last) := source.draw next
    (⟨center.x + offset half stretch first, center.y + offset half stretch second⟩, last)

def place? (saved : Option Point) (viewport : Viewport) (physics : Physics)
    (source : WordSource S) (state : S) : Option (Point × S) :=
  match saved with
  | some point => some (point, state)
  | none => newPoint? viewport physics source state

/-- The positions of cards in order, all from one source, and the source after them. -/
def placeAll? (viewport : Viewport) (physics : Physics) (source : WordSource S) :
    List (Option Point) → S → Option (List Point × S)
  | [], state => some ([], state)
  | saved :: rest, state =>
    (place? saved viewport physics source state).bind fun (point, next) =>
      (placeAll? viewport physics source rest next).map fun (points, last) =>
        (point :: points, last)

end Placement

end NoteCards

import NoteCards.Settings.Basic

/-!
# Parameters of the force simulation

The sliders and the size of a card determine the parameters of the simulation through a fixed table
of multipliers. Repulsion is counted downwards from zero, so that a slider at zero gives the
positive zero. The distance of linked cards has a floor; nothing else is bounded here.
-/

namespace NoteCards

/-- Multipliers, bounds and tuning of the simulation. -/
structure Physics where
  repelMultiplier : Binary64 := 50
  /-- The least distance of linked cards. -/
  minLinkDistance : Binary64 := 30
  linkStrengthMultiplier : Binary64 := 0.5
  centerMultiplier : Binary64 := 0.1
  /-- Cards nearer than this do not repel each other. -/
  manyBodyDistanceMin : Binary64 := 10
  /-- Cards further apart than this do not repel each other. -/
  manyBodyDistanceMax : Binary64 := 2000
  /-- The side of the square in which new cards are placed. -/
  initialSpread : Binary64 := 400
  alphaDecay : Binary64 := 0.0228
  alphaMin : Binary64 := 0.001
  velocityDecay : Binary64 := 0.4
  cooldownTicks : UInt32 := 300
  cooldownTimeMs : UInt64 := 15000
  deriving DecidableEq, Repr

def standardPhysics : Physics := {}

/-- What the simulation runs with. -/
structure Parameters where
  /-- Strength between every two cards; negative numbers push them apart. -/
  repulsionStrength : Binary64
  linkDistance : Binary64
  linkStrength : Binary64
  centerStrength : Binary64
  collisionRadius : Binary64
  manyBodyDistanceMin : Binary64
  manyBodyDistanceMax : Binary64
  alphaDecay : Binary64
  alphaMin : Binary64
  velocityDecay : Binary64
  cooldownTicks : UInt32
  cooldownTimeMs : UInt64
  deriving DecidableEq, Repr

/-- Half the diagonal of a card. -/
def Display.collisionRadius (display : Display) : Binary64 :=
  display.cardWidth.hypot display.cardHeight / 2

namespace Parameters

def ofSettings (settings : Settings) (physics : Physics) : Parameters where
  repulsionStrength := 0 - settings.forces.repelForce * physics.repelMultiplier
  linkDistance := settings.forces.linkDistance.max physics.minLinkDistance
  linkStrength := settings.forces.linkForce * physics.linkStrengthMultiplier
  centerStrength := settings.forces.centerForce * physics.centerMultiplier
  collisionRadius := settings.display.collisionRadius
  manyBodyDistanceMin := physics.manyBodyDistanceMin
  manyBodyDistanceMax := physics.manyBodyDistanceMax
  alphaDecay := physics.alphaDecay
  alphaMin := physics.alphaMin
  velocityDecay := physics.velocityDecay
  cooldownTicks := physics.cooldownTicks
  cooldownTimeMs := physics.cooldownTimeMs

def repelsAt (parameters : Parameters) (distance : Binary64) : Bool :=
  parameters.manyBodyDistanceMin.le distance && distance.le parameters.manyBodyDistanceMax

end Parameters

end NoteCards

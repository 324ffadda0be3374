import NoteCards.Data.Value
import NoteCards.Note.Document
import NoteCards.Settings.Basic
import NoteCards.Simulation.Placement

/-!
# Records as structured data

The form in which each record is written: an object with the fields of the record in order.
-/

namespace NoteCards

open NoteCards.Data

def Data.word32 (n : UInt32) : Value := .integer n.toNat

def Data.word64 (n : UInt64) : Value := .integer n.toNat

def Setting.toValue : Setting → Value
  | .number x => .number x
  | .toggle b => .bool b

def Display.toValue (display : Display) : Value :=
  .object [
    ("card_width", .number display.cardWidth),
    ("card_height", .number display.cardHeight),
    ("font_size", .number display.fontSize),
    ("excerpt_lines", word32 display.excerptLines),
    ("show_tags", .bool display.showTags),
    ("show_arrows", .bool display.showArrows)]

def Forces.toValue (forces : Forces) : Value :=
  .object [
    ("repel_force", .number forces.repelForce),
    ("link_force", .number forces.linkForce),
    ("link_distance", .number forces.linkDistance),
    ("center_force", .number forces.centerForce)]

def Settings.toValue (settings : Settings) : Value :=
  .object [("display", settings.display.toValue), ("forces", settings.forces.toValue)]

def Scope.toValue (scope : Scope) : Value := .string scope.name

def Term.toValue (term : Term) : Value :=
  .object [
    ("kind", term.scope.toValue),
    ("value", .string term.value),
    ("negated", .bool term.negated)]

def LabelSet.toValue (labels : LabelSet) : Value :=
  .array (labels.toList.map .string)

def Document.toValue (document : Document) : Value :=
  .object [
    ("path", .string document.path),
    ("aliases", document.aliases.toValue),
    ("tags", document.tags.toValue)]

def Point.toValue (point : Point) : Value :=
  .object [("x", .number point.x), ("y", .number point.y)]

def Viewport.toValue (viewport : Viewport) : Value :=
  .object [("width", .number viewport.width), ("height", .number viewport.height)]

def Physics.toValue (physics : Physics) : Value :=
  .object [
    ("repel_multiplier", .number physics.repelMultiplier),
    ("min_link_distance", .number physics.minLinkDistance),
    ("link_strength_multiplier", .number physics.linkStrengthMultiplier),
    ("center_multiplier", .number physics.centerMultiplier),
    ("many_body_distance_min", .number physics.manyBodyDistanceMin),
    ("many_body_distance_max", .number physics.manyBodyDistanceMax),
    ("initial_spread", .number physics.initialSpread),
    ("alpha_decay", .number physics.alphaDecay),
    ("alpha_min", .number physics.alphaMin),
    ("velocity_decay", .number physics.velocityDecay),
    ("cooldown_ticks", word32 physics.cooldownTicks),
    ("cooldown_time_ms", word64 physics.cooldownTimeMs)]

def Parameters.toValue (parameters : Parameters) : Value :=
  .object [
    ("repulsion_strength", .number parameters.repulsionStrength),
    ("link_distance", .number parameters.linkDistance),
    ("link_strength", .number parameters.linkStrength),
    ("center_strength", .number parameters.centerStrength),
    ("collision_radius", .number parameters.collisionRadius),
    ("many_body_distance_min", .number parameters.manyBodyDistanceMin),
    ("many_body_distance_max", .number parameters.manyBodyDistanceMax),
    ("alpha_decay", .number parameters.alphaDecay),
    ("alpha_min", .number parameters.alphaMin),
    ("velocity_decay", .number parameters.velocityDecay),
    ("cooldown_ticks", word32 parameters.cooldownTicks),
    ("cooldown_time_ms", word64 parameters.cooldownTimeMs)]

end NoteCards

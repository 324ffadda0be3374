import NoteCards.Settings.Field

/-!
# Force settings

The sliders of the force simulation, before they are turned into its parameters.
-/

namespace NoteCards

/-- The sliders of the force simulation. -/
structure Forces where
  repelForce : Binary64 := 10
  linkForce : Binary64 := 1
  linkDistance : Binary64 := 250
  centerForce : Binary64 := 0.5
  deriving DecidableEq, Repr

instance : Inhabited Forces := ⟨{}⟩

inductive ForceField where
  | repelForce
  | linkForce
  | linkDistance
  | centerForce
  deriving DecidableEq, Repr

namespace ForceField

def name : ForceField → String
  | .repelForce => "repel_force"
  | .linkForce => "link_force"
  | .linkDistance => "link_distance"
  | .centerForce => "center_force"

instance : SettingsField ForceField where
  all := [.repelForce, .linkForce, .linkDistance, .centerForce]
  name := name
  table := [
    ("repel_force", .repelForce),
    ("link_force", .linkForce),
    ("link_distance", .linkDistance),
    ("center_force", .centerForce)]
  initial
    | .repelForce => .number 10
    | .linkForce => .number 1
    | .linkDistance => .number 250
    | .centerForce => .number 0.5
  range?
    | .repelForce => some ⟨0, 20⟩
    | .linkForce => some ⟨0, 1⟩
    | .linkDistance => some ⟨30, 500⟩
    | .centerForce => some ⟨0, 1⟩

end ForceField

namespace Forces

open SettingsField

def get (forces : Forces) : ForceField → Setting
  | .repelForce => .number forces.repelForce
  | .linkForce => .number forces.linkForce
  | .linkDistance => .number forces.linkDistance
  | .centerForce => .number forces.centerForce

def put (forces : Forces) (field : ForceField) (x : Binary64) : Forces :=
  match field with
  | .repelForce => { forces with repelForce := x }
  | .linkForce => { forces with linkForce := x }
  | .linkDistance => { forces with linkDistance := x }
  | .centerForce => { forces with centerForce := x }

def set (forces : Forces) (field : ForceField) (value : Setting) : Edited Forces :=
  .store forces (value.number? field.name) (forces.put field)

def reset (forces : Forces) : ForceField → Forces
  | .repelForce => forces.put .repelForce 10
  | .linkForce => forces.put .linkForce 1
  | .linkDistance => forces.put .linkDistance 250
  | .centerForce => forces.put .centerForce 0.5

def clamped (forces : Forces) : Forces where
  repelForce := pullIn ForceField.repelForce forces.repelForce
  linkForce := pullIn ForceField.linkForce forces.linkForce
  linkDistance := pullIn ForceField.linkDistance forces.linkDistance
  centerForce := pullIn ForceField.centerForce forces.centerForce

instance : SettingsRecord Forces ForceField where
  get := get
  set := set
  reset := reset
  clamped := clamped

def sameValues (a b : Forces) : Bool :=
  a.repelForce.sameValue b.repelForce && a.linkForce.sameValue b.linkForce &&
    a.linkDistance.sameValue b.linkDistance && a.centerForce.sameValue b.centerForce

end Forces

end NoteCards

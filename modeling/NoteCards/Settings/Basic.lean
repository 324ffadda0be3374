import NoteCards.Settings.Display
import NoteCards.Settings.Forces

/-!
# Settings

The two records of settings side by side, and the edits of them. An edit names a record and a field
of it, and either assigns a value or restores the initial one. It gives its result and the settings
after it.
-/

namespace NoteCards

structure Settings where
  display : Display := {}
  forces : Forces := {}
  deriving DecidableEq, Repr

instance : Inhabited Settings := ⟨{}⟩

inductive Section where
  | display
  | forces
  deriving DecidableEq, Repr

inductive Edit where
  | set (part : Section) (field : String) (value : Setting)
  | reset (part : Section) (field : String)
  deriving DecidableEq, Repr

namespace Settings

def withDisplay (settings : Settings) (edited : Edited Display) : Edited Settings :=
  (edited.1, { settings with display := edited.2 })

def withForces (settings : Settings) (edited : Edited Forces) : Edited Settings :=
  (edited.1, { settings with forces := edited.2 })

def apply (settings : Settings) : Edit → Edited Settings
  | .set .display field value =>
    settings.withDisplay (SettingsRecord.setNamed settings.display field value)
  | .set .forces field value =>
    settings.withForces (SettingsRecord.setNamed settings.forces field value)
  | .reset .display field =>
    settings.withDisplay (SettingsRecord.resetNamed settings.display field)
  | .reset .forces field =>
    settings.withForces (SettingsRecord.resetNamed settings.forces field)

/-- The settings after an edit that succeeds. -/
def edit (settings : Settings) (change : Edit) : Except SettingsError Settings :=
  (settings.apply change).toExcept

def get (settings : Settings) : Section → String → Except SettingsError Setting
  | .display, field => (SettingsField.ofName? field).map settings.display.get
  | .forces, field => (SettingsField.ofName? field).map settings.forces.get

/-- The settings after edits in order, whether each succeeds or not. -/
def editAll (settings : Settings) (edits : List Edit) : Settings :=
  edits.foldl (fun state change => (state.apply change).2) settings

def clamped (settings : Settings) : Settings :=
  ⟨settings.display.clamped, settings.forces.clamped⟩

def sameValues (a b : Settings) : Bool :=
  a.display.sameValues b.display && a.forces.sameValues b.forces

/-- Restores the field of a name, whichever record it belongs to; displays are tried first. -/
def resetField (settings : Settings) (name : String) : Edited Settings :=
  match (SettingsField.ofName? name : Except SettingsError DisplayField) with
  | .ok field => (.ok (), { settings with display := settings.display.reset field })
  | .error _ => settings.apply (.reset .forces name)

/-- Restores the fields of some names, up to the first unknown one. -/
def resetFields (settings : Settings) : List String → Edited Settings
  | [] => (.ok (), settings)
  | name :: rest =>
    match settings.resetField name with
    | (.ok (), changed) => changed.resetFields rest
    | (.error e, left) => (.error e, left)

end Settings

end NoteCards

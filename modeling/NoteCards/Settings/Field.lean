import NoteCards.Binary64.Layout
import NoteCards.Binary64.Arithmetic
import NoteCards.Text.Quoted

/-!
# Fields of settings

A setting is a number or a toggle. A record of settings is addressed by its fields: each has a name,
an initial value, and, if it holds a number, the range that is offered for it. The names are looked
up in a table of their own. Assigning to a field fails in two ways only: there is no field of that
name, or the value is of the other kind. An assignment gives its result and the record after it,
also where it fails.
-/

namespace NoteCards

inductive Kind where
  | number
  | toggle
  deriving DecidableEq, Repr

inductive Setting where
  | number (value : Binary64)
  | toggle (value : Bool)
  deriving DecidableEq, Repr

inductive SettingsError where
  | unknownField (name : String)
  | kindMismatch (field : String) (expected : Kind) (actual : Setting)
  deriving DecidableEq, Repr

/-- The numbers from one bound to the other, both included. -/
structure Range where
  low : Binary64
  high : Binary64
  deriving DecidableEq, Repr

def Range.clamp (range : Range) (x : Binary64) : Binary64 :=
  Binary64.clamp range.low range.high x

def Range.contains (range : Range) (x : Binary64) : Bool :=
  range.low.le x && x.le range.high

def Kind.name : Kind → String
  | .number => "number"
  | .toggle => "toggle"

namespace Setting

def kind : Setting → Kind
  | .number _ => .number
  | .toggle _ => .toggle

instance : ToString Setting where
  toString
    | .number x => x.plain
    | .toggle b => if b then "true" else "false"

def number? (field : String) : Setting → Except SettingsError Binary64
  | .number x => .ok x
  | .toggle b => .error (.kindMismatch field .number (.toggle b))

def toggle? (field : String) : Setting → Except SettingsError Bool
  | .toggle b => .ok b
  | .number x => .error (.kindMismatch field .toggle (.number x))

end Setting

def SettingsError.message : SettingsError → String
  | .unknownField name => "unknown setting: " ++ Text.quote name
  | .kindMismatch field expected actual =>
    "setting `" ++ field ++ "` expects a " ++ expected.name ++ " value, got " ++ toString actual

class SettingsField (F : Type) where
  /-- Every field, in the order of the record. -/
  all : List F
  name : F → String
  /-- The field that each name stands for. -/
  table : List (String × F)
  initial : F → Setting
  /-- The range of a numeric field. -/
  range? : F → Option Range

/-- The result of a change of a record, and the record after it. -/
abbrev Edited (R : Type) := Except SettingsError Unit × R

namespace Edited

variable {R : Type}

/-- Stores in a record what a value is read as; where it cannot be read, nothing is stored. -/
def store {α : Type} (record : R) (read : Except SettingsError α) (put : α → R) : Edited R :=
  match read with
  | .ok a => (.ok (), put a)
  | .error e => (.error e, record)

/-- The record after a change that succeeds. -/
def toExcept : Edited R → Except SettingsError R
  | (.ok (), changed) => .ok changed
  | (.error e, _) => .error e

end Edited

class SettingsRecord (R : Type) (F : outParam Type) extends SettingsField F where
  get : R → F → Setting
  set : R → F → Setting → Edited R
  /-- The record with the initial value in one field. -/
  reset : R → F → R
  /-- The record with every number pulled into the range of its field. -/
  clamped : R → R

namespace SettingsField

variable {F : Type} [SettingsField F]

def ofName? (wanted : String) : Except SettingsError F :=
  match (table : List (String × F)).lookup wanted with
  | some field => .ok field
  | none => .error (.unknownField wanted)

/-- The nearest value of a numeric field's range; the value itself for a toggle. -/
def pullIn (field : F) (x : Binary64) : Binary64 :=
  match range? field with
  | some range => range.clamp x
  | none => x

end SettingsField

namespace SettingsRecord

variable {R F : Type} [SettingsRecord R F]

/-- Assigns to the field of a name. An unknown name is reported before a value of the wrong kind. -/
def setNamed (record : R) (name : String) (value : Setting) : Edited R :=
  match SettingsField.ofName? name with
  | .ok field => set record field value
  | .error e => (.error e, record)

def resetNamed (record : R) (name : String) : Edited R :=
  match SettingsField.ofName? name with
  | .ok field => (.ok (), reset record field)
  | .error e => (.error e, record)

end SettingsRecord

end NoteCards

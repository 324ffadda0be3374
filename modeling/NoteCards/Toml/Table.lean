import NoteCards.Data.Value

/-!
# Tables under construction

A TOML document builds up nested tables. A table may be opened once by its header; a table that a
header or a dotted key merely passes through may still be opened or extended later, but not both
ways. So each table remembers how it came to be.
-/

namespace NoteCards.Toml

open NoteCards.Data

/-- How a table came to be. -/
inductive Origin where
  /-- By a header of its own. -/
  | header
  /-- On the way to the table of another header. -/
  | implied
  /-- On the way of a dotted key. -/
  | dotted
  deriving DecidableEq, Repr

/-- What stands under a key. -/
inductive Item where
  | value (value : Value)
  | table (origin : Origin) (entries : List (String × Item))
  /-- The tables opened one after the other by headers with two brackets, the last one first. -/
  | tables (elements : List (List (String × Item)))

instance : Inhabited Item := ⟨.table .implied []⟩

abbrev Entries := List (String × Item)

namespace Entries

def find? (key : String) : Entries → Option Item
  | [] => none
  | (name, item) :: rest => if name = key then some item else find? key rest

def put (key : String) (item : Item) : Entries → Entries
  | [] => [(key, item)]
  | (name, old) :: rest =>
    if name = key then (name, item) :: rest else (name, old) :: put key item rest

def openTable : (path : List String) → Entries → Option Entries
  | [], _ => none
  | [key], entries =>
    match entries.find? key with
    | none => some (entries.put key (.table .header []))
    | some (.table .implied inner) => some (entries.put key (.table .header inner))
    | some _ => none
  | key :: path, entries =>
    match entries.find? key with
    | none => (openTable path []).map fun inner => entries.put key (.table .implied inner)
    | some (.table origin inner) =>
      (openTable path inner).map fun inner => entries.put key (.table origin inner)
    | some (.tables (last :: before)) =>
      (openTable path last).map fun last => entries.put key (.tables (last :: before))
    | some _ => none

/-- Opens one more of the tables of a header with two brackets. -/
def openElement : (path : List String) → Entries → Option Entries
  | [], _ => none
  | [key], entries =>
    match entries.find? key with
    | none => some (entries.put key (.tables [[]]))
    | some (.tables elements) => some (entries.put key (.tables ([] :: elements)))
    | some _ => none
  | key :: path, entries =>
    match entries.find? key with
    | none => (openElement path []).map fun inner => entries.put key (.table .implied inner)
    | some (.table origin inner) =>
      (openElement path inner).map fun inner => entries.put key (.table origin inner)
    | some (.tables (last :: before)) =>
      (openElement path last).map fun last => entries.put key (.tables (last :: before))
    | some _ => none

/-- Assigns to a dotted key within a table, where `isDotted` tells whether the table may be extended
by the part of the key that is left. -/
def assignDotted (isDotted : Bool) : (path : List String) → Value → Entries → Option Entries
  | [], _, _ => none
  | [key], value, entries =>
    if isDotted && (entries.find? key).isNone then some (entries.put key (.value value)) else none
  | key :: path, value, entries =>
    match entries.find? key with
    | none =>
      (assignDotted true path value []).map fun inner => entries.put key (.table .dotted inner)
    | some (.table .header _) => none
    | some (.table origin inner) =>
      (assignDotted (origin = .dotted) path value inner).map fun inner =>
        entries.put key (.table origin inner)
    | some _ => none

/-- Assigns to a dotted key within the open table, which a path leads to. -/
def assign : (table path : List String) → Value → Entries → Option Entries
  | [], path, value, entries => assignDotted true path value entries
  | key :: table, path, value, entries =>
    match entries.find? key with
    | some (.table origin inner) =>
      (assign table path value inner).map fun inner => entries.put key (.table origin inner)
    | some (.tables (last :: before)) =>
      (assign table path value last).map fun last => entries.put key (.tables (last :: before))
    | _ => none

end Entries

/-! ### The finished value -/

mutual

def Item.toValue : Item → Value
  | .value value => value
  | .table _ entries => .object (entriesToValue entries)
  | .tables elements => .array (elementsToValue elements [])

def entriesToValue : List (String × Item) → List (String × Value)
  | [] => []
  | (key, item) :: rest => (key, item.toValue) :: entriesToValue rest

/-- The values of tables given from the last one on, put before further values. -/
def elementsToValue : List (List (String × Item)) → List Value → List Value
  | [], after => after
  | entries :: before, after =>
    elementsToValue before (.object (entriesToValue entries) :: after)

end

end NoteCards.Toml

import NoteCards.Json.Node

/-!
# Readers

A reader takes what it wants from a tree in the order of the text and stops at the first problem.
It is given the room it has: how many arrays and objects may still be entered, one within another.

A record is read from an object, whose unknown members are passed over, or from an array with the
fields in order. A field that is not given keeps its initial value, unless it is required.
-/

namespace NoteCards.Json

open NoteCards.Data NoteCards.Text

/-- How a value is taken from a tree, with room for so many levels. -/
abbrev Reader (α : Type) := (room : Nat) → Node → Except Error α

def fail {α : Type} (fault : Fault) : Except Error α :=
  .error (.fault fault)

def orFail {α : Type} : Except Fault α → Except Error α
  | .ok a => .ok a
  | .error fault => fail fault

/-- What a value is called where another one is wanted. -/
def Node.found : Node → Except Error Found
  | .null => .ok .null
  | .bool b => .ok (.boolean b)
  | .number text =>
    (orFail text.value).map fun
      | .integer n => .integer n
      | .float x => .number x
  | .string text => (orFail text.value).map .string
  | .array _ => .ok .sequence
  | .object _ => .ok .map
  | .broken read _ => fail read

def mismatch {α : Type} (node : Node) (wanted : String) : Except Error α :=
  match node.found with
  | .ok found => .error (.data (.wrongType found wanted))
  | .error e => .error e

/-! ### Passing over a value -/

mutual

/-- Passes over a value: all that counts is where it ends. -/
def skipNode : Node → Except Error Unit
  | .array items => skipItems items
  | .object members => skipMembers members
  | .broken _ skip => fail skip
  | .null | .bool _ | .number _ | .string _ => .ok ()

/-- Passes over the items of an array. -/
def skipItems : Items → Except Error Unit
  | .closed => .ok ()
  | .cut _ skip => fail skip
  | .item first rest =>
    match skipNode first with
    | .ok _ => skipItems rest
    | .error e => .error e

/-- Passes over the members of an object. -/
def skipMembers : Members → Except Error Unit
  | .closed => .ok ()
  | .cut _ skip => fail skip
  | .noKey _ => fail .keyNotString
  | .member _ value rest =>
    match skipNode value with
    | .ok _ => skipMembers rest
    | .error e => .error e

end

/-! ### Any value -/

def enter (room : Nat) : Except Error Nat :=
  if room ≤ 1 then fail .tooDeep else .ok (room - 1)

mutual

def readValue (room : Nat) : Node → Except Error Value
  | .null => .ok .null
  | .bool b => .ok (.bool b)
  | .number text =>
    (orFail text.value).map fun
      | .integer n => .integer n
      | .float x => .number x
  | .string text => (orFail text.value).map .string
  | .array items => do return .array (← readItems (← enter room) items)
  | .object members => do return .object (← readMembers (← enter room) members)
  | .broken read _ => fail read

def readItems (room : Nat) : Items → Except Error (List Value)
  | .closed => .ok []
  | .cut read _ => fail read
  | .item first rest => do return (← readValue room first) :: (← readItems room rest)

def readMembers (room : Nat) : Members → Except Error (List (String × Value))
  | .closed => .ok []
  | .cut read _ => fail read
  | .noKey _ => fail .keyNotString
  | .member key value rest => do
    let name ← orFail key.value
    return (name, ← readValue room value) :: (← readMembers room rest)

end

/-! ### Values of one sort -/

def readString : Reader String := fun _ node =>
  match node with
  | .string text => orFail text.value
  | other => mismatch other "a string"

def readBool : Reader Bool := fun _ node =>
  match node with
  | .bool b => .ok b
  | other => mismatch other "a boolean"

/-- Reads a number; whole numbers are rounded if they have to be. -/
def readFloat : Reader Binary64 := fun _ node =>
  match node with
  | .number text =>
    (orFail text.value).map fun
      | .integer n => .ofInt n
      | .float x => x
  | other => mismatch other "f64"

def readNat (limit : Nat) (wanted : String) : Reader Nat := fun _ node =>
  match node with
  | .number text =>
    match orFail text.value with
    | .error e => .error e
    | .ok (.integer n) =>
      if 0 ≤ n ∧ n ≤ limit then .ok n.toNat
      else .error (.data (.wrongValue (.integer n) wanted))
    | .ok (.float x) => .error (.data (.wrongType (.number x) wanted))
  | other => mismatch other wanted

def readWord32 : Reader UInt32 := fun room node =>
  (readNat (UInt32.size - 1) "u32" room node).map .ofNat

def readWord64 : Reader UInt64 := fun room node =>
  (readNat (UInt64.size - 1) "u64" room node).map .ofNat

/-- Reads a value that may be `null`. -/
def readOptional {α : Type} (reader : Reader α) : Reader (Option α) := fun room node =>
  match node with
  | .null => .ok none
  | other => (reader room other).map some

def readEach {α : Type} (reader : Reader α) (room : Nat) : Items → Except Error (List α)
  | .closed => .ok []
  | .cut read _ => fail read
  | .item first rest => do return (← reader room first) :: (← readEach reader room rest)

def readList {α : Type} (reader : Reader α) : Reader (List α) := fun room node =>
  match node with
  | .array items => do readEach reader (← enter room) items
  | other => mismatch other "a sequence"

/-! ### Records -/

/-- A field of a record: its name, whether it has to be given, and how it is read. -/
structure FieldShape (R : Type) where
  name : String
  required : Bool
  read : R → Reader R

/-- A record: its name, its fields in order, and the record in which no field is given yet. -/
structure RecordShape (R : Type) where
  name : String
  fields : List (FieldShape R)
  initial : R

namespace RecordShape

variable {R : Type}

/-- How a record is named where another value stands. -/
def wanted (shape : RecordShape R) : String := "struct " ++ shape.name

/-- The length that an array in place of a record should have. -/
def wantedLength (shape : RecordShape R) : String :=
  shape.wanted ++ " with " ++ toString shape.fields.length ++ " elements"

/-- The record, if each required field was among the given ones. -/
def complete (shape : RecordShape R) (given : List String) (record : R) : Except Error R :=
  match shape.fields.find? fun field => field.required && !given.contains field.name with
  | none => .ok record
  | some missing => .error (.data (.missingField missing.name))

/-- Reads further members into a record of which some fields are given. -/
def readMembers (shape : RecordShape R) (room : Nat) (given : List String) (record : R) :
    Members → Except Error R
  | .closed => shape.complete given record
  | .cut read _ => fail read
  | .noKey _ => fail .keyNotString
  | .member key value rest => do
    let name ← orFail key.value
    match shape.fields.find? (·.name = name) with
    | none =>
      skipNode value
      shape.readMembers room given record rest
    | some field =>
      if given.contains name then .error (.data (.duplicateField name))
      else
        let next ← field.read record room value
        shape.readMembers room (name :: given) next rest

def afterLast : Items → Except Error Unit
  | .closed => .ok ()
  | .item _ _ => fail .trailingCharacters
  | .cut .expectedListSeparator _ => fail .trailingCharacters
  | .cut read _ => fail read

/-- Reads the remaining fields, the first of which is at `index`, from the remaining items. -/
def readFields (shape : RecordShape R) (room index : Nat) (record : R) :
    List (FieldShape R) → Items → Except Error R
  | [], items => (afterLast items).map fun _ => record
  | field :: fields, .item first rest => do
    let next ← field.read record room first
    shape.readFields room (index + 1) next fields rest
  | field :: fields, .closed =>
    if field.required then .error (.data (.wrongLength index shape.wantedLength))
    else shape.readFields room (index + 1) record fields .closed
  | _ :: _, .cut read _ => fail read

def read (shape : RecordShape R) : Reader R := fun room node =>
  match node with
  | .object members => do shape.readMembers (← enter room) [] shape.initial members
  | .array items => do shape.readFields (← enter room) 0 shape.initial shape.fields items
  | other => mismatch other shape.wanted

/-- A field that has to be given. -/
def requiredField {α : Type} (name : String) (reader : Reader α) (put : R → α → R) :
    FieldShape R :=
  ⟨name, true, fun record room node => (reader room node).map (put record)⟩

/-- A field that may be left out. -/
def optionalField {α : Type} (name : String) (reader : Reader α) (put : R → α → R) :
    FieldShape R :=
  ⟨name, false, fun record room node => (reader room node).map (put record)⟩

end RecordShape

/-! ### Texts -/

/-- How many arrays and objects may stand one within another, and one more. -/
def fullRoom : Nat := 128

/-- Reads a text that holds one value and nothing after it but white space. -/
def readText {α : Type} (reader : Reader α) (s : Source) : Except Error α :=
  let (node, rest) := Node.ofSource s
  match reader fullRoom node with
  | .error e => .error e
  | .ok a =>
    match rest with
    | none => fail .endOfValue
    | some after => if (skipSpace after).isEmpty then .ok a else fail .trailingCharacters

end NoteCards.Json

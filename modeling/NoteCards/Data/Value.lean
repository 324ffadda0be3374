import NoteCards.Binary64.Basic

/-!
# Values of structured data

The values that notes carry in their front matter, that records are written as, and that
configuration files hold. Whole numbers and fractions are kept apart; a table keeps its entries in
order, and of two entries of one key the later one counts.
-/

namespace NoteCards.Data

inductive Value where
  | null
  | bool (value : Bool)
  | integer (value : Int)
  | number (value : Binary64)
  | string (value : String)
  | array (items : List Value)
  | object (entries : List (String × Value))
  deriving Inhabited

namespace Value

/-- The last entry of a key in a list of entries. -/
def lookup? (key : String) : List (String × Value) → Option Value
  | [] => none
  | (name, value) :: rest =>
    match lookup? key rest with
    | some later => some later
    | none => if name = key then some value else none

/-- The value under a key, if the value is an object with that key. -/
def get? (key : String) : Value → Option Value
  | .object entries => lookup? key entries
  | _ => none

def string? : Value → Option String
  | .string s => some s
  | _ => none

/-! ### Equality -/

mutual

/-- Whether two values are the same. -/
def same : Value → Value → Bool
  | .null, .null => true
  | .bool a, .bool b => a = b
  | .integer a, .integer b => a = b
  | .number a, .number b => a = b
  | .string a, .string b => a = b
  | .array items, .array others => sameItems items others
  | .object entries, .object others => sameEntries entries others
  | _, _ => false

def sameItems : List Value → List Value → Bool
  | [], [] => true
  | item :: rest, other :: others => same item other && sameItems rest others
  | _, _ => false

def sameEntries : List (String × Value) → List (String × Value) → Bool
  | [], [] => true
  | (key, value) :: rest, (name, other) :: others =>
    key = name && same value other && sameEntries rest others
  | _, _ => false

end

mutual

theorem same_iff : (value other : Value) → (same value other = true ↔ value = other)
  | .array items, other => by
    cases other with
    | array others => rw [same, sameItems_iff items others, array.injEq]
    | _ => simp [same]
  | .object entries, other => by
    cases other with
    | object others => rw [same, sameEntries_iff entries others, object.injEq]
    | _ => simp [same]
  | .null, other => by cases other <;> simp [same]
  | .bool _, other => by cases other <;> simp [same]
  | .integer _, other => by cases other <;> simp [same]
  | .number _, other => by cases other <;> simp [same]
  | .string _, other => by cases other <;> simp [same]

theorem sameItems_iff : (items others : List Value) →
    (sameItems items others = true ↔ items = others)
  | [], others => by cases others <;> simp [sameItems]
  | _ :: _, [] => by simp [sameItems]
  | item :: rest, other :: others => by
    rw [sameItems, Bool.and_eq_true, same_iff item other, sameItems_iff rest others,
      List.cons.injEq]

theorem sameEntries_iff : (entries others : List (String × Value)) →
    (sameEntries entries others = true ↔ entries = others)
  | [], others => by cases others <;> simp [sameEntries]
  | _ :: _, [] => by simp [sameEntries]
  | (key, value) :: rest, (name, other) :: others => by
    rw [sameEntries, Bool.and_eq_true, Bool.and_eq_true, decide_eq_true_iff, same_iff value other,
      sameEntries_iff rest others, List.cons.injEq, Prod.mk.injEq]

end

instance : DecidableEq Value := fun value other =>
  decidable_of_iff _ (same_iff value other)

end Value

end NoteCards.Data

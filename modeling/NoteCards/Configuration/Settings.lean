import NoteCards.Binary64.Reading
import NoteCards.Configuration.Layer
import NoteCards.Settings.Basic
import NoteCards.Text.Lowercase

/-!
# Settings in a configuration

Settings are read from a configuration leniently: a number may be given as a whole number, as a
truth value or as a text, and a truth value as a number or a text. A record may be given as a table
or as an array of its fields in order. Unknown entries and surplus items are passed over.
-/

namespace NoteCards.Configuration

open NoteCards.Data NoteCards.Text

def wordTruth? (s : String) : Option Bool :=
  let word := lowercase s
  if word = "true" || word = "on" || word = "yes" then some true
  else if word = "false" || word = "off" || word = "no" then some false
  else none

def truthNumber (b : Bool) : Nat := if b then 1 else 0

def float? : Value → Option Binary64
  | .number x => some x
  | .integer n => some (.ofInt n)
  | .bool b => some (.ofNat (truthNumber b))
  | .string s =>
    match wordTruth? s with
    | some b => some (.ofNat (truthNumber b))
    | none => Binary64.ofChars? s.toList
  | _ => none

/-- The whole number that a text of digits stands for, with a plus sign or without. -/
def digitsNumber? (s : List Char) : Option Nat :=
  let digits := match s with
    | '+' :: rest => rest
    | rest => rest
  if digits.isEmpty || !digits.all Char.isDigit then none else some (ofDigits 10 digits)

/-- A whole number of 32 bits. Other numbers are rounded, halves away from zero. -/
def word32? (value : Value) : Option UInt32 :=
  let number := match value with
    | .integer n => if 0 ≤ n then some n.toNat else none
    | .number x => some (x.roundInto (UInt64.size - 1))
    | .bool b => some (truthNumber b)
    | .string s =>
      match wordTruth? s with
      | some b => some (truthNumber b)
      | none => digitsNumber? s.toList
    | _ => none
  number.bind fun n => if n < UInt32.size then some (.ofNat n) else none

/-- A truth value; a number is true unless it is zero. -/
def bool? : Value → Option Bool
  | .bool b => some b
  | .integer n => some (n ≠ 0)
  | .number x => some (!x.sameValue 0)
  | .string s => if s = "1" then some true else if s = "0" then some false else wordTruth? s
  | _ => none

/-- The value of a field: that under its name in a table, or that at its place in an array. -/
def fieldAt? (name : String) (place : Nat) : Value → Option Value
  | .object entries => Value.lookup? name entries
  | .array items => items[place]?
  | _ => none

/-- A field that is read where it is given and keeps its initial value where it is not. -/
def fieldOr {α : Type} (read : Value → Option α) (record : Value) (name : String) (place : Nat)
    (initial : α) : Option α :=
  match fieldAt? name place record with
  | some value => read value
  | none => some initial

def isRecord : Value → Bool
  | .object _ | .array _ => true
  | _ => false

def display? (record : Value) : Option Display := do
  if !isRecord record then none
  let initial : Display := {}
  return {
    cardWidth := ← fieldOr float? record "card_width" 0 initial.cardWidth
    cardHeight := ← fieldOr float? record "card_height" 1 initial.cardHeight
    fontSize := ← fieldOr float? record "font_size" 2 initial.fontSize
    excerptLines := ← fieldOr word32? record "excerpt_lines" 3 initial.excerptLines
    showTags := ← fieldOr bool? record "show_tags" 4 initial.showTags
    showArrows := ← fieldOr bool? record "show_arrows" 5 initial.showArrows }

def forces? (record : Value) : Option Forces := do
  if !isRecord record then none
  let initial : Forces := {}
  return {
    repelForce := ← fieldOr float? record "repel_force" 0 initial.repelForce
    linkForce := ← fieldOr float? record "link_force" 1 initial.linkForce
    linkDistance := ← fieldOr float? record "link_distance" 2 initial.linkDistance
    centerForce := ← fieldOr float? record "center_force" 3 initial.centerForce }

def settings? (configuration : Value) : Option Settings := do
  let initial : Settings := {}
  return {
    display := ← fieldOr display? configuration "display" 0 initial.display
    forces := ← fieldOr forces? configuration "forces" 1 initial.forces }

/-- The layer that the initial settings make up, below every other one. -/
def initialLayer : List (String × Value) :=
  [("display", .object [
      ("card_width", .number 240),
      ("card_height", .number 160),
      ("font_size", .number 14),
      ("excerpt_lines", .integer 3),
      ("show_tags", .bool true),
      ("show_arrows", .bool true)]),
    ("forces", .object [
      ("repel_force", .number 10),
      ("link_force", .number 1),
      ("link_distance", .number 250),
      ("center_force", .number 0.5)])]

def settingsOver? (layer : List (String × Value)) : Option Settings :=
  settings? (overlay layer (.object initialLayer))

end NoteCards.Configuration

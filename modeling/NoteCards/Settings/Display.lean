import NoteCards.Settings.Field

/-!
# Display settings

How a card is drawn. The lines of the excerpt are a whole number: assigning a number rounds it, a
half away from zero, and pulls it into the numbers of 32 bits.
-/

namespace NoteCards

/-- How cards are drawn. -/
structure Display where
  cardWidth : Binary64 := 240
  cardHeight : Binary64 := 160
  fontSize : Binary64 := 14
  excerptLines : UInt32 := 3
  showTags : Bool := true
  showArrows : Bool := true
  deriving DecidableEq, Repr

instance : Inhabited Display := ⟨{}⟩

inductive DisplayField where
  | cardWidth
  | cardHeight
  | fontSize
  | excerptLines
  | showTags
  | showArrows
  deriving DecidableEq, Repr

namespace DisplayField

def name : DisplayField → String
  | .cardWidth => "card_width"
  | .cardHeight => "card_height"
  | .fontSize => "font_size"
  | .excerptLines => "excerpt_lines"
  | .showTags => "show_tags"
  | .showArrows => "show_arrows"

instance : SettingsField DisplayField where
  all := [.cardWidth, .cardHeight, .fontSize, .excerptLines, .showTags, .showArrows]
  name := name
  table := [
    ("card_width", .cardWidth),
    ("card_height", .cardHeight),
    ("font_size", .fontSize),
    ("excerpt_lines", .excerptLines),
    ("show_tags", .showTags),
    ("show_arrows", .showArrows)]
  initial
    | .cardWidth => .number 240
    | .cardHeight => .number 160
    | .fontSize => .number 14
    | .excerptLines => .number 3
    | .showTags => .toggle true
    | .showArrows => .toggle true
  range?
    | .cardWidth => some ⟨120, 480⟩
    | .cardHeight => some ⟨80, 400⟩
    | .fontSize => some ⟨10, 24⟩
    | .excerptLines => some ⟨0, 10⟩
    | .showTags => none
    | .showArrows => none

end DisplayField

namespace Display

open SettingsField

def get (display : Display) : DisplayField → Setting
  | .cardWidth => .number display.cardWidth
  | .cardHeight => .number display.cardHeight
  | .fontSize => .number display.fontSize
  | .excerptLines => .number (.ofNat display.excerptLines.toNat)
  | .showTags => .toggle display.showTags
  | .showArrows => .toggle display.showArrows

def set (display : Display) (field : DisplayField) (value : Setting) : Edited Display :=
  let number := Edited.store display (value.number? field.name)
  let toggle := Edited.store display (value.toggle? field.name)
  match field with
  | .cardWidth => number fun x => { display with cardWidth := x }
  | .cardHeight => number fun x => { display with cardHeight := x }
  | .fontSize => number fun x => { display with fontSize := x }
  | .excerptLines => number fun x =>
      { display with excerptLines := .ofNat (x.roundInto (UInt32.size - 1)) }
  | .showTags => toggle fun b => { display with showTags := b }
  | .showArrows => toggle fun b => { display with showArrows := b }

def reset (display : Display) : DisplayField → Display
  | .cardWidth => { display with cardWidth := 240 }
  | .cardHeight => { display with cardHeight := 160 }
  | .fontSize => { display with fontSize := 14 }
  | .excerptLines => { display with excerptLines := 3 }
  | .showTags => { display with showTags := true }
  | .showArrows => { display with showArrows := true }

def clamped (display : Display) : Display :=
  let lines := pullIn DisplayField.excerptLines (.ofNat display.excerptLines.toNat)
  { display with
    cardWidth := pullIn DisplayField.cardWidth display.cardWidth
    cardHeight := pullIn DisplayField.cardHeight display.cardHeight
    fontSize := pullIn DisplayField.fontSize display.fontSize
    excerptLines := .ofNat (lines.truncateInto (UInt32.size - 1)) }

instance : SettingsRecord Display DisplayField where
  get := get
  set := set
  reset := reset
  clamped := clamped

def sameValues (a b : Display) : Bool :=
  a.cardWidth.sameValue b.cardWidth && a.cardHeight.sameValue b.cardHeight &&
    a.fontSize.sameValue b.fontSize && a.excerptLines == b.excerptLines &&
    a.showTags == b.showTags && a.showArrows == b.showArrows

end Display

end NoteCards

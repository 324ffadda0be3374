import NoteCards.Proofs.Binary64.Order
import NoteCards.Proofs.Settings.Fields

/-!
# Settings pulled into their ranges

Pulling a record into its ranges pulls every number of it into the range of its field and changes
nothing else (`LawfulClamping`); the lines of the excerpt stay a whole number, for the bounds of
their range are whole. A field then holds a number of its range unless it held what is not a number
(`inRange_clamped_iff`), which every comparison lets through. Numbers of their range stay as they
are (`get_clamped_eq_iff`).
-/

namespace NoteCards

open SettingsField

namespace Range

variable {range : Range} {x : Binary64}

theorem contains_clamp_iff (hbounds : range.low.le range.high = true) :
    range.contains (range.clamp x) = true ↔ x ≠ .nan := by
  obtain ⟨low, high, hlow, hhigh, hle⟩ := Binary64.le_iff.1 hbounds
  constructor
  · rintro hcontains rfl
    rw [clamp, Binary64.clamp_nan, contains, Bool.and_eq_true] at hcontains
    exact Bool.false_ne_true hcontains.2
  · intro hx
    obtain ⟨place, hplace⟩ := Binary64.exists_key? hx
    have hpulled := Binary64.key?_clamp hlow hhigh hle hplace
    rw [contains, clamp, Binary64.le_of_key? hlow hpulled, Binary64.le_of_key? hpulled hhigh,
      Bool.and_eq_true, decide_eq_true_eq, decide_eq_true_eq]
    omega

theorem clamp_of_contains (hx : range.contains x = true) : range.clamp x = x := by
  obtain ⟨hlow, hhigh⟩ := Bool.and_eq_true_iff.1 hx
  obtain ⟨a, place, ha, hplace, hbelow⟩ := Binary64.le_iff.1 hlow
  obtain ⟨place', b, hplace', hb, habove⟩ := Binary64.le_iff.1 hhigh
  cases hplace.symm.trans hplace'
  rw [clamp, Binary64.clamp, Binary64.lt_of_key? hplace ha, Binary64.lt_of_key? hb hplace,
    if_neg (by simpa using hbelow), if_neg (by simpa using habove)]

theorem clamp_eq_self_iff (hbounds : range.low.le range.high = true) :
    range.clamp x = x ↔ range.contains x = true ∨ x = .nan := by
  constructor
  · intro hsame
    by_cases hx : x = .nan
    · exact .inr hx
    · have hcontains := (contains_clamp_iff hbounds).2 hx
      rw [hsame] at hcontains
      exact .inl hcontains
  · rintro (hcontains | rfl)
    · exact clamp_of_contains hcontains
    · exact Binary64.clamp_nan

end Range

def Setting.mapNumber (change : Binary64 → Binary64) : Setting → Setting
  | .number x => .number (change x)
  | .toggle b => .toggle b

/-- The laws of pulling a record into its ranges. -/
class LawfulClamping (R : Type) (F : outParam Type) [SettingsRecord R F] : Prop where
  low_le_high (field : F) :
    ((range? field).all fun range => range.low.le range.high) = true
  kind_get (record : R) (field : F) :
    (SettingsRecord.get record field).kind = .number ↔ (range? field).isSome
  get_clamped (record : R) (field : F) :
    SettingsRecord.get (SettingsRecord.clamped record) field =
      (SettingsRecord.get record field).mapNumber (pullIn field)

/-- The field holds a number of its range; nothing is asked of a field without a range. -/
def SettingsRecord.InRange {R F : Type} [SettingsRecord R F] (record : R) (field : F) : Prop :=
  ∀ range, range? field = some range → ∃ x, get record field = .number x ∧ range.contains x = true

section Clamping

variable {R F : Type} [SettingsRecord R F] {record : R} {field : F} {range : Range} {x : Binary64}

theorem pullIn_eq_clamp (hrange : range? field = some range) : pullIn field x = range.clamp x := by
  rw [pullIn, hrange]

theorem inRange_iff (hx : SettingsRecord.get record field = .number x)
    (hrange : range? field = some range) :
    SettingsRecord.InRange record field ↔ range.contains x = true := by
  rw [SettingsRecord.InRange, hx, hrange]
  simp

theorem inRange_of_range?_eq_none (hnone : range? field = none) :
    SettingsRecord.InRange record field := by
  intro range hrange
  exact nomatch hnone.symm.trans hrange

variable [LawfulClamping R F] (record field)

theorem exists_number_or_toggle :
    (∃ x range, SettingsRecord.get record field = .number x ∧ range? field = some range ∧
        range.low.le range.high = true) ∨
      ∃ b, SettingsRecord.get record field = .toggle b ∧ range? field = none := by
  have hkind := LawfulClamping.kind_get record field
  have hbounds := LawfulClamping.low_le_high (R := R) field
  cases hvalue : SettingsRecord.get record field with
  | number x =>
    rw [hvalue] at hkind
    obtain ⟨range, hrange⟩ := Option.isSome_iff_exists.1 (hkind.1 rfl)
    rw [hrange] at hbounds
    exact .inl ⟨x, range, rfl, hrange, hbounds⟩
  | toggle b =>
    rw [hvalue] at hkind
    exact .inr ⟨b, rfl, Option.not_isSome_iff_eq_none.1 fun hsome => nomatch hkind.2 hsome⟩

theorem inRange_clamped_iff :
    SettingsRecord.InRange (SettingsRecord.clamped record) field ↔
      SettingsRecord.get record field ≠ .number .nan := by
  rcases exists_number_or_toggle record field with
    ⟨x, range, hx, hrange, hbounds⟩ | ⟨b, hb, hnone⟩
  · have hpulled : SettingsRecord.get (SettingsRecord.clamped record) field =
        .number (range.clamp x) := by
      rw [LawfulClamping.get_clamped, hx, Setting.mapNumber, pullIn_eq_clamp hrange]
    rw [inRange_iff hpulled hrange, Range.contains_clamp_iff hbounds, hx, ne_eq, ne_eq,
      Setting.number.injEq]
  · rw [hb]
    exact iff_of_true (inRange_of_range?_eq_none hnone) nofun

theorem get_clamped_eq_iff :
    SettingsRecord.get (SettingsRecord.clamped record) field = SettingsRecord.get record field ↔
      SettingsRecord.InRange record field ∨ SettingsRecord.get record field = .number .nan := by
  rw [LawfulClamping.get_clamped]
  rcases exists_number_or_toggle record field with
    ⟨x, range, hx, hrange, hbounds⟩ | ⟨b, hb, hnone⟩
  · rw [inRange_iff hx hrange, hx, Setting.mapNumber, Setting.number.injEq, Setting.number.injEq,
      pullIn_eq_clamp hrange, Range.clamp_eq_self_iff hbounds]
  · rw [hb]
    exact iff_of_true rfl (.inl (inRange_of_range?_eq_none hnone))

end Clamping

/-! ### Displays -/

namespace Display

theorem pullIn_excerptLines (lines : UInt32) :
    pullIn DisplayField.excerptLines (.ofNat lines.toNat) = .ofNat (min lines.toNat 10) := by
  have hlines := lines.toNat_lt
  -- the bounds of the range are numerals, and so whole numbers
  have hnumeral : ∀ n : Nat, (OfNat.ofNat n : Binary64) = .ofNat n := fun _ => rfl
  have hpull : ∀ x, pullIn DisplayField.excerptLines x = Binary64.clamp 0 10 x := fun _ => rfl
  rw [hpull, hnumeral 0, hnumeral 10, Binary64.clamp, Binary64.lt_ofNat (by omega) (by omega),
    Binary64.lt_ofNat (by omega) (by omega), if_neg (by simp)]
  by_cases habove : 10 < lines.toNat
  · rw [if_pos (by simpa using habove), Nat.min_eq_right (by omega)]
  · rw [if_neg (by simpa using habove), Nat.min_eq_left (by omega)]

theorem toNat_excerptLines_clamped (display : Display) :
    display.clamped.excerptLines.toNat = min display.excerptLines.toNat 10 := by
  have hsize : UInt32.size = 2 ^ 32 := rfl
  have hlines := display.excerptLines.toNat_lt
  simp only [clamped, pullIn_excerptLines]
  rw [Binary64.truncateInto_ofNat (by omega), UInt32.toNat_ofNat_of_lt' (by omega)]
  omega

theorem get_clamped (display : Display) (field : DisplayField) :
    display.clamped.get field = (display.get field).mapNumber (pullIn field) := by
  cases field with
  | excerptLines =>
    simp only [get, Setting.mapNumber]
    rw [toNat_excerptLines_clamped, pullIn_excerptLines]
  | _ => rfl

instance : LawfulClamping Display DisplayField where
  low_le_high field := by cases field <;> decide +kernel
  kind_get display field := by
    cases field with
    | showTags | showArrows => exact iff_of_false nofun Bool.false_ne_true
    | _ => exact iff_of_true rfl rfl
  get_clamped := get_clamped

end Display

/-! ### Forces -/

instance : LawfulClamping Forces ForceField where
  low_le_high field := by cases field <;> decide +kernel
  kind_get _ field := by cases field <;> exact iff_of_true rfl rfl
  get_clamped _ field := by cases field <;> rfl

end NoteCards

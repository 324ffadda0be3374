import NoteCards.Proofs.Settings.Clamp
import NoteCards.Proofs.Settings.Edits
import NoteCards.Proofs.Settings.Lenses

/-!
# Edits of settings in their ranges

Pulling settings into their ranges and editing them can change places, if the value of the edit is
pulled into the range of its field too. A field that keeps a value as it is pulls it in the same way
before and after. The lines of an excerpt are rounded when they are stored, so there a value is
pulled in and then rounded, or rounded and then pulled in, and the two agree because the bounds of
the range are whole numbers (`LawfulPulling`). All else is read off what an edit does to every
field, one edit after the other.
-/

namespace NoteCards

open SettingsField

/-! ### One record -/

theorem Setting.kind_mapNumber (value : Setting) (change : Binary64 → Binary64) :
    (value.mapNumber change).kind = value.kind := by
  cases value <;> rfl

/-- A value can be pulled in before or after a field makes it its own, and the initial value is in
the range of its field. -/
class LawfulPulling (R : Type) (F : outParam Type) [DecidableEq F] [SettingsRecord R F]
    [LawfulSettings R F] : Prop where
  kept_pullIn (field : F) (value : Setting) :
    LawfulSettings.kept R field (value.mapNumber (pullIn field)) =
      (LawfulSettings.kept R field value).mapNumber (pullIn field)
  pullIn_initial (field : F) : (initial field).mapNumber (pullIn field) = initial field

namespace SettingsRecord

variable {R F : Type} [DecidableEq F] [SettingsRecord R F] [LawfulClamping R F]
  [LawfulSettings R F]

theorem clamped_clamped (record : R) : clamped (clamped record) = clamped record := by
  apply LawfulSettings.ext
  intro field
  rw [get_clamped_eq_iff]
  by_cases hnan : get record field = .number .nan
  · have hkept := (get_clamped_eq_iff record field).2 (.inr hnan)
    exact .inr (hkept.trans hnan)
  · exact .inl ((inRange_clamped_iff record field).2 hnan)

theorem clamped_reset [LawfulPulling R F] (record : R) (field : F) :
    clamped (reset record field) = reset (clamped record) field := by
  apply LawfulSettings.ext
  intro other
  rw [LawfulClamping.get_clamped, LawfulSettings.get_reset, LawfulSettings.get_reset]
  by_cases hfield : other = field
  · rw [if_pos hfield, if_pos hfield, hfield, LawfulPulling.pullIn_initial (R := R)]
  · rw [if_neg hfield, if_neg hfield, LawfulClamping.get_clamped]

variable [LawfulValues R F]

/-- A value of the other kind is not changed by the range of the field. -/
theorem mapNumber_pullIn_of_kind_ne (record : R) {field : F} {value : Setting}
    (hkind : value.kind ≠ kind field) : value.mapNumber (pullIn field) = value := by
  have hrange := LawfulClamping.kind_get record field
  rw [LawfulValues.kind_get] at hrange
  cases value with
  | number x =>
    have hnone : range? field = none :=
      Option.not_isSome_iff_eq_none.1 fun hsome => hkind (hrange.2 hsome).symm
    rw [Setting.mapNumber, pullIn, hnone]
  | toggle b => rfl

variable [LawfulPulling R F]

theorem set_clamped (record : R) (field : F) (value : Setting) :
    set (clamped record) field (value.mapNumber (pullIn field)) =
      (set record field value).map id clamped := by
  by_cases hkind : value.kind = kind field
  · obtain ⟨changed, hset, hget⟩ := LawfulSettings.set_ok record field value hkind
    have hpulled : (value.mapNumber (pullIn field)).kind = kind field := by
      rw [Setting.kind_mapNumber, hkind]
    rw [hset]
    apply LawfulSettings.set_eq_ok hpulled
    intro other
    rw [LawfulClamping.get_clamped, hget]
    by_cases hfield : other = field
    · rw [if_pos hfield, if_pos hfield, hfield, LawfulPulling.kept_pullIn]
    · rw [if_neg hfield, if_neg hfield, LawfulClamping.get_clamped]
  · rw [mapNumber_pullIn_of_kind_ne record hkind, LawfulSettings.set_error record field value hkind,
      LawfulSettings.set_error _ field value hkind]
    rfl

end SettingsRecord

/-! ### The two records -/

theorem Display.pullIn_excerptLines_number (x : Binary64) :
    Display.kept .excerptLines (.number (pullIn DisplayField.excerptLines x)) =
      .number (pullIn DisplayField.excerptLines (.ofNat (x.nearestCount (2 ^ 32 - 1)))) := by
  -- the bounds of the range are numerals, and so whole numbers
  have hnumeral : ∀ n : Nat, (OfNat.ofNat n : Binary64) = .ofNat n := fun _ => rfl
  have hpull : pullIn DisplayField.excerptLines x = Binary64.clamp 0 10 x := rfl
  have hcount : (Binary64.clamp (.ofNat 0) (.ofNat 10) x).nearestCount (2 ^ 32 - 1) =
      min (x.nearestCount (2 ^ 32 - 1)) 10 := by
    rw [← Binary64.roundInto_eq_nearestCount, ← Binary64.roundInto_eq_nearestCount]
    exact Binary64.roundInto_clamp (by decide) (by decide)
  rw [hpull, hnumeral 0, hnumeral 10, Display.kept, hcount, ← Display.toNat_ofNat_roundInto,
    Display.pullIn_excerptLines]

theorem Display.kept_pullIn (field : DisplayField) (value : Setting) :
    Display.kept field (value.mapNumber (pullIn field)) =
      (Display.kept field value).mapNumber (pullIn field) := by
  match field, value with
  | .excerptLines, .number x => exact pullIn_excerptLines_number x
  | .excerptLines, .toggle _ => rfl
  | .cardWidth, _ | .cardHeight, _ | .fontSize, _ | .showTags, _ | .showArrows, _ => rfl

instance : LawfulPulling Display DisplayField where
  kept_pullIn := Display.kept_pullIn
  pullIn_initial field := by cases field <;> decide +kernel

instance : LawfulPulling Forces ForceField where
  kept_pullIn _ _ := rfl
  pullIn_initial field := by cases field <;> decide +kernel

/-! ### Edits and runs -/

namespace FieldEdit

variable {F : Type}

/-- The edit with its value pulled into the range of the field that it names. -/
def pulledIn [SettingsField F] : FieldEdit F → FieldEdit F
  | .set field value => .set field (value.mapNumber (pullIn field))
  | .setNamed given value =>
    match ofName? given with
    | .ok (field : F) => .setNamed given (value.mapNumber (pullIn field))
    | .error _ => .setNamed given value
  | .reset field => .reset field
  | .resetNamed given => .resetNamed given

theorem apply_clamped {R : Type} [DecidableEq F] [SettingsRecord R F] [LawfulClamping R F]
    [LawfulSettings R F] [LawfulValues R F] [LawfulPulling R F] (edit : FieldEdit F) (record : R) :
    edit.pulledIn.apply (SettingsRecord.clamped record) =
      (edit.apply record).map id SettingsRecord.clamped := by
  have hreset : ∀ field : F, ((.ok (), SettingsRecord.reset (SettingsRecord.clamped record) field) :
      Edited R) = (.ok (), SettingsRecord.clamped (SettingsRecord.reset record field)) :=
    fun field => congrArg (Prod.mk _) (SettingsRecord.clamped_reset record field).symm
  cases edit with
  | set field value => exact SettingsRecord.set_clamped record field value
  | reset field => exact hreset field
  | setNamed given value =>
    rw [pulledIn]
    cases hname : (ofName? given : Except SettingsError F) with
    | ok field =>
      simp only [apply, SettingsRecord.setNamed, hname]
      exact SettingsRecord.set_clamped record field value
    | error e =>
      simp only [apply, SettingsRecord.setNamed, hname]
      rfl
  | resetNamed given =>
    rw [pulledIn, apply, apply, SettingsRecord.resetNamed, SettingsRecord.resetNamed]
    cases (ofName? given : Except SettingsError F) with
    | ok field => exact hreset field
    | error e => rfl

end FieldEdit

namespace Settings

/-- The operation with its value pulled into the range of the field that it names. -/
def Operation.pulledIn : Operation → Operation
  | .display edit => .display edit.pulledIn
  | .forces edit => .forces edit.pulledIn

/-- The field of one of the two records holds a number of its range, or a toggle. -/
def InRange (settings : Settings) : Slot → Prop
  | .inl field => SettingsRecord.InRange settings.display field
  | .inr field => SettingsRecord.InRange settings.forces field

theorem step_clamped (settings : Settings) (operation : Operation) :
    settings.clamped.step operation.pulledIn =
      ((settings.step operation).1, (settings.step operation).2.clamped) := by
  cases operation with
  | display edit =>
    exact congrArg settings.clamped.withDisplay (edit.apply_clamped settings.display)
  | forces edit =>
    exact congrArg settings.clamped.withForces (edit.apply_clamped settings.forces)

theorem run_clamped (operations : List Operation) (settings : Settings) :
    settings.clamped.run (operations.map Operation.pulledIn) =
      (settings.run operations).clamped := by
  induction operations generalizing settings with
  | nil => rfl
  | cons operation rest ih =>
    calc settings.clamped.run ((operation :: rest).map Operation.pulledIn)
        = (settings.clamped.step operation.pulledIn).2.run (rest.map Operation.pulledIn) := rfl
      _ = (settings.step operation).2.clamped.run (rest.map Operation.pulledIn) := by
        rw [step_clamped]
      _ = (settings.run (operation :: rest)).clamped := ih (settings.step operation).2

theorem clamped_clamped (settings : Settings) : settings.clamped.clamped = settings.clamped := by
  have hdisplay := SettingsRecord.clamped_clamped settings.display
  have hforces := SettingsRecord.clamped_clamped settings.forces
  exact congrArg₂ Settings.mk hdisplay hforces

theorem holds_clamped_iff (settings : Settings) (slot : Slot) :
    settings.clamped.holds slot = settings.holds slot ↔
      settings.InRange slot ∨ settings.holds slot = .number .nan := by
  cases slot with
  | inl field => exact get_clamped_eq_iff settings.display field
  | inr field => exact get_clamped_eq_iff settings.forces field

/-- **Editing and pulling in.** Settings can be edited and then pulled into their ranges, or pulled
in first and then edited with a value that is pulled into the range of its field: an edit fails with
the same error either way, for its name or for the kind of its value and for nothing else, or has
the same result, and so have runs of edits. Pulling in twice is pulling in once, and it leaves the
fields that hold a toggle, NaN or a number of their range, and no others. Numbers are the same when
their bits are, but for NaN, which is one number here. -/
theorem clamped_commutes_with_edits (settings : Settings) :
    (∀ operation, settings.clamped.step operation.pulledIn =
        ((settings.step operation).1, (settings.step operation).2.clamped)) ∧
      (∀ operation e, (settings.step operation).1 = .error e ↔ operation.FailsWith e) ∧
      (∀ operations, settings.clamped.run (operations.map Operation.pulledIn) =
        (settings.run operations).clamped) ∧
      settings.clamped.clamped = settings.clamped ∧
      ∀ slot, settings.clamped.holds slot = settings.holds slot ↔
        settings.InRange slot ∨ settings.holds slot = .number .nan :=
  ⟨settings.step_clamped, fun _ _ => step_error_iff,
    fun operations => run_clamped operations settings, settings.clamped_clamped,
    settings.holds_clamped_iff⟩

end Settings

end NoteCards

import NoteCards.Proofs.Settings.Fields

/-!
# Fields as lenses

A field is a lens on its record, up to what the field keeps of a value: assigning what is read
changes nothing, what was assigned is read again as it is kept, of two assignments the later one
counts, and one that fails leaves the record (`IsLens`). Nothing of this has to be shown field by
field. What an assignment does to every field is known (`LawfulSettings`), and a record is no more
than what its fields hold, so two records are compared by reading them. The one law that is left is
that a field keeps what it holds (`LawfulValues`), and there the lines of an excerpt have to come
back from their view as a number.
-/

namespace NoteCards

open SettingsField

/-- The laws of a field as a lens on its record, where `kept` is what the field makes of a value. -/
structure IsLens (R : Type) {F : Type} [SettingsRecord R F] (field : F)
    (kept : Setting → Setting) : Prop where
  set_get (record : R) :
    SettingsRecord.set record field (SettingsRecord.get record field) = (.ok (), record)
  get_set (record : R) (value : Setting) (hkind : value.kind = kind field) :
    ∃ changed, SettingsRecord.set record field value = (.ok (), changed) ∧
      SettingsRecord.get changed field = kept value
  set_set (record : R) (first second : Setting) (hkind : second.kind = kind field) :
    SettingsRecord.set (SettingsRecord.set record field first).2 field second =
      SettingsRecord.set record field second
  set_error (record : R) (value : Setting) (hkind : value.kind ≠ kind field) :
    SettingsRecord.set record field value =
      (.error (.kindMismatch (name field) (kind field) value), record)
  set_initial (record : R) :
    SettingsRecord.set record field (initial field) = (.ok (), SettingsRecord.reset record field)

/-- What a field holds is of its kind, and is kept as it is. -/
class LawfulValues (R : Type) (F : outParam Type) [DecidableEq F] [SettingsRecord R F]
    [LawfulSettings R F] : Prop where
  kind_get (record : R) (field : F) : (SettingsRecord.get record field).kind = kind field
  kept_get (record : R) (field : F) :
    LawfulSettings.kept R field (SettingsRecord.get record field) =
      SettingsRecord.get record field

section Laws

variable {R F : Type} [DecidableEq F] [SettingsRecord R F] [LawfulSettings R F] [LawfulValues R F]

theorem kept_initial (record : R) (field : F) :
    LawfulSettings.kept R field (initial field) = initial field := by
  have hreset : SettingsRecord.get (SettingsRecord.reset record field) field = initial field := by
    rw [LawfulSettings.get_reset, if_pos rfl]
  have hkept := LawfulValues.kept_get (SettingsRecord.reset record field) field
  rwa [hreset] at hkept

variable (R) in
theorem isLens (field : F) : IsLens R field (LawfulSettings.kept R field) where
  set_get record := by
    apply LawfulSettings.set_eq_ok (LawfulValues.kind_get record field)
    intro other
    by_cases hfield : other = field
    · rw [if_pos hfield, hfield, LawfulValues.kept_get]
    · rw [if_neg hfield]
  get_set record value hkind := by
    obtain ⟨changed, hset, hget⟩ := LawfulSettings.set_ok record field value hkind
    refine ⟨changed, hset, ?_⟩
    rw [hget, if_pos rfl]
  set_set record first second hsecond := by
    by_cases hfirst : first.kind = kind field
    · obtain ⟨changed, hset, hchanged⟩ := LawfulSettings.set_ok record field first hfirst
      obtain ⟨result, hresult, hget⟩ := LawfulSettings.set_ok record field second hsecond
      rw [hset, hresult]
      apply LawfulSettings.set_eq_ok hsecond
      intro other
      rw [hget]
      -- the other fields are as the first assignment left them, and it left them alone
      by_cases hfield : other = field
      · rw [if_pos hfield, if_pos hfield]
      · rw [if_neg hfield, if_neg hfield, hchanged, if_neg hfield]
    · rw [LawfulSettings.set_error record field first hfirst]
  set_error record := LawfulSettings.set_error record field
  set_initial record := by
    apply LawfulSettings.set_eq_ok rfl
    intro other
    rw [LawfulSettings.get_reset, kept_initial record field]

end Laws

/-! ### The two records -/

theorem Display.kept_get (display : Display) (field : DisplayField) :
    Display.kept field (display.get field) = display.get field := by
  cases field with
  | excerptLines =>
    have hlines := display.excerptLines.toNat_lt
    have hcount : (Binary64.ofNat display.excerptLines.toNat).nearestCount (2 ^ 32 - 1) =
        display.excerptLines.toNat := by
      rw [← Binary64.roundInto_eq_nearestCount, Binary64.roundInto_ofNat (by omega)]
      omega
    rw [Display.get, Display.kept, hcount]
  | _ => rfl

instance : LawfulValues Display DisplayField where
  kind_get _ field := by
    cases field with
    | showTags | showArrows => exact (rfl : Kind.toggle = .toggle)
    | _ => exact (rfl : Kind.number = .number)
  kept_get := Display.kept_get

instance : LawfulValues Forces ForceField where
  kind_get _ field := by
    rw [Forces.kind_eq]
    cases field <;> rfl
  kept_get _ _ := rfl

/-- **Fields are lenses.** Every field of the two records obeys the laws of a lens, and assigning
its initial value restores it. All fields keep a value as it is but for the lines of an excerpt,
which keep the nearest whole number of 32 bits. Numbers are the same when their bits are, but for
NaN, which is one number here. -/
theorem fields_are_lenses :
    (∀ field, IsLens Display field (Display.kept field)) ∧ ∀ field, IsLens Forces field id :=
  ⟨isLens Display, isLens Forces⟩

/-- Six and a half lines are seven, NaN is no line, and a link of NaN is read as NaN. -/
theorem fields_are_lenses_lines :
    (∃ changed, Display.set {} .excerptLines (.number 6.5) = (.ok (), changed) ∧
        changed.get .excerptLines = .number 7) ∧
      (∃ changed, Display.set {} .excerptLines (.number .nan) = (.ok (), changed) ∧
        changed.get .excerptLines = .number 0) ∧
      ∃ changed, Forces.set {} .linkForce (.number .nan) = (.ok (), changed) ∧
        changed.get .linkForce = .number .nan := by
  obtain ⟨hdisplay, hforces⟩ := fields_are_lenses
  refine ⟨?_, ?_, ?_⟩
  · obtain ⟨changed, hset, hget⟩ := (hdisplay .excerptLines).get_set {} (.number 6.5) (by decide)
    exact ⟨changed, hset, hget.trans (by decide +kernel)⟩
  · obtain ⟨changed, hset, hget⟩ := (hdisplay .excerptLines).get_set {} (.number .nan) (by decide)
    exact ⟨changed, hset, hget.trans (by decide +kernel)⟩
  · exact (hforces .linkForce).get_set {} (.number .nan) (by decide)

end NoteCards

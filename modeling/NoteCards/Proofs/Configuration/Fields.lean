import NoteCards.Configuration.File
import NoteCards.Proofs.Configuration.Layer
import NoteCards.Proofs.Settings.Slots

/-!
# Fields in a configuration

A record is read field by field: a table reads as a record exactly when every field of the record
holds what is read under its name (`LawfulReading`). Above the initial layer, what is read for a
field depends on the values under its name only, so a layer reads as settings exactly when each of
their ten fields holds what the layer has for it (`settingsOver?_eq_some_iff`), and a field that the
layer leaves out holds its initial value (`Slot.settingIn?_of_valuesUnder_eq_nil`).
-/

namespace NoteCards.Configuration

open NoteCards.Data SettingsField Settings

/-- What a table has for a field. -/
def settingAt? {F : Type} [SettingsField F] (readField? : F → Value → Option Setting) (field : F)
    (entries : List (String × Value)) : Option Setting :=
  match Value.lookup? (name field) entries with
  | some value => readField? field value
  | none => some (initial field)

/-- The laws of a record that is read from a table field by field, the entries of the initial layer
being those that its fields hold at first. -/
class LawfulReading (R : Type) (F : outParam Type) [SettingsRecord R F] where
  read? : Value → Option R
  readField? : F → Value → Option Setting
  initialEntries : List (String × Value)
  nodup_initialEntries : (initialEntries.map Prod.fst).Nodup
  read_initial (field : F) :
    ∃ value, Value.lookup? (name field) initialEntries = some value ∧
      readField? field value = some (initial field)
  read?_object (entries : List (String × Value)) (record : R) :
    read? (.object entries) = some record ↔
      ∀ field, settingAt? readField? field entries = some (SettingsRecord.get record field)

open LawfulReading (initialEntries)

section Reading

variable {R F : Type} [SettingsRecord R F] [LawfulReading R F] {field : F}
  {table other : List (String × Value)}

variable (R) in
/-- What is read for a field where a table lies over the initial one. -/
def settingOver? (table : List (String × Value)) (field : F) : Option Setting :=
  settingAt? (LawfulReading.readField? R) field
    (mergeEntries table (initialEntries R))

theorem settingOver?_eq_of_lookup? {value : Value}
    (hvalue : Value.lookup? (name field) (mergeEntries table (initialEntries R)) =
      some value) :
    settingOver? R table field = LawfulReading.readField? R field value := by
  rw [settingOver?, settingAt?, hvalue]

theorem settingOver?_congr
    (hsame : valuesUnder (name field) table = valuesUnder (name field) other) :
    settingOver? R table field = settingOver? R other field := by
  rw [settingOver?, settingOver?, settingAt?, settingAt?,
    lookup?_mergeEntries LawfulReading.nodup_initialEntries,
    lookup?_mergeEntries LawfulReading.nodup_initialEntries, hsame]

theorem settingOver?_of_not_given (hnone : valuesUnder (name field) table = []) :
    settingOver? R table field = some (initial field) := by
  obtain ⟨value, hvalue, hread⟩ := LawfulReading.read_initial (R := R) field
  rw [← hread]
  apply settingOver?_eq_of_lookup?
  rw [lookup?_mergeEntries LawfulReading.nodup_initialEntries, hnone, List.foldl_nil, hvalue]

theorem settingOver?_of_given {value : Value}
    (hvalue : Value.lookup? (name field) table = some value)
    (hplain : ∀ entries, value ≠ .object entries) :
    settingOver? R table field = LawfulReading.readField? R field value := by
  have hmerge : ∀ found, merge value found = value := by
    intro found
    cases value with
    | object entries => exact absurd rfl (hplain entries)
    | _ => rfl
  rw [lookup?_eq_getLast?, List.getLast?_eq_some_iff] at hvalue
  obtain ⟨before, hbefore⟩ := hvalue
  apply settingOver?_eq_of_lookup?
  rw [lookup?_mergeEntries LawfulReading.nodup_initialEntries, hbefore, List.foldl_append,
    List.foldl_cons, List.foldl_nil, hmerge]

end Reading

/-! ### Displays and forces -/

section Records

variable {entries : List (String × Value)}

def displayField? : DisplayField → Value → Option Setting
  | .excerptLines, value => (word32? value).map fun lines => .number (.ofNat lines.toNat)
  | .showTags, value | .showArrows, value => (bool? value).map .toggle
  | _, value => (float? value).map .number

def forceField? (_ : ForceField) (value : Value) : Option Setting :=
  (float? value).map .number

theorem number_injective : Function.Injective Setting.number := fun _ _ => Setting.number.inj

theorem toggle_injective : Function.Injective Setting.toggle := fun _ _ => Setting.toggle.inj

theorem lines_injective :
    Function.Injective fun lines : UInt32 => Setting.number (.ofNat lines.toNat) :=
  fun _ _ hsame => Display.ofNat_toNat_inj.1 (Setting.number.inj hsame)

theorem fieldOr_object_iff {F α : Type} [SettingsField F] {read : Value → Option α}
    {wrap : α → Setting} {readField? : F → Value → Option Setting} {field : F} {first x : α}
    {place : Nat} (hwrap : Function.Injective wrap)
    (hread : ∀ value, readField? field value = (read value).map wrap)
    (hfirst : initial field = wrap first) :
    fieldOr read (.object entries) (name field) place first = some x ↔
      settingAt? readField? field entries = some (wrap x) := by
  rw [fieldOr, fieldAt?, settingAt?]
  cases Value.lookup? (name field) entries with
  | none => simp [hfirst, hwrap.eq_iff]
  | some value => simp [hread, hwrap.eq_iff]

theorem display?_object_iff {display : Display} :
    display? (.object entries) = some display ↔
      ∀ field, settingAt? displayField? field entries = some (display.get field) := by
  simp only [display?, isRecord, Bool.not_true, Bool.false_eq_true, if_false,
    Option.bind_eq_bind, Option.bind_eq_some_iff, Option.pure_def, Option.some.injEq]
  constructor
  · rintro ⟨width, hwidth, height, hheight, font, hfont, lines, hlines, tags, htags, arrows,
      harrows, rfl⟩ field
    cases field with
    | cardWidth => exact (fieldOr_object_iff number_injective (fun _ => rfl) rfl).1 hwidth
    | cardHeight => exact (fieldOr_object_iff number_injective (fun _ => rfl) rfl).1 hheight
    | fontSize => exact (fieldOr_object_iff number_injective (fun _ => rfl) rfl).1 hfont
    | excerptLines => exact (fieldOr_object_iff lines_injective (fun _ => rfl) rfl).1 hlines
    | showTags => exact (fieldOr_object_iff toggle_injective (fun _ => rfl) rfl).1 htags
    | showArrows => exact (fieldOr_object_iff toggle_injective (fun _ => rfl) rfl).1 harrows
  · intro hall
    exact ⟨_, (fieldOr_object_iff number_injective (fun _ => rfl) rfl).2 (hall .cardWidth),
      _, (fieldOr_object_iff number_injective (fun _ => rfl) rfl).2 (hall .cardHeight),
      _, (fieldOr_object_iff number_injective (fun _ => rfl) rfl).2 (hall .fontSize),
      _, (fieldOr_object_iff lines_injective (fun _ => rfl) rfl).2 (hall .excerptLines),
      _, (fieldOr_object_iff toggle_injective (fun _ => rfl) rfl).2 (hall .showTags),
      _, (fieldOr_object_iff toggle_injective (fun _ => rfl) rfl).2 (hall .showArrows), rfl⟩

theorem forces?_object_iff {forces : Forces} :
    forces? (.object entries) = some forces ↔
      ∀ field, settingAt? forceField? field entries = some (forces.get field) := by
  simp only [forces?, isRecord, Bool.not_true, Bool.false_eq_true, if_false,
    Option.bind_eq_bind, Option.bind_eq_some_iff, Option.pure_def, Option.some.injEq]
  constructor
  · rintro ⟨repel, hrepel, link, hlink, distance, hdistance, center, hcenter, rfl⟩ field
    cases field with
    | repelForce => exact (fieldOr_object_iff number_injective (fun _ => rfl) rfl).1 hrepel
    | linkForce => exact (fieldOr_object_iff number_injective (fun _ => rfl) rfl).1 hlink
    | linkDistance => exact (fieldOr_object_iff number_injective (fun _ => rfl) rfl).1 hdistance
    | centerForce => exact (fieldOr_object_iff number_injective (fun _ => rfl) rfl).1 hcenter
  · intro hall
    exact ⟨_, (fieldOr_object_iff number_injective (fun _ => rfl) rfl).2 (hall .repelForce),
      _, (fieldOr_object_iff number_injective (fun _ => rfl) rfl).2 (hall .linkForce),
      _, (fieldOr_object_iff number_injective (fun _ => rfl) rfl).2 (hall .linkDistance),
      _, (fieldOr_object_iff number_injective (fun _ => rfl) rfl).2 (hall .centerForce), rfl⟩

end Records

instance : LawfulReading Display DisplayField where
  read? := display?
  readField? := displayField?
  initialEntries := entriesOf ((Value.lookup? "display" initialLayer).getD .null)
  nodup_initialEntries := by decide +kernel
  read_initial field := by cases field <;> exact ⟨_, rfl, by rfl⟩
  read?_object _ _ := display?_object_iff

instance : LawfulReading Forces ForceField where
  read? := forces?
  readField? := forceField?
  initialEntries := entriesOf ((Value.lookup? "forces" initialLayer).getD .null)
  nodup_initialEntries := by decide +kernel
  read_initial field := by cases field <;> exact ⟨_, rfl, by rfl⟩
  read?_object _ _ := forces?_object_iff

/-! ### Settings -/

/-- The keys of the layer are no paths, and where it has a value for a record, this is a table. -/
structure IsTabular (layer : List (String × Value)) : Prop where
  plain : ∀ entry ∈ layer, IsPlainKey entry.1
  tables : ∀ part : Section, ∀ value ∈ valuesUnder part.name layer, isTable value = true

theorem isTabular_iff {layer : List (String × Value)} :
    IsTabular layer ↔ (∀ entry ∈ layer, IsPlainKey entry.1) ∧
      (∀ value ∈ valuesUnder "display" layer, isTable value = true) ∧
      ∀ value ∈ valuesUnder "forces" layer, isTable value = true := by
  constructor
  · intro hlayer
    exact ⟨hlayer.plain, hlayer.tables .display, hlayer.tables .forces⟩
  · rintro ⟨hplain, hdisplay, hforces⟩
    refine ⟨hplain, fun part => ?_⟩
    cases part with
    | display => exact hdisplay
    | forces => exact hforces

instance (layer : List (String × Value)) : Decidable (IsTabular layer) :=
  decidable_of_iff _ isTabular_iff.symm

/-- The entries that a layer has for a record. -/
def tableOf (part : Section) (layer : List (String × Value)) : List (String × Value) :=
  tableUnder part.name layer

/-- What is read for a field where a layer lies over the initial one. -/
def settingIn? (layer : List (String × Value)) : Slot → Option Setting
  | .inl field => settingOver? Display (tableOf .display layer) field
  | .inr field => settingOver? Forces (tableOf .forces layer) field

theorem settingsOver?_eq_some_iff {layer : List (String × Value)} (hlayer : IsTabular layer)
    {settings : Settings} :
    settingsOver? layer = some settings ↔
      ∀ slot, settingIn? layer slot = some (settings.holds slot) := by
  have hkeys : (initialLayer.map Prod.fst).Nodup := by decide
  have hdisplay : Value.lookup? "display" (mergeEntries layer initialLayer) =
      some (.object (mergeEntries (tableOf .display layer) (initialEntries Display))) :=
    lookup?_mergeEntries_of_tables hkeys (hlayer.tables .display) rfl
  have hforces : Value.lookup? "forces" (mergeEntries layer initialLayer) =
      some (.object (mergeEntries (tableOf .forces layer) (initialEntries Forces))) :=
    lookup?_mergeEntries_of_tables hkeys (hlayer.tables .forces) rfl
  have hsettings : settingsOver? layer = some settings ↔
      display? (.object (mergeEntries (tableOf .display layer) (initialEntries Display))) =
          some settings.display ∧
        forces? (.object (mergeEntries (tableOf .forces layer) (initialEntries Forces))) =
          some settings.forces := by
    rw [settingsOver?, overlay_of_isPlainKey hlayer.plain]
    simp only [settings?, fieldOr, fieldAt?, hdisplay, hforces, Option.bind_eq_bind,
      Option.bind_eq_some_iff, Option.pure_def, Option.some.injEq]
    constructor
    · rintro ⟨display, hreadDisplay, forces, hreadForces, rfl⟩
      exact ⟨hreadDisplay, hreadForces⟩
    · rintro ⟨hreadDisplay, hreadForces⟩
      exact ⟨_, hreadDisplay, _, hreadForces, rfl⟩
  rw [hsettings, display?_object_iff, forces?_object_iff]
  exact ⟨fun ⟨hall, hothers⟩ slot => slot.rec hall hothers,
    fun hall => ⟨fun field => hall (.inl field), fun field => hall (.inr field)⟩⟩

/-! ### Files -/

theorem load_eq_ok_iff {disk : Disk} {path : String} {layer : List (String × Value)}
    {settings : Settings} (hlayer : layerAt? disk path = some layer) :
    load disk path = .ok settings ↔ settingsOver? layer = some settings := by
  rw [load, hlayer]
  cases hover : settingsOver? layer <;> simp [hover]

end NoteCards.Configuration

import NoteCards.Proofs.Settings.Edits

/-!
# Fields of both records

The fields of the two records have ten different names (`Slot.name_injective`), so a name alone says
which record it belongs to, and restoring it in whichever record knows it comes to the same as
restoring it in its own. Fields that are restored one after the other hold their initial values,
whatever the order and however often each is named (`resetFields_eq_ok`); the first name of no field
ends the run (`resetFields_eq_error`).
-/

namespace NoteCards

open SettingsField

def Section.name : Section → String
  | .display => "display"
  | .forces => "forces"

namespace Settings

namespace Slot

def part : Slot → Section
  | .inl _ => .display
  | .inr _ => .forces

def name : Slot → String
  | .inl field => SettingsField.name field
  | .inr field => SettingsField.name field

def initial : Slot → Setting
  | .inl field => SettingsField.initial field
  | .inr field => SettingsField.initial field

/-- The edit that assigns to the field by the name of it. -/
def assign (slot : Slot) (value : Setting) : Edit :=
  .set slot.part slot.name value

def all : List Slot :=
  (SettingsField.all : List DisplayField).map .inl ++
    (SettingsField.all : List ForceField).map .inr

theorem mem_all (slot : Slot) : slot ∈ all := by
  cases slot with
  | inl field =>
    exact List.mem_append_left _ (List.mem_map_of_mem (LawfulFields.mem_all field))
  | inr field =>
    exact List.mem_append_right _ (List.mem_map_of_mem (LawfulFields.mem_all field))

theorem name_ne (field : DisplayField) (other : ForceField) :
    SettingsField.name field ≠ SettingsField.name other := by
  cases field <;> cases other <;> decide

theorem name_injective : Function.Injective name := by
  rintro (field | field) (other | other) hname
  · exact congrArg _ (LawfulFields.name_injective hname)
  · exact absurd hname (name_ne field other)
  · exact absurd hname.symm (name_ne other field)
  · exact congrArg _ (LawfulFields.name_injective hname)

end Slot

/-- The name is that of a field of one of the two records. -/
def IsFieldName (given : String) : Prop :=
  ∃ slot : Slot, slot.name = given

instance (given : String) : Decidable (IsFieldName given) :=
  decidable_of_iff (∃ slot ∈ Slot.all, slot.name = given)
    ⟨fun ⟨slot, _, hslot⟩ => ⟨slot, hslot⟩, fun ⟨slot, hslot⟩ => ⟨slot, slot.mem_all, hslot⟩⟩

theorem holds_default (slot : Slot) : ({} : Settings).holds slot = slot.initial := by
  rcases slot with field | field <;> cases field <;> rfl

section Assign

/-- The field takes the value and keeps it as it is. -/
def Slot.Keeps (value : Setting) : Slot → Prop
  | .inl field => value.kind = kind field ∧ Display.kept field value = value
  | .inr field => value.kind = kind field

theorem apply_assign (settings : Settings) {slot : Slot} {value : Setting}
    (hvalue : slot.Keeps value) :
    ∃ changed, settings.apply (slot.assign value) = (.ok (), changed) ∧
      ∀ other, changed.holds other = if other = slot then value else settings.holds other := by
  cases slot with
  | inl field =>
    obtain ⟨hkind, hkept⟩ := hvalue
    obtain ⟨display, hset, hget⟩ := Display.set_ok settings.display field value hkind
    refine ⟨{ settings with display }, ?_, fun other => ?_⟩
    · have hnamed : SettingsRecord.setNamed settings.display (name field) value =
          (.ok (), display) := by
        rw [SettingsRecord.setNamed, ofName?_eq_ok rfl]
        exact hset
      exact congrArg settings.withDisplay hnamed
    · cases other with
      | inl other =>
        rw [hkept] at hget
        simpa [holds] using hget other
      | inr other => simp [holds]
  | inr field =>
    obtain ⟨forces, hset, hget⟩ := Forces.set_ok settings.forces field value hvalue
    refine ⟨{ settings with forces }, ?_, fun other => ?_⟩
    · have hnamed : SettingsRecord.setNamed settings.forces (name field) value =
          (.ok (), forces) := by
        rw [SettingsRecord.setNamed, ofName?_eq_ok rfl]
        exact hset
      exact congrArg settings.withForces hnamed
    · cases other with
      | inl other => simp [holds]
      | inr other => simpa [holds] using hget other

theorem edit_eq_ok {settings changed : Settings} {change : Edit}
    (happly : settings.apply change = (.ok (), changed)) : settings.edit change = .ok changed := by
  rw [edit, happly]
  rfl

/-- Assigning field by field, in any order and however often each is named. -/
theorem foldlM_assign {assigned : Slot → Option Setting}
    (hkeeps : ∀ slot value, assigned slot = some value → slot.Keeps value) (order : List Slot)
    (settings : Settings) :
    ∃ changed, (order.filterMap fun slot => (assigned slot).map slot.assign).foldlM edit settings =
        .ok changed ∧
      ∀ slot, (slot ∈ order → changed.holds slot = (assigned slot).getD (settings.holds slot)) ∧
        (slot ∉ order → changed.holds slot = settings.holds slot) := by
  induction order generalizing settings with
  | nil => exact ⟨settings, rfl, fun slot => ⟨nofun, fun _ => rfl⟩⟩
  | cons first rest ih =>
    cases hfirst : assigned first with
    | none =>
      obtain ⟨changed, hrun, hholds⟩ := ih settings
      refine ⟨changed, ?_, fun slot => ?_⟩
      · rw [List.filterMap_cons_none (by rw [hfirst]; rfl)]
        exact hrun
      · obtain ⟨hin, hout⟩ := hholds slot
        rw [List.mem_cons]
        by_cases hslot : slot = first
        · subst hslot
          rw [hfirst, Option.getD_none] at hin ⊢
          exact ⟨fun _ => (em (slot ∈ rest)).elim hin hout, fun hnot => absurd (.inl rfl) hnot⟩
        · simpa [hslot] using ⟨hin, hout⟩
    | some value =>
      obtain ⟨next, happly, hnext⟩ := apply_assign settings (hkeeps first value hfirst)
      obtain ⟨changed, hrun, hholds⟩ := ih next
      refine ⟨changed, ?_, fun slot => ?_⟩
      · rw [List.filterMap_cons_some (by rw [hfirst]; rfl), List.foldlM_cons, edit_eq_ok happly]
        exact hrun
      · obtain ⟨hin, hout⟩ := hholds slot
        rw [hnext] at hin hout
        rw [List.mem_cons]
        by_cases hslot : slot = first
        · subst hslot
          rw [if_pos rfl] at hin hout
          rw [hfirst, Option.getD_some] at hin ⊢
          exact ⟨fun _ => (em (slot ∈ rest)).elim hin hout, fun hnot => absurd (.inl rfl) hnot⟩
        · rw [if_neg hslot] at hin hout
          simpa [hslot] using ⟨hin, hout⟩

end Assign

/-! ### Restoring fields -/

section Reset

variable {given : String}

theorem resetField_name (settings : Settings) (slot : Slot) :
    ∃ changed, settings.resetField slot.name = (.ok (), changed) ∧
      ∀ other, changed.holds other =
        if other = slot then slot.initial else settings.holds other := by
  cases slot with
  | inl field =>
    have hname : (ofName? (name field) : Except SettingsError DisplayField) = .ok field :=
      ofName?_eq_ok rfl
    refine ⟨{ settings with display := settings.display.reset field }, ?_, fun other => ?_⟩
    · rw [resetField, Slot.name, hname]
    · cases other with
      | inl other =>
        simpa [holds, Slot.initial] using Display.get_reset settings.display field other
      | inr other => simp [holds]
  | inr field =>
    -- the record that is tried first does not know the name
    have hfirst : (ofName? (name field) : Except SettingsError DisplayField) =
        .error (.unknownField (name field)) :=
      ofName?_eq_error fun other => Slot.name_ne other field
    have hnamed : SettingsRecord.resetNamed settings.forces (name field) =
        (.ok (), settings.forces.reset field) := by
      rw [SettingsRecord.resetNamed, ofName?_eq_ok rfl]
      rfl
    refine ⟨{ settings with forces := settings.forces.reset field }, ?_, fun other => ?_⟩
    · rw [resetField, Slot.name, hfirst]
      exact congrArg settings.withForces hnamed
    · cases other with
      | inl other => simp [holds]
      | inr other =>
        simpa [holds, Slot.initial] using Forces.get_reset settings.forces field other

theorem resetField_unknown (settings : Settings) (hunknown : ¬IsFieldName given) :
    settings.resetField given = (.error (.unknownField given), settings) := by
  have hdisplay : (ofName? given : Except SettingsError DisplayField) =
      .error (.unknownField given) :=
    ofName?_eq_error fun field hfield => hunknown ⟨.inl field, hfield⟩
  have hforces : (ofName? given : Except SettingsError ForceField) =
      .error (.unknownField given) :=
    ofName?_eq_error fun field hfield => hunknown ⟨.inr field, hfield⟩
  have hnamed : SettingsRecord.resetNamed settings.forces given =
      (.error (.unknownField given), settings.forces) := by
    rw [SettingsRecord.resetNamed, hforces]
  rw [resetField, hdisplay]
  exact congrArg settings.withForces hnamed

theorem resetFields_eq_ok {names : List String} (hnames : ∀ given ∈ names, IsFieldName given)
    (settings : Settings) :
    ∃ changed, settings.resetFields names = (.ok (), changed) ∧
      ∀ slot, changed.holds slot =
        if slot.name ∈ names then slot.initial else settings.holds slot := by
  induction names generalizing settings with
  | nil => exact ⟨settings, rfl, fun slot => (if_neg List.not_mem_nil).symm⟩
  | cons first rest ih =>
    obtain ⟨restored, hrestored⟩ := hnames first List.mem_cons_self
    obtain ⟨next, hfirst, hnext⟩ := resetField_name settings restored
    rw [hrestored] at hfirst
    obtain ⟨changed, hrest, hholds⟩ :=
      ih (fun given hgiven => hnames given (List.mem_cons_of_mem _ hgiven)) next
    refine ⟨changed, by rw [resetFields, hfirst]; exact hrest, fun slot => ?_⟩
    rw [hholds, hnext]
    simp only [List.mem_cons, ← hrestored, Slot.name_injective.eq_iff]
    by_cases hslot : slot = restored
    · subst hslot
      simp
    · simp [hslot]

theorem resetFields_eq_error {names : List String} (settings : Settings)
    (hfirst : names.find? (¬IsFieldName ·) = some given) :
    (settings.resetFields names).1 = .error (.unknownField given) := by
  induction names generalizing settings with
  | nil => exact nomatch hfirst
  | cons first rest ih =>
    by_cases hknown : IsFieldName first
    · obtain ⟨slot, hslot⟩ := hknown
      obtain ⟨next, hnext, -⟩ := resetField_name settings slot
      rw [hslot] at hnext
      rw [List.find?_cons_of_neg (by simpa using ⟨slot, hslot⟩)] at hfirst
      rw [resetFields, hnext]
      exact ih next hfirst
    · rw [List.find?_cons_of_pos (by simpa using hknown), Option.some.injEq] at hfirst
      subst hfirst
      rw [resetFields, resetField_unknown settings hknown]

end Reset

end Settings

end NoteCards

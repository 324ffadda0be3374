import NoteCards.Proofs.Settings.Fields

/-!
# Runs of edits

An edit assigns to a field or restores it, and the field is given itself or by a name, which may be
the name of none. Whether an edit fails, and what it stores in a field, does not depend on the
record (`FieldEdit.apply_cases`). So a run of edits leaves in each field what the last edit stored
there (`Settings.holds_run`), edits of different fields commute, and an edit that fails changes
nothing.
-/

namespace NoteCards

open SettingsField

/-- An edit of a record with the fields `F`. -/
inductive FieldEdit (F : Type) where
  | set (field : F) (value : Setting)
  | setNamed (given : String) (value : Setting)
  | reset (field : F)
  | resetNamed (given : String)

namespace FieldEdit

section Fields

variable {F : Type} [SettingsField F] {edit : FieldEdit F} {field other : F}

/-- The field is the one that is edited. -/
def Addresses (field : F) : FieldEdit F → Prop
  | .set wanted _ | .reset wanted => wanted = field
  | .setNamed given _ | .resetNamed given => name field = given

/-- The value that is assigned; none for an edit that restores. -/
def value? : FieldEdit F → Option Setting
  | .set _ value | .setNamed _ value => some value
  | .reset _ | .resetNamed _ => none

/-- The name that the field is given by, if it is not given itself. -/
def name? : FieldEdit F → Option String
  | .set _ _ | .reset _ => none
  | .setNamed given _ | .resetNamed given => some given

/-- The two ways to fail: a name of no field, and a value of the other kind. -/
def FailsWith (edit : FieldEdit F) (e : SettingsError) : Prop :=
  (∃ given, edit.name? = some given ∧ (∀ field : F, name field ≠ given) ∧
      e = .unknownField given) ∨
    ∃ field value, edit.Addresses field ∧ edit.value? = some value ∧ value.kind ≠ kind field ∧
      e = .kindMismatch (name field) (kind field) value

instance [DecidableEq F] (edit : FieldEdit F) (field : F) : Decidable (edit.Addresses field) := by
  cases edit <;> unfold Addresses <;> infer_instance

theorem Addresses.unique [LawfulFields F] (hfield : edit.Addresses field)
    (hother : edit.Addresses other) : other = field := by
  cases edit with
  | set | reset => exact hother.symm.trans hfield
  | setNamed | resetNamed => exact LawfulFields.name_injective (hother.trans hfield.symm)

theorem addresses_or_unknown (edit : FieldEdit F) :
    (∃ field, edit.Addresses field) ∨
      ∃ given, edit.name? = some given ∧ ∀ field : F, name field ≠ given := by
  cases edit with
  | set field _ | reset field => exact .inl ⟨field, rfl⟩
  | setNamed given _ | resetNamed given =>
    by_cases hknown : ∃ field : F, name field = given
    · exact .inl hknown
    · exact .inr ⟨given, rfl, not_exists.1 hknown⟩

end Fields

section Apply

variable {R F : Type} [SettingsRecord R F]

def apply (record : R) : FieldEdit F → Edited R
  | .set field value => SettingsRecord.set record field value
  | .setNamed given value => SettingsRecord.setNamed record given value
  | .reset field => (.ok (), SettingsRecord.reset record field)
  | .resetNamed given => SettingsRecord.resetNamed record given

variable [LawfulFields F] {edit : FieldEdit F} {given : String} {field : F}

theorem apply_unknown (record : R) (hgiven : edit.name? = some given)
    (hunknown : ∀ field : F, name field ≠ given) :
    edit.apply record = (.error (.unknownField given), record) := by
  have hname := ofName?_eq_error hunknown
  cases edit with
  | set | reset => exact nomatch hgiven
  | setNamed | resetNamed =>
    cases hgiven
    simp only [apply, SettingsRecord.setNamed, SettingsRecord.resetNamed, hname]

theorem apply_of_addresses (record : R) (hfield : edit.Addresses field) :
    edit.apply record = match edit.value? with
      | some value => SettingsRecord.set record field value
      | none => (.ok (), SettingsRecord.reset record field) := by
  cases edit with
  | set | reset =>
    cases hfield
    rfl
  | setNamed | resetNamed =>
    simp only [apply, SettingsRecord.setNamed, SettingsRecord.resetNamed, ofName?_eq_ok hfield,
      value?]

end Apply

section Lawful

variable {R F : Type} [DecidableEq F] [SettingsRecord R F] [LawfulSettings R F]
variable {edit : FieldEdit F} {field other : F} {value : Setting} {e : SettingsError}

variable (R) in
/-- What an edit stores in a field: nothing where it does not address the field or fails. -/
def stored? (edit : FieldEdit F) (field : F) : Option Setting :=
  if edit.Addresses field then
    match edit.value? with
    | some value =>
      if value.kind = kind field then some (LawfulSettings.kept R field value) else none
    | none => some (initial field)
  else none

theorem stored?_of_not_addresses (hfield : ¬edit.Addresses field) : edit.stored? R field = none :=
  if_neg hfield

theorem stored?_reset (hfield : edit.Addresses field) (hvalue : edit.value? = none) :
    edit.stored? R field = some (initial field) := by
  rw [stored?, if_pos hfield, hvalue]

theorem stored?_set (hfield : edit.Addresses field) (hvalue : edit.value? = some value)
    (hkind : value.kind = kind field) :
    edit.stored? R field = some (LawfulSettings.kept R field value) := by
  rw [stored?, if_pos hfield, hvalue]
  exact if_pos hkind

variable [LawfulFields F]

/-- An edit does one of three things to every record: it fails because its name is unknown, it fails
because of its value, and then leaves the record, or it changes the field that it addresses and no
other. -/
theorem apply_cases (edit : FieldEdit F) (record : R) :
    (∃ given, edit.name? = some given ∧ (∀ field : F, name field ≠ given) ∧
        edit.apply record = (.error (.unknownField given), record)) ∨
      (∃ field value, edit.Addresses field ∧ edit.value? = some value ∧ value.kind ≠ kind field ∧
        edit.apply record = (.error (.kindMismatch (name field) (kind field) value), record)) ∨
      ∃ changed, edit.apply record = (.ok (), changed) ∧ ∀ field,
        SettingsRecord.get changed field =
          (edit.stored? R field).getD (SettingsRecord.get record field) := by
  rcases edit.addresses_or_unknown with ⟨field, hfield⟩ | ⟨given, hgiven, hunknown⟩
  · have happly := apply_of_addresses record hfield
    -- names are not shared, so the other fields are not addressed
    have hothers : ∀ other, other ≠ field → edit.stored? R other = none := fun other hne =>
      stored?_of_not_addresses fun hother => hne (hfield.unique hother)
    cases hvalue : edit.value? with
    | none =>
      rw [hvalue] at happly
      refine .inr (.inr ⟨_, happly, fun other => ?_⟩)
      rw [LawfulSettings.get_reset]
      by_cases hsame : other = field
      · subst hsame
        rw [if_pos rfl, stored?_reset hfield hvalue, Option.getD_some]
      · rw [if_neg hsame, hothers other hsame, Option.getD_none]
    | some value =>
      rw [hvalue] at happly
      by_cases hkind : value.kind = kind field
      · obtain ⟨changed, hset, hget⟩ := LawfulSettings.set_ok record field value hkind
        refine .inr (.inr ⟨changed, happly.trans hset, fun other => ?_⟩)
        rw [hget]
        by_cases hsame : other = field
        · subst hsame
          rw [if_pos rfl, stored?_set hfield hvalue hkind, Option.getD_some]
        · rw [if_neg hsame, hothers other hsame, Option.getD_none]
      · have hset := LawfulSettings.set_error record field value hkind
        exact .inr (.inl ⟨field, value, hfield, rfl, hkind, happly.trans hset⟩)
  · exact .inl ⟨given, hgiven, hunknown, apply_unknown record hgiven hunknown⟩

theorem apply_error_iff (record : R) :
    (edit.apply record).1 = .error e ↔ edit.FailsWith e := by
  constructor
  · intro hfail
    rcases edit.apply_cases record with ⟨given, hgiven, hunknown, happly⟩ |
      ⟨field, value, hfield, hvalue, hkind, happly⟩ | ⟨changed, happly, -⟩
    · rw [happly] at hfail
      cases hfail
      exact .inl ⟨given, hgiven, hunknown, rfl⟩
    · rw [happly] at hfail
      cases hfail
      exact .inr ⟨field, value, hfield, hvalue, hkind, rfl⟩
    · rw [happly] at hfail
      exact nomatch hfail
  · rintro (⟨given, hgiven, hunknown, rfl⟩ | ⟨field, value, hfield, hvalue, hkind, rfl⟩)
    · rw [apply_unknown record hgiven hunknown]
    · rw [apply_of_addresses record hfield, hvalue]
      exact congrArg Prod.fst (LawfulSettings.set_error record field value hkind)

/-- An edit that fails leaves the record as it is. -/
theorem apply_eq_self_of_error (record : R) (hfail : (edit.apply record).1 = .error e) :
    (edit.apply record).2 = record := by
  rcases edit.apply_cases record with ⟨_, -, -, happly⟩ | ⟨_, _, -, -, -, happly⟩ | ⟨_, happly, -⟩
  · rw [happly]
  · rw [happly]
  · rw [happly] at hfail
    exact nomatch hfail

theorem stored?_eq_none_of_failsWith (hfail : edit.FailsWith e) (field : F) :
    edit.stored? R field = none := by
  by_cases hfield : edit.Addresses field
  · rcases hfail with ⟨given, hgiven, hunknown, -⟩ | ⟨found, value, hfound, hvalue, hkind, -⟩
    · cases edit with
      | set | reset => exact nomatch hgiven
      | setNamed | resetNamed =>
        cases hgiven
        exact absurd hfield (hunknown field)
    · rw [hfield.unique hfound] at hkind
      rw [stored?, if_pos hfield, hvalue]
      exact if_neg hkind
  · exact stored?_of_not_addresses hfield

theorem isSome_stored?_iff :
    (edit.stored? R field).isSome ↔ edit.Addresses field ∧ ∀ e, ¬edit.FailsWith e := by
  constructor
  · intro hstored
    refine ⟨?_, fun e hfail => ?_⟩
    · by_contra hfield
      rw [stored?_of_not_addresses hfield] at hstored
      exact Bool.false_ne_true hstored
    · rw [stored?_eq_none_of_failsWith hfail] at hstored
      exact Bool.false_ne_true hstored
  · rintro ⟨hfield, hsucceeds⟩
    cases hvalue : edit.value? with
    | none => rw [stored?_reset hfield hvalue, Option.isSome_some]
    | some value =>
      have hkind : value.kind = kind field := by
        by_contra hother
        exact hsucceeds _ (.inr ⟨field, value, hfield, hvalue, hother, rfl⟩)
      rw [stored?_set hfield hvalue hkind, Option.isSome_some]

theorem get_apply (edit : FieldEdit F) (record : R) (field : F) :
    SettingsRecord.get (edit.apply record).2 field =
      (edit.stored? R field).getD (SettingsRecord.get record field) := by
  cases hresult : (edit.apply record).1 with
  | error e =>
    rw [apply_eq_self_of_error record hresult,
      stored?_eq_none_of_failsWith ((apply_error_iff record).1 hresult), Option.getD_none]
  | ok _ =>
    rcases edit.apply_cases record with ⟨_, -, -, happly⟩ | ⟨_, _, -, -, -, happly⟩ |
      ⟨changed, happly, hget⟩
    · rw [happly] at hresult
      exact nomatch hresult
    · rw [happly] at hresult
      exact nomatch hresult
    · rw [happly]
      exact hget field

end Lawful

end FieldEdit

/-! ### Runs over both records -/

namespace Settings

/-- A field of one of the two records. -/
abbrev Slot := DisplayField ⊕ ForceField

def holds (settings : Settings) : Slot → Setting
  | .inl field => settings.display.get field
  | .inr field => settings.forces.get field

theorem ext_holds {first second : Settings} (hsame : ∀ slot, first.holds slot = second.holds slot) :
    first = second := by
  have hdisplay : first.display = second.display :=
    Display.ext_get fun field => hsame (.inl field)
  have hforces : first.forces = second.forces := Forces.ext_get fun field => hsame (.inr field)
  cases first
  cases second
  simp_all

inductive Operation where
  | display (edit : FieldEdit DisplayField)
  | forces (edit : FieldEdit ForceField)

namespace Operation

def Addresses (slot : Slot) : Operation → Prop
  | .display edit => ∃ field, slot = .inl field ∧ edit.Addresses field
  | .forces edit => ∃ field, slot = .inr field ∧ edit.Addresses field

def FailsWith (e : SettingsError) : Operation → Prop
  | .display edit => edit.FailsWith e
  | .forces edit => edit.FailsWith e

/-- What an operation stores in a field of the two records. -/
def stored? (slot : Slot) : Operation → Option Setting
  | .display edit => slot.elim (edit.stored? Display ·) fun _ => none
  | .forces edit => slot.elim (fun _ => none) (edit.stored? Forces ·)

theorem stored?_of_not_addresses {slot : Slot} {operation : Operation}
    (hslot : ¬operation.Addresses slot) : operation.stored? slot = none := by
  cases operation <;> cases slot
  · exact FieldEdit.stored?_of_not_addresses fun hfield => hslot ⟨_, rfl, hfield⟩
  · rfl
  · rfl
  · exact FieldEdit.stored?_of_not_addresses fun hfield => hslot ⟨_, rfl, hfield⟩

theorem isSome_stored?_iff {slot : Slot} {operation : Operation} :
    (operation.stored? slot).isSome ↔ operation.Addresses slot ∧ ∀ e, ¬operation.FailsWith e := by
  cases operation with
  | display edit =>
    cases slot with
    | inl field => simpa [stored?, Addresses, FailsWith] using FieldEdit.isSome_stored?_iff
    | inr field => simp [stored?, Addresses]
  | forces edit =>
    cases slot with
    | inl field => simp [stored?, Addresses]
    | inr field => simpa [stored?, Addresses, FailsWith] using FieldEdit.isSome_stored?_iff

end Operation

/-- One operation: its result, and the settings after it. -/
def step (settings : Settings) : Operation → Edited Settings
  | .display edit => settings.withDisplay (edit.apply settings.display)
  | .forces edit => settings.withForces (edit.apply settings.forces)

def run (settings : Settings) (operations : List Operation) : Settings :=
  operations.foldl (fun state operation => (state.step operation).2) settings

section Step

variable {settings : Settings} {operation : Operation} {e : SettingsError} {slot : Slot}

theorem step_error_iff : (settings.step operation).1 = .error e ↔ operation.FailsWith e := by
  cases operation with
  | display edit => exact FieldEdit.apply_error_iff settings.display
  | forces edit => exact FieldEdit.apply_error_iff settings.forces

theorem step_eq_self_of_error (hfail : (settings.step operation).1 = .error e) :
    (settings.step operation).2 = settings := by
  cases operation with
  | display edit => rw [step, withDisplay, FieldEdit.apply_eq_self_of_error settings.display hfail]
  | forces edit => rw [step, withForces, FieldEdit.apply_eq_self_of_error settings.forces hfail]

theorem holds_step :
    (settings.step operation).2.holds slot =
      (operation.stored? slot).getD (settings.holds slot) := by
  cases operation with
  | display edit =>
    cases slot with
    | inl field => exact edit.get_apply settings.display field
    | inr field => rfl
  | forces edit =>
    cases slot with
    | inl field => rfl
    | inr field => exact edit.get_apply settings.forces field

theorem holds_run (operations : List Operation) (settings : Settings) (slot : Slot) :
    (settings.run operations).holds slot =
      ((operations.filterMap (·.stored? slot)).getLast?).getD (settings.holds slot) := by
  -- the rest of a run starts in the settings that its first operation leaves
  induction operations generalizing settings with
  | nil => rfl
  | cons operation rest ih =>
    have hrun : settings.run (operation :: rest) = (settings.step operation).2.run rest := rfl
    rw [hrun, ih, holds_step]
    cases hstored : operation.stored? slot with
    | none => rw [List.filterMap_cons_none hstored, Option.getD_none]
    | some value =>
      rw [List.filterMap_cons_some hstored, List.getLast?_cons, Option.getD_some, Option.getD_some]

theorem run_swap {first second : Operation}
    (hapart : ∀ slot, ¬(first.Addresses slot ∧ second.Addresses slot)) (settings : Settings)
    (before after : List Operation) :
    settings.run (before ++ first :: second :: after) =
      settings.run (before ++ second :: first :: after) := by
  apply ext_holds
  intro slot
  -- at most one of the two stores anything in this field
  have hone : first.stored? slot = none ∨ second.stored? slot = none := by
    by_cases hfirst : first.Addresses slot
    · exact .inr (Operation.stored?_of_not_addresses fun hsecond => hapart slot ⟨hfirst, hsecond⟩)
    · exact .inl (Operation.stored?_of_not_addresses hfirst)
  rw [holds_run, holds_run, List.filterMap_append, List.filterMap_append]
  rcases hone with hnone | hnone <;> simp only [List.filterMap_cons, hnone]

end Step

/-- **The last write wins.** An operation fails for an unknown name and for a value of the wrong
kind, and for nothing else, and then it changes nothing. One that does not fail stores a value in
the field that it addresses. After any run, each field of the two records holds what the last
operation stored in it, or, if none did, what it held before. Operations that address different
fields can change places. Numbers are the same when their bits are, but for NaN, which is one number
here. -/
theorem run_keeps_last_write (settings : Settings) :
    (∀ operation e, (settings.step operation).1 = .error e ↔ operation.FailsWith e) ∧
      (∀ operation e, (settings.step operation).1 = .error e →
        (settings.step operation).2 = settings) ∧
      (∀ (operation : Operation) slot, (operation.stored? slot).isSome ↔
        operation.Addresses slot ∧ ∀ e, ¬operation.FailsWith e) ∧
      (∀ operations slot, (settings.run operations).holds slot =
        ((operations.filterMap (·.stored? slot)).getLast?).getD (settings.holds slot)) ∧
      ∀ first second : Operation, (∀ slot, ¬(first.Addresses slot ∧ second.Addresses slot)) →
        ∀ before after, settings.run (before ++ first :: second :: after) =
          settings.run (before ++ second :: first :: after) :=
  ⟨fun _ _ => step_error_iff, fun _ _ => step_eq_self_of_error,
    fun _ _ => Operation.isSome_stored?_iff,
    fun operations slot => holds_run operations settings slot,
    fun _ _ hapart before after => run_swap hapart settings before after⟩

/-- Six and a half lines are seven, a name of the other record fails, and so does a toggle for a
number; what was assigned before a field was restored is gone. -/
theorem run_keeps_last_write_mixed :
    let operations : List Operation :=
      [.display (.set .excerptLines (.number 2.5)), .forces (.setNamed "card_width" (.number 200)),
        .display (.setNamed "excerpt_lines" (.number 6.5)),
        .forces (.set .linkForce (.number .nan)),
        .display (.setNamed "font_size" (.toggle true)), .forces (.resetNamed "link_force")]
    (step {} (.forces (.setNamed "card_width" (.number 200)))).1 =
        .error (.unknownField "card_width") ∧
      (step {} (.display (.setNamed "font_size" (.toggle true)))).1 =
        .error (.kindMismatch "font_size" .number (.toggle true)) ∧
      (run {} operations).holds (.inl .excerptLines) = .number 7 ∧
      (run {} operations).holds (.inl .fontSize) = .number 14 ∧
      (run {} operations).holds (.inr .linkForce) = .number 1 := by
  obtain ⟨hfails, -, -, hlast, -⟩ := run_keeps_last_write {}
  refine ⟨?_, ?_, ?_, ?_, ?_⟩
  · refine (hfails _ _).2 (.inl ⟨_, rfl, fun field => ?_, rfl⟩)
    cases field <;> decide
  · exact (hfails _ _).2 (.inr ⟨.fontSize, _, by decide, rfl, by decide, rfl⟩)
  · exact (hlast _ _).trans (by decide +kernel)
  · exact (hlast _ _).trans (by decide +kernel)
  · exact (hlast _ _).trans (by decide +kernel)

/-! ### Edits by name -/

/-- The operation that an edit of the program is. -/
def Operation.ofEdit : Edit → Operation
  | .set .display given value => .display (.setNamed given value)
  | .set .forces given value => .forces (.setNamed given value)
  | .reset .display given => .display (.resetNamed given)
  | .reset .forces given => .forces (.resetNamed given)

theorem step_ofEdit (settings : Settings) (change : Edit) :
    settings.step (Operation.ofEdit change) = settings.apply change := by
  match change with
  | .set .display _ _ | .set .forces _ _ => rfl
  | .reset .display _ | .reset .forces _ => rfl

theorem editAll_eq_run (settings : Settings) (edits : List Edit) :
    settings.editAll edits = settings.run (edits.map Operation.ofEdit) := by
  simp only [editAll, run, List.foldl_map, step_ofEdit]

end Settings

end NoteCards

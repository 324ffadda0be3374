import NoteCards.Proofs.Binary64.Whole
import NoteCards.Settings.Basic

/-!
# The fields of a record

What the two records of settings have in common: their fields go by names of their own, which the
table has as they are, each takes values of one kind and keeps what `kept` makes of them, assigning
or restoring one field leaves the others, an assignment that fails leaves them all, and a record is
no more than what its fields hold. A display keeps the lines of the excerpt as a whole number, every
other field keeps a value as it is.
-/

namespace NoteCards

open SettingsField

def SettingsField.kind {F : Type} [SettingsField F] (field : F) : Kind :=
  (initial field).kind

/-- The fields are all listed, each has a name of its own, and the table has these names. -/
class LawfulFields (F : Type) [SettingsField F] : Prop where
  mem_all (field : F) : field ∈ (all : List F)
  name_injective : Function.Injective (name : F → String)
  table_eq : (table : List (String × F)) = all.map fun field => (name field, field)

/-- The laws of a record that is read and written field by field. -/
class LawfulSettings (R : Type) (F : outParam Type) [DecidableEq F] [SettingsRecord R F] where
  /-- What a field holds after a value of its kind was assigned to it. -/
  kept : F → Setting → Setting
  set_error (record : R) (field : F) (value : Setting) (hkind : value.kind ≠ kind field) :
    SettingsRecord.set record field value =
      (.error (.kindMismatch (name field) (kind field) value), record)
  set_ok (record : R) (field : F) (value : Setting) (hkind : value.kind = kind field) :
    ∃ changed, SettingsRecord.set record field value = (.ok (), changed) ∧
      ∀ other, SettingsRecord.get changed other =
        if other = field then kept field value else SettingsRecord.get record other
  get_reset (record : R) (field other : F) :
    SettingsRecord.get (SettingsRecord.reset record field) other =
      if other = field then initial field else SettingsRecord.get record other
  ext (first second : R)
    (hsame : ∀ field, SettingsRecord.get first field = SettingsRecord.get second field) :
    first = second

namespace LawfulSettings

variable {R F : Type} [DecidableEq F] [SettingsRecord R F] [LawfulSettings R F]
variable {record changed : R} {field : F} {value : Setting}

/-- An assignment results in the record that holds what it should in every field. -/
theorem set_eq_ok (hkind : value.kind = kind field)
    (hget : ∀ other, SettingsRecord.get changed other =
      if other = field then kept R field value else SettingsRecord.get record other) :
    SettingsRecord.set record field value = (.ok (), changed) := by
  obtain ⟨found, hset, hfound⟩ := set_ok record field value hkind
  have hsame : found = changed := by
    apply LawfulSettings.ext
    intro other
    rw [hfound, hget]
  rw [hset, hsame]

end LawfulSettings

namespace SettingsField

variable {F : Type} [SettingsField F] [LawfulFields F] {given : String} {field : F}

theorem mem_table_iff : (given, field) ∈ (table : List (String × F)) ↔ name field = given := by
  rw [LawfulFields.table_eq, List.mem_map]
  constructor
  · rintro ⟨found, -, hentry⟩
    cases hentry
    rfl
  · rintro rfl
    exact ⟨field, LawfulFields.mem_all field, rfl⟩

theorem lookup_table_eq_some_iff :
    (table : List (String × F)).lookup given = some field ↔ name field = given := by
  have hname : ∀ {found : F}, (table : List (String × F)).lookup given = some found →
      name found = given := by
    intro found hfound
    obtain ⟨before, after, htable, -⟩ := List.lookup_eq_some_iff.1 hfound
    apply mem_table_iff.1
    rw [htable]
    exact List.mem_append_right before List.mem_cons_self
  constructor
  · exact hname
  · intro hfield
    cases hfound : (table : List (String × F)).lookup given with
    | none =>
      have hdiffers := List.lookup_eq_none_iff.1 hfound (given, field) (mem_table_iff.2 hfield)
      exact absurd rfl (bne_iff_ne.1 hdiffers)
    | some found => rw [LawfulFields.name_injective ((hname hfound).trans hfield.symm)]

theorem ofName?_eq_error (hname : ∀ field : F, name field ≠ given) :
    (ofName? given : Except SettingsError F) = .error (.unknownField given) := by
  have hnone : (table : List (String × F)).lookup given = none :=
    Option.eq_none_iff_forall_ne_some.2 fun field hfield =>
      hname field (lookup_table_eq_some_iff.1 hfield)
  rw [ofName?, hnone]

theorem ofName?_eq_ok (hname : name field = given) : ofName? given = .ok field := by
  rw [ofName?, lookup_table_eq_some_iff.2 hname]

end SettingsField

namespace Setting

variable {value : Setting} (field : String)

theorem exists_number (hkind : value.kind = .number) : ∃ x, value = .number x := by
  cases value with
  | number x => exact ⟨x, rfl⟩
  | toggle b => exact nomatch hkind

theorem exists_toggle (hkind : value.kind = .toggle) : ∃ b, value = .toggle b := by
  cases value with
  | number x => exact nomatch hkind
  | toggle b => exact ⟨b, rfl⟩

theorem number?_eq_error (hkind : value.kind ≠ .number) :
    value.number? field = .error (.kindMismatch field .number value) := by
  cases value with
  | number x => exact absurd rfl hkind
  | toggle b => rfl

theorem toggle?_eq_error (hkind : value.kind ≠ .toggle) :
    value.toggle? field = .error (.kindMismatch field .toggle value) := by
  cases value with
  | number x => rfl
  | toggle b => exact absurd rfl hkind

end Setting

/-! ### Displays -/

namespace Display

/-- The lines of an excerpt are the nearest whole number of 32 bits. -/
def kept : DisplayField → Setting → Setting
  | .excerptLines, .number x => .number (.ofNat (x.nearestCount (2 ^ 32 - 1)))
  | _, value => value

theorem toNat_ofNat_roundInto (x : Binary64) :
    (UInt32.ofNat (x.roundInto (UInt32.size - 1))).toNat = x.nearestCount (2 ^ 32 - 1) := by
  have hlimit : UInt32.size - 1 = 2 ^ 32 - 1 := by decide
  have hround := x.roundInto_le (2 ^ 32 - 1)
  rw [hlimit, ← Binary64.roundInto_eq_nearestCount, UInt32.toNat_ofNat_of_lt']
  exact Nat.lt_of_le_pred (by decide) hround

theorem ofNat_toNat_inj {lines others : UInt32} :
    Binary64.ofNat lines.toNat = .ofNat others.toNat ↔ lines = others := by
  constructor
  · intro hsame
    have hlines := lines.toNat_lt
    have hothers := others.toNat_lt
    have hcount := congrArg (Binary64.roundInto (2 ^ 32)) hsame
    rw [Binary64.roundInto_ofNat (by omega), Binary64.roundInto_ofNat (by omega)] at hcount
    apply UInt32.toNat_inj.1
    omega
  · rintro rfl
    rfl

theorem set_error (display : Display) (field : DisplayField) (value : Setting)
    (hkind : value.kind ≠ kind field) :
    display.set field value =
      (.error (.kindMismatch (name field) (kind field) value), display) := by
  cases field with
  | showTags | showArrows => rw [set, Setting.toggle?_eq_error _ hkind]; rfl
  | cardWidth | cardHeight | fontSize | excerptLines =>
    rw [set, Setting.number?_eq_error _ hkind]; rfl

theorem set_ok (display : Display) (field : DisplayField) (value : Setting)
    (hkind : value.kind = kind field) :
    ∃ changed, display.set field value = (.ok (), changed) ∧ ∀ other,
      changed.get other = if other = field then kept field value else display.get other := by
  cases field with
  | showTags | showArrows =>
    obtain ⟨b, rfl⟩ := Setting.exists_toggle hkind
    refine ⟨_, rfl, fun other => ?_⟩
    cases other <;> simp [get, kept]
  | cardWidth | cardHeight | fontSize =>
    obtain ⟨x, rfl⟩ := Setting.exists_number hkind
    refine ⟨_, rfl, fun other => ?_⟩
    cases other <;> simp [get, kept]
  | excerptLines =>
    -- the one field that does not keep a number as it is
    obtain ⟨x, rfl⟩ := Setting.exists_number hkind
    refine ⟨_, rfl, fun other => ?_⟩
    cases other with
    | excerptLines =>
      rw [if_pos rfl]
      exact congrArg (fun lines => Setting.number (.ofNat lines)) (toNat_ofNat_roundInto x)
    | _ => simp [get]

theorem get_reset (display : Display) (field other : DisplayField) :
    (display.reset field).get other =
      if other = field then initial field else display.get other := by
  cases field <;> cases other <;> simp [get, reset, initial]
  rfl

theorem ext_get {first second : Display} (hsame : ∀ field, first.get field = second.get field) :
    first = second := by
  have hlines := hsame .excerptLines
  simp only [get, Setting.number.injEq, ofNat_toNat_inj] at hlines
  have hwidth := hsame .cardWidth
  have hheight := hsame .cardHeight
  have hfont := hsame .fontSize
  have htags := hsame .showTags
  have harrows := hsame .showArrows
  simp only [get, Setting.number.injEq, Setting.toggle.injEq] at hwidth hheight hfont htags harrows
  cases first
  cases second
  simp_all

instance : LawfulFields DisplayField where
  mem_all field := by cases field <;> decide
  name_injective := by
    intro field other hname
    cases field <;> cases other <;> first | rfl | exact absurd hname (by decide)
  table_eq := rfl

instance : LawfulSettings Display DisplayField where
  kept := kept
  set_error := set_error
  set_ok := set_ok
  get_reset := get_reset
  ext _ _ := ext_get

end Display

/-! ### Forces -/

namespace Forces

theorem kind_eq (field : ForceField) : kind field = .number := by
  cases field <;> rfl

theorem get_put (forces : Forces) (field other : ForceField) (x : Binary64) :
    (forces.put field x).get other = if other = field then .number x else forces.get other := by
  cases field <;> cases other <;> simp [get, put]

theorem set_error (forces : Forces) (field : ForceField) (value : Setting)
    (hkind : value.kind ≠ kind field) :
    forces.set field value =
      (.error (.kindMismatch (name field) (kind field) value), forces) := by
  rw [kind_eq] at hkind ⊢
  rw [set, Setting.number?_eq_error _ hkind]
  rfl

theorem set_ok (forces : Forces) (field : ForceField) (value : Setting)
    (hkind : value.kind = kind field) :
    ∃ changed, forces.set field value = (.ok (), changed) ∧ ∀ other,
      changed.get other = if other = field then value else forces.get other := by
  rw [kind_eq] at hkind
  obtain ⟨x, rfl⟩ := Setting.exists_number hkind
  exact ⟨_, rfl, fun other => forces.get_put field other x⟩

theorem get_reset (forces : Forces) (field other : ForceField) :
    (forces.reset field).get other = if other = field then initial field else forces.get other := by
  cases field <;> rw [reset, get_put] <;> rfl

theorem ext_get {first second : Forces} (hsame : ∀ field, first.get field = second.get field) :
    first = second := by
  have hrepel := hsame .repelForce
  have hlink := hsame .linkForce
  have hdistance := hsame .linkDistance
  have hcenter := hsame .centerForce
  simp only [get, Setting.number.injEq] at hrepel hlink hdistance hcenter
  cases first
  cases second
  simp_all

instance : LawfulFields ForceField where
  mem_all field := by cases field <;> decide
  name_injective := by
    intro field other hname
    cases field <;> cases other <;> first | rfl | exact absurd hname (by decide)
  table_eq := rfl

instance : LawfulSettings Forces ForceField where
  kept _ value := value
  set_error := set_error
  set_ok := set_ok
  get_reset := get_reset
  ext _ _ := ext_get

end Forces

end NoteCards

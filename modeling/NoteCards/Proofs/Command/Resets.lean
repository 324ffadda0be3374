import NoteCards.Command.Run
import NoteCards.Proofs.Configuration.Fields

/-!
# Fields restored on the command line

Restoring fields of loaded settings comes to the same as loading the configuration without their
keys (`resets_are_deletions`). The two ways share no step: one changes a record field by field, the
other reads a smaller layer. They meet in what each field holds, for a layer without the key of a
field leaves the field at its initial value, and the other fields do not see that key.
-/

namespace NoteCards

open NoteCards.Configuration NoteCards.Data Settings

namespace Configuration

/-! ### Keys deleted from tables -/

/-- The key is one of the names, and a field of the record goes by it. -/
def IsErased (names : List String) (part : Section) (key : String) : Prop :=
  key ∈ names ∧ ∃ slot ∈ Slot.all, slot.part = part ∧ slot.name = key

instance (names : List String) (part : Section) (key : String) :
    Decidable (IsErased names part key) :=
  inferInstanceAs (Decidable (key ∈ names ∧ ∃ slot ∈ Slot.all, slot.part = part ∧ slot.name = key))

/-- A table without the entries of some keys; other values have no entries to lose. -/
def eraseEntries (erased : String → Prop) [DecidablePred erased] : Value → Value
  | .object entries => .object (entries.filter fun entry => ¬erased entry.1)
  | value => value

/-- The layer without the entries of some fields in the table of a record. -/
def eraseIn (part : Section) (names : List String) (layer : List (String × Value)) :
    List (String × Value) :=
  layer.map fun (key, value) =>
    (key, if key = part.name then eraseEntries (IsErased names part) value else value)

/-- The layer without the entries of some fields in the tables that they belong to. -/
def eraseFields (names : List String) (layer : List (String × Value)) : List (String × Value) :=
  eraseIn .forces names (eraseIn .display names layer)

section Erase

variable {erased : String → Prop} [DecidablePred erased] {names : List String}
  {part other : Section} {key : String} {value : Value} {layer entries : List (String × Value)}

theorem entriesOf_eraseEntries :
    entriesOf (eraseEntries erased value) =
      (entriesOf value).filter fun entry => ¬erased entry.1 := by
  cases value with
  | object entries => rfl
  | _ => exact List.filter_nil.symm

theorem isTable_eraseEntries : isTable (eraseEntries erased value) = isTable value := by
  cases value <;> rfl

theorem valuesUnder_filter :
    valuesUnder key (entries.filter fun entry => ¬erased entry.1) =
      if erased key then [] else valuesUnder key entries := by
  induction entries with
  | nil => rw [List.filter_nil, valuesUnder, ite_self]
  | cons entry rest ih =>
    obtain ⟨name, value⟩ := entry
    by_cases hname : erased name
    · rw [List.filter_cons_of_neg (by simpa using hname), ih, valuesUnder]
      by_cases hkey : name = key
      · rw [← hkey, if_pos hname, if_pos hname]
      · rw [if_neg hkey]
    · rw [List.filter_cons_of_pos (by simpa using hname), valuesUnder, ih, valuesUnder]
      by_cases hkey : name = key
      · rw [← hkey, if_pos rfl, if_pos rfl, if_neg hname, if_neg hname]
      · rw [if_neg hkey, if_neg hkey]

theorem valuesUnder_eraseIn :
    valuesUnder key (eraseIn part names layer) =
      if key = part.name then (valuesUnder key layer).map (eraseEntries (IsErased names part))
      else valuesUnder key layer := by
  induction layer with
  | nil => rw [eraseIn, List.map_nil, valuesUnder, List.map_nil, ite_self]
  | cons entry rest ih =>
    obtain ⟨name, value⟩ := entry
    rw [eraseIn, List.map_cons, ← eraseIn, valuesUnder, ih, valuesUnder]
    by_cases hname : name = key
    · subst hname
      rw [if_pos rfl, if_pos rfl]
      split <;> rfl
    · rw [if_neg hname, if_neg hname]

theorem tableOf_eraseIn_self :
    tableOf part (eraseIn part names layer) =
      (tableOf part layer).filter fun entry => ¬IsErased names part entry.1 := by
  rw [tableOf, tableUnder, valuesUnder_eraseIn, if_pos rfl, List.flatMap_map, tableOf, tableUnder,
    List.filter_flatMap]
  simp only [entriesOf_eraseEntries]

theorem tableOf_eraseIn_other (hother : other ≠ part) :
    tableOf other (eraseIn part names layer) = tableOf other layer := by
  have hname : other.name ≠ part.name := by
    cases other <;> cases part <;> first | exact absurd rfl hother | decide
  rw [tableOf, tableUnder, valuesUnder_eraseIn, if_neg hname, tableOf, tableUnder]

theorem tableOf_eraseFields :
    tableOf part (eraseFields names layer) =
      (tableOf part layer).filter fun entry => ¬IsErased names part entry.1 := by
  cases part with
  | display => rw [eraseFields, tableOf_eraseIn_other (by decide), tableOf_eraseIn_self]
  | forces => rw [eraseFields, tableOf_eraseIn_self, tableOf_eraseIn_other (by decide)]

theorem IsTabular.eraseIn (hlayer : IsTabular layer) :
    IsTabular (Configuration.eraseIn part names layer) where
  plain entry hentry := by
    obtain ⟨first, hfirst, rfl⟩ := List.mem_map.1 hentry
    exact hlayer.plain first hfirst
  tables other value hvalue := by
    rw [valuesUnder_eraseIn] at hvalue
    split at hvalue
    · obtain ⟨first, hfirst, rfl⟩ := List.mem_map.1 hvalue
      rw [isTable_eraseEntries]
      exact hlayer.tables other first hfirst
    · exact hlayer.tables other value hvalue

theorem IsTabular.eraseFields (hlayer : IsTabular layer) :
    IsTabular (Configuration.eraseFields names layer) :=
  hlayer.eraseIn.eraseIn

theorem isErased_iff (slot : Slot) : IsErased names slot.part slot.name ↔ slot.name ∈ names :=
  ⟨And.left, fun hname => ⟨hname, slot, slot.mem_all, rfl, rfl⟩⟩

theorem valuesUnder_eraseFields (slot : Slot) :
    valuesUnder slot.name (tableOf slot.part (eraseFields names layer)) =
      if slot.name ∈ names then [] else valuesUnder slot.name (tableOf slot.part layer) := by
  rw [tableOf_eraseFields, valuesUnder_filter]
  simp only [isErased_iff]

theorem settingIn?_eraseFields (slot : Slot) :
    settingIn? (eraseFields names layer) slot =
      if slot.name ∈ names then some slot.initial else settingIn? layer slot := by
  have hvalues : valuesUnder slot.name (tableOf slot.part (eraseFields names layer)) = _ :=
    valuesUnder_eraseFields slot
  by_cases hname : slot.name ∈ names
  · rw [if_pos hname] at hvalues ⊢
    cases slot with
    | inl field => exact settingOver?_of_not_given hvalues
    | inr field => exact settingOver?_of_not_given hvalues
  · rw [if_neg hname] at hvalues ⊢
    cases slot with
    | inl field => exact settingOver?_congr hvalues
    | inr field => exact settingOver?_congr hvalues

end Erase

end Configuration

/-! ### Resets -/

namespace Command

section Resets

variable {disk source : Disk} {surroundings : Surroundings} {config : Option String}
  {path : String} {creation : Option Creation} {layer : List (String × Value)} {loaded : Settings}
  {names : List String}

theorem printSettings_of_error {e : SettingsError}
    (hfail : (loaded.resetFields names).1 = .error e) :
    printSettings names loaded = .failure e.message := by
  rw [printSettings]
  split
  · next found _ hfound =>
    rw [hfound] at hfail
    cases hfail
    rfl
  · next hok =>
    rw [hok] at hfail
    exact nomatch hfail

theorem run_settings (hload : loadSettings disk surroundings config = (.ok loaded, creation)) :
    run disk surroundings (.settings config names) =
      { printSettings names loaded with creation } := by
  rw [run, withSettings, hload]

/-- **Resets.** The settings that are printed after resetting some fields are those of the
configuration without the keys of these fields, whatever the order of the names and however often
each is given: the fields named hold their initial values, the others what was loaded. A name of no
field fails, and then nothing is printed but the complaint about the first such name. -/
theorem resets_are_deletions
    (hsource : loadSettings disk surroundings config = (load source path, creation))
    (hlayer : layerAt? source path = some layer) (htabular : IsTabular layer)
    (hload : load source path = .ok loaded) (names : List String) :
    ((∀ name ∈ names, IsFieldName name) → ∃ changed,
      (∀ others : List String, (∀ name, name ∈ others ↔ name ∈ names) →
        run disk surroundings (.settings config others) =
          { Outcome.success (Json.pretty changed.toValue ++ "\n") with creation }) ∧
      settingsOver? (eraseFields names layer) = some changed ∧
      (∀ other place, layerAt? other place = some (eraseFields names layer) →
        load other place = .ok changed) ∧
      ∀ slot, changed.holds slot =
        if slot.name ∈ names then slot.initial else loaded.holds slot) ∧
    ((∃ name ∈ names, ¬IsFieldName name) → ∃ unknown,
      names.find? (¬IsFieldName ·) = some unknown ∧
      run disk surroundings (.settings config names) =
        { Outcome.failure (SettingsError.unknownField unknown).message with creation }) := by
  have hloaded : loadSettings disk surroundings config = (.ok loaded, creation) :=
    hsource.trans (congrArg (·, creation) hload)
  constructor
  · intro hnames
    obtain ⟨changed, -, hholds⟩ := resetFields_eq_ok hnames loaded
    have herased : settingsOver? (eraseFields names layer) = some changed := by
      have hread := (settingsOver?_eq_some_iff htabular).1 ((load_eq_ok_iff hlayer).1 hload)
      rw [settingsOver?_eq_some_iff htabular.eraseFields]
      intro slot
      rw [settingIn?_eraseFields, hread, hholds]
      split <;> rfl
    refine ⟨changed, fun others hothers => ?_, herased,
      fun other place hplace => (load_eq_ok_iff hplace).2 herased, hholds⟩
    -- what the fields hold does not depend on the order, and nothing else is in the record
    obtain ⟨same, hsame, hsameHolds⟩ :=
      resetFields_eq_ok (fun name hname => hnames name ((hothers name).1 hname)) loaded
    have heq : same = changed := ext_holds fun slot => by
      rw [hsameHolds, hholds]
      simp only [hothers]
    rw [run_settings hloaded, printSettings, hsame, heq]
  · rintro ⟨name, hname, hunknown⟩
    have hfound : (names.find? (¬IsFieldName ·)).isSome := by
      rw [List.find?_isSome]
      exact ⟨name, hname, by simpa using hunknown⟩
    obtain ⟨unknown, hfirst⟩ := Option.isSome_iff_exists.1 hfound
    refine ⟨unknown, hfirst, ?_⟩
    rw [run_settings hloaded, printSettings_of_error (resetFields_eq_error loaded hfirst)]

/-- A field is restored that the file gives, and one that it does not; a third name is unknown. -/
theorem resets_are_deletions_font :
    let disk := Disk.ofFiles
      [("c.toml", .ofString "[display]\nfont_size = 20\n[forces]\nlink_force = 0.25\n")]
    let changed : Settings := { forces := { linkForce := 0.25 } }
    run disk ⟨none, none⟩ (.settings (some "c.toml") ["repel_force", "font_size"]) =
        .success (Json.pretty changed.toValue ++ "\n") ∧
      run disk ⟨none, none⟩ (.settings (some "c.toml") ["font_size", "zoom", "spin"]) =
        .failure (SettingsError.unknownField "zoom").message := by
  intro disk changed
  let loaded : Settings := { display := { fontSize := 20 }, forces := { linkForce := 0.25 } }
  -- the file is read once for all that is asked of its root
  obtain ⟨hsome, htabular, hover⟩ :
      (layerAt? disk "c.toml").isSome = true ∧ IsTabular ((layerAt? disk "c.toml").getD []) ∧
        settingsOver? ((layerAt? disk "c.toml").getD []) = some loaded := by
    decide +kernel
  obtain ⟨layer, hlayer⟩ := Option.isSome_iff_exists.1 hsome
  rw [hlayer, Option.getD_some] at htabular hover
  have hload : load disk "c.toml" = .ok loaded := (load_eq_ok_iff hlayer).2 hover
  have hsource : loadSettings disk ⟨none, none⟩ (some "c.toml") = (load disk "c.toml", none) := rfl
  constructor
  · obtain ⟨hknown, -⟩ := resets_are_deletions hsource hlayer htabular hload
      ["font_size", "repel_force", "font_size"]
    obtain ⟨printed, hrun, -, -, hholds⟩ := hknown (by decide)
    have hprinted : printed = changed := ext_holds fun slot => by
      rw [hholds]
      rcases slot with field | field <;> cases field <;> decide +kernel
    rw [← hprinted]
    exact hrun ["repel_force", "font_size"] (by simp)
  · obtain ⟨-, hunknown⟩ := resets_are_deletions hsource hlayer htabular hload
      ["font_size", "zoom", "spin"]
    obtain ⟨unknown, hfirst, hrun⟩ := hunknown ⟨"zoom", by decide, by decide⟩
    have hzoom : unknown = "zoom" := Option.some.inj (hfirst.symm.trans (by decide +kernel))
    rw [hzoom] at hrun
    exact hrun

end Resets

end Command

end NoteCards

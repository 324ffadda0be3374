import NoteCards.Command.Run
import NoteCards.Proofs.Settings.Clamp

/-!
# Sliders of the simulation

The command for the parameters of the simulation takes them from settings that were pulled into
their ranges. Every field is then in its range but for those that held what is not a number, which a
configuration file may hold too.
-/

namespace NoteCards

open NoteCards.Configuration SettingsField

namespace Settings

def AllInRange (settings : Settings) : Prop :=
  (∀ field, SettingsRecord.InRange settings.display field) ∧
    ∀ field, SettingsRecord.InRange settings.forces field

def HoldsNoNaN (settings : Settings) : Prop :=
  (∀ field, settings.display.get field ≠ .number .nan) ∧
    ∀ field, settings.forces.get field ≠ .number .nan

theorem allInRange_clamped_iff (settings : Settings) :
    settings.clamped.AllInRange ↔ settings.HoldsNoNaN := by
  have hdisplay := fun field => inRange_clamped_iff settings.display field
  have hforces := fun field => inRange_clamped_iff settings.forces field
  exact and_congr (forall_congr' hdisplay) (forall_congr' hforces)

end Settings

namespace Command

variable {disk : Disk} {surroundings : Surroundings} {config : Option String}
  {loaded : Settings} {creation : Option Creation}

theorem run_forces (hload : loadSettings disk surroundings config = (.ok loaded, creation)) :
    run disk surroundings (.forces config) =
      { Outcome.success
          (Json.pretty (Parameters.ofSettings loaded.clamped standardPhysics).toValue ++ "\n") with
        creation } := by
  rw [run, withSettings, hload]
  rfl

/-- **Fields pulled into their ranges.** A field of clamped settings is in its range exactly when
the settings do not hold NaN in it. The parameters that are printed for a configuration are those of
the clamped settings, and all fields of these are in range exactly when no field that was loaded is
NaN. -/
theorem sliders_in_range (settings : Settings) :
    (∀ field, SettingsRecord.InRange settings.display.clamped field ↔
        settings.display.get field ≠ .number .nan) ∧
      (∀ field, SettingsRecord.InRange settings.forces.clamped field ↔
        settings.forces.get field ≠ .number .nan) ∧
      ∀ (disk : Disk) (surroundings : Surroundings) (config : Option String)
        (creation : Option Creation),
        loadSettings disk surroundings config = (.ok settings, creation) →
          run disk surroundings (.forces config) =
            { Outcome.success (Json.pretty
                (Parameters.ofSettings settings.clamped standardPhysics).toValue ++ "\n") with
              creation } ∧
          (settings.clamped.AllInRange ↔ settings.HoldsNoNaN) :=
  ⟨fun field => inRange_clamped_iff settings.display field,
    fun field => inRange_clamped_iff settings.forces field,
    fun _ _ _ _ hload => ⟨run_forces hload, settings.allInRange_clamped_iff⟩⟩

theorem load_of_toOption {path : String} (hload : (load disk path).toOption = some loaded) :
    load disk path = .ok loaded := by
  cases hresult : load disk path with
  | error e =>
    rw [hresult] at hload
    exact nomatch hload
  | ok settings =>
    rw [hresult] at hload
    exact congrArg Except.ok (Option.some.inj hload)

/-- Infinities and numbers beyond the bounds are pulled into the ranges. -/
theorem sliders_in_range_infinite :
    let disk := Disk.ofFiles
      [("wide.toml", .ofString "[display]\nfont_size = 9\n[forces]\nlink_distance = -inf\n")]
    let loaded : Settings :=
      { display := { fontSize := 9 }, forces := { linkDistance := .infinite true } }
    loadSettings disk ⟨none, none⟩ (some "wide.toml") = (.ok loaded, none) ∧
      run disk ⟨none, none⟩ (.forces (some "wide.toml")) =
        .success (Json.pretty (Parameters.ofSettings loaded.clamped standardPhysics).toValue ++
          "\n") ∧
      loaded.clamped.AllInRange := by
  intro disk loaded
  have hload : loadSettings disk ⟨none, none⟩ (some "wide.toml") = (.ok loaded, none) :=
    congrArg (·, none) (load_of_toOption (by decide +kernel))
  obtain ⟨-, -, hforces⟩ := sliders_in_range loaded
  obtain ⟨hrun, hrange⟩ := hforces disk ⟨none, none⟩ (some "wide.toml") none hload
  refine ⟨hload, hrun, hrange.2 ⟨fun field => ?_, fun field => ?_⟩⟩
  · cases field <;> decide +kernel
  · cases field <;> decide +kernel

/-- A configuration with NaN is read, and NaN is what the simulation is given. -/
theorem slider_out_of_range :
    ¬((∀ (display : Display) (field : DisplayField), SettingsRecord.InRange display.clamped field) ∧
        (∀ (forces : Forces) (field : ForceField), SettingsRecord.InRange forces.clamped field) ∧
        ∀ (disk : Disk) (path : String) (loaded : Settings),
          load disk path = .ok loaded → loaded.clamped.AllInRange) := by
  rintro ⟨-, -, hall⟩
  have hload : load (Disk.ofFiles [("c.toml", .ofString "[forces]\nrepel_force = nan\n")])
      "c.toml" = .ok { forces := { repelForce := .nan } } := load_of_toOption (by decide +kernel)
  have hnumbers := (Settings.allInRange_clamped_iff _).1 (hall _ _ _ hload)
  exact hnumbers.2 .repelForce rfl

end Command

end NoteCards

import NoteCards.Proofs.Configuration.Fields

/-!
# Partial configurations

A configuration file that leaves fields out means what assigning the others by name means
(`load_eq_assignments`). Both sides are settled field by field: the layer has for a field the
setting that its value writes, or the initial one where it has no value, and assigning in any order
leaves these same settings in the fields.
-/

namespace NoteCards.Configuration

open NoteCards.Data Settings

/-- The setting that a value writes in a field as it is: a number or a whole number for a number, a
truth value for a toggle, and for the lines of the excerpt a whole number of 32 bits. -/
def written? (slot : Slot) (value : Value) : Option Setting :=
  match slot.initial, value with
  | .number _, .number x => if slot = .inl .excerptLines then none else some (.number x)
  | .number _, .integer n =>
    if slot = .inl .excerptLines ∧ ¬(0 ≤ n ∧ n.toNat < UInt32.size) then none
    else some (.number (.ofInt n))
  | .toggle _, .bool b => some (.toggle b)
  | _, _ => none

/-- The layer writes in the fields what they are assigned, and has no values for other fields. -/
structure Assigns (layer : List (String × Value)) (assigned : Slot → Option Setting) : Prop
    extends IsTabular layer where
  fields : ∀ slot : Slot, (Value.lookup? slot.name (tableOf slot.part layer)).map (written? slot) =
    (assigned slot).map some

section Assign

variable {slot : Slot} {value : Value} {setting : Setting} {layer : List (String × Value)}
  {assigned : Slot → Option Setting}

theorem ofInt_natCast (n : Nat) : Binary64.ofInt n = .ofNat n := by
  rw [Binary64.ofInt, Binary64.ofNat, Int.natAbs_natCast, decide_eq_false (by omega)]

theorem written?_cases (hwritten : written? slot value = some setting) :
    (slot = .inl .excerptLines ∧
        ∃ count, word32? value = some count ∧ setting = .number (.ofNat count.toNat)) ∨
      (slot ≠ .inl .excerptLines ∧ slot.initial.kind = .number ∧
        ∃ x, float? value = some x ∧ setting = .number x) ∨
      (slot.initial.kind = .toggle ∧ ∃ b, bool? value = some b ∧ setting = .toggle b) := by
  unfold written? at hwritten
  split at hwritten
  · next x hinitial =>
    split at hwritten
    · exact nomatch hwritten
    · next hslot =>
      exact .inr (.inl ⟨hslot, by rw [hinitial]; rfl, x, rfl, (Option.some.inj hwritten).symm⟩)
  · next n hinitial =>
    split at hwritten
    · exact nomatch hwritten
    · next hlines =>
      rw [← Option.some.inj hwritten]
      by_cases hslot : slot = .inl .excerptLines
      · have hrange : 0 ≤ n ∧ n.toNat < UInt32.size := by
          by_contra hout
          exact hlines ⟨hslot, hout⟩
        refine .inl ⟨hslot, .ofNat n.toNat, ?_, ?_⟩
        · simp only [word32?, if_pos hrange.1, Option.bind_some, if_pos hrange.2]
        · rw [UInt32.toNat_ofNat_of_lt' hrange.2, ← ofInt_natCast, Int.toNat_of_nonneg hrange.1]
      · exact .inr (.inl ⟨hslot, by rw [hinitial]; rfl, _, rfl, rfl⟩)
  · next b hinitial =>
    exact .inr (.inr ⟨by rw [hinitial]; rfl, b, rfl, (Option.some.inj hwritten).symm⟩)
  · exact nomatch hwritten

theorem written?_ne_object (hwritten : written? slot value = some setting)
    (entries : List (String × Value)) : value ≠ .object entries := by
  rintro rfl
  rcases written?_cases hwritten with ⟨-, _, hread, -⟩ | ⟨-, -, _, hread, -⟩ | ⟨-, _, hread, -⟩ <;>
    exact nomatch hread

theorem kept_lines (count : UInt32) :
    Display.kept .excerptLines (.number (.ofNat count.toNat)) = .number (.ofNat count.toNat) := by
  have hcount := count.toNat_lt
  rw [Display.kept, ← Binary64.roundInto_eq_nearestCount, Binary64.roundInto_ofNat (by omega),
    Nat.min_eq_left (by omega)]

theorem keeps_of_written? (hwritten : written? slot value = some setting) : slot.Keeps setting := by
  rcases written?_cases hwritten with ⟨rfl, count, -, rfl⟩ | ⟨hslot, hkind, x, -, rfl⟩ |
    ⟨hkind, b, -, rfl⟩
  · have hkind : SettingsField.kind DisplayField.excerptLines = .number := rfl
    exact ⟨hkind.symm, kept_lines count⟩
  · rcases slot with field | field
    · refine ⟨hkind.symm, ?_⟩
      cases field with
      | excerptLines => exact absurd rfl hslot
      | _ => rfl
    · exact hkind.symm
  · rcases slot with field | field
    · exact ⟨hkind.symm, by cases field <;> rfl⟩
    · exact hkind.symm

theorem settingIn?_of_written? (hwritten : written? slot value = some setting)
    (hvalue : Value.lookup? slot.name (tableOf slot.part layer) = some value) :
    settingIn? layer slot = some setting := by
  have hplain := written?_ne_object hwritten
  have hcases := written?_cases hwritten
  cases slot with
  | inl field =>
    rw [settingIn?, settingOver?_of_given hvalue hplain]
    change displayField? field value = some setting
    rcases hcases with ⟨hslot, count, hread, rfl⟩ | ⟨hslot, hkind, x, hread, rfl⟩ |
      ⟨hkind, b, hread, rfl⟩
    · cases hslot
      rw [displayField?, hread, Option.map_some]
    · cases field with
      | cardWidth | cardHeight | fontSize =>
        rw [displayField?, hread, Option.map_some]
        all_goals nofun
      | excerptLines => exact absurd rfl hslot
      | showTags | showArrows => exact nomatch hkind
    · cases field with
      | showTags | showArrows => rw [displayField?, hread, Option.map_some]
      | _ => exact nomatch hkind
  | inr field =>
    rw [settingIn?, settingOver?_of_given hvalue hplain]
    change forceField? field value = some setting
    rcases hcases with ⟨hslot, -⟩ | ⟨hslot, hkind, x, hread, rfl⟩ | ⟨hkind, b, hread, rfl⟩
    · exact nomatch hslot
    · rw [forceField?, hread, Option.map_some]
    · cases field <;> exact nomatch hkind

theorem Assigns.settingIn?_eq (hassigns : Assigns layer assigned) (slot : Slot) :
    settingIn? layer slot = some ((assigned slot).getD slot.initial) := by
  have hfield := hassigns.fields slot
  cases hvalue : Value.lookup? slot.name (tableOf slot.part layer) with
  | some value =>
    rw [hvalue] at hfield
    cases hassigned : assigned slot with
    | none => exact nomatch hassigned ▸ hfield
    | some setting =>
      rw [hassigned] at hfield
      exact settingIn?_of_written? (Option.some.inj hfield) hvalue
  | none =>
    rw [hvalue] at hfield
    rw [lookup?_eq_getLast?, List.getLast?_eq_none_iff] at hvalue
    cases hassigned : assigned slot with
    | some setting => exact nomatch hassigned ▸ hfield
    | none =>
      cases slot with
      | inl field => exact settingOver?_of_not_given hvalue
      | inr field => exact settingOver?_of_not_given hvalue

theorem Assigns.keeps (hassigns : Assigns layer assigned)
    (hassigned : assigned slot = some setting) : slot.Keeps setting := by
  have hfield := hassigns.fields slot
  rw [hassigned] at hfield
  obtain ⟨value, -, hwritten⟩ := Option.map_eq_some_iff.1 hfield
  exact keeps_of_written? hwritten

end Assign

/-- **Partial configurations.** A configuration file with values for some fields, and with any other
entries under plain keys, loads. Its settings are those that assigning these fields by name makes of
the initial settings, in whatever order, and the fields that are left out hold their initial
values. -/
theorem load_eq_assignments {disk : Disk} {path : String} {layer : List (String × Value)}
    {assigned : Slot → Option Setting} {order : List Slot}
    (hlayer : layerAt? disk path = some layer) (hassigns : Assigns layer assigned)
    (horder : ∀ slot, (assigned slot).isSome → slot ∈ order) :
    ∃ settings, load disk path = .ok settings ∧
      (order.filterMap fun slot => (assigned slot).map slot.assign).foldlM edit {} =
        .ok settings ∧
      ∀ slot, settings.holds slot = (assigned slot).getD slot.initial := by
  obtain ⟨settings, hrun, hholds⟩ :=
    foldlM_assign (fun _ _ hassigned => hassigns.keeps hassigned) order {}
  have hsettings : ∀ slot, settings.holds slot = (assigned slot).getD slot.initial := by
    intro slot
    obtain ⟨hin, hout⟩ := hholds slot
    rw [holds_default] at hin hout
    by_cases hslot : slot ∈ order
    · exact hin hslot
    · have hnone : assigned slot = none := by
        rw [← Option.not_isSome_iff_eq_none]
        exact fun hsome => hslot (horder slot hsome)
      rw [hout hslot, hnone, Option.getD_none]
  refine ⟨settings, ?_, hrun, hsettings⟩
  rw [load_eq_ok_iff hlayer, settingsOver?_eq_some_iff hassigns.toIsTabular]
  intro slot
  rw [hassigns.settingIn?_eq, hsettings]

/-- Three fields are given, one of them by a whole number, and a key that nothing reads. -/
theorem load_eq_assignments_three :
    let disk := Disk.ofFiles [("partial.toml", .ofString ("zoom-level = 2\n" ++
      "[display]\ncard_width = 300\nexcerpt_lines = 7\n[forces]\nlink_force = 0.25\n"))]
    ∃ settings, load disk "partial" = .ok settings ∧
      [Edit.set .forces "link_force" (.number 0.25), .set .display "excerpt_lines" (.number 7),
        .set .display "card_width" (.number 300)].foldlM edit {} = .ok settings ∧
      settings.holds (.inl .cardHeight) = .number 160 ∧
      settings.holds (.inl .excerptLines) = .number 7 := by
  intro disk
  let assigned : Slot → Option Setting
    | .inl .cardWidth => some (.number 300)
    | .inl .excerptLines => some (.number 7)
    | .inr .linkForce => some (.number 0.25)
    | _ => none
  -- the file is read once for all that is asked of its root
  obtain ⟨hsome, htabular, hfields⟩ :
      (layerAt? disk "partial").isSome = true ∧ IsTabular ((layerAt? disk "partial").getD []) ∧
        ∀ slot ∈ Slot.all, (Value.lookup? slot.name (tableOf slot.part
          ((layerAt? disk "partial").getD []))).map (written? slot) = (assigned slot).map some := by
    decide +kernel
  obtain ⟨layer, hlayer⟩ := Option.isSome_iff_exists.1 hsome
  rw [hlayer, Option.getD_some] at htabular hfields
  have hassigns : Assigns layer assigned := ⟨htabular, fun slot => hfields slot slot.mem_all⟩
  have horder : ∀ slot, (assigned slot).isSome →
      slot ∈ [.inr .linkForce, .inl .excerptLines, .inl .cardWidth] := by
    rintro (field | field) hfield
    · cases field with
      | cardWidth | excerptLines => simp
      | _ => exact nomatch hfield
    · cases field with
      | linkForce => simp
      | _ => exact nomatch hfield
  obtain ⟨settings, hload, hrun, hholds⟩ := load_eq_assignments hlayer hassigns horder
  exact ⟨settings, hload, hrun, hholds (.inl .cardHeight), hholds (.inl .excerptLines)⟩

end NoteCards.Configuration

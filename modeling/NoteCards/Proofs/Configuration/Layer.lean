import NoteCards.Configuration.Layer

/-!
# Layers of tables

A layer whose top keys are no paths is merged entry by entry (`overlay_of_isPlainKey`), and what
then stands under a key depends on what the layer holds under this key only
(`lookup?_mergeEntries`). Tables that are given one after the other under a key come to the same as
one table with the entries of all of them (`lookup?_mergeEntries_of_tables`), so that nothing has to
be assumed about keys that occur twice.
-/

namespace NoteCards.Configuration

open NoteCards.Data

/-- The key stands for itself: there is neither a point nor a bracket in it. -/
def IsPlainKey (key : String) : Prop :=
  ∀ c ∈ key.toList, c ≠ '.' ∧ c ≠ '['

instance (key : String) : Decidable (IsPlainKey key) :=
  List.decidableBAll _ key.toList

theorem scanSteps_nil (fuel : Nat) : scanSteps fuel [] = some [] := by
  cases fuel <;> rfl

theorem scanSteps_cons_eq_none {c : Char} (hc : c ≠ '.' ∧ c ≠ '[') (fuel : Nat) (s : List Char) :
    scanSteps fuel (c :: s) = none := by
  obtain ⟨hpoint, hbracket⟩ := hc
  cases fuel with
  | zero => rfl
  | succ fuel => simp [scanSteps, hpoint, hbracket]

theorem stepsOf_of_isPlainKey {key : String} (hkey : IsPlainKey key) :
    stepsOf key = [.key key] := by
  have hsplit : key.toList.takeWhile isNameChar ++ key.toList.dropWhile isNameChar = key.toList :=
    List.takeWhile_append_dropWhile
  rw [stepsOf, scanSteps]
  cases hrest : key.toList.dropWhile isNameChar with
  | nil =>
    rw [hrest, List.append_nil] at hsplit
    rw [hsplit, String.ofList_toList, scanSteps_nil]
    cases key.toList.isEmpty <;> rfl
  | cons c rest =>
    -- the scan stops at a character that goes on with no step
    have hc : c ∈ key.toList := by
      rw [← hsplit, hrest]
      exact List.mem_append_right _ List.mem_cons_self
    rw [scanSteps_cons_eq_none (hkey c hc)]
    cases (key.toList.takeWhile isNameChar).isEmpty <;> rfl

/-! ### What stands under a key -/

/-- The values under a key, in order. -/
def valuesUnder (key : String) : List (String × Value) → List Value
  | [] => []
  | (name, value) :: rest =>
    if name = key then value :: valuesUnder key rest else valuesUnder key rest

/-- The entries of the tables under a key, one table after the other. -/
def tableUnder (key : String) (entries : List (String × Value)) : List (String × Value) :=
  (valuesUnder key entries).flatMap entriesOf

section Lookup

variable {key name : String} {value : Value} {change : Value → Value}
  {entries layer : List (String × Value)}

theorem lookup?_eq_none (hkey : key ∉ entries.map Prod.fst) : Value.lookup? key entries = none := by
  induction entries with
  | nil => rfl
  | cons entry rest ih =>
    obtain ⟨name, value⟩ := entry
    rw [List.map_cons, List.mem_cons, not_or] at hkey
    rw [Value.lookup?, ih hkey.2, if_neg (Ne.symm hkey.1)]

theorem lookup?_eq_getLast? : Value.lookup? name entries = (valuesUnder name entries).getLast? := by
  induction entries with
  | nil => rfl
  | cons entry rest ih =>
    obtain ⟨key, value⟩ := entry
    rw [Value.lookup?, ih, valuesUnder]
    by_cases hkey : key = name
    · rw [if_pos hkey, if_pos hkey, List.getLast?_cons]
      cases (valuesUnder name rest).getLast? <;> rfl
    · rw [if_neg hkey, if_neg hkey]
      cases (valuesUnder name rest).getLast? <;> rfl

theorem mem_keys_modifyEntry {other : String} :
    other ∈ (modifyEntry key change entries).map Prod.fst ↔
      other = key ∨ other ∈ entries.map Prod.fst := by
  induction entries with
  | nil => simp [modifyEntry]
  | cons entry rest ih =>
    obtain ⟨name, value⟩ := entry
    rw [modifyEntry]
    split
    · next hname => simp [hname]
    · rw [List.map_cons, List.mem_cons, ih, List.map_cons, List.mem_cons]
      exact or_left_comm

theorem nodup_modifyEntry (hkeys : (entries.map Prod.fst).Nodup) :
    ((modifyEntry key change entries).map Prod.fst).Nodup := by
  induction entries with
  | nil => simp [modifyEntry]
  | cons entry rest ih =>
    obtain ⟨name, value⟩ := entry
    rw [List.map_cons, List.nodup_cons] at hkeys
    rw [modifyEntry]
    split
    · rw [List.map_cons, List.nodup_cons]
      exact hkeys
    · next hname =>
      rw [List.map_cons, List.nodup_cons, mem_keys_modifyEntry]
      exact ⟨not_or.2 ⟨hname, hkeys.1⟩, ih hkeys.2⟩

theorem lookup?_modifyEntry (hkeys : (entries.map Prod.fst).Nodup) :
    Value.lookup? name (modifyEntry key change entries) =
      if key = name then some (change ((Value.lookup? name entries).getD .null))
      else Value.lookup? name entries := by
  induction entries with
  | nil => simp [modifyEntry, Value.lookup?]
  | cons entry rest ih =>
    obtain ⟨first, value⟩ := entry
    rw [List.map_cons, List.nodup_cons] at hkeys
    rw [modifyEntry]
    split
    · next hfirst =>
      subst hfirst
      rw [Value.lookup?, Value.lookup?]
      by_cases hname : first = name
      · subst hname
        rw [lookup?_eq_none hkeys.1, if_pos rfl, if_pos rfl, if_pos rfl]
        rfl
      · rw [if_neg hname, if_neg hname, if_neg hname]
    · next hfirst =>
      rw [Value.lookup?, ih hkeys.2, Value.lookup?]
      by_cases hname : key = name
      · subst hname
        rw [if_pos rfl, if_pos rfl, if_neg hfirst]
        cases Value.lookup? key rest <;> rfl
      · rw [if_neg hname, if_neg hname]

theorem lookup?_mergeEntries (hkeys : (entries.map Prod.fst).Nodup) :
    Value.lookup? name (mergeEntries layer entries) =
      (valuesUnder name layer).foldl
        (fun found incoming => some (merge incoming (found.getD .null)))
        (Value.lookup? name entries) := by
  induction layer generalizing entries with
  | nil => rw [mergeEntries]; rfl
  | cons entry rest ih =>
    obtain ⟨key, incoming⟩ := entry
    rw [mergeEntries, ih (nodup_modifyEntry hkeys), lookup?_modifyEntry hkeys, valuesUnder]
    by_cases hname : key = name
    · rw [if_pos hname, if_pos hname, List.foldl_cons]
    · rw [if_neg hname, if_neg hname]

end Lookup

/-! ### Tables -/

def isTable : Value → Bool
  | .object _ => true
  | _ => false

theorem exists_entries {value : Value} (htable : isTable value = true) :
    ∃ entries, value = .object entries := by
  cases value with
  | object entries => exact ⟨entries, rfl⟩
  | _ => exact nomatch htable

theorem mergeEntries_append (first second entries : List (String × Value)) :
    mergeEntries (first ++ second) entries = mergeEntries second (mergeEntries first entries) := by
  induction first generalizing entries with
  | nil => rw [mergeEntries]; rfl
  | cons entry rest ih =>
    obtain ⟨key, incoming⟩ := entry
    rw [List.cons_append, mergeEntries, mergeEntries, ih]

theorem foldl_merge_tables {values : List Value}
    (htables : ∀ value ∈ values, isTable value = true)
    (entries : List (String × Value)) :
    values.foldl (fun found incoming => some (merge incoming (found.getD .null)))
        (some (.object entries)) =
      some (.object (mergeEntries (values.flatMap entriesOf) entries)) := by
  induction values generalizing entries with
  | nil => rw [List.flatMap_nil, mergeEntries]; rfl
  | cons value rest ih =>
    obtain ⟨table, rfl⟩ := exists_entries (htables value List.mem_cons_self)
    rw [List.foldl_cons, List.flatMap_cons, mergeEntries_append, Option.getD_some, merge,
      ih fun value hvalue => htables value (List.mem_cons_of_mem _ hvalue)]
    rfl

theorem lookup?_mergeEntries_of_tables {key : String} {layer entries table : List (String × Value)}
    (hkeys : (entries.map Prod.fst).Nodup)
    (htables : ∀ value ∈ valuesUnder key layer, isTable value = true)
    (htable : Value.lookup? key entries = some (.object table)) :
    Value.lookup? key (mergeEntries layer entries) =
      some (.object (mergeEntries (tableUnder key layer) table)) := by
  rw [lookup?_mergeEntries hkeys, htable, foldl_merge_tables htables, tableUnder]

theorem overlay_of_isPlainKey {layer : List (String × Value)}
    (hplain : ∀ entry ∈ layer, IsPlainKey entry.1) (entries : List (String × Value)) :
    overlay layer (.object entries) = .object (mergeEntries layer entries) := by
  induction layer generalizing entries with
  | nil => rw [mergeEntries]; rfl
  | cons entry rest ih =>
    obtain ⟨key, incoming⟩ := entry
    have hkey : IsPlainKey key := hplain (key, incoming) List.mem_cons_self
    have hrest : ∀ entry ∈ rest, IsPlainKey entry.1 := fun entry hentry =>
      hplain entry (List.mem_cons_of_mem _ hentry)
    have hfirst : overlay ((key, incoming) :: rest) (.object entries) =
        overlay rest (.object (modifyEntry key (merge incoming) entries)) := by
      change overlay rest (modifyAt (merge incoming) (stepsOf key) (.object entries)) = _
      rw [stepsOf_of_isPlainKey hkey]
      rfl
    rw [hfirst, ih hrest, mergeEntries]

end NoteCards.Configuration

import NoteCards.Proofs.Json.RecordTree
import NoteCards.Proofs.Json.WrittenValue

/-!
# Records read from written objects

Where no field is required and no two have the same name, an object with the fields of a record in
order is read as one pass over them, each from its own value (`read_ofEntries`).
-/

namespace NoteCards.Json.RecordShape

open NoteCards.Data

variable {R : Type} {shape : RecordShape R} {room : Nat}

/-- Reads fields one after another, each from a value of its own. -/
def readPairs (room : Nat) (record : R) (pairs : List (FieldShape R × Value)) : Except Error R :=
  pairs.foldlM (fun record pair => pair.1.read record room (.ofValue pair.2)) record

theorem readPairs_nil (record : R) : readPairs room record [] = .ok record :=
  rfl

theorem readPairs_cons {α : Type} {name : String} {reader : Reader α} {put : R → α → R}
    {value : Value} {pairs : List (FieldShape R × Value)} (record : R) :
    readPairs room record ((optionalField name reader put, value) :: pairs) =
      reader room (.ofValue value) >>= fun a => readPairs room (put record a) pairs := by
  rw [readPairs, List.foldlM_cons, optionalField]
  dsimp only
  cases reader room (.ofValue value) <;> rfl

/-- The names of the fields are distinct, and none of the fields is required. -/
structure Lenient (shape : RecordShape R) : Prop where
  distinct : (shape.fields.map (·.name)).Nodup
  optional : ∀ field ∈ shape.fields, field.required = false

theorem Lenient.complete (hshape : shape.Lenient) (given : List String) (record : R) :
    shape.complete given record = .ok record := by
  have hnone : shape.fields.find? (fun field => field.required && !given.contains field.name) =
      none := by
    rw [List.find?_eq_none]
    intro field hfield
    rw [hshape.optional field hfield]
    exact Bool.false_ne_true
  rw [RecordShape.complete, hnone]

/-- The members of an object are the fields that are read, while no field is given twice. -/
theorem readMembers_ofEntries (hshape : shape.Lenient) {pairs : List (FieldShape R × Value)}
    {given : List String} {record : R} (hfields : ∀ pair ∈ pairs, pair.1 ∈ shape.fields)
    (hdistinct : (pairs.map (·.1.name)).Nodup) (hgiven : ∀ pair ∈ pairs, pair.1.name ∉ given) :
    shape.readMembers room given record
        (.ofEntries (pairs.map fun pair => (pair.1.name, pair.2))) =
      readPairs room record pairs := by
  induction pairs generalizing given record with
  | nil => exact hshape.complete given record
  | cons pair pairs ih =>
    obtain ⟨field, value⟩ := pair
    rw [List.map_cons, List.nodup_cons] at hdistinct
    have hrest : ∀ pair ∈ pairs, pair.1.name ∉ field.name :: given := by
      intro pair hpair hname
      rcases List.mem_cons.1 hname with hsame | hold
      · exact hdistinct.1 (hsame ▸ List.mem_map_of_mem hpair)
      · exact hgiven pair (List.mem_cons_of_mem _ hpair) hold
    rw [List.map_cons, Members.ofEntries,
      readMembers_known hshape.distinct (hfields _ List.mem_cons_self)
        (hgiven _ List.mem_cons_self),
      readPairs, List.foldlM_cons]
    refine bind_congr fun next => ?_
    exact ih (fun pair hpair => hfields pair (List.mem_cons_of_mem _ hpair)) hdistinct.2 hrest

/-- An object with the fields of a record in order is read field by field. -/
theorem read_ofEntries (hshape : shape.Lenient) (hroom : 1 < room) {values : List Value}
    (hlength : values.length = shape.fields.length) :
    shape.read room (.object (.ofEntries ((shape.fields.map (·.name)).zip values))) =
      readPairs (room - 1) shape.initial (shape.fields.zip values) := by
  have hfields : (shape.fields.zip values).map (·.1) = shape.fields :=
    List.map_fst_zip hlength.ge
  have hentries : (shape.fields.map (·.name)).zip values =
      (shape.fields.zip values).map fun pair => (pair.1.name, pair.2) := by
    rw [List.zip_map_left]
    rfl
  rw [RecordShape.read, enter_eq_ok hroom, hentries]
  refine readMembers_ofEntries hshape (fun pair hpair => ?_) ?_
    fun _ _ => List.not_mem_nil
  · rw [← hfields]
    exact List.mem_map_of_mem hpair
  · have hnames : (shape.fields.zip values).map (·.1.name) = shape.fields.map (·.name) := by
      conv_rhs => rw [← hfields, List.map_map]
      rfl
    rw [hnames]
    exact hshape.distinct

end NoteCards.Json.RecordShape

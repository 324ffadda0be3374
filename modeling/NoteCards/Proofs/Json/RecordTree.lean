import Mathlib.Data.List.Nodup
import NoteCards.Json.Reader

/-!
# Records read from trees

A record is given by an object, with its entries in any order and unknown ones among them, or by an
array of values that take the names of the fields in order. Either way it is read entry by entry.

What a field has become is known only when its entry has been read, and the entries come in any
order. So what is kept during a run is about the entries that are still to come as much as about the
record (`RecordShape.Reads`). Conversely, where a record is read, no field is given twice, none that
is required is missing, and the entry of each field was read (`RecordShape.admits_of_readMembers`).
-/

namespace NoteCards.Json

open NoteCards.Data

/-! ### Lists of trees -/

def Items.ofList : List Node → Items
  | [] => .closed
  | first :: rest => .item first (ofList rest)

/-- The members with these names and values. -/
def Members.ofNodes : List (String × Node) → Members
  | [] => .closed
  | (name, value) :: rest => .member ⟨name.toList, none⟩ value (ofNodes rest)

section Lists

variable {α : Type} {room : Nat}

theorem bind_eq_ok_iff {β : Type} {x : Except Error α} {f : α → Except Error β} {b : β} :
    (x >>= f) = .ok b ↔ ∃ a, x = .ok a ∧ f a = .ok b := by
  constructor
  · intro hbind
    cases x with
    | error e => contradiction
    | ok a => exact ⟨a, rfl, hbind⟩
  · rintro ⟨a, rfl, hf⟩
    exact hf

theorem map_eq_ok_iff {β : Type} {x : Except Error α} {f : α → β} {b : β} :
    x.map f = .ok b ↔ ∃ a, x = .ok a ∧ f a = b := by
  cases x with
  | error e => exact ⟨nofun, fun ⟨_, h, _⟩ => nomatch h⟩
  | ok a => simp [Except.map]

theorem enter_eq_ok (hroom : 1 < room) : enter room = .ok (room - 1) := by
  rw [enter, if_neg (by omega)]

theorem readEach_ofList_eq_ok_iff {reader : Reader α} {nodes : List Node} {values : List α} :
    readEach reader room (.ofList nodes) = .ok values ↔
      List.Forall₂ (fun node value => reader room node = .ok value) nodes values := by
  induction nodes generalizing values with
  | nil =>
    rw [Items.ofList, readEach, List.forall₂_nil_left_iff, Except.ok.injEq, eq_comm]
  | cons first rest ih =>
    rw [Items.ofList, readEach, bind_eq_ok_iff, List.forall₂_cons_left_iff]
    refine exists_congr fun value => ?_
    rw [bind_eq_ok_iff]
    simp only [ih, pure, Except.pure, Except.ok.injEq]
    constructor
    · rintro ⟨hfirst, more, hrest, rfl⟩
      exact ⟨more, hfirst, hrest, rfl⟩
    · rintro ⟨more, hfirst, hrest, rfl⟩
      exact ⟨hfirst, more, hrest, rfl⟩

/-- No item of a list that is read is an error. -/
theorem exists_read_of_mem {reader : Reader α} {nodes : List Node} {values : List α}
    (hread : readEach reader room (.ofList nodes) = .ok values) :
    ∀ node ∈ nodes, ∃ value, reader room node = .ok value := by
  rw [readEach_ofList_eq_ok_iff] at hread
  induction hread with
  | nil => nofun
  | cons hfirst _ ih =>
    rw [List.forall_mem_cons]
    exact ⟨⟨_, hfirst⟩, ih⟩

theorem exists_readEach_of_forall {reader : Reader α} {nodes : List Node}
    (hnodes : ∀ node ∈ nodes, ∃ value, reader room node = .ok value) :
    ∃ values, readEach reader room (.ofList nodes) = .ok values := by
  simp only [readEach_ofList_eq_ok_iff]
  induction nodes with
  | nil => exact ⟨[], .nil⟩
  | cons first rest ih =>
    rw [List.forall_mem_cons] at hnodes
    obtain ⟨value, hfirst⟩ := hnodes.1
    obtain ⟨values, hrest⟩ := ih hnodes.2
    exact ⟨value :: values, .cons hfirst hrest⟩

/-- A list that is read is closed. -/
theorem exists_ofList_of_readEach {reader : Reader α} {items : Items} {values : List α}
    (hread : readEach reader room items = .ok values) : ∃ nodes, items = .ofList nodes := by
  induction values generalizing items with
  | nil =>
    cases items with
    | closed => exact ⟨[], rfl⟩
    | cut => contradiction
    | item first rest =>
      obtain ⟨_, -, hrest⟩ := bind_eq_ok_iff.1 hread
      obtain ⟨_, -, hnil⟩ := bind_eq_ok_iff.1 hrest
      exact nomatch hnil
  | cons value values ih =>
    cases items with
    | closed => exact nomatch hread
    | cut => contradiction
    | item first rest =>
      obtain ⟨_, -, hrest⟩ := bind_eq_ok_iff.1 hread
      obtain ⟨_, hmore, hcons⟩ := bind_eq_ok_iff.1 hrest
      cases hcons
      obtain ⟨nodes, rfl⟩ := ih hmore
      exact ⟨first :: nodes, rfl⟩

theorem readText_ofSource_iff {reader : Reader α} {s : Text.Source} {a : α} :
    readText reader s = .ok a ↔ ∃ node after, Node.ofSource s = (node, some after) ∧
      skipSpace after = [] ∧ reader fullRoom node = .ok a := by
  obtain ⟨node, rest, hsource⟩ : ∃ node rest, Node.ofSource s = (node, rest) := ⟨_, _, rfl⟩
  rw [readText, hsource]
  constructor
  · intro hread
    dsimp only at hread
    split at hread
    · contradiction
    · next hok =>
      split at hread
      · contradiction
      · next after =>
        split at hread
        · next hempty => exact ⟨node, after, rfl, List.isEmpty_iff.1 hempty, hok.trans hread⟩
        · contradiction
  · rintro ⟨_, after, heq, hempty, hok⟩
    cases heq
    dsimp only
    rw [hok]
    dsimp only
    rw [hempty]
    rfl

theorem skipItems_ofList {nodes : List Node} (hskip : skipItems (.ofList nodes) = .ok ()) :
    ∀ node ∈ nodes, skipNode node = .ok () := by
  induction nodes with
  | nil => nofun
  | cons first rest ih =>
    rw [Items.ofList, skipItems] at hskip
    cases hfirst : skipNode first with
    | error e =>
      rw [hfirst] at hskip
      contradiction
    | ok _ =>
      rw [hfirst] at hskip
      rw [List.forall_mem_cons]
      exact ⟨hfirst, ih hskip⟩

theorem skipMembers_ofNodes {entries : List (String × Node)}
    (hskip : skipMembers (.ofNodes entries) = .ok ()) :
    ∀ entry ∈ entries, skipNode entry.2 = .ok () := by
  induction entries with
  | nil => nofun
  | cons first rest ih =>
    rw [Members.ofNodes, skipMembers] at hskip
    cases hfirst : skipNode first.2 with
    | error e =>
      rw [hfirst] at hskip
      contradiction
    | ok _ =>
      rw [hfirst] at hskip
      rw [List.forall_mem_cons]
      exact ⟨hfirst, ih hskip⟩

theorem value_toList (s : String) : (⟨s.toList, none⟩ : StringText).value = .ok s := by
  rw [StringText.value, String.ofList_toList]

/-- The values under a name. -/
def nodesUnder (entries : List (String × Node)) (name : String) : List Node :=
  (entries.filter (·.1 = name)).map (·.2)

variable {entries : List (String × Node)} {name other : String} {node : Node}

@[simp]
theorem nodesUnder_nil : nodesUnder [] name = [] :=
  rfl

theorem nodesUnder_cons : nodesUnder ((other, node) :: entries) name =
    if other = name then node :: nodesUnder entries name else nodesUnder entries name := by
  by_cases hname : other = name <;> simp [nodesUnder, hname]

@[simp]
theorem nodesUnder_cons_self :
    nodesUnder ((name, node) :: entries) name = node :: nodesUnder entries name := by
  rw [nodesUnder_cons, if_pos rfl]

theorem nodesUnder_cons_of_ne (hname : other ≠ name) :
    nodesUnder ((other, node) :: entries) name = nodesUnder entries name := by
  rw [nodesUnder_cons, if_neg hname]

end Lists

/-! ### Records -/

namespace RecordShape

variable {R : Type} {shape : RecordShape R} {room : Nat} {entries : List (String × Node)}

def names (shape : RecordShape R) : List String :=
  shape.fields.map (·.name)

theorem find?_name {fields : List (FieldShape R)} (hdistinct : (fields.map (·.name)).Nodup)
    {field : FieldShape R} (hfield : field ∈ fields) :
    fields.find? (fun other => decide (other.name = field.name)) = some field := by
  induction fields with
  | nil => exact nomatch hfield
  | cons first rest ih =>
    rw [List.map_cons, List.nodup_cons] at hdistinct
    rcases List.mem_cons.1 hfield with rfl | hrest
    · rw [List.find?_cons_of_pos (by simp)]
    · have hother : first.name ≠ field.name := by
        intro hname
        exact hdistinct.1 (hname ▸ List.mem_map_of_mem hrest)
      rw [List.find?_cons_of_neg (by simpa using hother), ih hdistinct.2 hrest]

section Members

variable {field : FieldShape R} {given : List String} {record result : R}

theorem complete_eq_ok_iff : shape.complete given record = .ok result ↔
    (∀ field ∈ shape.fields, field.required = true → field.name ∈ given) ∧ record = result := by
  rw [complete]
  split
  · next hnone =>
    rw [List.find?_eq_none] at hnone
    simp only [Bool.and_eq_true, Bool.not_eq_true', List.contains_eq_mem, decide_eq_false_iff_not,
      not_and, not_not] at hnone
    rw [Except.ok.injEq]
    exact ⟨fun h => ⟨hnone, h⟩, And.right⟩
  · next missing hmissing =>
    have hrequired := List.find?_some hmissing
    simp only [Bool.and_eq_true, Bool.not_eq_true', List.contains_eq_mem,
      decide_eq_false_iff_not] at hrequired
    refine ⟨nofun, fun h => ?_⟩
    exact absurd (h.1 missing (List.mem_of_find?_eq_some hmissing) hrequired.1) hrequired.2

/-- A member that is a field not given yet is read into that field. -/
theorem readMembers_known (hdistinct : shape.names.Nodup) (hfield : field ∈ shape.fields)
    (hnew : field.name ∉ given) (value : Node) (rest : Members) :
    shape.readMembers room given record (.member ⟨field.name.toList, none⟩ value rest) =
      field.read record room value >>= fun next =>
        shape.readMembers room (field.name :: given) next rest := by
  have hfind := find?_name hdistinct hfield
  rw [readMembers, value_toList]
  simp [orFail, bind, Except.bind, hfind, hnew]

theorem readMembers_repeated (hdistinct : shape.names.Nodup) (hfield : field ∈ shape.fields)
    (hgiven : field.name ∈ given) (value : Node) (rest : Members) :
    shape.readMembers room given record (.member ⟨field.name.toList, none⟩ value rest) =
      .error (.data (.duplicateField field.name)) := by
  have hfind := find?_name hdistinct hfield
  rw [readMembers, value_toList]
  simp [orFail, bind, Except.bind, hfind, hgiven]

/-- A member that is no field is passed over. -/
theorem readMembers_unknown {name : String} (hname : name ∉ shape.names) (value : Node)
    (rest : Members) :
    shape.readMembers room given record (.member ⟨name.toList, none⟩ value rest) =
      skipNode value >>= fun _ => shape.readMembers room given record rest := by
  have hfind : shape.fields.find? (fun field => decide (field.name = name)) = none := by
    rw [List.find?_eq_none]
    intro field hfield hsame
    exact hname (of_decide_eq_true hsame ▸ List.mem_map_of_mem hfield)
  rw [readMembers, value_toList]
  simp [orFail, bind, Except.bind, hfind]

end Members

/-! ### Arrays in place of objects -/

/-- An array with more values than the record has fields is no record. -/
theorem length_le_of_readFields {fields : List (FieldShape R)} {values : List Node} {index : Nat}
    {record result : R}
    (hread : shape.readFields room index record fields (.ofList values) = .ok result) :
    values.length ≤ fields.length := by
  induction fields generalizing values index record with
  | nil =>
    cases values with
    | nil => exact Nat.le_refl _
    | cons _ _ => contradiction
  | cons field fields ih =>
    cases values with
    | nil => exact Nat.zero_le _
    | cons value values =>
      rw [Items.ofList, readFields, bind_eq_ok_iff] at hread
      obtain ⟨next, -, hrest⟩ := hread
      exact Nat.succ_le_succ (ih hrest)

/-- Values in the order of the fields are read like the members of an object with these fields. -/
theorem readFields_eq_ok_iff (hdistinct : shape.names.Nodup) {done fields : List (FieldShape R)}
    (hfields : shape.fields = done ++ fields) {given : List String}
    (hgiven : ∀ name, name ∈ given ↔ name ∈ done.map (·.name)) {values : List Node}
    (hlength : values.length ≤ fields.length) {index : Nat} {record result : R} :
    shape.readFields room index record fields (.ofList values) = .ok result ↔
      shape.readMembers room given record (.ofNodes ((fields.map (·.name)).zip values)) =
        .ok result := by
  -- The fields left over shrink and the names given grow with them: `done` joins the two.
  induction fields generalizing done given values index record with
  | nil =>
    have hcomplete : ∀ field ∈ shape.fields, field.required = true → field.name ∈ given := by
      rw [hfields, List.append_nil]
      exact fun field hfield _ => (hgiven _).2 (List.mem_map_of_mem hfield)
    rw [List.eq_nil_of_length_eq_zero (Nat.le_zero.1 hlength)]
    change Except.ok record = _ ↔ shape.complete given record = _
    rw [complete_eq_ok_iff, Except.ok.injEq]
    exact (and_iff_right hcomplete).symm
  | cons field fields ih =>
    have hfield : field ∈ shape.fields := by simp [hfields]
    have hnew : field.name ∉ given := by
      rw [hgiven]
      intro hdone
      rw [names, hfields, List.map_append, List.map_cons] at hdistinct
      exact (List.nodup_middle.1 hdistinct).notMem (List.mem_append_left _ hdone)
    have hdone : shape.fields = (done ++ [field]) ++ fields := by simp [hfields]
    have hmore : ∀ name, name ∈ field.name :: given ↔ name ∈ (done ++ [field]).map (·.name) := by
      simp [hgiven, or_comm]
    cases values with
    | nil =>
      -- No value is left: here the fields are looked at one by one, there all at once at the end.
      change (if field.required then _ else
        shape.readFields room (index + 1) record fields (.ofList [])) = _ ↔
          shape.complete given record = _
      by_cases hrequired : field.required = true
      · rw [if_pos hrequired, complete_eq_ok_iff]
        exact ⟨nofun, fun h => absurd (h.1 field hfield hrequired) hnew⟩
      · rw [if_neg hrequired, ih hdone hmore (Nat.zero_le _), List.zip_nil_right]
        change shape.complete (field.name :: given) record = _ ↔ _
        rw [complete_eq_ok_iff, complete_eq_ok_iff]
        refine and_congr_left fun _ => forall_congr' fun other => forall_congr' fun hother =>
          forall_congr' fun hwanted => ?_
        have hne : other.name ≠ field.name := by
          intro hsame
          rw [List.inj_on_of_nodup_map hdistinct hother hfield hsame] at hwanted
          exact hrequired hwanted
        rw [List.mem_cons, or_iff_right hne]
    | cons value values =>
      change (field.read record room value >>= fun next =>
        shape.readFields room (index + 1) next fields (.ofList values)) = _ ↔ _
      rw [List.map_cons, List.zip_cons_cons, Members.ofNodes,
        readMembers_known hdistinct hfield hnew, bind_eq_ok_iff, bind_eq_ok_iff]
      refine exists_congr fun next => and_congr_right fun _ => ?_
      exact ih hdone hmore (Nat.le_of_succ_le_succ hlength)

/-! ### Runs over entries -/

/-- How often a name is given: it may have been given already, or the entries give it. -/
def timesGiven (given : List String) (entries : List (String × Node)) (name : String) : Nat :=
  (if name ∈ given then 1 else 0) + (nodesUnder entries name).length

/-- Each field is given once at most, and at least once if it is required. -/
def Admits (shape : RecordShape R) (given : List String) (entries : List (String × Node)) : Prop :=
  ∀ field ∈ shape.fields, timesGiven given entries field.name ≤ 1 ∧
    (field.required = true → 0 < timesGiven given entries field.name)

section Runs

variable {given : List String} {field : FieldShape R} {name other : String} {node : Node}
  {record result : R}

theorem timesGiven_nil (entries : List (String × Node)) (name : String) :
    timesGiven [] entries name = (nodesUnder entries name).length := by
  simp [timesGiven]

/-- An entry that is read counts as given. -/
theorem timesGiven_cons (hnew : name ∉ given) (other : String) :
    timesGiven given ((name, node) :: entries) other =
      timesGiven (name :: given) entries other := by
  by_cases hsame : name = other
  · subst hsame
    simp [timesGiven, hnew, Nat.add_comm]
  · simp [timesGiven, nodesUnder_cons_of_ne hsame, Ne.symm hsame]

theorem timesGiven_cons_of_ne (hname : name ≠ other) :
    timesGiven given ((name, node) :: entries) other = timesGiven given entries other := by
  simp [timesGiven, nodesUnder_cons_of_ne hname]

theorem admits_nil_iff : shape.Admits given [] ↔
    ∀ field ∈ shape.fields, field.required = true → field.name ∈ given := by
  refine forall₂_congr fun field _ => ?_
  by_cases hgiven : field.name ∈ given <;> simp [timesGiven, hgiven]

theorem admits_known_iff (hfield : field ∈ shape.fields) :
    shape.Admits given ((field.name, node) :: entries) ↔
      field.name ∉ given ∧ shape.Admits (field.name :: given) entries := by
  by_cases hgiven : field.name ∈ given
  · have htwice : ¬timesGiven given ((field.name, node) :: entries) field.name ≤ 1 := by
      simp [timesGiven, hgiven]
    exact ⟨fun hadmits => absurd (hadmits field hfield).1 htwice, fun h => absurd hgiven h.1⟩
  · rw [and_iff_right hgiven]
    simp only [Admits, timesGiven_cons hgiven]

theorem admits_unknown_iff (hname : name ∉ shape.names) :
    shape.Admits given ((name, node) :: entries) ↔ shape.Admits given entries := by
  refine forall₂_congr fun field hfield => ?_
  have hne : name ≠ field.name := by
    rintro rfl
    exact hname (List.mem_map_of_mem hfield)
  rw [timesGiven_cons_of_ne hne]

/-- What is kept while entries are read into a record: it is about the entries still to come and the
record read so far. -/
structure Reads (shape : RecordShape R) (room : Nat)
    (Keeps : List (String × Node) → R → Prop) : Prop where
  known : ∀ field ∈ shape.fields, ∀ node entries record,
    Keeps ((field.name, node) :: entries) record →
      ∃ next, field.read record room node = .ok next ∧ Keeps entries next
  unknown : ∀ name ∉ shape.names, ∀ node entries record,
    Keeps ((name, node) :: entries) record → Keeps entries record

/-- Entries are read to their end. -/
theorem Reads.readMembers {Keeps : List (String × Node) → R → Prop}
    (hreads : shape.Reads room Keeps) (hdistinct : shape.names.Nodup)
    (hadmits : shape.Admits given entries)
    (hskip : ∀ entry ∈ entries, skipNode entry.2 = .ok ()) (hkeeps : Keeps entries record) :
    ∃ result, shape.readMembers room given record (.ofNodes entries) = .ok result ∧
      Keeps [] result := by
  induction entries generalizing given record with
  | nil =>
    refine ⟨record, ?_, hkeeps⟩
    change shape.complete given record = _
    rw [complete_eq_ok_iff]
    exact ⟨admits_nil_iff.1 hadmits, rfl⟩
  | cons entry entries ih =>
    obtain ⟨name, node⟩ := entry
    rw [List.forall_mem_cons] at hskip
    rw [Members.ofNodes]
    by_cases hname : name ∈ shape.names
    · obtain ⟨field, hfield, rfl⟩ := List.mem_map.1 hname
      obtain ⟨hnew, hadmits⟩ := (admits_known_iff hfield).1 hadmits
      obtain ⟨next, hread, hnext⟩ := hreads.known field hfield node entries record hkeeps
      rw [readMembers_known hdistinct hfield hnew, hread]
      exact ih hadmits hskip.2 hnext
    · rw [readMembers_unknown hname, hskip.1]
      exact ih ((admits_unknown_iff hname).1 hadmits) hskip.2
        (hreads.unknown name hname node entries record hkeeps)

/-- Entries that are read are such as the record admits, and those of fields were read. -/
theorem admits_of_readMembers (hdistinct : shape.names.Nodup)
    (hread : shape.readMembers room given record (.ofNodes entries) = .ok result) :
    shape.Admits given entries ∧
      ∀ field ∈ shape.fields, ∀ node ∈ nodesUnder entries field.name,
        ∃ record next, field.read record room node = .ok next := by
  induction entries generalizing given record with
  | nil =>
    change shape.complete given record = _ at hread
    exact ⟨admits_nil_iff.2 (complete_eq_ok_iff.1 hread).1, nofun⟩
  | cons entry entries ih =>
    obtain ⟨name, node⟩ := entry
    rw [Members.ofNodes] at hread
    by_cases hname : name ∈ shape.names
    · obtain ⟨field, hfield, rfl⟩ := List.mem_map.1 hname
      by_cases hgiven : field.name ∈ given
      · rw [readMembers_repeated hdistinct hfield hgiven] at hread
        contradiction
      · rw [readMembers_known hdistinct hfield hgiven, bind_eq_ok_iff] at hread
        obtain ⟨next, hnode, hrest⟩ := hread
        obtain ⟨hadmits, htyped⟩ := ih hrest
        refine ⟨(admits_known_iff hfield).2 ⟨hgiven, hadmits⟩, fun other hother value hvalue => ?_⟩
        by_cases hsame : field.name = other.name
        · obtain rfl := List.inj_on_of_nodup_map hdistinct hfield hother hsame
          rw [nodesUnder_cons_self] at hvalue
          rcases List.mem_cons.1 hvalue with rfl | hvalue
          · exact ⟨record, next, hnode⟩
          · exact htyped field hfield value hvalue
        · rw [nodesUnder_cons_of_ne hsame] at hvalue
          exact htyped other hother value hvalue
    · rw [readMembers_unknown hname, bind_eq_ok_iff] at hread
      obtain ⟨-, -, hrest⟩ := hread
      obtain ⟨hadmits, htyped⟩ := ih hrest
      refine ⟨(admits_unknown_iff hname).2 hadmits, fun other hother value hvalue => ?_⟩
      have hne : name ≠ other.name := by
        rintro rfl
        exact hname (List.mem_map_of_mem hother)
      rw [nodesUnder_cons_of_ne hne] at hvalue
      exact htyped other hother value hvalue

end Runs

/-! ### Trees that give records -/

/-- The entries of a record that a tree gives. -/
inductive Gives (shape : RecordShape R) : Node → List (String × Node) → Prop
  | object (entries : List (String × Node)) : Gives shape (.object (.ofNodes entries)) entries
  | array {values : List Node} (hlength : values.length ≤ shape.fields.length) :
      Gives shape (.array (.ofList values)) (shape.names.zip values)

variable {tree : Node} {record : R}

/-- A tree is read as the entries that it gives. -/
theorem Gives.read_eq_ok_iff (hgives : shape.Gives tree entries) (hdistinct : shape.names.Nodup)
    (hroom : 1 < room) :
    shape.read room tree = .ok record ↔
      shape.readMembers (room - 1) [] shape.initial (.ofNodes entries) = .ok record := by
  cases hgives with
  | object entries =>
    rw [RecordShape.read, enter_eq_ok hroom]
    rfl
  | array hlength =>
    rw [RecordShape.read, enter_eq_ok hroom]
    exact readFields_eq_ok_iff hdistinct (List.nil_append _).symm (by simp) hlength

theorem Gives.skipNode (hgives : shape.Gives tree entries) (hskip : skipNode tree = .ok ()) :
    ∀ entry ∈ entries, skipNode entry.2 = .ok () := by
  cases hgives with
  | object entries =>
    rw [Json.skipNode] at hskip
    exact skipMembers_ofNodes hskip
  | array _ =>
    rw [Json.skipNode] at hskip
    rintro ⟨name, node⟩ hentry
    exact skipItems_ofList hskip node (List.of_mem_zip hentry).2

end RecordShape

end NoteCards.Json

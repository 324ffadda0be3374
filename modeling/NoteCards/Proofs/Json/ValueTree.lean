import NoteCards.Note.Basic
import NoteCards.Proofs.Json.Range
import NoteCards.Proofs.Json.RecordTree
import NoteCards.Proofs.Json.WrittenValue

/-!
# Values that trees stand for

`Node.Holds` says which values a tree stands for: truth values and strings for themselves, arrays
item by item, and objects by what they have last under each key, so that neither the order of the
keys nor a member that is overwritten matters. Readers round numbers, so a numeral stands for every
number here, but it has to be one that readers take.

A tree stands for several values, and the reader picks one of them unless the tree is too deep for
it (`Node.Holds.exists_readValue`). For labels that makes no difference: all values of a tree have
the same strings under a key (`stringsUnder_eq_of_holds`).
-/

namespace NoteCards.Json

open NoteCards.Data

mutual

/-- The tree stands for the value. -/
inductive Node.Holds : Node → Value → Prop
  | null : Node.Holds .null .null
  | bool (b : Bool) : Node.Holds (.bool b) (.bool b)
  | integer {text number} (n : Int) (hrange : text.value = .ok number) :
      Node.Holds (.number text) (.integer n)
  | number {text number} (x : Binary64) (hrange : text.value = .ok number) :
      Node.Holds (.number text) (.number x)
  | string {text s} (htext : text.value = .ok s) : Node.Holds (.string text) (.string s)
  | array {items values} : Items.Hold items values → Node.Holds (.array items) (.array values)
  | object {members read entries} : Members.Hold members read →
      (∀ key, Value.lookup? key read = Value.lookup? key entries) →
      Node.Holds (.object members) (.object entries)

/-- The items stand for the values. -/
inductive Items.Hold : Items → List Value → Prop
  | closed : Items.Hold .closed []
  | item {first value rest values} : Node.Holds first value → Items.Hold rest values →
      Items.Hold (.item first rest) (value :: values)

/-- The members stand for the entries. -/
inductive Members.Hold : Members → List (String × Value) → Prop
  | closed : Members.Hold .closed []
  | member {key name node value rest entries} (hkey : StringText.value key = .ok name) :
      Node.Holds node value → Members.Hold rest entries →
      Members.Hold (.member key node rest) ((name, value) :: entries)

end

/-! ### Reading -/

mutual

/-- How many arrays and objects stand one within another. -/
def Node.depth : Node → Nat
  | .array items => items.depth + 1
  | .object members => members.depth + 1
  | .null | .bool _ | .number _ | .string _ | .broken _ _ => 0

def Items.depth : Items → Nat
  | .closed | .cut _ _ => 0
  | .item first rest => max first.depth rest.depth

def Members.depth : Members → Nat
  | .closed | .cut _ _ | .noKey _ => 0
  | .member _ value rest => max value.depth rest.depth

end

theorem Node.exists_readValue_number {text : NumberText} {number : Number}
    (hrange : text.value = .ok number) (room : Nat) :
    ∃ read, readValue room (.number text) = .ok read ∧ (Node.number text).Holds read := by
  rw [readValue, hrange]
  cases number with
  | integer n => exact ⟨_, rfl, .integer n hrange⟩
  | float x => exact ⟨_, rfl, .number x hrange⟩

mutual

/-- A tree that is not too deep is read as a value that it stands for. -/
theorem Node.Holds.exists_readValue {node : Node} {value : Value} (hholds : node.Holds value)
    {room : Nat} (hdepth : node.depth < room) :
    ∃ read, readValue room node = .ok read ∧ node.Holds read :=
  match hholds with
  | .null => ⟨_, rfl, .null⟩
  | .bool b => ⟨_, rfl, .bool b⟩
  | .integer _ hrange | .number _ hrange => Node.exists_readValue_number hrange room
  | .string htext => by
    refine ⟨_, ?_, .string htext⟩
    rw [readValue, htext]
    rfl
  | .array hitems => by
    rw [Node.depth] at hdepth
    obtain ⟨read, hread, hhold⟩ := hitems.exists_readItems (by omega : _ < room - 1)
    refine ⟨.array read, ?_, .array hhold⟩
    rw [readValue, enter_eq_ok (by omega)]
    exact congrArg (· >>= fun values => pure (Value.array values)) hread
  | .object hmembers hlookup => by
    rw [Node.depth] at hdepth
    obtain ⟨read, hread, hhold⟩ := hmembers.exists_readMembers (by omega : _ < room - 1)
    refine ⟨.object read, ?_, .object hhold fun _ => rfl⟩
    rw [readValue, enter_eq_ok (by omega)]
    exact congrArg (· >>= fun entries => pure (Value.object entries)) hread

theorem Items.Hold.exists_readItems {items : Items} {values : List Value}
    (hhold : items.Hold values) {room : Nat} (hdepth : items.depth < room) :
    ∃ read, readItems room items = .ok read ∧ items.Hold read :=
  match hhold with
  | .closed => ⟨_, rfl, .closed⟩
  | .item hfirst hrest => by
    rw [Items.depth, Nat.max_lt] at hdepth
    obtain ⟨value, hvalue, hholds⟩ := hfirst.exists_readValue hdepth.1
    obtain ⟨read, hread, hhold⟩ := hrest.exists_readItems hdepth.2
    refine ⟨value :: read, ?_, .item hholds hhold⟩
    rw [readItems, hvalue, hread]
    rfl

theorem Members.Hold.exists_readMembers {members : Members} {entries : List (String × Value)}
    (hhold : members.Hold entries) {room : Nat} (hdepth : members.depth < room) :
    ∃ read, readMembers room members = .ok read ∧ members.Hold read :=
  match hhold with
  | .closed => ⟨_, rfl, .closed⟩
  | @Members.Hold.member _ name _ _ _ _ hkey hvalue hrest => by
    rw [Members.depth, Nat.max_lt] at hdepth
    obtain ⟨value, hread, hholds⟩ := hvalue.exists_readValue hdepth.1
    obtain ⟨more, hmore, hhold⟩ := hrest.exists_readMembers hdepth.2
    refine ⟨(name, value) :: more, ?_, .member hkey hholds hhold⟩
    rw [readMembers, hkey, hread, hmore]
    rfl

end

theorem mismatch_ne_ok {α : Type} (node : Node) (wanted : String) (a : α) :
    mismatch node wanted ≠ .ok a := by
  rw [mismatch]
  split <;> exact nofun

theorem readString_eq_ok_iff {room : Nat} {node : Node} {s : String} :
    readString room node = .ok s ↔ node.Holds (.string s) := by
  constructor
  · intro hread
    unfold readString at hread
    split at hread
    · next text =>
      refine .string ?_
      cases htext : text.value with
      | error fault =>
        rw [htext] at hread
        contradiction
      | ok t =>
        rw [htext] at hread
        exact congrArg Except.ok (Except.ok.inj hread)
    · exact absurd hread (mismatch_ne_ok _ _ _)
  · intro hholds
    cases hholds with
    | string htext =>
      rw [readString, htext]
      rfl

theorem readEach_readString_eq_ok_iff {room : Nat} {items : Items} {strings : List String} :
    readEach readString room items = .ok strings ↔ items.Hold (strings.map .string) := by
  match items with
  | .closed =>
    rw [readEach, Except.ok.injEq]
    constructor
    · rintro rfl
      exact .closed
    · intro hhold
      cases strings with
      | nil => rfl
      | cons _ _ => cases hhold
  | .cut _ _ =>
    constructor
    · intro hread
      contradiction
    · intro hhold
      cases hhold
  | .item first rest =>
    rw [readEach, bind_eq_ok_iff]
    constructor
    · rintro ⟨s, hfirst, hrest⟩
      obtain ⟨more, hmore, hstrings⟩ := bind_eq_ok_iff.1 hrest
      cases hstrings
      exact .item (readString_eq_ok_iff.1 hfirst) (readEach_readString_eq_ok_iff.1 hmore)
    · intro hhold
      cases strings with
      | nil => cases hhold
      | cons s strings =>
        cases hhold with
        | item hfirst hrest =>
          refine ⟨s, readString_eq_ok_iff.2 hfirst, ?_⟩
          rw [readEach_readString_eq_ok_iff.2 hrest]
          rfl

theorem readList_eq_ok_iff {α : Type} {reader : Reader α} {room : Nat} (hroom : 1 < room)
    {node : Node} {values : List α} : readList reader room node = .ok values ↔
      ∃ items, node = .array items ∧ readEach reader (room - 1) items = .ok values := by
  constructor
  · intro hread
    unfold readList at hread
    split at hread
    · next items =>
      rw [enter_eq_ok hroom] at hread
      exact ⟨items, rfl, hread⟩
    · exact absurd hread (mismatch_ne_ok _ _ _)
  · rintro ⟨items, rfl, hread⟩
    rw [readList, enter_eq_ok hroom]
    exact hread

theorem readList_readString_eq_ok_iff {room : Nat} (hroom : 1 < room) {node : Node}
    {strings : List String} : readList readString room node = .ok strings ↔
      node.Holds (.array (strings.map .string)) := by
  rw [readList_eq_ok_iff hroom]
  constructor
  · rintro ⟨items, rfl, hread⟩
    exact .array (readEach_readString_eq_ok_iff.1 hread)
  · intro hholds
    cases hholds with
    | array hitems => exact ⟨_, rfl, readEach_readString_eq_ok_iff.2 hitems⟩

/-! ### Values of one tree -/

section Same

variable {node : Node} {first second : Value}

theorem Node.Holds.string?_eq (hfirst : node.Holds first) (hsecond : node.Holds second) :
    first.string? = second.string? := by
  cases hfirst <;> cases hsecond
  case string.string s hfirst _ hsecond =>
    rw [hfirst] at hsecond
    cases hsecond
    rfl
  all_goals rfl

theorem Items.Hold.filterMap_string?_eq {items : Items} {values others : List Value}
    (hvalues : items.Hold values) (hothers : items.Hold others) :
    values.filterMap Value.string? = others.filterMap Value.string? := by
  match hvalues, hothers with
  | .closed, .closed => rfl
  | .item hfirst hrest, .item hother hmore =>
    rw [List.filterMap_cons, List.filterMap_cons, hfirst.string?_eq hother,
      hrest.filterMap_string?_eq hmore]

/-- Under each key, members stand for values of one tree or have none. -/
theorem Members.Hold.lookup?_rel {members : Members} {entries others : List (String × Value)}
    (hentries : members.Hold entries) (hothers : members.Hold others) (key : String) :
    Option.Rel (fun first second => ∃ node : Node, node.Holds first ∧ node.Holds second)
      (Value.lookup? key entries) (Value.lookup? key others) := by
  match hentries, hothers with
  | .closed, .closed => exact .none
  | @Members.Hold.member _ _ _ _ _ entries hkey hfirst hrest,
      @Members.Hold.member _ _ _ _ _ others hname hother hmore =>
    rw [hkey] at hname
    cases hname
    have hlater := hrest.lookup?_rel hmore key
    rw [Value.lookup?, Value.lookup?]
    generalize Value.lookup? key entries = earlier at hlater ⊢
    generalize Value.lookup? key others = later at hlater ⊢
    cases hlater with
    | some hlater => exact .some hlater
    | none =>
      dsimp only
      split
      · exact .some ⟨_, hfirst, hother⟩
      · exact .none

/-- All values that a tree stands for have the same strings under a key. -/
theorem stringsUnder_eq_of_holds (hfirst : node.Holds first) (hsecond : node.Holds second)
    (key : String) : stringsUnder first key = stringsUnder second key := by
  cases hfirst with
  | @object _ _ entries hread hentries =>
    cases hsecond with
    | @object _ _ others hothers hsame =>
      have hrel := hread.lookup?_rel hothers key
      rw [hentries, hsame] at hrel
      rw [stringsUnder, stringsUnder, Value.get?, Value.get?]
      generalize Value.lookup? key entries = entry at hrel ⊢
      generalize Value.lookup? key others = other at hrel ⊢
      cases hrel with
      | none => rfl
      | some hboth =>
        obtain ⟨tree, hvalue, hother⟩ := hboth
        cases hvalue with
        | string htext =>
          cases hother with
          | string hsame =>
            rw [htext] at hsame
            cases hsame
            rfl
        | array hitems =>
          cases hother with
          | array hothers => exact hitems.filterMap_string?_eq hothers
        | _ => cases hother <;> rfl
  | _ => cases hsecond <;> rfl

end Same

/-! ### Written values -/

/-- The numbers in the value are finite, and whole numbers have 64 bits and a sign at most. -/
inductive InFormat : Value → Prop
  | null : InFormat .null
  | bool (b : Bool) : InFormat (.bool b)
  | integer {n : Int} (hn : n.natAbs < UInt64.size) : InFormat (.integer n)
  | number {x : Binary64} (hx : x.isFinite = true) : InFormat (.number x)
  | string (s : String) : InFormat (.string s)
  | array {items : List Value} (hitems : ∀ item ∈ items, InFormat item) : InFormat (.array items)
  | object {entries : List (String × Value)} (hentries : ∀ entry ∈ entries, InFormat entry.2) :
      InFormat (.object entries)

theorem exists_value_integerText {n : Int} (hn : n.natAbs < UInt64.size) :
    ∃ number, (integerText n).value = .ok number := by
  have habsorb : absorb 0 (integerText n).whole = (n.natAbs, (integerText n).whole.length, 0) := by
    have hvalue := Nat.ofDigitChars_ten_toDigits (n := n.natAbs)
    rw [← hvalue] at hn
    rw [integerText, absorb_eq (fun c hc => isDigit_of_mem_toDigits hc) hn, hvalue]
  rw [NumberText.value, habsorb]
  dsimp only
  have hwhole : ((integerText n).fraction.isSome || (integerText n).exponent.isSome ||
      decide ((0 : Nat) ≠ 0)) = false := rfl
  rw [if_neg (by rw [hwhole]; exact Bool.false_ne_true)]
  split
  · exact ⟨_, rfl⟩
  · split <;> exact ⟨_, rfl⟩

theorem ofValues_eq_ofList (items : List Value) :
    Items.ofValues items = .ofList (items.map .ofValue) := by
  induction items with
  | nil => rfl
  | cons first rest ih => rw [Items.ofValues, ih, List.map_cons, Items.ofList]

theorem ofEntries_eq_ofNodes (entries : List (String × Value)) :
    Members.ofEntries entries =
      .ofNodes (entries.map fun entry => (entry.1, .ofValue entry.2)) := by
  induction entries with
  | nil => rfl
  | cons first rest ih => rw [Members.ofEntries, ih, List.map_cons, Members.ofNodes]

theorem hold_ofValues {items : List Value}
    (hitems : ∀ item ∈ items, (Node.ofValue item).Holds item) :
    (Items.ofValues items).Hold items := by
  induction items with
  | nil => exact .closed
  | cons first rest ih =>
    rw [List.forall_mem_cons] at hitems
    exact .item hitems.1 (ih hitems.2)

theorem hold_ofEntries {entries : List (String × Value)}
    (hentries : ∀ entry ∈ entries, (Node.ofValue entry.2).Holds entry.2) :
    (Members.ofEntries entries).Hold entries := by
  induction entries with
  | nil => exact .closed
  | cons first rest ih =>
    rw [List.forall_mem_cons] at hentries
    exact .member (value_toList first.1) hentries.1 (ih hentries.2)

/-- The tree of a value stands for it. -/
theorem InFormat.holds_ofValue {value : Value} (hformat : InFormat value) :
    (Node.ofValue value).Holds value := by
  induction hformat with
  | null => exact .null
  | bool b => exact .bool b
  | integer hn =>
    obtain ⟨number, hnumber⟩ := exists_value_integerText hn
    exact .integer _ hnumber
  | @number x hx =>
    match x, hx with
    | .finite negative rank, _ =>
      obtain ⟨text, hnode, hvalue, -⟩ := exists_ofNumber negative rank
      obtain ⟨y, hy⟩ := exists_reread negative rank
      rw [hy] at hvalue
      change (Node.ofNumber (.finite negative rank)).Holds _
      rw [hnode]
      exact .number _ hvalue
  | string s => exact .string (value_toList s)
  | array _ ih => exact .array (hold_ofValues ih)
  | object _ ih => exact .object (hold_ofEntries ih) fun _ => rfl

/-- The text of an array of values is a text of the array of their trees. -/
theorem spaced_pretty (values : List Value) :
    (Node.array (.ofList (values.map .ofValue))).Spaced (pretty (.array values)).toList := by
  have hspaced := (written (.array values) (some 0)).spaced
  rwa [Node.ofValue, ofValues_eq_ofList, ← String.toList_ofList (l := write _ _)] at hspaced

end NoteCards.Json

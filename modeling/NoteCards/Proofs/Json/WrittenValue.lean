import NoteCards.Proofs.Json.WrittenScalar

/-!
# Written values

The text of a value, on one line or with line breaks, is a text of the tree of the value
(`writtenAs_write`), so a reader of the text is a reader of the tree (`readText_write`).
-/

namespace NoteCards.Json

open NoteCards.Data NoteCards.Text

/-! ### Trees -/

mutual

def Node.ofValue : Value → Node
  | .null => .null
  | .bool b => .bool b
  | .integer n => .number (integerText n)
  | .number x => .ofNumber x
  | .string s => .string ⟨s.toList, none⟩
  | .array items => .array (Items.ofValues items)
  | .object entries => .object (Members.ofEntries entries)

def Items.ofValues : List Value → Items
  | [] => .closed
  | first :: rest => .item (Node.ofValue first) (Items.ofValues rest)

def Members.ofEntries : List (String × Value) → Members
  | [] => .closed
  | (key, value) :: rest =>
    .member ⟨key.toList, none⟩ (Node.ofValue value) (Members.ofEntries rest)

end

/-! ### Layout -/

theorem allSpace_lineBreak (level : Option Nat) : AllSpace (lineBreak level) := by
  match level with
  | none => nofun
  | some level =>
    intro c hc
    rcases List.mem_cons.1 hc with rfl | hc
    · decide
    · rw [List.eq_of_mem_replicate hc]
      decide

theorem exists_keyMark (level : Option Nat) : ∃ gap, AllSpace gap ∧ keyMark level = ':' :: gap := by
  cases level with
  | none => exact ⟨[], nofun, rfl⟩
  | some _ => exact ⟨[' '], by simp [AllSpace, isSpace], rfl⟩

theorem keyWrittenAs_writeString (level : Option Nat) (key : String) :
    KeyWrittenAs ⟨key.toList, none⟩ (lineBreak level ++ (writeString key ++ [':'])) := by
  have hkey := KeyWrittenAs.intro (allSpace_lineBreak level) allSpace_nil
    (writtenAs_chars key.toList)
  simpa only [writeString, List.append_assoc, List.cons_append, List.nil_append] using hkey

/-! ### Texts -/

/-- The text of a value, in either layout and at every level, is a text of its tree. -/
def Written (value : Value) : Prop :=
  ∀ level, (Node.ofValue value).WrittenAs (write level value)

section Parts

variable (level inner : Option Nat) {first value : Value} {key : String}

/-- The items of an array from one of them on. -/
theorem writtenAs_items {more : List Value} (hitems : ∀ value ∈ first :: more, Written value) :
    (Items.ofValues (first :: more)).WrittenAs
      (lineBreak inner ++ (write inner first ++ (writeItems inner more ++ lineBreak level))) := by
  have hfirst := hitems first List.mem_cons_self inner
  have hbefore := allSpace_lineBreak inner
  induction more generalizing first with
  | nil => exact .last (.intro hbefore (allSpace_lineBreak level) hfirst)
  | cons second more ih =>
    have hrest := fun value hvalue => hitems value (List.mem_cons_of_mem _ hvalue)
    have hmore := ih hrest (hrest second List.mem_cons_self inner)
    have hnext := Items.WrittenAs.next (.intro hbefore allSpace_nil hfirst) hmore
    rw [Items.ofValues, writeItems]
    simpa only [List.append_assoc, List.cons_append, List.nil_append] using hnext

theorem written_array {items : List Value} (hitems : ∀ value ∈ items, Written value) :
    Written (.array items) := by
  intro level
  match items with
  | [] => exact .emptyArray allSpace_nil
  | first :: more =>
    have harray := Node.WrittenAs.array
      (writtenAs_items level (level.map (· + 1)) hitems)
    rw [Node.ofValue, write]
    simpa only [List.append_assoc] using harray

/-- The members of an object from one of them on. -/
theorem writtenAs_members {more : List (String × Value)}
    (hentries : ∀ entry ∈ (key, value) :: more, Written entry.2) :
    (Members.ofEntries ((key, value) :: more)).WrittenAs
      (lineBreak inner ++ (writeString key ++ (keyMark inner ++ (write inner value ++
        (writeEntries inner more ++ lineBreak level))))) := by
  have hvalue := hentries _ List.mem_cons_self inner
  have hkey := keyWrittenAs_writeString inner key
  obtain ⟨gap, hgap, hmark⟩ := exists_keyMark inner
  induction more generalizing key value with
  | nil =>
    have hlast := Members.WrittenAs.last hkey
      (.intro hgap (allSpace_lineBreak level) hvalue)
    rw [Members.ofEntries, Members.ofEntries, writeEntries, hmark]
    simpa only [List.append_assoc, List.cons_append, List.nil_append] using hlast
  | cons next more ih =>
    obtain ⟨nextKey, nextValue⟩ := next
    have hrest := fun entry hentry => hentries entry (List.mem_cons_of_mem _ hentry)
    have hmore := ih hrest (hrest _ List.mem_cons_self inner) (keyWrittenAs_writeString inner _)
    have hnext := Members.WrittenAs.next hkey (.intro hgap allSpace_nil hvalue) hmore
    rw [Members.ofEntries, writeEntries, hmark]
    rw [hmark] at hnext
    simpa only [List.append_assoc, List.cons_append, List.nil_append] using hnext

theorem written_object {entries : List (String × Value)}
    (hentries : ∀ entry ∈ entries, Written entry.2) : Written (.object entries) := by
  intro level
  match entries with
  | [] => exact .emptyObject allSpace_nil
  | (key, value) :: more =>
    have hobject := Node.WrittenAs.object
      (writtenAs_members level (level.map (· + 1)) hentries)
    rw [Node.ofValue, write]
    simpa only [List.append_assoc] using hobject

end Parts

theorem written (value : Value) : Written value := by
  match value with
  | .null => exact fun _ => .null
  | .bool true => exact fun _ => .true
  | .bool false => exact fun _ => .false
  | .integer n =>
    intro level
    rw [write, toList_toString_int]
    exact .number (wellFormed_integerText n).writtenAs
  | .number x =>
    intro level
    rw [write]
    exact writtenAs_writeNumber x
  | .string s =>
    intro level
    exact .string (writtenAs_chars s.toList)
  | .array items =>
    refine written_array fun item hitem => ?_
    exact written item
  | .object entries =>
    refine written_object fun entry hentry => ?_
    exact written entry.2
termination_by sizeOf value
decreasing_by
  · have hsize := List.sizeOf_lt_of_mem hitem
    rw [Value.array.sizeOf_spec]
    omega
  · have hsize := List.sizeOf_lt_of_mem hentry
    obtain ⟨key, member⟩ := entry
    rw [Prod.mk.sizeOf_spec] at hsize
    rw [Value.object.sizeOf_spec]
    dsimp only
    omega

/-- Reading a written value is reading its tree. -/
theorem readText_write {α : Type} (reader : Reader α) (level : Option Nat) (value : Value) :
    readText reader (Source.ofChars (write level value)) = reader fullRoom (.ofValue value) :=
  (written value level).spaced.readText reader

end NoteCards.Json

/-!
# Sets of labels

Labels are kept in ascending order of their characters and each one once, so that two sets with the
same members are the same set (`LabelSet.ext`), however they were put together.
-/

namespace NoteCards

/-- A set of labels, as its members in ascending order. -/
structure LabelSet where
  toList : List String
  ascending : toList.Pairwise (· < ·)
  deriving DecidableEq, Repr

namespace LabelSet

def empty : LabelSet := ⟨[], .nil⟩

instance : Inhabited LabelSet := ⟨empty⟩

instance : Membership String LabelSet where
  mem labels label := label ∈ labels.toList

def insertInto (label : String) : List String → List String
  | [] => [label]
  | other :: rest =>
    if label < other then label :: other :: rest
    else if label = other then other :: rest
    else other :: insertInto label rest

theorem mem_insertInto {label other : String} {labels : List String} :
    other ∈ insertInto label labels ↔ other = label ∨ other ∈ labels := by
  induction labels with
  | nil => simp [insertInto]
  | cons first rest ih =>
    simp only [insertInto]
    split
    · simp
    · split
      · next eq => simp [eq]
      · simp only [List.mem_cons, ih]
        exact or_left_comm

theorem ascending_insertInto {label : String} {labels : List String}
    (ascending : labels.Pairwise (· < ·)) : (insertInto label labels).Pairwise (· < ·) := by
  induction labels with
  | nil => simp [insertInto]
  | cons first rest ih =>
    obtain ⟨above, rest_ascending⟩ := List.pairwise_cons.1 ascending
    simp only [insertInto]
    split
    · next less =>
      refine List.pairwise_cons.2 ⟨fun other member => ?_, ascending⟩
      rcases List.mem_cons.1 member with rfl | member
      · exact less
      · exact String.lt_trans less (above other member)
    · split
      · exact ascending
      · next not_less not_same =>
        refine List.pairwise_cons.2 ⟨fun other member => ?_, ih rest_ascending⟩
        rcases mem_insertInto.1 member with rfl | member
        · exact Classical.byContradiction fun not_above =>
            not_same (String.le_antisymm (String.not_lt.1 not_above) (String.not_lt.1 not_less))
        · exact above other member

def insert (label : String) (labels : LabelSet) : LabelSet :=
  ⟨insertInto label labels.toList, ascending_insertInto labels.ascending⟩

def ofList (labels : List String) : LabelSet :=
  labels.foldr insert empty

@[simp]
theorem mem_ofList {label : String} {labels : List String} :
    label ∈ ofList labels ↔ label ∈ labels := by
  induction labels with
  | nil => simp [ofList, empty, Membership.mem]
  | cons first rest ih =>
    rw [List.mem_cons, ← ih]
    exact mem_insertInto

theorem nodup (labels : LabelSet) : labels.toList.Nodup := by
  refine labels.ascending.imp fun {a b} less => ?_
  rintro rfl
  exact String.lt_irrefl a less

theorem ext {first second : LabelSet} (same : ∀ label, label ∈ first ↔ label ∈ second) :
    first = second := by
  have lists : first.toList = second.toList :=
    List.Perm.eq_of_pairwise (fun _ _ _ _ less more => absurd more (String.lt_asymm less))
      first.ascending second.ascending
      ((List.perm_ext_iff_of_nodup first.nodup second.nodup).2 same)
  cases first
  cases second
  simp_all

def any (labels : LabelSet) (test : String → Bool) : Bool :=
  labels.toList.any test

end LabelSet

end NoteCards

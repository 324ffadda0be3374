import Mathlib.Data.List.TakeWhile
import NoteCards.Text.Cut

/-!
# Where a text can be cut

A cut is made exactly at the length of what stands before it (`cutAt_eq_ok_iff`). Offsets come from
looking for a character. The offset of the first one that passes a test is the length of what stands
before it, so a cut there is always made, and so is one right behind a character of a single byte
(`dropBytes_behind`).
-/

namespace NoteCards.Text

/-- A cut falls apart into the two texts exactly where it stands between them. -/
theorem cutAt_eq_ok_iff {s before after : String} {offset : Nat} :
    cutAt s offset = .ok (before, after) ↔
      s = before ++ after ∧ before.utf8ByteSize = offset := by
  rw [cutAt]
  constructor
  · intro hcut
    split at hcut
    · next boundary =>
      cases hcut
      exact ⟨(s.pos ⟨offset⟩ boundary).splits.eq_append,
        congrArg String.Pos.Raw.byteIdx (s.pos ⟨offset⟩ boundary).splits.offset_eq_rawEndPos.symm⟩
    · contradiction
  · rintro ⟨rfl, rfl⟩
    have boundary : String.Pos.Raw.IsValid (before ++ after) ⟨before.utf8ByteSize⟩ :=
      String.Pos.Raw.isValid_rawEndPos.append_right after
    have hsplits : ((before ++ after).pos ⟨before.utf8ByteSize⟩ boundary).Splits before after :=
      String.Pos.splits_append_rawEndPos
    rw [dif_pos boundary, hsplits.copy_sliceTo_eq, hsplits.copy_sliceFrom_eq]

section Characters

variable {test : Char → Bool} {c : Char} {before after : List Char}

theorem cutAt_append : cutAt (.ofList (before ++ after)) (String.ofList before).utf8ByteSize =
    .ok (.ofList before, .ofList after) :=
  cutAt_eq_ok_iff.2 ⟨String.ofList_append, rfl⟩

theorem takeBytes_append : takeBytes (.ofList (before ++ after))
    (String.ofList before).utf8ByteSize = .ok (.ofList before) := by
  rw [takeBytes, cutAt_append]
  rfl

theorem dropBytes_append : dropBytes (.ofList (before ++ after))
    (String.ofList before).utf8ByteSize = .ok (.ofList after) := by
  rw [dropBytes, cutAt_append]
  rfl

theorem utf8ByteSize_cons (c : Char) (s : List Char) :
    (String.ofList (c :: s)).utf8ByteSize = c.utf8Size + (String.ofList s).utf8ByteSize := by
  rw [← List.singleton_append, String.ofList_append, String.utf8ByteSize_append,
    ← String.singleton_eq_ofList, String.utf8ByteSize_singleton]

/-- The offset behind a character is one more than its own if it is a single byte. -/
theorem dropBytes_behind (hsize : c.utf8Size = 1) :
    dropBytes (.ofList (before ++ c :: after)) ((String.ofList before).utf8ByteSize + 1) =
      .ok (.ofList after) := by
  have hoffset : (String.ofList before).utf8ByteSize + 1 =
      (String.ofList (before ++ [c])).utf8ByteSize := by
    rw [String.ofList_append, String.utf8ByteSize_append, utf8ByteSize_cons, hsize,
      String.ofList_nil, String.utf8ByteSize_empty]
  rw [hoffset, List.append_cons before c after]
  exact dropBytes_append

theorem dropBytes_one (hsize : c.utf8Size = 1) :
    dropBytes (.ofList (c :: after)) 1 = .ok (.ofList after) := by
  simpa using @dropBytes_behind c [] after hsize

theorem offsetOf?_eq_none {s : List Char} (hs : ∀ d ∈ s, test d = false) :
    offsetOf? test s = none := by
  induction s with
  | nil => rfl
  | cons d s ih =>
    rw [List.forall_mem_cons] at hs
    rw [offsetOf?, if_neg (by simp [hs.1]), ih hs.2, Option.map_none]

theorem offsetOf?_append (hbefore : ∀ d ∈ before, test d = false) (hc : test c = true) :
    offsetOf? test (before ++ c :: after) = some (String.ofList before).utf8ByteSize := by
  induction before with
  | nil => rw [List.nil_append, offsetOf?, if_pos hc, String.ofList_nil, String.utf8ByteSize_empty]
  | cons d before ih =>
    rw [List.forall_mem_cons] at hbefore
    rw [List.cons_append, offsetOf?, if_neg (by simp [hbefore.1]), ih hbefore.2, Option.map_some,
      utf8ByteSize_cons]

theorem offsetOf?_of_not_mem {s : List Char} (hs : c ∉ s) : offsetOf? (· = c) s = none :=
  offsetOf?_eq_none fun _ hd => decide_eq_false (ne_of_mem_of_not_mem hd hs)

theorem offsetOf?_first (hbefore : c ∉ before) :
    offsetOf? (· = c) (before ++ c :: after) = some (String.ofList before).utf8ByteSize :=
  offsetOf?_append (fun _ hd => decide_eq_false (ne_of_mem_of_not_mem hd hbefore))
    (decide_eq_true rfl)

end Characters

/-- An ideographic space takes three bytes, and only its first is a place to cut at. -/
example : cutAt "a\u3000b" 1 = .ok ("a", "\u3000b") ∧
    cutAt "a\u3000b" 2 = .error ⟨"a\u3000b", 2⟩ ∧ cutAt "a\u3000b" 6 = .error ⟨"a\u3000b", 6⟩ := by
  decide +kernel

end NoteCards.Text

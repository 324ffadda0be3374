import NoteCards.Proofs.Note.Fences

/-!
# Every tag of a body stands in it

A body is read line by line, and within a line from left to right, so its tags come in the order in
which they stand there. A `Mark` is a tag with the place of its `#`: the row of its line and the
position in it. The tags of a body are the runs of a list of marks in ascending order, none reaching
into the next (`inBody_eq_map_marks`). Each of them stands in a line outside of code, behind a
character that opens a tag, goes on as far as the tag characters do, and is no number.

Which rows are code depends on the rows above, so the induction walks down the rows and knows those
it has passed (`exists_marks`).
-/

namespace NoteCards.Hashtag

open NoteCards.Text

/-- A tag of a body: the row of its line, the place of its `#` there, and the run behind it. -/
structure Mark where
  row : Nat
  place : Nat
  run : List Char

/-- One mark ends before the other starts. -/
def Mark.Before (mark other : Mark) : Prop :=
  mark.row < other.row ∨
    mark.row = other.row ∧ mark.place + 1 + mark.run.length ≤ other.place

/-- A line of some lines that is no fence and has an even number of fences above it. -/
structure OutsideCode (rows : List (List Char)) (row : Nat) (text : List Char) : Prop where
  line : rows[row]? = some text
  noFence : ¬FenceLine text
  closed : fences (rows.take row) % 2 = 0

/-- Behind a `#` at the place stand the characters of the run, which are tag characters, and no
further one. The character before the `#`, if there is one, is neither a `#` nor a word character.
The run is no number. -/
structure StandsAt (text : List Char) (place : Nat) (run : List Char) : Prop where
  hash : text[place]? = some '#'
  opened : ∀ c, 0 < place → text[place - 1]? = some c → isWordChar c = false ∧ c ≠ '#'
  spelled : run <+: text.drop (place + 1)
  tagChars : ∀ c ∈ run, isTagChar c = true
  maximal : ∀ c, text[place + 1 + run.length]? = some c → isTagChar c = false
  noNumber : ∃ c ∈ run, isNumeral c = false

section Place

variable {text run : List Char} {place : Nat}

theorem runAt_eq_iff : runAt text place = run ↔ run <+: text.drop (place + 1) ∧
    (∀ c ∈ run, isTagChar c = true) ∧
      ∀ c, text[place + 1 + run.length]? = some c → isTagChar c = false := by
  have hnext : ∀ rest, text.drop (place + 1) = run ++ rest →
      text[place + 1 + run.length]? = rest.head? := by
    intro rest hrest
    rw [← List.getElem?_drop, hrest, List.getElem?_append_right le_rfl, Nat.sub_self,
      List.head?_eq_getElem?]
  constructor
  · rintro rfl
    have hrest : text.drop (place + 1) = runAt text place ++
        (text.drop (place + 1)).dropWhile isTagChar := List.takeWhile_append_dropWhile.symm
    refine ⟨List.takeWhile_prefix _, fun c hc => List.mem_takeWhile_imp hc, fun c hc => ?_⟩
    rw [hnext _ hrest] at hc
    have hhead := List.head?_dropWhile_not isTagChar (text.drop (place + 1))
    rw [hc] at hhead
    simpa using hhead
  · rintro ⟨⟨rest, hrest⟩, htag, hmaximal⟩
    rw [runAt, ← hrest, List.takeWhile_append_of_pos htag]
    rw [hnext rest hrest.symm] at hmaximal
    cases rest with
    | nil => simp
    | cons c rest => simp [hmaximal c rfl]

theorem standsAt_iff : StandsAt text place run ↔
    StartsTag text place ∧ (∃ c ∈ run, isNumeral c = false) ∧ runAt text place = run := by
  have hopens : ∀ c, opensTag c = true ↔ isWordChar c = false ∧ c ≠ '#' := by
    intro c
    simp [opensTag]
  constructor
  · rintro ⟨hhash, hopened, hspelled, htag, hmaximal, c, hc, hnumber⟩
    have hrun : runAt text place = run := runAt_eq_iff.2 ⟨hspelled, htag, hmaximal⟩
    refine ⟨⟨hhash, ?_, ?_⟩, ⟨c, hc, hnumber⟩, hrun⟩
    · rcases Nat.eq_zero_or_pos place with hfirst | hpos
      · exact .inl hfirst
      · have hlt := (List.getElem?_eq_some_iff.1 hhash).1
        have hbefore : text[place - 1]? = some text[place - 1] := List.getElem?_eq_getElem _
        exact .inr ⟨_, hbefore, (hopens _).2 (hopened _ hpos hbefore)⟩
    · rw [hrun]
      exact List.ne_nil_of_mem hc
  · rintro ⟨⟨hhash, hopened, -⟩, hnumber, hrun⟩
    obtain ⟨hspelled, htag, hmaximal⟩ := runAt_eq_iff.1 hrun
    refine ⟨hhash, fun c hpos hc => ?_, hspelled, htag, hmaximal, hnumber⟩
    rcases hopened with hfirst | ⟨d, hd, hopens'⟩
    · omega
    · rw [hc, Option.some.injEq] at hd
      exact (hopens c).1 (hd ▸ hopens')

/-- The places of a line at which a tag is found, as marks in a row. -/
theorem exists_marks_of_line (row : Nat) (text : List Char) :
    ∃ marks : List Mark, marks.Pairwise Mark.Before ∧
      (∀ mark, mark ∈ marks ↔ mark.row = row ∧ StandsAt text mark.place mark.run ∧
        ¬Overrun text mark.place) ∧
      ofLine text = marks.map Mark.run := by
  obtain ⟨places, hsorted, hmem, hruns⟩ := ofLine_eq_map_places text
  refine ⟨places.map fun place => ⟨row, place, runAt text place⟩, ?_, fun mark => ?_, ?_⟩
  · rw [List.pairwise_map]
    refine hsorted.imp_of_mem fun {place other} _ hother hlt => ?_
    -- a `#` is no tag character, so the run of the first place ends before the second
    refine .inr ⟨rfl, not_lt.1 fun hinside => ?_⟩
    exact not_startsTag_of_lt_run hlt hinside ((hmem other).1 hother).1
  · obtain ⟨markRow, place, run⟩ := mark
    simp only [List.mem_map, hmem, Mark.mk.injEq, standsAt_iff]
    constructor
    · rintro ⟨place, ⟨hstarts, hnumber, hclear⟩, rfl, rfl, rfl⟩
      exact ⟨rfl, ⟨hstarts, hnumber, rfl⟩, hclear⟩
    · rintro ⟨rfl, ⟨hstarts, hnumber, rfl⟩, hclear⟩
      exact ⟨place, ⟨hstarts, hnumber, hclear⟩, rfl, rfl, rfl⟩
  · rw [hruns, List.map_map]
    rfl

end Place

/-! ### The rows of a body -/

section Rows

variable {above rows : List (List Char)} {text : List Char}

theorem outsideCode_length_iff {other : List Char} :
    OutsideCode (above ++ text :: rows) above.length other ↔
      text = other ∧ ¬FenceLine text ∧ fences above % 2 = 0 := by
  have hline : (above ++ text :: rows)[above.length]? = some text := by simp
  have habove : (above ++ text :: rows).take above.length = above := by simp
  constructor
  · rintro ⟨hother, hfence, hclosed⟩
    rw [hline, Option.some.injEq] at hother
    rw [habove] at hclosed
    exact ⟨hother, hother ▸ hfence, hclosed⟩
  · rintro ⟨rfl, hfence, hclosed⟩
    exact ⟨hline, hfence, habove.symm ▸ hclosed⟩

theorem fences_concat (above : List (List Char)) (text : List Char) :
    fences (above ++ [text]) = fences above + if FenceLine text then 1 else 0 := by
  rw [fences, List.countP_append, List.countP_singleton]
  by_cases hfence : FenceLine text <;> simp [fences, hfence]

/-- A line outside of code gives its tags before those of the lines below it, any other none. -/
theorem tagsFrom_parity_cons (above : List (List Char)) (text : List Char)
    (rows : List (List Char)) :
    tagsFrom (decide (fences above % 2 = 1)) (text :: rows) =
      (if ¬FenceLine text ∧ fences above % 2 = 0 then ofLine text else []) ++
        tagsFrom (decide (fences (above ++ [text]) % 2 = 1)) rows := by
  rw [tagsFrom_cons, fences_concat]
  rcases Nat.mod_two_eq_zero_or_one (fences above) with heven | hodd
  · by_cases hfence : FenceLine text
    · simp [heven, hfence, isFence_iff.2 hfence, Nat.add_mod]
    · simp [heven, hfence, isFence_eq_false_iff.2 hfence]
  · by_cases hfence : FenceLine text
    · simp [hodd, hfence, isFence_iff.2 hfence, Nat.add_mod]
    · simp [hodd, hfence, isFence_eq_false_iff.2 hfence]

/-- From any line on, the tags are the runs of the marks in the lines from there on. -/
theorem exists_marks (above rows : List (List Char)) :
    ∃ marks : List Mark, marks.Pairwise Mark.Before ∧
      (∀ mark, mark ∈ marks ↔ above.length ≤ mark.row ∧
        ∃ text, OutsideCode (above ++ rows) mark.row text ∧
          StandsAt text mark.place mark.run ∧ ¬Overrun text mark.place) ∧
      tagsFrom (decide (fences above % 2 = 1)) rows = marks.map Mark.run := by
  induction rows generalizing above with
  | nil =>
    refine ⟨[], .nil, fun mark => ?_, rfl⟩
    simp only [List.not_mem_nil, false_iff, not_and]
    rintro hrow ⟨text, ⟨hline, -, -⟩, -⟩
    rw [List.append_nil, List.getElem?_eq_none hrow] at hline
    contradiction
  | cons text rows ih =>
    obtain ⟨below, hsorted, hmem, htags⟩ := ih (above ++ [text])
    rw [List.append_assoc, List.singleton_append, List.length_append,
      List.length_singleton] at hmem
    obtain ⟨marks, hmarksSorted, hmarksMem, hmarks⟩ := exists_marks_of_line above.length text
    rw [tagsFrom_parity_cons, htags]
    by_cases houtside : ¬FenceLine text ∧ fences above % 2 = 0
    · have hbefore : ∀ mark ∈ marks, ∀ other ∈ below, mark.Before other := by
        intro mark hmark other hother
        have hrow := ((hmarksMem mark).1 hmark).1
        have hotherRow := ((hmem other).1 hother).1
        exact .inl (by omega)
      refine ⟨marks ++ below, List.pairwise_append.2 ⟨hmarksSorted, hsorted, hbefore⟩,
        fun mark => ?_, ?_⟩
      · rw [List.mem_append, hmarksMem, hmem]
        constructor
        · rintro (⟨hrow, hstands⟩ | ⟨hrow, hstands⟩)
          · exact ⟨hrow.ge, text, hrow ▸ outsideCode_length_iff.2 ⟨rfl, houtside⟩, hstands⟩
          · exact ⟨by omega, hstands⟩
        · rintro ⟨hrow, other, hother, hstands⟩
          rcases hrow.eq_or_lt with hsame | hlater
          · rw [← hsame, outsideCode_length_iff] at hother
            exact .inl ⟨hsame.symm, hother.1 ▸ hstands⟩
          · exact .inr ⟨hlater, other, hother, hstands⟩
      · rw [if_pos houtside, hmarks, List.map_append]
    · refine ⟨below, hsorted, fun mark => ?_, by rw [if_neg houtside, List.nil_append]⟩
      rw [hmem]
      constructor
      · rintro ⟨hrow, hstands⟩
        exact ⟨by omega, hstands⟩
      · rintro ⟨hrow, other, hother, hstands⟩
        rcases hrow.eq_or_lt with hsame | hlater
        · rw [← hsame, outsideCode_length_iff] at hother
          exact absurd hother.2 houtside
        · exact ⟨hlater, other, hother, hstands⟩

end Rows

/-- **Sound and in order.** The tags of a body are the runs of its marks: each stands in a line
outside of code as a tag has to, they ascend without touching each other, and only marks that are
overrun by the mark before them are left out. -/
theorem inBody_eq_map_marks (body : String) :
    ∃ marks : List Mark, marks.Pairwise Mark.Before ∧
      (∀ mark, mark ∈ marks ↔ ∃ text, OutsideCode (lines body.toList) mark.row text ∧
        StandsAt text mark.place mark.run ∧ ¬Overrun text mark.place) ∧
      inBody body = marks.map fun mark => String.ofList mark.run := by
  obtain ⟨marks, hsorted, hmem, htags⟩ := exists_marks [] (lines body.toList)
  refine ⟨marks, hsorted, fun mark => ?_, ?_⟩
  · rw [hmem, List.length_nil, and_iff_right (Nat.zero_le _), List.nil_append]
  · have hbody : inBody body =
        (tagsFrom (decide (fences [] % 2 = 1)) (lines body.toList)).map String.ofList := rfl
    rw [hbody, htags, List.map_map]
    rfl

end NoteCards.Hashtag

import Mathlib.Data.List.Forall2
import NoteCards.Proofs.Note.Hashtag

/-!
# Bodies put together

Whether a line is code depends on all fences above it, but only through their parity. So the tags of
a body that is put together from two, with a line end between them, are those of the parts, the
second one read as code where the first leaves a fence open (`inBody_append`).

The lines are not put together that simply: a carriage return at the end of the first part belongs
to the line end if a line feed follows, and a last line that is empty is no line. Neither matters to
the tags. `Alike` says of two lists of lines that they differ in this alone. The lines of a text are
alike to its pieces between line feeds (`alike_splitOn`), and pieces are put together as the texts
are.
-/

namespace NoteCards.Hashtag

open NoteCards.Text

/-! ### A carriage return at the end of a line -/

section Return

variable {s : List Char}

theorem takeWhile_concat_of_not {p : Char → Bool} {c : Char} (hc : p c = false) (s : List Char) :
    (s ++ [c]).takeWhile p = s.takeWhile p := by
  induction s with
  | nil => simp [hc]
  | cons d s ih =>
    rw [List.cons_append, List.takeWhile_cons, List.takeWhile_cons, ih]

theorem dropWhile_concat_of_not {p : Char → Bool} {c : Char} (hc : p c = false) (s : List Char) :
    (s ++ [c]).dropWhile p = s.dropWhile p ++ [c] := by
  simp [List.dropWhile_append, hc]

theorem runsFrom_concat_return (free : Bool) (line : List Char) :
    runsFrom free (line ++ ['\r']) = runsFrom free line := by
  have hreturn : isTagChar '\r' = false := by decide +kernel
  induction free, line using runsFrom.induct with
  | case1 free => simp [runsFrom]
  | case2 free c rest hcond ih =>
    rw [List.cons_append, runsFrom, runsFrom, takeWhile_concat_of_not hreturn, if_pos hcond,
      if_pos hcond, dropWhile_concat_of_not hreturn, ih]
  | case3 free c rest hcond ih =>
    rw [List.cons_append, runsFrom, runsFrom, takeWhile_concat_of_not hreturn, if_neg hcond,
      if_neg hcond, ih]

theorem ofLine_concat_return (line : List Char) : ofLine (line ++ ['\r']) = ofLine line := by
  rw [ofLine, runsFrom_concat_return, ofLine]

theorem isFence_concat_return (line : List Char) : isFence (line ++ ['\r']) = isFence line := by
  have hblank : isBlank '\r' = true := by decide
  have hmark : ∀ s : List Char, ['\x60', '\x60', '\x60'].isPrefixOf (s ++ ['\r']) =
      ['\x60', '\x60', '\x60'].isPrefixOf s := by
    intro s
    have hlast : ['\x60', '\x60', '\x60'] ≠ s ++ ['\r'] := by
      intro hall
      have hend := congrArg List.getLast? hall
      rw [List.getLast?_concat] at hend
      exact absurd hend (by decide)
    rw [Bool.eq_iff_iff, List.isPrefixOf_iff_prefix, List.isPrefixOf_iff_prefix,
      List.prefix_concat_iff, or_iff_right hlast]
  rw [isFence, isFence]
  induction line with
  | nil => decide
  | cons c line ih =>
    rw [List.cons_append, trimStart, trimStart, List.dropWhile_cons, List.dropWhile_cons]
    split
    · exact ih
    · exact hmark (c :: line)

end Return

/-! ### Lines that are alike -/

/-- The same line, possibly with a carriage return at its end. -/
def SameLine (line other : List Char) : Prop :=
  other = line ∨ other = line ++ ['\r']

namespace SameLine

variable {line other : List Char}

theorem cons (hsame : SameLine line other) (c : Char) : SameLine (c :: line) (c :: other) :=
  hsame.imp (congrArg _) (congrArg _)

theorem isFence_eq (hsame : SameLine line other) : isFence other = isFence line := by
  rcases hsame with rfl | rfl
  · rfl
  · exact isFence_concat_return line

theorem ofLine_eq (hsame : SameLine line other) : ofLine other = ofLine line := by
  rcases hsame with rfl | rfl
  · rfl
  · exact ofLine_concat_return line

end SameLine

/-- The same lines, possibly with carriage returns at their ends and an empty one behind them. -/
def Alike (rows others : List (List Char)) : Prop :=
  List.Forall₂ SameLine rows others ∨ List.Forall₂ SameLine (rows ++ [[]]) others

/-- The tags of lines, where `fenced` tells whether the first of them is code. -/
def tagsFrom (fenced : Bool) (rows : List (List Char)) : List (List Char) :=
  (proseLines fenced rows).flatMap ofLine

section Alike

variable {rows others : List (List Char)}

theorem tagsFrom_cons (fenced : Bool) (line : List Char) (rows : List (List Char)) :
    tagsFrom fenced (line :: rows) =
      if isFence line then tagsFrom (!fenced) rows
      else if fenced then tagsFrom fenced rows
      else ofLine line ++ tagsFrom fenced rows := by
  rw [tagsFrom, proseLines]
  split
  · rfl
  · split <;> rfl

theorem tagsFrom_append (fenced : Bool) (above below : List (List Char)) :
    tagsFrom fenced (above ++ below) = tagsFrom fenced above ++
      tagsFrom (fenced != decide (fences above % 2 = 1)) below := by
  rw [tagsFrom, proseLines_append, List.flatMap_append, countP_isFence]
  rfl

theorem tagsFrom_empty (fenced : Bool) : tagsFrom fenced [[]] = [] := by
  cases fenced <;> decide +kernel

theorem Alike.cons {line other : List Char} (hline : SameLine line other)
    (hrows : Alike rows others) : Alike (line :: rows) (other :: others) :=
  hrows.imp (.cons hline) (.cons hline)

theorem Alike.tagsFrom_eq (halike : Alike rows others) (fenced : Bool) :
    tagsFrom fenced others = tagsFrom fenced rows := by
  have hsame : ∀ {rows others}, List.Forall₂ SameLine rows others →
      tagsFrom fenced others = tagsFrom fenced rows := by
    intro rows others hrows
    induction hrows generalizing fenced with
    | nil => rfl
    | cons hline _ ih =>
      rw [tagsFrom_cons, tagsFrom_cons, hline.isFence_eq, hline.ofLine_eq, ih, ih]
  rcases halike with hrows | hrows
  · exact hsame hrows
  · rw [hsame hrows, tagsFrom_append, tagsFrom_empty, List.append_nil]

theorem Alike.fences_eq (halike : Alike rows others) : fences others = fences rows := by
  rw [← countP_isFence, ← countP_isFence]
  have hsame : ∀ {rows others}, List.Forall₂ SameLine rows others →
      others.countP isFence = rows.countP isFence := by
    intro rows others hrows
    induction hrows with
    | nil => rfl
    | cons hline _ ih => rw [List.countP_cons, List.countP_cons, ih, hline.isFence_eq]
  rcases halike with hrows | hrows
  · exact hsame hrows
  · rw [hsame hrows, List.countP_append]
    rfl

end Alike

/-! ### Pieces between line feeds -/

section Pieces

theorem splitOn_newline (s : List Char) : ('\n' :: s).splitOn '\n' = [] :: s.splitOn '\n' := by
  rw [List.splitOn_cons_eq_if_modifyHead, if_pos (by rfl)]

theorem splitOn_cons {c : Char} (hc : c ≠ '\n') (s : List Char) :
    (c :: s).splitOn '\n' = (s.splitOn '\n').modifyHead (c :: ·) := by
  rw [List.splitOn_cons_eq_if_modifyHead, if_neg (by simpa using hc)]

theorem splitOn_append (s t : List Char) :
    (s ++ '\n' :: t).splitOn '\n' = s.splitOn '\n' ++ t.splitOn '\n' :=
  List.splitOnP_append_cons s t (by rfl)

theorem sameLines_modifyHead {rows others : List (List Char)}
    (hrows : List.Forall₂ SameLine rows others) (c : Char) :
    List.Forall₂ SameLine (rows.modifyHead (c :: ·)) (others.modifyHead (c :: ·)) := by
  cases hrows with
  | nil => exact .nil
  | cons hline hmore => exact .cons (hline.cons c) hmore

/-- A carriage return at the end of a text only joins the last piece. -/
theorem alike_splitOn_concat (s : List Char) :
    Alike (s.splitOn '\n') ((s ++ ['\r']).splitOn '\n') := by
  refine .inl ?_
  induction s with
  | nil => exact .cons (.inr rfl) .nil
  | cons c s ih =>
    rw [List.cons_append]
    by_cases hc : c = '\n'
    · rw [hc, splitOn_newline, splitOn_newline]
      exact .cons (.inl rfl) ih
    · rw [splitOn_cons hc, splitOn_cons hc]
      exact sameLines_modifyHead ih c

/-- The lines of a text are its pieces between line feeds. -/
theorem alike_splitOn (s : List Char) : Alike (lines s) (s.splitOn '\n') := by
  induction s using lines.induct with
  | case1 => exact .inr (.cons (.inl rfl) .nil)
  | case2 rest ih =>
    rw [lines, splitOn_newline]
    exact ih.cons (.inl rfl)
  | case3 rest ih =>
    rw [lines, splitOn_cons (by decide), splitOn_newline]
    exact ih.cons (.inr rfl)
  | case4 c rest hfeed hreturn hnone ih =>
    have hline : lines (c :: rest) = [[c]] := by rw [lines, hnone] <;> assumption
    rw [hline, splitOn_cons hfeed]
    rw [hnone] at ih
    -- the end of the text is no line of its own, but a piece to which the character belongs
    rcases ih with hrows | hrows
    · exact absurd (List.forall₂_nil_left_iff.1 hrows) (List.splitOn_ne_nil _ _)
    · exact .inl (sameLines_modifyHead hrows c)
  | case5 c rest hfeed hreturn line more hsome ih =>
    have hline : lines (c :: rest) = (c :: line) :: more := by rw [lines, hsome] <;> assumption
    rw [hline, splitOn_cons hfeed]
    rw [hsome] at ih
    rcases ih with hrows | hrows
    · have hmore := sameLines_modifyHead hrows c
      exact .inl hmore
    · have hmore := sameLines_modifyHead hrows c
      exact .inr hmore

end Pieces

/-! ### Bodies -/

theorem inBody_eq_tagsFrom (body : String) :
    inBody body = (tagsFrom false (body.toList.splitOn '\n')).map String.ofList := by
  rw [(alike_splitOn body.toList).tagsFrom_eq]
  rfl

/-- Both line ends cut a body at the same place. -/
theorem tagsFrom_append_newline {newline : String} (hnewline : newline = "\n" ∨ newline = "\r\n")
    (first second : String) :
    tagsFrom false ((first ++ newline ++ second).toList.splitOn '\n') =
      tagsFrom false (first.toList.splitOn '\n') ++
        tagsFrom (decide (fences (lines first.toList) % 2 = 1))
          (second.toList.splitOn '\n') := by
  have hcount := (alike_splitOn first.toList).fences_eq
  have hfences : (false != decide (fences (lines first.toList) % 2 = 1)) =
      decide (fences (lines first.toList) % 2 = 1) := Bool.false_bne _
  rw [String.toList_append, String.toList_append]
  rcases hnewline with rfl | rfl
  · have hcut : first.toList ++ "\n".toList ++ second.toList =
        first.toList ++ '\n' :: second.toList := by simp
    rw [hcut, splitOn_append, tagsFrom_append, hcount, hfences]
  · have hcut : first.toList ++ "\r\n".toList ++ second.toList =
        (first.toList ++ ['\r']) ++ '\n' :: second.toList := by simp
    have hreturn := alike_splitOn_concat first.toList
    rw [hcut, splitOn_append, tagsFrom_append, hreturn.tagsFrom_eq, hreturn.fences_eq, hcount,
      hfences]

/-- **Bodies behind bodies.** With a line end between them, the tags of two bodies are those of the
first and those of the second, which is code up to its first fence if the first body has an odd
number of fences. Which line end it is does not matter. -/
theorem inBody_append (first second newline : String)
    (hnewline : newline = "\n" ∨ newline = "\r\n") :
    (fences (lines first.toList) % 2 = 0 →
        inBody (first ++ newline ++ second) = inBody first ++ inBody second) ∧
      (fences (lines first.toList) % 2 = 1 →
        inBody (first ++ newline ++ second) = inBody first ++ inBody ("```\n" ++ second)) ∧
      inBody (first ++ "\r\n" ++ second) = inBody (first ++ "\n" ++ second) := by
  have htags := tagsFrom_append_newline hnewline first second
  have hfeed := tagsFrom_append_newline (.inl rfl) first second
  have hreturn := tagsFrom_append_newline (.inr rfl) first second
  simp only [inBody_eq_tagsFrom, htags, hfeed, hreturn, List.map_append]
  refine ⟨fun heven => ?_, fun hodd => ?_, trivial⟩
  · simp [heven]
  · have hopen : ("```\n" ++ second).toList.splitOn '\n' =
        "```".toList :: second.toList.splitOn '\n' := by
      rw [String.toList_append]
      exact splitOn_append "```".toList second.toList
    have hfence : isFence "```".toList = true := by decide
    rw [hopen, tagsFrom_cons, if_pos hfence]
    simp [hodd]

/-- A fence stays open over a line end of two characters, behind a carriage return of its own. -/
theorem inBody_append_open_fence :
    ("\r\n" = "\n" ∨ "\r\n" = "\r\n") ∧
      fences (lines "#a\n```\n#b\r".toList) % 2 = 1 ∧
      inBody ("#a\n```\n#b\r" ++ "\r\n" ++ "#c\n```\n#d") =
        inBody "#a\n```\n#b\r" ++ inBody ("```\n" ++ "#c\n```\n#d") ∧
      inBody ("#a\n```\n#b\r" ++ "\r\n" ++ "#c\n```\n#d") = ["a", "d"] := by
  have hnewline : "\r\n" = "\n" ∨ "\r\n" = "\r\n" := .inr rfl
  have hodd : fences (lines "#a\n```\n#b\r".toList) % 2 = 1 := by decide +kernel
  obtain ⟨-, hopen, -⟩ := inBody_append "#a\n```\n#b\r" "#c\n```\n#d" "\r\n" hnewline
  exact ⟨hnewline, hodd, hopen hodd, by decide +kernel⟩

end NoteCards.Hashtag

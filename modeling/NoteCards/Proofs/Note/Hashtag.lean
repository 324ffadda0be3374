import NoteCards.Note.Hashtag
import Mathlib.Data.List.Basic
import Mathlib.Data.List.TakeWhile

/-!
# Where the tags of a line stand

A `#` starts a tag when it stands at the start of the line or after a character that is neither a
word character nor a `#`, and a tag character follows. The scan finds such a place only if it has
not used up the character before it: the run of a tag that it found may end in a `/`, a `-` or a
numeral, and a `#` right behind that is passed over. So the places that are found are those that are
not *overrun*, where a place is overrun by an earlier one that is found itself.

`Reached` is the invariant of the scan: no run found so far reaches past the position, and the flag
tells whether a `#` there would be found. Each step keeps it, past a run or past a character, and
`scan_places` collects the places from any position of a line on.
-/

namespace NoteCards.Hashtag

open NoteCards.Text

/-- The tag characters behind a place of a line, as far as they go. -/
def runAt (text : List Char) (place : Nat) : List Char :=
  (text.drop (place + 1)).takeWhile isTagChar

/-- A `#` that nothing before it keeps from starting a tag, with a tag character behind it. -/
structure StartsTag (text : List Char) (place : Nat) : Prop where
  hash : text[place]? = some '#'
  opened : place = 0 ∨ ∃ c, text[place - 1]? = some c ∧ opensTag c = true
  run_ne_nil : runAt text place ≠ []

/-- The run of an earlier place, not overrun itself, ends right before the place. -/
def Overrun (text : List Char) (place : Nat) : Prop :=
  ∃ earlier, ∃ _ : earlier < place, StartsTag text earlier ∧
    earlier + 1 + (runAt text earlier).length = place ∧ ¬Overrun text earlier
termination_by place

def IsFound (text : List Char) (place : Nat) : Prop :=
  StartsTag text place ∧ ¬Overrun text place

theorem overrun_iff {text : List Char} {place : Nat} :
    Overrun text place ↔ ∃ earlier < place, IsFound text earlier ∧
      earlier + 1 + (runAt text earlier).length = place := by
  rw [Overrun]
  constructor
  · rintro ⟨earlier, hlt, hstarts, hend, hnot⟩
    exact ⟨earlier, hlt, ⟨hstarts, hnot⟩, hend⟩
  · rintro ⟨earlier, hlt, ⟨hstarts, hnot⟩, hend⟩
    exact ⟨earlier, hlt, hstarts, hend, hnot⟩

/-! ### Places seen from the rest of the line -/

section Split

variable {text before rest : List Char} {c : Char}

theorem runAt_length (hsplit : text = before ++ c :: rest) :
    runAt text before.length = rest.takeWhile isTagChar := by
  rw [hsplit, runAt, List.drop_append, List.drop_of_length_le (by omega)]
  simp

theorem length_past_run (hsplit : text = before ++ c :: rest) :
    (before ++ c :: rest.takeWhile isTagChar).length =
      before.length + 1 + (runAt text before.length).length := by
  rw [runAt_length hsplit, List.length_append, List.length_cons]
  omega

theorem getElem?_length (hsplit : text = before ++ c :: rest) : text[before.length]? = some c := by
  simp [hsplit]

theorem startsTag_iff (hsplit : text = before ++ c :: rest) :
    StartsTag text before.length ↔
      c = '#' ∧ (∀ d ∈ before.getLast?, opensTag d = true) ∧ rest.takeWhile isTagChar ≠ [] := by
  have hopened : (before.length = 0 ∨
      ∃ d, text[before.length - 1]? = some d ∧ opensTag d = true) ↔
        ∀ d ∈ before.getLast?, opensTag d = true := by
    rw [hsplit]
    rcases List.eq_nil_or_concat' before with rfl | ⟨front, d, rfl⟩
    · simp
    · simp
  constructor
  · rintro ⟨hhash, hopen, hrun⟩
    rw [getElem?_length hsplit, Option.some.injEq] at hhash
    rw [runAt_length hsplit] at hrun
    exact ⟨hhash, hopened.1 hopen, hrun⟩
  · rintro ⟨hhash, hopen, hrun⟩
    refine ⟨?_, hopened.2 hopen, ?_⟩
    · rw [getElem?_length hsplit, hhash]
    · rw [runAt_length hsplit]
      exact hrun

end Split

theorem not_startsTag_of_lt_run {text : List Char} {place inside : Nat} (hlow : place < inside)
    (hhigh : inside < place + 1 + (runAt text place).length) : ¬StartsTag text inside := by
  intro hstarts
  have hrun : (runAt text place)[inside - (place + 1)]? = some '#' := by
    obtain ⟨rest, hrest⟩ : ∃ rest, text.drop (place + 1) = runAt text place ++ rest :=
      ⟨_, List.takeWhile_append_dropWhile.symm⟩
    have hdrop : (text.drop (place + 1))[inside - (place + 1)]? = some '#' := by
      rw [List.getElem?_drop, show place + 1 + (inside - (place + 1)) = inside by omega]
      exact hstarts.hash
    rwa [hrest, List.getElem?_append_left (by omega)] at hdrop
  have htag : isTagChar '#' = true := List.mem_takeWhile_imp (List.mem_of_getElem? hrun)
  exact absurd htag (by decide +kernel)

/-! ### The scan -/

/-- What the scan knows when it has come through `before`: no run found there goes on, and the flag
tells whether a `#` right behind is found, if a tag character follows. -/
structure Reached (text before : List Char) (free : Bool) : Prop where
  covered : ∀ earlier < before.length, IsFound text earlier →
    earlier + 1 + (runAt text earlier).length ≤ before.length
  free_iff : text[before.length]? = some '#' → (free = true ↔
    (∀ d ∈ before.getLast?, opensTag d = true) ∧ ¬Overrun text before.length)

namespace Reached

variable {text before rest : List Char} {free : Bool} {c : Char}

theorem start (text : List Char) : Reached text [] true := by
  have hclear : ¬Overrun text 0 := by
    rw [overrun_iff]
    rintro ⟨earlier, hlt, -⟩
    omega
  refine ⟨fun earlier hlt => absurd hlt (Nat.not_lt_zero earlier), fun _ => ?_⟩
  simp [hclear]

/-- The test that the scan makes at a character is whether a run is found there. -/
theorem isFound_iff (hreached : Reached text before free) (hsplit : text = before ++ c :: rest) :
    IsFound text before.length ↔
      c = '#' ∧ free = true ∧ rest.takeWhile isTagChar ≠ [] := by
  have hhead := getElem?_length hsplit
  constructor
  · rintro ⟨htag, hclear⟩
    obtain ⟨rfl, hopened, hrun⟩ := (startsTag_iff hsplit).1 htag
    exact ⟨rfl, (hreached.free_iff hhead).2 ⟨hopened, hclear⟩, hrun⟩
  · rintro ⟨rfl, hfree, hrun⟩
    obtain ⟨hopened, hclear⟩ := (hreached.free_iff hhead).1 hfree
    exact ⟨(startsTag_iff hsplit).2 ⟨rfl, hopened, hrun⟩, hclear⟩

/-- Behind a run that is found no `#` is. -/
theorem past_run (hreached : Reached text before free) (hsplit : text = before ++ c :: rest)
    (hfound : IsFound text before.length) :
    Reached text (before ++ c :: rest.takeWhile isTagChar) false := by
  have hlength := length_past_run hsplit
  refine ⟨fun earlier hlt hearlier => ?_, fun _ => ?_⟩
  · rw [hlength] at hlt ⊢
    rcases Nat.lt_trichotomy earlier before.length with hbefore | rfl | hafter
    · have hcovered := hreached.covered earlier hbefore hearlier
      omega
    · exact le_rfl
    · exact absurd hearlier.1 (not_startsTag_of_lt_run hafter hlt)
  · have hover : Overrun text (before ++ c :: rest.takeWhile isTagChar).length :=
      overrun_iff.2 ⟨before.length, by omega, hfound, hlength.symm⟩
    simp only [Bool.false_eq_true, false_iff, not_and, not_not]
    exact fun _ => hover

/-- A character where no run is found opens the next `#` or does not. -/
theorem past_char (hreached : Reached text before free)
    (hmissed : ¬IsFound text before.length) : Reached text (before ++ [c]) (opensTag c) := by
  have hlength : (before ++ [c]).length = before.length + 1 := by simp
  have hcovered : ∀ earlier < (before ++ [c]).length, IsFound text earlier →
      earlier + 1 + (runAt text earlier).length ≤ before.length := by
    intro earlier hlt hearlier
    rw [hlength] at hlt
    by_cases hlast : earlier = before.length
    · exact absurd (hlast ▸ hearlier) hmissed
    · exact hreached.covered earlier (by omega) hearlier
  refine ⟨fun earlier hlt hearlier => ?_, fun _ => ?_⟩
  · have hend := hcovered earlier hlt hearlier
    omega
  · have hclear : ¬Overrun text (before ++ [c]).length := by
      rw [overrun_iff]
      rintro ⟨earlier, hlt, hearlier, hend⟩
      have hle := hcovered earlier hlt hearlier
      omega
    simp only [List.getLast?_concat, Option.mem_some_iff, forall_eq', hclear, not_false_eq_true,
      and_true]

end Reached

/-- From wherever it is, the scan finds the runs of exactly the places from there on that are
found. -/
theorem scan_places {text before rest : List Char} {free : Bool} (hsplit : text = before ++ rest)
    (hreached : Reached text before free) :
    ∃ places : List Nat, places.Pairwise (· < ·) ∧
      (∀ place, place ∈ places ↔ before.length ≤ place ∧ IsFound text place) ∧
      runsFrom free rest = places.map (runAt text) := by
  induction free, rest using runsFrom.induct generalizing before with
  | case1 free =>
    refine ⟨[], .nil, fun place => ?_, by rw [runsFrom, List.map_nil]⟩
    simp only [List.not_mem_nil, false_iff, not_and]
    intro hplace hfound
    have hhash := hfound.1.hash
    rw [hsplit, List.append_nil, List.getElem?_eq_none hplace] at hhash
    contradiction
  | case2 free c rest hcond ih =>
    have hfound : IsFound text before.length :=
      (hreached.isFound_iff hsplit).2 (by simpa [and_assoc] using hcond)
    have hsplitNext : text = (before ++ c :: rest.takeWhile isTagChar) ++
        rest.dropWhile isTagChar := by
      rw [hsplit, List.append_assoc, List.cons_append, List.takeWhile_append_dropWhile]
    obtain ⟨places, hsorted, hmem, hruns⟩ := ih hsplitNext (hreached.past_run hsplit hfound)
    rw [length_past_run hsplit] at hmem
    refine ⟨before.length :: places, List.pairwise_cons.2 ⟨?_, hsorted⟩, fun place => ?_, ?_⟩
    · intro place hplace
      have hle := ((hmem place).1 hplace).1
      omega
    · rw [List.mem_cons, hmem]
      constructor
      · rintro (rfl | ⟨hle, hplace⟩)
        · exact ⟨le_rfl, hfound⟩
        · exact ⟨by omega, hplace⟩
      · rintro ⟨hle, hplace⟩
        by_cases hfirst : place = before.length
        · exact .inl hfirst
        · refine .inr ⟨?_, hplace⟩
          by_contra hlt
          exact not_startsTag_of_lt_run (show before.length < place by omega) (by omega) hplace.1
    · rw [runsFrom, if_pos hcond, hruns, List.map_cons, runAt_length hsplit]
  | case3 free c rest hcond ih =>
    have hmissed : ¬IsFound text before.length := by
      intro hfound
      exact hcond (by simpa [and_assoc] using (hreached.isFound_iff hsplit).1 hfound)
    have hsplitNext : text = (before ++ [c]) ++ rest := by simp [hsplit]
    obtain ⟨places, hsorted, hmem, hruns⟩ := ih hsplitNext (hreached.past_char hmissed)
    refine ⟨places, hsorted, fun place => ?_, by rw [runsFrom, if_neg hcond, hruns]⟩
    rw [hmem, List.length_append, List.length_singleton]
    constructor
    · rintro ⟨hle, hplace⟩
      exact ⟨by omega, hplace⟩
    · rintro ⟨hle, hplace⟩
      by_cases hfirst : place = before.length
      · exact absurd (hfirst ▸ hplace) hmissed
      · exact ⟨by omega, hplace⟩

theorem runsFrom_eq_map_places (text : List Char) :
    ∃ places : List Nat, places.Pairwise (· < ·) ∧
      (∀ place, place ∈ places ↔ IsFound text place) ∧
      runsFrom true text = places.map (runAt text) := by
  simpa using scan_places (List.nil_append text).symm (Reached.start text)

/-- The tags of a line are the runs at its places that are found and no numbers, in order. -/
theorem ofLine_eq_map_places (text : List Char) :
    ∃ places : List Nat, places.Pairwise (· < ·) ∧
      (∀ place, place ∈ places ↔ StartsTag text place ∧
        (∃ c ∈ runAt text place, isNumeral c = false) ∧ ¬Overrun text place) ∧
      ofLine text = places.map (runAt text) := by
  obtain ⟨places, hsorted, hmem, hruns⟩ := runsFrom_eq_map_places text
  refine ⟨places.filter fun place => (runAt text place).any (!isNumeral ·), hsorted.filter _,
    fun place => ?_, ?_⟩
  · rw [List.mem_filter, hmem, IsFound, List.any_eq_true]
    simp only [Bool.not_eq_true']
    tauto
  · rw [ofLine, hruns, List.filter_map]
    rfl

/-! ### Lines outside of code -/

/-- The line starts with three backquotes, behind blanks if any. -/
def FenceLine (line : List Char) : Prop :=
  ∃ margin rest, line = margin ++ '\x60' :: '\x60' :: '\x60' :: rest ∧
    ∀ c ∈ margin, isBlank c = true

theorem isFence_iff {line : List Char} : isFence line = true ↔ FenceLine line := by
  rw [isFence, List.isPrefixOf_iff_prefix, trimStart]
  constructor
  · rintro ⟨rest, hrest⟩
    refine ⟨line.takeWhile isBlank, rest, ?_, fun c hc => List.mem_takeWhile_imp hc⟩
    calc line = line.takeWhile isBlank ++ line.dropWhile isBlank :=
          List.takeWhile_append_dropWhile.symm
      _ = line.takeWhile isBlank ++ '\x60' :: '\x60' :: '\x60' :: rest :=
          congrArg (line.takeWhile isBlank ++ ·) hrest.symm
  · rintro ⟨margin, rest, rfl, hmargin⟩
    have hquote : isBlank '\x60' = false := by decide
    rw [List.dropWhile_append_of_pos hmargin, List.dropWhile_cons_of_neg (by simp [hquote])]
    exact ⟨rest, rfl⟩

theorem isFence_eq_false_iff {line : List Char} : isFence line = false ↔ ¬FenceLine line := by
  rw [← isFence_iff, Bool.not_eq_true]

instance : DecidablePred FenceLine := fun _ => decidable_of_iff _ isFence_iff

/-- How many of some lines are fences. -/
def fences (rows : List (List Char)) : Nat :=
  rows.countP (FenceLine ·)

theorem countP_isFence (rows : List (List Char)) : rows.countP isFence = fences rows := by
  apply List.countP_congr
  intro line _
  rw [isFence_iff, decide_eq_true_iff]

/-- The tags of the lines outside of code, for lines of which the first is outside. -/
def inLines (lines : List (List Char)) : List String :=
  ((proseLines false lines).flatMap ofLine).map String.ofList

/-- Whether lines after the given ones are inside of code: each fence turns that around. -/
theorem proseLines_append (fenced : Bool) (above below : List (List Char)) :
    proseLines fenced (above ++ below) =
      proseLines fenced above ++
        proseLines (fenced != decide (above.countP isFence % 2 = 1)) below := by
  induction above generalizing fenced with
  | nil => simp [proseLines]
  | cons text above ih =>
    rw [List.cons_append, proseLines, proseLines]
    by_cases hfence : isFence text = true
    · have hcount : (text :: above).countP isFence = above.countP isFence + 1 :=
        List.countP_cons_of_pos hfence
      rw [if_pos hfence, if_pos hfence, ih, hcount]
      rcases Nat.mod_two_eq_zero_or_one (above.countP isFence) with heven | hodd
      · have hnext : (above.countP isFence + 1) % 2 = 1 := by omega
        cases fenced <;> simp [heven, hnext]
      · have hnext : (above.countP isFence + 1) % 2 = 0 := by omega
        cases fenced <;> simp [hodd, hnext]
    · have hcount : (text :: above).countP isFence = above.countP isFence :=
        List.countP_cons_of_neg hfence
      rw [if_neg hfence, if_neg hfence, ih, hcount]
      cases fenced <;> simp

/-- **No tag is lost but to the tag before it.** A line outside of code gives the tags of a body one
run for each place where a `#` starts a tag that is no number, unless the place is overrun, and
nothing else. -/
theorem inBody_eq_of_prose_line (body : String) (above below : List (List Char))
    (text : List Char) (hlines : lines body.toList = above ++ text :: below)
    (houtside : fences above % 2 = 0) (hprose : ¬FenceLine text) :
    ∃ places : List Nat, places.Pairwise (· < ·) ∧
      (∀ place, place ∈ places ↔ StartsTag text place ∧
        (∃ c ∈ runAt text place, isNumeral c = false) ∧ ¬Overrun text place) ∧
      inBody body = inLines above ++ places.map (fun place => String.ofList (runAt text place)) ++
        inLines below := by
  obtain ⟨places, hsorted, hmem, hline⟩ := ofLine_eq_map_places text
  refine ⟨places, hsorted, hmem, ?_⟩
  have hparity : decide (above.countP isFence % 2 = 1) = false := by
    rw [countP_isFence, houtside]
    rfl
  have hbody : proseLines false (lines body.toList) =
      proseLines false above ++ text :: proseLines false below := by
    rw [hlines, proseLines_append, hparity, proseLines, isFence_eq_false_iff.2 hprose]
    rfl
  rw [inBody, hbody, List.flatMap_append, List.flatMap_cons, hline, List.map_append,
    List.map_append, List.map_map, ← List.append_assoc]
  rfl

/-- In a chain of two the second place is overrun, and the third is found again. -/
theorem inBody_eq_of_prose_line_chain :
    ∃ places : List Nat, places.Pairwise (· < ·) ∧
      (∀ place, place ∈ places ↔ StartsTag "#a/#b/#c".toList place ∧
        (∃ c ∈ runAt "#a/#b/#c".toList place, isNumeral c = false) ∧
          ¬Overrun "#a/#b/#c".toList place) ∧
      inBody "```\n#x\n```\n#a/#b/#c" =
        inLines ["```".toList, "#x".toList, "```".toList] ++
          places.map (fun place => String.ofList (runAt "#a/#b/#c".toList place)) ++ inLines [] :=
  inBody_eq_of_prose_line "```\n#x\n```\n#a/#b/#c" ["```".toList, "#x".toList, "```".toList] []
    "#a/#b/#c".toList (by decide +kernel) (by decide +kernel) (by decide +kernel)

/-- A tag right behind a tag that ends in a slash is lost. -/
theorem tag_behind_slash_lost :
    ¬∀ (body : String) (above below : List (List Char)) (text : List Char),
      lines body.toList = above ++ text :: below → fences above % 2 = 0 →
      ¬FenceLine text → ∀ place, StartsTag text place →
        (∃ c ∈ runAt text place, isNumeral c = false) →
          String.ofList (runAt text place) ∈ inBody body := by
  intro hall
  have hstarts : StartsTag "#a/#b".toList 3 :=
    ⟨by decide, .inr ⟨'/', by decide, by decide +kernel⟩, by decide +kernel⟩
  have hmem := hall "#a/#b" [] [] "#a/#b".toList (by decide) (by decide) (by decide +kernel) 3
    hstarts ⟨'b', by decide +kernel, by decide +kernel⟩
  revert hmem
  decide +kernel

end NoteCards.Hashtag

import Mathlib.Data.List.Basic
import Mathlib.Data.List.TakeWhile
import NoteCards.Text.Lowercase
import NoteCards.Text.Blank

/-!
# Texts in lower case

Lower case looks at the letters around a capital sigma, so the lower case of a part is not a part of
the lower case. What survives is a closure law: a character of any lower-case text is *settled*, its
own lower case in every context. A text is its own lower case exactly when all of its characters are
settled (`lower_eq_self_iff`), and that property passes to every part of the text.

For the characters of the mapping the law is one fact about the table: no image of a run lies in a
run. It is checked on the ends of the runs and not on the code points, and as the table ascends only
for the pairs that may meet (`CaseRun.met`).
-/

namespace NoteCards.Text

/-- A character that is its own lower case wherever it stands. -/
def IsSettled (c : Char) : Prop := c ≠ 'Σ' ∧ lowerChar c = [c]

/-! ### The table -/

/-- Whether the images of a run stay clear of another run: below it, above it, or between its code
points. -/
def CaseRun.avoids (run other : CaseRun) : Bool :=
  Nat.blt other.last run.image || Nat.blt (run.image + (run.last - run.first)) other.first ||
    (run.step == 2 || run.first == run.last) && other.step == 2 &&
      (run.image + other.first) % 2 == 1

/-- Whether the images of a run stay clear of a range of code points. -/
def CaseRun.clearOf (run : CaseRun) (range : Nat × Nat) : Bool :=
  Nat.blt range.2 run.image || Nat.blt (run.image + (run.last - run.first)) range.1

namespace CaseRun

def above (run other : CaseRun) : Bool :=
  Nat.blt other.last run.image

def below (run other : CaseRun) : Bool :=
  Nat.blt (run.image + (run.last - run.first)) other.first

/-- The runs of an ascending table that the images of a run may meet: from the first that does not
end below them to the last that does not start above them. -/
def met (run : CaseRun) (table : List CaseRun) : List CaseRun :=
  (table.dropWhile run.above).takeWhile fun other => !run.below other

variable {run other next : CaseRun} {table : List CaseRun}

theorem avoids_of_above (habove : run.above other = true) : run.avoids other = true := by
  rw [avoids, show Nat.blt other.last run.image = true from habove, Bool.true_or, Bool.true_or]

theorem avoids_of_below (hbelow : run.below other = true) : run.avoids other = true := by
  rw [avoids, show Nat.blt (run.image + (run.last - run.first)) other.first = true from hbelow,
    Bool.or_true, Bool.true_or]

theorem below_of_le (hbelow : run.below next = true) (hle : next.first ≤ other.first) :
    run.below other = true := by
  rw [below, Nat.blt_eq] at hbelow ⊢
  omega

theorem below_of_mem_dropWhile
    (hascending : table.Pairwise fun other later => other.first ≤ later.first)
    (hmem : other ∈ table.dropWhile fun other => !run.below other) : run.below other = true := by
  induction table with
  | nil => contradiction
  | cons next table ih =>
    obtain ⟨hnext, hascending⟩ := List.pairwise_cons.1 hascending
    rw [List.dropWhile_cons] at hmem
    split at hmem
    · exact ih hascending hmem
    · next hstop =>
      have hbelow : run.below next = true := by simpa using hstop
      rcases List.mem_cons.1 hmem with rfl | hmem
      · exact hbelow
      · exact below_of_le hbelow (hnext other hmem)

theorem all_avoids_of_met
    (hascending : table.Pairwise fun other later => other.first ≤ later.first)
    (hmet : (run.met table).all run.avoids = true) : table.all run.avoids = true := by
  refine List.all_eq_true.2 fun other hother => ?_
  rw [← List.takeWhile_append_dropWhile (p := run.above) (l := table), List.mem_append] at hother
  rcases hother with habove | hother
  · exact avoids_of_above (List.mem_takeWhile_imp habove)
  have hrest := hascending.sublist (List.dropWhile_sublist run.above)
  rw [← List.takeWhile_append_dropWhile (p := fun other => !run.below other)
    (l := table.dropWhile run.above), List.mem_append] at hother
  rcases hother with hnear | hbelow
  · exact List.all_eq_true.1 hmet other hnear
  · exact avoids_of_below (below_of_mem_dropWhile hrest hbelow)

end CaseRun

theorem lowerRuns_ascending :
    lowerRuns.Pairwise fun other later => other.first ≤ later.first :=
  List.pairwise_map.1 (List.isChain_iff_pairwise.1 (by decide +kernel))

theorem lowerRuns_avoid : (lowerRuns.all fun run => lowerRuns.all run.avoids) = true := by
  have hmet : (lowerRuns.all fun run => (run.met lowerRuns).all run.avoids) = true := by
    decide +kernel
  refine List.all_eq_true.2 fun run hrun => ?_
  exact CaseRun.all_avoids_of_met lowerRuns_ascending (List.all_eq_true.1 hmet run hrun)

/-- No image is a blank, a surrogate or `İ`, or lies above the last code point. -/
theorem lowerRuns_clear :
    (lowerRuns.all fun run =>
      (blankRanges ++ [(0x130, 0x130), (0xD800, 0xDFFF)]).all run.clearOf &&
        Nat.blt (run.image + (run.last - run.first)) 0x110000) = true := by
  decide +kernel

theorem imageOf?_eq_none_of_avoids {run other : CaseRun} {code image : Nat}
    (havoids : run.avoids other = true) (himage : run.imageOf? code = some image) :
    other.imageOf? image = none := by
  simp only [CaseRun.imageOf?, Option.ite_none_right_eq_some, Option.some.injEq] at himage
  obtain ⟨⟨hfirst, hlast, hstep⟩, rfl⟩ := himage
  rw [CaseRun.imageOf?, if_neg]
  rintro ⟨hlow, hhigh, hother⟩
  simp only [CaseRun.avoids, Bool.or_eq_true, Bool.and_eq_true, beq_iff_eq, Nat.blt_eq] at havoids
  rcases havoids with (hbelow | habove) | ⟨⟨hrun, htwo⟩, hodd⟩
  · omega
  · omega
  · rw [htwo] at hother
    rcases hrun with hrun | hsingle
    · rw [hrun] at hstep
      omega
    · omega

theorem lowerCode_eq_self_or (code : Nat) :
    lowerCode code = code ∨ ∃ run ∈ lowerRuns, run.imageOf? code = some (lowerCode code) := by
  cases hfound : lowerRuns.findSome? (·.imageOf? code) with
  | none => exact .inl (by simp [lowerCode, hfound])
  | some image =>
    obtain ⟨run, hmem, himage⟩ := List.exists_of_findSome?_eq_some hfound
    exact .inr ⟨run, hmem, by simpa [lowerCode, hfound] using himage⟩

theorem lowerCode_lowerCode (code : Nat) : lowerCode (lowerCode code) = lowerCode code := by
  rcases lowerCode_eq_self_or code with hself | ⟨run, hmem, himage⟩
  · rw [hself, hself]
  · have hnone : lowerRuns.findSome? (·.imageOf? (lowerCode code)) = none := by
      refine List.findSome?_eq_none_iff.2 fun other hother => ?_
      have havoids := List.all_eq_true.1 (List.all_eq_true.1 lowerRuns_avoid run hmem) other hother
      exact imageOf?_eq_none_of_avoids havoids himage
    rw [lowerCode, hnone, Option.getD_none]

theorem image_le_of_imageOf? {run : CaseRun} {code image : Nat}
    (himage : run.imageOf? code = some image) :
    run.image ≤ image ∧ image ≤ run.image + (run.last - run.first) := by
  simp only [CaseRun.imageOf?, Option.ite_none_right_eq_some, Option.some.injEq] at himage
  obtain ⟨⟨hfirst, hlast, -⟩, rfl⟩ := himage
  omega

theorem image_clear {run : CaseRun} {code image : Nat} (hmem : run ∈ lowerRuns)
    (himage : run.imageOf? code = some image) :
    image.isValidChar ∧ blankRanges.covers image = false ∧ image ≠ 0x130 := by
  have hbounds := image_le_of_imageOf? himage
  have hclear := List.all_eq_true.1 lowerRuns_clear run hmem
  rw [Bool.and_eq_true, Nat.blt_eq] at hclear
  obtain ⟨hranges, htop⟩ := hclear
  have houtside : ∀ range ∈ blankRanges ++ [(0x130, 0x130), (0xD800, 0xDFFF)],
      range.2 < image ∨ image < range.1 := by
    intro range hrange
    have := List.all_eq_true.1 hranges range hrange
    rw [CaseRun.clearOf, Bool.or_eq_true, Nat.blt_eq, Nat.blt_eq] at this
    omega
  have hdotted := houtside (0x130, 0x130) (by simp)
  have hsurrogate := houtside (0xD800, 0xDFFF) (by simp)
  refine ⟨?_, ?_, by omega⟩
  · simp only [Nat.isValidChar]
    omega
  · rw [Ranges.covers_eq_any (show Ranges.Ascending blankRanges 0 by decide), List.any_eq_false]
    intro range hrange
    have := houtside range (List.mem_append_left _ hrange)
    simp only [Bool.and_eq_true, decide_eq_true_eq]
    omega

/-! ### Characters -/

theorem isValidChar_lowerCode (c : Char) : (lowerCode c.toNat).isValidChar := by
  rcases lowerCode_eq_self_or c.toNat with hself | ⟨run, hmem, himage⟩
  · rw [hself]
    exact c.valid
  · exact (image_clear hmem himage).1

theorem toNat_ofNat_lowerCode (c : Char) :
    (Char.ofNat (lowerCode c.toNat)).toNat = lowerCode c.toNat := by
  rw [Char.ofNat, dif_pos (isValidChar_lowerCode c)]
  rfl

theorem isSettled_of_mem_lowerChar {c d : Char} (hsigma : c ≠ 'Σ') (hmem : d ∈ lowerChar c) :
    IsSettled d := by
  by_cases hdotted : c = 'İ'
  · subst hdotted
    rw [lowerChar, if_pos rfl] at hmem
    rcases List.mem_pair.1 hmem with rfl | rfl <;> exact ⟨by decide, by decide⟩
  · rw [lowerChar, if_neg hdotted, List.mem_singleton] at hmem
    have htoNat : d.toNat = lowerCode c.toNat := by rw [hmem, toNat_ofNat_lowerCode]
    have hfixed : lowerCode d.toNat = d.toNat := by rw [htoNat, lowerCode_lowerCode]
    refine ⟨?_, ?_⟩
    · rintro rfl
      exact absurd hfixed (by decide)
    · have hplain : d ≠ 'İ' := by
        rintro rfl
        rcases lowerCode_eq_self_or c.toNat with hself | ⟨run, hrun, himage⟩
        · exact hdotted (Char.toNat_inj.1 (by rw [← hself, ← htoNat]))
        · exact (image_clear hrun himage).2.2 htoNat.symm
      rw [lowerChar, if_neg hplain, hfixed, Char.ofNat_toNat]

theorem isBlank_of_mem_lowerChar {c d : Char} (hblank : isBlank c = false)
    (hmem : d ∈ lowerChar c) : isBlank d = false := by
  by_cases hdotted : c = 'İ'
  · subst hdotted
    rw [lowerChar, if_pos rfl] at hmem
    rcases List.mem_pair.1 hmem with rfl | rfl <;> decide
  · rw [lowerChar, if_neg hdotted, List.mem_singleton] at hmem
    rw [isBlank, hmem, toNat_ofNat_lowerCode]
    rcases lowerCode_eq_self_or c.toNat with hself | ⟨run, hrun, himage⟩
    · rw [hself]
      exact hblank
    · exact (image_clear hrun himage).2.1

/-- The texts that a character can become: a sigma has two, every other character has one. -/
def lowerForms (c : Char) : List (List Char) :=
  if c = 'Σ' then [['ς'], ['σ']] else [lowerChar c]

theorem isSettled_of_mem_lowerForms {c d : Char} {form : List Char} (hform : form ∈ lowerForms c)
    (hmem : d ∈ form) : IsSettled d := by
  by_cases hsigma : c = 'Σ'
  · rw [lowerForms, if_pos hsigma] at hform
    rcases List.mem_pair.1 hform with rfl | rfl <;> rw [List.mem_singleton] at hmem <;>
      subst hmem <;> exact ⟨by decide, by decide⟩
  · rw [lowerForms, if_neg hsigma, List.mem_singleton] at hform
    exact isSettled_of_mem_lowerChar hsigma (hform ▸ hmem)

theorem isBlank_of_mem_lowerForms {c d : Char} {form : List Char} (hblank : isBlank c = false)
    (hform : form ∈ lowerForms c) (hmem : d ∈ form) : isBlank d = false := by
  by_cases hsigma : c = 'Σ'
  · rw [lowerForms, if_pos hsigma] at hform
    rcases List.mem_pair.1 hform with rfl | rfl <;> rw [List.mem_singleton] at hmem <;>
      subst hmem <;> decide
  · rw [lowerForms, if_neg hsigma, List.mem_singleton] at hform
    exact isBlank_of_mem_lowerChar hblank (hform ▸ hmem)

theorem ne_nil_of_mem_lowerForms {c : Char} {form : List Char} (hform : form ∈ lowerForms c) :
    form ≠ [] := by
  unfold lowerForms lowerChar at hform
  split at hform
  · rcases List.mem_pair.1 hform with rfl | rfl <;> simp
  · split at hform <;> simp_all

/-! ### Texts -/

theorem lowerAfter_cons (before : List Char) (c : Char) (rest : List Char) :
    ∃ form ∈ lowerForms c,
      lowerAfter before (c :: rest) = form ++ lowerAfter (c :: before) rest := by
  by_cases hsigma : c = 'Σ'
  · refine ⟨[if endsWord before rest then 'ς' else 'σ'], ?_, ?_⟩
    · rw [lowerForms, if_pos hsigma]
      split <;> simp
    · rw [lowerAfter, if_pos hsigma]
  · exact ⟨lowerChar c, by simp [lowerForms, hsigma], by rw [lowerAfter, if_neg hsigma]⟩

/-- What stands before the last character may change with it, at a sigma, but the form of the last
character ends the lower case. -/
theorem lowerAfter_concat (before s : List Char) (c : Char) :
    ∃ front, ∃ form ∈ lowerForms c, lowerAfter before (s ++ [c]) = front ++ form := by
  induction s generalizing before with
  | nil =>
    obtain ⟨form, hform, heq⟩ := lowerAfter_cons before c []
    exact ⟨[], form, hform, by simpa [lowerAfter] using heq⟩
  | cons d s ih =>
    obtain ⟨first, -, heq⟩ := lowerAfter_cons before d (s ++ [c])
    obtain ⟨front, form, hform, hrest⟩ := ih (d :: before)
    exact ⟨first ++ front, form, hform, by rw [List.cons_append, heq, hrest, List.append_assoc]⟩

theorem isSettled_of_mem_lowerAfter {before s : List Char} {d : Char}
    (hmem : d ∈ lowerAfter before s) : IsSettled d := by
  induction s generalizing before with
  | nil => simp [lowerAfter] at hmem
  | cons c s ih =>
    obtain ⟨form, hform, heq⟩ := lowerAfter_cons before c s
    rw [heq, List.mem_append] at hmem
    rcases hmem with hmem | hmem
    · exact isSettled_of_mem_lowerForms hform hmem
    · exact ih hmem

theorem lowerAfter_eq_self {before s : List Char} (hsettled : ∀ c ∈ s, IsSettled c) :
    lowerAfter before s = s := by
  induction s generalizing before with
  | nil => rfl
  | cons c s ih =>
    obtain ⟨⟨hsigma, hlower⟩, hrest⟩ := List.forall_mem_cons.1 hsettled
    rw [lowerAfter, if_neg hsigma, hlower, ih hrest, List.singleton_append]

theorem lower_eq_self_iff {s : List Char} : lower s = s ↔ ∀ c ∈ s, IsSettled c := by
  constructor
  · intro hlower c hmem
    rw [← hlower] at hmem
    exact isSettled_of_mem_lowerAfter hmem
  · exact lowerAfter_eq_self

theorem lower_lower (s : List Char) : lower (lower s) = lower s :=
  lower_eq_self_iff.2 fun _ hmem => isSettled_of_mem_lowerAfter hmem

theorem toList_lowercase (s : String) : (lowercase s).toList = lower s.toList :=
  String.toList_ofList

theorem lowercase_eq_self_iff {s : String} : lowercase s = s ↔ lower s.toList = s.toList := by
  rw [← String.toList_inj, toList_lowercase]

theorem lower_eq_nil_iff {s : List Char} : lower s = [] ↔ s = [] := by
  constructor
  · intro hlower
    cases s with
    | nil => rfl
    | cons c s =>
      obtain ⟨form, hform, heq⟩ := lowerAfter_cons [] c s
      rw [lower, heq, List.append_eq_nil_iff] at hlower
      exact absurd hlower.1 (ne_nil_of_mem_lowerForms hform)
  · rintro rfl
    rfl

theorem lower_of_lower_eq_self_of_subset {part s : List Char} (hlower : lower s = s)
    (hsubset : part ⊆ s) : lower part = part :=
  lower_eq_self_iff.2 fun _ hmem => lower_eq_self_iff.1 hlower _ (hsubset hmem)

end NoteCards.Text

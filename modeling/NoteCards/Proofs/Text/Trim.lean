import Mathlib.Data.List.TakeWhile
import NoteCards.Proofs.Text.Lowercase

/-!
# Trimmed texts

A text is trimmed when no blank stands at either end. Trimming makes it so and leaves such texts
alone, and lower case keeps them so: no blank has a capital.
-/

namespace NoteCards.Text

def StartsPlain (s : List Char) : Prop := ∀ c ∈ s.head?, isBlank c = false

def EndsPlain (s : List Char) : Prop := ∀ c ∈ s.getLast?, isBlank c = false

def IsTrimmed (s : List Char) : Prop := StartsPlain s ∧ EndsPlain s

theorem startsPlain_iff {s : List Char} :
    StartsPlain s ↔ s.head?.all (isBlank · == false) = true := by
  rw [StartsPlain]
  cases s.head? <;> simp

instance (s : List Char) : Decidable (StartsPlain s) :=
  decidable_of_iff _ startsPlain_iff.symm

theorem startsPlain_trimStart (s : List Char) : StartsPlain (trimStart s) := by
  intro c hc
  have hnot := List.head?_dropWhile_not isBlank s
  rw [Option.mem_def] at hc
  rw [trimStart] at hc
  rw [hc] at hnot
  exact hnot

theorem trimStart_eq_self {s : List Char} (hs : StartsPlain s) : trimStart s = s := by
  cases s with
  | nil => rfl
  | cons c s => exact List.dropWhile_cons_of_neg (by simp [hs c (by simp)])

/-- Blanks before a text without leading blanks are all that trimming its start takes off. -/
theorem trimStart_append {blanks s : List Char} (hblanks : ∀ c ∈ blanks, isBlank c = true)
    (hs : StartsPlain s) : trimStart (blanks ++ s) = s := by
  have hself := trimStart_eq_self hs
  rw [trimStart] at hself ⊢
  rw [List.dropWhile_append_of_pos hblanks, hself]

theorem startsPlain_append {front s : List Char} (hfront : ∀ c ∈ front, isBlank c = false)
    (hs : StartsPlain s) : StartsPlain (front ++ s) := by
  cases front with
  | nil => exact hs
  | cons c front =>
    intro d hd
    cases hd
    exact hfront c List.mem_cons_self

theorem endsPlain_trimEnd (s : List Char) : EndsPlain (trimEnd s) := by
  intro c hc
  rw [trimEnd, List.getLast?_reverse] at hc
  exact startsPlain_trimStart s.reverse c hc

theorem trimEnd_eq_self {s : List Char} (hs : EndsPlain s) : trimEnd s = s := by
  have hreverse : trimStart s.reverse = s.reverse :=
    trimStart_eq_self fun c hc => hs c (by rwa [List.head?_reverse] at hc)
  rw [trimStart] at hreverse
  rw [trimEnd, hreverse, List.reverse_reverse]

theorem EndsPlain.of_suffix {s part : List Char} (hs : EndsPlain s) (hpart : part <:+ s) :
    EndsPlain part := by
  obtain ⟨front, rfl⟩ := hpart
  intro c hc
  apply hs c
  rw [Option.mem_def, List.getLast?_append, Option.mem_def.1 hc, Option.some_or]

theorem trimEnd_isPrefix (s : List Char) : trimEnd s <+: s := by
  rw [← List.reverse_suffix, trimEnd, List.reverse_reverse]
  exact List.dropWhile_suffix isBlank

theorem isTrimmed_trim (s : List Char) : IsTrimmed (trim s) := by
  refine ⟨fun c hc => startsPlain_trimStart s c ?_, endsPlain_trimEnd (trimStart s)⟩
  obtain ⟨rest, hrest⟩ := trimEnd_isPrefix (trimStart s)
  rw [← hrest]
  exact List.mem_head?_append_of_mem_head? hc

theorem trim_eq_self_iff {s : List Char} : trim s = s ↔ IsTrimmed s := by
  constructor
  · intro htrim
    exact htrim ▸ isTrimmed_trim s
  · rintro ⟨hstart, hend⟩
    rw [trim, trimStart_eq_self hstart, trimEnd_eq_self hend]

theorem isTrimmed_of_forall {s : List Char} (hplain : ∀ c ∈ s, isBlank c = false) :
    IsTrimmed s :=
  ⟨fun c hc => hplain c (List.mem_of_mem_head? hc),
    fun c hc => hplain c (List.mem_of_mem_getLast? hc)⟩

theorem trim_isInfix (s : List Char) : trim s <:+: s :=
  (trimEnd_isPrefix _).isInfix.trans (List.dropWhile_suffix isBlank).isInfix

/-- Trimming takes blanks off, and nothing else. -/
theorem exists_blanks_append_trim (s : List Char) :
    ∃ front back, s = front ++ trim s ++ back ∧ (∀ c ∈ front, isBlank c = true) ∧
      ∀ c ∈ back, isBlank c = true := by
  have hstart : s = s.takeWhile isBlank ++ trimStart s := List.takeWhile_append_dropWhile.symm
  have hend : trimStart s =
      trim s ++ ((trimStart s).reverse.takeWhile isBlank).reverse := by
    have hreverse := congrArg List.reverse
      (List.takeWhile_append_dropWhile (p := isBlank) (l := (trimStart s).reverse))
    rw [List.reverse_append, List.reverse_reverse] at hreverse
    exact hreverse.symm
  refine ⟨s.takeWhile isBlank, ((trimStart s).reverse.takeWhile isBlank).reverse, ?_,
    fun c hc => List.mem_takeWhile_imp hc, fun c hc => ?_⟩
  · rw [List.append_assoc, ← hend]
    exact hstart
  · exact List.mem_takeWhile_imp (List.mem_reverse.1 hc)

/-! ### The blanks one by one -/

def blankCodes : List Nat :=
  blankRanges.flatMap fun range => List.range' range.1 (range.2 + 1 - range.1)

/-- What holds of the twenty-five blanks one by one holds of every blank. -/
theorem forall_isBlank {p : Nat → Bool} (hp : blankCodes.all p = true) {c : Char}
    (hc : isBlank c = true) : p c.toNat = true := by
  rw [isBlank, Ranges.covers_eq_any (show Ranges.Ascending blankRanges 0 by decide)] at hc
  obtain ⟨range, hrange, hin⟩ := List.any_eq_true.1 hc
  simp only [Bool.and_eq_true, decide_eq_true_eq] at hin
  refine List.all_eq_true.1 hp _ (List.mem_flatMap.2 ⟨range, hrange, ?_⟩)
  rw [List.mem_range'_1]
  omega

/-! ### Lower case keeps the ends -/

theorem startsPlain_lower {s : List Char} (hs : StartsPlain s) : StartsPlain (lower s) := by
  intro d hd
  cases s with
  | nil => simp [lower, lowerAfter] at hd
  | cons c s =>
    obtain ⟨form, hform, heq⟩ := lowerAfter_cons [] c s
    rw [lower, heq, List.head?_append_of_ne_nil _ (ne_nil_of_mem_lowerForms hform)] at hd
    exact isBlank_of_mem_lowerForms (hs c (by simp)) hform (List.mem_of_mem_head? hd)

theorem endsPlain_lower {s : List Char} (hs : EndsPlain s) : EndsPlain (lower s) := by
  intro d hd
  rcases List.eq_nil_or_concat' s with rfl | ⟨front, c, rfl⟩
  · simp [lower, lowerAfter] at hd
  · obtain ⟨before, form, hform, heq⟩ := lowerAfter_concat [] front c
    rw [lower, heq, List.getLast?_append_of_ne_nil _ (ne_nil_of_mem_lowerForms hform)] at hd
    exact isBlank_of_mem_lowerForms (hs c (by simp)) hform (List.mem_of_mem_getLast? hd)

end NoteCards.Text

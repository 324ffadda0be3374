import NoteCards.Proofs.Text.Trim

/-!
# Letters in either case

A text in small letters is the text with `a` to `z` for `A` to `Z`; other letters keep their case.
Nothing that a line is cut by is one of these letters, and each of them is as much a letter of a
word as its other form. So cutting commutes with writing small, and lower case, which looks at the
letters around a capital sigma, does not change at all.

All of this is about twenty-six characters: whatever they share with their small forms holds of
every character (`toLower_invariant`).
-/

namespace NoteCards.Text

def capitals : List Char :=
  (List.range' 0x41 26).map Char.ofNat

def letters : List Char :=
  capitals ++ capitals.map Char.toLower

theorem toLower_eq_self_of_not_mem_capitals {c : Char} (hc : c ∉ capitals) : c.toLower = c := by
  refine dif_neg ?_
  rintro ⟨hlow, hhigh⟩
  have hcode : 0x41 ≤ c.toNat ∧ c.toNat ≤ 0x5A := ⟨hlow, hhigh⟩
  refine hc (List.mem_map.2 ⟨c.toNat, ?_, Char.ofNat_toNat c⟩)
  rw [List.mem_range'_1]
  omega

/-- What holds of the capitals one by one and their small forms holds of every character. -/
theorem toLower_invariant {α : Type} [DecidableEq α] {f : Char → α}
    (hf : (capitals.all fun c => decide (f c.toLower = f c)) = true) (c : Char) :
    f c.toLower = f c := by
  by_cases hc : c ∈ capitals
  · exact of_decide_eq_true (List.all_eq_true.1 hf c hc)
  · rw [toLower_eq_self_of_not_mem_capitals hc]

theorem toLower_toLower (c : Char) : c.toLower.toLower = c.toLower :=
  toLower_invariant (f := Char.toLower) (by decide) c

/-- Only a letter can have another case. -/
theorem toLower_eq_iff {d : Char} (hd : d ∉ letters) {c : Char} : c.toLower = d ↔ c = d := by
  rw [letters, List.mem_append, not_or] at hd
  by_cases hc : c ∈ capitals
  · have hsmall : c.toLower ≠ d := fun h => hd.2 (h ▸ List.mem_map_of_mem hc)
    have hcapital : c ≠ d := fun h => hd.1 (h ▸ hc)
    exact iff_of_false hsmall hcapital
  · rw [toLower_eq_self_of_not_mem_capitals hc]

theorem isBlank_toLower (c : Char) : isBlank c.toLower = isBlank c :=
  toLower_invariant (by decide) c

theorem isCaseIgnorable_toLower (c : Char) : isCaseIgnorable c.toLower = isCaseIgnorable c :=
  toLower_invariant (by decide) c

theorem isCased_toLower (c : Char) : isCased c.toLower = isCased c :=
  toLower_invariant (by decide) c

theorem lowerChar_toLower (c : Char) : lowerChar c.toLower = lowerChar c := by
  by_cases hc : c ∈ capitals
  · have hlower : (capitals.all fun c => decide (lowerChar c = [c.toLower])) = true := by decide
    have hform : lowerChar c = [c.toLower] := of_decide_eq_true (List.all_eq_true.1 hlower c hc)
    have hsigma : c ≠ 'Σ' := ne_of_mem_of_not_mem hc (by decide)
    rw [hform, (isSettled_of_mem_lowerChar hsigma (hform ▸ List.mem_singleton_self _)).2]
  · rw [toLower_eq_self_of_not_mem_capitals hc]

/-- A text with small letters for its capitals `A` to `Z`. -/
def inSmall (s : List Char) : List Char := s.map Char.toLower

theorem inSmall_cons (c : Char) (s : List Char) : inSmall (c :: s) = c.toLower :: inSmall s := rfl

theorem head?_inSmall_eq_iff {d : Char} (hd : d ∉ letters) {s : List Char} :
    (inSmall s).head? = some d ↔ s.head? = some d := by
  cases s with
  | nil => rfl
  | cons c s =>
    rw [inSmall_cons, List.head?_cons, List.head?_cons, Option.some_inj, Option.some_inj,
      toLower_eq_iff hd]

theorem startsCased_inSmall (s : List Char) : startsCased (inSmall s) = startsCased s := by
  have hstop : isCaseIgnorable ∘ Char.toLower = isCaseIgnorable := funext isCaseIgnorable_toLower
  rw [startsCased, startsCased, inSmall, List.dropWhile_map, hstop]
  cases s.dropWhile isCaseIgnorable with
  | nil => rfl
  | cons c rest => exact isCased_toLower c

theorem lowerAfter_inSmall (before s : List Char) :
    lowerAfter (inSmall before) (inSmall s) = lowerAfter before s := by
  induction s generalizing before with
  | nil => rfl
  | cons c rest ih =>
    have hsigma : c.toLower = 'Σ' ↔ c = 'Σ' := toLower_eq_iff (by decide)
    have hform : endsWord (inSmall before) (inSmall rest) = endsWord before rest := by
      rw [endsWord, endsWord, startsCased_inSmall, startsCased_inSmall]
    have hrest : lowerAfter (c.toLower :: inSmall before) (inSmall rest) =
        lowerAfter (c :: before) rest := ih (c :: before)
    rw [inSmall_cons, lowerAfter, lowerAfter, hrest, hform, lowerChar_toLower,
      if_congr hsigma rfl rfl]

theorem lower_inSmall (s : List Char) : lower (inSmall s) = lower s :=
  lowerAfter_inSmall [] s

theorem trimStart_inSmall (s : List Char) : trimStart (inSmall s) = inSmall (trimStart s) := by
  have hblank : isBlank ∘ Char.toLower = isBlank := funext isBlank_toLower
  rw [trimStart, inSmall, List.dropWhile_map, hblank]
  rfl

theorem trim_inSmall (s : List Char) : trim (inSmall s) = inSmall (trim s) := by
  have hend : ∀ t : List Char, trimEnd (inSmall t) = inSmall (trimEnd t) := by
    intro t
    have hreverse := trimStart_inSmall t.reverse
    simp only [inSmall, List.map_reverse, trimStart, trimEnd] at hreverse ⊢
    rw [hreverse]
  rw [trim, trimStart_inSmall, hend, trim]

end NoteCards.Text

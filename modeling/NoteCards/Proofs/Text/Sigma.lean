import NoteCards.Proofs.Text.Trim

/-!
# The lower case of a part of a text

The lower case of a part is a part of the lower case, but for the capital sigmas in it. A sigma has
the form that the letters around it give it, and where the part is cut out of its text, letters go
missing. So a part is found again in the lower case of a text around it as soon as each of its
sigmas ends a word there if and only if it ends one in the part (`KeepsSigmas`).

Some sigmas do not depend on what is around the part, because the part itself holds the letters, or
the characters that are none, which decide their form. Parts all of whose sigmas are of that kind
(`SettlesSigmas`) are found in every text around them, and no others are: one letter set before or
behind any other part changes one of its sigmas and leaves no room for a second occurrence.
-/

namespace NoteCards.Text

/-- The lower case of a text between two others, the first of which is held from its end. -/
def lowerBetween (before after : List Char) : List Char → List Char
  | [] => []
  | c :: rest =>
    (if c = 'Σ' then [if endsWord before (rest ++ after) then 'ς' else 'σ'] else lowerChar c) ++
      lowerBetween (c :: before) after rest

theorem lowerAfter_append (before s after : List Char) :
    lowerAfter before (s ++ after) =
      lowerBetween before after s ++ lowerAfter (s.reverse ++ before) after := by
  induction s generalizing before with
  | nil => rfl
  | cons c s ih =>
    rw [List.cons_append, lowerAfter, lowerBetween, ih (c :: before), List.append_assoc,
      List.reverse_cons, List.append_assoc]
    rfl

theorem lowerBetween_nil (before s : List Char) :
    lowerBetween before [] s = lowerAfter before s := by
  have hsplit := lowerAfter_append before s []
  simpa [lowerAfter] using hsplit.symm

theorem lower_append_append (front s back : List Char) :
    lower (front ++ s ++ back) =
      lowerBetween [] (s ++ back) front ++
        (lowerBetween front.reverse back s ++ lowerAfter (s.reverse ++ front.reverse) back) := by
  rw [lower, List.append_assoc, lowerAfter_append, lowerAfter_append, List.append_nil]

theorem length_lowerBetween (before after s : List Char) :
    (lowerBetween before after s).length = (lower s).length := by
  have hall : ∀ other : List Char,
      (lowerBetween before after s).length = (lowerAfter other s).length := by
    induction s generalizing before with
    | nil => intro other; rfl
    | cons c s ih =>
      intro other
      rw [lowerBetween, lowerAfter, List.length_append, List.length_append,
        ih (c :: before) (c :: other)]
      by_cases hsigma : c = 'Σ' <;> simp [hsigma]
  exact hall []

/-! ### Letters behind characters that are passed over -/

theorem startsCased_eq_false_of_all {s : List Char} (hs : s.all isCaseIgnorable = true) :
    startsCased s = false := by
  have hnil : s.dropWhile isCaseIgnorable = [] :=
    List.dropWhile_eq_nil_iff.2 fun c hc => List.all_eq_true.1 hs c hc
  rw [startsCased, hnil]

theorem startsCased_append_of_all {s : List Char} (hs : s.all isCaseIgnorable = true)
    (t : List Char) : startsCased (s ++ t) = startsCased t := by
  rw [startsCased, List.dropWhile_append_of_pos fun c hc => List.all_eq_true.1 hs c hc, startsCased]

theorem startsCased_append_of_not_all {s : List Char} (hs : s.all isCaseIgnorable = false)
    (t : List Char) : startsCased (s ++ t) = startsCased s := by
  induction s with
  | nil => simp at hs
  | cons c s ih =>
    by_cases hc : isCaseIgnorable c = true
    · have hrest : s.all isCaseIgnorable = false := by simpa [hc] using hs
      have hskip : ∀ u : List Char, startsCased (c :: u) = startsCased u := by
        intro u
        rw [startsCased, List.dropWhile_cons_of_pos hc, startsCased]
      rw [List.cons_append, hskip, hskip, ih hrest]
    · rw [List.cons_append, startsCased, startsCased, List.dropWhile_cons_of_neg hc,
        List.dropWhile_cons_of_neg hc]

theorem startsCased_append_of_not_startsCased (s : List Char) {t : List Char}
    (ht : startsCased t = false) : startsCased (s ++ t) = startsCased s := by
  cases hs : s.all isCaseIgnorable with
  | true => rw [startsCased_append_of_all hs, ht, startsCased_eq_false_of_all hs]
  | false => exact startsCased_append_of_not_all hs t

theorem startsCased_append_of_startsCased {s : List Char} (hs : startsCased s = true)
    (t : List Char) : startsCased (s ++ t) = true := by
  have hall : s.all isCaseIgnorable = false := by
    by_contra hnot
    rw [Bool.not_eq_false] at hnot
    rw [startsCased_eq_false_of_all hnot] at hs
    contradiction
  rw [startsCased_append_of_not_all hall, hs]

/-! ### Parts that keep their sigmas -/

/-- Each capital sigma of a part ends a word between two other texts if and only if it ends one in
the part alone. -/
def KeepsSigmas (front s back : List Char) : Prop :=
  ∀ x y, s = x ++ 'Σ' :: y →
    endsWord (x.reverse ++ front.reverse) (y ++ back) = endsWord x.reverse y

theorem sigmaForm_inj {final other : Bool} :
    (if final then 'ς' else 'σ') = (if other then 'ς' else 'σ') ↔ final = other := by
  cases final <;> cases other <;> simp

theorem forall_split_cons_iff {p : List Char → List Char → Prop} {c d : Char} {rest : List Char} :
    (∀ x y, c :: rest = x ++ d :: y → p x y) ↔
      (c = d → p [] rest) ∧ ∀ x y, rest = x ++ d :: y → p (c :: x) y := by
  constructor
  · intro hall
    refine ⟨?_, fun x y hrest => hall (c :: x) y (by rw [hrest]; rfl)⟩
    rintro rfl
    exact hall [] rest rfl
  · rintro ⟨hhead, hlater⟩ x y hsplit
    cases x with
    | nil =>
      obtain ⟨hsame, rfl⟩ := List.cons.inj hsplit
      exact hhead hsame
    | cons e x =>
      obtain ⟨rfl, hrest⟩ := List.cons.inj hsplit
      exact hlater x y hrest

/-- The forms of the sigmas are all that what stands around a text can change in its lower case. -/
theorem lowerBetween_eq_lowerAfter_iff {before other after s : List Char} :
    lowerBetween before after s = lowerAfter other s ↔
      ∀ x y, s = x ++ 'Σ' :: y →
        endsWord (x.reverse ++ before) (y ++ after) = endsWord (x.reverse ++ other) y := by
  induction s generalizing before other with
  | nil => simp [lowerBetween, lowerAfter]
  | cons c rest ih =>
    have hnext : lowerBetween (c :: before) after rest = lowerAfter (c :: other) rest ↔ _ := ih
    rw [forall_split_cons_iff, lowerBetween, lowerAfter]
    simp only [List.reverse_cons, List.append_assoc, List.singleton_append, ← hnext]
    by_cases hsigma : c = 'Σ'
    · simp [hsigma, sigmaForm_inj]
    · simp [hsigma]

theorem lowerBetween_eq_lower_iff {front s back : List Char} :
    lowerBetween front.reverse back s = lower s ↔ KeepsSigmas front s back := by
  rw [lower, lowerBetween_eq_lowerAfter_iff]
  simp only [KeepsSigmas, List.append_nil]

/-- A part keeps its sigmas exactly when its lower case stands in that of the text around it, at the
place that the part has there. -/
theorem keepsSigmas_iff_at_place {front s back : List Char} :
    KeepsSigmas front s back ↔
      ∃ before after, lower (front ++ s ++ back) = before ++ lower s ++ after ∧
        before.length = (lower front).length := by
  rw [← lowerBetween_eq_lower_iff, lower_append_append]
  constructor
  · intro hsame
    rw [hsame]
    exact ⟨_, _, (List.append_assoc _ _ _).symm, length_lowerBetween _ _ _⟩
  · rintro ⟨before, after, hwhole, hplace⟩
    rw [List.append_assoc] at hwhole
    have hfront : (lowerBetween [] (s ++ back) front).length = before.length := by
      rw [length_lowerBetween, hplace]
    have hrest := (List.append_inj hwhole hfront).2
    exact (List.append_inj hrest (length_lowerBetween _ _ _)).1

theorem lower_isInfix_of_keepsSigmas {front s back : List Char}
    (hkeeps : KeepsSigmas front s back) : lower s <:+: lower (front ++ s ++ back) := by
  obtain ⟨before, after, hwhole, -⟩ := keepsSigmas_iff_at_place.1 hkeeps
  exact ⟨before, after, hwhole.symm⟩

/-- Where no letter meets the part at its ends, the part keeps its sigmas. -/
theorem keepsSigmas_of_not_startsCased {front back : List Char} (s : List Char)
    (hfront : startsCased front.reverse = false) (hback : startsCased back = false) :
    KeepsSigmas front s back := by
  intro x y _
  rw [endsWord, endsWord, startsCased_append_of_not_startsCased _ hfront,
    startsCased_append_of_not_startsCased _ hback]

theorem startsCased_eq_false_of_isBlank {s : List Char} (hs : ∀ c ∈ s, isBlank c = true) :
    startsCased s = false := by
  cases s with
  | nil => rfl
  | cons c s =>
    have hc := hs c List.mem_cons_self
    have hneither : (!caseIgnorableRanges.covers c.toNat && !casedRanges.covers c.toNat) = true :=
      forall_isBlank (p := fun code =>
        !caseIgnorableRanges.covers code && !casedRanges.covers code) (by decide +kernel) hc
    rw [Bool.and_eq_true, Bool.not_eq_true', Bool.not_eq_true'] at hneither
    have hstop : ¬isCaseIgnorable c = true := by simp [isCaseIgnorable, hneither.1]
    rw [startsCased, List.dropWhile_cons_of_neg hstop]
    exact hneither.2

/-- Trimming a text takes nothing off that the forms of its sigmas hang on. -/
theorem lower_trim_isInfix (s : List Char) : lower (trim s) <:+: lower s := by
  obtain ⟨front, back, hsplit, hfront, hback⟩ := exists_blanks_append_trim s
  have hkeeps : KeepsSigmas front (trim s) back := by
    refine keepsSigmas_of_not_startsCased (trim s) ?_ (startsCased_eq_false_of_isBlank hback)
    exact startsCased_eq_false_of_isBlank fun c hc => hfront c (List.mem_reverse.1 hc)
  have hpart := lower_isInfix_of_keepsSigmas hkeeps
  rwa [← hsplit] at hpart

/-! ### Parts that settle their sigmas -/

/-- A sigma between two texts has one form whatever stands around these: a letter follows it, or
something precedes it that is not passed over and is no letter, or is one where something follows
that is not passed over. -/
def SettlesSigma (x y : List Char) : Prop :=
  startsCased y = true ∨
    x.all isCaseIgnorable = false ∧ (startsCased x.reverse = false ∨ y.all isCaseIgnorable = false)

def SettlesSigmas (s : List Char) : Prop :=
  ∀ x y, s = x ++ 'Σ' :: y → SettlesSigma x y

instance (x y : List Char) : Decidable (SettlesSigma x y) :=
  inferInstanceAs (Decidable (_ ∨ _ ∧ (_ ∨ _)))

theorem settlesSigmas_iff_forall_place {s : List Char} :
    SettlesSigmas s ↔
      ∀ place < s.length, s[place]? = some 'Σ' →
        SettlesSigma (s.take place) (s.drop (place + 1)) := by
  constructor
  · intro hs place hlt hsigma
    obtain ⟨_, hget⟩ := List.getElem?_eq_some_iff.1 hsigma
    refine hs _ _ ?_
    calc s = s.take place ++ s.drop place := (List.take_append_drop place s).symm
      _ = s.take place ++ 'Σ' :: s.drop (place + 1) := by
        rw [List.drop_eq_getElem_cons hlt, hget]
  · rintro hs x y rfl
    have hplace := hs x.length (by simp) (by simp)
    simpa using hplace

instance (s : List Char) : Decidable (SettlesSigmas s) :=
  decidable_of_iff _ settlesSigmas_iff_forall_place.symm

theorem SettlesSigmas.keepsSigmas {s : List Char} (hs : SettlesSigmas s) (front back : List Char) :
    KeepsSigmas front s back := by
  intro x y hsplit
  rcases hs x y hsplit with hletter | ⟨hx, hplain | hy⟩
  · rw [endsWord, endsWord, startsCased_append_of_startsCased hletter, hletter]
    simp
  · have hreverse : x.reverse.all isCaseIgnorable = false := by rw [List.all_reverse, hx]
    rw [endsWord, endsWord, startsCased_append_of_not_all hreverse, hplain]
    simp
  · have hreverse : x.reverse.all isCaseIgnorable = false := by rw [List.all_reverse, hx]
    rw [endsWord, endsWord, startsCased_append_of_not_all hreverse,
      startsCased_append_of_not_all hy]

/-- There is a small letter other than a given character. -/
theorem exists_letter_ne (taken : Option Char) :
    ∃ c, taken ≠ some c ∧ isCased c = true ∧ isCaseIgnorable c = false ∧ isBlank c = false ∧
      IsSettled c := by
  by_cases hfirst : taken = some 'a'
  · refine ⟨'b', by rw [hfirst]; decide, by decide, by decide, by decide, ?_⟩
    exact ⟨by decide, by decide⟩
  · refine ⟨'a', hfirst, by decide, by decide, by decide, ?_⟩
    exact ⟨by decide, by decide⟩

theorem startsCased_singleton {c : Char} (hcased : isCased c = true)
    (hstop : isCaseIgnorable c = false) : startsCased [c] = true := by
  simp [startsCased, hstop, hcased]

theorem lower_cons {c : Char} (hc : IsSettled c) (s : List Char) :
    lower (c :: s) = c :: lowerBetween [c] [] s := by
  rw [lower, lowerAfter, if_neg hc.1, hc.2, lowerBetween_nil, List.singleton_append]

theorem lower_concat {c : Char} (hc : IsSettled c) (s : List Char) :
    lower (s ++ [c]) = lowerBetween [] [c] s ++ [c] := by
  have hlast : lowerAfter (s.reverse ++ []) [c] = [c] :=
    lowerAfter_eq_self fun d hd => List.mem_singleton.1 hd ▸ hc
  rw [lower, lowerAfter_append, hlast]

theorem head?_eq_of_infix_cons {c : Char} {s t : List Char} (hlength : s.length = t.length)
    (hne : s ≠ t) (hpart : s <:+: c :: t) : s.head? = some c := by
  rcases List.infix_cons_iff.1 hpart with hfirst | hrest
  · cases s with
    | nil => exact absurd (List.eq_nil_of_length_eq_zero hlength.symm).symm hne
    | cons d s => rw [(List.cons_prefix_cons.1 hfirst).1, List.head?_cons]
  · exact absurd (hrest.eq_of_length hlength) hne

theorem getLast?_eq_of_infix_concat {c : Char} {s t : List Char} (hlength : s.length = t.length)
    (hne : s ≠ t) (hpart : s <:+: t ++ [c]) : s.getLast? = some c := by
  have hreverse : s.reverse <:+: c :: t.reverse := by
    have hboth := List.reverse_infix.2 hpart
    rwa [List.reverse_append] at hboth
  rw [← List.head?_reverse]
  refine head?_eq_of_infix_cons ?_ ?_ hreverse
  · rw [List.length_reverse, List.length_reverse, hlength]
  · exact fun heq => hne (List.reverse_injective heq)

/-- A part that leaves a sigma open is lost in some text around it: with a letter before it where
only the text before the sigma is missing a letter, and with one behind it otherwise. -/
theorem exists_not_isInfix_of_not_settlesSigmas {s : List Char} (hs : ¬SettlesSigmas s) :
    ∃ front back, (∀ c ∈ front ++ back, isBlank c = false) ∧
      ¬lower s <:+: lower (front ++ s ++ back) := by
  simp only [SettlesSigmas, not_forall] at hs
  obtain ⟨x, y, hsplit, hopen⟩ := hs
  simp only [SettlesSigma, not_or, not_and, Bool.not_eq_true, Bool.not_eq_false] at hopen
  obtain ⟨hy, hopen⟩ := hopen
  by_cases hx : x.all isCaseIgnorable = true
  · obtain ⟨c, htaken, hcased, hstop, hblank, hsettled⟩ := exists_letter_ne (lower s).head?
    refine ⟨[c], [], by simpa using hblank, fun hpart => htaken ?_⟩
    rw [List.append_nil, List.singleton_append, lower_cons hsettled] at hpart
    refine head?_eq_of_infix_cons (length_lowerBetween _ _ _).symm (fun heq => ?_) hpart
    have hkeeps : KeepsSigmas [c] s [] := lowerBetween_eq_lower_iff.1 heq.symm
    have hreverse : x.reverse.all isCaseIgnorable = true := by rw [List.all_reverse, hx]
    have hform := hkeeps x y hsplit
    rw [endsWord, endsWord, startsCased_append_of_all hreverse, List.append_nil,
      startsCased_eq_false_of_all hreverse, hy] at hform
    simp [startsCased_singleton hcased hstop] at hform
  · rw [Bool.not_eq_true] at hx
    obtain ⟨hletter, hall⟩ := hopen hx
    obtain ⟨c, htaken, hcased, hstop, hblank, hsettled⟩ := exists_letter_ne (lower s).getLast?
    refine ⟨[], [c], by simpa using hblank, fun hpart => htaken ?_⟩
    rw [List.nil_append, lower_concat hsettled] at hpart
    refine getLast?_eq_of_infix_concat (length_lowerBetween _ _ _).symm (fun heq => ?_) hpart
    have hkeeps : KeepsSigmas [] s [c] := lowerBetween_eq_lower_iff.1 heq.symm
    have hform := hkeeps x y hsplit
    rw [endsWord, endsWord, startsCased_append_of_all hall, List.reverse_nil, List.append_nil,
      hletter, hy, startsCased_singleton hcased hstop] at hform
    simp at hform

end NoteCards.Text

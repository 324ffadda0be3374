import NoteCards.Proofs.Binary64.Sum
import NoteCards.Simulation.Placement

/-!
# New points in their square

A word is a fraction that is at most the greatest one (`fraction_le_greatestFraction`), and sums and
products keep the order. So it is enough that the stretch keeps the greatest fraction in the square,
which is what it is lowered for (`lowerStretch_fits`): no other word leads out, before the centre is
added or after (`StretchFits.offset_between`, `StretchFits.contains_add`). How far the stretch is
lowered plays no part, and neither do the errors of the four roundings on the way.

The stretch that is lowered grows with the spread, so it overflows from one spread on, and the
greatest spread below is the third greatest number of all (`exists_hasRank_firstStretch`,
`isFinite_firstStretch`).
-/

namespace NoteCards

open Binary64

/-- The widest spread that can be sampled. -/
def widestSpread : Binary64 :=
  .ofNat ((2 ^ 53 - 3) * 2 ^ 971)

namespace Physics

/-- The spread can be sampled: what is not a number, or is below zero, counts as zero. -/
def SpreadFits (physics : Physics) : Prop :=
  physics.initialSpread = .nan ∨ physics.initialSpread.le widestSpread = true

instance (physics : Physics) : Decidable physics.SpreadFits :=
  inferInstanceAs (Decidable (_ ∨ _))

/-- The square is its centre only. -/
def HasNoSpread (physics : Physics) : Prop :=
  physics.initialSpread = .nan ∨ physics.initialSpread.le 0 = true

instance (physics : Physics) : Decidable physics.HasNoSpread :=
  inferInstanceAs (Decidable (_ ∨ _))

/-- The coordinates from half of the spread below a centre to half of it above. -/
def around (physics : Physics) (center : Binary64) : Range :=
  ⟨center - Placement.halfSpread physics, center + Placement.halfSpread physics⟩

end Physics

namespace Placement

/-! ### Fractions -/

theorem exists_greatestFraction :
    ∃ rank : Fin topRank, greatestFraction.HasRank rank ∧ rank.val ≠ 0 :=
  hasRank_positive (by decide +kernel)

theorem parts_le {n m : ℕ} (hle : n ≤ m) (hm : m ≤ 1 <<< 52) :
    (0 : Binary64).le (.ofNat n / .ofNat (1 <<< 52)) = true ∧
      (Binary64.ofNat n / .ofNat (1 <<< 52)).le (.ofNat m / .ofNat (1 <<< 52)) = true ∧
      (Binary64.ofNat m / .ofNat (1 <<< 52)).le 1 = true := by
  obtain ⟨t, ht, -, hpositive⟩ := exists_hasRank_whole (n := 1 <<< 52) (by decide) (by decide)
  obtain ⟨r, hr⟩ := exists_hasRank_ofNat (hle.trans hm) ht.isFinite
  obtain ⟨s, hs⟩ := exists_hasRank_ofNat hm ht.isFinite
  exact ⟨(hr.div ht hpositive).nonneg, div_le_div_of_le hr hs ht hpositive (ofNat_le_ofNat hle),
    div_le_one hs ht hpositive (ofNat_le_ofNat hm)⟩

theorem shifted_toNat (word : UInt64) : (word >>> 12).toNat = word.toNat / 2 ^ 12 := by
  rw [UInt64.toNat_shiftRight, Nat.shiftRight_eq_div_pow]
  rfl

theorem shifted_le (word : UInt64) : (word >>> 12).toNat ≤ 1 <<< 52 - 1 := by
  have hbound := word.toNat_lt
  rw [shifted_toNat]
  change word.toNat / 4096 ≤ 4503599627370495
  omega

theorem greatestFraction_le_one : greatestFraction.le 1 = true :=
  (parts_le le_rfl (Nat.sub_le _ 1)).2.2

theorem zero_le_fraction (word : UInt64) : (0 : Binary64).le (fraction word) = true :=
  (parts_le (shifted_le word) (Nat.sub_le _ 1)).1

theorem fraction_le_greatestFraction (word : UInt64) :
    (fraction word).le greatestFraction = true :=
  (parts_le (shifted_le word) (Nat.sub_le _ 1)).2.1

theorem fraction_le_one (word : UInt64) : (fraction word).le 1 = true :=
  le_trans (fraction_le_greatestFraction word) greatestFraction_le_one

theorem fraction_le_fraction {low high : UInt64} (hle : low ≤ high) :
    (fraction low).le (fraction high) = true := by
  have hshifted : (low >>> 12).toNat ≤ (high >>> 12).toNat := by
    rw [shifted_toNat, shifted_toNat]
    exact Nat.div_le_div_right (UInt64.le_iff_toNat_le.1 hle)
  exact (parts_le hshifted ((shifted_le high).trans (Nat.sub_le _ 1))).2.1

theorem hasRank_fraction_zero : (fraction 0).HasRank ⟨0, by decide⟩ := by
  have hzero : fraction 0 = zero false := by decide +kernel
  rw [hzero]
  rfl

theorem exists_hasRank_fraction (word : UInt64) : ∃ rank, (fraction word).HasRank rank := by
  obtain ⟨g, hg, -⟩ := exists_greatestFraction
  exact exists_hasRank (zero_le_fraction word) (fraction_le_greatestFraction word) hg.isFinite

/-! ### Offsets -/

section Offsets

variable {half stretch center : Binary64} {r : Fin topRank}

/-- The greatest fraction, stretched and moved, does not lead out of the square. -/
def StretchFits (half stretch : Binary64) : Prop :=
  (∃ rank, stretch.HasRank rank) ∧ (stretch * greatestFraction + -half).le half = true

theorem exists_hasRank_greatest {s : Fin topRank} (hs : stretch.HasRank s) :
    ∃ rank, (stretch * greatestFraction).HasRank rank ∧
      (stretch * greatestFraction).le stretch = true := by
  obtain ⟨g, hg, -⟩ := exists_greatestFraction
  obtain ⟨rank, hrank⟩ := exists_hasRank_mul hg hs greatestFraction_le_one
  have hle := mul_le_of_le_one hg hs greatestFraction_le_one
  rw [Binary64.mul_comm] at hrank hle
  exact ⟨rank, hrank, hle⟩

theorem lowerStretch_fits (hhalf : half.HasRank r) {rank : ℕ} (hrank : rank < topRank) :
    StretchFits half (lowerStretch half rank) := by
  have hneg := hhalf.isFinite_neg
  induction rank with
  | zero =>
    have hstretch : (zero false).HasRank ⟨0, hrank⟩ := rfl
    obtain ⟨p, hproduct, hle⟩ := exists_hasRank_greatest hstretch
    have hunits := units_le_units hproduct.isFinite hstretch.isFinite hle
    rw [units_zero] at hunits
    refine ⟨⟨_, hstretch⟩, ?_⟩
    rw [lowerStretch]
    apply add_le_of_units hproduct.isFinite hneg hhalf.isFinite
    rw [units_neg, hhalf.units]
    omega
  | succ rank ih =>
    rw [lowerStretch]
    by_cases houtside : half.lt (ofRank false (rank + 1) * greatestFraction + -half) = true
    · rw [if_pos houtside]
      exact ih (by omega)
    · -- both sides are numbers, so what is not outside is inside
      have hstretch := hasRank_ofRank hrank
      obtain ⟨p, hproduct, -⟩ := exists_hasRank_greatest hstretch
      have hnumber : half ≠ .nan := ne_nan_of_isFinite hhalf.isFinite
      rw [if_neg houtside]
      exact ⟨⟨_, hstretch⟩, le_of_not_lt (add_ne_nan hproduct.isFinite hneg) hnumber houtside⟩

/-- No word leads out of the square. -/
theorem StretchFits.offset_between (hfits : StretchFits half stretch) (hhalf : half.HasRank r)
    (word : UInt64) :
    (-half).le (offset half stretch word) = true ∧ (offset half stretch word).le half = true := by
  obtain ⟨⟨s, hs⟩, hgreatest⟩ := hfits
  have hword := fraction_le_greatestFraction word
  obtain ⟨f, hf⟩ := exists_hasRank_fraction word
  obtain ⟨g, hg, -⟩ := exists_greatestFraction
  obtain ⟨p, hp⟩ := exists_hasRank_mul hf hs (fraction_le_one word)
  obtain ⟨q, hq, -⟩ := exists_hasRank_greatest hs
  have hneg := hhalf.isFinite_neg
  rw [offset]
  constructor
  · apply le_add_of_units hp.isFinite hneg hneg
    rw [hp.units]
    omega
  · have hproduct : (fraction word * stretch).le (stretch * greatestFraction) = true := by
      rw [Binary64.mul_comm stretch]
      exact mul_le_mul_of_le hf hg hs hword
    exact le_trans (add_le_add hp.isFinite hneg hq.isFinite hneg hproduct (Binary64.le_refl hneg))
      hgreatest

theorem StretchFits.offset_zero (hfits : StretchFits half stretch) (hhalf : half.HasRank r) :
    (offset half stretch 0).sameValue (-half) = true := by
  obtain ⟨⟨s, hs⟩, -⟩ := hfits
  have hzero := hasRank_fraction_zero.mul_of_magnitude_eq_zero hs magnitude_zero
  have hneg := hhalf.isFinite_neg
  have hunits : (fraction 0 * stretch).units = 0 := by
    rw [hzero.units, magnitude_zero, Nat.cast_zero]
  have hplace := key?_add_of_units_eq_zero_left hzero.isFinite hneg hunits
  rw [sameValue, offset, hplace, key?_eq_nearestPlace hneg, decide_eq_true_eq]

theorem StretchFits.offset_le_offset (hfits : StretchFits half stretch) (hhalf : half.HasRank r)
    {low high : UInt64} (hle : low ≤ high) :
    (offset half stretch low).le (offset half stretch high) = true := by
  obtain ⟨⟨s, hs⟩, -⟩ := hfits
  obtain ⟨a, ha⟩ := exists_hasRank_fraction low
  obtain ⟨b, hb⟩ := exists_hasRank_fraction high
  obtain ⟨p, hp⟩ := exists_hasRank_mul ha hs (fraction_le_one low)
  obtain ⟨q, hq⟩ := exists_hasRank_mul hb hs (fraction_le_one high)
  have hneg := hhalf.isFinite_neg
  exact add_le_add hp.isFinite hneg hq.isFinite hneg
    (mul_le_mul_of_le ha hb hs (fraction_le_fraction hle)) (Binary64.le_refl hneg)

theorem StretchFits.isFinite_offset (hfits : StretchFits half stretch) (hhalf : half.HasRank r)
    (word : UInt64) : (offset half stretch word).isFinite = true := by
  obtain ⟨habove, hbelow⟩ := hfits.offset_between hhalf word
  exact isFinite_of_between hhalf.isFinite_neg hhalf.isFinite habove hbelow

theorem StretchFits.contains_add (hfits : StretchFits half stretch) (hhalf : half.HasRank r)
    (hcenter : center.isFinite = true) (word : UInt64) :
    Range.contains ⟨center - half, center + half⟩ (center + offset half stretch word) = true := by
  obtain ⟨habove, hbelow⟩ := hfits.offset_between hhalf word
  have hoffset := hfits.isFinite_offset hhalf word
  have hneg := hhalf.isFinite_neg
  have hself := Binary64.le_refl hcenter
  exact Bool.and_eq_true_iff.2
    ⟨add_le_add hcenter hneg hcenter hoffset hself habove,
      add_le_add hcenter hoffset hcenter hhalf.isFinite hself hbelow⟩

theorem StretchFits.add_sameValue (hfits : StretchFits half stretch) (hhalf : half.HasRank r)
    (hcenter : center.isFinite = true) (hzero : half.le 0 = true) (word : UInt64) :
    (center + offset half stretch word).sameValue center = true := by
  obtain ⟨habove, hbelow⟩ := hfits.offset_between hhalf word
  have hoffset := hfits.isFinite_offset hhalf word
  have hneg := hhalf.isFinite_neg
  rw [zero_eq] at hzero
  have hlow := units_le_units hneg hoffset habove
  have hhigh := units_le_units hoffset hhalf.isFinite hbelow
  have hhalves := units_le_units hhalf.isFinite rfl hzero
  rw [units_neg] at hlow
  rw [units_zero] at hhalves
  have hunits : (offset half stretch word).units = 0 := by omega
  have hplace := key?_add_of_units_eq_zero hcenter hoffset hunits
  rw [sameValue, hplace, key?_eq_nearestPlace hcenter, decide_eq_true_eq]

end Offsets

/-! ### Widths -/

section Widths

variable {half x y : Binary64} {r s : Fin topRank}

/-- The stretch that is lowered, for half of a width. -/
def firstStretch (half : Binary64) : Binary64 :=
  (half - -half) / greatestFraction

theorem stretch?_of_hasRank (hhalf : half.isFinite = true)
    (hfirst : (firstStretch half).HasRank r) : stretch? half = some (lowerStretch half r) := by
  obtain ⟨negative, hrank, -⟩ := hfirst.exists_sign
  rw [firstStretch] at hrank
  rw [stretch?, if_pos hhalf, hrank]

theorem stretch?_eq_none (hfirst : (firstStretch half).isFinite = false) :
    stretch? half = none := by
  rw [firstStretch] at hfirst
  rw [stretch?]
  by_cases hhalf : half.isFinite = true
  · rw [if_pos hhalf]
    cases hstretch : (half - -half) / greatestFraction with
    | nan | infinite negative => rfl
    | finite negative rank =>
      rw [hstretch] at hfirst
      exact nomatch hfirst
  · rw [if_neg hhalf]

theorem exists_hasRank_width (hx : x.HasRank r) : ∃ rank, (x / 2 - -(x / 2)).HasRank rank := by
  have hgreatest := hasRank_ofRank (by decide : topRank - 1 < topRank)
  have hle : x.le (ofRank false (topRank - 1)) = true := by
    rw [hx.le_iff hgreatest, Fin.le_def]
    exact Nat.le_sub_one_of_lt r.isLt
  obtain ⟨a, ha⟩ := exists_hasRank_half hx
  obtain ⟨b, hb⟩ := exists_hasRank_half hgreatest
  rw [Binary64.sub_neg]
  exact exists_hasRank_add_self ha hb (half_le_half hx hgreatest hle) (by decide +kernel)

theorem firstStretch_le_firstStretch (hx : x.HasRank r) (hy : y.HasRank s) (hxy : x.le y = true) :
    (firstStretch (x / 2)).le (firstStretch (y / 2)) = true := by
  obtain ⟨a, ha⟩ := exists_hasRank_half hx
  obtain ⟨b, hb⟩ := exists_hasRank_half hy
  obtain ⟨c, hc⟩ := exists_hasRank_width hx
  obtain ⟨d, hd⟩ := exists_hasRank_width hy
  obtain ⟨g, hg, hpositive⟩ := exists_greatestFraction
  have hhalves := half_le_half hx hy hxy
  apply div_le_div_of_le hc hd hg hpositive
  rw [Binary64.sub_neg, Binary64.sub_neg]
  exact add_le_add ha.isFinite ha.isFinite hb.isFinite hb.isFinite hhalves hhalves

/-- The widest spread is the last one whose first stretch is finite. -/
theorem widestSpread_last :
    widestSpread = ofRank false (topRank - 3) ∧
      (firstStretch (widestSpread / 2)).isFinite = true ∧
      firstStretch (ofRank false (topRank - 2) / 2) = .infinite false := by
  decide +kernel

theorem hasRank_widestSpread : widestSpread.HasRank ⟨topRank - 3, by decide⟩ := by
  rw [widestSpread_last.1]
  exact hasRank_ofRank (by decide)

theorem exists_hasRank_firstStretch (hx : x.HasRank r) (hle : x.le widestSpread = true) :
    ∃ rank, (firstStretch (x / 2)).HasRank rank := by
  obtain ⟨c, hc⟩ := exists_hasRank_width hx
  obtain ⟨g, hg, hpositive⟩ := exists_greatestFraction
  exact exists_hasRank (hc.div hg hpositive).nonneg
    (firstStretch_le_firstStretch hx hasRank_widestSpread hle) widestSpread_last.2.1

theorem isFinite_firstStretch (hx : x.HasRank r) (hle : ¬x.le widestSpread = true) :
    (firstStretch (x / 2)).isFinite = false := by
  have hnext := hasRank_ofRank (by decide : topRank - 2 < topRank)
  have hnextx : (ofRank false (topRank - 2)).le x = true := by
    rw [hx.le_iff hasRank_widestSpread, Fin.le_def, Nat.not_le] at hle
    rw [hnext.le_iff hx, Fin.le_def]
    change topRank - 3 < r.val at hle
    change topRank - 2 ≤ r.val
    omega
  have hstretch := firstStretch_le_firstStretch hnext hx hnextx
  rw [widestSpread_last.2.2] at hstretch
  by_contra hfinite
  obtain ⟨place, hplace, -, hbound⟩ := isFinite_iff.1 (Bool.not_eq_false _ ▸ hfinite)
  obtain ⟨top, place', htop, hplace', hle⟩ := le_iff.1 hstretch
  have htop : (topRank : ℤ) = top := Option.some.inj htop
  cases hplace.symm.trans hplace'
  omega

end Widths

/-! ### Points -/

section Points

variable {S : Type} {physics : Physics}

theorem zero_le_widestSpread : (0 : Binary64).le widestSpread = true :=
  hasRank_widestSpread.rounds.nonneg

theorem exists_hasRank_spread (hfits : physics.SpreadFits) :
    ∃ rank, (physics.initialSpread.max 0).HasRank rank := by
  obtain ⟨hnonneg, hle⟩ := max_zero_between zero_le_widestSpread hfits
  exact exists_hasRank hnonneg hle hasRank_widestSpread.isFinite

theorem exists_stretch (hfits : physics.SpreadFits) :
    ∃ stretch rank, stretch? (halfSpread physics) = some stretch ∧
      (halfSpread physics).HasRank rank ∧ StretchFits (halfSpread physics) stretch := by
  obtain ⟨-, hle⟩ := max_zero_between zero_le_widestSpread hfits
  obtain ⟨spread, hspread⟩ := exists_hasRank_spread hfits
  obtain ⟨half, hhalf⟩ := exists_hasRank_half hspread
  obtain ⟨first, hfirst⟩ := exists_hasRank_firstStretch hspread hle
  exact ⟨_, half, stretch?_of_hasRank hhalf.isFinite hfirst, hhalf,
    lowerStretch_fits hhalf first.isLt⟩

theorem stretch?_eq_none_of_not_fits (hwide : ¬physics.SpreadFits) :
    stretch? (halfSpread physics) = none := by
  obtain ⟨hnumber, hle⟩ := not_or.1 hwide
  have hnonneg : (0 : Binary64).le physics.initialSpread = true := by
    refine le_of_not_lt (ne_nan_of_isFinite hasRank_zero.isFinite) hnumber fun hbelow => hle ?_
    exact le_trans (le_of_lt hbelow) zero_le_widestSpread
  rw [halfSpread, max_eq_left hnonneg]
  cases hspread : physics.initialSpread with
  | nan => exact absurd hspread hnumber
  | infinite negative => cases negative <;> decide +kernel
  | finite negative rank =>
    rw [hspread] at hnonneg hle
    obtain ⟨r, hr⟩ := exists_hasRank_self hnonneg rfl
    exact stretch?_eq_none (isFinite_firstStretch hr hle)

theorem newPoint?_eq_some {stretch : Binary64} (viewport : Viewport) (source : WordSource S)
    (state : S) (hstretch : stretch? (halfSpread physics) = some stretch) :
    newPoint? viewport physics source state =
      some (⟨viewport.center.x + offset (halfSpread physics) stretch (source.draw state).1,
          viewport.center.y +
            offset (halfSpread physics) stretch (source.draw (source.draw state).2).1⟩,
        (source.draw (source.draw state).2).2) := by
  rw [newPoint?, hstretch, Option.map_some]

theorem newPoint?_eq_none (viewport : Viewport) (source : WordSource S) (state : S)
    (hwide : ¬physics.SpreadFits) : newPoint? viewport physics source state = none := by
  rw [newPoint?, stretch?_eq_none_of_not_fits hwide, Option.map_none]

theorem isSome_newPoint?_iff (viewport : Viewport) (physics : Physics) (source : WordSource S)
    (state : S) :
    (newPoint? viewport physics source state).isSome = true ↔ physics.SpreadFits := by
  by_cases hfits : physics.SpreadFits
  · obtain ⟨stretch, -, hstretch, -⟩ := exists_stretch hfits
    rw [newPoint?_eq_some viewport source state hstretch]
    exact iff_of_true rfl hfits
  · rw [newPoint?_eq_none viewport source state hfits]
    exact iff_of_false nofun hfits

end Points

end Placement

open Placement

theorem Physics.HasNoSpread.half_le {physics : Physics} (hnone : physics.HasNoSpread) :
    physics.SpreadFits ∧ (halfSpread physics).le 0 = true := by
  have hfits : physics.SpreadFits := hnone.imp_right fun hle => le_trans hle zero_le_widestSpread
  obtain ⟨-, hle⟩ := max_zero_between hasRank_zero.rounds.nonneg hnone
  obtain ⟨spread, hspread⟩ := exists_hasRank_spread hfits
  exact ⟨hfits, le_trans (half_le_self hspread) hle⟩

/-- **New points in their square.** In a view of finite size a new point takes two words, the first
one for the horizontal and the second one for the vertical coordinate. Whatever the words are, each
coordinate is within half of the spread around the centre, rising with its word from the low side,
where the word 0 is; without a spread there is only the centre. Only a spread that is too wide for
the format gives no point. -/
theorem newPoint_in_square (viewport : Viewport) (physics : Physics)
    (hwidth : viewport.width.isFinite = true) (hheight : viewport.height.isFinite = true) :
    (physics.SpreadFits → ∃ move : UInt64 → Binary64,
      (∀ (S : Type) (source : WordSource S) (state : S),
        let first := source.draw state
        let second := source.draw first.2
        newPoint? viewport physics source state =
          some (⟨viewport.center.x + move first.1, viewport.center.y + move second.1⟩, second.2)) ∧
      (∀ center ∈ [viewport.center.x, viewport.center.y], ∀ word,
        (physics.around center).contains (center + move word) = true ∧
        (physics.HasNoSpread → (center + move word).sameValue center = true)) ∧
      (move 0).sameValue (-halfSpread physics) = true ∧
      ∀ low high, low ≤ high → (move low).le (move high) = true) ∧
    (physics.HasNoSpread → physics.SpreadFits) ∧
    (¬physics.SpreadFits → ∀ (S : Type) (source : WordSource S) (state : S),
      newPoint? viewport physics source state = none) := by
  refine ⟨fun hfits => ?_, fun hnone => hnone.half_le.1, fun hwide S source state =>
    newPoint?_eq_none viewport source state hwide⟩
  obtain ⟨stretch, rank, hstretch, hhalf, hstretchFits⟩ := exists_stretch hfits
  refine ⟨offset (halfSpread physics) stretch, fun S source state =>
    newPoint?_eq_some viewport source state hstretch, fun center hcenter word => ?_,
    hstretchFits.offset_zero hhalf, fun low high => hstretchFits.offset_le_offset hhalf⟩
  have hfinite : center.isFinite = true := by
    rcases List.mem_pair.1 hcenter with rfl | rfl
    · exact isFinite_half hwidth
    · exact isFinite_half hheight
  exact ⟨hstretchFits.contains_add hhalf hfinite word, fun hnone =>
    hstretchFits.add_sameValue hhalf hfinite hnone.half_le.2 word⟩

/-- The least and the greatest word, no spread, and one that is too wide. -/
theorem newPoint_in_square_extremes :
    (∃ point, newPoint? ⟨800, 600⟩ standardPhysics (.counting (-1)) 0 = some (point, -2) ∧
      Range.contains ⟨200, 600⟩ point.x = true ∧ Range.contains ⟨100, 500⟩ point.y = true) ∧
    (∃ point, newPoint? ⟨800, 600⟩ { initialSpread := .nan } (.counting 5) 7 = some (point, 17) ∧
      point.x.sameValue 400 = true ∧ point.y.sameValue 300 = true) ∧
    newPoint? ⟨800, 600⟩ { initialSpread := .infinite false } (.counting 5) 7 = none := by
  have hview := fun physics =>
    newPoint_in_square ⟨800, 600⟩ physics (by decide +kernel) (by decide +kernel)
  have hcenter : Viewport.center ⟨800, 600⟩ = ⟨400, 300⟩ := by decide +kernel
  rw [hcenter] at hview
  refine ⟨?_, ?_, ?_⟩
  · obtain ⟨move, hdraws, hmoves, -⟩ := (hview standardPhysics).1 (by decide +kernel)
    refine ⟨_, hdraws _ _ _, ?_, ?_⟩
    · have hx : standardPhysics.around 400 = ⟨200, 600⟩ := by decide +kernel
      rw [← hx]
      exact (hmoves 400 (by simp) _).1
    · have hy : standardPhysics.around 300 = ⟨100, 500⟩ := by decide +kernel
      rw [← hy]
      exact (hmoves 300 (by simp) _).1
  · obtain ⟨move, hdraws, hmoves, -⟩ := (hview { initialSpread := .nan }).1 (.inl rfl)
    exact ⟨_, hdraws _ _ _, (hmoves 400 (by simp) _).2 (.inl rfl),
      (hmoves 300 (by simp) _).2 (.inl rfl)⟩
  · exact (hview { initialSpread := .infinite false }).2.2 (by decide +kernel) _ _ _

end NoteCards

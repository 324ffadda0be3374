import NoteCards.Proofs.Binary64.Monotone
import NoteCards.Proofs.Command.Forces

/-!
# Bounds of the simulation

Each parameter of the simulation depends on one slider, or on the two sides of a card, and it is
monotone in them: the repulsion falls as its slider rises, all others rise. Pulling a setting into
its range is monotone too. So the bounds of a parameter are what it is at the ends of the range of
its slider, and these two ends are all that is computed here (`inBounds_of_holdsNoNaN`).
-/

namespace NoteCards

open SettingsField Binary64

/-! ### Ranges of sliders -/

namespace Range

variable {range : Range} {x y c low high : Binary64}

/-- A range of finite numbers from zero on. -/
def OfMagnitudes (range : Range) : Prop :=
  (0 : Binary64).le range.low = true ∧ range.high.isFinite = true

instance (range : Range) : Decidable range.OfMagnitudes :=
  inferInstanceAs (Decidable (_ ∧ _))

theorem OfMagnitudes.exists_hasRank (hrange : range.OfMagnitudes)
    (hx : range.contains x = true) : ∃ rank, x.HasRank rank := by
  obtain ⟨hlowx, hxhigh⟩ := Bool.and_eq_true_iff.1 hx
  exact Binary64.exists_hasRank (le_trans hrange.1 hlowx) hxhigh hrange.2

theorem OfMagnitudes.exists_hasRank_ends (hrange : range.OfMagnitudes)
    (hx : range.contains x = true) :
    (∃ rank, range.low.HasRank rank) ∧ ∃ rank, range.high.HasRank rank := by
  obtain ⟨hlowx, hxhigh⟩ := Bool.and_eq_true_iff.1 hx
  have hbounds := le_trans hlowx hxhigh
  exact ⟨Binary64.exists_hasRank hrange.1 hbounds hrange.2,
    exists_hasRank_self (le_trans hrange.1 hbounds) hrange.2⟩

theorem OfMagnitudes.mul_le_mul (hrange : range.OfMagnitudes) (hx : range.contains x = true)
    (hy : range.contains y = true) (hc : ∃ rank, c.HasRank rank) (hxy : x.le y = true) :
    (x * c).le (y * c) = true := by
  obtain ⟨r, hr⟩ := hrange.exists_hasRank hx
  obtain ⟨s, hs⟩ := hrange.exists_hasRank hy
  obtain ⟨t, ht⟩ := hc
  exact mul_le_mul_of_le hr hs ht hxy

/-- A multiple of a slider is between the multiples of the ends of its range. -/
theorem OfMagnitudes.contains_mul (hrange : range.OfMagnitudes) (hx : range.contains x = true)
    (hc : ∃ rank, c.HasRank rank) (hends : range.low * c = low ∧ range.high * c = high) :
    Range.contains ⟨low, high⟩ (x * c) = true := by
  obtain ⟨hlowx, hxhigh⟩ := Bool.and_eq_true_iff.1 hx
  obtain ⟨⟨a, ha⟩, b, hb⟩ := hrange.exists_hasRank_ends hx
  obtain ⟨r, hr⟩ := hrange.exists_hasRank hx
  obtain ⟨t, ht⟩ := hc
  obtain ⟨rfl, rfl⟩ := hends
  exact Bool.and_eq_true_iff.2 ⟨mul_le_mul_of_le ha hr ht hlowx, mul_le_mul_of_le hr hb ht hxhigh⟩

theorem OfMagnitudes.contains_zero_sub (hrange : range.OfMagnitudes)
    (hx : range.contains x = true) (hends : 0 - range.high = low ∧ 0 - range.low = high) :
    Range.contains ⟨low, high⟩ (0 - x) = true := by
  obtain ⟨hlowx, hxhigh⟩ := Bool.and_eq_true_iff.1 hx
  obtain ⟨⟨a, ha⟩, b, hb⟩ := hrange.exists_hasRank_ends hx
  obtain ⟨r, hr⟩ := hrange.exists_hasRank hx
  obtain ⟨rfl, rfl⟩ := hends
  exact Bool.and_eq_true_iff.2 ⟨zero_sub_le_zero_sub hr hb hxhigh, zero_sub_le_zero_sub ha hr hlowx⟩

theorem OfMagnitudes.contains_hypot {others : Range} (hrange : range.OfMagnitudes)
    (hothers : others.OfMagnitudes) (hx : range.contains x = true)
    (hy : others.contains y = true) :
    Range.contains ⟨hypot range.low others.low, hypot range.high others.high⟩ (hypot x y) =
      true := by
  obtain ⟨hxlow, hxhigh⟩ := Bool.and_eq_true_iff.1 hx
  obtain ⟨hylow, hyhigh⟩ := Bool.and_eq_true_iff.1 hy
  obtain ⟨⟨a, ha⟩, b, hb⟩ := hrange.exists_hasRank_ends hx
  obtain ⟨⟨c, hc⟩, d, hd⟩ := hothers.exists_hasRank_ends hy
  obtain ⟨r, hr⟩ := hrange.exists_hasRank hx
  obtain ⟨s, hs⟩ := hothers.exists_hasRank hy
  exact Bool.and_eq_true_iff.2
    ⟨hypot_le_hypot ha hc hr hs hxlow hylow, hypot_le_hypot hr hs hb hd hxhigh hyhigh⟩

theorem OfMagnitudes.contains_div (hrange : range.OfMagnitudes) (hx : range.contains x = true)
    (hc : ∃ rank, c.HasRank rank ∧ rank.val ≠ 0) :
    Range.contains ⟨range.low / c, range.high / c⟩ (x / c) = true := by
  obtain ⟨hlowx, hxhigh⟩ := Bool.and_eq_true_iff.1 hx
  obtain ⟨⟨a, ha⟩, b, hb⟩ := hrange.exists_hasRank_ends hx
  obtain ⟨r, hr⟩ := hrange.exists_hasRank hx
  obtain ⟨t, ht, hpositive⟩ := hc
  exact Bool.and_eq_true_iff.2 ⟨div_le_div_of_le ha hr ht hpositive hlowx,
    div_le_div_of_le hr hb ht hpositive hxhigh⟩

end Range

/-! ### Settings in their ranges -/

section Clamping

variable {R F : Type} [SettingsRecord R F] [LawfulClamping R F]

theorem contains_pullIn (record : R) (field : F) {range : Range} {x : Binary64}
    (hnumber : SettingsRecord.get record field ≠ .number .nan) (hrange : range? field = some range)
    (hx : SettingsRecord.get record field = .number x) :
    range.contains (pullIn field x) = true := by
  obtain ⟨y, hy, hcontains⟩ := (inRange_clamped_iff record field).2 hnumber range hrange
  rw [LawfulClamping.get_clamped, hx] at hy
  cases hy
  exact hcontains

variable (R) in
theorem pullIn_le_pullIn (field : F) {x y : Binary64} (hxy : x.le y = true) :
    (pullIn field x).le (pullIn field y) = true := by
  have hbounds := LawfulClamping.low_le_high (R := R) field
  rw [pullIn, pullIn]
  cases hrange : range? field with
  | none => exact hxy
  | some range =>
    rw [hrange] at hbounds
    exact clamp_le_clamp hbounds hxy

end Clamping

theorem DisplayField.ofMagnitudes (field : DisplayField) {range : Range}
    (hrange : range? field = some range) : range.OfMagnitudes := by
  have hall : ((range? field).all fun range => decide range.OfMagnitudes) = true := by
    cases field <;> decide +kernel
  rw [hrange] at hall
  exact of_decide_eq_true hall

theorem ForceField.ofMagnitudes (field : ForceField) {range : Range}
    (hrange : range? field = some range) : range.OfMagnitudes := by
  have hall : ((range? field).all fun range => decide range.OfMagnitudes) = true := by
    cases field <;> decide +kernel
  rw [hrange] at hall
  exact of_decide_eq_true hall

/-! ### The parameters of clamped settings -/

namespace Parameters

/-- The parameters for settings that are pulled into their ranges. -/
def ofClamped (settings : Settings) : Parameters :=
  ofSettings settings.clamped standardPhysics

/-- The bounds of the parameters, given the settings in their ranges that they are made of. -/
structure InBounds (parameters : Parameters) (settings : Settings) : Prop where
  repulsion : Range.contains ⟨-1000, 0⟩ parameters.repulsionStrength = true
  repulsion_ne : parameters.repulsionStrength ≠ zero true
  distance_eq : parameters.linkDistance = settings.forces.linkDistance
  distance : Range.contains ⟨30, 500⟩ parameters.linkDistance = true
  link : Range.contains ⟨0, 0.5⟩ parameters.linkStrength = true
  center : Range.contains ⟨0, 0.1⟩ parameters.centerStrength = true
  half_width : (settings.display.cardWidth / 2).le parameters.collisionRadius = true
  half_height : (settings.display.cardHeight / 2).le parameters.collisionRadius = true
  radius : Range.contains ⟨hypot 120 80 / 2, hypot 480 400 / 2⟩ parameters.collisionRadius = true

variable {settings others : Settings}

/-! ### Sliders

A slider is pulled into its range and multiplied by a constant of the simulation. -/

section Slider

variable (field : ForceField) {range : Range} {x y c low high : Binary64}

theorem slider_contained (hnumbers : settings.HoldsNoNaN) (hrange : range? field = some range)
    (hx : settings.forces.get field = .number x) : range.contains (pullIn field x) = true :=
  contains_pullIn settings.forces field (hnumbers.2 field) hrange hx

theorem product_contained (hnumbers : settings.HoldsNoNaN) (hrange : range? field = some range)
    (hx : settings.forces.get field = .number x) (hc : ∃ rank, c.HasRank rank)
    (hends : range.low * c = low ∧ range.high * c = high) :
    Range.contains ⟨low, high⟩ (pullIn field x * c) = true :=
  (field.ofMagnitudes hrange).contains_mul (slider_contained field hnumbers hrange hx) hc hends

theorem product_le_product (hnumbers : settings.HoldsNoNaN) (hothers : others.HoldsNoNaN)
    (hrange : range? field = some range) (hx : settings.forces.get field = .number x)
    (hy : others.forces.get field = .number y) (hc : ∃ rank, c.HasRank rank)
    (hxy : x.le y = true) : (pullIn field x * c).le (pullIn field y * c) = true :=
  (field.ofMagnitudes hrange).mul_le_mul (slider_contained field hnumbers hrange hx)
    (slider_contained field hothers hrange hy) hc (pullIn_le_pullIn Forces field hxy)

end Slider

/-! ### Repulsion -/

theorem repelProduct_contained (hnumbers : settings.HoldsNoNaN) :
    Range.contains ⟨0, 1000⟩ (pullIn ForceField.repelForce settings.forces.repelForce * 50) =
      true :=
  product_contained .repelForce hnumbers rfl rfl (hasRank_numeral (by decide +kernel))
    (by decide +kernel)

theorem repulsionStrength_contained (hnumbers : settings.HoldsNoNaN) :
    Range.contains ⟨-1000, 0⟩ (ofClamped settings).repulsionStrength = true := by
  have hproducts : (⟨0, 1000⟩ : Range).OfMagnitudes := by decide +kernel
  exact hproducts.contains_zero_sub (repelProduct_contained hnumbers) (by decide +kernel)

theorem repulsionStrength_ne (hnumbers : settings.HoldsNoNaN) :
    (ofClamped settings).repulsionStrength ≠ zero true := by
  have hproducts : (⟨0, 1000⟩ : Range).OfMagnitudes := by decide +kernel
  obtain ⟨rank, hrank⟩ := hproducts.exists_hasRank (repelProduct_contained hnumbers)
  exact zero_sub_ne hrank

theorem repulsionStrength_antitone (hnumbers : settings.HoldsNoNaN) (hothers : others.HoldsNoNaN)
    (hle : settings.forces.repelForce.le others.forces.repelForce = true) :
    (ofClamped others).repulsionStrength.le (ofClamped settings).repulsionStrength = true := by
  have hproducts : (⟨0, 1000⟩ : Range).OfMagnitudes := by decide +kernel
  obtain ⟨r, hr⟩ := hproducts.exists_hasRank (repelProduct_contained hnumbers)
  obtain ⟨s, hs⟩ := hproducts.exists_hasRank (repelProduct_contained hothers)
  have hfactor : ∃ rank, (50 : Binary64).HasRank rank := hasRank_numeral (by decide +kernel)
  exact zero_sub_le_zero_sub hr hs
    (product_le_product .repelForce hnumbers hothers rfl rfl rfl hfactor hle)

/-! ### Links -/

theorem linkDistance_eq (hnumbers : settings.HoldsNoNaN) :
    (ofClamped settings).linkDistance = settings.clamped.forces.linkDistance :=
  max_eq_left (Bool.and_eq_true_iff.1 (slider_contained .linkDistance hnumbers rfl rfl)).1

theorem linkDistance_monotone (hnumbers : settings.HoldsNoNaN) (hothers : others.HoldsNoNaN)
    (hle : settings.forces.linkDistance.le others.forces.linkDistance = true) :
    (ofClamped settings).linkDistance.le (ofClamped others).linkDistance = true := by
  rw [linkDistance_eq hnumbers, linkDistance_eq hothers]
  exact pullIn_le_pullIn Forces ForceField.linkDistance hle

/-! ### Cards -/

theorem side_contained (field : DisplayField) {range : Range} {x : Binary64}
    (hnumbers : settings.HoldsNoNaN) (hrange : range? field = some range)
    (hx : settings.display.get field = .number x) : range.contains (pullIn field x) = true :=
  contains_pullIn settings.display field (hnumbers.1 field) hrange hx

theorem exists_diagonal (hnumbers : settings.HoldsNoNaN) :
    ∃ width height diagonal, settings.clamped.display.cardWidth.HasRank width ∧
      settings.clamped.display.cardHeight.HasRank height ∧
      (hypot settings.clamped.display.cardWidth settings.clamped.display.cardHeight).HasRank
        diagonal ∧
      Range.contains ⟨hypot 120 80, hypot 480 400⟩
        (hypot settings.clamped.display.cardWidth settings.clamped.display.cardHeight) = true := by
  have hwidths := DisplayField.ofMagnitudes .cardWidth rfl
  have hheights := DisplayField.ofMagnitudes .cardHeight rfl
  have hwidth := side_contained .cardWidth hnumbers rfl rfl
  have hheight := side_contained .cardHeight hnumbers rfl rfl
  have hdiagonals : (⟨hypot 120 80, hypot 480 400⟩ : Range).OfMagnitudes := by decide +kernel
  have hdiagonal := hwidths.contains_hypot hheights hwidth hheight
  obtain ⟨r, hr⟩ := hwidths.exists_hasRank hwidth
  obtain ⟨s, hs⟩ := hheights.exists_hasRank hheight
  obtain ⟨d, hd⟩ := hdiagonals.exists_hasRank hdiagonal
  exact ⟨r, s, d, hr, hs, hd, hdiagonal⟩

theorem half_side_le_radius (hnumbers : settings.HoldsNoNaN) :
    (settings.clamped.display.cardWidth / 2).le (ofClamped settings).collisionRadius = true ∧
      (settings.clamped.display.cardHeight / 2).le (ofClamped settings).collisionRadius = true := by
  obtain ⟨width, height, diagonal, hwidth, hheight, hdiagonal, -⟩ := exists_diagonal hnumbers
  exact ⟨half_le_half hwidth hdiagonal (le_hypot_left hwidth hheight),
    half_le_half hheight hdiagonal (le_hypot_right hwidth hheight)⟩

theorem radius_contained (hnumbers : settings.HoldsNoNaN) :
    Range.contains ⟨hypot 120 80 / 2, hypot 480 400 / 2⟩ (ofClamped settings).collisionRadius =
      true := by
  obtain ⟨-, -, -, -, -, -, hdiagonal⟩ := exists_diagonal hnumbers
  have hdiagonals : (⟨hypot 120 80, hypot 480 400⟩ : Range).OfMagnitudes := by decide +kernel
  have hhalves := hdiagonals.contains_div hdiagonal exists_two
  dsimp only at hhalves
  exact hhalves

theorem radius_monotone (hnumbers : settings.HoldsNoNaN) (hothers : others.HoldsNoNaN)
    (hwidth : settings.display.cardWidth.le others.display.cardWidth = true)
    (hheight : settings.display.cardHeight.le others.display.cardHeight = true) :
    (ofClamped settings).collisionRadius.le (ofClamped others).collisionRadius = true := by
  obtain ⟨_, _, _, hr, hs, hd, -⟩ := exists_diagonal hnumbers
  obtain ⟨_, _, _, hr', hs', hd', -⟩ := exists_diagonal hothers
  exact half_le_half hd hd' (hypot_le_hypot hr hs hr' hs'
    (pullIn_le_pullIn Display DisplayField.cardWidth hwidth)
    (pullIn_le_pullIn Display DisplayField.cardHeight hheight))

/-! ### The bounds -/

theorem inBounds (hnumbers : settings.HoldsNoNaN) :
    (ofClamped settings).InBounds settings.clamped where
  repulsion := repulsionStrength_contained hnumbers
  repulsion_ne := repulsionStrength_ne hnumbers
  distance_eq := linkDistance_eq hnumbers
  distance := by
    rw [linkDistance_eq hnumbers]
    exact slider_contained .linkDistance hnumbers rfl rfl
  link := product_contained .linkForce hnumbers rfl rfl (hasRank_numeral (by decide +kernel))
    (by decide +kernel)
  center := product_contained .centerForce hnumbers rfl rfl (hasRank_numeral (by decide +kernel))
    (by decide +kernel)
  half_width := (half_side_le_radius hnumbers).1
  half_height := (half_side_le_radius hnumbers).2
  radius := radius_contained hnumbers

/-- **Parameters in their bounds.** For settings without NaN, with infinities and numbers outside of
every range among them, the parameters are within the bounds of the simulation, and a change of the
settings moves each of them in one direction only. -/
theorem inBounds_and_monotone (settings others : Settings) (hnumbers : settings.HoldsNoNaN)
    (hothers : others.HoldsNoNaN) :
    (ofClamped settings).InBounds settings.clamped ∧
      (settings.forces.repelForce.le others.forces.repelForce = true →
        (ofClamped others).repulsionStrength.le (ofClamped settings).repulsionStrength = true) ∧
      (settings.forces.linkDistance.le others.forces.linkDistance = true →
        (ofClamped settings).linkDistance.le (ofClamped others).linkDistance = true) ∧
      (settings.forces.linkForce.le others.forces.linkForce = true →
        (ofClamped settings).linkStrength.le (ofClamped others).linkStrength = true) ∧
      (settings.forces.centerForce.le others.forces.centerForce = true →
        (ofClamped settings).centerStrength.le (ofClamped others).centerStrength = true) ∧
      (settings.display.cardWidth.le others.display.cardWidth = true →
        settings.display.cardHeight.le others.display.cardHeight = true →
          (ofClamped settings).collisionRadius.le (ofClamped others).collisionRadius = true) := by
  have hhalf : ∃ rank, (0.5 : Binary64).HasRank rank := hasRank_numeral (by decide +kernel)
  have htenth : ∃ rank, (0.1 : Binary64).HasRank rank := hasRank_numeral (by decide +kernel)
  exact ⟨inBounds hnumbers, repulsionStrength_antitone hnumbers hothers,
    linkDistance_monotone hnumbers hothers,
    product_le_product .linkForce hnumbers hothers rfl rfl rfl hhalf,
    product_le_product .centerForce hnumbers hothers rfl rfl rfl htenth,
    radius_monotone hnumbers hothers⟩

/-- An infinite card, a negative zero and a negative infinity beside the initial settings. -/
theorem inBounds_and_monotone_infinite :
    let wide : Settings :=
      { display := { cardWidth := .infinite false, cardHeight := 5 }
        forces := { repelForce := zero true, linkDistance := .infinite true } }
    wide.HoldsNoNaN ∧ Settings.HoldsNoNaN {} ∧ (ofClamped wide).InBounds wide.clamped ∧
      wide.forces.repelForce.le (10 : Binary64) = true ∧
      (ofClamped {}).repulsionStrength.le (ofClamped wide).repulsionStrength = true ∧
      wide.forces.linkDistance.le (250 : Binary64) = true ∧
      (ofClamped wide).linkDistance.le (ofClamped {}).linkDistance = true := by
  intro wide
  have hwide : wide.HoldsNoNaN := by
    constructor <;> intro field <;> cases field <;> decide +kernel
  have hinitial : Settings.HoldsNoNaN {} := by
    constructor <;> intro field <;> cases field <;> decide +kernel
  have hrepel : wide.forces.repelForce.le (10 : Binary64) = true := by decide +kernel
  have hdistance : wide.forces.linkDistance.le (250 : Binary64) = true := by decide +kernel
  obtain ⟨hbounds, hrepulsion, hlinks, -⟩ := inBounds_and_monotone wide {} hwide hinitial
  exact ⟨hwide, hinitial, hbounds, hrepel, hrepulsion hrepel, hdistance, hlinks hdistance⟩

end Parameters

end NoteCards

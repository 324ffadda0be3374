import NoteCards.Proofs.Simulation.Square

/-!
# Saved positions beside new ones

Placing the cards of a list takes words for the cards without a saved position only, so the points
of these cards are the new points that the source gives when nothing else is placed
(`placeAll?_eq_some_iff`). A list is filled with such points in order: the point of a card without a
saved position is known from the number of such cards before it (`Fills.getElem?_of_none`), and no
saved position counts.
-/

namespace NoteCards.Placement

variable {S : Type} {viewport : Viewport} {physics : Physics} {source : WordSource S}

/-- New points, one after the other from one source, and the source after them. -/
def newPoints? (viewport : Viewport) (physics : Physics) (source : WordSource S) :
    ℕ → S → Option (List Point × S)
  | 0, state => some ([], state)
  | count + 1, state =>
    (newPoint? viewport physics source state).bind fun (point, next) =>
      (newPoints? viewport physics source count next).map fun (points, last) =>
        (point :: points, last)

/-- A list of positions with its gaps filled, in order, by new points. -/
inductive Fills : List (Option Point) → List Point → List Point → Prop
  | nil : Fills [] [] []
  | saved {saved : List (Option Point)} {fresh points : List Point} (point : Point)
      (hrest : Fills saved fresh points) : Fills (some point :: saved) fresh (point :: points)
  | fresh {saved : List (Option Point)} {fresh points : List Point} (point : Point)
      (hrest : Fills saved fresh points) : Fills (none :: saved) (point :: fresh) (point :: points)

/-! ### Filling gaps -/

section Filling

variable {saved : List (Option Point)} {fresh points : List Point}

theorem exists_fills (saved : List (Option Point)) (fresh : List Point)
    (hlength : fresh.length = saved.count none) : ∃ points, Fills saved fresh points := by
  induction saved generalizing fresh with
  | nil =>
    cases List.length_eq_zero_iff.1 hlength
    exact ⟨[], .nil⟩
  | cons head saved ih =>
    cases head with
    | some point =>
      rw [List.count_cons_of_ne (by simp)] at hlength
      obtain ⟨points, hpoints⟩ := ih fresh hlength
      exact ⟨point :: points, .saved point hpoints⟩
    | none =>
      rw [List.count_cons_self] at hlength
      obtain ⟨point, fresh, rfl⟩ := List.exists_cons_of_length_eq_add_one hlength
      obtain ⟨points, hpoints⟩ := ih fresh (Nat.succ.inj hlength)
      exact ⟨point :: points, .fresh point hpoints⟩

theorem Fills.length_eq (hfills : Fills saved fresh points) : points.length = saved.length := by
  induction hfills with
  | nil => rfl
  | saved point hrest ih | fresh point hrest ih => rw [List.length_cons, List.length_cons, ih]

theorem Fills.getElem?_of_saved (hfills : Fills saved fresh points) {i : ℕ} {point : Point}
    (hi : saved[i]? = some (some point)) : points[i]? = some point := by
  induction hfills generalizing i with
  | nil => exact nomatch hi
  | saved head hrest ih =>
    cases i with
    | zero =>
      cases hi
      rfl
    | succ i => exact ih hi
  | fresh head hrest ih =>
    cases i with
    | zero => exact nomatch hi
    | succ i => exact ih hi

/-- The cards without a saved position take the new points in order. -/
theorem Fills.getElem?_of_none (hfills : Fills saved fresh points) {i : ℕ}
    (hi : saved[i]? = some none) : points[i]? = fresh[(saved.take i).count none]? := by
  induction hfills generalizing i with
  | nil => exact nomatch hi
  | saved head hrest ih =>
    cases i with
    | zero => exact nomatch hi
    | succ i =>
      rw [List.take_succ_cons, List.count_cons_of_ne (by simp)]
      exact ih hi
  | fresh head hrest ih =>
    cases i with
    | zero => rfl
    | succ i =>
      rw [List.take_succ_cons, List.count_cons_self]
      exact ih hi

end Filling

/-! ### Placing -/

section Placing

variable {saved : List (Option Point)} {points : List Point} {state last : S}

/-- A point is drawn before the rest, and the rest goes on where it ends. -/
theorem bind_cons_eq_some_iff {drawn : Option (Point × S)}
    {rest? : S → Option (List Point × S)} :
    (drawn.bind fun (point, next) =>
        (rest? next).map fun (points, last) => (point :: points, last)) = some (points, last) ↔
      ∃ point next rest, drawn = some (point, next) ∧ rest? next = some (rest, last) ∧
        points = point :: rest := by
  constructor
  · intro hsome
    obtain ⟨⟨point, next⟩, hdrawn, hsome⟩ := Option.bind_eq_some_iff.1 hsome
    obtain ⟨⟨rest, last⟩, hrest, hpoints⟩ := Option.map_eq_some_iff.1 hsome
    cases hpoints
    exact ⟨point, next, rest, hdrawn, hrest, rfl⟩
  · rintro ⟨point, next, rest, hdrawn, hrest, rfl⟩
    rw [hdrawn, Option.bind_some]
    exact Option.map_eq_some_iff.2 ⟨_, hrest, rfl⟩

theorem newPoints?_succ_iff {count : ℕ} :
    newPoints? viewport physics source (count + 1) state = some (points, last) ↔
      ∃ point next rest, newPoint? viewport physics source state = some (point, next) ∧
        newPoints? viewport physics source count next = some (rest, last) ∧
        points = point :: rest := by
  rw [newPoints?, bind_cons_eq_some_iff]

theorem placeAll?_cons_iff {head : Option Point} :
    placeAll? viewport physics source (head :: saved) state = some (points, last) ↔
      ∃ point next rest, place? head viewport physics source state = some (point, next) ∧
        placeAll? viewport physics source saved next = some (rest, last) ∧
        points = point :: rest := by
  rw [placeAll?, bind_cons_eq_some_iff]

theorem length_of_newPoints? {count : ℕ}
    (hnew : newPoints? viewport physics source count state = some (points, last)) :
    points.length = count := by
  induction count generalizing state points with
  | zero =>
    cases hnew
    rfl
  | succ count ih =>
    obtain ⟨point, next, rest, -, hrest, rfl⟩ := newPoints?_succ_iff.1 hnew
    rw [List.length_cons, ih hrest]

theorem isSome_newPoints?_iff (viewport : Viewport) (physics : Physics) (source : WordSource S)
    (count : ℕ) (state : S) :
    (newPoints? viewport physics source count state).isSome = true ↔
      count = 0 ∨ physics.SpreadFits := by
  induction count generalizing state with
  | zero => exact iff_of_true rfl (.inl rfl)
  | succ count ih =>
    have hfirst := isSome_newPoint?_iff viewport physics source state
    rw [newPoints?]
    cases hpoint : newPoint? viewport physics source state with
    | none =>
      rw [hpoint] at hfirst
      simpa using hfirst
    | some drawn =>
      rw [hpoint] at hfirst
      have hfits := hfirst.1 rfl
      rw [Option.bind_some, Option.isSome_map, ih]
      exact iff_of_true (.inr hfits) (.inr hfits)

theorem placeAll?_eq_some_iff :
    placeAll? viewport physics source saved state = some (points, last) ↔
      ∃ fresh, newPoints? viewport physics source (saved.count none) state = some (fresh, last) ∧
        Fills saved fresh points := by
  constructor
  · intro hplaced
    induction saved generalizing state points with
    | nil =>
      cases hplaced
      exact ⟨[], rfl, .nil⟩
    | cons head saved ih =>
      obtain ⟨point, next, rest, hpoint, hrest, rfl⟩ := placeAll?_cons_iff.1 hplaced
      obtain ⟨fresh, hnew, hfills⟩ := ih hrest
      cases head with
      | some position =>
        cases hpoint
        rw [List.count_cons_of_ne (by simp)]
        exact ⟨fresh, hnew, .saved point hfills⟩
      | none =>
        rw [List.count_cons_self]
        exact ⟨point :: fresh, newPoints?_succ_iff.2 ⟨point, next, fresh, hpoint, hnew, rfl⟩,
          .fresh point hfills⟩
  · rintro ⟨fresh, hnew, hfills⟩
    induction hfills generalizing state with
    | nil =>
      cases hnew
      rfl
    | saved point hrest ih =>
      rw [List.count_cons_of_ne (by simp)] at hnew
      exact placeAll?_cons_iff.2 ⟨point, state, _, rfl, ih hnew, rfl⟩
    | fresh point hrest ih =>
      rw [List.count_cons_self] at hnew
      obtain ⟨first, next, rest, hpoint, hnew, hpoints⟩ := newPoints?_succ_iff.1 hnew
      cases hpoints
      exact placeAll?_cons_iff.2 ⟨point, next, _, hpoint, ih hnew, rfl⟩

theorem isSome_placeAll?_iff (viewport : Viewport) (physics : Physics) (source : WordSource S)
    (saved : List (Option Point)) (state : S) :
    (placeAll? viewport physics source saved state).isSome = true ↔
      none ∉ saved ∨ physics.SpreadFits := by
  rw [← List.count_eq_zero, ← isSome_newPoints?_iff viewport physics source _ state,
    Option.isSome_iff_exists, Option.isSome_iff_exists]
  constructor
  · rintro ⟨⟨points, last⟩, hplaced⟩
    obtain ⟨fresh, hnew, -⟩ := placeAll?_eq_some_iff.1 hplaced
    exact ⟨_, hnew⟩
  · rintro ⟨⟨fresh, last⟩, hnew⟩
    obtain ⟨points, hfills⟩ := exists_fills saved fresh (length_of_newPoints? hnew)
    exact ⟨_, placeAll?_eq_some_iff.2 ⟨fresh, hnew, hfills⟩⟩

end Placing

/-- **Saved positions stay, and disturb nothing.** Cards are placed unless one of them needs a new
point and the spread is too wide. Saved positions are kept as they are, and the other cards take,
in order, the points that the source gives for them alone, up to the same last state. So any other
list with as many cards to place has the same point for each of them, by their order, and leaves the
source in the same state. Coordinates are the same when their bits are, but for NaN, which is one
number here. -/
theorem saved_points_stay (viewport : Viewport) (physics : Physics) (source : WordSource S)
    (saved : List (Option Point)) (state : S) :
    ((placeAll? viewport physics source saved state).isSome = true ↔
      none ∉ saved ∨ physics.SpreadFits) ∧
    ∀ points last, placeAll? viewport physics source saved state = some (points, last) →
      (∃ fresh,
        newPoints? viewport physics source (saved.count none) state = some (fresh, last) ∧
        points.length = saved.length ∧
        (∀ (i : ℕ) (point : Point), saved[i]? = some (some point) → points[i]? = some point) ∧
        ∀ i : ℕ, saved[i]? = some none → points[i]? = fresh[(saved.take i).count none]?) ∧
      ∀ others : List (Option Point), others.count none = saved.count none →
        ∃ points', placeAll? viewport physics source others state = some (points', last) ∧
          ∀ i j : ℕ, saved[i]? = some none → others[j]? = some none →
            (saved.take i).count none = (others.take j).count none → points[i]? = points'[j]? := by
  refine ⟨isSome_placeAll?_iff viewport physics source saved state, fun points last hplaced => ?_⟩
  obtain ⟨fresh, hnew, hfills⟩ := placeAll?_eq_some_iff.1 hplaced
  refine ⟨⟨fresh, hnew, hfills.length_eq, fun i point => hfills.getElem?_of_saved,
    fun i => hfills.getElem?_of_none⟩, fun others hcount => ?_⟩
  rw [← hcount] at hnew
  obtain ⟨points', hfills'⟩ := exists_fills others fresh (length_of_newPoints? hnew)
  refine ⟨points', placeAll?_eq_some_iff.2 ⟨fresh, hnew, hfills'⟩, fun i j hi hj hbefore => ?_⟩
  rw [hfills.getElem?_of_none hi, hfills'.getElem?_of_none hj, hbefore]

end NoteCards.Placement

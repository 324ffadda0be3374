import NoteCards.Query.Term
import NoteCards.Text.Blank

/-!
# Tokens of a query line

A token is an optional minus sign, an optional scope mark in any letter case, and a body: the text
between two quotes, or the text up to the next blank. A quote that is never closed takes the rest
of the line with it and leaves no token.

Reading a token takes at least one character off a text that starts with no blank
(`length_scan?_lt`), which is why reading all tokens of a line ends.
-/

namespace NoteCards

open NoteCards.Text

inductive Body where
  | quoted (inside : List Char)
  | bare (word : List Char)
  deriving DecidableEq, Repr

structure Token where
  negated : Bool
  scope : Scope
  body : Body
  deriving DecidableEq, Repr

namespace Token

/-- The text after a minus sign at its start, and whether there is one. -/
def splitSign : List Char → Bool × List Char
  | '-' :: rest => (true, rest)
  | s => (false, s)

/-- The text after a mark at its start, whose letters may have any case. -/
def afterMark? : (mark s : List Char) → Option (List Char)
  | [], s => some s
  | _ :: _, [] => none
  | m :: mark, c :: s => if c.toLower = m then afterMark? mark s else none

/-- The scope that a mark at the start of the text selects, and the text after the mark. -/
def splitScope (s : List Char) : Scope × List Char :=
  match afterMark? Scope.tag.mark s with
  | some rest => (.tag, rest)
  | none =>
    match afterMark? Scope.path.mark s with
    | some rest => (.path, rest)
    | none => (.text, s)

/-- The text before the first quote and the text after it. -/
def splitQuote? : List Char → Option (List Char × List Char)
  | [] => none
  | c :: rest =>
    if c = '"' then some ([], rest)
    else (splitQuote? rest).map fun (inside, after) => (c :: inside, after)

/-- The word at the start of the text, up to the first blank, and the text from there on. -/
def splitWord (s : List Char) : List Char × List Char :=
  (s.takeWhile (!isBlank ·), s.dropWhile (!isBlank ·))

/-- The body at the start of the text and what follows it; none if a quote stays open. -/
def scanBody? : List Char → Option (Body × List Char)
  | '"' :: rest => (splitQuote? rest).map fun (inside, after) => (.quoted inside, after)
  | s => some (.bare (splitWord s).1, (splitWord s).2)

/-- The token at the start of the text and what follows it; none if a quote stays open. -/
def scan? (s : List Char) : Option (Token × List Char) :=
  let (negated, signed) := splitSign s
  let (scope, marked) := splitScope signed
  (scanBody? marked).map fun (body, rest) => (⟨negated, scope, body⟩, rest)

/-! ### Every token takes something off the text -/

theorem length_splitSign_le (s : List Char) : (splitSign s).2.length ≤ s.length := by
  unfold splitSign
  split <;> simp

theorem length_afterMark?_lt {mark s rest : List Char} (found : afterMark? mark s = some rest)
    (marked : mark ≠ []) : rest.length < s.length := by
  induction mark generalizing s with
  | nil => exact absurd rfl marked
  | cons m mark ih =>
    cases s with
    | nil => simp [afterMark?] at found
    | cons c s =>
      simp only [afterMark?] at found
      split at found
      · by_cases last : mark = []
        · subst last
          simp only [afterMark?, Option.some.injEq] at found
          simp [found]
        · exact Nat.lt_succ_of_lt (ih found last)
      · contradiction

theorem splitScope_eq_or_lt (s : List Char) :
    splitScope s = (.text, s) ∨ (splitScope s).2.length < s.length := by
  unfold splitScope
  split
  · next found => exact .inr (length_afterMark?_lt found (by decide))
  · split
    · next found => exact .inr (length_afterMark?_lt found (by decide))
    · exact .inl rfl

theorem length_splitQuote?_lt {s inside rest : List Char}
    (found : splitQuote? s = some (inside, rest)) : rest.length < s.length := by
  induction s generalizing inside with
  | nil => simp [splitQuote?] at found
  | cons c s ih =>
    simp only [splitQuote?] at found
    split at found
    · simp only [Option.some.injEq, Prod.mk.injEq] at found
      simp [found.2]
    · obtain ⟨⟨inside', rest'⟩, found', eq⟩ := Option.map_eq_some_iff.1 found
      cases eq
      exact Nat.lt_succ_of_lt (ih found')

theorem length_dropWhile_le (p : Char → Bool) (s : List Char) :
    (s.dropWhile p).length ≤ s.length :=
  (List.dropWhile_sublist p).length_le

/-- A body takes nothing off the text only where the text is empty or starts with a blank. -/
theorem length_scanBody?_lt {s rest : List Char} {body : Body}
    (found : scanBody? s = some (body, rest)) :
    rest.length < s.length ∨ rest = s ∧ ∀ c ∈ s.head?, isBlank c = true := by
  unfold scanBody? at found
  split at found
  · next s =>
    obtain ⟨⟨inside, after⟩, found', eq⟩ := Option.map_eq_some_iff.1 found
    cases eq
    exact .inl (Nat.lt_succ_of_lt (length_splitQuote?_lt found'))
  · simp only [Option.some.injEq, Prod.mk.injEq] at found
    obtain ⟨-, rfl⟩ := found
    cases s with
    | nil => exact .inr ⟨rfl, by simp⟩
    | cons c s =>
      by_cases blank : isBlank c = true
      · exact .inr ⟨by simp [splitWord, blank], by simp [blank]⟩
      · refine .inl ?_
        have := length_dropWhile_le (!isBlank ·) s
        simp only [splitWord, List.dropWhile_cons, blank, List.length_cons]
        simpa using Nat.lt_succ_of_le this

theorem length_scan?_lt {s rest : List Char} {token : Token} (found : scan? s = some (token, rest))
    (start : ∀ c ∈ s.head?, isBlank c = false) (nonempty : s ≠ []) : rest.length < s.length := by
  simp only [scan?] at found
  obtain ⟨⟨body, after⟩, found', eq⟩ := Option.map_eq_some_iff.1 found
  cases eq
  have signed := length_splitSign_le s
  rcases splitScope_eq_or_lt (splitSign s).2 with marked | marked
  · rw [marked] at found'
    rcases length_scanBody?_lt found' with shorter | ⟨rfl, blank⟩
    · exact Nat.lt_of_lt_of_le shorter signed
    · cases s with
      | nil => exact absurd rfl nonempty
      | cons c s =>
        by_cases minus : c = '-'
        · subst minus
          simp [splitSign]
        · have same : splitSign (c :: s) = (false, c :: s) := by
            unfold splitSign
            split
            · next eq => exact absurd (List.cons.inj eq).1 minus
            · rfl
          rw [same] at blank
          have := blank c (by simp)
          simp [start c (by simp)] at this
  · have taken : after.length ≤ (splitScope (splitSign s).2).2.length := by
      rcases length_scanBody?_lt found' with shorter | ⟨rfl, -⟩
      · exact Nat.le_of_lt shorter
      · exact Nat.le_refl _
    change after.length < s.length
    omega

end Token

/-- A query line cut into tokens, and whether a quote stays open at its end. -/
structure TokenLine where
  tokens : List Token
  openQuote : Bool
  deriving DecidableEq, Repr

namespace TokenLine

def ofChars (s : List Char) : TokenLine :=
  match _start : trimStart s with
  | [] => ⟨[], false⟩
  | c :: text =>
    match _found : Token.scan? (c :: text) with
    | none => ⟨[], true⟩
    | some (token, rest) =>
      let line := ofChars rest
      ⟨token :: line.tokens, line.openQuote⟩
termination_by s.length
decreasing_by
  have shorter := Token.length_scan?_lt _found
    (by
      intro d first
      cases Option.some.inj first
      have := List.head?_dropWhile_not isBlank s
      rw [show s.dropWhile isBlank = c :: text from _start] at this
      exact this)
    (by simp)
  have := Token.length_dropWhile_le isBlank s
  rw [← _start] at shorter
  exact Nat.lt_of_lt_of_le shorter this

end TokenLine

end NoteCards

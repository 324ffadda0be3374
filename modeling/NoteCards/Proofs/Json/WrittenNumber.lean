import NoteCards.Proofs.Binary64.Shortest
import NoteCards.Proofs.Json.Numeral

/-!
# Numbers as they are written

A finite number is written as a numeral (`exists_numeral`), and reading the numeral takes its digits
as a whole number again. These are the digits of the shortest decimal, to which a whole number in
positional notation adds the zeros up to its point and one behind it (`writtenDecimal`).
-/

namespace NoteCards.Json

open NoteCards.Text NoteCards.Binary64

section Digits

variable {n : Nat}

theorem isDigit_of_mem_toDigits {c : Char} (hc : c ∈ Nat.toDigits 10 n) : c.isDigit = true :=
  Nat.isDigit_of_mem_toDigits (by decide) (by decide) hc

theorem head?_toDigits_ne (hn : 0 < n) : (Nat.toDigits 10 n).head? ≠ some '0' := by
  induction n using Nat.strongRecOn with
  | ind n ih =>
    by_cases hsingle : n < 10
    · rw [Nat.toDigits_of_lt_base hsingle, List.head?_cons, ne_eq, Option.some.injEq,
        Nat.digitChar_eq_zero]
      omega
    · rw [Nat.toDigits_of_base_le (by decide) (by omega),
        List.head?_append_of_ne_nil _ Nat.toDigits_ne_nil]
      exact ih (n / 10) (by omega) (by omega)

theorem lt_pow_length_toDigits (n : Nat) : n < 10 ^ (Nat.toDigits 10 n).length :=
  (Nat.length_toDigits_le_iff (by decide) Nat.length_toDigits_pos).1 le_rfl

end Digits

/-- The decimal of a number as its text gives it. -/
def writtenDecimal (rank : Nat) : Decimal :=
  let decimal : Decimal := if rank = 0 then ⟨0, 0⟩ else shortest .even rank
  let leading := decimal.exponent + (Nat.toDigits 10 decimal.digits).length - 1
  if 0 ≤ decimal.exponent ∧ (rank = 0 ∨ leading < 16) then
    ⟨decimal.digits * 10 ^ (decimal.exponent.toNat + 1), -1⟩
  else decimal

/-- The text is a numeral that reads as a decimal. -/
def Spells (s : List Char) (decimal : Decimal) : Prop :=
  ∃ text : NumberText, text.negative = false ∧ text.WellFormed ∧ text.unsignedText = s ∧
    (text.fraction.isSome || text.exponent.isSome) = true ∧
    Nat.ofDigitChars 10 text.digits 0 = decimal.digits ∧ text.scaling = decimal.exponent ∧
    ∀ negative digits, text.exponent = some (negative, digits) →
      ofDigits 10 digits ≤ greatestExponent

section Spelling

variable {n : Nat} {exponent : Int}

theorem spells_whole (hfirst : 0 < n ∨ exponent = 0) (hexponent : 0 ≤ exponent) :
    Spells (Layout.positionally true (Nat.toDigits 10 n) exponent)
      ⟨n * 10 ^ (exponent.toNat + 1), -1⟩ := by
  have hdigits : ∀ c ∈ Nat.toDigits 10 n ++ List.replicate exponent.toNat '0',
      c.isDigit = true := by
    intro c hc
    rcases List.mem_append.1 hc with hmem | hmem
    · exact isDigit_of_mem_toDigits hmem
    · rw [List.eq_of_mem_replicate hmem]
      decide
  refine ⟨⟨false, Nat.toDigits 10 n ++ List.replicate exponent.toNat '0', some ['0'], none⟩, rfl,
    ⟨⟨by simp, hdigits⟩, ?_, ?_, nofun⟩, ?_, rfl, ?_, rfl, nofun⟩
  · intro hzero
    rw [List.head?_append_of_ne_nil _ Nat.toDigits_ne_nil] at hzero
    rcases hfirst with hn | rfl
    · exact absurd hzero (head?_toDigits_ne hn)
    · have hn : n = 0 := Nat.eq_zero_of_not_pos fun hn => head?_toDigits_ne hn hzero
      rw [hn]
      rfl
  · rintro digits ⟨⟩
    exact ⟨by simp, by simp⟩
  · rw [Layout.positionally, if_pos hexponent]
    rfl
  · change Nat.ofDigitChars 10 ((Nat.toDigits 10 n ++ _) ++ ['0']) 0 = _
    rw [Nat.ofDigitChars_append, Nat.ofDigitChars_append, Nat.ofDigitChars_ten_toDigits,
      Nat.ofDigitChars_replicate_zero, Nat.ofDigitChars_cons, Nat.ofDigitChars_nil, Nat.sub_self,
      Nat.add_zero, pow_succ]
    ring

/-- The point stands between the digits of a number. -/
theorem spells_parts {whole fraction : List Char} (hn : 0 < n)
    (hparts : whole ++ fraction = Nat.toDigits 10 n) (hwhole : whole ≠ [])
    (hfraction : fraction ≠ []) (hplaces : exponent = -fraction.length) :
    Spells (whole ++ '.' :: fraction) ⟨n, exponent⟩ := by
  have hdigits : ∀ c ∈ whole ++ fraction, c.isDigit = true := by
    rw [hparts]
    exact fun c hc => isDigit_of_mem_toDigits hc
  refine ⟨⟨false, whole, some fraction, none⟩, rfl,
    ⟨⟨hwhole, fun c hc => hdigits c (List.mem_append_left _ hc)⟩, fun hzero => ?_, ?_, nofun⟩,
    ?_, rfl, ?_, ?_, nofun⟩
  · rw [← List.head?_append_of_ne_nil _ hwhole, hparts] at hzero
    exact absurd hzero (head?_toDigits_ne hn)
  · rintro digits ⟨⟩
    exact ⟨hfraction, fun c hc => hdigits c (List.mem_append_right _ hc)⟩
  · change whole ++ ('.' :: fraction ++ []) = _
    rw [List.append_nil]
  · change Nat.ofDigitChars 10 (whole ++ fraction) 0 = n
    rw [hparts, Nat.ofDigitChars_ten_toDigits]
  · change (0 : Int) - fraction.length = exponent
    omega

/-- The point stands before the digits of a number, with zeros between them. -/
theorem spells_zeros (zeros : Nat)
    (hplaces : exponent = -((zeros + (Nat.toDigits 10 n).length : Nat) : Int)) :
    Spells ('0' :: '.' :: (List.replicate zeros '0' ++ Nat.toDigits 10 n)) ⟨n, exponent⟩ := by
  have hdigits : ∀ c ∈ List.replicate zeros '0' ++ Nat.toDigits 10 n, c.isDigit = true := by
    intro c hc
    rcases List.mem_append.1 hc with hmem | hmem
    · rw [List.eq_of_mem_replicate hmem]
      decide
    · exact isDigit_of_mem_toDigits hmem
  refine ⟨⟨false, ['0'], some (List.replicate zeros '0' ++ Nat.toDigits 10 n), none⟩, rfl,
    ⟨⟨by simp, by simp⟩, fun _ => rfl, ?_, nofun⟩, ?_, rfl, ?_, ?_, nofun⟩
  · rintro digits ⟨⟩
    exact ⟨by simp, hdigits⟩
  · change ['0'] ++ ('.' :: (List.replicate zeros '0' ++ Nat.toDigits 10 n) ++ []) = _
    rw [List.append_nil]
    rfl
  · change Nat.ofDigitChars 10 ('0' :: (List.replicate zeros '0' ++ Nat.toDigits 10 n)) 0 = n
    rw [Nat.ofDigitChars_cons, Nat.ofDigitChars_append, Nat.ofDigitChars_replicate_zero,
      Nat.sub_self, Nat.mul_zero, Nat.ofDigitChars_ten_toDigits]
  · change (0 : Int) - (List.replicate zeros '0' ++ Nat.toDigits 10 n).length = exponent
    rw [List.length_append, List.length_replicate]
    omega

theorem spells_fraction (hn : 0 < n) (hexponent : exponent < 0) :
    Spells (Layout.positionally true (Nat.toDigits 10 n) exponent) ⟨n, exponent⟩ := by
  rw [Layout.positionally, if_neg (by omega)]
  dsimp only
  split
  · refine spells_parts hn (List.take_append_drop _ _) ?_ ?_ ?_
    · apply List.ne_nil_of_length_pos
      rw [List.length_take]
      omega
    · apply List.ne_nil_of_length_pos
      rw [List.length_drop]
      omega
    · rw [List.length_drop]
      omega
  · exact spells_zeros _ (by omega)

/-- The exponent of a numeral in scientific notation, with its sign. -/
theorem scaling_signed (leading : Int) (places : Nat) :
    (if decide (leading < 0) = true then -(ofDigits 10 (Nat.toDigits 10 leading.natAbs) : Int)
      else ofDigits 10 (Nat.toDigits 10 leading.natAbs)) - places = leading - places := by
  rw [ofDigits_toDigits]
  split
  · next hnegative =>
    have : leading < 0 := of_decide_eq_true hnegative
    omega
  · next hpositive =>
    have : ¬leading < 0 := fun hnegative => hpositive (decide_eq_true hnegative)
    omega

/-- The digits of a numeral after the first one, behind a point if there are any. -/
theorem exists_fraction {more : List Char} (hmore : ∀ c ∈ more, c.isDigit = true) :
    ∃ fraction : Option (List Char), fraction.getD [] = more ∧
      NumberText.fractionText fraction = (if more = [] then [] else '.' :: more) ∧
      ∀ digits, fraction = some digits → digits ≠ [] ∧ ∀ c ∈ digits, c.isDigit = true := by
  by_cases hnone : more = []
  · exact ⟨none, hnone.symm, by rw [if_pos hnone]; rfl, nofun⟩
  · refine ⟨some more, rfl, by rw [if_neg hnone]; rfl, ?_⟩
    rintro digits ⟨⟩
    exact ⟨hnone, hmore⟩

theorem spells_scientific (hn : 0 < n)
    (hsmall : (exponent + (Nat.toDigits 10 n).length - 1).natAbs ≤ greatestExponent) :
    Spells (Layout.scientifically (Nat.toDigits 10 n)
      (exponent + (Nat.toDigits 10 n).length - 1)) ⟨n, exponent⟩ := by
  have hvalue := Nat.ofDigitChars_ten_toDigits (n := n)
  have hhead := head?_toDigits_ne hn
  have hall : ∀ c ∈ Nat.toDigits 10 n, c.isDigit = true := fun c hc => isDigit_of_mem_toDigits hc
  generalize hdigits : Nat.toDigits 10 n = digits at *
  obtain ⟨first, more, rfl⟩ := List.exists_cons_of_ne_nil (hdigits ▸ Nat.toDigits_ne_nil)
  rw [List.length_cons] at hsmall ⊢
  generalize hleading : exponent + ((more.length + 1 : ℕ) : ℤ) - 1 = leading at hsmall ⊢
  obtain ⟨fraction, hmore, htext, hfraction⟩ :=
    exists_fraction fun c hc => hall c (List.mem_cons_of_mem _ hc)
  refine ⟨⟨false, [first], fraction, some (leading < 0, Nat.toDigits 10 leading.natAbs)⟩, rfl,
    ⟨⟨by simp, by simpa using hall first List.mem_cons_self⟩, fun hzero => absurd hzero hhead,
      hfraction, ?_⟩, ?_, ?_, ?_, ?_, ?_⟩
  · rintro negative digits ⟨⟩
    exact ⟨Nat.toDigits_ne_nil, fun c hc => isDigit_of_mem_toDigits hc⟩
  · rw [NumberText.unsignedText, htext]
    simp [NumberText.exponentText, Layout.scientifically]
  · exact Bool.or_true _
  · rw [NumberText.digits, hmore]
    exact hvalue
  · refine (scaling_signed leading (fraction.getD []).length).trans ?_
    rw [hmore]
    dsimp only
    omega
  · rintro negative digits ⟨⟩
    rw [ofDigits_toDigits]
    exact hsmall

end Spelling

/-! ### Ranks -/

section Rank

variable {rank : Nat}

theorem length_toDigits_shortest (hrank : 0 < rank) (htop : rank < topRank) :
    (Nat.toDigits 10 (shortest .even rank).digits).length ≤ 18 := by
  obtain ⟨-, -, hdigits, -⟩ := shortest_spec .even hrank htop
  rw [Nat.length_toDigits_le_iff (by decide) (by decide)]
  exact hdigits.trans_lt (by decide)

/-- The two notations, for a decimal whose leading digit has the exponent `leading`. -/
theorem spells_decimal {decimal : Decimal} {leading : Int} (hpos : 0 < decimal.digits)
    (hleading : leading = decimal.exponent + (Nat.toDigits 10 decimal.digits).length - 1)
    (hsmall : leading.natAbs ≤ greatestExponent) :
    Spells
      (if (decide (-5 ≤ leading) && decide (leading < 16)) = true then
        Layout.positionally true (Nat.toDigits 10 decimal.digits) decimal.exponent
      else Layout.scientifically (Nat.toDigits 10 decimal.digits) leading)
      (if 0 ≤ decimal.exponent ∧ leading < 16 then
        ⟨decimal.digits * 10 ^ (decimal.exponent.toNat + 1), -1⟩
      else decimal) := by
  have hlength : 0 < (Nat.toDigits 10 decimal.digits).length := Nat.length_toDigits_pos
  by_cases hinside : -5 ≤ leading ∧ leading < 16
  · rw [if_pos (by simpa using hinside)]
    by_cases hwhole : 0 ≤ decimal.exponent
    · rw [if_pos ⟨hwhole, hinside.2⟩]
      exact spells_whole (.inl hpos) hwhole
    · rw [if_neg fun hboth => hwhole hboth.1]
      exact spells_fraction hpos (not_le.1 hwhole)
  · rw [if_neg (by simpa using hinside), if_neg fun hboth => hinside ⟨by omega, hboth.2⟩]
    subst hleading
    exact spells_scientific hpos hsmall

theorem spells_writeRank (htop : rank < topRank) :
    Spells (numberLayout.writeRank rank) (writtenDecimal rank) := by
  have hlayout : numberLayout = ⟨some (-5, 16), true, .even⟩ := rfl
  rw [Layout.writeRank, writtenDecimal, hlayout]
  by_cases hzero : rank = 0
  · rw [if_pos hzero]
    simp only [hzero, decide_true, Bool.true_or, if_true, true_or, le_refl, and_self]
    exact spells_whole (n := 0) (.inr rfl) le_rfl
  · obtain ⟨-, hpos, -, hlow, hhigh⟩ := shortest_spec .even (Nat.pos_of_ne_zero hzero) htop
    have hlength := length_toDigits_shortest (Nat.pos_of_ne_zero hzero) htop
    have hgreatest : 1000 ≤ greatestExponent := by decide
    rw [if_neg hzero]
    dsimp only
    generalize shortest .even rank = decimal at *
    simp only [hzero, decide_false, Bool.false_or, false_or]
    exact spells_decimal hpos rfl (by omega)

/-- The digits that are written fit into 64 bits. -/
theorem digits_writtenDecimal_lt (htop : rank < topRank) :
    (writtenDecimal rank).digits < UInt64.size := by
  have hsize : 10 ^ 17 < UInt64.size := by decide
  rw [writtenDecimal]
  by_cases hzero : rank = 0
  · subst hzero
    decide
  · obtain ⟨-, -, hdigits, -⟩ := shortest_spec .even (Nat.pos_of_ne_zero hzero) htop
    rw [if_neg hzero]
    generalize shortest .even rank = decimal at *
    have hlength := lt_pow_length_toDigits decimal.digits
    split
    · next hwhole =>
      obtain ⟨hexponent, hleading⟩ := hwhole
      have hplaces :
          (Nat.toDigits 10 decimal.digits).length + (decimal.exponent.toNat + 1) ≤ 17 := by omega
      calc decimal.digits * 10 ^ (decimal.exponent.toNat + 1)
          ≤ 10 ^ (Nat.toDigits 10 decimal.digits).length * 10 ^ (decimal.exponent.toNat + 1) :=
            Nat.mul_le_mul_right _ hlength.le
        _ = 10 ^ ((Nat.toDigits 10 decimal.digits).length + (decimal.exponent.toNat + 1)) :=
            (Nat.pow_add ..).symm
        _ ≤ 10 ^ 17 := Nat.pow_le_pow_right (by decide) hplaces
        _ < UInt64.size := hsize
    · omega

end Rank

/-- What a reader makes of the text of a finite number. -/
def reread (negative : Bool) (rank : Nat) : Except Fault Binary64 :=
  (scale (.ofNat (writtenDecimal rank).digits) (writtenDecimal rank).exponent).map (signed negative)

/-- A finite number is written as a numeral. -/
theorem exists_numeral (negative : Bool) (rank : Fin topRank) :
    ∃ text : NumberText, text.negative = negative ∧ text.WellFormed ∧
      writeNumber (.finite negative rank) = NumberText.signText negative ++ text.unsignedText ∧
      text.value = (reread negative rank).map .float := by
  obtain ⟨text, -, htext, hunsigned, hfloat, hdigits, hscaling, hexponent⟩ :=
    spells_writeRank rank.isLt
  -- the sign stands for itself
  have hsigned : ({ text with negative } : NumberText).WellFormed :=
    ⟨htext.whole, htext.leading, htext.fraction, htext.exponent⟩
  refine ⟨{ text with negative }, rfl, hsigned, ?_, ?_⟩
  · change _ = _ ++ text.unsignedText
    rw [hunsigned]
    rfl
  · have hfits : Nat.ofDigitChars 10 ({ text with negative } : NumberText).digits 0 < UInt64.size :=
      hdigits.trans_lt (digits_writtenDecimal_lt rank.isLt)
    have hvalue : ({ text with negative } : NumberText).value = _ := NumberText.value_eq hfloat
    rw [hvalue, NumberText.float?_eq hsigned hfits hexponent, reread, ← hdigits, ← hscaling]
    rfl

end NoteCards.Json

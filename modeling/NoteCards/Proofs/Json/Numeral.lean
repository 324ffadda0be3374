import Mathlib.Data.Nat.Digits.Defs
import NoteCards.Json.Node

/-!
# Numerals

A numeral is scanned back from its text, if what follows cannot be taken for a part of it
(`scanNumber_text`). While its digits fit into 64 bits, all of them count, wherever the point
stands: the number read is the digits as a whole number, rounded, and scaled by the exponent that is
left when the point is moved behind them (`float?_eq`).
-/

namespace NoteCards.Json

open NoteCards.Text

/-! ### Digits -/

section Digits

variable {digits : List Char}

theorem digitValue_of_isDigit {c : Char} (hc : c.isDigit = true) :
    digitValue c = c.toNat - '0'.toNat := by
  rw [digitValue, hexValue?, if_pos hc, Option.getD_some]

theorem foldl_digitValue (hdigits : ∀ c ∈ digits, c.isDigit = true) (start : Nat) :
    digits.foldl (fun value c => 10 * value + digitValue c) start =
      Nat.ofDigitChars 10 digits start := by
  induction digits generalizing start with
  | nil => rw [List.foldl_nil, Nat.ofDigitChars_nil]
  | cons c rest ih =>
    rw [List.foldl_cons, ih fun c hc => hdigits c (List.mem_cons_of_mem _ hc),
      Nat.ofDigitChars_cons, digitValue_of_isDigit (hdigits c List.mem_cons_self)]

theorem ofDigits_toDigits (n : Nat) : ofDigits 10 (Nat.toDigits 10 n) = n := by
  rw [ofDigits, foldl_digitValue fun c hc =>
    Nat.isDigit_of_mem_toDigits (by decide) (by decide) hc, Nat.ofDigitChars_ten_toDigits]

theorem le_ofDigitChars (digits : List Char) (start : Nat) :
    start ≤ Nat.ofDigitChars 10 digits start := by
  rw [Nat.ofDigitChars_eq_ofDigitChars_zero]
  exact (Nat.le_mul_of_pos_left start (Nat.pow_pos (by decide))).trans (Nat.le_add_right _ _)

theorem absorb_eq (hdigits : ∀ c ∈ digits, c.isDigit = true) {start : Nat}
    (hfits : Nat.ofDigitChars 10 digits start < UInt64.size) :
    absorb start digits = (Nat.ofDigitChars 10 digits start, digits.length, 0) := by
  induction digits generalizing start with
  | nil => rw [absorb, Nat.ofDigitChars_nil, List.length_nil]
  | cons c rest ih =>
    rw [Nat.ofDigitChars_cons, ← digitValue_of_isDigit (hdigits c List.mem_cons_self)] at hfits ⊢
    have hnext : ¬UInt64.size ≤ 10 * start + digitValue c :=
      not_le.2 ((le_ofDigitChars rest _).trans_lt hfits)
    rw [absorb, if_neg hnext, ih (fun c hc => hdigits c (List.mem_cons_of_mem _ hc)) hfits,
      List.length_cons]

end Digits

/-! ### Scanning -/

theorem ofChars_append (s t : List Char) :
    Source.ofChars (s ++ t) = Source.ofChars s ++ Source.ofChars t :=
  List.map_append

theorem ofChars_cons_append (c : Char) (s : List Char) (rest : Source) :
    Source.ofChars (c :: s) ++ rest = some c :: (Source.ofChars s ++ rest) :=
  rfl

theorem ofChars_append_append (s t : List Char) (rest : Source) :
    Source.ofChars (s ++ t) ++ rest = Source.ofChars s ++ (Source.ofChars t ++ rest) := by
  rw [ofChars_append, List.append_assoc]

/-- The text goes on with nothing that could be a part of a numeral. -/
def EndsNumeral (rest : Source) : Prop :=
  ∀ c, rest.head? = some (some c) → c.isDigit = false ∧ c ≠ '.' ∧ c ≠ 'e' ∧ c ≠ 'E'

theorem endsNumeral_nil : EndsNumeral [] := nofun

theorem endsNumeral_cons {c : Char} (hc : c.isDigit = false ∧ c ≠ '.' ∧ c ≠ 'e' ∧ c ≠ 'E')
    (rest : Source) : EndsNumeral (some c :: rest) := by
  rintro first ⟨⟩
  exact hc

theorem splitDigits_append {digits : List Char} (hdigits : ∀ c ∈ digits, c.isDigit = true)
    {rest : Source} (hrest : ∀ c, rest.head? = some (some c) → c.isDigit = false) :
    splitDigits (Source.ofChars digits ++ rest) = (digits, rest) := by
  induction digits with
  | nil =>
    match rest with
    | [] => rfl
    | none :: rest => rfl
    | some c :: rest =>
      change splitDigits (some c :: rest) = _
      rw [splitDigits, hrest c rfl]
      rfl
  | cons c digits ih =>
    change splitDigits (some c :: (Source.ofChars digits ++ rest)) = _
    rw [splitDigits, if_pos (hdigits c List.mem_cons_self),
      ih fun c hc => hdigits c (List.mem_cons_of_mem _ hc)]

namespace NumberText

def fractionText : Option (List Char) → List Char
  | none => []
  | some digits => '.' :: digits

def exponentText : Option (Bool × List Char) → List Char
  | none => []
  | some (negative, digits) => 'e' :: (if negative then '-' else '+') :: digits

/-- The numeral without its sign. -/
def unsignedText (text : NumberText) : List Char :=
  text.whole ++ (fractionText text.fraction ++ exponentText text.exponent)

def signText (negative : Bool) : List Char :=
  if negative then ['-'] else []

/-- The forms of an exponent: the letter in either case, and a plus sign or none where it is not
negative. -/
inductive ExponentWrittenAs : Option (Bool × List Char) → List Char → Prop
  | none : ExponentWrittenAs none []
  | some {letter : Char} {sign digits : List Char} {negative : Bool}
      (hletter : letter ∈ ['e', 'E'])
      (hsign : (sign, negative) ∈ [([], false), (['+'], false), (['-'], true)]) :
      ExponentWrittenAs (some (negative, digits)) (letter :: (sign ++ digits))

/-- The parts of the numeral are digits, and the whole part has no zero too many. -/
structure WellFormed (text : NumberText) : Prop where
  whole : text.whole ≠ [] ∧ ∀ c ∈ text.whole, c.isDigit = true
  leading : text.whole.head? = some '0' → text.whole = ['0']
  fraction : ∀ digits, text.fraction = some digits →
    digits ≠ [] ∧ ∀ c ∈ digits, c.isDigit = true
  exponent : ∀ negative digits, text.exponent = some (negative, digits) →
    digits ≠ [] ∧ ∀ c ∈ digits, c.isDigit = true

end NumberText

/-- The numeral is written in this way. -/
structure NumberText.WrittenAs (text : NumberText) (s : List Char) : Prop where
  wellFormed : text.WellFormed
  spelled : ∃ exponent, NumberText.ExponentWrittenAs text.exponent exponent ∧
    s = NumberText.signText text.negative ++
      (text.whole ++ (NumberText.fractionText text.fraction ++ exponent))

theorem NumberText.exponentWrittenAs_text (exponent : Option (Bool × List Char)) :
    ExponentWrittenAs exponent (exponentText exponent) := by
  match exponent with
  | .none => exact .none
  | .some (true, digits) => exact .some (by decide) (by decide : (['-'], true) ∈ _)
  | .some (false, digits) => exact .some (by decide) (by decide : (['+'], false) ∈ _)

theorem NumberText.WellFormed.writtenAs {text : NumberText} (htext : text.WellFormed) :
    text.WrittenAs (signText text.negative ++ text.unsignedText) :=
  ⟨htext, _, exponentWrittenAs_text text.exponent, rfl⟩

section Scan

variable {text : NumberText} {exponent : List Char} {rest : Source}

theorem scanExponent_text (hexponent : ∀ negative digits, text.exponent = some (negative, digits) →
      digits ≠ [] ∧ ∀ c ∈ digits, c.isDigit = true)
    (hwritten : NumberText.ExponentWrittenAs text.exponent exponent) (hrest : EndsNumeral rest) :
    scanExponent { text with exponent := none } (Source.ofChars exponent ++ rest) =
      .number text rest := by
  obtain ⟨negative, whole, fraction, parts⟩ := text
  dsimp only at hexponent hwritten ⊢
  cases hwritten with
  | none =>
    rcases rest with _ | ⟨_ | c, rest⟩
    · rfl
    · rfl
    · obtain ⟨-, -, he, hE⟩ := hrest c rfl
      change scanExponent _ (some c :: rest) = _
      simp [scanExponent, he, hE]
  | @some letter sign digits minus hletter hsign =>
    obtain ⟨hne, hdigits⟩ := hexponent minus digits rfl
    obtain ⟨digit, more, rfl⟩ := List.exists_cons_of_ne_nil hne
    have hsplit := splitDigits_append hdigits fun c hc => (hrest c hc).1
    have hfirst : digit ≠ '+' ∧ digit ≠ '-' := by
      constructor
      · rintro rfl
        exact absurd (hdigits '+' List.mem_cons_self) (by decide)
      · rintro rfl
        exact absurd (hdigits '-' List.mem_cons_self) (by decide)
    have hmark : (letter = 'e' || letter = 'E') = true := by simpa using hletter
    simp only [List.mem_cons, Prod.mk.injEq, List.not_mem_nil, or_false] at hsign
    rcases hsign with ⟨rfl, rfl⟩ | ⟨rfl, rfl⟩ | ⟨rfl, rfl⟩
    · change scanExponent _ (some letter :: (Source.ofChars (digit :: more) ++ rest)) = _
      rw [ofChars_cons_append] at hsplit ⊢
      simp [scanExponent, hmark, hsplit, hfirst]
    · change scanExponent _ (some letter :: some '+' ::
        (Source.ofChars (digit :: more) ++ rest)) = _
      simp [scanExponent, hmark, hsplit]
    · change scanExponent _ (some letter :: some '-' ::
        (Source.ofChars (digit :: more) ++ rest)) = _
      simp [scanExponent, hmark, hsplit]

theorem scanFraction_of_head?_ne {number : NumberText} {s : Source}
    (hs : s.head? ≠ some (some '.')) : scanFraction number s = scanExponent number s := by
  rw [scanFraction]
  rintro after rfl
  exact hs rfl

theorem head?_exponent {parts : Option (Bool × List Char)}
    (hwritten : NumberText.ExponentWrittenAs parts exponent) (hrest : EndsNumeral rest) (c : Char)
    (hc : (Source.ofChars exponent ++ rest).head? = some (some c)) :
    c.isDigit = false ∧ c ≠ '.' := by
  cases hwritten with
  | none =>
    obtain ⟨hdigit, hpoint, -⟩ := hrest c hc
    exact ⟨hdigit, hpoint⟩
  | some hletter _ =>
    cases hc
    simp only [List.mem_cons, List.not_mem_nil, or_false] at hletter
    rcases hletter with rfl | rfl <;> decide

theorem scanFraction_text (htext : text.WellFormed)
    (hwritten : NumberText.ExponentWrittenAs text.exponent exponent) (hrest : EndsNumeral rest) :
    scanFraction { text with fraction := none, exponent := none }
        (Source.ofChars (NumberText.fractionText text.fraction) ++
          (Source.ofChars exponent ++ rest)) =
      .number text rest := by
  have hexponent := scanExponent_text htext.exponent hwritten hrest
  have hhead := head?_exponent hwritten hrest
  obtain ⟨negative, whole, fraction, parts⟩ := text
  dsimp only at hexponent hhead ⊢
  cases fraction with
  | none =>
    refine (scanFraction_of_head?_ne fun hpoint => ?_).trans hexponent
    exact (hhead '.' hpoint).2 rfl
  | some digits =>
    obtain ⟨hne, hdigits⟩ := htext.fraction digits rfl
    obtain ⟨digit, more, rfl⟩ := List.exists_cons_of_ne_nil hne
    have hsplit := splitDigits_append hdigits fun c hc => (hhead c hc).1
    change scanFraction _ (some '.' :: (Source.ofChars (digit :: more) ++ _)) = _
    rw [scanFraction, hsplit]
    exact hexponent

theorem head?_fractionText (fraction : Option (List Char)) {s : Source}
    (hs : ∀ c, s.head? = some (some c) → c.isDigit = false) {c : Char}
    (hc : (Source.ofChars (NumberText.fractionText fraction) ++ s).head? = some (some c)) :
    c.isDigit = false := by
  match fraction with
  | none => exact hs c hc
  | some digits =>
    cases hc
    decide

theorem scanNumber_text (htext : text.WellFormed)
    (hwritten : NumberText.ExponentWrittenAs text.exponent exponent) (hrest : EndsNumeral rest) :
    scanNumber text.negative (Source.ofChars (text.whole ++
      (NumberText.fractionText text.fraction ++ exponent)) ++ rest) = .number text rest := by
  have hfraction := scanFraction_text htext hwritten hrest
  obtain ⟨hne, hdigits⟩ := htext.whole
  have hsplit := splitDigits_append hdigits fun c hc =>
    head?_fractionText text.fraction (fun c hc => (head?_exponent hwritten hrest c hc).1) hc
  have hleading := htext.leading
  rw [ofChars_append_append, ofChars_append_append, scanNumber, hsplit]
  split
  · next hnone =>
    exact absurd (Prod.mk.inj hnone).1 hne
  · next hzero =>
    have hwhole := (Prod.mk.inj hzero).1
    rw [hwhole] at hleading
    exact nomatch hleading rfl
  · next hparts =>
    obtain ⟨rfl, rfl⟩ := Prod.mk.inj hparts
    exact hfraction

end Scan

/-! ### Values -/

namespace NumberText

/-- The digits before and after the point. -/
def digits (text : NumberText) : List Char :=
  text.whole ++ text.fraction.getD []

/-- The exponent of the digits as a whole number. -/
def scaling (text : NumberText) : Int :=
  (match text.exponent with
    | none => 0
    | some (negative, digits) => if negative then -ofDigits 10 digits else ofDigits 10 digits) -
  (text.fraction.getD []).length

variable {text : NumberText}

theorem WellFormed.isDigit_fraction (htext : text.WellFormed) :
    ∀ c ∈ text.fraction.getD [], c.isDigit = true := by
  cases hfraction : text.fraction with
  | none => exact nofun
  | some digits => exact (htext.fraction digits hfraction).2

/-- All digits count while they fit into 64 bits. -/
theorem float?_eq (htext : text.WellFormed)
    (hfits : Nat.ofDigitChars 10 text.digits 0 < UInt64.size)
    (hexponent : ∀ negative digits, text.exponent = some (negative, digits) →
      ofDigits 10 digits ≤ greatestExponent) :
    text.float? = (scale (.ofNat (Nat.ofDigitChars 10 text.digits 0)) text.scaling).map
      (signed text.negative) := by
  have hall := Nat.ofDigitChars_append (b := 10) (l := text.whole) (m := text.fraction.getD []) 0
  rw [digits, hall] at hfits ⊢
  have hwhole := absorb_eq htext.whole.2 ((le_ofDigitChars _ _).trans_lt hfits)
  have hfraction := absorb_eq htext.isDigit_fraction hfits
  rw [float?, scaling, hwhole]
  dsimp only
  rw [hfraction]
  cases hpart : text.exponent with
  | none => simp only [Nat.cast_zero]
  | some part =>
    obtain ⟨negative, digits⟩ := part
    have hsmall : ¬greatestExponent < ofDigits 10 digits :=
      not_lt.2 (hexponent negative digits hpart)
    simp only [if_neg hsmall]
    refine congrArg (fun shift => (scale _ shift).map _) ?_
    cases negative <;> simp only [Bool.false_eq_true, if_false, if_true] <;> omega

theorem value_eq (hfloat : (text.fraction.isSome || text.exponent.isSome) = true) :
    text.value = text.float?.map .float := by
  rw [value]
  simp [hfloat]

end NumberText

end NoteCards.Json

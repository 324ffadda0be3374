import NoteCards.Proofs.Json.Grammar
import NoteCards.Proofs.Json.WrittenNumber

/-!
# Written strings and numbers

A string is written one character at a time, and each in a way that the grammar has for it
(`writtenAs_chars`). A number is written as a numeral: a whole number as its digits
(`value_integerText`), any other number as the numeral that its decimal is spelled by
(`exists_ofNumber`).
-/

namespace NoteCards.Json

open NoteCards.Text NoteCards.Binary64

/-! ### Strings -/

theorem codeOf?_hexByte {n : Nat} (hn : n < 0x20) :
    codeOf? ('0' :: '0' :: hexByte n) = some n := by
  have hzero : hexValue? '0' = some 0 := by decide
  have hvalue : ∀ k < 16, hexValue? (Nat.digitChar k) = some k := by decide
  rw [hexByte, codeOf?, hzero, hvalue (n / 16) (by omega), hvalue (n % 16) (by omega)]
  simp only [bind, Option.bind_some, pure, Option.some.injEq]
  omega

/-- A control is escaped by its code. -/
theorem StringText.WrittenAs.control {text : StringText} {s : List Char} {c : Char}
    (hcontrol : c.toNat < 0x20) (htext : text.WrittenAs s) :
    WrittenAs { text with chars := c :: text.chars }
      (['\\', 'u', '0', '0'] ++ hexByte c.toNat ++ s) := by
  have hleading : ¬IsLeading c.toNat := fun h => absurd (h.1.trans_lt hcontrol) (by decide)
  have htrailing : ¬IsTrailing c.toNat := fun h => absurd (h.1.trans_lt hcontrol) (by decide)
  have hcode := code (codeOf?_hexByte hcontrol) hleading htrailing htext
  rwa [Char.ofNat_toNat] at hcode

theorem StringText.WrittenAs.writeChar {text : StringText} {s : List Char}
    (htext : text.WrittenAs s) (c : Char) :
    WrittenAs { text with chars := c :: text.chars } (writeChar c ++ s) := by
  rw [Json.writeChar]
  split_ifs with hquote hescape hback htab hline hpage hreturn hcontrol
  · exact .short (by simp [shortEscapes, hquote]) htext
  · exact .short (by simp [shortEscapes, hescape]) htext
  · exact .short (by simp [shortEscapes, hback]) htext
  · exact .short (by simp [shortEscapes, htab]) htext
  · exact .short (by simp [shortEscapes, hline]) htext
  · exact .short (by simp [shortEscapes, hpage]) htext
  · exact .short (by simp [shortEscapes, hreturn]) htext
  · exact .control hcontrol htext
  · exact .plain hquote hescape hcontrol htext

theorem writtenAs_chars (s : List Char) :
    StringText.WrittenAs ⟨s, none⟩ (s.flatMap writeChar) := by
  induction s with
  | nil => exact .nil
  | cons c s ih => exact ih.writeChar c

/-! ### Whole numbers -/

/-- The numeral of a whole number. -/
def integerText (n : Int) : NumberText :=
  ⟨n < 0, Nat.toDigits 10 n.natAbs, none, none⟩

theorem wellFormed_integerText (n : Int) : (integerText n).WellFormed where
  whole := ⟨Nat.toDigits_ne_nil, fun _ hc => isDigit_of_mem_toDigits hc⟩
  leading hzero := by
    have hn : n.natAbs = 0 := Nat.eq_zero_of_not_pos fun hn => head?_toDigits_ne hn hzero
    rw [integerText, hn]
    rfl
  fraction := nofun
  exponent := nofun

theorem toList_toString_int (n : Int) :
    (toString n).toList = NumberText.signText (integerText n).negative ++
      (integerText n).unsignedText := by
  have hunsigned : (integerText n).unsignedText = Nat.toDigits 10 n.natAbs :=
    List.append_nil _
  rw [hunsigned]
  cases n with
  | ofNat n =>
    have hsign : (integerText (.ofNat n)).negative = false :=
      decide_eq_false (not_lt.2 (Int.natCast_nonneg n))
    rw [hsign]
    exact String.toList_ofList
  | negSucc n =>
    have hsign : (integerText (.negSucc n)).negative = true :=
      decide_eq_true (Int.negSucc_lt_zero n)
    rw [hsign]
    change ("-" ++ String.ofList (Nat.toDigits 10 (n + 1))).toList = _
    rw [String.toList_append, String.toList_ofList, String.toList_ofList]
    rfl

/-- A whole number that is not negative is read as it is while it fits into 64 bits. -/
theorem value_integerText {n : Int} (hn : 0 ≤ n) (hfits : n.natAbs < UInt64.size) :
    (integerText n).value = .ok (.integer n) := by
  have hdigits : Nat.ofDigitChars 10 (Nat.toDigits 10 n.natAbs) 0 < UInt64.size := by
    rwa [Nat.ofDigitChars_ten_toDigits]
  have habsorb := absorb_eq (fun c hc => isDigit_of_mem_toDigits hc) hdigits
  have hsign : (integerText n).negative = false := decide_eq_false (not_lt.2 hn)
  have hwhole : (integerText n).whole = Nat.toDigits 10 n.natAbs := rfl
  rw [Nat.ofDigitChars_ten_toDigits] at habsorb
  rw [NumberText.value, hwhole, habsorb, hsign]
  change Except.ok (Number.integer n.natAbs) = _
  rw [Int.natAbs_of_nonneg hn]

/-! ### Numbers -/

/-- The tree of a number: its numeral, or `null` where it has none. -/
def Node.ofNumber (x : Binary64) : Node :=
  (Node.ofSource (.ofChars (writeNumber x))).1

/-- A finite number is written as its numeral. -/
theorem exists_ofNumber (negative : Bool) (rank : Fin topRank) :
    ∃ text : NumberText, Node.ofNumber (.finite negative rank) = .number text ∧
      text.value = (reread negative rank).map .float ∧
      text.WrittenAs (writeNumber (.finite negative rank)) := by
  obtain ⟨text, rfl, htext, hwritten, hvalue⟩ := exists_numeral negative rank
  have hnumeral : text.WrittenAs (writeNumber (.finite text.negative rank)) :=
    hwritten ▸ htext.writtenAs
  obtain ⟨gap, -, hsource⟩ := (Node.WrittenAs.number hnumeral).spaced.ofSource
  exact ⟨text, congrArg Prod.fst hsource, hvalue, hnumeral⟩

theorem writtenAs_writeNumber (x : Binary64) : (Node.ofNumber x).WrittenAs (writeNumber x) := by
  match x with
  | .nan => exact .null
  | .infinite _ => exact .null
  | .finite negative rank =>
    obtain ⟨text, hnode, -, hnumeral⟩ := exists_ofNumber negative rank
    rw [hnode]
    exact .number hnumeral

end NoteCards.Json

import NoteCards.Json.Reader
import NoteCards.Proofs.Json.Numeral

/-!
# The grammar of JSON

`WrittenAs` says which texts stand for a tree: with spaces between all parts, numerals and exponents
in any of their forms, and strings whose characters stand for themselves or are escaped, by a short
escape, by their code or by the codes of two surrogates. A surrogate without its partner is a part
of the grammar too, though no character.

Every text of a tree is scanned as that tree (`Node.WrittenAs.scannedFrom`), whatever follows it,
unless it is a numeral and could go on. The proof goes along the tree, with fuel for twice the
length of the text: a value and the list that holds it may each take a step at the same place. So
whatever reads a text reads its tree (`Node.Spaced.readText`), whichever way the tree is written.
-/

namespace NoteCards.Json

open NoteCards.Text

/-! ### Strings -/

/-- The letters of the short escapes and their characters. -/
def shortEscapes : List (Char × Char) :=
  [('"', '"'), ('\\', '\\'), ('/', '/'), ('b', '\x08'), ('f', '\x0c'), ('n', '\n'), ('r', '\r'),
    ('t', '\t')]

/-- The code that four hexadecimal digits make up. -/
def codeOf? : List Char → Option Nat
  | [first, second, third, fourth] => do
    let a ← hexValue? first
    let b ← hexValue? second
    let c ← hexValue? third
    let d ← hexValue? fourth
    return ((a * 16 + b) * 16 + c) * 16 + d
  | _ => none

def IsLeading (code : Nat) : Prop := 0xD800 ≤ code ∧ code ≤ 0xDBFF

def IsTrailing (code : Nat) : Prop := 0xDC00 ≤ code ∧ code ≤ 0xDFFF

/-- An escape by a code. -/
def codeText (digits : List Char) : List Char :=
  '\\' :: 'u' :: digits

/-- The defect of a leading surrogate, which depends on what stands in the place of its partner. -/
def leadingDefect (s : List Char) : Fault :=
  if ['\\', 'u'].isPrefixOf s then .loneSurrogate else .unfinishedSurrogate

/-- The texts of a string between its quotes. -/
inductive StringText.WrittenAs : StringText → List Char → Prop
  | nil : WrittenAs ⟨[], none⟩ []
  | plain {text : StringText} {s : List Char} {c : Char} (hquote : c ≠ '"') (hescape : c ≠ '\\')
      (hcontrol : ¬c.toNat < 0x20) :
      WrittenAs text s → WrittenAs { text with chars := c :: text.chars } (c :: s)
  | short {text : StringText} {s : List Char} {letter c : Char}
      (hescape : (letter, c) ∈ shortEscapes) :
      WrittenAs text s → WrittenAs { text with chars := c :: text.chars } ('\\' :: letter :: s)
  | code {text : StringText} {s digits : List Char} {code : Nat}
      (hcode : codeOf? digits = some code) (hleading : ¬IsLeading code)
      (htrailing : ¬IsTrailing code) :
      WrittenAs text s →
        WrittenAs { text with chars := Char.ofNat code :: text.chars } (codeText digits ++ s)
  | pair {text : StringText} {s digits partner : List Char} {leading trailing : Nat}
      (hcode : codeOf? digits = some leading) (hleading : IsLeading leading)
      (hpartner : codeOf? partner = some trailing) (htrailing : IsTrailing trailing) :
      WrittenAs text s →
        WrittenAs
          { text with
            chars := Char.ofNat (0x10000 + (leading - 0xD800) * 0x400 + (trailing - 0xDC00)) ::
              text.chars }
          (codeText digits ++ (codeText partner ++ s))
  | trailing {text : StringText} {s digits : List Char} {code : Nat}
      (hcode : codeOf? digits = some code) (htrailing : IsTrailing code) :
      WrittenAs text s →
        WrittenAs { text with defect := some .loneSurrogate } (codeText digits ++ s)
  | leading {text : StringText} {s digits : List Char} {code : Nat}
      (hcode : codeOf? digits = some code) (hleading : IsLeading code)
      (halone : ∀ partner trailing after, codeOf? partner = some trailing →
        s = codeText partner ++ after → ¬IsTrailing trailing) :
      WrittenAs text s →
        WrittenAs { text with defect := some (leadingDefect s) } (codeText digits ++ s)

section Strings

variable {fuel : Nat} {text : StringText} {s : List Char} {after rest : Source}

theorem codeOf?_cases {digits : List Char} {code : Nat} (hcode : codeOf? digits = some code) :
    ∃ first second third fourth a b c d, digits = [first, second, third, fourth] ∧
      hexValue? first = some a ∧ hexValue? second = some b ∧ hexValue? third = some c ∧
      hexValue? fourth = some d ∧ code = ((a * 16 + b) * 16 + c) * 16 + d := by
  unfold codeOf? at hcode
  split at hcode
  · next first second third fourth =>
    simp only [bind, Option.bind_eq_some_iff] at hcode
    obtain ⟨a, ha, b, hb, c, hc, d, hd, heq⟩ := hcode
    exact ⟨first, second, third, fourth, a, b, c, d, rfl, ha, hb, hc, hd,
      (Option.some.inj heq).symm⟩
  · contradiction

theorem scanHex_digits {digits : List Char} {code : Nat} (hcode : codeOf? digits = some code) :
    scanHex (Source.ofChars digits ++ after) = .ok (code, after) := by
  obtain ⟨first, second, third, fourth, a, b, c, d, rfl, ha, hb, hc, hd, rfl⟩ := codeOf?_cases hcode
  have htake : (Source.ofChars [first, second, third, fourth] ++ after).take 4 =
      [some first, some second, some third, some fourth] := rfl
  have hdrop : (Source.ofChars [first, second, third, fourth] ++ after).drop 4 = after := rfl
  rw [scanHex, htake, hdrop]
  simp [List.mapM_cons, ha, hb, hc, hd]

theorem scanString_plain {c : Char} (hquote : c ≠ '"') (hescape : c ≠ '\\')
    (hcontrol : ¬c.toNat < 0x20) :
    scanString (fuel + 1) (some c :: after) = (scanString fuel after).cons c := by
  rw [scanString, if_neg hcontrol]
  · exact hquote
  · exact hescape

theorem scanEscape_short {letter c : Char} (hescape : (letter, c) ∈ shortEscapes) :
    scanEscape (some letter :: after) = .char c after := by
  simp only [shortEscapes, List.mem_cons, Prod.mk.injEq, List.not_mem_nil, or_false] at hescape
  rcases hescape with ⟨rfl, rfl⟩ | ⟨rfl, rfl⟩ | ⟨rfl, rfl⟩ | ⟨rfl, rfl⟩ | ⟨rfl, rfl⟩ | ⟨rfl, rfl⟩ |
    ⟨rfl, rfl⟩ | ⟨rfl, rfl⟩ <;> rfl

theorem scanEscape_code {digits : List Char} {code : Nat} (hcode : codeOf? digits = some code)
    (hleading : ¬IsLeading code) (htrailing : ¬IsTrailing code) :
    scanEscape (some 'u' :: (Source.ofChars digits ++ after)) = .char (Char.ofNat code) after := by
  rw [scanEscape, scanHex_digits hcode]
  exact (if_neg hleading).trans (if_neg htrailing)

theorem scanEscape_trailing {digits : List Char} {code : Nat} (hcode : codeOf? digits = some code)
    (htrailing : IsTrailing code) :
    scanEscape (some 'u' :: (Source.ofChars digits ++ after)) = .spoiled .loneSurrogate after := by
  have hleading : ¬IsLeading code := by
    rintro ⟨-, hhigh⟩
    exact absurd (htrailing.1.trans hhigh) (by decide)
  rw [scanEscape, scanHex_digits hcode]
  exact (if_neg hleading).trans (if_pos htrailing)

theorem scanEscape_leading {digits : List Char} {code : Nat} (hcode : codeOf? digits = some code)
    (hleading : IsLeading code) :
    scanEscape (some 'u' :: (Source.ofChars digits ++ after)) = scanPartner code after := by
  rw [scanEscape, scanHex_digits hcode]
  exact if_pos hleading

theorem scanPartner_trailing {partner : List Char} {leading trailing : Nat}
    (hpartner : codeOf? partner = some trailing) (htrailing : IsTrailing trailing)
    (after : Source) :
    scanPartner leading (Source.ofChars (codeText partner) ++ after) =
      .char (Char.ofNat (0x10000 + (leading - 0xD800) * 0x400 + (trailing - 0xDC00))) after := by
  change scanPartner leading (some '\\' :: some 'u' :: (Source.ofChars partner ++ after)) = _
  rw [scanPartner, scanHex_digits hpartner]
  exact if_pos htrailing

theorem leadingDefect_codeText (digits s : List Char) :
    leadingDefect (codeText digits ++ s) = .loneSurrogate := by
  rw [leadingDefect, codeText, List.cons_append, List.cons_append]
  exact if_pos (by simp)

theorem scanPartner_code {digits : List Char} {leading code : Nat}
    (hcode : codeOf? digits = some code) (htrailing : ¬IsTrailing code) :
    scanPartner leading (Source.ofChars (codeText digits ++ s) ++ after) =
      .spoiled (leadingDefect (codeText digits ++ s))
        (Source.ofChars (codeText digits ++ s) ++ after) := by
  rw [leadingDefect_codeText, ofChars_append_append]
  change scanPartner leading (some '\\' :: some 'u' :: (Source.ofChars digits ++ _)) = _
  rw [scanPartner, scanHex_digits hcode]
  exact if_neg htrailing

/-- What stands in the place of a partner and is none is read on its own. -/
theorem scanPartner_alone {leading : Nat} (hwritten : text.WrittenAs s)
    (halone : ∀ partner trailing after, codeOf? partner = some trailing →
      s = codeText partner ++ after → ¬IsTrailing trailing) :
    scanPartner leading (Source.ofChars s ++ some '"' :: rest) =
      .spoiled (leadingDefect s) (Source.ofChars s ++ some '"' :: rest) := by
  cases hwritten with
  | nil => rfl
  | @plain _ s c _ hescape _ _ =>
    have hdefect : leadingDefect (c :: s) = .unfinishedSurrogate := by
      rw [leadingDefect, if_neg]
      simp [Ne.symm hescape]
    rw [hdefect, ofChars_cons_append, scanPartner]
    · simp
    · simp [hescape]
    · simp [hescape]
  | short hescape _ =>
    simp only [shortEscapes, List.mem_cons, Prod.mk.injEq, List.not_mem_nil, or_false] at hescape
    rcases hescape with ⟨rfl, -⟩ | ⟨rfl, -⟩ | ⟨rfl, -⟩ | ⟨rfl, -⟩ | ⟨rfl, -⟩ | ⟨rfl, -⟩ |
      ⟨rfl, -⟩ | ⟨rfl, -⟩ <;> rfl
  | code hcode _ htrailing _ => exact scanPartner_code hcode htrailing
  | pair hcode _ _ _ _ => exact scanPartner_code hcode (halone _ _ _ hcode rfl)
  | trailing hcode _ _ => exact scanPartner_code hcode (halone _ _ _ hcode rfl)
  | leading hcode _ _ _ => exact scanPartner_code hcode (halone _ _ _ hcode rfl)

theorem scanString_escaped {c : Char} {escape : Source}
    (hescape : scanEscape escape = .char c after) :
    scanString (fuel + 1) (some '\\' :: escape) = (scanString fuel after).cons c := by
  rw [scanString, hescape]

theorem scanString_spoiled {defect : Fault} {escape : Source}
    (hescape : scanEscape escape = .spoiled defect after) :
    scanString (fuel + 1) (some '\\' :: escape) = (scanString fuel after).spoil defect := by
  rw [scanString, hescape]

theorem ofChars_codeText (digits : List Char) (rest : Source) :
    Source.ofChars (codeText digits) ++ rest =
      some '\\' :: some 'u' :: (Source.ofChars digits ++ rest) :=
  rfl

/-- A string is scanned one character or one escape at a time. -/
theorem StringText.WrittenAs.scan (hwritten : text.WrittenAs s) (hfuel : s.length < fuel) :
    scanString fuel (Source.ofChars s ++ some '"' :: rest) = .string text rest := by
  induction hwritten generalizing fuel with
  | nil =>
    obtain ⟨fuel, rfl⟩ := Nat.exists_eq_succ_of_ne_zero hfuel.ne_bot
    rfl
  | plain hquote hescape hcontrol _ ih =>
    obtain ⟨fuel, rfl⟩ := Nat.exists_eq_succ_of_ne_zero (Nat.ne_zero_of_lt hfuel)
    rw [List.length_cons] at hfuel
    rw [ofChars_cons_append, scanString_plain hquote hescape hcontrol, ih (by omega)]
    rfl
  | short hescape _ ih =>
    obtain ⟨fuel, rfl⟩ := Nat.exists_eq_succ_of_ne_zero (Nat.ne_zero_of_lt hfuel)
    rw [List.length_cons, List.length_cons] at hfuel
    rw [ofChars_cons_append, ofChars_cons_append,
      scanString_escaped (scanEscape_short hescape), ih (by omega)]
    rfl
  | code hcode hleading htrailing _ ih =>
    obtain ⟨fuel, rfl⟩ := Nat.exists_eq_succ_of_ne_zero (Nat.ne_zero_of_lt hfuel)
    rw [List.length_append, codeText, List.length_cons] at hfuel
    rw [ofChars_append_append, ofChars_codeText,
      scanString_escaped (scanEscape_code hcode hleading htrailing), ih (by omega)]
    rfl
  | pair hcode hleading hpartner htrailing _ ih =>
    obtain ⟨fuel, rfl⟩ := Nat.exists_eq_succ_of_ne_zero (Nat.ne_zero_of_lt hfuel)
    rw [List.length_append, List.length_append, codeText, List.length_cons] at hfuel
    rw [ofChars_append_append, ofChars_append_append, ofChars_codeText, scanString_escaped
      ((scanEscape_leading hcode hleading).trans (scanPartner_trailing hpartner htrailing _)),
      ih (by omega)]
    rfl
  | trailing hcode htrailing _ ih =>
    obtain ⟨fuel, rfl⟩ := Nat.exists_eq_succ_of_ne_zero (Nat.ne_zero_of_lt hfuel)
    rw [List.length_append, codeText, List.length_cons] at hfuel
    rw [ofChars_append_append, ofChars_codeText,
      scanString_spoiled (scanEscape_trailing hcode htrailing), ih (by omega)]
    rfl
  | leading hcode hleading halone hrest ih =>
    obtain ⟨fuel, rfl⟩ := Nat.exists_eq_succ_of_ne_zero (Nat.ne_zero_of_lt hfuel)
    rw [List.length_append, codeText, List.length_cons] at hfuel
    rw [ofChars_append_append, ofChars_codeText, scanString_spoiled
      ((scanEscape_leading hcode hleading).trans (scanPartner_alone hrest halone)), ih (by omega)]
    rfl

end Strings

/-! ### Numerals -/

section Numerals

variable {fuel : Nat} {text : NumberText} {s : List Char} {rest : Source}

def digitChars : List Char :=
  ['0', '1', '2', '3', '4', '5', '6', '7', '8', '9']

theorem mem_digitChars {c : Char} (hc : c.isDigit = true) : c ∈ digitChars := by
  obtain ⟨hlow, hhigh⟩ : 48 ≤ c.toNat ∧ c.toNat ≤ 57 := by
    simpa [Char.isDigit, UInt32.le_iff_toNat_le] using hc
  have hcodes : ∀ k < 10, Char.ofNat (48 + k) ∈ digitChars := by decide
  have hcode := hcodes (c.toNat - 48) (by omega)
  rwa [Nat.add_sub_cancel' hlow, Char.ofNat_toNat] at hcode

theorem scanNode_digit {c : Char} (hc : c.isDigit = true) (s : Source) :
    scanNode (fuel + 1) (some c :: s) = (scanNumber false (some c :: s)).toNode := by
  have hdigit := mem_digitChars hc
  simp only [digitChars, List.mem_cons, List.not_mem_nil, or_false] at hdigit
  rcases hdigit with rfl | rfl | rfl | rfl | rfl | rfl | rfl | rfl | rfl | rfl <;> rfl

theorem scanNode_minus (s : Source) :
    scanNode (fuel + 1) (some '-' :: s) = (scanNumber true s).toNode :=
  rfl

theorem NumberText.WrittenAs.scan (hwritten : text.WrittenAs s) (hrest : EndsNumeral rest) :
    scanNode (fuel + 1) (Source.ofChars s ++ rest) = (.number text, some rest) := by
  obtain ⟨htext, exponent, hexponent, rfl⟩ := hwritten
  have hscan := scanNumber_text htext hexponent hrest
  cases hsign : text.negative with
  | true =>
    rw [hsign] at hscan
    refine (scanNode_minus (Source.ofChars (text.whole ++ _) ++ rest)).trans ?_
    rw [hscan]
    rfl
  | false =>
    obtain ⟨hne, hdigits⟩ := htext.whole
    obtain ⟨c, more, hwhole⟩ := List.exists_cons_of_ne_nil hne
    rw [hsign, hwhole] at hscan
    rw [hwhole]
    refine (scanNode_digit (hdigits c (hwhole ▸ List.mem_cons_self)) _).trans ?_
    exact (congrArg NumberScan.toNode hscan).trans rfl

end Numerals

/-! ### Trees -/

/-- Spaces between the parts of a text. -/
def AllSpace (s : List Char) : Prop :=
  ∀ c ∈ s, isSpace (some c) = true

theorem allSpace_nil : AllSpace [] := nofun

/-- The texts of a key and of the colon behind it. -/
inductive KeyWrittenAs (key : StringText) : List Char → Prop
  | intro {before after s : List Char} (hbefore : AllSpace before) (hafter : AllSpace after)
      (hkey : key.WrittenAs s) :
      KeyWrittenAs key (before ++ '"' :: (s ++ '"' :: (after ++ [':'])))

mutual

/-- The texts of a tree. -/
inductive Node.WrittenAs : Node → List Char → Prop
  | null : Node.WrittenAs .null ['n', 'u', 'l', 'l']
  | true : Node.WrittenAs (.bool true) ['t', 'r', 'u', 'e']
  | false : Node.WrittenAs (.bool false) ['f', 'a', 'l', 's', 'e']
  | number {text s} : text.WrittenAs s → Node.WrittenAs (.number text) s
  | string {text s} : text.WrittenAs s → Node.WrittenAs (.string text) ('"' :: (s ++ ['"']))
  | emptyArray {gap} : AllSpace gap → Node.WrittenAs (.array .closed) ('[' :: (gap ++ [']']))
  | array {items s} : items.WrittenAs s → Node.WrittenAs (.array items) ('[' :: (s ++ [']']))
  | emptyObject {gap} : AllSpace gap → Node.WrittenAs (.object .closed) ('{' :: (gap ++ ['}']))
  | object {members s} :
      members.WrittenAs s → Node.WrittenAs (.object members) ('{' :: (s ++ ['}']))

/-- The texts of a tree with spaces around it. -/
inductive Node.Spaced : Node → List Char → Prop
  | intro {node before after s} : AllSpace before → AllSpace after → node.WrittenAs s →
      Node.Spaced node (before ++ (s ++ after))

/-- The texts of the items of an array. -/
inductive Items.WrittenAs : Items → List Char → Prop
  | last {first s} : first.Spaced s → Items.WrittenAs (.item first .closed) s
  | next {first rest s t} : first.Spaced s → rest.WrittenAs t →
      Items.WrittenAs (.item first rest) (s ++ ',' :: t)

/-- The texts of the members of an object. -/
inductive Members.WrittenAs : Members → List Char → Prop
  | last {key value k s} : KeyWrittenAs key k → value.Spaced s →
      Members.WrittenAs (.member key value .closed) (k ++ s)
  | next {key value rest k s t} : KeyWrittenAs key k → value.Spaced s → rest.WrittenAs t →
      Members.WrittenAs (.member key value rest) (k ++ (s ++ ',' :: t))

end

theorem Node.WrittenAs.spaced {node : Node} {s : List Char} (hwritten : node.WrittenAs s) :
    node.Spaced s := by
  have hspaced : node.Spaced ([] ++ (s ++ [])) :=
    .intro allSpace_nil allSpace_nil hwritten
  rwa [List.nil_append, List.append_nil] at hspaced

/-! ### Spaces and first characters -/

section Space

variable {gap s : List Char} {rest : Source}

theorem skipSpace_append (hgap : AllSpace gap) (rest : Source) :
    skipSpace (Source.ofChars gap ++ rest) = skipSpace rest := by
  refine List.dropWhile_append_of_pos fun symbol hsymbol => ?_
  obtain ⟨c, hc, rfl⟩ := List.mem_map.1 hsymbol
  exact hgap c hc

theorem scanNode_append (hgap : AllSpace gap) (fuel : Nat) (rest : Source) :
    scanNode fuel (Source.ofChars gap ++ rest) = scanNode fuel rest := by
  cases fuel with
  | zero => rfl
  | succ fuel => rw [scanNode, scanNode, skipSpace_append hgap]

theorem endsNumeral_append (hgap : AllSpace gap) (hrest : EndsNumeral rest) :
    EndsNumeral (Source.ofChars gap ++ rest) := by
  cases gap with
  | nil => exact hrest
  | cons c gap =>
    have hspace := hgap c List.mem_cons_self
    simp only [isSpace, Option.some.injEq, Bool.or_eq_true, decide_eq_true_eq] at hspace
    refine endsNumeral_cons ?_ _
    rcases hspace with ((rfl | rfl) | rfl) | rfl <;> decide

theorem skipSpace_skipSpace (s : Source) : skipSpace (skipSpace s) = skipSpace s := by
  induction s with
  | nil => rfl
  | cons symbol s ih =>
    have hcons : skipSpace (symbol :: s) = if isSpace symbol then skipSpace s else symbol :: s :=
      List.dropWhile_cons
    by_cases hsymbol : isSpace symbol = true
    · rw [hcons, if_pos hsymbol, ih]
    · rw [hcons, if_neg hsymbol, hcons, if_neg hsymbol]

theorem scanNode_skipSpace (fuel : Nat) (s : Source) :
    scanNode fuel (skipSpace s) = scanNode fuel s := by
  cases fuel with
  | zero => rfl
  | succ fuel => rw [scanNode, scanNode, skipSpace_skipSpace]

/-- The text starts with the first character of a value. -/
def StartsValue (s : List Char) : Prop :=
  ∃ c rest, s = c :: rest ∧ isSpace (some c) = false ∧ c ≠ ']'

theorem StartsValue.length_pos (hs : StartsValue s) : 0 < s.length := by
  obtain ⟨c, rest, rfl, -⟩ := hs
  exact Nat.succ_pos _

theorem StartsValue.exists_cons (hs : StartsValue s) (rest : Source) :
    ∃ c more, Source.ofChars s ++ rest = some c :: more ∧ c ≠ ']' := by
  obtain ⟨c, more, rfl, -, hc⟩ := hs
  exact ⟨c, _, rfl, hc⟩

theorem StartsValue.skipSpace (hs : StartsValue s) (rest : Source) :
    skipSpace (Source.ofChars s ++ rest) = Source.ofChars s ++ rest := by
  obtain ⟨c, more, rfl, hspace, -⟩ := hs
  exact List.dropWhile_cons_of_neg (by simp [hspace])

theorem NumberText.WrittenAs.startsValue {text : NumberText} (hwritten : text.WrittenAs s) :
    StartsValue s := by
  obtain ⟨htext, exponent, -, rfl⟩ := hwritten
  cases text.negative with
  | true => exact ⟨'-', _, rfl, by decide, by decide⟩
  | false =>
    obtain ⟨hne, hdigits⟩ := htext.whole
    obtain ⟨c, more, hwhole⟩ := List.exists_cons_of_ne_nil hne
    have hdigit : ∀ c ∈ digitChars, isSpace (some c) = false ∧ c ≠ ']' := by
      simp [digitChars, isSpace]
    rw [hwhole]
    exact ⟨c, _, rfl, hdigit c (mem_digitChars (hdigits c (hwhole ▸ List.mem_cons_self)))⟩

theorem Node.WrittenAs.startsValue {node : Node} (hwritten : node.WrittenAs s) : StartsValue s := by
  cases hwritten with
  | null => exact ⟨'n', _, rfl, by decide, by decide⟩
  | true => exact ⟨'t', _, rfl, by decide, by decide⟩
  | false => exact ⟨'f', _, rfl, by decide, by decide⟩
  | number htext => exact htext.startsValue
  | string _ => exact ⟨'"', _, rfl, by decide, by decide⟩
  | emptyArray _ => exact ⟨'[', _, rfl, by decide, by decide⟩
  | array _ => exact ⟨'[', _, rfl, by decide, by decide⟩
  | emptyObject _ => exact ⟨'{', _, rfl, by decide, by decide⟩
  | object _ => exact ⟨'{', _, rfl, by decide, by decide⟩

end Space

/-! ### Scanning -/

/-- Whatever follows the text, unless it could go on with a numeral, the text is scanned as the
tree. -/
def Node.ScannedFrom (node : Node) (s : List Char) : Prop :=
  ∀ fuel rest, EndsNumeral rest → 2 * s.length ≤ fuel →
    scanNode fuel (Source.ofChars s ++ rest) = (node, some rest)

/-- Behind its spaces, the text is scanned as the items up to the bracket. -/
def Items.ScannedFrom (items : Items) (s : List Char) : Prop :=
  ∀ fuel rest, 2 * s.length < fuel → ∃ c more,
    skipSpace (Source.ofChars s ++ some ']' :: rest) = some c :: more ∧ c ≠ ']' ∧
      scanItems fuel (some c :: more) = (items, some rest)

/-- Behind its spaces, the text is scanned as the members up to the brace. -/
def Members.ScannedFrom (members : Members) (s : List Char) : Prop :=
  ∀ fuel rest, 2 * s.length < fuel → ∃ more,
    skipSpace (Source.ofChars s ++ some '}' :: rest) = some '"' :: more ∧
      scanMembers fuel (some '"' :: more) = (members, some rest)

section Scan

variable {fuel : Nat} {s k : List Char} {after rest : Source}

theorem Node.scannedFrom_of_succ {node : Node} (hpos : 0 < s.length)
    (hscan : ∀ fuel rest, EndsNumeral rest → 2 * s.length ≤ fuel + 1 →
      scanNode (fuel + 1) (Source.ofChars s ++ rest) = (node, some rest)) :
    node.ScannedFrom s := by
  intro fuel rest hrest hfuel
  obtain ⟨fuel, rfl⟩ : ∃ n, fuel = n + 1 := Nat.exists_eq_succ_of_ne_zero (by omega)
  exact hscan fuel rest hrest hfuel

/-- A tree with spaces around it, up to a separator. -/
theorem Node.Spaced.scan {node : Node} (hspaced : node.Spaced s)
    (hscan : ∀ s, node.WrittenAs s → node.ScannedFrom s) {c : Char} (hc : c ∈ [',', ']', '}'])
    (fuel : Nat) (rest : Source) (hfuel : 2 * s.length ≤ fuel) :
    ∃ d more after, skipSpace (Source.ofChars s ++ some c :: rest) = some d :: more ∧ d ≠ ']' ∧
      scanNode fuel (some d :: more) = (node, some after) ∧
      skipSpace after = some c :: rest := by
  obtain ⟨hbefore, hafter, hwritten⟩ := hspaced
  next before after s =>
  rw [List.length_append, List.length_append] at hfuel
  obtain ⟨d, more, hstart, hd⟩ :=
    hwritten.startsValue.exists_cons (Source.ofChars after ++ some c :: rest)
  have hseparator : ∀ c ∈ [',', ']', '}'],
      (c.isDigit = false ∧ c ≠ '.' ∧ c ≠ 'e' ∧ c ≠ 'E') ∧ isSpace (some c) = false := by
    simp [isSpace]
  obtain ⟨hc, hspace⟩ := hseparator c hc
  have hend := endsNumeral_append hafter (endsNumeral_cons hc rest)
  refine ⟨d, more, Source.ofChars after ++ some c :: rest, ?_, hd, ?_, ?_⟩
  · rw [ofChars_append_append, ofChars_append_append, skipSpace_append hbefore,
      hwritten.startsValue.skipSpace, hstart]
  · rw [← hstart]
    exact hscan s hwritten fuel _ hend (by omega)
  · rw [skipSpace_append hafter]
    exact List.dropWhile_cons_of_neg (by simp [hspace])

/-- A key with the colon behind it, up to its value. -/
theorem KeyWrittenAs.scan {key : StringText} (hkey : KeyWrittenAs key k) (fuel : Nat)
    (rest : Source) (hfuel : k.length ≤ fuel) :
    ∃ body afterKey, skipSpace (Source.ofChars k ++ rest) = some '"' :: body ∧
      scanString fuel body = .string key afterKey ∧ skipSpace afterKey = some ':' :: rest := by
  obtain ⟨hbefore, hafter, hwritten⟩ := hkey
  next before after s =>
  simp only [List.length_append, List.length_cons] at hfuel
  refine ⟨Source.ofChars s ++ some '"' :: (Source.ofChars after ++ some ':' :: rest), _, ?_,
    hwritten.scan (by omega), ?_⟩
  · simp only [ofChars_append_append, ofChars_cons_append]
    rw [skipSpace_append hbefore]
    rfl
  · rw [skipSpace_append hafter]
    rfl

theorem scanItems_last {first : Node} {start : Source}
    (hfirst : scanNode fuel start = (first, some after))
    (hend : skipSpace after = some ']' :: rest) :
    scanItems (fuel + 1) start = (.item first .closed, some rest) := by
  rw [scanItems]
  simp [hfirst, hend]

theorem scanItems_next {first : Node} {items : Items} {c : Char} {start before more : Source}
    {remainder : Remainder} (hfirst : scanNode fuel start = (first, some before))
    (hcomma : skipSpace before = some ',' :: after) (hskip : skipSpace after = some c :: more)
    (hc : c ≠ ']') (hmore : scanItems fuel (some c :: more) = (items, remainder)) :
    scanItems (fuel + 1) start = (.item first items, remainder) := by
  rw [scanItems]
  simp [hfirst, hcomma, hskip, hc, hmore]

theorem scanNode_emptyArray (hskip : skipSpace after = some ']' :: rest) :
    scanNode (fuel + 1) (some '[' :: after) = (.array .closed, some rest) := by
  have hbracket : skipSpace (some '[' :: after) = some '[' :: after := rfl
  rw [scanNode]
  simp [hbracket, hskip]

theorem scanNode_array {items : Items} {c : Char} {more : Source} {remainder : Remainder}
    (hskip : skipSpace after = some c :: more) (hc : c ≠ ']')
    (hitems : scanItems fuel (some c :: more) = (items, remainder)) :
    scanNode (fuel + 1) (some '[' :: after) = (.array items, remainder) := by
  have hbracket : skipSpace (some '[' :: after) = some '[' :: after := rfl
  rw [scanNode]
  simp [hbracket, hskip, hc, hitems]

theorem scanMembers_last {key : StringText} {value : Node} {body afterKey afterColon : Source}
    (hkey : scanString fuel body = .string key afterKey)
    (hcolon : skipSpace afterKey = some ':' :: afterColon)
    (hvalue : scanNode fuel afterColon = (value, some after))
    (hend : skipSpace after = some '}' :: rest) :
    scanMembers (fuel + 1) (some '"' :: body) = (.member key value .closed, some rest) := by
  rw [scanMembers]
  simp only [hkey, hcolon, hvalue, hend]

theorem scanMembers_next {key : StringText} {value : Node} {members : Members}
    {body afterKey afterColon before more : Source} {remainder : Remainder}
    (hkey : scanString fuel body = .string key afterKey)
    (hcolon : skipSpace afterKey = some ':' :: afterColon)
    (hvalue : scanNode fuel afterColon = (value, some before))
    (hcomma : skipSpace before = some ',' :: after) (hskip : skipSpace after = some '"' :: more)
    (hmore : scanMembers fuel (some '"' :: more) = (members, remainder)) :
    scanMembers (fuel + 1) (some '"' :: body) = (.member key value members, remainder) := by
  rw [scanMembers]
  simp [hkey, hcolon, hvalue, hcomma, hskip, hmore]

theorem scanNode_emptyObject (hskip : skipSpace after = some '}' :: rest) :
    scanNode (fuel + 1) (some '{' :: after) = (.object .closed, some rest) := by
  have hbrace : skipSpace (some '{' :: after) = some '{' :: after := rfl
  rw [scanNode]
  simp [hbrace, hskip]

theorem scanNode_object {members : Members} {more : Source} {remainder : Remainder}
    (hskip : skipSpace after = some '"' :: more)
    (hmembers : scanMembers fuel (some '"' :: more) = (members, remainder)) :
    scanNode (fuel + 1) (some '{' :: after) = (.object members, remainder) := by
  have hbrace : skipSpace (some '{' :: after) = some '{' :: after := rfl
  rw [scanNode]
  simp [hbrace, hskip, hmembers]

/-! One step along the tree for each way to write it. -/

theorem Node.scannedFrom_string {text : StringText} (htext : text.WrittenAs s) :
    (Node.string text).ScannedFrom ('"' :: (s ++ ['"'])) := by
  refine Node.scannedFrom_of_succ (Nat.succ_pos _) fun fuel rest _ hfuel => ?_
  simp only [List.length_cons, List.length_append] at hfuel
  simp only [ofChars_cons_append, ofChars_append_append]
  exact congrArg StringScan.toNode (htext.scan (by omega))

theorem Node.scannedFrom_emptyArray (hgap : AllSpace s) :
    (Node.array .closed).ScannedFrom ('[' :: (s ++ [']'])) := by
  refine Node.scannedFrom_of_succ (Nat.succ_pos _) fun fuel rest _ _ => ?_
  simp only [ofChars_cons_append, ofChars_append_append]
  exact scanNode_emptyArray (skipSpace_append hgap _)

theorem Node.scannedFrom_array {items : Items} (hitems : items.ScannedFrom s) :
    (Node.array items).ScannedFrom ('[' :: (s ++ [']'])) := by
  refine Node.scannedFrom_of_succ (Nat.succ_pos _) fun fuel rest _ hfuel => ?_
  simp only [List.length_cons, List.length_append] at hfuel
  simp only [ofChars_cons_append, ofChars_append_append]
  obtain ⟨c, more, hskip, hc, hscan⟩ := hitems fuel rest (by omega)
  exact scanNode_array hskip hc hscan

theorem Node.scannedFrom_emptyObject (hgap : AllSpace s) :
    (Node.object .closed).ScannedFrom ('{' :: (s ++ ['}'])) := by
  refine Node.scannedFrom_of_succ (Nat.succ_pos _) fun fuel rest _ _ => ?_
  simp only [ofChars_cons_append, ofChars_append_append]
  exact scanNode_emptyObject (skipSpace_append hgap _)

theorem Node.scannedFrom_object {members : Members} (hmembers : members.ScannedFrom s) :
    (Node.object members).ScannedFrom ('{' :: (s ++ ['}'])) := by
  refine Node.scannedFrom_of_succ (Nat.succ_pos _) fun fuel rest _ hfuel => ?_
  simp only [List.length_cons, List.length_append] at hfuel
  simp only [ofChars_cons_append, ofChars_append_append]
  obtain ⟨more, hskip, hscan⟩ := hmembers fuel rest (by omega)
  exact scanNode_object hskip hscan

theorem Items.scannedFrom_last {first : Node} (hspaced : first.Spaced s)
    (hfirst : ∀ s, first.WrittenAs s → first.ScannedFrom s) :
    (Items.item first .closed).ScannedFrom s := by
  intro fuel rest hfuel
  obtain ⟨fuel, rfl⟩ := Nat.exists_eq_succ_of_ne_zero (Nat.ne_zero_of_lt hfuel)
  obtain ⟨c, more, after, hskip, hc, hscan, hend⟩ :=
    hspaced.scan hfirst (c := ']') (by decide) fuel rest (by omega)
  exact ⟨c, more, hskip, hc, scanItems_last hscan hend⟩

theorem Items.scannedFrom_next {first : Node} {items : Items} {t : List Char}
    (hspaced : first.Spaced s) (hfirst : ∀ s, first.WrittenAs s → first.ScannedFrom s)
    (hitems : items.ScannedFrom t) : (Items.item first items).ScannedFrom (s ++ ',' :: t) := by
  intro fuel rest hfuel
  obtain ⟨fuel, rfl⟩ := Nat.exists_eq_succ_of_ne_zero (Nat.ne_zero_of_lt hfuel)
  simp only [List.length_append, List.length_cons] at hfuel
  simp only [ofChars_append_append, ofChars_cons_append]
  obtain ⟨d, start, hstart, hd, hmore⟩ := hitems fuel rest (by omega)
  obtain ⟨c, more, after, hskip, hc, hscan, hcomma⟩ :=
    hspaced.scan hfirst (c := ',') (by decide) fuel _ (by omega)
  exact ⟨c, more, hskip, hc, scanItems_next hscan hcomma hstart hd hmore⟩

theorem Members.scannedFrom_last {key : StringText} {value : Node} (hkey : KeyWrittenAs key k)
    (hspaced : value.Spaced s) (hvalue : ∀ s, value.WrittenAs s → value.ScannedFrom s) :
    (Members.member key value .closed).ScannedFrom (k ++ s) := by
  intro fuel rest hfuel
  obtain ⟨fuel, rfl⟩ := Nat.exists_eq_succ_of_ne_zero (Nat.ne_zero_of_lt hfuel)
  simp only [List.length_append] at hfuel
  simp only [ofChars_append_append]
  obtain ⟨c, more, after, hskip, -, hscan, hend⟩ :=
    hspaced.scan hvalue (c := '}') (by decide) fuel rest (by omega)
  obtain ⟨body, afterKey, hquote, hstring, hcolon⟩ := hkey.scan fuel _ (by omega)
  rw [← hskip, scanNode_skipSpace] at hscan
  exact ⟨body, hquote, scanMembers_last hstring hcolon hscan hend⟩

theorem Members.scannedFrom_next {key : StringText} {value : Node} {members : Members}
    {t : List Char} (hkey : KeyWrittenAs key k) (hspaced : value.Spaced s)
    (hvalue : ∀ s, value.WrittenAs s → value.ScannedFrom s) (hmembers : members.ScannedFrom t) :
    (Members.member key value members).ScannedFrom (k ++ (s ++ ',' :: t)) := by
  intro fuel rest hfuel
  obtain ⟨fuel, rfl⟩ := Nat.exists_eq_succ_of_ne_zero (Nat.ne_zero_of_lt hfuel)
  simp only [List.length_append, List.length_cons] at hfuel
  simp only [ofChars_append_append, ofChars_cons_append]
  obtain ⟨start, hstart, hmore⟩ := hmembers fuel rest (by omega)
  obtain ⟨c, more, after, hskip, -, hscan, hcomma⟩ :=
    hspaced.scan hvalue (c := ',') (by decide) fuel _ (by omega)
  obtain ⟨body, afterKey, hquote, hstring, hcolon⟩ := hkey.scan fuel _ (by omega)
  rw [← hskip, scanNode_skipSpace] at hscan
  exact ⟨body, hquote, scanMembers_next hstring hcolon hscan hcomma hstart hmore⟩

end Scan

mutual

/-- Every text of a tree is scanned as the tree. -/
theorem Node.WrittenAs.scannedFrom {node : Node} {s : List Char} (hwritten : node.WrittenAs s) :
    node.ScannedFrom s :=
  match hwritten with
  | .null => Node.scannedFrom_of_succ (by decide) fun _ _ _ _ => rfl
  | .true => Node.scannedFrom_of_succ (by decide) fun _ _ _ _ => rfl
  | .false => Node.scannedFrom_of_succ (by decide) fun _ _ _ _ => rfl
  | .number hnumber =>
    Node.scannedFrom_of_succ hnumber.startsValue.length_pos fun _ _ hrest _ => hnumber.scan hrest
  | .string hstring => Node.scannedFrom_string hstring
  | .emptyArray hgap => Node.scannedFrom_emptyArray hgap
  | .array hitems => Node.scannedFrom_array hitems.scannedFrom
  | .emptyObject hgap => Node.scannedFrom_emptyObject hgap
  | .object hmembers => Node.scannedFrom_object hmembers.scannedFrom

theorem Items.WrittenAs.scannedFrom {items : Items} {s : List Char} (hwritten : items.WrittenAs s) :
    items.ScannedFrom s :=
  match hwritten with
  | .last hfirst => Items.scannedFrom_last hfirst fun _ h => h.scannedFrom
  | .next hfirst hrest =>
    Items.scannedFrom_next hfirst (fun _ h => h.scannedFrom) hrest.scannedFrom

theorem Members.WrittenAs.scannedFrom {members : Members} {s : List Char}
    (hwritten : members.WrittenAs s) : members.ScannedFrom s :=
  match hwritten with
  | .last hkey hvalue =>
    Members.scannedFrom_last hkey hvalue fun _ h => h.scannedFrom
  | .next hkey hvalue hrest =>
    Members.scannedFrom_next hkey hvalue (fun _ h => h.scannedFrom) hrest.scannedFrom

end

mutual

/-- A tree with a text can be passed over. -/
theorem Node.WrittenAs.skipNode {node : Node} {s : List Char} (hwritten : node.WrittenAs s) :
    skipNode node = .ok () :=
  match hwritten with
  | .null | .true | .false | .number _ | .string _ | .emptyArray _ | .emptyObject _ => by
    rw [Json.skipNode] <;> rfl
  | .array hitems => by
    rw [Json.skipNode]
    exact hitems.skipItems
  | .object hmembers => by
    rw [Json.skipNode]
    exact hmembers.skipMembers

theorem Items.WrittenAs.skipItems {items : Items} {s : List Char} (hwritten : items.WrittenAs s) :
    skipItems items = .ok () :=
  match hwritten with
  | .last (.intro _ _ hfirst) => by
    rw [Json.skipItems, hfirst.skipNode]
    rfl
  | .next (.intro _ _ hfirst) hrest => by
    rw [Json.skipItems, hfirst.skipNode]
    exact hrest.skipItems

theorem Members.WrittenAs.skipMembers {members : Members} {s : List Char}
    (hwritten : members.WrittenAs s) : skipMembers members = .ok () :=
  match hwritten with
  | .last _ (.intro _ _ hvalue) => by
    rw [Json.skipMembers, hvalue.skipNode]
    rfl
  | .next _ (.intro _ _ hvalue) hrest => by
    rw [Json.skipMembers, hvalue.skipNode]
    exact hrest.skipMembers

end

theorem Node.Spaced.skipNode {node : Node} {s : List Char} (hspaced : node.Spaced s) :
    skipNode node = .ok () := by
  obtain ⟨-, -, hwritten⟩ := hspaced
  exact hwritten.skipNode

/-- A text of a tree with spaces around it holds the tree, and spaces are left. -/
theorem Node.Spaced.ofSource {node : Node} {s : List Char} (hspaced : node.Spaced s) :
    ∃ gap, AllSpace gap ∧ Node.ofSource (.ofChars s) = (node, some (.ofChars gap)) := by
  obtain ⟨hbefore, hafter, hwritten⟩ := hspaced
  next before gap s =>
  refine ⟨gap, hafter, ?_⟩
  have hend := endsNumeral_append hafter endsNumeral_nil
  rw [List.append_nil] at hend
  rw [Node.ofSource, ofChars_append, scanNode_append hbefore, ofChars_append]
  refine hwritten.scannedFrom _ _ hend ?_
  simp only [Source.ofChars, List.length_append, List.length_map]
  omega

/-- Reading a text of a tree is reading the tree. -/
theorem Node.Spaced.readText {α : Type} {node : Node} {s : List Char} (hspaced : node.Spaced s)
    (reader : Reader α) : readText reader (.ofChars s) = reader fullRoom node := by
  obtain ⟨gap, hgap, hsource⟩ := hspaced.ofSource
  have hskip : skipSpace (Source.ofChars gap) = [] := by
    have hall := skipSpace_append hgap []
    rwa [List.append_nil] at hall
  rw [Json.readText, hsource]
  dsimp only
  split
  · next herror => rw [herror]
  · next hok => rw [hok, hskip]; rfl

end NoteCards.Json

import NoteCards.Json.Fault
import NoteCards.Text.Digits
import NoteCards.Text.Source

/-!
# Strings in JSON

A string runs to the next quote that is not escaped. Two defects do not end it but spoil it for a
reader that wants its characters: a surrogate without its partner, and a byte that belongs to no
character. A reader that only passes over the string does not look for them.
-/

namespace NoteCards.Json

open NoteCards.Text

/-- A string as written: its characters, and the first defect that spoils them. -/
structure StringText where
  chars : List Char
  defect : Option Fault
  deriving DecidableEq, Repr

def StringText.value (text : StringText) : Except Fault String :=
  match text.defect with
  | none => .ok (String.ofList text.chars)
  | some fault => .error fault

def byteCount (s : Source) : Nat :=
  s.foldr (fun symbol count => symbol.elim 1 Char.utf8Size + count) 0

/-- The number of four hexadecimal digits at the start of a text, and the text after them. -/
def scanHex (s : Source) : Except Fault (Nat × Source) :=
  match (s.take 4).mapM (·.bind hexValue?) with
  | some [a, b, c, d] => .ok (((a * 16 + b) * 16 + c) * 16 + d, s.drop 4)
  | _ => if byteCount (s.take 4) < 4 then .error .endOfString else .error .invalidEscape

inductive Escape where
  | char (c : Char) (rest : Source)
  | spoiled (defect : Fault) (rest : Source)
  | broken (fault : Fault)

/-- The escape that starts with a leading surrogate, given the text after that surrogate. -/
def scanPartner (leading : Nat) : Source → Escape
  | [] => .broken .endOfString
  | [some '\\'] => .broken .endOfString
  | some '\\' :: some 'u' :: after =>
    match scanHex after with
    | .error fault => .broken fault
    | .ok (trailing, rest) =>
      if 0xDC00 ≤ trailing ∧ trailing ≤ 0xDFFF then
        .char (Char.ofNat (0x10000 + (leading - 0xD800) * 0x400 + (trailing - 0xDC00))) rest
      else .spoiled .loneSurrogate (some '\\' :: some 'u' :: after)
  | rest => .spoiled .unfinishedSurrogate rest

def scanEscape : Source → Escape
  | [] => .broken .endOfString
  | some '"' :: rest => .char '"' rest
  | some '\\' :: rest => .char '\\' rest
  | some '/' :: rest => .char '/' rest
  | some 'b' :: rest => .char '\x08' rest
  | some 'f' :: rest => .char '\x0c' rest
  | some 'n' :: rest => .char '\n' rest
  | some 'r' :: rest => .char '\r' rest
  | some 't' :: rest => .char '\t' rest
  | some 'u' :: rest =>
    match scanHex rest with
    | .error fault => .broken fault
    | .ok (code, after) =>
      if 0xD800 ≤ code ∧ code ≤ 0xDBFF then scanPartner code after
      else if 0xDC00 ≤ code ∧ code ≤ 0xDFFF then .spoiled .loneSurrogate after
      else .char (Char.ofNat code) after
  | _ :: _ => .broken .invalidEscape

/-- A string at the start of a text, and the text after it; or the fault for a reader that wants
the characters and the fault for one that passes over them. -/
inductive StringScan where
  | string (text : StringText) (rest : Source)
  | broken (read skip : Fault)

namespace StringScan

def cons (c : Char) : StringScan → StringScan
  | .string text rest => .string { text with chars := c :: text.chars } rest
  | scan => scan

/-- A string with a defect of an escape before it: this is the defect that is met first. -/
def spoil (defect : Fault) : StringScan → StringScan
  | .string text rest => .string { text with defect := some defect } rest
  | .broken _ skip => .broken defect skip

/-- A string with a stray byte before it, which is noticed only when the string is complete. -/
def stray : StringScan → StringScan
  | .string text rest =>
    .string { text with defect := some (text.defect.getD .invalidCodePoint) } rest
  | scan => scan

end StringScan

/-- The string at the start of a text, after its first quote, in at most `fuel` steps. -/
def scanString : (fuel : Nat) → Source → StringScan
  | 0, _ | _, [] => .broken .endOfString .endOfString
  | _ + 1, some '"' :: rest => .string ⟨[], none⟩ rest
  | fuel + 1, some '\\' :: rest =>
    match scanEscape rest with
    | .char c after => (scanString fuel after).cons c
    | .spoiled defect after => (scanString fuel after).spoil defect
    | .broken fault => .broken fault fault
  | fuel + 1, some c :: rest =>
    if c.toNat < 0x20 then .broken .controlCharacter .controlCharacter
    else (scanString fuel rest).cons c
  | fuel + 1, none :: rest => (scanString fuel rest).stray

end NoteCards.Json

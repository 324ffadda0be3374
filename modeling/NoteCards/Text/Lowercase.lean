import NoteCards.Text.Casing

/-!
# Lower case

Lower case is taken character by character but for two letters. `İ` becomes an `i` and a combining
dot, so a text can grow; and the capital sigma becomes `ς` at the end of a word and `σ` elsewhere,
so the lower case of a part of a text need not be a part of its lower case.
-/

namespace NoteCards.Text

/-- The lower-case form of a character outside any context. -/
def lowerChar (c : Char) : List Char :=
  if c = 'İ' then ['i', '\u0307'] else [Char.ofNat (lowerCode c.toNat)]

/-- Whether the first character that is not passed over is cased. -/
def startsCased (s : List Char) : Bool :=
  match s.dropWhile isCaseIgnorable with
  | [] => false
  | c :: _ => isCased c

/-- Whether a letter stands at the end of a word: a cased character before it, none after it.
The text before it is given from its end. -/
def endsWord (before after : List Char) : Bool :=
  startsCased before && !startsCased after

/-- The lower case of a text that follows the given one, which is held from its end. -/
def lowerAfter (before : List Char) : List Char → List Char
  | [] => []
  | c :: rest =>
    (if c = 'Σ' then [if endsWord before rest then 'ς' else 'σ'] else lowerChar c) ++
      lowerAfter (c :: before) rest

def lower (s : List Char) : List Char :=
  lowerAfter [] s

def lowercase (s : String) : String :=
  String.ofList (lower s.toList)

example : lower "ΟΔΟΣ ΣΑΣ, AΣ.B Σ".toList = "οδος σας, aσ.b σ".toList := by decide +kernel

example : lower "İÀẞǅ".toList = "i\u0307àßǆ".toList := by decide +kernel

end NoteCards.Text

import NoteCards.Text.Ranges

/-!
# Blank characters

The characters that separate words: the property White_Space, twenty-five characters of ten ranges.
Trimming takes them off the ends of a text. A trimmed text neither starts nor ends with one.
-/

namespace NoteCards.Text

/-- The code points with the property White_Space in Unicode 17.0. -/
def blankRanges : Ranges :=
  [(0x9, 0xD), (0x20, 0x20), (0x85, 0x85), (0xA0, 0xA0), (0x1680, 0x1680), (0x2000, 0x200A),
   (0x2028, 0x2029), (0x202F, 0x202F), (0x205F, 0x205F), (0x3000, 0x3000)]

def isBlank (c : Char) : Bool :=
  blankRanges.covers c.toNat

def isSpacing (c : Char) : Bool :=
  c = ' ' || c = '\t'

def skipSpacing (s : List Char) : List Char :=
  s.dropWhile isSpacing

def trimStart (s : List Char) : List Char :=
  s.dropWhile isBlank

def trimEnd (s : List Char) : List Char :=
  (s.reverse.dropWhile isBlank).reverse

def trim (s : List Char) : List Char :=
  trimEnd (trimStart s)

example : ("\u3000 a b\x0b").toList.all isBlank = false := by decide +kernel

example : trim "\u2003 a b\u0085".toList = "a b".toList := by decide +kernel

example (c : Char) (white : c.isWhitespace = true) : isBlank c = true := by
  simp only [Char.isWhitespace, Bool.or_eq_true, decide_eq_true_eq] at white
  rcases white with ((rfl | rfl) | rfl) | rfl <;> decide

end NoteCards.Text

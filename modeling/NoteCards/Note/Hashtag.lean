import NoteCards.Text.Blank
import NoteCards.Text.Letter
import NoteCards.Text.Lines
import NoteCards.Text.Numeral
import NoteCards.Text.WordChar

/-!
# Tags in running text

A tag in the body of a note is a `#` and the longest run of tag characters after it. The `#` stands
at the start of a line or after a character that is neither a `#` nor a word character, and that
character belongs to the tag: where it already ended the tag before, the `#` starts none. A run of
numerals alone is a number, not a tag. Lines between two fences are code and hold no tags.
-/

namespace NoteCards.Hashtag

open NoteCards.Text

def isTagChar (c : Char) : Bool :=
  isLetter c || isNumeral c || c = '_' || c = '/' || c = '-'

/-- Whether a `#` right after a character can start a tag. -/
def opensTag (c : Char) : Bool :=
  !isWordChar c && c ≠ '#'

/-- The runs after the `#` signs of a line that start one; `free` tells whether a `#` at the
start of the given text does. -/
def runsFrom (free : Bool) : List Char → List (List Char)
  | [] => []
  | c :: rest =>
    if c = '#' && free && !(rest.takeWhile isTagChar).isEmpty then
      rest.takeWhile isTagChar :: runsFrom false (rest.dropWhile isTagChar)
    else
      runsFrom (opensTag c) rest
termination_by s => s.length
decreasing_by
  · exact Nat.lt_succ_of_le (List.dropWhile_sublist isTagChar).length_le
  · exact Nat.lt_succ_self _

def ofLine (line : List Char) : List (List Char) :=
  (runsFrom true line).filter fun run => run.any (!isNumeral ·)

def isFence (line : List Char) : Bool :=
  ['\x60', '\x60', '\x60'].isPrefixOf (trimStart line)

/-- The lines outside of code, where `fenced` tells whether the first line is inside. -/
def proseLines (fenced : Bool) : List (List Char) → List (List Char)
  | [] => []
  | line :: rest =>
    if isFence line then proseLines (!fenced) rest
    else if fenced then proseLines fenced rest
    else line :: proseLines fenced rest

/-- The tags of a body, in order, with repetitions and as written. -/
def inBody (body : String) : List String :=
  ((proseLines false (lines body.toList)).flatMap ofLine).map String.ofList

end NoteCards.Hashtag

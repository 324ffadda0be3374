/-!
# Cuts at byte offsets

A text is stored as the bytes of its characters, and a cut is made at a byte offset. There is no cut
past the end of the bytes, and none inside a character; asking for one is a fault.
-/

namespace NoteCards.Text

/-- A cut that cannot be made: its offset is past the end of the text or inside a character. -/
structure BadCut where
  text : String
  offset : Nat
  deriving DecidableEq, Repr

/-- The text before and the text from a byte offset on. -/
def cutAt (s : String) (offset : Nat) : Except BadCut (String × String) :=
  if boundary : String.Pos.Raw.IsValid s ⟨offset⟩ then
    .ok ((s.sliceTo (s.pos ⟨offset⟩ boundary)).copy, (s.sliceFrom (s.pos ⟨offset⟩ boundary)).copy)
  else
    .error ⟨s, offset⟩

def takeBytes (s : String) (offset : Nat) : Except BadCut String :=
  (cutAt s offset).map Prod.fst

def dropBytes (s : String) (offset : Nat) : Except BadCut String :=
  (cutAt s offset).map Prod.snd

/-- The byte offset of the first character that passes a test. -/
def offsetOf? (test : Char → Bool) : List Char → Option Nat
  | [] => none
  | c :: rest => if test c then some 0 else (offsetOf? test rest).map (c.utf8Size + ·)

end NoteCards.Text

/-!
# Stored text

The bytes of a file as they are read: each character that they encode in UTF-8, and `none` for a
byte that belongs to no character. A text is the special case without strays.
-/

namespace NoteCards.Text

/-- Characters in order, with `none` in the place of a stray byte. -/
abbrev Source := List (Option Char)

namespace Source

def ofChars (s : List Char) : Source :=
  s.map some

def ofString (s : String) : Source :=
  ofChars s.toList

/-- The characters of the bytes from a position on, for at most `fuel` steps. -/
def decodeFrom (bytes : ByteArray) : (fuel position : Nat) → Source
  | 0, _ => []
  | fuel + 1, position =>
    if position < bytes.size then
      match bytes.utf8DecodeChar? position with
      | some c => some c :: decodeFrom bytes fuel (position + c.utf8Size)
      | none => none :: decodeFrom bytes fuel (position + 1)
    else
      []

def ofBytes (bytes : ByteArray) : Source :=
  decodeFrom bytes bytes.size 0

def toChars? : Source → Option (List Char)
  | [] => some []
  | none :: _ => none
  | some c :: rest => (toChars? rest).map (c :: ·)

@[simp]
theorem toChars?_ofChars (s : List Char) : toChars? (ofChars s) = some s := by
  induction s with
  | nil => rfl
  | cons c rest ih => simpa [ofChars, toChars?] using ih

end Source

end NoteCards.Text

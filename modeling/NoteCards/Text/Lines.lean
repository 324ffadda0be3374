/-!
# Lines

A text is cut at its line feeds. A line is given without its line feed and without one carriage
return before it; a carriage return at the very end of the text is kept, and no empty line is
counted after a final line feed.
-/

namespace NoteCards.Text

def lines : List Char → List (List Char)
  | [] => []
  | '\n' :: rest => [] :: lines rest
  | '\r' :: '\n' :: rest => [] :: lines rest
  | c :: rest =>
    match lines rest with
    | [] => [[c]]
    | line :: more => (c :: line) :: more

example : lines "a\r\n\nb\r".toList = ["a".toList, [], "b\r".toList] := by decide

end NoteCards.Text

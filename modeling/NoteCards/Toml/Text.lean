import NoteCards.Text.Blank
import NoteCards.Text.Digits

/-!
# White space, strings and keys of TOML

Each function takes its part off the start of a text and gives the text after it, or nothing where
the text does not follow the grammar.
-/

namespace NoteCards.Toml

open NoteCards.Text

/-- A part of a text and the text after it. -/
abbrev Scan (α : Type) := Option (α × List Char)

/-! ### White space and comments -/

/-- Whether a character may stand neither in a comment nor in a string on one line. -/
def isControl (c : Char) : Bool :=
  (c.toNat < 0x20 && c ≠ '\t') || c = '\x7f'

def afterBreak? : List Char → Option (List Char)
  | '\n' :: rest => some rest
  | '\r' :: '\n' :: rest => some rest
  | _ => none

def skipLayout (inComment : Bool) : List Char → Option (List Char)
  | [] => some []
  | '\n' :: rest => skipLayout false rest
  | '\r' :: '\n' :: rest => skipLayout false rest
  | c :: rest =>
    if inComment then if isControl c then none else skipLayout true rest
    else if isSpacing c then skipLayout false rest
    else if c = '#' then skipLayout true rest
    else some (c :: rest)

/-- The text from the end of its first line on, where that line holds at most a comment. -/
def skipComment (inComment : Bool) : List Char → Option (List Char)
  | [] => some []
  | '\n' :: rest => some rest
  | '\r' :: '\n' :: rest => some rest
  | c :: rest =>
    if inComment then if isControl c then none else skipComment true rest
    else if isSpacing c then skipComment false rest
    else if c = '#' then skipComment true rest
    else none

/-! ### Strings -/

def Scan.cons (c : Char) (scan : Scan (List Char)) : Scan (List Char) :=
  scan.map fun (chars, rest) => (c :: chars, rest)

def scanCode (digits : Nat) (s : List Char) : Scan Char :=
  let code := s.take digits
  if code.length < digits then none
  else
    (code.mapM hexValue?).bind fun values =>
      let n := values.foldl (fun n digit => 16 * n + digit) 0
      if n.isValidChar then some (Char.ofNat n, s.drop digits) else none

def scanEscape : List Char → Scan Char
  | 'b' :: rest => some ('\x08', rest)
  | 't' :: rest => some ('\t', rest)
  | 'n' :: rest => some ('\n', rest)
  | 'f' :: rest => some ('\x0c', rest)
  | 'r' :: rest => some ('\r', rest)
  | 'e' :: rest => some ('\x1b', rest)
  | '"' :: rest => some ('"', rest)
  | '\\' :: rest => some ('\\', rest)
  | 'x' :: rest => scanCode 2 rest
  | 'u' :: rest => scanCode 4 rest
  | 'U' :: rest => scanCode 8 rest
  | _ => none

/-- A string with escapes on one line, after its first quote, in at most `fuel` steps. -/
def scanBasic : (fuel : Nat) → List Char → Scan (List Char)
  | 0, _ | _, [] => none
  | _ + 1, '"' :: rest => some ([], rest)
  | fuel + 1, '\\' :: rest => (scanEscape rest).bind fun (c, after) => (scanBasic fuel after).cons c
  | fuel + 1, c :: rest => if isControl c then none else (scanBasic fuel rest).cons c

def scanLiteral : List Char → Scan (List Char)
  | [] => none
  | c :: rest =>
    if c = '\'' then some ([], rest)
    else if isControl c then none
    else (scanLiteral rest).cons c

/-- The end of a string on several lines: three quotes, before which two more may stand that belong
to the string. -/
def scanClose (quote : Char) (s : List Char) : Scan (List Char) :=
  let quotes := (s.takeWhile (· = quote)).length
  if quotes < 3 then none
  else
    let inside := min (quotes - 3) 2
    some (List.replicate inside quote, s.drop (inside + 3))

/-- A string with escapes on several lines, after its first three quotes, in at most `fuel` steps.
A backslash at the end of a line takes the white space up to the next visible character. -/
def scanBasicLines : (fuel : Nat) → List Char → Scan (List Char)
  | 0, _ | _, [] => none
  | fuel + 1, c :: rest =>
    if c = '"' then
      match scanClose '"' (c :: rest) with
      | some found => some found
      | none => (scanBasicLines fuel rest).cons c
    else if c = '\\' then
      match afterBreak? (skipSpacing rest) with
      | some after =>
        scanBasicLines fuel (after.dropWhile fun d => isSpacing d || d = '\n' || d = '\r')
      | none => (scanEscape rest).bind fun (d, after) => (scanBasicLines fuel after).cons d
    else
      match afterBreak? (c :: rest) with
      | some after => (scanBasicLines fuel after).cons '\n'
      | none => if isControl c then none else (scanBasicLines fuel rest).cons c

/-- A string without escapes on several lines, after its first three quotes, in at most `fuel`
steps. -/
def scanLiteralLines : (fuel : Nat) → List Char → Scan (List Char)
  | 0, _ | _, [] => none
  | fuel + 1, c :: rest =>
    if c = '\'' then
      match scanClose '\'' (c :: rest) with
      | some found => some found
      | none => (scanLiteralLines fuel rest).cons c
    else
      match afterBreak? (c :: rest) with
      | some after => (scanLiteralLines fuel after).cons '\n'
      | none => if isControl c then none else (scanLiteralLines fuel rest).cons c

/-- The text after the line break at its start, if there is one. -/
def dropBreak (s : List Char) : List Char :=
  (afterBreak? s).getD s

/-- The string at the start of a text, of any of the four forms. -/
def scanString (s : List Char) : Scan (List Char) :=
  match s with
  | '"' :: '"' :: '"' :: rest => scanBasicLines (s.length + 1) (dropBreak rest)
  | '\'' :: '\'' :: '\'' :: rest => scanLiteralLines (s.length + 1) (dropBreak rest)
  | '"' :: rest => scanBasic (s.length + 1) rest
  | '\'' :: rest => scanLiteral rest
  | _ => none

/-! ### Keys -/

def isKeyChar (c : Char) : Bool :=
  c.isAlphanum || c = '_' || c = '-'

def scanKeyPart (s : List Char) : Scan String :=
  let found : Scan (List Char) := match s with
    | '"' :: rest => scanBasic (s.length + 1) rest
    | '\'' :: rest => scanLiteral rest
    | _ =>
      let key := s.takeWhile isKeyChar
      if key.isEmpty then none else some (key, s.dropWhile isKeyChar)
  found.map fun (key, rest) => (String.ofList key, rest)

/-- A key: parts with points between them, in at most `fuel` parts. White space around the parts
does not count. -/
def scanKeyWithin : (fuel : Nat) → List Char → Scan (List String)
  | 0, _ => none
  | fuel + 1, s =>
    (scanKeyPart (skipSpacing s)).bind fun (part, rest) =>
      match skipSpacing rest with
      | '.' :: more => (scanKeyWithin fuel more).map fun (parts, after) => (part :: parts, after)
      | after => some ([part], after)

def scanKey (s : List Char) : Scan (List String) :=
  scanKeyWithin (s.length + 1) s

end NoteCards.Toml

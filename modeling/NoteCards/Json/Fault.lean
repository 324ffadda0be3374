import NoteCards.Json.Printer
import NoteCards.Text.Quoted

/-!
# What can be wrong with a JSON text

A text can break the grammar of JSON, or run out too early: both are faults of the text. A text
without a fault up to some point can still hold a value of the wrong sort there, which is an error
of the data.
-/

namespace NoteCards.Json

inductive Fault where
  /-- The text ends where a value should start. -/
  | endOfValue
  /-- The text ends inside a number or a word. -/
  | endOfWord
  | endOfString
  | endOfList
  | endOfObject
  | expectedValue
  | expectedWord
  | expectedColon
  | expectedListSeparator
  | expectedObjectSeparator
  | keyNotString
  | trailingComma
  | trailingCharacters
  | invalidNumber
  | numberOutOfRange
  | invalidEscape
  | controlCharacter
  | invalidCodePoint
  | loneSurrogate
  | unfinishedSurrogate
  | tooDeep
  deriving DecidableEq, Repr

namespace Fault

def isEnd : Fault → Bool
  | .endOfValue | .endOfWord | .endOfString | .endOfList | .endOfObject => true
  | _ => false

def message : Fault → String
  | .endOfValue | .endOfWord => "EOF while parsing a value"
  | .endOfString => "EOF while parsing a string"
  | .endOfList => "EOF while parsing a list"
  | .endOfObject => "EOF while parsing an object"
  | .expectedValue => "expected value"
  | .expectedWord => "expected ident"
  | .expectedColon => "expected `:`"
  | .expectedListSeparator => "expected `,` or `]`"
  | .expectedObjectSeparator => "expected `,` or `\x7d`"
  | .keyNotString => "key must be a string"
  | .trailingComma => "trailing comma"
  | .trailingCharacters => "trailing characters"
  | .invalidNumber => "invalid number"
  | .numberOutOfRange => "number out of range"
  | .invalidEscape => "invalid escape"
  | .controlCharacter => "control character (\\u0000-\\u001F) found while parsing a string"
  | .invalidCodePoint => "invalid unicode code point"
  | .loneSurrogate => "lone leading surrogate in hex escape"
  | .unfinishedSurrogate => "unexpected end of hex escape"
  | .tooDeep => "recursion limit exceeded"

end Fault

/-- What stands in the text where something else is wanted. -/
inductive Found where
  | null
  | boolean (value : Bool)
  | integer (value : Int)
  | number (value : Binary64)
  | string (value : String)
  | sequence
  | map
  deriving DecidableEq, Repr

def Found.describe : Found → String
  | .null => "null"
  | .boolean b => "boolean `" ++ (if b then "true" else "false") ++ "`"
  | .integer n => "integer `" ++ toString n ++ "`"
  | .number x => "floating point `" ++ String.ofList (writeNumber x) ++ "`"
  | .string s => "string " ++ Text.quote s
  | .sequence => "sequence"
  | .map => "map"

inductive DataError where
  | wrongType (found : Found) (wanted : String)
  | wrongValue (found : Found) (wanted : String)
  | wrongLength (length : Nat) (wanted : String)
  | missingField (name : String)
  | duplicateField (name : String)
  | unknownVariant (name : String) (variants : List String)
  | noVariant (type : String)
  deriving DecidableEq, Repr

def DataError.message : DataError → String
  | .wrongType found wanted => "invalid type: " ++ found.describe ++ ", expected " ++ wanted
  | .wrongValue found wanted => "invalid value: " ++ found.describe ++ ", expected " ++ wanted
  | .wrongLength length wanted => "invalid length " ++ toString length ++ ", expected " ++ wanted
  | .missingField name => "missing field `" ++ name ++ "`"
  | .duplicateField name => "duplicate field `" ++ name ++ "`"
  | .unknownVariant name variants =>
    "unknown variant `" ++ name ++ "`, expected one of " ++
      ", ".intercalate (variants.map fun variant => "`" ++ variant ++ "`")
  | .noVariant type => "data did not match any variant of untagged enum " ++ type

inductive Error where
  | fault (fault : Fault)
  | data (error : DataError)
  deriving DecidableEq, Repr

def Error.message : Error → String
  | .fault f => f.message
  | .data e => e.message

end NoteCards.Json

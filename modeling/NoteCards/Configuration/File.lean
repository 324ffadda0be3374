import NoteCards.Configuration.Disk
import NoteCards.Configuration.Settings
import NoteCards.Json.Reader
import NoteCards.Toml.Document

/-!
# Configuration files

The format of a configuration file is told by the extension of its name. Two formats are modelled
here, TOML and JSON; a file with any other extension is not read. A path that names no file is tried
again with each extension appended. The settings of the file lie over the initial ones.

The configuration of a user has a place of its own, below `XDG_CONFIG_HOME` or else below
`.config` in the home directory; a file with the initial settings is written there first if
nothing is there.
-/

namespace NoteCards.Configuration

open NoteCards.Data NoteCards.Text

inductive Error where
  | creating (directory : String)
  | reading (path : String)
  | invalid (path : String)
  deriving DecidableEq, Repr

def Error.message : Error → String
  | .creating directory => "creating " ++ directory
  | .reading path => "reading config " ++ path
  | .invalid path => "invalid config " ++ path

inductive Format where
  | toml
  | json
  deriving DecidableEq, Repr

def formats : List (String × Format) :=
  [("toml", .toml), ("json", .json)]

/-- The parts of a path up to the last one that says more than that it is a directory. -/
def significantParts (path : String) : List (List Char) :=
  ((Disk.splitPath path.toList).reverse.dropWhile fun part => part.isEmpty || part = ['.']).reverse

def fileName? (path : String) : Option (List Char) :=
  (significantParts path).getLast?.filter (· ≠ ['.', '.'])

/-- The extension of a path: the text after the last point of the name of its file, unless that
point is its first character. -/
def extension? (path : String) : Option String :=
  (fileName? path).bind fun name =>
    let ending := name.reverse.takeWhile (· ≠ '.')
    if name.length ≤ ending.length + 1 then none else some (String.ofList ending.reverse)

def appendExtension? (path extension : String) : Option String :=
  (fileName? path).map fun _ =>
    String.ofList (['/'].intercalate (significantParts path)) ++ "." ++ extension

/-- The paths that are tried where a path names no file, each with its format. -/
def alternatives (path : String) : List (String × Format) :=
  formats.filterMap fun (extension, format) =>
    (appendExtension? path extension).map fun alternative => (alternative, format)

/-- The contents and the format of the file that a path leads to. -/
def locate? (disk : Disk) (path : String) : Option (Source × Format) :=
  match disk path with
  | .file contents =>
    (extension? path).bind fun extension =>
      (formats.lookup extension).map fun format => (contents, format)
  | _ =>
    (alternatives path).findSome? fun (alternative, format) =>
      match disk alternative with
      | .file contents => some (contents, format)
      | _ => none

def dropMark : List Char → List Char
  | '\ufeff' :: rest => rest
  | s => s

/-- A value of a JSON file as one of a configuration: whole numbers have 63 bits and a sign. -/
def fitInteger (n : Int) : Value :=
  if n ≤ Int64.maxValue.toInt then .integer n else .number (.ofInt n)

mutual

/-- A value of a JSON file as one of a configuration. -/
def ofJson : Value → Value
  | .integer n => fitInteger n
  | .array items => .array (itemsOfJson items)
  | .object entries => .object (entriesOfJson entries)
  | value => value

/-- The items of an array of a JSON file as ones of a configuration. -/
def itemsOfJson : List Value → List Value
  | [] => []
  | item :: rest => ofJson item :: itemsOfJson rest

/-- The entries of an object of a JSON file as ones of a configuration. Of the entries of one key
the last one counts. -/
def entriesOfJson : List (String × Value) → List (String × Value)
  | [] => []
  | (key, value) :: rest =>
    if rest.any (·.1 = key) then entriesOfJson rest
    else (key, ofJson value) :: entriesOfJson rest

end

def layer? (format : Format) (contents : Source) : Option (List (String × Value)) :=
  contents.toChars?.bind fun chars =>
    match format with
    | .toml => Toml.read? (dropMark chars)
    | .json =>
      match Json.readText Json.readValue (.ofChars (dropMark chars)) with
      | .ok (.object entries) => some (entriesOfJson entries)
      | _ => none

/-- The root of the configuration file that a path leads to. -/
def layerAt? (disk : Disk) (path : String) : Option (List (String × Value)) :=
  (locate? disk path).bind fun (contents, format) => layer? format contents

def load (disk : Disk) (path : String) : Except Error Settings :=
  match layerAt? disk path with
  | none => .error (.reading path)
  | some layer =>
    match settingsOver? layer with
    | none => .error (.invalid path)
    | some settings => .ok settings

/-! ### The configuration of a user -/

/-- Where the configuration of a user is looked for. -/
structure Surroundings where
  configHome : Option String
  home : Option String

namespace Surroundings

def directory (surroundings : Surroundings) : String :=
  let base := match surroundings.configHome with
    | some configHome => configHome
    | none => Disk.join (surroundings.home.getD ".") ".config"
  Disk.join base "cardgraph"

def path (surroundings : Surroundings) : String :=
  Disk.join surroundings.directory "config.toml"

end Surroundings

/-- The configuration file that is written where there is none. -/
def initialText : String :=
  String.join <| [
    "[display]",
    "card_width    = 240.0",
    "card_height   = 160.0",
    "font_size     = 14.0",
    "excerpt_lines = 3",
    "show_tags     = true",
    "show_arrows   = true",
    "",
    "[forces]",
    "repel_force   = 10.0",
    "link_force    = 1.0",
    "link_distance = 250.0",
    "center_force  = 0.5"].map (· ++ "\n")

/-- A file to be written, with the directories on the way to it. -/
structure Creation where
  directory : String
  path : String
  contents : String
  deriving DecidableEq, Repr

/-- What has to be written before the configuration of a user can be read. -/
def creation? (disk : Disk) (surroundings : Surroundings) : Except Error (Option Creation) :=
  match disk surroundings.path with
  | .missing =>
    let blocked := (Disk.ancestors surroundings.directory).any fun path =>
      match disk path with
      | .file _ => true
      | _ => false
    if blocked then .error (.creating surroundings.directory)
    else .ok (some ⟨surroundings.directory, surroundings.path, initialText⟩)
  | _ => .ok none

def Creation.onto (creation : Creation) (disk : Disk) : Disk := fun path =>
  if path = creation.path then .file (.ofString creation.contents) else disk path

/-- The settings of a user, and the file that has to be written for them. -/
def loadHome (disk : Disk) (surroundings : Surroundings) :
    Except Error Settings × Option Creation :=
  match creation? disk surroundings with
  | .error e => (.error e, none)
  | .ok none => (load disk surroundings.path, none)
  | .ok (some creation) => (load (creation.onto disk) surroundings.path, some creation)

end NoteCards.Configuration

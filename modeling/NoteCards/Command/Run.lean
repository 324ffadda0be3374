import NoteCards.Command.Arguments
import NoteCards.Configuration.File
import NoteCards.Data.Record
import NoteCards.Json.RecordReader
import NoteCards.Simulation.Parameters

/-!
# Running a command

A run takes what the paths lead to and gives what is printed, the status, and the file that is to be
written, if any. Nothing is printed on the standard output by a run that fails.
-/

namespace NoteCards

open NoteCards.Configuration

structure Outcome where
  status : Nat
  output : String := ""
  complaint : String := ""
  creation : Option Creation := none

namespace Outcome

def success (output : String) : Outcome := { status := 0, output }

def failure (reason : String) : Outcome := { status := 1, complaint := "Error: " ++ reason }

def usage : Outcome := { status := 2, complaint := "error: the arguments are not understood" }

end Outcome

namespace Command

/-- Each path with the end of a line behind it. -/
def pathLines (paths : List String) : String := String.join (paths.map (· ++ "\n"))

def runSearch (disk : Disk) (query notes : String) : Outcome :=
  match disk notes with
  | .missing => .failure ("opening " ++ notes)
  | .directory => .failure "Is a directory (os error 21)"
  | .file contents =>
    match Note.readAll contents with
    | .error e => .failure e.message
    | .ok records => .success (pathLines (Note.search (Query.parse query) records))

/-- The settings of a configuration file or of the user, and the file to be written for them. -/
def loadSettings (disk : Disk) (surroundings : Surroundings) (config : Option String) :
    Except Configuration.Error Settings × Option Creation :=
  match config with
  | some path => (load disk path, none)
  | none => loadHome disk surroundings

def withSettings (disk : Disk) (surroundings : Surroundings) (config : Option String)
    (print : Settings → Outcome) : Outcome :=
  match loadSettings disk surroundings config with
  | (.error e, creation) => { Outcome.failure e.message with creation }
  | (.ok loaded, creation) => { print loaded with creation }

/-- Prints the parameters of the simulation for the settings pulled into their ranges. -/
def printParameters (settings : Settings) : Outcome :=
  .success (Json.pretty (Parameters.ofSettings settings.clamped standardPhysics).toValue ++ "\n")

def printSettings (reset : List String) (settings : Settings) : Outcome :=
  match settings.resetFields reset with
  | (.error e, _) => .failure e.message
  | (.ok (), changed) => .success (Json.pretty changed.toValue ++ "\n")

def run (disk : Disk) (surroundings : Surroundings) : Command → Outcome
  | .search query notes => runSearch disk query notes
  | .forces config => withSettings disk surroundings config printParameters
  | .settings config reset => withSettings disk surroundings config (printSettings reset)

def runLine (disk : Disk) (surroundings : Surroundings) (line : List String) : Outcome :=
  match parse? line with
  | none => .usage
  | some command => command.run disk surroundings

/-- The paths that a configuration file may be found at. -/
def candidates (path : String) : List String :=
  path :: (alternatives path).map (·.1)

/-- The paths that a command looks at. -/
def paths (surroundings : Surroundings) : Command → List String
  | .search _ notes => [notes]
  | .forces (some path) | .settings (some path) _ => candidates path
  | .forces none | .settings none _ =>
    Disk.ancestors surroundings.directory ++ candidates surroundings.path

end Command

end NoteCards

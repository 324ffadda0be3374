import NoteCards.Command.Run

/-!
# The program

Looks at the files that the command needs, runs it, and carries out what it comes to.
-/

namespace NoteCards.Main

open NoteCards.Configuration NoteCards.Text

/-- What a path leads to. A directory can be opened, but reading from it fails with code 21. -/
def look (path : String) : IO Entry := do
  try
    return .file (Source.ofBytes (← IO.FS.readBinFile path))
  catch
    | .inappropriateType _ 21 _ => return .directory
    | _ => return .missing

def lookAll (paths : List String) : IO Disk := do
  let entries ← paths.mapM fun path => do return (path, ← look path)
  return fun path => (entries.lookup path).getD .missing

/-- Writes a file and the directories on the way to it. -/
def create (creation : Creation) : IO Unit := do
  if !creation.directory.isEmpty then IO.FS.createDirAll creation.directory
  IO.FS.writeFile creation.path creation.contents

end NoteCards.Main

open NoteCards in
def main (line : List String) : IO UInt32 := do
  let surroundings : Configuration.Surroundings :=
    { configHome := ← IO.getEnv "XDG_CONFIG_HOME", home := ← IO.getEnv "HOME" }
  let paths := ((Command.parse? line).map (·.paths surroundings)).getD []
  let outcome := Command.runLine (← Main.lookAll paths) surroundings line
  if let some creation := outcome.creation then Main.create creation
  IO.print outcome.output
  if !outcome.complaint.isEmpty then IO.eprintln outcome.complaint
  return outcome.status.toUInt32

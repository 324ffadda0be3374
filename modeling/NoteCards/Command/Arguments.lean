/-!
# Arguments of the command line

A command is a word with options and positional arguments after it. An option takes the next
argument, or the text after an equals sign, as its value. An argument that starts with a minus sign
is an option, but for a single minus sign, and but for those after `--`.
-/

namespace NoteCards

inductive Command where
  | search (query notes : String)
  | forces (config : Option String)
  | settings (config : Option String) (reset : List String)
  deriving DecidableEq, Repr

namespace Command

inductive ValueOption where
  | notes
  | config
  | reset
  deriving DecidableEq, Repr

def ValueOption.ofName? (name : String) : Option ValueOption :=
  [("--notes", notes), ("--config", config), ("--reset", reset)].lookup name

inductive Verb where
  | search
  | forces
  | settings
  deriving DecidableEq, Repr

def Verb.ofName? (name : String) : Option Verb :=
  [("search", search), ("forces", forces), ("settings", settings)].lookup name

def Verb.options : Verb → List ValueOption
  | .search => [.notes]
  | .forces => [.config]
  | .settings => [.config, .reset]

structure Arguments where
  debug : Bool := false
  positional : List String := []
  notes : Option String := none
  config : Option String := none
  reset : List String := []
  deriving DecidableEq, Repr

/-- A path that is given for the first time; paths are not empty. -/
def firstPath (old : Option String) (new : String) : Option String :=
  if old.isSome || new.isEmpty then none else some new

namespace Arguments

def put (arguments : Arguments) (value : String) : ValueOption → Option Arguments
  | .notes => (firstPath arguments.notes value).map ({ arguments with notes := · })
  | .config => (firstPath arguments.config value).map ({ arguments with config := · })
  | .reset => some { arguments with reset := arguments.reset ++ [value] }

def addPositional (arguments : Arguments) (values : List String) : Arguments :=
  { arguments with positional := arguments.positional ++ values }

end Arguments

def isOption (argument : String) : Bool :=
  argument.toList.head? = some '-' && argument ≠ "-"

/-- The name of an option and the value after its equals sign, if it has one. -/
def splitOption (argument : String) : String × Option String :=
  let chars := argument.toList
  match chars.dropWhile (· ≠ '=') with
  | [] => (argument, none)
  | _ :: value => (String.ofList (chars.takeWhile (· ≠ '=')), some (String.ofList value))

def findOption? (options : List ValueOption) (name : String) : Option ValueOption :=
  (ValueOption.ofName? name).filter options.contains

/-- The arguments of a command with the given options; none where they are not as they should be. -/
def scanArguments (options : List ValueOption) (found : Arguments) :
    List String → Option Arguments
  | [] => some found
  | argument :: rest =>
    if argument = "--" then some (found.addPositional rest)
    else if !isOption argument then scanArguments options (found.addPositional [argument]) rest
    else if argument = "--debug" then
      if found.debug then none else scanArguments options { found with debug := true } rest
    else
      match splitOption argument, rest with
      | (name, some value), rest =>
        match (findOption? options name).bind (found.put value) with
        | none => none
        | some next => scanArguments options next rest
      | (_, none), [] => none
      | (name, none), value :: more =>
        if isOption value then none
        else
          match (findOption? options name).bind (found.put value) with
          | none => none
          | some next => scanArguments options next more
  termination_by line => line.length

def ofArguments? (arguments : Arguments) : Verb → Option Command
  | .search =>
    match arguments.positional, arguments.notes with
    | [query], some notes => some (.search query notes)
    | _, _ => none
  | .forces => if arguments.positional.isEmpty then some (.forces arguments.config) else none
  | .settings =>
    if arguments.positional.isEmpty then some (.settings arguments.config arguments.reset) else none

def parseVerb? : List String → Option Command
  | [] => none
  | word :: rest =>
    (Verb.ofName? word).bind fun verb =>
      (scanArguments verb.options {} rest).bind fun arguments => ofArguments? arguments verb

/-- The command of a command line; none where the line is not as it should be. -/
def parse? : List String → Option Command
  | "--debug" :: rest => parseVerb? rest
  | line => parseVerb? line

end Command

end NoteCards

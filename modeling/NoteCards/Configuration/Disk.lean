import NoteCards.Text.Source

/-!
# Files

What a path leads to: nothing, a directory, or a file with its contents. Paths are resolved step by
step, and every step but the last has to lead to a directory.
-/

namespace NoteCards

open NoteCards.Text

inductive Entry where
  | missing
  | directory
  | file (contents : Source)

abbrev Disk := String → Entry

namespace Disk

def splitPath (path : List Char) : List (List Char) :=
  path.foldr
    (fun c parts =>
      if c = '/' then [] :: parts
      else
        match parts with
        | [] => [[c]]
        | part :: rest => (c :: part) :: rest)
    [[]]

/-- A path within a directory; an absolute path or an empty directory stands for itself. -/
def join (directory name : String) : String :=
  if directory.isEmpty then name
  else if directory.toList.getLast? = some '/' then directory ++ name
  else directory ++ "/" ++ name

/-- The directories on the way to a path that names one, from the outermost on. -/
def ancestors (path : String) : List String :=
  let parts := splitPath path.toList
  (List.range parts.length).map fun count =>
    String.ofList (['/'].intercalate (parts.take (count + 1)))

/-! ### A tree of files in memory -/

abbrev Tree := List (List (List Char) × Source)

/-- Whether a path is that of a directory: some file lies below it. -/
def Tree.isDirectory (tree : Tree) (path : List (List Char)) : Bool :=
  path.isEmpty || tree.any fun (name, _) => path.isPrefixOf name && name != path

/-- The path that parts lead to from a directory; none where a step leads nowhere. -/
def Tree.resolve? (tree : Tree) (directory : List (List Char)) :
    List (List Char) → Option (List (List Char))
  | [] => some directory
  | part :: parts =>
    if !tree.isDirectory directory then none
    else if part.isEmpty || part = ['.'] then tree.resolve? directory parts
    else if part = ['.', '.'] then tree.resolve? directory.dropLast parts
    else tree.resolve? (directory ++ [part]) parts

def Tree.ofList (files : List (String × Source)) : Tree :=
  files.map fun (path, contents) =>
    ((splitPath path.toList).filter fun part => !part.isEmpty && part != ['.'], contents)

/-- The disk that holds a tree; absolute paths lead nowhere. -/
def ofFiles (files : List (String × Source)) : Disk := fun path =>
  let tree := Tree.ofList files
  if path.isEmpty || path.toList.head? = some '/' then .missing
  else
    match tree.resolve? [] (splitPath path.toList) with
    | none => .missing
    | some place =>
      match tree.find? (·.1 = place) with
      | some (_, contents) => .file contents
      | none => if tree.isDirectory place then .directory else .missing

end Disk

end NoteCards

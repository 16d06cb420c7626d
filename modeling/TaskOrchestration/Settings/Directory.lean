import TaskOrchestration.Text.Segment

/-!
# Files and the paths to them

A directory lists the files that can be read, each with the one name that leads to it without a
detour, from the current directory or from the root. A path is a number of steps. It leads to a file
if its steps, taken one after the other, end at the name of that file.
-/

namespace TaskOrchestration

/-- The files that can be read: names with contents. A file below the current directory is named
`a/b`, one outside of it `../a/b`, or `/a/b` from the root. -/
abbrev Directory := List (String × String)

namespace Directory

/-- The step that leads to the directory above. -/
def up : List Char := ['.', '.']

/-- The steps of a path, without those that stay where they are. The root counts as a step, the
empty one. -/
def steps (path : String) : List (List Char) :=
  let taken := (Text.splitOn '/' path.toList).filter fun step => !step.isEmpty && step != ['.']
  if path.toList.head? == some '/' then [] :: taken else taken

/-- The path that takes these steps. -/
def ofSteps (steps : List (List Char)) : String := String.ofList (['/'].intercalate steps)

/-- Whether there are files below a place. -/
def isListed (d : Directory) (place : List (List Char)) : Bool :=
  d.any fun file => place.isPrefixOf (steps file.1).dropLast

/-- The directory above a place. The root is above itself, and what has no files below it is no
directory that could be left. -/
def above? (d : Directory) (place : List (List Char)) : Option (List (List Char)) :=
  match place.getLast? with
  | none => some [up]
  | some [] => some place
  | some step =>
    if step == up then some (place ++ [up])
    else if d.isListed place then some place.dropLast
    else none

/-- Where a step leads from a place. -/
def step? (d : Directory) (place : List (List Char)) (step : List Char) :
    Option (List (List Char)) :=
  if step == up then d.above? place else some (place ++ [step])

/-- Where steps lead from a place, taken one after the other. -/
def follow? (d : Directory) (place steps : List (List Char)) : Option (List (List Char)) :=
  steps.foldlM d.step? place

/-- What is written in the file that a path leads to. -/
def content? (d : Directory) (path : String) : Option String := do
  let place ← d.follow? [] (steps path)
  d.lookup (ofSteps place)

/-- Whether the last step of a path is a name, so that it can mean a file. -/
def endsInName (path : String) : Bool :=
  match (steps path).getLast? with
  | none | some [] => false
  | some step => step != up

/-- Whether a path is written as that of a directory. No file has that path, but with an extension
added it means a file all the same. -/
def endsAsDirectory (path : String) : Bool :=
  let last := Text.afterLast '/' path.toList
  last.isEmpty || last == ['.']

/-- The extension of a path: what follows the last point of its last part, unless that starts the
part. -/
def extension? (path : String) : Option String :=
  let name := Text.afterLast '/' path.toList
  if (name.drop 1).contains '.' then some (String.ofList (Text.afterLast '.' name)) else none

end Directory

end TaskOrchestration

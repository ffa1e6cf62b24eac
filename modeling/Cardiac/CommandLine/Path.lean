import Cardiac.Text.Pieces

/-!
# Paths

A path is a text with its components between slashes. Two paths are spelled alike if they have
the same components; blank components and `.` count for nothing there, except for a `.` at the
very front. What a path leads to is another matter, and needs a disk.
-/
namespace Cardiac.CommandLine.Path

/-- The parts of a path between its slashes, blank ones included. -/
def parts (path : String) : List String := Text.piecesOf '/' path

def isAbsolute (path : String) : Bool := path.toList.head? = some '/'

/-- The components that count, after a slash for an absolute path. -/
def components (path : String) : List String :=
  let named := (parts path).filter fun part => part ≠ "" ∧ part ≠ "."
  if isAbsolute path then "/" :: named
  else if (parts path).head? = some "." then "." :: named
  else named

def spelledAlike (first second : String) : Bool := components first = components second

/-- A path, last character first, without what follows its last component. -/
def dropTail : List Char → List Char
  | '/' :: rest => dropTail rest
  | '.' :: '/' :: rest => dropTail rest
  | reversed => reversed

/-- The directory part and the name of a path, both without what follows the name; a path that
ends in `.` or `..` names no file. -/
def fileName? (path : List Char) : Option (List Char × List Char) :=
  let reversed := dropTail path.reverse
  let name := (reversed.takeWhile (· ≠ '/')).reverse
  if name = [] ∨ name = ['.'] ∨ name = ['.', '.'] then none
  else some ((reversed.dropWhile (· ≠ '/')).reverse, name)

/-- A file name before and behind its last dot. A dot in front starts no extension. -/
def splitName (name : List Char) : List Char × Option (List Char) :=
  let reversed := name.reverse
  let extension := (reversed.takeWhile (· ≠ '.')).reverse
  match (reversed.dropWhile (· ≠ '.')) with
  | [] => (name, none)
  | _ :: [] => (name, none)
  | _ :: stem => (stem.reverse, some extension)

/-- The path with an extension in place of the one it has: as many characters as that one has
are taken off its end, and the rest gets the new one behind its stem. -/
def withExtension (path extension : String) : String :=
  let chars := path.toList
  let old := ((fileName? chars).bind fun (_, name) => (splitName name).2).getD []
  let kept := chars.take (chars.length - old.length)
  match fileName? kept with
  | none => String.ofList kept
  | some (directory, name) =>
    String.ofList (directory ++ (splitName name).1) ++ "." ++ extension

end Cardiac.CommandLine.Path

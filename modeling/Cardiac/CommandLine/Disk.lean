import Cardiac.CommandLine.Path
import Cardiac.CommandLine.Script

/-!
# Disks

A disk has files and folders at absolute locations and a current folder. A path is followed
component by component: every component but the last must lead to a folder, `..` leads to the
parent, and the top folder is its own parent. Slashes behind the last name ask for a folder.
There are no links.
-/
namespace Cardiac.CommandLine

/-- The names on the way from the top folder. -/
abbrev Location := List String

structure Disk where
  files : List (Location × ByteArray)
  folders : List Location
  current : Location

namespace Disk

/-- A location is a folder if it is noted as one or something lies below it. -/
def isFolder (disk : Disk) (location : Location) : Bool :=
  location.isEmpty || disk.folders.any (location.isPrefixOf ·) ||
    disk.files.any fun (file, _) => file ≠ location && location.isPrefixOf file

def file? (disk : Disk) (location : Location) : Option ByteArray := disk.files.lookup location

/-- What a path leads to. -/
inductive Target where
  | file (location : Location)
  | folder
  /-- Nothing yet, but a file could be made here. -/
  | free (location : Location)
  deriving DecidableEq, Repr

/-- What a path is followed for. -/
inductive Access where
  | reading
  | writing
  deriving DecidableEq, Repr

/-- Follows the parts of a path from a location that exists. A folder cannot be written, so for
writing a last name with slashes behind it is refused without being looked at. -/
def follow (disk : Disk) (access : Access) (location : Location) :
    List String → Except FileError Target
  | [] => .ok (if disk.isFolder location then .folder else .file location)
  | part :: rest =>
    if !disk.isFolder location then .error .notADirectory
    else if part = "" ∨ part = "." then disk.follow access location rest
    else if part = ".." then disk.follow access location.dropLast rest
    else if access = .writing ∧ rest ≠ [] ∧ rest.all (· = "") then .error .isADirectory
    else if 255 < part.utf8ByteSize then .error .nameTooLong
    else
      let below := location ++ [part]
      if disk.isFolder below || (disk.file? below).isSome then disk.follow access below rest
      else if rest = [] then .ok (.free below)
      else .error .notFound

/-- What a path leads to. Only paths of less than 4096 bytes are followed at all. -/
def resolve (disk : Disk) (access : Access) (path : String) : Except FileError Target :=
  if path = "" then .error .notFound
  else if 4096 ≤ path.utf8ByteSize then .error .nameTooLong
  else disk.follow access (if Path.isAbsolute path then [] else disk.current) (Path.parts path)

def read (disk : Disk) (path : String) : Except FileError String :=
  match disk.resolve .reading path with
  | .error error => .error error
  | .ok (.file location) =>
    match (disk.file? location).bind String.fromUTF8? with
    | some text => .ok text
    | none => .error .notText
  | .ok .folder => .error .isADirectory
  | .ok (.free _) => .error .notFound

def put (disk : Disk) (location : Location) (text : String) : Disk :=
  { disk with
    files := (location, text.toUTF8) :: disk.files.filter fun (file, _) => file ≠ location }

def write (disk : Disk) (path text : String) : Except FileError Disk :=
  match disk.resolve .writing path with
  | .error error => .error error
  | .ok (.file location) | .ok (.free location) => .ok (disk.put location text)
  | .ok .folder => .error .isADirectory

end Disk

/-- What a script has done when it is over. -/
structure Outcome where
  /-- Nothing if the script did not end by itself. -/
  code : Option Nat
  output : String
  errors : String
  disk : Disk

def Script.runOn (disk : Disk) (output errors : String) : Script → Outcome
  | .finish code => ⟨some code, output, errors, disk⟩
  | .print text next => next.runOn disk (output ++ text) errors
  | .complain text next => next.runOn disk output (errors ++ text)
  | .read path next => (next (disk.read path)).runOn disk output errors
  | .write path text next =>
    match disk.write path text with
    | .ok disk => (next (.ok ())).runOn disk output errors
    | .error error => (next (.error error)).runOn disk output errors
  | .debug _ | .unfinished => ⟨none, output, errors, disk⟩

end Cardiac.CommandLine

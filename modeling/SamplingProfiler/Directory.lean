import SamplingProfiler.Entries
import SamplingProfiler.Text.Bytes
import SamplingProfiler.Text.Pieces

/-!
# Directories

A directory with everything below it. What stands in it has a place, the names on the
way to it from the top. A path is followed part by part: empty parts and full stops
stay where they are, two full stops lead back, and everything before the last part
has to be a directory.

A path may lead out of the directory, back from the top or from the root of the
system. The directories on such a way are there. Nothing else is known to be there
unless it was put there.

There are no links, and nothing is protected from reading or writing.
-/

namespace SamplingProfiler

/-- Why a path is of no use. -/
inductive FileError where
  | missing
  | denied
  | notDirectory
  | isDirectory
  | nameTooLong
deriving DecidableEq, Repr

namespace FileError

/-- What the system says about it. -/
def message : FileError → String
  | .missing => "No such file or directory (os error 2)"
  | .denied => "Permission denied (os error 13)"
  | .notDirectory => "Not a directory (os error 20)"
  | .isDirectory => "Is a directory (os error 21)"
  | .nameTooLong => "File name too long (os error 36)"

end FileError

/-- What stands at a place. -/
inductive FileNode where
  | directory
  /-- A file with its content; it may be a program that can be run. -/
  | file (content : List UInt8) (isProgram : Bool)
deriving DecidableEq, Repr

/-- The way to a place from the top. A place outside begins with the root, or with two
    full stops for every directory above the top; these stand nowhere else. -/
abbrev Place : Type :=
  List String

namespace Place

/-- What stands for the root of the system. -/
def root : String := "/"

/-- What stands for the directory above. -/
def above : String := ".."

/-- Whether the way to a place is only one back: from the top, or to the root. -/
def isOnlyBack (place : Place) : Bool :=
  place.all fun part => part = root ∨ part = above

/-- One step back. The root has nothing above it. -/
def back (place : Place) : Place :=
  match place.getLast? with
  | none => [above]
  | some part =>
    if part = root then place
    else if part = above then place ++ [above]
    else place.dropLast

/-- The place where a path begins, and the parts of the path. -/
def split (path : String) : Place × List String :=
  (if path.toList.head? = some '/' then [root] else [],
    (Text.pieces '/' path.toList).map String.ofList)

end Place

/-- A directory, by what stands at each place below it. -/
structure Directory where
  nodes : Entries Place FileNode

namespace Directory

/-- Nothing stands in it. -/
def empty : Directory :=
  ⟨Entries.empty⟩

/-- The longest name that a file can have, in bytes. -/
def longestName : Nat := 255

/-- The longest path that is followed, in bytes. -/
def longestPath : Nat := 4095

/-- What stands at a place. -/
def node? (directory : Directory) (place : Place) : Option FileNode :=
  if place.isOnlyBack then some .directory else directory.nodes.lookup place

/-- Take the parts of a path one after the other. The result is a place all of whose
    predecessors are directories; nothing need stand there. -/
def follow (directory : Directory) : Place → List String → Except FileError Place
  | place, [] => .ok place
  | place, part :: rest =>
    match directory.node? place with
    | none => .error .missing
    | some (.file _ _) => .error .notDirectory
    | some .directory =>
      if part = "" ∨ part = "." then directory.follow place rest
      else if part = Place.above then directory.follow place.back rest
      else if longestName < part.utf8ByteSize then .error .nameTooLong
      else directory.follow (place ++ [part]) rest

/-- The place where a path leads. A path that is too long is not followed at all, and
    the empty path leads nowhere. -/
def place (directory : Directory) (path : String) : Except FileError Place :=
  if longestPath < path.utf8ByteSize then .error .nameTooLong
  else if path = "" then .error .missing
  else
    let (start, parts) := Place.split path
    directory.follow start parts

/-- What stands where a path leads. -/
def find (directory : Directory) (path : String) : Except FileError FileNode := do
  match directory.node? (← directory.place path) with
  | some node => .ok node
  | none => .error .missing

/-- Whether anything stands where a path leads. -/
def contains (directory : Directory) (path : String) : Bool :=
  (directory.find path).isOk

/-- Read a file. -/
def read (directory : Directory) (path : String) : Except FileError (List UInt8) := do
  match ← directory.find path with
  | .file content _ => .ok content
  | .directory => .error .isDirectory

/-- Check that a file can be run. -/
def checkProgram (directory : Directory) (path : String) : Except FileError Unit := do
  match ← directory.find path with
  | .file _ true => .ok ()
  | _ => .error .denied

/-- Write a file from its beginning, and make it if nothing stands there yet. -/
def write (directory : Directory) (path : String) (content : List UInt8) :
    Except FileError Directory := do
  let place ← directory.place path
  match directory.node? place with
  | some .directory => .error .isDirectory
  | some (.file _ isProgram) => .ok ⟨directory.nodes.set place (.file content isProgram)⟩
  | none => .ok ⟨directory.nodes.set place (.file content false)⟩

/-- Make a directory, with those on the way to it that are not there yet. -/
def makeDirectories (directory : Directory) (place : Place) : Directory :=
  (List.range place.length).foldl (fun current depth =>
    let part := place.take (depth + 1)
    if (current.node? part).isSome then current
    else ⟨current.nodes.set part .directory⟩) directory

/-- Put something at a place, whatever stood there, with the directories on the way. -/
def put (directory : Directory) (place : Place) (node : FileNode) : Directory :=
  ⟨(directory.makeDirectories place.dropLast).nodes.set place node⟩

/-- The place that a path names, as if all directories on the way were there. -/
def placeNamed (path : String) : Place :=
  let (start, parts) := Place.split path
  parts.foldl (fun place part =>
    if part = "" ∨ part = "." then place
    else if part = Place.above then place.back
    else place ++ [part]) start

end Directory
end SamplingProfiler

import Assembler.Path

/-!
# File trees

The files and directories that a run can see. Looking a path up walks its components, so a double
dot needs a directory before it. Every directory on the way to an entry exists.
-/

namespace Assembler

/-- A directory, or a file with its bytes. -/
inductive Node where
  | directory
  | file (bytes : List UInt8)
  deriving DecidableEq, Repr

/-- Why a path cannot be used. -/
inductive PathFault where
  | missing
  | notADirectory
  | isADirectory
  | nameTooLong
  deriving DecidableEq, Repr

/-- The wording of a fault. -/
def PathFault.message : PathFault → String
  | .missing => "[Errno 2] No such file or directory"
  | .notADirectory => "[Errno 20] Not a directory"
  | .isADirectory => "[Errno 21] Is a directory"
  | .nameTooLong => "[Errno 36] File name too long"

/-- A fault about a path. -/
def PathFault.text (fault : PathFault) (path : Path) : String :=
  fault.message ++ ": " ++ Text.quoted path.text

/-- The place of an entry: the names on the way from the working directory, or from the root if
the first one is a slash. -/
abbrev Place := List String

/-- Files and directories by their places. -/
structure FileTree where
  entries : List (Place × Node) := []

namespace FileTree

/-- The most bytes of a name. -/
def maxNameBytes : Nat := 255

/-- Places that are there in every tree: the working directory, those above it, and the root. -/
def isFixed (place : Place) : Bool := place.all (· == "..") || place == ["/"]

/-- What stands at a place. -/
def node? (tree : FileTree) (place : Place) : Option Node :=
  if isFixed place then some .directory
  else
    match tree.entries.lookup place with
    | some node => some node
    | none =>
      if tree.entries.any fun entry => place.isPrefixOf entry.1 then some .directory else none

/-- The directory above a place. -/
def above (place : Place) : Place :=
  if place == ["/"] then place
  else if place.all (· == "..") then ".." :: place
  else place.dropLast

/-- The place that components lead to. All places on the way have to be directories; the last one
need not exist. -/
def follow (tree : FileTree) : Place → List String → Except PathFault Place
  | place, [] => .ok place
  | place, name :: rest =>
    match tree.node? place with
    | none => .error .missing
    | some (.file _) => .error .notADirectory
    | some .directory =>
      if name = "" ∨ name = "." then tree.follow place rest
      else if name = ".." then tree.follow (above place) rest
      else if maxNameBytes < name.utf8ByteSize then .error .nameTooLong
      else tree.follow (place ++ [name]) rest

/-- The places on the way from a place along components, as far as they lead to names. -/
def waypoints : Place → List String → List Place
  | _, [] => []
  | place, name :: rest =>
    if name = ".." then waypoints (above place) rest
    else (place ++ [name]) :: waypoints (place ++ [name]) rest

/-- Where a path starts. -/
def start (root : String) : Place := if root = "" then [] else ["/"]

/-- What a path text leads to, as it is written. -/
def stat? (tree : FileTree) (text : String) : Option Node :=
  if text = "" then none
  else
    match tree.follow (start (Path.rootOf text.toList)) (Path.components text) with
    | .ok place => tree.node? place
    | .error _ => none

/-- The place of a path. -/
def locate (tree : FileTree) (path : Path) : Except PathFault Place :=
  tree.follow (start path.root) path.parts

/-- The bytes of a file. -/
def read? (tree : FileTree) (path : Path) : Option (List UInt8) :=
  match tree.locate path with
  | .ok place =>
    match tree.node? place with
    | some (.file bytes) => some bytes
    | _ => none
  | .error _ => none

/-- Put a file at a place. -/
def put (tree : FileTree) (place : Place) (bytes : List UInt8) : FileTree :=
  ⟨(place, .file bytes) :: tree.entries.filter fun entry => entry.1 != place⟩

/-- Write a file, new or not. -/
def write (tree : FileTree) (path : Path) (bytes : List UInt8) : Except PathFault FileTree :=
  match tree.locate path with
  | .error fault => .error fault
  | .ok place =>
    match tree.node? place with
    | some .directory => .error .isADirectory
    | _ => .ok (tree.put place bytes)

end FileTree

end Assembler

import Assembler.CommandLine.Run

/-!
# The command

Looks at the files that the arguments speak of, runs the command on them, and carries out what the
run leaves.
-/

namespace Assembler.CommandLine

/-- The path text of a place. -/
def placeText : Place → String
  | "/" :: rest => "/" ++ String.intercalate "/" rest
  | place => String.intercalate "/" place

/-- Every place on the way to a path. -/
def placesTo (text : String) : List Place :=
  let path := Path.ofString text
  FileTree.waypoints (FileTree.start path.root) path.parts

/-- What stands at a path on disk. -/
def nodeOnDisk (path : String) : IO (Option Node) := do
  let full := (← IO.currentDir) / path
  if ← full.isDir then return some .directory
  else if ← full.pathExists then return some (.file (← IO.FS.readBinFile full).toList)
  else return none

/-- The part of the disk that the arguments speak of. -/
def treeOnDisk (arguments : List String) : IO FileTree := do
  let mut entries : List (Place × Node) := []
  for place in ((mentioned arguments).flatMap placesTo).eraseDups do
    if let some node ← nodeOnDisk (placeText place) then
      entries := (place, node) :: entries
  return ⟨entries⟩

/-- Write the files in which a tree differs from the one before. -/
def writeChanges (before after : FileTree) : IO Unit := do
  for (place, node) in after.entries do
    if let .file bytes := node then
      if before.node? place ≠ some node then
        IO.FS.writeBinFile (placeText place) ⟨bytes.toArray⟩

end Assembler.CommandLine

open Assembler.CommandLine in
def main (arguments : List String) : IO UInt32 := do
  let tree ← treeOnDisk arguments
  let outcome := run tree arguments
  writeChanges tree outcome.files
  IO.print outcome.stdout
  IO.eprint outcome.stderr
  return outcome.exitCode.toUInt32

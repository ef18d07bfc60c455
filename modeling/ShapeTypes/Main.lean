import ShapeTypes.CommandLine.Run

/-!
# The program

The program looks up the places that a command line can touch, runs the command line on the tree of
these places, and carries the changes over to the file system.
-/

namespace ShapeTypes.CommandLine

/-- The places that a command line can touch. -/
def touched (here : Place) (arguments : List String) : List Place :=
  match scan arguments with
  | .error _ => []
  | .ok scanned =>
    let config := (Choices.ofSettings scanned.settings).config
    (scanned.arguments.take 2 ++ config.toList).map fun written =>
      (Path.ofString here written).simplified

/-- The texts that a run can come across: its command line and the files that it can touch. -/
def texts (here : Place) (tree : FileTree) (arguments : List String) : List String :=
  arguments ++ (touched here arguments).filterMap fun place =>
    match tree.get? place with
    | some (.file bytes) => String.fromUTF8? bytes
    | _ => none

/-- The tree with what the file system holds at a place, as far as the way there exists. -/
def lookUp (tree : FileTree) (place : Place) : IO FileTree := do
  let path := (← IO.currentDir) / place.text
  if ← path.isDir then return tree.withDirectory place
  else if ← path.pathExists then return tree.withFile place (← IO.FS.readBinFile path)
  else return tree

/-- The tree with what the file system holds on the way to a place. -/
def lookUpWay (tree : FileTree) (place : Place) : IO FileTree :=
  let way := (List.range place.length).map fun count => place.take (count + 1)
  way.foldlM lookUp tree

/-- Writes a file by way of a temporary file beside it, so that it is never half written. -/
def writeBeside (place : Place) (bytes : ByteArray) : IO Unit := do
  let directory := (← IO.currentDir) / Place.text place.dropLast
  let taken := (← directory.readDir).toList.map fun entry => entry.fileName
  let name := place.getLast?.getD ""
  let some beside := FileTree.temporaryName? taken name
    | throw (IO.userError "No name is free for a temporary file")
  let temporary := directory / beside
  IO.FS.writeBinFile temporary bytes
  try IO.FS.rename temporary (directory / name)
  catch failure =>
    IO.FS.removeFile temporary
    throw failure

/-- Carries a change over to the file system. -/
def carryOver : Place × FileTree.Change → IO Unit
  | (place, .made) => IO.FS.createDirAll place.text
  | (place, .removed) => IO.FS.removeFile place.text
  | (place, .written bytes) => writeBeside place bytes

end ShapeTypes.CommandLine

open ShapeTypes CommandLine in
/-- Runs the command line and answers with its exit code. -/
def main (arguments : List String) : IO UInt32 := do
  let here := (Path.ofString [] (← IO.currentDir).toString).simplified
  let tree ← (touched here arguments).foldlM lookUpWay FileTree.empty
  let outcome := run (Json.standInsFor (texts here tree arguments)) here tree arguments
  (tree.changes outcome.tree).forM carryOver
  IO.print outcome.stdout
  IO.eprint outcome.stderr
  return outcome.exit.toUInt32

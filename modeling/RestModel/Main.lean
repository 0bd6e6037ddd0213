import RestModel.Command.Run

/-!
# The command line

Reads the files below the working directory, runs the command that the arguments ask for, prints
what it tells and shows, and writes the files it made or changed.
-/

namespace RestModel

/-- Read directory entries and everything below them into a tree. -/
partial def addEntries (place : Location) (tree : FileTree) (entries : List IO.FS.DirEntry) :
    IO FileTree := do
  let mut tree := tree
  for entry in entries do
    let inner := place ++ [entry.fileName]
    if ← entry.path.isDir then
      let below ← entry.path.readDir
      tree ← addEntries inner (tree.set inner .directory) below.toList
    else
      tree := tree.set inner (.file (← IO.FS.readBinFile entry.path))
  return tree

/-- Read the files and directories below the working directory. -/
def readWorkingTree : IO FileTree := do
  addEntries [] .empty (← (← IO.currentDir).readDir).toList

/-- Write what one tree has and an earlier one had not. -/
def writeChanges (before after : FileTree) : IO Unit := do
  for place in after.directoriesSince before do
    IO.FS.createDirAll (Path.ofSegments place)
  for (place, content) in after.changesSince before do
    IO.FS.writeBinFile (Path.ofSegments place) content

/-- The notices to show, as the environment asks for them. -/
def readFilter : IO NoticeFilter := do
  return .ofName ((← IO.getEnv "WADLGEN_LOG").getD "info")

end RestModel

open RestModel in
/-- Run the command that the arguments ask for. -/
def main (arguments : List String) : IO UInt32 := do
  let before ← readWorkingTree
  let outcome := Outcome.ofWords before (← readFilter) arguments
  outcome.told.forM (fun line => IO.eprintln line)
  IO.print outcome.shown
  writeChanges before outcome.tree
  return outcome.code.toUInt32

import Rollout.Program

/-!
# Main: the program at the terminal

The tree below the working directory is read into memory, where the commands of the plan file act on
it; what they have changed there is written back at the end.  The summary goes to standard output,
the log and the failure to standard error.
-/

namespace Rollout.Terminal

open Shell (Directory Octets Path)

/-- The name of the variable that asks for a log filter. -/
def filterVariable : String := "DEPLOYPLAN_LOG"

/-- A path as the operating system takes it. -/
def nameOf (p : Path) : String := "/".intercalate (p.map Octets.toText)

/-- The tree below the working directory; links are not followed, and what cannot be read is left
out. -/
def readTree : IO Directory := do
  let here ← IO.currentDir
  let paths ← here.walkDir fun p => return (← p.symlinkMetadata).type == .dir
  let mut tree : Directory := {}
  for path in paths do
    let place := Path.ofOctets [] (Octets.ofString (path.toString.drop here.toString.length).toString)
    if ← path.isDir then
      tree := tree.put place .folder
    else if let .ok content ← (IO.FS.readBinFile path).toBaseIO then
      tree := tree.put place (.file (Octets.ofBytes content))
  return tree

/-- The tree with the file at a path, wherever that file lies. -/
def withFile (tree : Directory) (name : String) : IO Directory := do
  match ← (IO.FS.readBinFile name).toBaseIO with
  | .ok content =>
    return tree.put (Path.ofOctets [] (Octets.ofString name)) (.file (Octets.ofBytes content))
  | .error _ => return tree

/-- Make the tree below the working directory what it has become in memory. -/
def writeTree (earlier later : Directory) : IO Unit := do
  for p in earlier.losses later do
    match earlier.lookup? p with
    | some .folder => IO.FS.removeDirAll (nameOf p)
    | _ => IO.FS.removeFile (nameOf p)
  for (p, entry) in earlier.news later do
    match entry with
    | .folder => IO.FS.createDirAll (nameOf p)
    | .file content => IO.FS.writeBinFile (nameOf p) content.toBytes

end Rollout.Terminal

open Rollout in
/-- Run the program on the arguments: the exit code says how it has ended. -/
def main (arguments : List String) : IO UInt32 := do
  let filter ← IO.getEnv Terminal.filterVariable
  let tree ← Terminal.readTree
  let tree ← match CommandLine.Arguments.parse arguments with
    | .ok a => Terminal.withFile tree a.plan
    | .error _ => pure tree
  let (exit, later) := invoke arguments filter tree
  Terminal.writeTree tree later
  IO.print exit.stdout
  for event in exit.log do
    IO.eprintln event.line
  if let some text := exit.failure then
    IO.eprintln text
  return exit.code.toUInt32

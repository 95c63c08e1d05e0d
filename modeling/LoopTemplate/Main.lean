import LoopTemplate.CommandLine.Run
import LoopTemplate.Files.Difference
import LoopTemplate.Service

/-!
# The program

The files that a command looks at are read into a tree, the command runs on that tree, and what it
changed is written back.
-/

namespace LoopTemplate.Shell

open LoopTemplate.Files (Entry FileTree Location)

/-- What stands at the end of names. -/
def directoryEntry (names : List String) : IO.FS.DirEntry :=
  ⟨Files.ofNames names.dropLast, names.getLast?.getD ""⟩

/-- Adds a directory entry to a tree, with all below it if the tree is to be complete there. -/
partial def readEntry (tree : FileTree) (location : Location) (entry : IO.FS.DirEntry)
    (complete : Bool) : IO FileTree := do
  match (← entry.path.metadata).type with
  | .dir =>
      let mut result := tree.insert location .directory
      if complete then
        for inner in ← entry.path.readDir do
          result ← readEntry result (location ++ [inner.fileName]) inner true
      return result
  | .file =>
      let bytes ← IO.FS.readBinFile entry.path
      return tree.insert location (.ofBytes bytes.toList)
  | _ => return tree

/-- Adds to a tree all that is on the way to a path, and all below the path. -/
def readPath (tree : FileTree) (path : String) : IO FileTree := do
  let names := Files.names path
  let mut result := tree
  for count in List.range names.length do
    let reached := names.take (count + 1)
    let location := reached.foldl FileTree.step []
    let last := count + 1 == names.length
    try result ← readEntry result location (directoryEntry reached) last
    catch _ => return result
  return result

/-- Writes back what changed. -/
def applyChanges (old new : FileTree) : IO Unit := do
  for (location, entry) in (old.removed new).reverse do
    let path : String := "/" ++ Files.ofNames location
    match entry with
    | .directory => IO.FS.removeDirAll path
    | _ => IO.FS.removeFile path
  for (location, entry) in old.written new do
    let path : String := "/" ++ Files.ofNames location
    match entry with
    | .directory => IO.FS.createDirAll path
    | .text content => IO.FS.writeFile path content
    | .binary bytes => IO.FS.writeBinFile path ⟨bytes.toArray⟩

/-- Runs a command in a directory. -/
def runCommand (directory : String) (command : CommandLine.Command) :
    IO CommandLine.Outcome := do
  let first ← (CommandLine.reach FileTree.empty directory command).foldlM readPath FileTree.empty
  let tree ← (CommandLine.reach first directory command).foldlM readPath first
  let outcome := CommandLine.runCommand tree directory command
  applyChanges tree outcome.tree
  return outcome

/-- Runs the program in the working directory. -/
def run (arguments : List String) : IO UInt32 := do
  let directory := (← IO.currentDir).toString
  let outcome ← match CommandLine.parseArguments arguments with
    | .ok invocation => runCommand directory invocation.command
    | .error stop => pure (CommandLine.runStop FileTree.empty stop)
  IO.print outcome.output
  IO.eprint outcome.errors
  return outcome.exitCode.toUInt32

/-- Answers every line of the input as it comes. -/
partial def answerLines (input output : IO.FS.Stream) : IO Unit := do
  let line ← input.getLine
  if line.isEmpty then return ()
  output.putStr (Service.respondToLines line)
  output.flush
  answerLines input output

/-- Reads a stream to its end. -/
partial def readAll (input : IO.FS.Stream) (text : String) : IO String := do
  let line ← input.getLine
  if line.isEmpty then return text else readAll input (text ++ line)

/-- Runs the service on the standard streams. -/
def serve (arguments : List String) : IO Unit := do
  let input ← IO.getStdin
  if Service.isLineMode arguments then answerLines input (← IO.getStdout)
  else IO.print (Service.run arguments (← readAll input ""))

end LoopTemplate.Shell

/-- Runs the program and gives its exit code. -/
def main (arguments : List String) : IO UInt32 := LoopTemplate.Shell.run arguments

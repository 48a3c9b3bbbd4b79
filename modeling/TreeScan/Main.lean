import TreeScan.Command.Run

/-!
# The program

Reads the files that a command line names, and the source files of their units,
and hands them to the command.  Then it prints what the command has written.
-/

namespace TreeScan.Program

/-- The directories on the way along a path, the path itself included. -/
def stepsOf (path : String) : List String :=
  let parts := Text.splitString '/' path
  (List.range parts.length).map fun n => Text.joinStrings "/" (parts.take (n + 1))

/-- The store with a directory, if there is one at a path. -/
def takeDirectory (files : FileStore) (path : String) : IO FileStore := do
  let here ← IO.currentDir
  if path ≠ "" && (← (here / path).isDir) then pure (files.makeDirectory path)
  else pure files

/-- The store with the file at a path, if it can be read. -/
def takeFile (files : FileStore) (path : String) : IO FileStore := do
  let files ← (stepsOf path).foldlM takeDirectory files
  try
    let bytes ← IO.FS.readBinFile path
    pure (files.write path bytes)
  catch _ => pure files

/-- The store with the source file of the unit in a file, if there is one. -/
def takeSource (files : FileStore) (path : String) : IO FileStore :=
  match Command.load files path with
  | .error _ => pure files
  | .ok unit => takeFile files unit.path

/-- The store with all files that a command needs. -/
def gather (job : Command.Job) (files : FileStore) : IO FileStore := do
  match job with
  | .outline file _ => takeSource (← takeFile files file) file
  | .imports paths _ => paths.foldlM takeFile files

/-- The files that a command line needs. -/
def filesFor (words : List String) : IO FileStore := do
  let here ← IO.currentDir
  let files := FileStore.empty ((Text.splitString '/' here.toString).filter (· ≠ ""))
  match Command.Arguments.parse words with
  | .error _ => pure files
  | .ok a => gather a.job files

end TreeScan.Program

/-- Runs a command line. -/
def main (words : List String) : IO UInt32 := do
  let files ← TreeScan.Program.filesFor words
  let (code, outputs) := TreeScan.Command.runLine files words ⟨.buffer "", .buffer ""⟩
  let out ← IO.getStdout
  out.putStr outputs.out.text
  out.flush
  let err ← IO.getStderr
  err.putStr outputs.err.text
  pure code.toUInt32

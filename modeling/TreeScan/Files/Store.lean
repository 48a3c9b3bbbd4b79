import TreeScan.Files.Path

/-!
# Files

A store of files is what can be read below a root directory.  Relative paths
start at a working directory.  A path is followed step by step.  Every step but
the last must end at a directory, also one that is left again at once.
-/

namespace TreeScan

/-- What stands at a place. -/
inductive Content where
  | file (bytes : ByteArray)
  | directory

/-- Files and directories.  A place is listed by its names, outermost first, and
its first entry is the one that counts. -/
structure FileStore where
  /-- The place of the working directory. -/
  workingDirectory : List String
  entries : List (List String × Content)

/-- Why a text cannot be read. -/
inductive ReadError where
  | notFound
  | isDirectory
  | notDirectory
  /-- The bytes are not UTF-8. -/
  | notText
deriving DecidableEq, Repr

/-- An error in words. -/
def ReadError.message : ReadError → String
  | .notFound => "No such file or directory (os error 2)"
  | .isDirectory => "Is a directory (os error 21)"
  | .notDirectory => "Not a directory (os error 20)"
  | .notText => "stream did not contain valid UTF-8"

namespace FileStore

/-- A store without files. -/
def empty (workingDirectory : List String) : FileStore := ⟨workingDirectory, []⟩

/-- What stands at the place with some names.  The root and the directories on
the way to the working directory are always there. -/
def find? (files : FileStore) (names : List String) : Option Content :=
  if names.isPrefixOf files.workingDirectory then some .directory
  else files.entries.lookup names

/-- The place where a path starts. -/
def origin (files : FileStore) (path : String) : List String :=
  if Path.isAbsolute path then [] else files.workingDirectory

/-- One step from a place along a part of a path. -/
def step (files : FileStore) (here : List String) (part : String) :
    Except ReadError (List String) :=
  match files.find? here with
  | none => .error .notFound
  | some (.file _) => .error .notDirectory
  | some .directory =>
    if part = "" || part = "." then .ok here
    else if part = ".." then .ok here.dropLast
    else if (files.find? (here ++ [part])).isSome then .ok (here ++ [part])
    else .error .notFound

/-- Follows the parts of a path. -/
def follow (files : FileStore) (here : List String) :
    List String → Except ReadError (List String)
  | [] => .ok here
  | part :: parts => do
    let there ← files.step here part
    files.follow there parts

/-- The bytes of the file at a path. -/
def readBytes (files : FileStore) (path : String) : Except ReadError ByteArray :=
  if path = "" then .error .notFound
  else do
    let there ← files.follow (files.origin path) (Text.splitString '/' path)
    match files.find? there with
    | none => throw .notFound
    | some .directory => throw .isDirectory
    | some (.file bytes) => pure bytes

/-- The text of the file at a path. -/
def read (files : FileStore) (path : String) : Except ReadError String := do
  match String.fromUTF8? (← files.readBytes path) with
  | some text => pure text
  | none => throw .notText

/-- Puts a content at a place. -/
def put (files : FileStore) (names : List String) (content : Content) : FileStore :=
  { files with entries := (names, content) :: files.entries }

/-- Goes along the parts of a path and makes the directories that are missing on
the way.  Ends at a place, unless a file is in the way. -/
def enter (files : FileStore) (here : List String) : List String → FileStore × Option (List String)
  | [] => (files, some here)
  | part :: parts =>
    if part = "" || part = "." then files.enter here parts
    else if part = ".." then files.enter here.dropLast parts
    else
      let there := here ++ [part]
      match files.find? there with
      | some .directory => files.enter there parts
      | some (.file _) => (files, none)
      | none => (files.put there .directory).enter there parts

/-- Makes a directory and those above it. -/
def makeDirectory (files : FileStore) (path : String) : FileStore :=
  (files.enter (files.origin path) (Text.splitString '/' path)).1

/-- Whether the last part of a path is the name of something, and no dots. -/
def isNamed (part : String) : Bool := part ≠ "" && part ≠ "." && part ≠ ".."

/-- Writes a file, and makes the directories above it that are missing.  No file
is written where a directory is, or where a path ends with a slash or with
dots. -/
def write (files : FileStore) (path : String) (bytes : ByteArray) : FileStore :=
  let above := Text.splitString '/' ((Path.parent? path).getD "")
  let name := ((Text.splitString '/' path).getLast?).getD ""
  match files.enter (files.origin path) above with
  | (files, none) => files
  | (files, some there) =>
    match files.find? (there ++ [name]) with
    | some .directory => files
    | _ => if isNamed name then files.put (there ++ [name]) (.file bytes) else files

/-- Removes the file at a path.  A directory stays. -/
def remove (files : FileStore) (path : String) : FileStore :=
  match files.follow (files.origin path) (Text.splitString '/' path) with
  | .error _ => files
  | .ok names =>
    match files.find? names with
    | some (.file _) =>
      { files with entries := files.entries.filter fun entry => entry.1 != names }
    | _ => files

example : let files := (empty ["home"]).write "d/../A" ⟨#[65]⟩
    (files.read "A").toOption = some "A" ∧ (files.read "d/../A").toOption = some "A" ∧
      ((files.remove "A/").read "A").toOption = some "A" ∧
      ((files.remove "./A").read "A").toOption = none ∧
      ((files.write "b/" ⟨#[66]⟩).read "b").toOption = none := by decide +kernel

end FileStore

end TreeScan

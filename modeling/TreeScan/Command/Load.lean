import TreeScan.Ast.Decode
import TreeScan.Files.Store
import TreeScan.Scan.Engine

/-!
# Loading units

A unit is loaded from a JSON file.  The source path in it is taken relative to
the directory of that file, so that reports find the source text beside it.
-/

namespace TreeScan.Command

/-- Why a command fails. -/
inductive CommandError where
  | unreadable (file : String) (error : ReadError)
  | invalid (file : String) (error : Json.DecodeError)
  | unscannable (file : String) (error : ScanError)
  /-- The scan of a file came to no end. -/
  | halted (file : String) (halt : Halt)
  /-- A panic left the scan. -/
  | panicked (payload : Payload)
  | unwritable (error : String)

/-- A halt in words. -/
def haltMessage : Halt → String
  | .tooDeep => "scans are nested too deep"
  | .unbalanced => "the scanning stack is out of balance"

namespace CommandError

/-- What went wrong, without the reason. -/
def headline : CommandError → String
  | .unreadable file _ => "Error reading file '" ++ file ++ "'"
  | .invalid file _ => "Invalid compilation unit '" ++ file ++ "'"
  | .unscannable file _ => "Error scanning '" ++ file ++ "'"
  | .halted file _ => "Error scanning '" ++ file ++ "'"
  | .panicked _ => "Error scanning"
  | .unwritable _ => "Error writing output"

/-- Why it went wrong. -/
def reason : CommandError → String
  | .unreadable _ error => error.message
  | .invalid _ error => error.message
  | .unscannable _ error => error.message
  | .halted _ halt => haltMessage halt
  | .panicked payload => payload.message
  | .unwritable error => error

/-- An error in words. -/
def message (e : CommandError) : String := e.headline ++ ": " ++ e.reason

/-- The exit code after an error. -/
def exitCode (_ : CommandError) : Nat := 1

end CommandError

/-- A unit with its source path taken relative to the directory of its file. -/
def resolvePath (file : String) (unit : CompilationUnit) : CompilationUnit :=
  match Path.parent? file with
  | none => unit
  | some directory => { unit with path := Path.within directory unit.path }

/-- How files are read and how what is in them is decoded. -/
structure Loader where
  read : String → Except ReadError String
  decode : String → Except Json.DecodeError CompilationUnit

namespace Loader

/-- Loads the unit in a file. -/
def load (l : Loader) (file : String) : Except CommandError CompilationUnit :=
  match l.read file with
  | .error e => .error (.unreadable file e)
  | .ok text =>
    match l.decode text with
    | .error e => .error (.invalid file e)
    | .ok unit => .ok (resolvePath file unit)

/-- Loads the units in some files.  The first that fails decides. -/
def loadAll (l : Loader) : List String → Except CommandError (List CompilationUnit)
  | [] => .ok []
  | file :: more => do
    let unit ← l.load file
    let units ← l.loadAll more
    pure (unit :: units)

/-- Reads files of a store and decodes JSON. -/
def json (files : FileStore) : Loader := ⟨files.read, Json.decodeText CompilationUnit.decode⟩

end Loader

/-- Loads the unit in a JSON file. -/
def load (files : FileStore) (file : String) : Except CommandError CompilationUnit :=
  (Loader.json files).load file

end TreeScan.Command

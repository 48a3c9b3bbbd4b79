import TreeScan.Outline.Pass
import TreeScan.Scan.Config

/-!
# Command lines

A command line names a command, its files and some flags.  The words are taken
in their order.  The first that does not fit makes the whole line a misuse, and
the first that asks for help or for the version ends the line at once.  Files
that are missing are noticed at the end.

Two flags are general.  They may stand before the command and after it, once in
each place.  After two hyphens every word of a command is a file.
-/

namespace TreeScan.Command

/-! ## Words -/

/-- A flag. -/
inductive Flag where
  | compact | resetPerUnit | noCatchPanics | noStackDump
deriving DecidableEq, Repr

/-- A flag without its hyphens. -/
def Flag.name : Flag → String
  | .compact => "compact"
  | .resetPerUnit => "reset-per-unit"
  | .noCatchPanics => "no-catch-panics"
  | .noStackDump => "no-stack-dump"

/-- The flags that any command takes. -/
def generalFlags : List Flag := [.noCatchPanics, .noStackDump]

/-- A word of a command line. -/
inductive Word where
  /-- Two hyphens. -/
  | separator
  /-- A word after two hyphens. -/
  | long (name : String)
  /-- Letters after one hyphen, of which the first is given. -/
  | short (letter : Char)
  | plain (text : String)
deriving DecidableEq, Repr

/-- What kind of word a text is. -/
def Word.ofText (s : String) : Word :=
  match s.toList with
  | ['-', '-'] => .separator
  | '-' :: '-' :: name => .long (String.ofList name)
  | '-' :: c :: _ => .short c
  | _ => .plain s

/-! ## Commands -/

/-- A command. -/
inductive CommandName where
  | outline | imports
deriving DecidableEq, Repr

/-- What help is about. -/
inductive Topic where
  | program
  | command (command : CommandName)
  /-- The command that shows help. -/
  | help
deriving DecidableEq, Repr

/-- Why a command line is not carried out. -/
inductive Stop where
  | help (topic : Topic)
  | version
  | misuse
deriving DecidableEq, Repr

/-- The exit code of a command line that is not carried out. -/
def Stop.exitCode : Stop → Nat
  | .help _ => 0
  | .version => 0
  | .misuse => 2

/-- What is to be carried out: a command with its files and its own flag. -/
inductive Job where
  | outline (file : String) (compact : Bool)
  | imports (files : List String) (resetPerUnit : Bool)
deriving DecidableEq, Repr

/-- A command line. -/
structure Arguments where
  job : Job
  noCatchPanics : Bool
  noStackDump : Bool
deriving DecidableEq, Repr

/-! ## Taking words -/

/-- One more flag, if it is allowed and not there yet. -/
def takeFlag (allowed seen : List Flag) (name : String) : Except Stop (List Flag) :=
  match allowed.find? fun flag => flag.name == name with
  | none => .error .misuse
  | some flag => if seen.contains flag then .error .misuse else .ok (flag :: seen)

/-- The words of a command. -/
structure Taken where
  flags : List Flag
  /-- The files in their order. -/
  files : List String

/-- One more file, if it has a name and there is room for it. -/
def takeFile (room : Option Nat) (taken : Taken) (name : String) : Except Stop Taken :=
  let full := match room with
    | none => false
    | some n => decide (n ≤ taken.files.length)
  if full || name == "" then .error .misuse
  else .ok { taken with files := taken.files ++ [name] }

/-- Takes words as files. -/
def takeFiles (room : Option Nat) (taken : Taken) : List String → Except Stop Taken
  | [] => .ok taken
  | word :: words => do
    let taken ← takeFile room taken word
    takeFiles room taken words

/-- Takes the words after the name of a command. -/
def takeWords (command : CommandName) (allowed : List Flag) (room : Option Nat) (taken : Taken) :
    List String → Except Stop Taken
  | [] => .ok taken
  | word :: words =>
    match Word.ofText word with
    | .separator => takeFiles room taken words
    | .long name =>
      if name = "help" then .error (.help (.command command))
      else do
        let flags ← takeFlag allowed taken.flags name
        takeWords command allowed room { taken with flags := flags } words
    | .short c => .error (if c = 'h' then .help (.command command) else .misuse)
    | .plain name => do
      let taken ← takeFile room taken name
      takeWords command allowed room taken words

/-- A command line, given the general flags before the command. -/
def withGeneral (before : List Flag) (taken : Taken) (job : Job) : Arguments :=
  let flags := before ++ taken.flags
  { job := job
    noCatchPanics := flags.contains .noCatchPanics
    noStackDump := flags.contains .noStackDump }

/-- Takes the words after `outline`. -/
def takeOutline (before : List Flag) (words : List String) : Except Stop Arguments := do
  let taken ← takeWords .outline (.compact :: generalFlags) (some 1) ⟨[], []⟩ words
  match taken.files with
  | [file] => pure (withGeneral before taken (.outline file (taken.flags.contains .compact)))
  | _ => throw .misuse

/-- Takes the words after `imports`. -/
def takeImports (before : List Flag) (words : List String) : Except Stop Arguments := do
  let taken ← takeWords .imports (.resetPerUnit :: generalFlags) none ⟨[], []⟩ words
  match taken.files with
  | [] => throw .misuse
  | files =>
    pure (withGeneral before taken (.imports files (taken.flags.contains .resetPerUnit)))

/-- What the words after `help` ask for. -/
def helpAbout : List String → Stop
  | [] => .help .program
  | ["outline"] => .help (.command .outline)
  | ["imports"] => .help (.command .imports)
  | ["help"] => .help .help
  | _ => .misuse

/-- Takes the words of a command line, given the general flags before them. -/
def takeLine (before : List Flag) : List String → Except Stop Arguments
  | [] => .error .misuse
  | word :: words =>
    match Word.ofText word with
    | .separator => .error .misuse
    | .long name =>
      if name = "help" then .error (.help .program)
      else if name = "version" then .error .version
      else do
        let before ← takeFlag generalFlags before name
        takeLine before words
    | .short c =>
      .error (if c = 'h' then .help .program else if c = 'V' then .version else .misuse)
    | .plain name =>
      if name = "outline" then takeOutline before words
      else if name = "imports" then takeImports before words
      else .error (if name = "help" then helpAbout words else .misuse)

/-- The command line of some words. -/
def Arguments.parse (words : List String) : Except Stop Arguments := takeLine [] words

/-- The settings that a command line asks for. -/
def Arguments.config (a : Arguments) : ScanConfig :=
  { catchPanics := !a.noCatchPanics
    dumpStackOnError := !a.noStackDump
    staticImports :=
      match a.job with
      | .imports _ true => .resetPerUnit
      | _ => .accumulate }

example : Arguments.parse ["outline", "--", "--compact"]
    = .ok ⟨.outline "--compact" false, false, false⟩ := by rfl
example : Arguments.parse ["--no-stack-dump", "imports", "a", "--no-stack-dump", "b"]
    = .ok ⟨.imports ["a", "b"] false, false, true⟩ := by rfl
example : Arguments.parse ["outline", "a", "b", "--help"] = .error .misuse := by rfl
example : Arguments.parse ["outline", "--help", "--bogus"]
    = .error (.help (.command .outline)) := by rfl

end TreeScan.Command

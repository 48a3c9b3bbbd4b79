import TreeScan.Ast.Height
import TreeScan.Command.Help
import TreeScan.Command.Load
import TreeScan.Outline.Pass
import TreeScan.Report.Console

/-!
# Commands

`outline` prints the outline of a unit.  It exits with 1 if an error was
reported, after it has printed the outline.  `imports` activates units one after
the other and prints the static imports that are known in the end, by short
name.  Reports and the message of a failure go to the error output.

An outline can be made with any renderer of reports, and imports can be listed with
any loader.  The commands themselves use frames and JSON.
-/

namespace TreeScan.Command

/-- The two outputs of a command. -/
structure Outputs where
  out : Sink
  err : Sink
deriving DecidableEq, Repr

/-- What a command came to, with its outputs afterwards. -/
structure Finished where
  /-- The exit code, or why the command failed. -/
  result : Except CommandError Nat
  outputs : Outputs

/-- Writes a text to the regular output. -/
def Outputs.write (outputs : Outputs) (text : String) : Except CommandError Unit × Outputs :=
  let (out, failure) := outputs.out.write text
  match failure with
  | none => (.ok (), { outputs with out := out })
  | some error => (.error (.unwritable error), { outputs with out := out })

/-! ## Outlines -/

/-- The handler of an outline: counts diagnostics and prints them. -/
def outlineSetup (renderer : Renderer) (config : ScanConfig) : Setup (Tally × Console) :=
  { config := config, handler := some (counting (Console.printing renderer)) }

/-- Scans a unit with the outline pass.  The nesting of the scan is bounded by
the height of the tree. -/
def scanOutline (renderer : Renderer) (files : FileStore) (config : ScanConfig)
    (style : OutlineStyle) (err : Sink) (unit : CompilationUnit) :
    Except Halt (Outcome Nat (Option ScanError) × ScanState Outline (Tally × Console)) :=
  Engine.run (outlineSetup renderer config) Outline.pass (Node.root 0 unit).height
    (.scanUnit 0 unit) ⟨.empty style, .idle files (⟨0, 0⟩, .onto err)⟩

/-- How a scan of a file ended, if not well. -/
def failureOf (file : String) : Outcome Nat (Option ScanError) → Option CommandError
  | .completed none => none
  | .completed (some error) => some (.unscannable file error)
  | .interrupted (.rollback r) => some (.unscannable file (.ofRollback r))
  | .interrupted (.fault f) => some (.panicked (.text f.text))
  | .panicked payload => some (.panicked payload)

/-- Prints an outline.  The exit code tells whether an error was reported. -/
def printOutline (outputs : Outputs) (o : Outline) (tally : Tally) : Finished :=
  match outputs.write o.text with
  | (.error e, outputs) => ⟨.error e, outputs⟩
  | (.ok (), outputs) => ⟨.ok (if tally.hasErrors then 1 else 0), outputs⟩

/-- Prints the outline of the unit in a file, and reports with a renderer. -/
def outlineFileWith (renderer : Renderer) (files : FileStore) (file : String) (config : ScanConfig)
    (style : OutlineStyle) (outputs : Outputs) : Finished :=
  match load files file with
  | .error e => ⟨.error e, outputs⟩
  | .ok unit =>
    match scanOutline renderer files config style outputs.err unit with
    | .error halt => ⟨.error (.halted file halt), outputs⟩
    | .ok (outcome, s) =>
      let (tally, console) := s.scanner.reports
      let outputs := { outputs with err := console.sink }
      match failureOf file outcome with
      | some e => ⟨.error e, outputs⟩
      | none => printOutline outputs s.pass tally

/-- Prints the outline of the unit in a file. -/
def outlineFile (files : FileStore) (file : String) (config : ScanConfig) (style : OutlineStyle)
    (outputs : Outputs) : Finished :=
  outlineFileWith Frame.renderer files file config style outputs

/-! ## Static imports -/

/-- The static imports after units were activated one after the other. -/
def importsOf (config : ScanConfig) (units : List CompilationUnit) : StaticImports :=
  units.foldl (fun table unit => (table.register config.staticImports unit).1) .empty

/-- The line of a static import. -/
def importLine (entry : String × Spanned ImportDecl) : String :=
  entry.1 ++ " -> " ++ entry.2.node.identifier ++ "\n"

/-- Writes texts one after the other, until one cannot be written. -/
def writeAll (outputs : Outputs) : List String → Finished
  | [] => ⟨.ok 0, outputs⟩
  | text :: texts =>
    match outputs.write text with
    | (.error e, outputs) => ⟨.error e, outputs⟩
    | (.ok (), outputs) => writeAll outputs texts

/-- Prints the static imports of the units in some files, by short name. -/
def listImportsWith (loader : Loader) (paths : List String) (config : ScanConfig)
    (outputs : Outputs) : Finished :=
  match loader.loadAll paths with
  | .error e => ⟨.error e, outputs⟩
  | .ok units =>
    let entries := (importsOf config units).entries.mergeSort fun a b => decide (a.1 ≤ b.1)
    writeAll outputs (entries.map importLine)

/-- Prints the static imports of the units in some JSON files, by short name. -/
def listImports (files : FileStore) (paths : List String) (config : ScanConfig)
    (outputs : Outputs) : Finished :=
  listImportsWith (.json files) paths config outputs

/-! ## Command lines -/

/-- Carries out a command. -/
def execute (files : FileStore) (a : Arguments) (outputs : Outputs) : Finished :=
  match a.job with
  | .outline file compact =>
    outlineFile files file a.config (if compact then .compact else .expanded) outputs
  | .imports paths _ => listImports files paths a.config outputs

/-- The exit code of a finished command.  The message of a failure goes to the
error output. -/
def Finished.exit (f : Finished) : Nat × Outputs :=
  match f.result with
  | .ok code => (code, f.outputs)
  | .error e => (e.exitCode, { f.outputs with err := (f.outputs.err.write (e.message ++ "\n")).1 })

/-- Prints what a command line comes to that is not carried out. -/
def stop (outputs : Outputs) (s : Stop) : Nat × Outputs :=
  match s with
  | .help topic => (s.exitCode, { outputs with out := (outputs.out.write topic.text).1 })
  | .version => (s.exitCode, { outputs with out := (outputs.out.write versionText).1 })
  | .misuse => (s.exitCode, { outputs with err := (outputs.err.write misuseText).1 })

/-- Runs a command line.  The result is the exit code. -/
def runLine (files : FileStore) (words : List String) (outputs : Outputs) : Nat × Outputs :=
  match Arguments.parse words with
  | .error s => stop outputs s
  | .ok a => (execute files a outputs).exit

end TreeScan.Command

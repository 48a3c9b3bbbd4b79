import TreeScan.Report.Diagnostic
import TreeScan.Scan.Interrupt
import TreeScan.Scan.Imports
import TreeScan.Scan.Stack
import TreeScan.Source.Cache

/-!
# The scanner

A scanner holds what is known while trees are scanned: the stack, the active
unit, the static imports, the source cache and the state of the handler of
diagnostics.  It also holds the files it reads and the events it has noted.

Its setup does not change.  It has the settings, the handler and the position
service.  Without a handler the message of a report goes to the unhandled ones.
-/

namespace TreeScan

/-- What a scanner is set up with.  The handler has a state of type `η`. -/
structure Setup (η : Type) where
  config : ScanConfig
  handler : Option (Handler η)
  positions : PositionService := spanPositions

/-- The state of a scanner. -/
structure Scanner (η : Type) where
  stack : Stack
  /-- The active unit. -/
  unit : Option CompilationUnit
  imports : StaticImports
  sources : SourceCache
  /-- The state of the handler of diagnostics. -/
  reports : η
  files : FileStore
  /-- The events that were noted, oldest first. -/
  log : List LogEvent
  /-- The messages that were reported without a handler, oldest first. -/
  unhandled : List String

namespace Scanner

variable {η : Type}

/-- A scanner that has done nothing yet. -/
def idle (files : FileStore) (reports : η) : Scanner η :=
  { stack := []
    unit := none
    imports := .empty
    sources := .empty
    reports := reports
    files := files
    log := []
    unhandled := [] }

/-- Notes events. -/
def note (s : Scanner η) (events : List LogEvent) : Scanner η := { s with log := s.log ++ events }

/-! ## The stack -/

/-- Puts a node on the stack. -/
def enter (s : Scanner η) (n : Node) : Scanner η := { s with stack := n :: s.stack }

/-- Takes a node off the stack, if it is the current one. -/
def leave? (s : Scanner η) (n : Node) : Option (Scanner η) :=
  match s.stack with
  | [] => none
  | top :: rest => if top.same n then some { s with stack := rest } else none

/-- Drops what was put on the stack since it held `depth` nodes. -/
def cutTo (s : Scanner η) (depth : Nat) : Scanner η := { s with stack := s.stack.cutTo depth }

/-! ## Units and sources -/

/-- Makes a unit the active one and enters its static imports. -/
def activate (setup : Setup η) (s : Scanner η) : Option CompilationUnit → Scanner η
  | none => { s with unit := none }
  | some unit =>
    let (imports, events) := s.imports.register setup.config.staticImports unit
    let activating : LogEvent := ⟨.debug, "activating compilation unit",
      [("path", .text unit.path), ("imports", .number unit.imports.length)]⟩
    { s with unit := some unit, imports := imports }.note (activating :: events)

/-- The source lines of the active unit. -/
def lines (s : Scanner η) : Option (List String) × Scanner η :=
  match s.unit with
  | none => (none, s)
  | some unit =>
    let answer := s.sources.linesAt s.files unit.path
    (answer.lines, { s with sources := answer.cache }.note answer.events)

/-- The position of a node, or of the part of it with a name, in the active
unit. -/
def position? (setup : Setup η) (s : Scanner η) (n : Node) (name : Option String) :
    Option SourcePosition :=
  s.unit.bind fun unit => setup.positions unit n name

/-! ## Reports -/

/-- Reports a problem.  The payload is what the handler gave up with, if it
did. -/
def report (setup : Setup η) (s : Scanner η) (n : Node) (name : Option String)
    (problem : Problem) (params : List String) : Option Payload × Scanner η :=
  let message := problem.message params
  match setup.handler with
  | none => (none, { s with unhandled := s.unhandled ++ [message] })
  | some handler =>
    let handled := handler ⟨problem, s.position? setup n name, message⟩ s.files s.reports
    (handled.panic, { s with reports := handled.state }.note handled.events)

end Scanner

end TreeScan

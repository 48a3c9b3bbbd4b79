import TreeScan.Report.Problem
import TreeScan.Source.Position
import TreeScan.Files.Store
import TreeScan.Log

/-!
# Diagnostics and their handlers

A diagnostic is a problem that was reported: its message, and its position if
one is known.  A handler receives diagnostics one after the other.  It has a
state of its own, may read files and may log.  It may also give up, and what it
gives up with then unwinds the work that made the report.

`collecting` keeps the diagnostics.  `counting` counts them by severity and
passes them on.
-/

namespace TreeScan

/-- A reported problem. -/
structure Diagnostic where
  problem : Problem
  position : Option SourcePosition
  message : String
deriving DecidableEq, Repr

/-- The severity of a diagnostic. -/
def Diagnostic.severity (d : Diagnostic) : Severity := d.problem.severity

/-- A diagnostic on one line. -/
def Diagnostic.text (d : Diagnostic) : String :=
  d.severity.name ++ ": " ++ d.message ++
    match d.position with
    | some position => " (" ++ position.text ++ ")"
    | none => ""

/-- What unwinding work carries with it. -/
inductive Payload where
  | text (message : String)
  /-- Something that has no text. -/
  | other
deriving DecidableEq, Repr

/-- What a handler did with a diagnostic. -/
structure Handled (η : Type) where
  /-- The handler's state afterwards. -/
  state : η
  events : List LogEvent
  /-- What the handler gave up with, if it did. -/
  panic : Option Payload

/-- A handler of diagnostics with a state of type `η`. -/
abbrev Handler (η : Type) := Diagnostic → FileStore → η → Handled η

/-- Keeps every diagnostic, oldest first. -/
def collecting : Handler (List Diagnostic) := fun d _ kept => ⟨kept ++ [d], [], none⟩

/-- How many diagnostics of each severity there were. -/
structure Tally where
  errors : Nat
  warnings : Nat
deriving DecidableEq, Repr

/-- One more diagnostic of a severity. -/
def Tally.add (t : Tally) : Severity → Tally
  | .error => { t with errors := t.errors + 1 }
  | .warning => { t with warnings := t.warnings + 1 }

/-- Whether there was an error. -/
def Tally.hasErrors (t : Tally) : Bool := 0 < t.errors

/-- Counts every diagnostic and passes it on. -/
def counting {η : Type} (inner : Handler η) : Handler (Tally × η) := fun d files (tally, state) =>
  let handled := inner d files state
  ⟨(tally.add d.severity, handled.state), handled.events, handled.panic⟩

example :
    (Diagnostic.mk .unknownSymbol (some ⟨"A.java", ⟨1, 2⟩⟩) "cannot resolve symbol 'T'").text
      = "error: cannot resolve symbol 'T' (A.java@1..2)" := by decide

end TreeScan

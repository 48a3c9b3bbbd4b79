import TreeScan.Scan.Engine

/-!
# What happens in a scan

Visits, hooks, callbacks and reports are what happens in a scan, one after the
other.  The engine keeps no list of them, but they can be read off it: `happenings`
goes through a scan with the engine's own steps and lists what happens in them.

A report is listed whether or not there is a handler that takes it, and also if
the handler gives up on it.  What happens before a scan halts or panics is listed
as well.

What is listed is also what those see who take part: a pass that writes down what it
does (`Engine.run_records_deeds`) and a handler that writes down what it is given
(`Engine.run_tells`).
-/

namespace TreeScan

/-- Something that happens in a scan. -/
inductive Happening (κ : Type) where
  /-- The visit of a node begins. -/
  | visit (node : Node)
  /-- A pass is told that a rollback has reached its target. -/
  | hook (target : Node)
  /-- The callback of a rollback is run. -/
  | callback (callback : κ) (target : Node)
  | report (diagnostic : Diagnostic)

namespace Engine

variable {σ κ η α : Type}

/-- What happens in the scan of a node. -/
abbrev Account (σ κ η : Type) := Node → ScanState σ η → List (Happening κ)

/-- The report of a problem. -/
def reporting (setup : Setup η) (s : Scanner η) (n : Node) (name : Option String)
    (problem : Problem) (params : List String) : Happening κ :=
  .report ⟨problem, s.position? setup n name, problem.message params⟩

/-- What happens while a request is answered. -/
def duringRequest (setup : Setup η) (below : Account σ κ η) :
    Request σ κ → ScanState σ η → List (Happening κ)
  | .scan (some n), s => below n s
  | .scanRoot n, s => below n s
  | .report n name problem params, s => [reporting setup s.scanner n name problem params]
  | _, _ => []

/-- What happens in a visit. -/
def duringVisit (setup : Setup η) (nested : Scan σ κ η) (below : Account σ κ η) :
    Visit σ κ α → ScanState σ η → List (Happening κ)
  | .request r next, s =>
    duringRequest setup below r s ++
      match answer setup nested r s with
      | .ok (.answer a, t) => duringVisit setup nested below (next a) t
      | _ => []
  | _, _ => []

/-- What happens when a rollback lands. -/
def duringLanding (setup : Setup η) (pass : Pass σ κ) (nested : Scan σ κ η)
    (below : Account σ κ η) (n : Node) (callback : Option κ) (s : ScanState σ η) :
    List (Happening κ) :=
  .hook n :: duringVisit setup nested below (pass.landed n) s ++
    match callback, runVisit setup nested (pass.landed n) s with
    | some callback, .ok (.completed (), t) =>
      .callback callback n :: duringVisit setup nested below (pass.resume callback n) t
    | _, _ => []

/-- What happens after the visit of a node has ended. -/
def afterVisit (setup : Setup η) (pass : Pass σ κ) (nested : Scan σ κ η) (below : Account σ κ η)
    (n : Node) : Except Halt (Outcome κ Unit × ScanState σ η) → List (Happening κ)
  | .ok (.interrupted (.rollback r), t) =>
    if r.target.same n then
      duringLanding setup pass nested below n r.callback
        (t.on (t.scanner.note [landing n t.scanner.stack.depth]))
    else []
  | _ => []

/-- What happens when a visit or a landing is settled. -/
def duringSettling (setup : Setup η) (n : Node) :
    Except Halt (Outcome κ Unit × ScanState σ η) → List (Happening κ)
  | .ok (.interrupted (.fault f), t) => [reporting setup t.scanner n none .internalError [f.text]]
  | _ => []

/-- What happens in one scan, given what happens in the scans below. -/
def duringScan (setup : Setup η) (pass : Pass σ κ) (nested : Scan σ κ η)
    (below : Account σ κ η) : Account σ κ η := fun n s =>
  let entered := s.on (s.scanner.enter n)
  .visit n :: duringVisit setup nested below (pass.visit n) entered ++
    afterVisit setup pass nested below n (guarded setup nested (pass.visit n) entered) ++
    duringSettling setup n (visit setup pass nested n entered)

/-- What happens in a scan, with scans nested up to a limit. -/
def happenings (setup : Setup η) (pass : Pass σ κ) : Nat → Account σ κ η
  | 0 => fun _ _ => []
  | limit + 1 => duringScan setup pass (scan setup pass limit) (happenings setup pass limit)

/-- What happens in a run, with scans nested up to a limit. -/
def runHappenings (setup : Setup η) (pass : Pass σ κ) (limit : Nat) (v : Visit σ κ α)
    (s : ScanState σ η) : List (Happening κ) :=
  duringVisit setup (scan setup pass limit) (happenings setup pass limit) v s

end Engine

end TreeScan

import TreeScan.Scan.Trace
import TreeScan.Scan.Visit

/-!
# Scanning

To scan a node is to put it on the stack, run the visit of the pass, settle how
it ended and take the node off the stack again.

* A visit that completes is settled.
* A rollback to the node itself *lands*: the pass is told, and then the callback
  of the rollback is run.  What these end with is settled in turn, but nothing
  lands at the node twice.
* A rollback to another node leaves the scan.  The visit that asked for the scan
  gets it as an answer, and forwards it or not.
* A fault is reported as an internal error at the node.  Then the scan has
  completed.
* A panic becomes a fault, if the settings say so, and what it left on the stack
  is dropped.  Otherwise it leaves the scan as it is, with the stack as it is.

Reporting an internal error is not guarded.  If the handler of diagnostics
panics, then that panic leaves the scan, and the node stays on the stack.

Visits ask for further scans, so scans are nested.  The depth of nesting is
bounded by a limit.  A run that would go beyond it halts without a result.
-/

namespace TreeScan

/-! ## Runs -/

/-- The state of a pass and of the scanner that it runs on. -/
structure ScanState (σ η : Type) where
  pass : σ
  scanner : Scanner η

/-- Why a run has no result. -/
inductive Halt where
  /-- Scans were nested beyond the limit. -/
  | tooDeep
  /-- A node was to be taken off the stack that was not the current one. -/
  | unbalanced
deriving DecidableEq, Repr

/-- The answer to a request, or the panic that came instead. -/
inductive Reply (α : Type) where
  | answer (answer : α)
  | panic (payload : Payload)

/-- How a visit ended. -/
inductive Outcome (κ α : Type) where
  | completed (result : α)
  | interrupted (cause : Interrupt κ)
  | panicked (payload : Payload)

/-- A computation with a result of type `α` on a scanner and a pass. -/
abbrev Turn (σ η α : Type) := ScanState σ η → Except Halt (α × ScanState σ η)

/-- What it means to scan a node.  The answer is the rollback that left the
scan, if one did. -/
abbrev Scan (σ κ η : Type) := Node → Turn σ η (Reply (Option (Rollback κ)))

variable {σ κ η α : Type}

/-- The state with another scanner. -/
def ScanState.on (s : ScanState σ η) (scanner : Scanner η) : ScanState σ η := ⟨s.pass, scanner⟩

namespace Engine

/-! ## Requests -/

/-- What is noted when a rollback has left a scan of its own. -/
def escaped (r : Rollback κ) : LogEvent :=
  ⟨.error, "rollback escaped the scan root",
    [("target_kind", .text r.target.kind.name), ("span", .text r.target.span.text)]⟩

/-- How a scan of its own answers. -/
def rootReply (s : ScanState σ η) :
    Reply (Option (Rollback κ)) → Reply (Option ScanError) × ScanState σ η
  | .answer none => (.answer none, s)
  | .answer (some r) => (.answer (some (.ofRollback r)), s.on (s.scanner.note [escaped r]))
  | .panic payload => (.panic payload, s)

/-- How a report answers. -/
def reportReply : Option Payload → Reply Unit
  | none => .answer ()
  | some payload => .panic payload

/-- Answers a request, given what it means to scan a node. -/
def answer (setup : Setup η) (nested : Scan σ κ η) :
    (r : Request σ κ) → Turn σ η (Reply r.Answer)
  | .scan none, s => .ok (.answer none, s)
  | .scan (some n), s => nested n s
  | .scanRoot n, s =>
    match nested n s with
    | .error halt => .error halt
    | .ok (reply, s) => .ok (rootReply s reply)
  | .read, s => .ok (.answer s.pass, s)
  | .write state, s => .ok (.answer (), ⟨state, s.scanner⟩)
  | .stack, s => .ok (.answer s.scanner.stack, s)
  | .unit, s => .ok (.answer s.scanner.unit, s)
  | .imports, s => .ok (.answer s.scanner.imports, s)
  | .config, s => .ok (.answer setup.config, s)
  | .lines, s => .ok (.answer s.scanner.lines.1, s.on s.scanner.lines.2)
  | .trace, s => .ok (.answer (s.scanner.trace setup).1, s.on (s.scanner.trace setup).2)
  | .report n name problem params, s =>
    let (panic, scanner) := s.scanner.report setup n name problem params
    .ok (reportReply panic, s.on scanner)
  | .activate unit, s => .ok (.answer (), s.on (s.scanner.activate setup unit))
  | .log event, s => .ok (.answer (), s.on (s.scanner.note [event]))
  | .editFiles edit, s =>
    .ok (.answer (), s.on { s.scanner with files := edit s.scanner.files })

/-- Runs a visit, given what it means to scan a node. -/
def runVisit (setup : Setup η) (nested : Scan σ κ η) :
    Visit σ κ α → Turn σ η (Outcome κ α)
  | .done result, s => .ok (.completed result, s)
  | .interrupt cause, s => .ok (.interrupted cause, s)
  | .panic payload, s => .ok (.panicked payload, s)
  | .request r next, s =>
    match answer setup nested r s with
    | .error halt => .error halt
    | .ok (.answer a, s) => runVisit setup nested (next a) s
    | .ok (.panic payload, s) => .ok (.panicked payload, s)

/-! ## One scan -/

/-- Turns a panic into a fault and drops what it left on the stack. -/
def catchPanic (depth : Nat) (s : ScanState σ η) :
    Outcome κ Unit → Outcome κ Unit × ScanState σ η
  | .panicked payload => (.interrupted (.fault (.ofPanic payload)), s.on (s.scanner.cutTo depth))
  | outcome => (outcome, s)

/-- Runs a visit and catches a panic, if the settings say so. -/
def guarded (setup : Setup η) (nested : Scan σ κ η) (v : Visit σ κ Unit) :
    Turn σ η (Outcome κ Unit) := fun s =>
  match runVisit setup nested v s with
  | .error halt => .error halt
  | .ok (outcome, after) =>
    if setup.config.catchPanics then .ok (catchPanic s.scanner.stack.depth after outcome)
    else .ok (outcome, after)

/-- What is noted when a rollback lands. -/
def landing (n : Node) (depth : Nat) : LogEvent :=
  ⟨.debug, "rollback landed",
    [("kind", .text n.kind.name), ("span", .text n.span.text), ("depth", .number depth)]⟩

/-- Lets a rollback land at a node. -/
def land (setup : Setup η) (pass : Pass σ κ) (nested : Scan σ κ η) (n : Node)
    (callback : Option κ) : Turn σ η (Outcome κ Unit) := fun s =>
  guarded setup nested (pass.land callback n)
    (s.on (s.scanner.note [landing n s.scanner.stack.depth]))

/-- What is noted when a visit fails. -/
def failing (n : Node) (f : Fault) : LogEvent :=
  ⟨.error, "internal error while scanning",
    [("kind", .text n.kind.name), ("span", .text n.span.text), ("error", .text f.text)]⟩

/-- Reports a fault of a visit as an internal error. -/
def internalError (setup : Setup η) (n : Node) (f : Fault) (s : Scanner η) :
    Option Payload × Scanner η :=
  match (s.note [failing n f]).report setup n none .internalError [f.text] with
  | (some payload, s) => (some payload, s)
  | (none, s) =>
    if setup.config.dumpStackOnError then
      let (text, s) := s.trace setup
      (none, s.note [⟨.error, text, []⟩])
    else (none, s)

/-- Settles how a visit or a landing ended. -/
def settle (setup : Setup η) (n : Node) (s : ScanState σ η) :
    Outcome κ Unit → Reply (Option (Rollback κ)) × ScanState σ η
  | .completed () => (.answer none, s)
  | .interrupted (.rollback r) => (.answer (some r), s)
  | .interrupted (.fault f) =>
    match internalError setup n f s.scanner with
    | (none, scanner) => (.answer none, s.on scanner)
    | (some payload, scanner) => (.panic payload, s.on scanner)
  | .panicked payload => (.panic payload, s)

/-- Takes a node off the stack and answers.  A panic leaves it there. -/
def leave (n : Node) (s : ScanState σ η) :
    Reply (Option (Rollback κ)) → Except Halt (Reply (Option (Rollback κ)) × ScanState σ η)
  | .panic payload => .ok (.panic payload, s)
  | .answer r =>
    match s.scanner.leave? n with
    | none => .error .unbalanced
    | some scanner => .ok (.answer r, s.on scanner)

/-- The visit of a node on the stack, with the landing that may follow. -/
def visit (setup : Setup η) (pass : Pass σ κ) (nested : Scan σ κ η) (n : Node) :
    Turn σ η (Outcome κ Unit) := fun s =>
  match guarded setup nested (pass.visit n) s with
  | .error halt => .error halt
  | .ok (.interrupted (.rollback r), s) =>
    if r.target.same n then land setup pass nested n r.callback s
    else .ok (.interrupted (.rollback r), s)
  | .ok (outcome, s) => .ok (outcome, s)

/-- One scan of a node, given what it means to scan the nodes below. -/
def scanWith (setup : Setup η) (pass : Pass σ κ) (nested : Scan σ κ η) : Scan σ κ η := fun n s =>
  match visit setup pass nested n (s.on (s.scanner.enter n)) with
  | .error halt => .error halt
  | .ok (outcome, s) =>
    let (reply, s) := settle setup n s outcome
    leave n s reply

/-! ## Nested scans -/

/-- Scans a node, with scans nested up to a limit. -/
def scan (setup : Setup η) (pass : Pass σ κ) : Nat → Scan σ κ η
  | 0 => fun _ _ => .error .tooDeep
  | limit + 1 => scanWith setup pass (scan setup pass limit)

/-- Runs a visit outside of any node, with scans nested up to a limit. -/
def run (setup : Setup η) (pass : Pass σ κ) (limit : Nat) (v : Visit σ κ α) :
    Turn σ η (Outcome κ α) :=
  runVisit setup (scan setup pass limit) v

end Engine

/-- Activates a unit, which is the tree of some number, and scans it from its
root. -/
def Visit.scanUnit (tree : Nat) (unit : CompilationUnit) : Visit σ κ (Option ScanError) :=
  (activate (some unit)).bind fun _ => scanRoot (.root tree unit)

end TreeScan

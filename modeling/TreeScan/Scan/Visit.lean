import TreeScan.Files.Store
import TreeScan.Scan.Imports
import TreeScan.Scan.Interrupt
import TreeScan.Scan.Stack

/-!
# Visits and passes

A *visit* is what a pass does at a node.  It is a tree of requests to the
scanner.  Each request has an answer, and the rest of the visit depends on it.
A visit ends with a result, with an interrupt or with a panic.

So a visit can do nothing but ask the scanner.  In particular it does not touch
the stack: it scans nodes, and the scanner keeps the stack.

A *pass* says what to visit a node with.  It has a state of type `σ`, which its
visits read and write, and callbacks of type `κ`.
-/

namespace TreeScan

/-! ## Requests -/

/-- What a visit can ask for. -/
inductive Request (σ κ : Type) where
  /-- Scans a node.  An absent node is scanned without effect. -/
  | scan (node : Option Node)
  /-- Scans a node as the root of a scan of its own. -/
  | scanRoot (node : Node)
  /-- The state of the pass. -/
  | read
  /-- Replaces the state of the pass. -/
  | write (state : σ)
  /-- The nodes that are being visited. -/
  | stack
  /-- The active unit. -/
  | unit
  /-- The static imports so far. -/
  | imports
  /-- The settings of the scanner. -/
  | config
  /-- The source lines of the active unit, if its file can be read. -/
  | lines
  /-- The stack with source text and positions. -/
  | trace
  /-- Reports a problem at a node, or at the part of it with a name. -/
  | report (node : Node) (name : Option String) (problem : Problem) (params : List String)
  /-- Makes a unit the active one. -/
  | activate (unit : Option CompilationUnit)
  /-- Notes an event. -/
  | log (event : LogEvent)
  /-- Changes the files. -/
  | editFiles (edit : FileStore → FileStore)

/-- The answer to a request.  A scan answers with the rollback that left it, if
one did. -/
abbrev Request.Answer {σ κ : Type} : Request σ κ → Type
  | .scan _ => Option (Rollback κ)
  | .scanRoot _ => Option ScanError
  | .read => σ
  | .stack => Stack
  | .unit => Option CompilationUnit
  | .imports => StaticImports
  | .config => ScanConfig
  | .lines => Option (List String)
  | .trace => String
  | .write _ => Unit
  | .report .. => Unit
  | .activate _ => Unit
  | .log _ => Unit
  | .editFiles _ => Unit

/-! ## Visits -/

/-- A visit with results of type `α`. -/
inductive Visit (σ κ α : Type) where
  | done (result : α)
  | interrupt (cause : Interrupt κ)
  | panic (payload : Payload)
  | request (r : Request σ κ) (next : r.Answer → Visit σ κ α)

namespace Visit

variable {σ κ α β γ : Type}

/-- One visit and then another, which depends on the result of the first. -/
def bind : Visit σ κ α → (α → Visit σ κ β) → Visit σ κ β
  | done result, f => f result
  | interrupt cause, _ => interrupt cause
  | panic payload, _ => panic payload
  | request r next, f => request r fun answer => (next answer).bind f

instance : Monad (Visit σ κ) where
  pure := done
  bind := bind

@[simp] theorem pure_bind (a : α) (f : α → Visit σ κ β) : (done a).bind f = f a := rfl

@[simp] theorem bind_done (v : Visit σ κ α) : v.bind done = v := by
  induction v with
  | done _ => rfl
  | interrupt _ => rfl
  | panic _ => rfl
  | request r next ih => simp only [bind]; congr; funext answer; exact ih answer

theorem bind_assoc (v : Visit σ κ α) (f : α → Visit σ κ β) (g : β → Visit σ κ γ) :
    (v.bind f).bind g = v.bind fun a => (f a).bind g := by
  induction v with
  | done _ => rfl
  | interrupt _ => rfl
  | panic _ => rfl
  | request r next ih => simp only [bind]; congr; funext answer; exact ih answer

/-- Makes one request. -/
def ask (r : Request σ κ) : Visit σ κ r.Answer := request r done

/-! ## What visits do -/

/-- Ends with a rollback. -/
def rollback (r : Rollback κ) : Visit σ κ α := interrupt (.rollback r)

/-- Ends with a fault. -/
def fault (f : Fault) : Visit σ κ α := interrupt (.fault f)

/-- Scans a node and answers with the rollback that left the scan. -/
def attempt (node : Option Node) : Visit σ κ (Option (Rollback κ)) := ask (.scan node)

/-- Goes on if a scan completed, and forwards the rollback that left it. -/
def forward : Option (Rollback κ) → Visit σ κ Unit
  | none => done ()
  | some r => rollback r

/-- Scans a node and forwards the rollback that leaves the scan. -/
def scan (node : Node) : Visit σ κ Unit := (attempt (some node)).bind forward

/-- Scans nodes one after the other. -/
def scanAll : List Node → Visit σ κ Unit
  | [] => done ()
  | node :: nodes => (scan node).bind fun _ => scanAll nodes

/-- The default visit of a node: scans its children in their order. -/
def walk (node : Node) : Visit σ κ Unit := scanAll node.children

/-- Scans a node as the root of a scan of its own. -/
def scanRoot (node : Node) : Visit σ κ (Option ScanError) := ask (.scanRoot node)

/-- The state of the pass. -/
def read : Visit σ κ σ := ask .read

/-- Replaces the state of the pass. -/
def write (state : σ) : Visit σ κ Unit := ask (.write state)

/-- Changes the state of the pass. -/
def change (f : σ → σ) : Visit σ κ Unit := read.bind fun state => write (f state)

/-- The nodes that are being visited. -/
def stack : Visit σ κ Stack := ask .stack

/-- The active unit. -/
def unit : Visit σ κ (Option CompilationUnit) := ask .unit

/-- The static imports so far. -/
def imports : Visit σ κ StaticImports := ask .imports

/-- The settings of the scanner. -/
def config : Visit σ κ ScanConfig := ask .config

/-- The source lines of the active unit. -/
def lines : Visit σ κ (Option (List String)) := ask .lines

/-- The stack with source text and positions. -/
def trace : Visit σ κ String := ask .trace

/-- Reports a problem at a node. -/
def report (node : Node) (problem : Problem) (params : List String) : Visit σ κ Unit :=
  ask (.report node none problem params)

/-- Reports a problem at a node, or at the part of it with a name. -/
def reportNamed (node : Node) (name : Option String) (problem : Problem) (params : List String) :
    Visit σ κ Unit :=
  ask (.report node name problem params)

/-- Makes a unit the active one. -/
def activate (unit : Option CompilationUnit) : Visit σ κ Unit := ask (.activate unit)

/-- Notes an event. -/
def log (event : LogEvent) : Visit σ κ Unit := ask (.log event)

/-- Changes the files. -/
def editFiles (edit : FileStore → FileStore) : Visit σ κ Unit := ask (.editFiles edit)

end Visit

/-! ## Passes -/

/-- What to do at nodes. -/
structure Pass (σ κ : Type) where
  /-- The visit of a node. -/
  visit : Node → Visit σ κ Unit := Visit.walk
  /-- What is done when a rollback has reached its target, before its callback. -/
  landed : Node → Visit σ κ Unit := fun _ => .done ()
  /-- What a callback does at the target of its rollback. -/
  resume : κ → Node → Visit σ κ Unit

/-- What a pass does when a rollback has reached its target. -/
def Pass.land {σ κ : Type} (pass : Pass σ κ) (callback : Option κ) (target : Node) :
    Visit σ κ Unit :=
  (pass.landed target).bind fun _ =>
    match callback with
    | none => .done ()
    | some callback => pass.resume callback target

end TreeScan

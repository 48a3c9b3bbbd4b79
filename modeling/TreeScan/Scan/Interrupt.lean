import TreeScan.Ast.Node
import TreeScan.Report.Diagnostic
import TreeScan.Text.Quoted

/-!
# Interrupts

A visit that does not complete is interrupted.  A *rollback* gives up everything
below an enclosing node, its target.  It may carry a callback, which is then run
at the target.  A *fault* is a failure of the visit itself.

A callback is a value of a type that the pass chooses, and the pass knows how to
run it.
-/

namespace TreeScan

/-! ## Rollbacks -/

/-- A request to give up everything below a node. -/
structure Rollback (κ : Type) where
  target : Node
  /-- What is to be done at the target. -/
  callback : Option κ

/-- A rollback as it is shown. -/
def Rollback.text {κ : Type} (r : Rollback κ) : String :=
  "Rollback \x7b target: " ++ r.target.text ++ ", has_callback: " ++
    (if r.callback.isSome then "true" else "false") ++ " \x7d"

/-! ## Faults -/

/-- A payload in words. -/
def Payload.message : Payload → String
  | .text message => message
  | .other => "non-string panic payload"

/-- A failure of a visit. -/
inductive Fault where
  | message (message : String)
  /-- A panic that was caught. -/
  | panic (message : String)
  /-- An error from elsewhere, with its text.  It is assumed that the text can be had: it
  is asked for when the fault is reported, where no panic is caught. -/
  | error (message : String)
deriving DecidableEq, Repr

/-- A fault in words. -/
def Fault.text : Fault → String
  | .message m => m
  | .panic m => "handler panicked: " ++ m
  | .error m => m

/-- The fault that a caught panic becomes. -/
def Fault.ofPanic (p : Payload) : Fault := .panic p.message

/-! ## Interrupts -/

/-- Why a visit did not complete. -/
inductive Interrupt (κ : Type) where
  | rollback (rollback : Rollback κ)
  | fault (fault : Fault)

/-- The form of a fault that names its kind.  An error from elsewhere has none. -/
def Fault.form? : Fault → Option String
  | .message m => some ("Message(" ++ Text.quoteString m ++ ")")
  | .panic m => some ("Panic(" ++ Text.quoteString m ++ ")")
  | .error _ => none

/-- An interrupt as it is shown.  An error from elsewhere is not. -/
def Interrupt.text? {κ : Type} : Interrupt κ → Option String
  | .rollback r => some ("Rollback(" ++ r.text ++ ")")
  | .fault f => f.form?.map fun form => "Fault(" ++ form ++ ")"

/-! ## Errors of a whole scan -/

/-- A rollback left the outermost visit. -/
structure ScanError where
  /-- The kind of the target. -/
  kind : NodeKind
  /-- The span of the target. -/
  span : Span
deriving DecidableEq, Repr

namespace ScanError

/-- The error of a rollback that left the outermost visit. -/
def ofRollback {κ : Type} (r : Rollback κ) : ScanError := ⟨r.target.kind, r.target.span⟩

/-- An error in words. -/
def message (e : ScanError) : String :=
  "rollback target " ++ e.kind.name ++ " at " ++ e.span.text ++
    " is not an ancestor of the scanned node"

/-- The code of an error. -/
def code (_ : ScanError) : String := "ferry::scan::unhandled_rollback"

/-- What to do about an error. -/
def help (_ : ScanError) : String :=
  "rollback targets must be nodes currently being scanned " ++
    "(the current node or one of its ancestors)"

end ScanError

end TreeScan

import TreeScan.Scan.Engine

/-!
# The stack is balanced

Whatever a pass does, a scan that answers leaves the stack as it found it, and
a node is never taken off the stack unless it is the current one.

Only three operations of a scanner touch the stack: a node is put on it, a node
is taken off it, and what a panic left on it is dropped.  The invariant is
`Restores`.  A scan that answers restores the stack.  A scan that a panic leaves
may have put nodes on top of it, but what was there is still there.  The second
half is what makes the induction go through: a caught panic is cut back to the
depth that the visit began with, and that is the old stack only because nothing
below that depth was touched.

Each layer of the engine keeps the invariant if the scans nested in it do
(`answer_restores`, `runVisit_restores`, `guarded_restores`, `visit_restores`,
`scanWith_restores`), and so every scan does (`scan_restores`), by induction on
the limit of the nesting.
-/

namespace TreeScan

/-! ## What touches the stack -/

namespace Scanner

variable {η : Type}

@[simp] theorem note_stack (s : Scanner η) (events : List LogEvent) :
    (s.note events).stack = s.stack := rfl

@[simp] theorem enter_stack (s : Scanner η) (n : Node) : (s.enter n).stack = n :: s.stack := rfl

@[simp] theorem cutTo_stack (s : Scanner η) (depth : Nat) :
    (s.cutTo depth).stack = s.stack.cutTo depth := rfl

@[simp] theorem lines_stack (s : Scanner η) : s.lines.2.stack = s.stack := by
  unfold lines
  cases s.unit with
  | none => rfl
  | some unit => rfl

@[simp] theorem trace_stack (setup : Setup η) (s : Scanner η) :
    (s.trace setup).2.stack = s.stack := s.lines_stack

@[simp] theorem activate_stack (setup : Setup η) (s : Scanner η) (unit : Option CompilationUnit) :
    (s.activate setup unit).stack = s.stack := by
  cases unit with
  | none => rfl
  | some unit => rfl

@[simp] theorem report_stack (setup : Setup η) (s : Scanner η) (n : Node) (name : Option String)
    (problem : Problem) (params : List String) :
    (s.report setup n name problem params).2.stack = s.stack := by
  unfold report
  cases setup.handler with
  | none => rfl
  | some handler => rfl

/-- A node comes off the stack that it is on top of. -/
theorem leave?_of_stack {s : Scanner η} {n : Node} {rest : Stack} (h : s.stack = n :: rest) :
    s.leave? n = some { s with stack := rest } := by
  simp [leave?, h]

end Scanner

@[simp] theorem ScanState.on_scanner {σ η : Type} (s : ScanState σ η) (scanner : Scanner η) :
    (s.on scanner).scanner = scanner := rfl

namespace Engine

variable {σ κ η α : Type}

@[simp] theorem internalError_stack (setup : Setup η) (n : Node) (f : Fault) (s : Scanner η) :
    (internalError setup n f s).2.stack = s.stack := by
  have h := (s.note [failing n f]).report_stack setup n none .internalError [f.text]
  unfold internalError
  split
  · next payload after hr =>
      rw [hr] at h
      exact h
  · next after hr =>
      rw [hr] at h
      split
      · exact (after.trace_stack setup).trans h
      · exact h

/-- What a scan answers whose fault was reported. -/
def faultReply : Option Payload → Reply (Option (Rollback κ))
  | none => .answer none
  | some payload => .panic payload

theorem settle_fault (setup : Setup η) (n : Node) (s : ScanState σ η) (f : Fault) :
    settle (κ := κ) setup n s (.interrupted (.fault f)) =
      (faultReply (internalError setup n f s.scanner).1,
        s.on (internalError setup n f s.scanner).2) := by
  simp only [settle]
  rcases internalError setup n f s.scanner with ⟨_ | payload, after⟩ <;> rfl

@[simp] theorem settle_stack (setup : Setup η) (n : Node) (s : ScanState σ η)
    (outcome : Outcome κ Unit) :
    (settle setup n s outcome).2.scanner.stack = s.scanner.stack := by
  cases outcome with
  | completed result => rfl
  | interrupted cause =>
      cases cause with
      | rollback r => rfl
      | fault f =>
          rw [settle_fault]
          exact internalError_stack setup n f s.scanner
  | panicked payload => rfl

/-! ## The invariant -/

/-- What a computation may do to the stack that it starts on.  If it answers,
the stack is the same.  If it panics, the stack is still at the bottom. -/
def Restores (stack : Stack) : Except Halt (Reply α × ScanState σ η) → Prop
  | .error halt => halt = .tooDeep
  | .ok (.answer _, s) => s.scanner.stack = stack
  | .ok (.panic _, s) => stack <:+ s.scanner.stack

/-- The same for a visit: unless it panics, the stack is the same. -/
def Settles (stack : Stack) : Except Halt (Outcome κ α × ScanState σ η) → Prop
  | .error halt => halt = .tooDeep
  | .ok (.completed _, s) => s.scanner.stack = stack
  | .ok (.interrupted _, s) => s.scanner.stack = stack
  | .ok (.panicked _, s) => stack <:+ s.scanner.stack

/-- All scans restore the stack that they start on. -/
def Balanced (nested : Scan σ κ η) : Prop := ∀ n s, Restores s.scanner.stack (nested n s)

variable {nested : Scan σ κ η}

/-! ## Requests and visits -/

theorem rootReply_restores {stack : Stack} {s : ScanState σ η}
    {reply : Reply (Option (Rollback κ))} (h : Restores stack (.ok (reply, s))) :
    Restores stack (.ok (rootReply s reply)) := by
  cases reply with
  | answer r =>
      cases r with
      | none => exact h
      | some r => exact h
  | panic payload => exact h

theorem answer_scanRoot (setup : Setup η) (nested : Scan σ κ η) (n : Node) (s : ScanState σ η) :
    answer setup nested (.scanRoot n) s =
      (nested n s).map fun result => rootReply result.2 result.1 := by
  simp only [answer]
  cases nested n s with
  | error halt => rfl
  | ok result => rfl

theorem answer_report (setup : Setup η) (nested : Scan σ κ η) (n : Node) (name : Option String)
    (problem : Problem) (params : List String) (s : ScanState σ η) :
    answer setup nested (.report n name problem params) s =
      .ok (reportReply (s.scanner.report setup n name problem params).1,
        s.on (s.scanner.report setup n name problem params).2) := rfl

theorem answer_restores (setup : Setup η) (balanced : Balanced nested) (r : Request σ κ)
    (s : ScanState σ η) :
    Restores s.scanner.stack (answer setup nested r s) := by
  cases r with
  | scan node =>
      cases node with
      | none => exact rfl
      | some n => exact balanced n s
  | scanRoot n =>
      have h := balanced n s
      rw [answer_scanRoot]
      cases hn : nested n s with
      | error halt => rw [hn] at h; exact h
      | ok result => rw [hn] at h; exact rootReply_restores h
  | report n name problem params =>
      have h := s.scanner.report_stack setup n name problem params
      rw [answer_report]
      cases (s.scanner.report setup n name problem params).1 with
      | none => exact h
      | some payload => exact ⟨[], h.symm⟩
  | lines => exact s.scanner.lines_stack
  | trace => exact s.scanner.trace_stack setup
  | activate unit => exact s.scanner.activate_stack setup unit
  | read => exact rfl
  | write state => exact rfl
  | stack => exact rfl
  | unit => exact rfl
  | imports => exact rfl
  | config => exact rfl
  | log event => exact rfl
  | editFiles edit => exact rfl

theorem runVisit_restores (setup : Setup η) (balanced : Balanced nested) (v : Visit σ κ α)
    (s : ScanState σ η) :
    Settles s.scanner.stack (runVisit setup nested v s) := by
  induction v generalizing s with
  | done result => exact rfl
  | interrupt cause => exact rfl
  | panic payload => exact List.suffix_rfl
  | request r next ih =>
      have h := answer_restores setup balanced r s
      unfold runVisit
      split
      · next halt ha => rw [ha] at h; exact h
      · next a t ha =>
          rw [ha] at h
          -- What is left of the visit starts on the same stack.
          have hs : t.scanner.stack = s.scanner.stack := h
          rw [← hs]
          exact ih a t
      · next payload t ha => rw [ha] at h; exact h

/-! ## One scan -/

/-- A panic that is caught leaves the stack that the visit began with. -/
theorem catchPanic_restores {stack : Stack} {outcome : Outcome κ Unit} {s : ScanState σ η}
    (h : Settles stack (.ok (outcome, s))) :
    (catchPanic stack.depth s outcome).2.scanner.stack = stack := by
  cases outcome with
  | completed result => exact h
  | interrupted cause => exact h
  | panicked payload =>
      -- The panic left `frames` on top of the stack, and nothing below them has changed.
      obtain ⟨frames, hf⟩ := h
      show s.scanner.stack.cutTo stack.length = stack
      rw [← hf]
      exact Stack.cutTo_append frames stack

theorem settles_of_stack_eq {stack : Stack} {outcome : Outcome κ α} {s : ScanState σ η}
    (h : s.scanner.stack = stack) : Settles stack (.ok (outcome, s)) := by
  cases outcome with
  | completed result => exact h
  | interrupted cause => exact h
  | panicked payload => exact h ▸ List.suffix_rfl

theorem guarded_restores (setup : Setup η) (balanced : Balanced nested) (v : Visit σ κ Unit)
    (s : ScanState σ η) :
    Settles s.scanner.stack (guarded setup nested v s) := by
  have h := runVisit_restores setup balanced v s
  unfold guarded
  split
  · next halt hv => rw [hv] at h; exact h
  · next outcome t hv =>
      rw [hv] at h
      split
      · exact settles_of_stack_eq (catchPanic_restores h)
      · exact h

theorem visit_restores (setup : Setup η) (balanced : Balanced nested) (pass : Pass σ κ) (n : Node)
    (s : ScanState σ η) : Settles s.scanner.stack (visit setup pass nested n s) := by
  have h := guarded_restores setup balanced (pass.visit n) s
  unfold visit
  split
  · next halt hg => rw [hg] at h; exact h
  · next r t hg =>
      rw [hg] at h
      have hs : t.scanner.stack = s.scanner.stack := h
      split
      · rw [← hs]
        exact guarded_restores setup balanced (pass.land r.callback n)
          (t.on (t.scanner.note [landing n t.scanner.stack.depth]))
      · exact h
  · next outcome t _ hg => rw [hg] at h; exact h

/-- A node that is left is the current one, and what is under it comes back. -/
theorem leave_restores {n : Node} {stack : Stack} {s : ScanState σ η}
    {reply : Reply (Option (Rollback κ))} (h : Restores (n :: stack) (.ok (reply, s))) :
    Restores stack (leave n s reply) := by
  cases reply with
  | answer r =>
      have hs : s.scanner.stack = n :: stack := h
      unfold leave
      rw [Scanner.leave?_of_stack hs]
      exact rfl
  | panic payload => exact (List.suffix_cons n stack).trans h

theorem settle_restores (setup : Setup η) {stack : Stack} {n : Node} {s : ScanState σ η}
    {outcome : Outcome κ Unit} (h : Settles stack (.ok (outcome, s))) :
    Restores stack (.ok (settle setup n s outcome)) := by
  have hs := settle_stack setup n s outcome
  cases outcome with
  | completed result => exact h
  | interrupted cause =>
      have h' : s.scanner.stack = stack := h
      rw [h'] at hs
      revert hs
      cases settle setup n s (.interrupted cause) with
      | mk reply t =>
          intro hs
          cases reply with
          | answer r => exact hs
          | panic payload =>
              have hs : t.scanner.stack = stack := hs
              exact hs ▸ List.suffix_rfl
  | panicked payload => exact h

theorem scanWith_restores (setup : Setup η) (pass : Pass σ κ) (balanced : Balanced nested) :
    Balanced (scanWith setup pass nested) := by
  intro n s
  have h := visit_restores setup balanced pass n (s.on (s.scanner.enter n))
  unfold scanWith
  split
  · next halt hv => rw [hv] at h; exact h
  · next outcome t hv =>
      rw [hv] at h
      exact leave_restores (settle_restores setup h)

/-! ## All scans -/

theorem scan_restores (setup : Setup η) (pass : Pass σ κ) (limit : Nat) :
    Balanced (scan setup pass limit) := by
  induction limit with
  | zero => exact fun _ _ => rfl
  | succ limit ih => exact scanWith_restores setup pass ih

/-- A scan that answers, whether it completed or a rollback left it, leaves the
stack as it was when the scan was asked for.  No node was taken off the stack
that was not the current one. -/
theorem scan_leaves_stack (setup : Setup η) (pass : Pass σ κ) (limit : Nat) (node : Option Node)
    (s : ScanState σ η) :
    (∀ r after, answer setup (scan setup pass limit) (.scan node) s = .ok (.answer r, after) →
      after.scanner.stack = s.scanner.stack) ∧
    answer setup (scan setup pass limit) (.scan node) s ≠ .error .unbalanced := by
  have h := answer_restores setup (scan_restores setup pass limit) (.scan node) s
  constructor
  · intro r after ha
    rw [ha] at h
    exact h
  · intro ha
    rw [ha] at h
    cases h

/-- A setup that nothing is reported to. -/
def plainSetup : Setup Unit := { config := {}, handler := none }

/-- A block without statements, the root of a tree.  All of them look alike. -/
def bareBlock (tree : Nat) : Node := ⟨⟨tree, []⟩, .block ⟨⟨[]⟩, ⟨0, 0⟩⟩⟩

/-- Scans a node of a second tree at the nodes of the first, and panics there. -/
def panicBelow : Pass Unit Unit where
  visit n := if n.place.tree = 0 then Visit.scan (bareBlock 1) else .panic .other
  resume _ _ := .done ()

/-- A scan of a node that is on the stack already, with a panic below it. -/
theorem panicBelow_leaves_stack :
    ∃ after, answer plainSetup (scan plainSetup panicBelow 2) (.scan (some (bareBlock 0)))
        ⟨(), (Scanner.idle (.empty []) ()).enter (bareBlock 0)⟩ = .ok (.answer none, after) ∧
      after.scanner.stack = [bareBlock 0] := by
  obtain ⟨after, hanswer⟩ : ∃ after,
      answer plainSetup (scan plainSetup panicBelow 2) (.scan (some (bareBlock 0)))
        ⟨(), (Scanner.idle (.empty []) ()).enter (bareBlock 0)⟩ = .ok (.answer none, after) :=
    ⟨_, rfl⟩
  exact ⟨after, hanswer, (scan_leaves_stack _ _ _ _ _).1 none after hanswer⟩

end Engine

end TreeScan

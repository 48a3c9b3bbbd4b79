import TreeScan.Proofs.Scan.Frames

/-!
# What a scan changes

A pass changes a scanner from outside its bookkeeping in two ways: it activates a
unit, and it edits the files.  The engine keeps no list of these changes, but they
can be read off it: `changes` goes through a scan with the engine's own steps and
lists them in order.

All else that a scanner does to itself is bookkeeping: the stack, the log, the source
cache and the reports.  So a property of the changes so far and the scanner holds
throughout if bookkeeping does not break it and a change carries it over (`Kept`).
Each layer of the engine keeps such a property if the scans nested in it do, and so
every scan does (`scan_keeps`), by induction on the limit of the nesting.
-/

namespace TreeScan

/-- A change that a pass asks for. -/
inductive Change where
  /-- Makes a unit the active one. -/
  | activate (unit : Option CompilationUnit)
  | editFiles (edit : FileStore → FileStore)

namespace Change

/-- The units that some changes activate, in order. -/
def units (cs : List Change) : List CompilationUnit :=
  cs.filterMap fun
    | activate unit => unit
    | editFiles _ => none

@[simp] theorem units_append (cs ds : List Change) : units (cs ++ ds) = units cs ++ units ds :=
  List.filterMap_append

@[simp] theorem units_activate (unit : Option CompilationUnit) :
    units [activate unit] = unit.toList := by
  cases unit with
  | none => rfl
  | some unit => rfl

@[simp] theorem units_editFiles (edit : FileStore → FileStore) : units [editFiles edit] = [] := rfl

/-- The edits of files among some changes, in order. -/
def edits (cs : List Change) : List (FileStore → FileStore) :=
  cs.filterMap fun
    | activate _ => none
    | editFiles edit => some edit

@[simp] theorem edits_append (cs ds : List Change) : edits (cs ++ ds) = edits cs ++ edits ds :=
  List.filterMap_append

end Change

/-- A scanner after a change. -/
def Scanner.change {η : Type} (setup : Setup η) (s : Scanner η) : Change → Scanner η
  | .activate unit => s.activate setup unit
  | .editFiles edit => { s with files := edit s.files }

namespace Engine

variable {σ κ η α : Type}

/-! ## The changes of a scan -/

/-- The changes in the scan of a node. -/
abbrev Ledger (σ η : Type) := Node → ScanState σ η → List Change

/-- The changes while a request is answered. -/
def changedByRequest (below : Ledger σ η) : Request σ κ → ScanState σ η → List Change
  | .scan (some n), s => below n s
  | .scanRoot n, s => below n s
  | .activate unit, _ => [.activate unit]
  | .editFiles edit, _ => [.editFiles edit]
  | _, _ => []

/-- The changes in a visit. -/
def changedInVisit (setup : Setup η) (nested : Scan σ κ η) (below : Ledger σ η) :
    Visit σ κ α → ScanState σ η → List Change
  | .request r next, s =>
    changedByRequest below r s ++
      match answer setup nested r s with
      | .ok (.answer a, t) => changedInVisit setup nested below (next a) t
      | _ => []
  | _, _ => []

/-- The changes after the visit of a node has ended. -/
def changedAfterVisit (setup : Setup η) (pass : Pass σ κ) (nested : Scan σ κ η)
    (below : Ledger σ η) (n : Node) :
    Except Halt (Outcome κ Unit × ScanState σ η) → List Change
  | .ok (.interrupted (.rollback r), t) =>
    if r.target.same n then
      changedInVisit setup nested below (pass.land r.callback n)
        (t.on (t.scanner.note [landing n t.scanner.stack.depth]))
    else []
  | _ => []

/-- The changes in one scan, given those in the scans below. -/
def changedInScan (setup : Setup η) (pass : Pass σ κ) (nested : Scan σ κ η) (below : Ledger σ η) :
    Ledger σ η := fun n s =>
  let entered := s.on (s.scanner.enter n)
  changedInVisit setup nested below (pass.visit n) entered ++
    changedAfterVisit setup pass nested below n (guarded setup nested (pass.visit n) entered)

/-- The changes in a scan, with scans nested up to a limit. -/
def changes (setup : Setup η) (pass : Pass σ κ) : Nat → Ledger σ η
  | 0 => fun _ _ => []
  | limit + 1 => changedInScan setup pass (scan setup pass limit) (changes setup pass limit)

/-- The changes in a run, with scans nested up to a limit. -/
def runChanges (setup : Setup η) (pass : Pass σ κ) (limit : Nat) (v : Visit σ κ α)
    (s : ScanState σ η) : List Change :=
  changedInVisit setup (scan setup pass limit) (changes setup pass limit) v s

/-! ## Properties that are kept -/

/-- A property of the changes so far and of the scanner that bookkeeping does not break
and that a change carries over. -/
structure Kept (setup : Setup η) (I : List Change → Scanner η → Prop) : Prop where
  restack : ∀ {cs s} (stack : Stack), I cs s → I cs { s with stack := stack }
  note : ∀ {cs s} (events : List LogEvent), I cs s → I cs (s.note events)
  report : ∀ {cs s} (n : Node) (name : Option String) (problem : Problem) (params : List String),
    I cs s → I cs (s.report setup n name problem params).2
  lines : ∀ {cs s}, I cs s → I cs s.lines.2
  change : ∀ {cs s} (c : Change), I cs s → I (cs ++ [c]) (s.change setup c)

/-- The property holds of the changes and of the scanner that a computation ends with. -/
def Keeps (I : List Change → Scanner η → Prop) (cs : List Change) :
    Except Halt (α × ScanState σ η) → Prop
  | .error _ => True
  | .ok (_, t) => I cs t.scanner

section Kept

variable {setup : Setup η} {I : List Change → Scanner η → Prop} {nested : Scan σ κ η}
  {below : Ledger σ η} {cs : List Change}

/-- What there is to know of the scans nested in a layer of the engine. -/
def Carries (I : List Change → Scanner η → Prop) (nested : Scan σ κ η) (below : Ledger σ η) :
    Prop :=
  ∀ n cs s, I cs s.scanner → Keeps I (cs ++ below n s) (nested n s)

/-- A computation without changes adds none to the list. -/
theorem Keeps.unchanged {x : Except Halt (α × ScanState σ η)} (h : Keeps I cs x) :
    Keeps I (cs ++ []) x := by
  rw [List.append_nil]
  exact h

variable (kept : Kept setup I)
include kept

theorem internalError_keeps (n : Node) (f : Fault) {s : Scanner η} (h : I cs s) :
    I cs (internalError setup n f s).2 := by
  have hreported := kept.report n none .internalError [f.text] (kept.note [failing n f] h)
  unfold internalError
  split
  · next payload after hr =>
      rw [hr] at hreported
      exact hreported
  · next after hr =>
      rw [hr] at hreported
      split
      · exact kept.note _ (kept.lines hreported)
      · exact hreported

/-! ### Requests and visits -/

theorem answer_keeps (hn : Carries I nested below) (r : Request σ κ) {s : ScanState σ η}
    (h : I cs s.scanner) :
    Keeps I (cs ++ changedByRequest below r s) (answer setup nested r s) := by
  -- Most requests change nothing, and then no change is listed.
  have hsame : I (cs ++ []) s.scanner := (List.append_nil cs).symm ▸ h
  cases r with
  | scan node =>
      cases node with
      | none => exact hsame
      | some n => exact hn n cs s h
  | scanRoot n =>
      have hscan := hn n cs s h
      rw [answer_scanRoot, changedByRequest]
      cases hx : nested n s with
      | error halt => exact trivial
      | ok result =>
          obtain ⟨reply, t⟩ := result
          rw [hx] at hscan
          cases reply with
          | panic payload => exact hscan
          | answer a =>
              cases a with
              | none => exact hscan
              | some r => exact kept.note [escaped r] hscan
  | report n name problem params =>
      rw [answer_report]
      exact kept.report n name problem params hsame
  | activate unit => exact kept.change (.activate unit) h
  | editFiles edit => exact kept.change (.editFiles edit) h
  | lines => exact kept.lines hsame
  | trace => exact kept.lines hsame
  | log event => exact kept.note [event] hsame
  | read => exact hsame
  | write state => exact hsame
  | stack => exact hsame
  | unit => exact hsame
  | imports => exact hsame
  | config => exact hsame

theorem runVisit_keeps (hn : Carries I nested below) (v : Visit σ κ α) {s : ScanState σ η}
    (h : I cs s.scanner) :
    Keeps I (cs ++ changedInVisit setup nested below v s) (runVisit setup nested v s) := by
  induction v generalizing cs s with
  | done result => exact Keeps.unchanged (x := .ok (Outcome.completed result, s)) h
  | interrupt cause => exact Keeps.unchanged (x := .ok (Outcome.interrupted cause, s)) h
  | panic payload => exact Keeps.unchanged (x := .ok (Outcome.panicked payload, s)) h
  | request r next ih =>
      have hanswer := answer_keeps kept hn r h
      rw [runVisit_request, changedInVisit, ← List.append_assoc]
      cases ha : answer setup nested r s with
      | error halt => exact trivial
      | ok result =>
          obtain ⟨reply, t⟩ := result
          rw [ha] at hanswer
          cases reply with
          | answer a => exact ih a hanswer
          | panic payload => exact hanswer.unchanged

/-! ### One scan -/

theorem guarded_keeps {v : Visit σ κ Unit} {s : ScanState σ η}
    (h : Keeps I cs (runVisit setup nested v s)) : Keeps I cs (guarded setup nested v s) := by
  unfold guarded
  split
  · exact trivial
  · next outcome t hv =>
      rw [hv] at h
      split
      · cases outcome with
        | completed result => exact h
        | interrupted cause => exact h
        | panicked payload => exact kept.restack _ h
      · exact h

theorem visit_keeps (hn : Carries I nested below) (pass : Pass σ κ) (n : Node)
    {s : ScanState σ η} (h : I cs s.scanner) :
    Keeps I (cs ++ (changedInVisit setup nested below (pass.visit n) s ++
        changedAfterVisit setup pass nested below n (guarded setup nested (pass.visit n) s)))
      (visit setup pass nested n s) := by
  have hvisit := guarded_keeps kept (runVisit_keeps kept hn (pass.visit n) h)
  rw [← List.append_assoc]
  unfold visit
  cases hg : guarded setup nested (pass.visit n) s with
  | error halt => exact trivial
  | ok result =>
      obtain ⟨outcome, t⟩ := result
      rw [hg] at hvisit
      cases outcome with
      | completed result => exact hvisit.unchanged
      | panicked payload => exact hvisit.unchanged
      | interrupted cause =>
          cases cause with
          | fault f => exact hvisit.unchanged
          | rollback r =>
              simp only [changedAfterVisit]
              split
              · exact guarded_keeps kept
                  (runVisit_keeps kept hn (pass.land r.callback n) (kept.note _ hvisit))
              · exact hvisit.unchanged

theorem settle_keeps (n : Node) (outcome : Outcome κ Unit) {s : ScanState σ η}
    (h : I cs s.scanner) : I cs (settle setup n s outcome).2.scanner := by
  cases outcome with
  | completed result => exact h
  | panicked payload => exact h
  | interrupted cause =>
      cases cause with
      | rollback r => exact h
      | fault f =>
          rw [settle_fault]
          exact internalError_keeps kept n f h

theorem leave_keeps (n : Node) (reply : Reply (Option (Rollback κ))) {s : ScanState σ η}
    (h : I cs s.scanner) : Keeps I cs (leave n s reply) := by
  cases reply with
  | panic payload => exact h
  | answer r =>
      simp only [leave, Scanner.leave?]
      cases s.scanner.stack with
      | nil => exact trivial
      | cons top rest =>
          cases hsame : top.same n with
          | false =>
              simp only [hsame]
              exact trivial
          | true =>
              simp only [hsame]
              exact kept.restack rest h

theorem scanWith_keeps (hn : Carries I nested below) (pass : Pass σ κ) :
    Carries I (scanWith setup pass nested) (changedInScan setup pass nested below) := by
  intro n cs s h
  have hvisit := visit_keeps kept hn pass n (s := s.on (s.scanner.enter n)) (kept.restack _ h)
  unfold scanWith
  split
  · exact trivial
  · next outcome t hv =>
      rw [hv] at hvisit
      exact leave_keeps kept n _ (settle_keeps kept n outcome hvisit)

/-! ### All scans -/

theorem scan_keeps (pass : Pass σ κ) (limit : Nat) :
    Carries I (scan setup pass limit) (changes setup pass limit) := by
  induction limit with
  | zero => exact fun _ _ _ _ => trivial
  | succ limit ih => exact scanWith_keeps kept ih pass

/-- A run keeps what its changes carry over. -/
theorem run_keeps (pass : Pass σ κ) (limit : Nat) (v : Visit σ κ α) {s : ScanState σ η}
    (h : I cs s.scanner) :
    Keeps I (cs ++ runChanges setup pass limit v s) (run setup pass limit v s) :=
  runVisit_keeps kept (scan_keeps kept pass limit) v h

end Kept

end Engine

end TreeScan

import TreeScan.Proofs.Scan.Balance
import TreeScan.Proofs.Scan.Frames

/-!
# Passes that keep a record

An observer looks on while nodes are scanned.  It notes something whenever a visit begins,
a pass is told of a landing or a callback is run.  What it notes can be read off the
engine's own steps (`observed`).

A pass can note the same for itself.  `Pass.recorded` is a pass with a log beside its
state, which writes to the log before it does what the pass does.  The engine scans a node
with it as it scans the node with the pass, and in the end the log has grown by what an
observer notes of the scan (`scan_recorded`).  So nothing is noted but what the engine has
the pass do, and nothing of it is missed.

The relation `Records` says this of the nested scans.  It is lifted through the engine
layer by layer, each by cases on how the layer below has ended.
-/

namespace TreeScan

variable {σ κ η α β ω : Type}

/-- What an observer notes. -/
structure Notes (κ ω : Type) where
  /-- When the visit of a node begins, on some stack. -/
  visit : Node → Stack → List ω
  /-- When a pass is told that a rollback has landed. -/
  landed : Node → List ω
  /-- When a callback is run. -/
  resume : κ → Node → List ω

/-! ## A log beside the state of a pass -/

/-- Makes a request.  The log is left alone. -/
def Request.beside : (r : Request σ κ) → Visit (σ × List ω) κ r.Answer
  | .read => Visit.read.bind fun s => .done s.1
  | .write state => Visit.change fun s => (state, s.2)
  | .scan node => .ask (.scan node)
  | .scanRoot node => .ask (.scanRoot node)
  | .stack => .ask .stack
  | .unit => .ask .unit
  | .imports => .ask .imports
  | .config => .ask .config
  | .lines => .ask .lines
  | .trace => .ask .trace
  | .report node name problem params => .ask (.report node name problem params)
  | .activate active => .ask (.activate active)
  | .log event => .ask (.log event)
  | .editFiles edit => .ask (.editFiles edit)

namespace Visit

/-- The same visit beside a log. -/
def beside : Visit σ κ α → Visit (σ × List ω) κ α
  | done result => done result
  | interrupt cause => interrupt cause
  | panic payload => panic payload
  | request r next => r.beside.bind fun a => (next a).beside

/-- Writes to the log. -/
def jot (ws : List ω) : Visit (σ × List ω) κ Unit := change fun s => (s.1, s.2 ++ ws)

end Visit

/-- A pass that writes notes to a log and else does what another pass does. -/
def Pass.recorded (notes : Notes κ ω) (pass : Pass σ κ) : Pass (σ × List ω) κ where
  visit n := Visit.stack.bind fun stack =>
    (Visit.jot (notes.visit n stack)).bind fun _ => (pass.visit n).beside
  landed n := (Visit.jot (notes.landed n)).bind fun _ => (pass.landed n).beside
  resume callback n :=
    (Visit.jot (notes.resume callback n)).bind fun _ => (pass.resume callback n).beside

/-- A state with a log beside the state of the pass. -/
def ScanState.beside (s : ScanState σ η) (log : List ω) : ScanState (σ × List ω) η :=
  ⟨(s.pass, log), s.scanner⟩

namespace Engine

/-! ## What is noted of a scan -/

/-- What is noted of the scan of a node. -/
abbrev Watch (σ η ω : Type) := Node → ScanState σ η → List ω

/-- What is noted while a request is answered. -/
def observedByRequest (below : Watch σ η ω) : Request σ κ → ScanState σ η → List ω
  | .scan (some n), s => below n s
  | .scanRoot n, s => below n s
  | _, _ => []

/-- What is noted of a visit under way. -/
def observedInVisit (setup : Setup η) (nested : Scan σ κ η) (below : Watch σ η ω) :
    Visit σ κ α → ScanState σ η → List ω
  | .request r next, s =>
    observedByRequest below r s ++
      match answer setup nested r s with
      | .ok (.answer a, t) => observedInVisit setup nested below (next a) t
      | _ => []
  | _, _ => []

/-- What is noted of a callback after a pass was told of the landing. -/
def observedByCallback (notes : Notes κ ω) (setup : Setup η) (pass : Pass σ κ)
    (nested : Scan σ κ η) (below : Watch σ η ω) (n : Node) (callback : Option κ) :
    Except Halt (Outcome κ Unit × ScanState σ η) → List ω
  | .ok (.completed (), t) =>
    match callback with
    | none => []
    | some callback =>
      notes.resume callback n ++ observedInVisit setup nested below (pass.resume callback n) t
  | _ => []

/-- What is noted of a landing. -/
def observedInLanding (notes : Notes κ ω) (setup : Setup η) (pass : Pass σ κ)
    (nested : Scan σ κ η) (below : Watch σ η ω) (n : Node) (callback : Option κ)
    (s : ScanState σ η) : List ω :=
  notes.landed n ++ observedInVisit setup nested below (pass.landed n) s ++
    observedByCallback notes setup pass nested below n callback
      (runVisit setup nested (pass.landed n) s)

/-- What is noted after the visit of a node has ended. -/
def observedAfterVisit (notes : Notes κ ω) (setup : Setup η) (pass : Pass σ κ)
    (nested : Scan σ κ η) (below : Watch σ η ω) (n : Node) :
    Except Halt (Outcome κ Unit × ScanState σ η) → List ω
  | .ok (.interrupted (.rollback r), t) =>
    if r.target.same n then
      observedInLanding notes setup pass nested below n r.callback
        (t.on (t.scanner.note [landing n t.scanner.stack.depth]))
    else []
  | _ => []

/-- What is noted of one scan, given what is noted of the scans below. -/
def observedInScan (notes : Notes κ ω) (setup : Setup η) (pass : Pass σ κ) (nested : Scan σ κ η)
    (below : Watch σ η ω) : Watch σ η ω := fun n s =>
  let entered := s.on (s.scanner.enter n)
  notes.visit n entered.scanner.stack ++
      observedInVisit setup nested below (pass.visit n) entered ++
    observedAfterVisit notes setup pass nested below n
      (guarded setup nested (pass.visit n) entered)

/-- What is noted of a scan, with scans nested up to a limit. -/
def observed (notes : Notes κ ω) (setup : Setup η) (pass : Pass σ κ) : Nat → Watch σ η ω
  | 0 => fun _ _ => []
  | limit + 1 =>
    observedInScan notes setup pass (scan setup pass limit) (observed notes setup pass limit)

/-- What is noted of a run, with scans nested up to a limit. -/
def runObserved (notes : Notes κ ω) (setup : Setup η) (pass : Pass σ κ) (limit : Nat)
    (v : Visit σ κ α) (s : ScanState σ η) : List ω :=
  observedInVisit setup (scan setup pass limit) (observed notes setup pass limit) v s

variable {setup : Setup η} {notes : Notes κ ω} {pass : Pass σ κ} {nested : Scan σ κ η}
  {nested' : Scan (σ × List ω) κ η} {below : Watch σ η ω}

theorem observedInVisit_bind {v : Visit σ κ α} {f : α → Visit σ κ β} {a : α}
    {s t : ScanState σ η} (h : runVisit setup nested v s = .ok (.completed a, t)) :
    observedInVisit setup nested below (v.bind f) s =
      observedInVisit setup nested below v s ++ observedInVisit setup nested below (f a) t := by
  induction v generalizing s with
  | done result =>
      cases h
      rfl
  | interrupt cause => cases h
  | panic payload => cases h
  | request r next ih =>
      rw [runVisit_request] at h
      simp only [Visit.bind, observedInVisit, List.append_assoc, List.append_cancel_left_eq]
      cases ha : answer setup nested r s with
      | error halt =>
          rw [ha] at h
          cases h
      | ok result =>
          obtain ⟨reply, t'⟩ := result
          rw [ha] at h
          cases reply with
          | answer b => exact ih b h
          | panic payload => cases h

/-- A visit that completes lets nothing land. -/
theorem observedAfterVisit_of_completed {v : Visit σ κ Unit} {s t : ScanState σ η} (n : Node)
    (h : runVisit setup nested v s = .ok (.completed (), t)) :
    observedAfterVisit notes setup pass nested below n (guarded setup nested v s) = [] := by
  unfold guarded
  rw [h]
  simp only [catchPanic, ite_self]
  rfl

/-! ## What is recorded of a visit -/

/-- How something ends beside a log. -/
def logged (log : List ω) (ended : Except Halt (α × ScanState σ η)) :
    Except Halt (α × ScanState (σ × List ω) η) :=
  ended.map fun result => (result.1, result.2.beside log)

/-- If nothing is noted, the log is as it was. -/
theorem logged_nothing {log : List ω} {ended : Except Halt (α × ScanState σ η)}
    {ended' : Except Halt (α × ScanState (σ × List ω) η)} (h : ended' = logged log ended) :
    ended' = logged (log ++ []) ended := by
  rw [List.append_nil]
  exact h

/-- With a log beside it a scan ends as without, and the log has grown by what is noted. -/
def Records (nested : Scan σ κ η) (nested' : Scan (σ × List ω) κ η) (below : Watch σ η ω) : Prop :=
  ∀ n s log, nested' n (s.beside log) = logged (log ++ below n s) (nested n s)

theorem runVisit_request_beside (hn : Records nested nested' below) (r : Request σ κ)
    (s : ScanState σ η) (log : List ω) :
    runVisit setup nested' r.beside (s.beside log) =
      logged (log ++ observedByRequest below r s) (runVisit setup nested (Visit.ask r) s) := by
  cases r with
  | scan node =>
      cases node with
      | none => exact logged_nothing rfl
      | some n =>
          show runVisit setup nested' (Visit.ask (.scan (some n))) _ = logged (log ++ below n s) _
          simp only [Visit.ask, runVisit_request, answer, hn n s log]
          rcases nested n s with halt | ⟨_ | _, t⟩ <;> rfl
  | scanRoot n =>
      show runVisit setup nested' (Visit.ask (.scanRoot n)) _ = logged (log ++ below n s) _
      simp only [Visit.ask, runVisit_request, answer, hn n s log]
      rcases nested n s with halt | ⟨⟨_ | _⟩ | _, t⟩ <;> rfl
  | report n name problem params =>
      show runVisit setup nested' (Visit.ask (.report n name problem params)) _ =
        logged (log ++ []) _
      simp only [Visit.ask, runVisit_request, answer_report, ScanState.beside, List.append_nil]
      cases (s.scanner.report setup n name problem params).1 <;> rfl
  | _ => exact logged_nothing rfl

theorem runVisit_beside (hn : Records nested nested' below) (v : Visit σ κ α)
    (s : ScanState σ η) (log : List ω) :
    runVisit setup nested' v.beside (s.beside log) =
      logged (log ++ observedInVisit setup nested below v s) (runVisit setup nested v s) := by
  induction v generalizing s log with
  | done result => exact logged_nothing rfl
  | interrupt cause => exact logged_nothing rfl
  | panic payload => exact logged_nothing rfl
  | request r next ih =>
      rw [Visit.beside, runVisit_bind, runVisit_request_beside hn, observedInVisit, Visit.ask,
        runVisit_request, runVisit_request]
      rw [← List.append_assoc]
      rcases answer setup nested r s with halt | ⟨a | payload, t⟩
      · rfl
      · exact ih a t _
      · exact logged_nothing rfl

/-! ## What is recorded of a scan -/

theorem guarded_beside {v : Visit σ κ Unit} {v' : Visit (σ × List ω) κ Unit}
    {s : ScanState σ η} {log log' : List ω}
    (h : runVisit setup nested' v' (s.beside log) = logged log' (runVisit setup nested v s)) :
    guarded setup nested' v' (s.beside log) = logged log' (guarded setup nested v s) := by
  unfold guarded
  rw [h]
  rcases runVisit setup nested v s with halt | ⟨outcome, t⟩
  · rfl
  · by_cases hc : setup.config.catchPanics = true
    · simp only [logged, Except.map, if_pos hc]
      cases outcome <;> rfl
    · simp only [logged, Except.map, if_neg hc]

theorem runVisit_land_beside (hn : Records nested nested' below) (callback : Option κ) (n : Node)
    (s : ScanState σ η) (log : List ω) :
    runVisit setup nested' ((pass.recorded notes).land callback n) (s.beside log) =
      logged (log ++ observedInLanding notes setup pass nested below n callback s)
        (runVisit setup nested (pass.land callback n) s) := by
  have htold : runVisit setup nested' ((pass.recorded notes).landed n) (s.beside log) =
      logged (log ++ notes.landed n ++ observedInVisit setup nested below (pass.landed n) s)
        (runVisit setup nested (pass.landed n) s) :=
    runVisit_beside hn (pass.landed n) s _
  unfold Pass.land
  rw [runVisit_bind, htold, runVisit_bind, observedInLanding, ← List.append_assoc,
    ← List.append_assoc]
  rcases runVisit setup nested (pass.landed n) s with halt | ⟨⟨⟩ | cause | payload, t⟩
  · rfl
  · cases callback with
    | none => exact logged_nothing rfl
    | some callback =>
        show _ = logged (_ ++ (_ ++ _)) _
        rw [← List.append_assoc]
        exact runVisit_beside hn (pass.resume callback n) t _
  · exact logged_nothing rfl
  · exact logged_nothing rfl

theorem land_beside (hn : Records nested nested' below) (callback : Option κ) (n : Node)
    (s : ScanState σ η) (log : List ω) :
    land setup (pass.recorded notes) nested' n callback (s.beside log) =
      logged (log ++ observedInLanding notes setup pass nested below n callback
          (s.on (s.scanner.note [landing n s.scanner.stack.depth])))
        (land setup pass nested n callback s) := by
  show guarded setup nested' _ ((s.on (s.scanner.note [_])).beside log) = _
  exact guarded_beside (runVisit_land_beside hn callback n _ log)

theorem visit_beside (hn : Records nested nested' below) (n : Node) (s : ScanState σ η)
    (log : List ω) :
    visit setup (pass.recorded notes) nested' n (s.beside log) =
      logged (log ++ notes.visit n s.scanner.stack ++
          observedInVisit setup nested below (pass.visit n) s ++
          observedAfterVisit notes setup pass nested below n
            (guarded setup nested (pass.visit n) s))
        (visit setup pass nested n s) := by
  have hvisit : guarded setup nested' ((pass.recorded notes).visit n) (s.beside log) =
      logged (log ++ notes.visit n s.scanner.stack ++
        observedInVisit setup nested below (pass.visit n) s)
      (guarded setup nested (pass.visit n) s) :=
    guarded_beside (runVisit_beside hn (pass.visit n) s _)
  unfold visit
  rw [hvisit]
  rcases guarded setup nested (pass.visit n) s with halt | ⟨⟨⟩ | ⟨r | f⟩ | payload, t⟩
  · rfl
  · exact logged_nothing rfl
  · show (if r.target.same n then _ else _) = logged _ (if r.target.same n then _ else _)
    rw [observedAfterVisit]
    by_cases hr : r.target.same n = true
    · rw [if_pos hr, if_pos hr, if_pos hr]
      exact land_beside hn r.callback n t _
    · rw [if_neg hr, if_neg hr, if_neg hr]
      exact logged_nothing rfl
  · exact logged_nothing rfl
  · exact logged_nothing rfl

theorem settle_beside (setup : Setup η) (n : Node) (s : ScanState σ η) (log : List ω)
    (outcome : Outcome κ Unit) :
    settle setup n (s.beside log) outcome =
      ((settle setup n s outcome).1, (settle setup n s outcome).2.beside log) := by
  rcases outcome with ⟨⟩ | ⟨r | f⟩ | payload
  · rfl
  · rfl
  · rw [settle_fault, settle_fault]
    rfl
  · rfl

theorem leave_beside (n : Node) (s : ScanState σ η) (log : List ω)
    (reply : Reply (Option (Rollback κ))) :
    leave n (s.beside log) reply = logged log (leave n s reply) := by
  cases reply with
  | panic payload => rfl
  | answer r =>
      have hscanner : (s.beside log).scanner = s.scanner := rfl
      rw [leave, leave, hscanner]
      cases s.scanner.leave? n <;> rfl

theorem scanWith_beside (hn : Records nested nested' below) :
    Records (scanWith setup pass nested) (scanWith setup (pass.recorded notes) nested')
      (observedInScan notes setup pass nested below) := by
  intro n s log
  have hon : (s.beside log).on ((s.beside log).scanner.enter n) =
      (s.on (s.scanner.enter n)).beside log := rfl
  rw [scanWith, hon, visit_beside hn, scanWith, observedInScan, ← List.append_assoc,
    ← List.append_assoc]
  rcases visit setup pass nested n (s.on (s.scanner.enter n)) with halt | ⟨outcome, t⟩
  · rfl
  · show leave n (settle setup n (t.beside _) outcome).2 (settle setup n (t.beside _) outcome).1 = _
    rw [settle_beside]
    exact leave_beside n _ _ _

/-- With a recorded pass a node is scanned as with the pass, and the log has grown by what is
noted of the scan. -/
theorem scan_recorded (notes : Notes κ ω) (setup : Setup η) (pass : Pass σ κ) (limit : Nat) :
    Records (scan setup pass limit) (scan setup (pass.recorded notes) limit)
      (observed notes setup pass limit) := by
  induction limit with
  | zero => exact fun _ _ _ => rfl
  | succ limit ih => exact scanWith_beside ih

/-- The same for a run. -/
theorem run_recorded (notes : Notes κ ω) (setup : Setup η) (pass : Pass σ κ) (limit : Nat)
    (v : Visit σ κ α) (s : ScanState σ η) (log : List ω) :
    run setup (pass.recorded notes) limit v.beside (s.beside log) =
      logged (log ++ runObserved notes setup pass limit v s) (run setup pass limit v s) :=
  runVisit_beside (scan_recorded notes setup pass limit) v s log

end Engine

end TreeScan

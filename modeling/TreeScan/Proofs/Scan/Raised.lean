import TreeScan.Proofs.Scan.Panics

/-!
# What is raised in a scan

The panics of a scan are raised by the work of a node, by a report that the handler of
diagnostics gives up on, or by the report of an internal error that it gives up on.  Like
the happenings of a scan they can be read off the engine's own steps: `raised` lists them,
whether or not they are caught.

Work that raises nothing does not end with a panic, and a scan in which nothing is raised is
not left by one (`scan_sounds`).  The converse holds where panics are not caught
(`scan_leaves`).  So a run with this setting ends with a panic, if and only if something
has been raised in it (`runRaised_eq_nil_iff`).  Otherwise a panic that is raised may be
caught and not be seen at the end of the run.
-/

namespace TreeScan.Engine

variable {σ κ η α β : Type}

/-! ## Panics at the end -/

/-- A visit has no result, or it has ended with something else than a panic. -/
def NoPanic : Except Halt (Outcome κ α × ScanState σ η) → Prop
  | .ok (.panicked _, _) => False
  | _ => True

/-- A scan has no result, or it has been left by something else than a panic. -/
def NoPanicReply : Except Halt (Reply α × ScanState σ η) → Prop
  | .ok (.panic _, _) => False
  | _ => True

theorem leave_noPanic (n : Node) (s : ScanState σ η) (r : Option (Rollback κ)) :
    NoPanicReply (leave n s (.answer r)) := by
  simp only [leave]
  split
  · trivial
  · trivial

/-! ## What is raised -/

/-- The panics that are raised in the scan of a node. -/
abbrev Toll (σ η : Type) := Node → ScanState σ η → List Payload

/-- The panics that are raised while a request is answered. -/
def raisedByRequest (setup : Setup η) (toll : Toll σ η) :
    Request σ κ → ScanState σ η → List Payload
  | .scan (some n), s => toll n s
  | .scanRoot n, s => toll n s
  | .report n name problem params, s =>
    (s.scanner.report setup n name problem params).1.toList
  | _, _ => []

/-- The panics that are raised in a visit. -/
def raisedInVisit (setup : Setup η) (nested : Scan σ κ η) (toll : Toll σ η) :
    Visit σ κ α → ScanState σ η → List Payload
  | .panic payload, _ => [payload]
  | .request r next, s =>
    raisedByRequest setup toll r s ++
      match answer setup nested r s with
      | .ok (.answer a, t) => raisedInVisit setup nested toll (next a) t
      | _ => []
  | _, _ => []

/-- The panics that are raised after the visit of a node has ended. -/
def raisedAfterVisit (setup : Setup η) (pass : Pass σ κ) (nested : Scan σ κ η)
    (toll : Toll σ η) (n : Node) : Except Halt (Outcome κ Unit × ScanState σ η) → List Payload
  | .ok (.interrupted (.rollback r), t) =>
    if r.target.same n then
      raisedInVisit setup nested toll (pass.land r.callback n)
        (t.on (t.scanner.note [landing n t.scanner.stack.depth]))
    else []
  | _ => []

/-- The panics that are raised when a visit or a landing is settled. -/
def raisedInSettling (setup : Setup η) (n : Node) :
    Except Halt (Outcome κ Unit × ScanState σ η) → List Payload
  | .ok (.interrupted (.fault f), t) => (internalError setup n f t.scanner).1.toList
  | _ => []

/-- The panics that are raised in one scan, given those in the scans below. -/
def raisedInScan (setup : Setup η) (pass : Pass σ κ) (nested : Scan σ κ η) (toll : Toll σ η) :
    Toll σ η := fun n s =>
  let entered := s.on (s.scanner.enter n)
  raisedInVisit setup nested toll (pass.visit n) entered ++
    raisedAfterVisit setup pass nested toll n (guarded setup nested (pass.visit n) entered) ++
    raisedInSettling setup n (visit setup pass nested n entered)

/-- The panics that are raised in a scan, with scans nested up to a limit. -/
def raised (setup : Setup η) (pass : Pass σ κ) : Nat → Toll σ η
  | 0 => fun _ _ => []
  | limit + 1 => raisedInScan setup pass (scan setup pass limit) (raised setup pass limit)

/-- The panics that are raised in a run, with scans nested up to a limit. -/
def runRaised (setup : Setup η) (pass : Pass σ κ) (limit : Nat) (v : Visit σ κ α)
    (s : ScanState σ η) : List Payload :=
  raisedInVisit setup (scan setup pass limit) (raised setup pass limit) v s

variable {setup : Setup η} {pass : Pass σ κ} {nested : Scan σ κ η} {toll : Toll σ η}
  {s : ScanState σ η}

theorem raisedInVisit_bind (v : Visit σ κ α) (f : α → Visit σ κ β) (s : ScanState σ η) :
    raisedInVisit setup nested toll (v.bind f) s =
      raisedInVisit setup nested toll v s ++
        match runVisit setup nested v s with
        | .ok (.completed a, t) => raisedInVisit setup nested toll (f a) t
        | _ => [] := by
  induction v generalizing s with
  | done result => rfl
  | interrupt cause => rfl
  | panic payload => rfl
  | request r next ih =>
      simp only [Visit.bind, raisedInVisit, runVisit_request, List.append_assoc]
      cases answer setup nested r s with
      | error halt => rfl
      | ok result =>
          obtain ⟨reply, t⟩ := result
          cases reply with
          | answer a => exact congrArg _ (ih a t)
          | panic payload => rfl

/-- Where a rollback lands, what the landing raises is raised after the visit. -/
theorem raisedAfterVisit_of_landing {n : Node} {r : Rollback κ} {t : ScanState σ η}
    (hr : r.target.same n = true) :
    raisedAfterVisit setup pass nested toll n (.ok (.interrupted (.rollback r), t)) =
      raisedInVisit setup nested toll (pass.land r.callback n)
        (t.on (t.scanner.note [landing n t.scanner.stack.depth])) :=
  if_pos hr

/-- If nothing lands, nothing is raised after the visit. -/
theorem raisedAfterVisit_of_no_landing {n : Node}
    {ended : Except Halt (Outcome κ Unit × ScanState σ η)}
    (h : ∀ r t, ended = .ok (.interrupted (.rollback r), t) → r.target.same n = false) :
    raisedAfterVisit setup pass nested toll n ended = [] := by
  unfold raisedAfterVisit
  split
  · next r t =>
      rw [h r t rfl]
      rfl
  · rfl

/-- Where work does not panic there is nothing to guard. -/
theorem guarded_eq_runVisit {v : Visit σ κ Unit} (h : NoPanic (runVisit setup nested v s)) :
    guarded setup nested v s = runVisit setup nested v s := by
  unfold guarded
  cases hv : runVisit setup nested v s with
  | error halt => rfl
  | ok ended =>
      obtain ⟨outcome, t⟩ := ended
      rw [hv] at h
      cases outcome with
      | completed result => simp only [catchPanic, ite_self]
      | interrupted cause => simp only [catchPanic, ite_self]
      | panicked payload => exact h.elim

/-! ## Panics that leave -/

/-- A scan in which nothing is raised is not left by a panic. -/
def Sounds (nested : Scan σ κ η) (toll : Toll σ η) : Prop :=
  ∀ n s, toll n s = [] → NoPanicReply (nested n s)

theorem answer_noPanic (sounds : Sounds nested toll) {r : Request σ κ}
    (h : raisedByRequest setup toll r s = []) : NoPanicReply (answer setup nested r s) := by
  cases ha : answer setup nested r s with
  | error halt => trivial
  | ok result =>
      obtain ⟨reply, t⟩ := result
      cases reply with
      | answer a => trivial
      | panic payload =>
          rcases report_or_asks ha with ⟨n, name, problem, params, rfl⟩ | ⟨n, hr, hn⟩
          · have hnone : (s.scanner.report setup n name problem params).1 = none := by
              simpa [raisedByRequest] using h
            rw [answer_report, hnone] at ha
            cases ha
          · have hscan : toll n s = [] := by
              cases r with
              | scan node =>
                  cases hr
                  exact h
              | scanRoot m =>
                  cases hr
                  exact h
              | _ => cases hr
            have hno := sounds n s hscan
            rw [hn] at hno
            exact hno

theorem runVisit_noPanic (sounds : Sounds nested toll) {v : Visit σ κ α}
    (h : raisedInVisit setup nested toll v s = []) : NoPanic (runVisit setup nested v s) := by
  induction v generalizing s with
  | done result => trivial
  | interrupt cause => trivial
  | panic payload => cases h
  | request r next ih =>
      rw [raisedInVisit, List.append_eq_nil_iff] at h
      have hanswer := answer_noPanic sounds h.1
      rw [runVisit_request]
      cases ha : answer setup nested r s with
      | error halt => trivial
      | ok result =>
          obtain ⟨reply, t⟩ := result
          rw [ha] at h hanswer
          cases reply with
          | answer a => exact ih a h.2
          | panic payload => exact hanswer

/-- The visit of a node, with the landing that may follow, does not panic if neither raises
anything. -/
theorem visit_noPanic (sounds : Sounds nested toll) {n : Node}
    (hvisit : raisedInVisit setup nested toll (pass.visit n) s = [])
    (hafter : raisedAfterVisit setup pass nested toll n
      (guarded setup nested (pass.visit n) s) = []) :
    NoPanic (visit setup pass nested n s) := by
  have hwork := runVisit_noPanic sounds hvisit
  rcases lands_or_not n (guarded setup nested (pass.visit n) s) with ⟨r, t, hg, hr⟩ | hno
  · rw [hg, raisedAfterVisit_of_landing hr] at hafter
    have hland := runVisit_noPanic sounds hafter
    rw [visit_of_landing hg hr, land, guarded_eq_runVisit hland]
    exact hland
  · rw [visit_of_no_landing hno, guarded_eq_runVisit hwork]
    exact hwork

theorem scanWith_sounds (setup : Setup η) (pass : Pass σ κ) (sounds : Sounds nested toll) :
    Sounds (scanWith setup pass nested) (raisedInScan setup pass nested toll) := by
  intro n s h
  simp only [raisedInScan, List.append_eq_nil_iff] at h
  obtain ⟨⟨hvisit, hafter⟩, hsettling⟩ := h
  have hno := visit_noPanic sounds hvisit hafter
  unfold scanWith
  cases hv : visit setup pass nested n (s.on (s.scanner.enter n)) with
  | error halt => trivial
  | ok ended =>
      obtain ⟨outcome, t⟩ := ended
      rw [hv] at hno hsettling
      cases outcome with
      | completed result => exact leave_noPanic n t none
      | panicked payload => exact hno
      | interrupted cause =>
          cases cause with
          | rollback r => exact leave_noPanic n t (some r)
          | fault f =>
              have hnone : (internalError setup n f t.scanner).1 = none := by
                simpa [raisedInSettling] using hsettling
              simp only [settle_fault, hnone]
              exact leave_noPanic n _ none

/-- A scan in which nothing is raised is not left by a panic. -/
theorem scan_sounds (setup : Setup η) (pass : Pass σ κ) (limit : Nat) :
    Sounds (scan setup pass limit) (raised setup pass limit) := by
  induction limit with
  | zero => exact fun _ _ _ => trivial
  | succ limit ih => exact scanWith_sounds setup pass ih

/-! ## Panics that are not caught -/

/-- In a scan that is not left by a panic nothing is raised. -/
def Leaves (nested : Scan σ κ η) (toll : Toll σ η) : Prop :=
  ∀ n s, NoPanicReply (nested n s) → toll n s = []

theorem raisedByRequest_eq_nil (leaves : Leaves nested toll) {r : Request σ κ}
    (h : NoPanicReply (answer setup nested r s)) : raisedByRequest setup toll r s = [] := by
  cases r with
  | scan node =>
      cases node with
      | none => rfl
      | some n => exact leaves n s h
  | scanRoot n =>
      refine leaves n s ?_
      rw [answer_scanRoot] at h
      cases hn : nested n s with
      | error halt => trivial
      | ok result =>
          obtain ⟨reply, t⟩ := result
          rw [hn] at h
          cases reply with
          | answer r => trivial
          | panic payload => exact h
  | report n name problem params =>
      rw [answer_report] at h
      rw [raisedByRequest]
      cases hp : (s.scanner.report setup n name problem params).1 with
      | none => rfl
      | some payload =>
          rw [hp] at h
          exact h.elim
  | _ => rfl

theorem raisedInVisit_eq_nil (leaves : Leaves nested toll) {v : Visit σ κ α}
    (h : NoPanic (runVisit setup nested v s)) : raisedInVisit setup nested toll v s = [] := by
  induction v generalizing s with
  | done result => rfl
  | interrupt cause => rfl
  | panic payload => exact h.elim
  | request r next ih =>
      rw [runVisit_request] at h
      have hanswer : NoPanicReply (answer setup nested r s) := by
        cases ha : answer setup nested r s with
        | error halt => trivial
        | ok result =>
            obtain ⟨reply, t⟩ := result
            rw [ha] at h
            cases reply with
            | answer a => trivial
            | panic payload => exact h
      rw [raisedInVisit, List.append_eq_nil_iff]
      refine ⟨raisedByRequest_eq_nil leaves hanswer, ?_⟩
      cases ha : answer setup nested r s with
      | error halt => rfl
      | ok result =>
          obtain ⟨reply, t⟩ := result
          rw [ha] at h
          cases reply with
          | answer a => exact ih a h
          | panic payload => rfl

/-- Where panics are not caught, the guard of a visit does nothing. -/
theorem guarded_of_off (hoff : setup.config.catchPanics = false) (v : Visit σ κ Unit) :
    guarded setup nested v s = runVisit setup nested v s := by
  unfold guarded
  rw [hoff]
  cases runVisit setup nested v s with
  | error halt => rfl
  | ok ended => rfl

/-- A visit that does not panic, with the landing that may follow, raises nothing. -/
theorem raised_of_visit_noPanic (hoff : setup.config.catchPanics = false)
    (leaves : Leaves nested toll) {n : Node} (h : NoPanic (visit setup pass nested n s)) :
    raisedInVisit setup nested toll (pass.visit n) s = [] ∧
      raisedAfterVisit setup pass nested toll n (guarded setup nested (pass.visit n) s) = [] := by
  rcases lands_or_not n (guarded setup nested (pass.visit n) s) with ⟨r, t, hg, hr⟩ | hno
  · rw [visit_of_landing hg hr, land, guarded_of_off hoff] at h
    rw [hg, raisedAfterVisit_of_landing hr]
    rw [guarded_of_off hoff] at hg
    refine ⟨raisedInVisit_eq_nil leaves ?_, raisedInVisit_eq_nil leaves h⟩
    rw [hg]
    trivial
  · rw [visit_of_no_landing hno, guarded_of_off hoff] at h
    exact ⟨raisedInVisit_eq_nil leaves h, raisedAfterVisit_of_no_landing hno⟩

theorem scanWith_leaves (hoff : setup.config.catchPanics = false) (pass : Pass σ κ)
    (leaves : Leaves nested toll) :
    Leaves (scanWith setup pass nested) (raisedInScan setup pass nested toll) := by
  intro n s h
  unfold scanWith at h
  have hvisit : NoPanic (visit setup pass nested n (s.on (s.scanner.enter n))) := by
    cases hv : visit setup pass nested n (s.on (s.scanner.enter n)) with
    | error halt => trivial
    | ok ended =>
        obtain ⟨outcome, t⟩ := ended
        rw [hv] at h
        cases outcome with
        | completed result => trivial
        | interrupted cause => trivial
        | panicked payload => exact h
  have hsettling : raisedInSettling setup n
      (visit setup pass nested n (s.on (s.scanner.enter n))) = [] := by
    cases hv : visit setup pass nested n (s.on (s.scanner.enter n)) with
    | error halt => rfl
    | ok ended =>
        obtain ⟨outcome, t⟩ := ended
        rw [hv] at h
        cases outcome with
        | completed result => rfl
        | panicked payload => rfl
        | interrupted cause =>
            cases cause with
            | rollback r => rfl
            | fault f =>
                rw [raisedInSettling]
                cases hi : (internalError setup n f t.scanner).1 with
                | none => rfl
                | some payload =>
                    simp only [settle_fault, hi] at h
                    exact h.elim
  obtain ⟨hraised, hafter⟩ := raised_of_visit_noPanic hoff leaves hvisit
  simp only [raisedInScan, List.append_eq_nil_iff]
  exact ⟨⟨hraised, hafter⟩, hsettling⟩

/-- Where panics are not caught, nothing is raised in a scan that is not left by one. -/
theorem scan_leaves (hoff : setup.config.catchPanics = false) (pass : Pass σ κ) (limit : Nat) :
    Leaves (scan setup pass limit) (raised setup pass limit) := by
  induction limit with
  | zero => exact fun _ _ _ => rfl
  | succ limit ih => exact scanWith_leaves hoff pass ih

/-- Where panics are not caught, a run ends with a panic if and only if one is raised. -/
theorem runRaised_eq_nil_iff (hoff : setup.config.catchPanics = false) {limit : Nat}
    {v : Visit σ κ α} :
    runRaised setup pass limit v s = [] ↔ NoPanic (run setup pass limit v s) :=
  ⟨runVisit_noPanic (scan_sounds setup pass limit),
    raisedInVisit_eq_nil (scan_leaves hoff pass limit)⟩

end TreeScan.Engine

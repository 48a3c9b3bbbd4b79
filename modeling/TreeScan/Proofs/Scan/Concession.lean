import TreeScan.Proofs.Scan.Frames
import TreeScan.Proofs.Scan.Happenings

/-!
# Panics that are conceded

With panics caught, a visit that panics might as well *concede*: end at this point with the
fault that the panic becomes.  Nothing else in the run is different.

*Points of a run.*  `scanConceding` is a scan in which visits and landings concede at chosen
points, and panic at all others.  A point is known by the payload and the state that the
panic would leave.  It is a point where the work of a node panics, or where the handler of
diagnostics gives up on a report of that work.  A panic that leaves a nested scan is none.
The scans are the same whatever is chosen (`scanConceding_eq`), and the same happens in them
(`happeningsConceding_eq`).

*Other passes.*  Where the work itself panics, a pass may have been written so that it ends
with a fault (`Pass.Conceded`).  Scans of this pass are the same (`scan_conceded`), and the
same happens in them (`happenings_conceded`).

Both hold because a guard makes the same of the two endings (`caught_eq`).  It drops what a
panic left on the stack above the depth at which the work began.  At these points that is
nothing, for the requests so far have left the stack alone.
-/

namespace TreeScan

/-! ## Passes that concede -/

/-- The second visit is the first, but where the first panics it may end with the fault that
the panic becomes. -/
inductive Visit.Conceded {σ κ α : Type} : Visit σ κ α → Visit σ κ α → Prop where
  | same (v : Visit σ κ α) : Conceded v v
  | panic (payload : Payload) : Conceded (.panic payload) (.fault (.ofPanic payload))
  | request {r : Request σ κ} {next next' : r.Answer → Visit σ κ α} :
      (∀ a, Conceded (next a) (next' a)) → Conceded (.request r next) (.request r next')

/-- The second pass is the first, but where the first panics it may end with the fault that
the panic becomes. -/
structure Pass.Conceded {σ κ : Type} (pass pass' : Pass σ κ) : Prop where
  visit : ∀ n, (pass.visit n).Conceded (pass'.visit n)
  landed : ∀ n, (pass.landed n).Conceded (pass'.landed n)
  resume : ∀ callback n, (pass.resume callback n).Conceded (pass'.resume callback n)

namespace Visit.Conceded

variable {σ κ α β : Type}

theorem bind {v v' : Visit σ κ α} {f f' : α → Visit σ κ β} (hv : v.Conceded v')
    (hf : ∀ a, (f a).Conceded (f' a)) : (v.bind f).Conceded (v'.bind f') := by
  induction hv with
  | panic payload => exact .panic payload
  | request _ ih => exact .request ih
  | same v =>
      induction v with
      | done result => exact hf result
      | interrupt cause => exact .same (.interrupt cause)
      | panic payload => exact .same (.panic payload)
      | request r next ih => exact .request ih

theorem land {pass pass' : Pass σ κ} (h : pass.Conceded pass') (callback : Option κ) (n : Node) :
    (pass.land callback n).Conceded (pass'.land callback n) := by
  refine (h.landed n).bind fun _ => ?_
  cases callback with
  | none => exact .same _
  | some callback => exact h.resume callback n

end Visit.Conceded

namespace Engine

variable {σ κ η α : Type}

/-! ## One scan, whatever is done at a node -/

/-- What is done at a node, while it is visited and when a rollback has landed there. -/
abbrev Work (σ κ η : Type) := Phase κ → Node → Turn σ η (Outcome κ Unit)

/-- What a pass does in a phase. -/
def Phase.visit (pass : Pass σ κ) (n : Node) : Phase κ → Visit σ κ Unit
  | .visiting => pass.visit n
  | .landing callback => pass.land callback n

/-- The visit of a node on the stack, with the landing that may follow. -/
def visitBy (work : Work σ κ η) (n : Node) : Turn σ η (Outcome κ Unit) := fun s =>
  match work .visiting n s with
  | .error halt => .error halt
  | .ok (.interrupted (.rollback r), s) =>
    if r.target.same n then
      work (.landing r.callback) n (s.on (s.scanner.note [landing n s.scanner.stack.depth]))
    else .ok (.interrupted (.rollback r), s)
  | .ok (outcome, s) => .ok (outcome, s)

/-- One scan of a node. -/
def scanBy (setup : Setup η) (work : Work σ κ η) : Scan σ κ η := fun n s =>
  match visitBy work n (s.on (s.scanner.enter n)) with
  | .error halt => .error halt
  | .ok (outcome, s) =>
    let (reply, s) := settle setup n s outcome
    leave n s reply

/-- What happens in one scan. -/
def happeningsBy (setup : Setup η) (pass : Pass σ κ) (nested : Scan σ κ η)
    (below : Account σ κ η) (work : Work σ κ η) : Account σ κ η := fun n s =>
  let entered := s.on (s.scanner.enter n)
  .visit n :: duringVisit setup nested below (pass.visit n) entered ++
    afterVisit setup pass nested below n (work .visiting n entered) ++
    duringSettling setup n (visitBy work n entered)

/-- The work of a pass, with panics caught if the settings say so. -/
def guardedWork (setup : Setup η) (pass : Pass σ κ) (nested : Scan σ κ η) : Work σ κ η :=
  fun phase n => guarded setup nested (phase.visit pass n)

theorem scanWith_eq_scanBy (setup : Setup η) (pass : Pass σ κ) (nested : Scan σ κ η) :
    scanWith setup pass nested = scanBy setup (guardedWork setup pass nested) := rfl

theorem duringScan_eq_happeningsBy (setup : Setup η) (pass : Pass σ κ) (nested : Scan σ κ η)
    (below : Account σ κ η) :
    duringScan setup pass nested below =
      happeningsBy setup pass nested below (guardedWork setup pass nested) := rfl

/-! ## Guards -/

/-- What a guard makes of an ending.  The work began on a stack of some depth. -/
def caught (setup : Setup η) (depth : Nat) :
    Except Halt (Outcome κ Unit × ScanState σ η) → Except Halt (Outcome κ Unit × ScanState σ η)
  | .error halt => .error halt
  | .ok (outcome, after) =>
    if setup.config.catchPanics then .ok (catchPanic depth after outcome)
    else .ok (outcome, after)

theorem guarded_eq_caught (setup : Setup η) (nested : Scan σ κ η) (v : Visit σ κ Unit)
    (s : ScanState σ η) :
    guarded setup nested v s = caught setup s.scanner.stack.depth (runVisit setup nested v s) := by
  unfold guarded
  cases runVisit setup nested v s with
  | error halt => rfl
  | ok ended => rfl

/-- Two endings of work that began on some stack: the same one, or a panic that left
nothing on the stack and the fault that it becomes. -/
inductive Concedes (stack : Stack) :
    Except Halt (Outcome κ α × ScanState σ η) → Except Halt (Outcome κ α × ScanState σ η) →
      Prop where
  | same (ended : Except Halt (Outcome κ α × ScanState σ η)) : Concedes stack ended ended
  | panic {payload : Payload} {t : ScanState σ η} : t.scanner.stack = stack →
      Concedes stack (.ok (.panicked payload, t))
        (.ok (.interrupted (.fault (.ofPanic payload)), t))

/-- A guard makes no difference between a panic and the fault that it becomes. -/
theorem caught_eq {setup : Setup η} (hcatch : setup.config.catchPanics = true) {stack : Stack}
    {ended ended' : Except Halt (Outcome κ Unit × ScanState σ η)}
    (h : Concedes stack ended ended') :
    caught setup stack.depth ended' = caught setup stack.depth ended := by
  cases h with
  | same => rfl
  | @panic payload t ht =>
      have hcut : t.on (t.scanner.cutTo stack.depth) = t := by
        subst ht
        exact ScanState.restack_self (Stack.cutTo_append [] t.scanner.stack).symm
      simp only [caught, hcatch, if_true, catchPanic, hcut]

/-! ## Points of a run -/

/-- Some points at which work panics, by the payload and the state that is left.  A panic
that is caught is noted in the log after that, so the points of a run are all different. -/
abbrev Points (σ η : Type) := Payload → ScanState σ η → Bool

variable {setup : Setup η} {pass pass' : Pass σ κ} {nested : Scan σ κ η} {below : Account σ κ η}

/-- How work ends at a point where it panics: with a fault, if the point is a chosen one. -/
def concede (chosen : Points σ η) (payload : Payload) (s : ScanState σ η) : Outcome κ α :=
  if chosen payload s then .interrupted (.fault (.ofPanic payload)) else .panicked payload

/-- How work ends when a request is answered with a panic.  Only reports can be conceded. -/
def concedeRequest (chosen : Points σ η) : Request σ κ → Payload → ScanState σ η → Outcome κ α
  | .report .., payload, s => concede chosen payload s
  | _, payload, _ => .panicked payload

/-- Runs a visit that concedes at chosen points. -/
def runConceding (setup : Setup η) (chosen : Points σ η) (nested : Scan σ κ η) :
    Visit σ κ α → Turn σ η (Outcome κ α)
  | .done result, s => .ok (.completed result, s)
  | .interrupt cause, s => .ok (.interrupted cause, s)
  | .panic payload, s => .ok (concede chosen payload s, s)
  | .request r next, s =>
    match answer setup nested r s with
    | .error halt => .error halt
    | .ok (.answer a, s) => runConceding setup chosen nested (next a) s
    | .ok (.panic payload, s) => .ok (concedeRequest chosen r payload s, s)

/-- The work of a pass that concedes at chosen points. -/
def concedingWork (setup : Setup η) (chosen : Points σ η) (pass : Pass σ κ)
    (nested : Scan σ κ η) : Work σ κ η := fun phase n s =>
  caught setup s.scanner.stack.depth (runConceding setup chosen nested (phase.visit pass n) s)

/-- Scans a node with visits and landings that concede at chosen points. -/
def scanConceding (setup : Setup η) (chosen : Points σ η) (pass : Pass σ κ) : Nat → Scan σ κ η
  | 0 => fun _ _ => .error .tooDeep
  | limit + 1 =>
    scanBy setup (concedingWork setup chosen pass (scanConceding setup chosen pass limit))

/-- What happens in a scan with visits and landings that concede at chosen points. -/
def happeningsConceding (setup : Setup η) (chosen : Points σ η) (pass : Pass σ κ) :
    Nat → Account σ κ η
  | 0 => fun _ _ => []
  | limit + 1 =>
    happeningsBy setup pass (scanConceding setup chosen pass limit)
      (happeningsConceding setup chosen pass limit)
      (concedingWork setup chosen pass (scanConceding setup chosen pass limit))

/-- A run with visits and landings that concede at chosen points. -/
def concedingRun (setup : Setup η) (chosen : Points σ η) (pass : Pass σ κ) (limit : Nat)
    (v : Visit σ κ α) : Turn σ η (Outcome κ α) :=
  runVisit setup (scanConceding setup chosen pass limit) v

/-- What happens in a run with visits and landings that concede at chosen points. -/
def concedingRunHappenings (setup : Setup η) (chosen : Points σ η) (pass : Pass σ κ)
    (limit : Nat) (v : Visit σ κ α) (s : ScanState σ η) : List (Happening κ) :=
  duringVisit setup (scanConceding setup chosen pass limit)
    (happeningsConceding setup chosen pass limit) v s

theorem concede_concedes (chosen : Points σ η) (payload : Payload) {stack : Stack}
    {s : ScanState σ η} (hs : s.scanner.stack = stack) :
    Concedes (κ := κ) (α := α) stack (.ok (.panicked payload, s))
      (.ok (concede chosen payload s, s)) := by
  unfold concede
  split
  · exact .panic hs
  · exact .same _

/-- The requests of a visit leave the stack alone, so what it concedes leaves nothing on
it. -/
theorem runConceding_concedes (balanced : Balanced nested) (chosen : Points σ η)
    (v : Visit σ κ α) (s : ScanState σ η) :
    Concedes s.scanner.stack (runVisit setup nested v s)
      (runConceding setup chosen nested v s) := by
  induction v generalizing s with
  | done result => exact .same _
  | interrupt cause => exact .same _
  | panic payload => exact concede_concedes chosen payload rfl
  | request r next ih =>
      rw [runVisit_request, runConceding]
      have hr := answer_restores setup balanced r s
      cases ha : answer setup nested r s with
      | error halt => exact .same _
      | ok result =>
          obtain ⟨reply, t⟩ := result
          rw [ha] at hr
          cases reply with
          | answer a =>
              have hstack : t.scanner.stack = s.scanner.stack := hr
              rw [← hstack]
              exact ih a t
          | panic payload =>
              cases r with
              | report n name problem params =>
                  rw [answer_report] at ha
                  obtain ⟨-, rfl⟩ := Prod.mk.inj (Except.ok.inj ha)
                  exact concede_concedes chosen payload (s.scanner.report_stack setup ..)
              | _ => exact .same _

theorem concedingWork_eq (hcatch : setup.config.catchPanics = true) (balanced : Balanced nested)
    (chosen : Points σ η) (pass : Pass σ κ) :
    concedingWork setup chosen pass nested = guardedWork setup pass nested := by
  funext phase n s
  rw [guardedWork, guarded_eq_caught]
  exact caught_eq hcatch (runConceding_concedes balanced chosen (phase.visit pass n) s)

/-- With panics caught, scans are the same wherever visits and landings concede. -/
theorem scanConceding_eq (hcatch : setup.config.catchPanics = true) (chosen : Points σ η)
    (pass : Pass σ κ) (limit : Nat) :
    scanConceding setup chosen pass limit = scan setup pass limit := by
  induction limit with
  | zero => rfl
  | succ limit ih =>
      rw [scanConceding, ih, concedingWork_eq hcatch (scan_restores setup pass limit)]
      rfl

/-- With panics caught, the same happens wherever visits and landings concede. -/
theorem happeningsConceding_eq (hcatch : setup.config.catchPanics = true) (chosen : Points σ η)
    (pass : Pass σ κ) (limit : Nat) :
    happeningsConceding setup chosen pass limit = happenings setup pass limit := by
  induction limit with
  | zero => rfl
  | succ limit ih =>
      rw [happeningsConceding, ih, scanConceding_eq hcatch,
        concedingWork_eq hcatch (scan_restores setup pass limit)]
      rfl

/-! ## Other passes -/

theorem runVisit_concedes (balanced : Balanced nested) {v v' : Visit σ κ α} (h : v.Conceded v')
    (s : ScanState σ η) :
    Concedes s.scanner.stack (runVisit setup nested v s) (runVisit setup nested v' s) := by
  induction h generalizing s with
  | same v => exact .same _
  | panic payload => exact .panic rfl
  | @request r next next' _ ih =>
      rw [runVisit_request, runVisit_request]
      have hr := answer_restores setup balanced r s
      cases ha : answer setup nested r s with
      | error halt => exact .same _
      | ok result =>
          obtain ⟨reply, t⟩ := result
          rw [ha] at hr
          cases reply with
          | panic payload => exact .same _
          | answer a =>
              have hstack : t.scanner.stack = s.scanner.stack := hr
              rw [← hstack]
              exact ih a t

theorem guardedWork_conceded (hcatch : setup.config.catchPanics = true)
    (balanced : Balanced nested) (h : pass.Conceded pass') :
    guardedWork setup pass' nested = guardedWork setup pass nested := by
  funext phase n s
  have hphase : (phase.visit pass n).Conceded (phase.visit pass' n) := by
    cases phase with
    | visiting => exact h.visit n
    | landing callback => exact .land h callback n
  rw [guardedWork, guardedWork, guarded_eq_caught, guarded_eq_caught]
  exact caught_eq hcatch (runVisit_concedes balanced hphase s)

theorem duringVisit_conceded {v v' : Visit σ κ α} (h : v.Conceded v') (s : ScanState σ η) :
    duringVisit setup nested below v' s = duringVisit setup nested below v s := by
  induction h generalizing s with
  | same v => rfl
  | panic payload => rfl
  | @request r next next' _ ih =>
      rw [duringVisit, duringVisit]
      cases answer setup nested r s with
      | error halt => rfl
      | ok result =>
          obtain ⟨reply, t⟩ := result
          cases reply with
          | panic payload => rfl
          | answer a => exact congrArg _ (ih a t)

theorem duringLanding_conceded (balanced : Balanced nested) (h : pass.Conceded pass') (n : Node)
    (callback : Option κ) (s : ScanState σ η) :
    duringLanding setup pass' nested below n callback s =
      duringLanding setup pass nested below n callback s := by
  unfold duringLanding
  rw [duringVisit_conceded (h.landed n)]
  refine congrArg _ ?_
  cases callback with
  | none => rfl
  | some callback =>
      have hlanded : Concedes s.scanner.stack (runVisit setup nested (pass.landed n) s)
          (runVisit setup nested (pass'.landed n) s) := runVisit_concedes balanced (h.landed n) s
      generalize runVisit setup nested (pass.landed n) s = ended at hlanded ⊢
      generalize runVisit setup nested (pass'.landed n) s = ended' at hlanded ⊢
      cases hlanded with
      | panic _ => rfl
      | same =>
          cases ended with
          | error halt => rfl
          | ok result =>
              obtain ⟨outcome, t⟩ := result
              cases outcome with
              | completed result =>
                  exact congrArg (.callback callback n :: ·)
                    (duringVisit_conceded (h.resume callback n) t)
              | interrupted cause => rfl
              | panicked payload => rfl

theorem afterVisit_conceded (balanced : Balanced nested) (h : pass.Conceded pass') (n : Node)
    (ended : Except Halt (Outcome κ Unit × ScanState σ η)) :
    afterVisit setup pass' nested below n ended = afterVisit setup pass nested below n ended := by
  unfold afterVisit
  split
  · split
    · exact duringLanding_conceded balanced h n _ _
    · rfl
  · rfl

/-- With panics caught, scans are the same if the pass concedes. -/
theorem scan_conceded (hcatch : setup.config.catchPanics = true) (h : pass.Conceded pass')
    (limit : Nat) : scan setup pass' limit = scan setup pass limit := by
  induction limit with
  | zero => rfl
  | succ limit ih =>
      rw [scan, scan, scanWith_eq_scanBy, scanWith_eq_scanBy, ih,
        guardedWork_conceded hcatch (scan_restores setup pass limit) h]

/-- With panics caught, the same happens if the pass concedes. -/
theorem happenings_conceded (hcatch : setup.config.catchPanics = true) (h : pass.Conceded pass')
    (limit : Nat) : happenings setup pass' limit = happenings setup pass limit := by
  induction limit with
  | zero => rfl
  | succ limit ih =>
      have balanced := scan_restores setup pass limit
      rw [happenings, happenings, ih, scan_conceded hcatch h]
      rw [duringScan_eq_happeningsBy, duringScan_eq_happeningsBy,
        guardedWork_conceded hcatch balanced h]
      funext n s
      simp only [happeningsBy, duringVisit_conceded (h.visit n),
        afterVisit_conceded balanced h]

end Engine

end TreeScan

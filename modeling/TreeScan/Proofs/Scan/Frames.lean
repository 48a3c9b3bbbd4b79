import TreeScan.Proofs.Scan.Balance

/-!
# Frames

A scan that is under way is a chain of frames.  A frame is a node that is being
visited, or at which a rollback has landed, with the state in which its scan was
asked for and the state in which the visit or the landing began.

`Reaches` says how far a visit has come: its requests so far were answered, and
the rest of it is left.  Nothing is lost by looking at a visit half way through:
it gives what the rest of it gives (`Reaches.runVisit_eq`).

The scan of a frame ends as the work of the frame makes it end.  A rollback that
the frame does not catch leaves the scan (`Frame.Begun.scan_of_uncaught`).  Once a
rollback has landed, the landing decides (`Frame.Begun.scan_of_landing`), and a
visit that ends with no rollback decides itself (`Frame.Begun.scan_of_settled`).
-/

namespace TreeScan

/-- The state with another stack. -/
def ScanState.restack {σ η : Type} (s : ScanState σ η) (stack : Stack) : ScanState σ η :=
  s.on { s.scanner with stack := stack }

@[simp] theorem ScanState.restack_stack {σ η : Type} (s : ScanState σ η) (stack : Stack) :
    (s.restack stack).scanner.stack = stack := rfl

theorem ScanState.restack_self {σ η : Type} {s : ScanState σ η} {stack : Stack}
    (h : s.scanner.stack = stack) : s.restack stack = s := by
  subst h
  rfl

namespace Engine

variable {σ κ η α β : Type}

/-! ## One visit after the other -/

/-- Goes on with what a visit completed with.  Nothing else follows a visit that
did not complete. -/
def andThen (ended : Except Halt (Outcome κ α × ScanState σ η))
    (next : α → Turn σ η (Outcome κ β)) : Except Halt (Outcome κ β × ScanState σ η) :=
  match ended with
  | .error halt => .error halt
  | .ok (.completed result, s) => next result s
  | .ok (.interrupted cause, s) => .ok (.interrupted cause, s)
  | .ok (.panicked payload, s) => .ok (.panicked payload, s)

theorem runVisit_request (setup : Setup η) (nested : Scan σ κ η) (r : Request σ κ)
    (next : r.Answer → Visit σ κ α) (s : ScanState σ η) :
    runVisit setup nested (.request r next) s =
      match answer setup nested r s with
      | .error halt => .error halt
      | .ok (.answer a, s) => runVisit setup nested (next a) s
      | .ok (.panic payload, s) => .ok (.panicked payload, s) := by
  cases ha : answer setup nested r s with
  | error halt => simp only [runVisit, ha]
  | ok result =>
      obtain ⟨reply, t⟩ := result
      cases reply with
      | answer a => simp only [runVisit, ha]
      | panic payload => simp only [runVisit, ha]

theorem runVisit_bind (setup : Setup η) (nested : Scan σ κ η) (v : Visit σ κ α)
    (f : α → Visit σ κ β) (s : ScanState σ η) :
    runVisit setup nested (v.bind f) s =
      andThen (runVisit setup nested v s) fun result => runVisit setup nested (f result) := by
  induction v generalizing s with
  | done result => rfl
  | interrupt cause => rfl
  | panic payload => rfl
  | request r next ih =>
      simp only [Visit.bind, runVisit_request]
      cases answer setup nested r s with
      | error halt => rfl
      | ok result =>
          obtain ⟨reply, t⟩ := result
          cases reply with
          | answer a => exact ih a t
          | panic payload => rfl

/-- A run activates the unit that it scans, so what was active before does not matter. -/
theorem runVisit_scanUnit (setup : Setup η) (nested : Scan σ κ η) (tree : Nat)
    (unit : CompilationUnit) (s : ScanState σ η) :
    runVisit setup nested (.scanUnit tree unit) s =
      runVisit setup nested (Visit.scanRoot (.root tree unit))
        (s.on (s.scanner.activate setup (some unit))) := by
  rw [Visit.scanUnit, runVisit_bind]
  rfl

/-! ## Visits under way -/

/-- The rollback that an answer brings, if it brings one. -/
def carried : (r : Request σ κ) → r.Answer → Option (Rollback κ)
  | .scan _, r => r
  | .scanRoot _, _ => none
  | .read, _ => none
  | .write _, _ => none
  | .stack, _ => none
  | .unit, _ => none
  | .imports, _ => none
  | .config, _ => none
  | .lines, _ => none
  | .trace, _ => none
  | .report .., _ => none
  | .activate _, _ => none
  | .log _, _ => none
  | .editFiles _, _ => none

/-- `Reaches setup nested v s given w t` holds if the visit `v`, begun in the
state `s`, has come to the visit `w` in the state `t`.  The rollbacks that its
requests were answered with on the way are `given`. -/
inductive Reaches (setup : Setup η) (nested : Scan σ κ η) (v : Visit σ κ α) (s : ScanState σ η) :
    List (Rollback κ) → Visit σ κ α → ScanState σ η → Prop where
  | start : Reaches setup nested v s [] v s
  | answered {given : List (Rollback κ)} {r : Request σ κ} {next : r.Answer → Visit σ κ α}
      {t u : ScanState σ η} {a : r.Answer} :
      Reaches setup nested v s given (.request r next) t →
      answer setup nested r t = .ok (.answer a, u) →
      Reaches setup nested v s (given ++ (carried r a).toList) (next a) u

variable {setup : Setup η} {nested : Scan σ κ η} {pass : Pass σ κ}

/-- What is left of a visit gives what the visit gives. -/
theorem Reaches.runVisit_eq {v w : Visit σ κ α} {s t : ScanState σ η} {given : List (Rollback κ)}
    (h : Reaches setup nested v s given w t) :
    runVisit setup nested v s = runVisit setup nested w t := by
  induction h with
  | start => rfl
  | answered _ ha ih => rw [ih, runVisit_request, ha]

/-- Answered requests leave the stack alone. -/
theorem Reaches.stack_eq (balanced : Balanced nested) {v w : Visit σ κ α} {s t : ScanState σ η}
    {given : List (Rollback κ)} (h : Reaches setup nested v s given w t) :
    t.scanner.stack = s.scanner.stack := by
  induction h with
  | start => rfl
  | @answered given r next t u a _ ha ih =>
      have hr := answer_restores setup balanced r t
      rw [ha] at hr
      exact Eq.trans hr ih

/-- A first answer before the others. -/
theorem Reaches.request {r : Request σ κ} {next : r.Answer → Visit σ κ α} {a : r.Answer}
    {w : Visit σ κ α} {s t u : ScanState σ η} {given : List (Rollback κ)}
    (ha : answer setup nested r s = .ok (.answer a, t))
    (h : Reaches setup nested (next a) t given w u) :
    Reaches setup nested (.request r next) s ((carried r a).toList ++ given) w u := by
  induction h with
  | start =>
      rw [List.append_nil]
      exact .answered .start ha
  | answered _ hb ih =>
      rw [← List.append_assoc]
      exact .answered ih hb

theorem eq_scan_of_carried {r : Request σ κ} {a : r.Answer} {rollback : Rollback κ}
    (h : carried r a = some rollback) : ∃ node, r = .scan node := by
  cases r with
  | scan node => exact ⟨node, rfl⟩
  | _ => cases h

/-- A visit that ends with a rollback has raised it, or it has passed on what
one of its scans answered with. -/
theorem raised_or_passed_on (v : Visit σ κ α) {s u : ScanState σ η} {r : Rollback κ}
    (h : runVisit setup nested v s = .ok (.interrupted (.rollback r), u)) :
    (∃ given, r ∉ given ∧ Reaches setup nested v s given (.rollback r) u) ∨
    ∃ given n next t t', Reaches setup nested v s given (.request (.scan (some n)) next) t ∧
      nested n t = .ok (.answer (some r), t') ∧
      runVisit setup nested (next (some r)) t' = .ok (.interrupted (.rollback r), u) := by
  induction v generalizing s with
  | done result => cases h
  | interrupt cause =>
      cases h
      exact .inl ⟨[], List.not_mem_nil, .start⟩
  | panic payload => cases h
  | request q next ih =>
      rw [runVisit_request] at h
      split at h
      · cases h
      · next a t ha =>
          by_cases hc : carried q a = some r
          · obtain ⟨node, rfl⟩ := eq_scan_of_carried hc
            cases node with
            | none =>
                cases ha
                cases hc
            | some n =>
                have hc : a = some r := hc
                subst hc
                exact .inr ⟨[], n, next, s, t, .start, ha, h⟩
          · rcases ih a h with ⟨given, hr, hw⟩ | ⟨given, n, next', t₁, t₂, hw, hn, hp⟩
            · refine .inl ⟨(carried q a).toList ++ given, ?_, hw.request ha⟩
              simp only [List.mem_append, Option.mem_toList, not_or]
              exact ⟨hc, hr⟩
            · exact .inr ⟨(carried q a).toList ++ given, n, next', t₁, t₂, hw.request ha, hn, hp⟩
      · cases h

/-! ## Frames -/

/-- What happens at the node of a frame. -/
inductive Phase (κ : Type) where
  | visiting
  /-- A rollback has landed at the node. -/
  | landing (callback : Option κ)

/-- The frame of a scan. -/
structure Frame (σ κ η : Type) where
  node : Node
  /-- The state in which the scan was asked for. -/
  asked : ScanState σ η
  /-- How deep the scans that are asked for at the node may be nested. -/
  limit : Nat
  phase : Phase κ
  /-- The state in which the phase began. -/
  began : ScanState σ η
  /-- What the node goes on with when the scan of the next frame has answered.
  The innermost frame waits for no scan, and there it does not matter. -/
  rest : Option (Rollback κ) → Visit σ κ Unit

namespace Frame

/-- What it means to scan a node below a frame. -/
def below (setup : Setup η) (pass : Pass σ κ) (f : Frame σ κ η) : Scan σ κ η :=
  Engine.scan setup pass f.limit

/-- The scan of a frame. -/
def scan (setup : Setup η) (pass : Pass σ κ) (f : Frame σ κ η) :
    Except Halt (Reply (Option (Rollback κ)) × ScanState σ η) :=
  Engine.scan setup pass (f.limit + 1) f.node f.asked

/-- What the pass does at the node. -/
def work (pass : Pass σ κ) (f : Frame σ κ η) : Visit σ κ Unit :=
  match f.phase with
  | .visiting => pass.visit f.node
  | .landing callback => pass.land callback f.node

/-- How the work of a frame ends. -/
def ended (setup : Setup η) (pass : Pass σ κ) (f : Frame σ κ η) :
    Except Halt (Outcome κ Unit × ScanState σ η) :=
  runVisit setup (f.below setup pass) (f.work pass) f.began

/-- The stack while the node of a frame is the current one. -/
def stack (f : Frame σ κ η) : Stack := f.node :: f.asked.scanner.stack

/-- The state in which a node begins to be visited. -/
def entered (f : Frame σ κ η) : ScanState σ η := f.asked.on (f.asked.scanner.enter f.node)

/-- The state in which a rollback has landed, after a visit left the state `t`. -/
def landed (f : Frame σ κ η) (t : ScanState σ η) : ScanState σ η :=
  t.on (t.scanner.note [landing f.node t.scanner.stack.depth])

@[simp] theorem landed_stack (f : Frame σ κ η) (t : ScanState σ η) :
    (f.landed t).scanner.stack = t.scanner.stack := rfl

/-- The phase of a frame has begun in the state that it says.  A landing begins
where the visit of the node ended with a rollback to it. -/
def Begun (setup : Setup η) (pass : Pass σ κ) (f : Frame σ κ η) : Prop :=
  match f.phase with
  | .visiting => f.began = f.entered
  | .landing callback =>
    ∃ r t, runVisit setup (f.below setup pass) (pass.visit f.node) f.entered =
        .ok (.interrupted (.rollback r), t) ∧
      r.target.same f.node = true ∧ r.callback = callback ∧ f.began = f.landed t

/-- Turns a panic of the work of a frame into a fault, if the settings say so. -/
def guard (setup : Setup η) (f : Frame σ κ η) :
    Except Halt (Outcome κ Unit × ScanState σ η) → Except Halt (Outcome κ Unit × ScanState σ η)
  | .error halt => .error halt
  | .ok (outcome, t) =>
    if setup.config.catchPanics then .ok (catchPanic f.stack.depth t outcome) else .ok (outcome, t)

/-- Settles how the work of a frame ended and takes the node off the stack. -/
def close (setup : Setup η) (f : Frame σ κ η) :
    Except Halt (Outcome κ Unit × ScanState σ η) →
      Except Halt (Reply (Option (Rollback κ)) × ScanState σ η)
  | .error halt => .error halt
  | .ok (outcome, t) =>
    leave f.node (settle setup f.node t outcome).2 (settle setup f.node t outcome).1

/-- How the scan of a frame ends when the work of the frame has ended and nothing
more lands there. -/
def finish (setup : Setup η) (f : Frame σ κ η)
    (ended : Except Halt (Outcome κ Unit × ScanState σ η)) :
    Except Halt (Reply (Option (Rollback κ)) × ScanState σ η) :=
  f.close setup (f.guard setup ended)

/-- A frame catches a rollback to its node while the node is visited.  Once a
rollback has landed there, it catches no other. -/
def Catches (f : Frame σ κ η) (r : Rollback κ) : Prop :=
  match f.phase with
  | .visiting => r.target.same f.node = true
  | .landing _ => False

end Frame

/-! ## How the scan of a frame ends -/

/-- A rollback is not a panic, so the guard lets it through. -/
theorem guarded_of_rollback {v : Visit σ κ Unit} {s t : ScanState σ η} {r : Rollback κ}
    (h : runVisit setup nested v s = .ok (.interrupted (.rollback r), t)) :
    guarded setup nested v s = .ok (.interrupted (.rollback r), t) := by
  unfold guarded
  rw [h]
  simp only [catchPanic, ite_self]

/-- A visit may end with a rollback to its node. -/
theorem lands_or_not (n : Node) (ended : Except Halt (Outcome κ Unit × ScanState σ η)) :
    (∃ r t, ended = .ok (.interrupted (.rollback r), t) ∧ r.target.same n = true) ∨
      ∀ r t, ended = .ok (.interrupted (.rollback r), t) → r.target.same n = false := by
  by_cases h : ∃ r t, ended = .ok (.interrupted (.rollback r), t) ∧ r.target.same n = true
  · exact .inl h
  · exact .inr fun r t hended => Bool.eq_false_iff.2 fun hr => h ⟨r, t, hended, hr⟩

/-- A rollback to the node that is visited lands there. -/
theorem visit_of_landing {n : Node} {s t : ScanState σ η} {r : Rollback κ}
    (h : guarded setup nested (pass.visit n) s = .ok (.interrupted (.rollback r), t))
    (hr : r.target.same n = true) :
    visit setup pass nested n s = land setup pass nested n r.callback t := by
  unfold visit
  rw [h]
  exact if_pos hr

/-- If nothing lands at a node, then it is visited and that is all. -/
theorem visit_of_no_landing {n : Node} {s : ScanState σ η}
    (h : ∀ r t, guarded setup nested (pass.visit n) s = .ok (.interrupted (.rollback r), t) →
      r.target.same n = false) :
    visit setup pass nested n s = guarded setup nested (pass.visit n) s := by
  unfold visit
  cases hg : guarded setup nested (pass.visit n) s with
  | error halt => rfl
  | ok ended =>
      obtain ⟨outcome, t⟩ := ended
      cases outcome with
      | completed result => rfl
      | panicked payload => rfl
      | interrupted cause =>
          cases cause with
          | fault f => rfl
          | rollback r => simp only [h r t hg, Bool.false_eq_true, if_false]

theorem guarded_eq_guard {f : Frame σ κ η} (v : Visit σ κ Unit) {s : ScanState σ η}
    (h : s.scanner.stack = f.stack) :
    guarded setup nested v s = f.guard setup (runVisit setup nested v s) := by
  unfold guarded
  rw [h]
  cases runVisit setup nested v s with
  | error halt => rfl
  | ok ended => rfl

theorem Frame.scan_eq_close (f : Frame σ κ η) :
    f.scan setup pass = f.close setup (visit setup pass (f.below setup pass) f.node f.entered) := by
  show scanWith setup pass (f.below setup pass) f.node f.asked = _
  unfold scanWith
  rw [← Frame.entered]
  cases visit setup pass (f.below setup pass) f.node f.entered with
  | error halt => rfl
  | ok ended => rfl

namespace Frame.Begun

variable {f : Frame σ κ η}

theorem stack_eq (h : f.Begun setup pass) : f.began.scanner.stack = f.stack := by
  unfold Frame.Begun at h
  split at h
  · rw [h]
    rfl
  · obtain ⟨r, t, hv, _, _, hb⟩ := h
    have hs := runVisit_restores setup (scan_restores setup pass f.limit)
      (pass.visit f.node) f.entered
    unfold Frame.below at hv
    rw [hv] at hs
    rw [hb]
    exact hs

/-- A frame goes on with its node on top of the stack. -/
theorem stack_of_reaches (h : f.Begun setup pass) {given : List (Rollback κ)}
    {v : Visit σ κ Unit} {t : ScanState σ η}
    (hv : Reaches setup (f.below setup pass) (f.work pass) f.began given v t) :
    t.scanner.stack = f.stack :=
  (hv.stack_eq (scan_restores setup pass f.limit)).trans h.stack_eq

/-- Work that ends with a rollback leaves the stack that it began on. -/
theorem stack_of_rollback (h : f.Begun setup pass) {r : Rollback κ} {u : ScanState σ η}
    (hw : f.ended setup pass = .ok (.interrupted (.rollback r), u)) :
    u.scanner.stack = f.stack := by
  have hs := runVisit_restores setup (scan_restores setup pass f.limit)
    (f.work pass) f.began
  unfold Frame.ended Frame.below at hw
  rw [hw, h.stack_eq] at hs
  exact hs

/-- Once a rollback has landed at a node, its scan ends as the landing makes it
end. -/
theorem scan_of_landing (h : f.Begun setup pass) {callback : Option κ}
    (hp : f.phase = .landing callback) :
    f.scan setup pass = f.finish setup (f.ended setup pass) := by
  have hs := h.stack_eq
  unfold Frame.Begun at h
  rw [hp] at h
  obtain ⟨r, t, hv, hr, hc, hb⟩ := h
  have hw : f.work pass = pass.land r.callback f.node := by
    unfold Frame.work
    rw [hp, hc]
  have hvisit : visit setup pass (f.below setup pass) f.node f.entered =
      guarded setup (f.below setup pass) (f.work pass) f.began := by
    unfold visit
    rw [guarded_of_rollback hv]
    simp only [hr, if_true]
    rw [land, hw, hb]
    rfl
  rw [Frame.scan_eq_close, hvisit, guarded_eq_guard (f.work pass) hs]
  rfl

/-- A rollback that a frame does not catch leaves the scan of the frame, and the
node comes off the stack. -/
theorem scan_of_uncaught (h : f.Begun setup pass) {r : Rollback κ} {u : ScanState σ η}
    (hw : f.ended setup pass = .ok (.interrupted (.rollback r), u)) (hr : ¬ f.Catches r) :
    f.scan setup pass = .ok (.answer (some r), u.restack f.asked.scanner.stack) := by
  have hclose : f.close setup (.ok (.interrupted (.rollback r), u)) =
      .ok (.answer (some r), u.restack f.asked.scanner.stack) := by
    show leave f.node u (.answer (some r)) = _
    unfold leave
    rw [Scanner.leave?_of_stack (h.stack_of_rollback hw)]
    rfl
  cases hp : f.phase with
  | visiting =>
      have hb : f.began = f.entered := by
        simpa [Frame.Begun, hp] using h
      have hc : r.target.same f.node = false := by
        simpa [Frame.Catches, hp] using hr
      have hv : runVisit setup (f.below setup pass) (pass.visit f.node) f.entered =
          .ok (.interrupted (.rollback r), u) := by
        rw [← hb, ← hw, Frame.ended]
        unfold Frame.work
        rw [hp]
      rw [Frame.scan_eq_close, visit, guarded_of_rollback hv]
      simp only [hc]
      exact hclose
  | landing callback =>
      rw [h.scan_of_landing hp, hw, Frame.finish, Frame.guard]
      simp only [catchPanic, ite_self]
      exact hclose

/-- A visit that does not end with a rollback ends the scan of its node. -/
theorem scan_of_settled (h : f.Begun setup pass) (hp : f.phase = .visiting)
    (hno : ∀ r u, f.ended setup pass ≠ .ok (.interrupted (.rollback r), u)) :
    f.scan setup pass = f.finish setup (f.ended setup pass) := by
  have hs := h.stack_eq
  have hb : f.began = f.entered := by
    simpa [Frame.Begun, hp] using h
  have hended : f.ended setup pass =
      runVisit setup (f.below setup pass) (pass.visit f.node) f.entered := by
    unfold Frame.ended Frame.work
    rw [hp, hb]
  have hguarded : guarded setup (f.below setup pass) (pass.visit f.node) f.entered =
      f.guard setup (f.ended setup pass) := by
    rw [hended]
    exact guarded_eq_guard (pass.visit f.node) rfl
  rw [Frame.scan_eq_close, visit, hguarded, Frame.finish]
  cases he : f.ended setup pass with
  | error halt => rfl
  | ok result =>
      obtain ⟨outcome, u⟩ := result
      cases outcome with
      | completed result => simp only [Frame.guard, catchPanic, ite_self]
      | interrupted cause =>
          cases cause with
          | rollback r => exact absurd he (hno r u)
          | fault fault => simp only [Frame.guard, catchPanic, ite_self]
      | panicked payload =>
          unfold Frame.guard
          cases setup.config.catchPanics with
          | true => rfl
          | false => rfl

end Frame.Begun

/-! ## How a frame finishes -/

namespace Frame

variable {f : Frame σ κ η} {t : ScanState σ η}

/-- A frame finishes work that has completed by taking its node off the stack. -/
theorem finish_of_completed (ht : t.scanner.stack = f.stack) :
    f.finish (κ := κ) setup (.ok (.completed (), t)) =
      .ok (.answer none, t.restack f.asked.scanner.stack) := by
  have hclose : f.close (κ := κ) setup (.ok (.completed (), t)) =
      .ok (.answer none, t.restack f.asked.scanner.stack) := by
    show leave f.node t (.answer none) = _
    unfold leave
    rw [Scanner.leave?_of_stack ht]
    rfl
  unfold Frame.finish Frame.guard
  simp only [catchPanic, ite_self]
  exact hclose

/-- A fault that was reported is as good as a visit that completed. -/
theorem finish_of_fault {fault : Fault}
    (hreported : (internalError setup f.node fault t.scanner).1 = none)
    (ht : t.scanner.stack = f.stack) :
    f.finish (κ := κ) setup (.ok (.interrupted (.fault fault), t)) =
      .ok (.answer none,
        (t.on (internalError setup f.node fault t.scanner).2).restack f.asked.scanner.stack) := by
  have hstack : (internalError setup f.node fault t.scanner).2.stack = f.stack :=
    (internalError_stack setup f.node fault t.scanner).trans ht
  have hclose : f.close (κ := κ) setup (.ok (.interrupted (.fault fault), t)) =
      .ok (.answer none,
        (t.on (internalError setup f.node fault t.scanner).2).restack
          f.asked.scanner.stack) := by
    simp only [Frame.close, settle_fault, hreported]
    show leave f.node (t.on (internalError setup f.node fault t.scanner).2) (.answer none) = _
    unfold leave
    rw [ScanState.on_scanner, Scanner.leave?_of_stack hstack]
    rfl
  unfold Frame.finish Frame.guard
  simp only [catchPanic, ite_self]
  exact hclose

/-- A panic that is caught is a fault. -/
theorem finish_of_panic (hcatch : setup.config.catchPanics = true) (payload : Payload) :
    f.finish (κ := κ) setup (.ok (.panicked payload, t)) =
      f.finish setup (.ok (.interrupted (.fault (.ofPanic payload)),
        t.on (t.scanner.cutTo f.stack.depth))) := by
  unfold Frame.finish Frame.guard
  rw [hcatch]
  rfl

end Frame

end Engine

end TreeScan

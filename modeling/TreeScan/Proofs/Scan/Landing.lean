import TreeScan.Proofs.Scan.Deliveries
import TreeScan.Proofs.Scan.Unwinding

/-!
# Where rollbacks land

A rollback lands at the innermost frame that catches it.  That is the innermost
frame whose node is the target and is being visited.  There the hook is run and
then the callback, each once, on the stack that the visit of the node began on
(`Lands`).  When both have completed, so has the scan of the node.

Nodes are compared by their places, so a node that only looks like the target
catches nothing, and of several frames of the target the innermost one catches.
-/

namespace TreeScan.Engine

variable {σ κ η : Type}

variable {setup : Setup η} {pass : Pass σ κ} {f g : Frame σ κ η} {frames : List (Frame σ κ η)}
  {given : List (Rollback κ)} {v : Visit σ κ Unit} {r : Rollback κ} {t u : ScanState σ η}

/-- What a callback does at the target of its rollback, if there is a callback. -/
def resumed (pass : Pass σ κ) (callback : Option κ) (n : Node) : Visit σ κ Unit :=
  match callback with
  | none => .done ()
  | some callback => pass.resume callback n

/-- A rollback that came out of the visit of a frame's node in the state `u` lands
at the frame. -/
structure Lands (setup : Setup η) (pass : Pass σ κ) (f : Frame σ κ η) (r : Rollback κ)
    (u : ScanState σ η) : Prop where
  /-- The visit of the node ended with the rollback. -/
  ended : f.ended setup pass = .ok (.interrupted (.rollback r), u)
  /-- The hook finds the stack that the visit of the node began on. -/
  hook_stack : (f.landed u).scanner.stack = f.began.scanner.stack
  /-- So does the callback. -/
  callback_stack : ∀ t,
    runVisit setup (f.below setup pass) (pass.landed f.node) (f.landed u) =
      .ok (.completed (), t) → t.scanner.stack = f.began.scanner.stack
  /-- What is left of the scan is the hook, once, and after a hook that completed
  the callback, once. -/
  scan_eq : f.scan setup pass = f.finish setup
    (andThen (runVisit setup (f.below setup pass) (pass.landed f.node) (f.landed u)) fun _ =>
      runVisit setup (f.below setup pass) (resumed pass r.callback f.node))
  /-- After a hook that panics no callback is run. -/
  hook_panics : ∀ payload t,
    runVisit setup (f.below setup pass) (pass.landed f.node) (f.landed u) =
      .ok (.panicked payload, t) →
    f.scan setup pass = f.finish setup (.ok (.panicked payload, t))
  /-- When both have completed, so has the scan. -/
  completes : ∀ t t',
    runVisit setup (f.below setup pass) (pass.landed f.node) (f.landed u) =
      .ok (.completed (), t) →
    runVisit setup (f.below setup pass) (resumed pass r.callback f.node) t =
      .ok (.completed (), t') →
    f.scan setup pass = .ok (.answer none, t'.restack f.asked.scanner.stack)
  /-- The scan also completes when the hook or the callback fails, if panics are
  caught and the handler of diagnostics never gives up. -/
  answers : setup.config.catchPanics = true → setup.Quiet → ∀ outcome t,
    (andThen (runVisit setup (f.below setup pass) (pass.landed f.node) (f.landed u)) fun _ =>
      runVisit setup (f.below setup pass) (resumed pass r.callback f.node)) = .ok (outcome, t) →
    (∀ r', outcome ≠ .interrupted (.rollback r')) →
    ∃ s', f.scan setup pass = .ok (.answer none, s')

/-- A visit that completed leaves the stack that it began on. -/
theorem stack_of_completed {limit : Nat} {v : Visit σ κ Unit} {s t : ScanState σ η}
    (h : runVisit setup (Engine.scan setup pass limit) v s = .ok (.completed (), t)) :
    t.scanner.stack = s.scanner.stack := by
  have hs := runVisit_restores setup (scan_restores setup pass limit) v s
  rw [h] at hs
  exact hs

/-- A frame whose work ends with no rollback answers that its scan has completed. -/
theorem Frame.finish_answers (hcatch : setup.config.catchPanics = true) (quiet : setup.Quiet)
    {outcome : Outcome κ Unit} (h : Settles f.stack (.ok (outcome, t)))
    (hno : ∀ r, outcome ≠ .interrupted (.rollback r)) :
    ∃ s', f.finish setup (.ok (outcome, t)) = .ok (.answer none, s') := by
  cases outcome with
  | completed result => exact ⟨_, Frame.finish_of_completed h⟩
  | interrupted cause =>
      cases cause with
      | rollback r => exact absurd rfl (hno r)
      | fault fault => exact ⟨_, Frame.finish_of_fault (internalError_quiet quiet _ _ _) h⟩
  | panicked payload =>
      have hcut := catchPanic_restores h
      rw [Frame.finish_of_panic hcatch]
      exact ⟨_, Frame.finish_of_fault (internalError_quiet quiet _ _ _) hcut⟩

/-- A rollback lands at a frame that catches it when it comes out of the visit of
the node. -/
theorem Frame.Begun.lands (h : f.Begun setup pass) (hc : f.Catches r)
    (hw : f.ended setup pass = .ok (.interrupted (.rollback r), u)) : Lands setup pass f r u := by
  have hp : f.phase = .visiting := by
    unfold Frame.Catches at hc
    split at hc
    · assumption
    · cases hc
  have hr : r.target.same f.node = true := by
    simpa [Frame.Catches, hp] using hc
  have hb : f.began = f.entered := by
    simpa [Frame.Begun, hp] using h
  have hu : (f.landed u).scanner.stack = f.stack :=
    (f.landed_stack u).trans (h.stack_of_rollback hw)
  -- The frame goes on as a frame in which the rollback has landed.
  let f' : Frame σ κ η := { f with phase := .landing r.callback, began := f.landed u }
  have hf' : f'.Begun setup pass := by
    refine ⟨r, u, ?_, hr, rfl, rfl⟩
    rw [← hw, Frame.ended]
    unfold Frame.work
    rw [hp, hb]
    rfl
  have hscan : f.scan setup pass = f.finish setup
      (andThen (runVisit setup (f.below setup pass) (pass.landed f.node) (f.landed u)) fun _ =>
        runVisit setup (f.below setup pass) (resumed pass r.callback f.node)) := by
    refine (hf'.scan_of_landing rfl).trans ?_
    show f.finish setup (runVisit setup (f.below setup pass) (pass.land r.callback f.node)
      (f.landed u)) = _
    unfold Pass.land
    rw [runVisit_bind]
    rfl
  have hbegan : f.began.scanner.stack = f.stack := h.stack_eq
  have hsettles := runVisit_restores setup (scan_restores setup pass f.limit)
    (pass.land r.callback f.node) (f.landed u)
  unfold Pass.land at hsettles
  rw [runVisit_bind, hu] at hsettles
  exact {
    ended := hw
    hook_stack := hu.trans hbegan.symm
    callback_stack := fun t ht => (stack_of_completed ht).trans (hu.trans hbegan.symm)
    scan_eq := hscan
    hook_panics := fun payload t ht => by
      rw [hscan, ht]
      rfl
    completes := fun t t' ht ht' => by
      rw [hscan, ht]
      show f.finish setup (runVisit setup (f.below setup pass) (resumed pass r.callback f.node) t)
        = _
      rw [ht']
      refine Frame.finish_of_completed ?_
      exact (stack_of_completed ht').trans ((stack_of_completed ht).trans hu)
    answers := fun hcatch quiet outcome t ht hno => by
      have hend : Settles f.stack (.ok (outcome, t)) := ht ▸ hsettles
      rw [hscan, ht]
      exact Frame.finish_answers hcatch quiet hend hno }

/-! ## The scan of a node

How the scan of a node ends, told by how its visit ends. -/

variable {n : Node} {limit : Nat} {s t' : ScanState σ η}

/-- The scan completes when the visit does. -/
theorem scan_of_completed
    (h : runVisit setup (scan setup pass limit) (pass.visit n) (s.on (s.scanner.enter n)) =
      .ok (.completed (), t)) :
    scan setup pass (limit + 1) n s = .ok (.answer none, t.restack s.scanner.stack) := by
  let f : Frame σ κ η := ⟨n, s, limit, .visiting, s.on (s.scanner.enter n), Visit.forward⟩
  have hb : f.Begun setup pass := rfl
  have hended : f.ended setup pass = .ok (.completed (), t) := h
  have hscan := hb.scan_of_settled rfl (by
    intro r u hw
    rw [hended] at hw
    cases hw)
  refine hscan.trans ?_
  rw [hended]
  exact Frame.finish_of_completed ((stack_of_completed h).trans hb.stack_eq)

/-- A rollback to another node leaves the scan. -/
theorem scan_of_rollback
    (h : runVisit setup (scan setup pass limit) (pass.visit n) (s.on (s.scanner.enter n)) =
      .ok (.interrupted (.rollback r), t)) (hother : r.target.place ≠ n.place) :
    scan setup pass (limit + 1) n s = .ok (.answer (some r), t.restack s.scanner.stack) := by
  let f : Frame σ κ η := ⟨n, s, limit, .visiting, s.on (s.scanner.enter n), Visit.forward⟩
  have hb : f.Begun setup pass := rfl
  exact hb.scan_of_uncaught h fun hc => hother (Node.same_iff.1 hc)

/-- A rollback to the node itself lands there, and the scan completes when the landing
does. -/
theorem scan_of_landing
    (h : runVisit setup (scan setup pass limit) (pass.visit n) (s.on (s.scanner.enter n)) =
      .ok (.interrupted (.rollback r), t)) (hself : r.target.place = n.place)
    (hland : runVisit setup (scan setup pass limit) (pass.land r.callback n)
      (t.on (t.scanner.note [landing n t.scanner.stack.depth])) = .ok (.completed (), t')) :
    scan setup pass (limit + 1) n s = .ok (.answer none, t'.restack s.scanner.stack) := by
  let f : Frame σ κ η := ⟨n, s, limit, .visiting, s.on (s.scanner.enter n), Visit.forward⟩
  have hb : f.Begun setup pass := rfl
  let g : Frame σ κ η := { f with phase := .landing r.callback, began := f.landed t }
  have hg : g.Begun setup pass := ⟨r, t, h, Node.same_iff.2 hself, rfl, rfl⟩
  have hstack : t.scanner.stack = f.stack := hb.stack_of_rollback h
  have hended : g.ended setup pass = .ok (.completed (), t') := hland
  refine (hg.scan_of_landing rfl).trans ?_
  rw [hended]
  exact Frame.finish_of_completed ((stack_of_completed hland).trans hstack)

/-! ## Where a rollback lands -/

/-- Among frames of which some have a property there is an innermost one. -/
theorem exists_innermost {p : Frame σ κ η → Prop} (h : ∃ e ∈ frames, p e) :
    ∃ outer e inner, frames = outer ++ e :: inner ∧ p e ∧ ∀ d ∈ inner, ¬ p d := by
  induction frames with
  | nil =>
      obtain ⟨e, he, _⟩ := h
      cases he
  | cons d frames ih =>
      by_cases hin : ∃ e ∈ frames, p e
      · obtain ⟨outer, e, inner, hframes, he, hinner⟩ := ih hin
        exact ⟨d :: outer, e, inner, by rw [hframes]; rfl, he, hinner⟩
      · refine ⟨[], d, frames, rfl, ?_, fun e he hpe => hin ⟨e, he, hpe⟩⟩
        obtain ⟨e, he, hpe⟩ := h
        rcases List.mem_cons.1 he with rfl | he
        · exact hpe
        · exact absurd ⟨e, he, hpe⟩ hin

/-- A rollback that leaves the innermost frame of a scan, while some frame can
catch it, lands at the innermost one that can, if every frame within that one
forwards it.  If they forward it at once, nothing has changed by then but the
stack.  When the hook and the callback have completed, the frame around goes on
as after any scan that completed. -/
theorem rollback_lands_innermost (h : Underway setup pass frames given (.rollback r) t)
    (hlive : ∃ e ∈ frames, e.Catches r) :
    ∃ outer f inner, frames = outer ++ f :: inner ∧ f.Catches r ∧ (∀ e ∈ inner, ¬ e.Catches r) ∧
      (∀ u, Forwarded setup pass r (f :: inner) t u → Lands setup pass f r u) ∧
      ((∀ e ∈ (f :: inner).dropLast, e.rest (some r) = .rollback r) →
        Forwarded setup pass r (f :: inner) t (t.restack f.stack)) ∧
      (∀ around g u, outer = around ++ [g] → f.scan setup pass = .ok (.answer none, u) →
        ∃ given', Underway setup pass outer given' (g.rest none) u) := by
  obtain ⟨outer, f, inner, hframes, hc, hinner⟩ := exists_innermost hlive
  rw [hframes] at h
  refine ⟨outer, f, inner, hframes, hc, hinner, ?_, h.inner.forwarded_at_once, ?_⟩
  · intro u hu
    exact h.inner.begun.lands hc (h.inner.ended_of_forwarded hinner hu)
  · intro around g u houter hscan
    rw [houter, List.append_assoc] at h
    rw [houter]
    exact h.caller_goes_on hscan

/-- A descent that comes through a node twice lands at the inner one of its two
frames.  Other nodes that look alike do not catch the rollback. -/
theorem descent_lands_innermost :
    ∃ outer f inner, descentFrames (bareBlock 0) [bareBlock 1, bareBlock 0, bareBlock 2] [] =
        outer ++ f :: inner ∧
      f.Catches ⟨bareBlock 0, some ()⟩ ∧ (∀ e ∈ inner, ¬ e.Catches ⟨bareBlock 0, some ()⟩) ∧
      Lands plainSetup (descent ⟨bareBlock 0, some ()⟩) f ⟨bareBlock 0, some ()⟩
        ((descentState [] [bareBlock 2, bareBlock 0, bareBlock 1, bareBlock 0]).restack
          f.stack) := by
  have h := descent_underway plainSetup ⟨bareBlock 0, some ()⟩ (bareBlock 0)
    [bareBlock 1, bareBlock 0, bareBlock 2] []
  obtain ⟨outer, f, inner, hframes, hc, hinner, hlands, hatonce, _⟩ :=
    rollback_lands_innermost h ⟨_, List.mem_cons_self, rfl⟩
  refine ⟨outer, f, inner, hframes, hc, hinner, hlands _ (hatonce fun e he => ?_)⟩
  have hmem : e ∈ outer ++ f :: inner :=
    List.mem_append_right outer (List.dropLast_subset _ he)
  rw [← hframes] at hmem
  rw [rest_of_mem_descentFrames hmem]
  rfl

end TreeScan.Engine

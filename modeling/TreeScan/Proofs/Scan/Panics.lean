import TreeScan.Proofs.Scan.Deliveries
import TreeScan.Proofs.Scan.Frames

/-!
# Panics that leave a scan

With panics caught, the work of a frame can only fail with a fault.  The report
of that fault is not guarded, so the handler of diagnostics can still give up on
it, and nothing else makes a panic leave the scan.  The node stays on the stack
then.  The frame around catches the panic, which is its own fault from there on.

So a handler that keeps giving up is asked once for each frame, from the inside
outwards.  `Climbs` says which fault has come to a frame in this way.

With panics not caught, a panic leaves all scans that are under way.  It is
raised at one frame (`Raises`), and the nodes of the frames around that one stay
on the stack, with the node of the frame itself.

The frames here are those of any nested scans (`Live`), also of scans of their
own.  What they forward does not matter to a panic.
-/

namespace TreeScan

/-! ## Reports that the handler gives up on -/

/-- The handler of diagnostics gives up on the internal error of a fault. -/
def Setup.GivesUp {η : Type} (setup : Setup η) (s : Scanner η) (n : Node) (f : Fault)
    (payload : Payload) : Prop :=
  ∃ handler, setup.handler = some handler ∧
    (handler ⟨.internalError, s.position? setup n none, Problem.internalError.message [f.text]⟩
      s.files s.reports).panic = some payload

namespace Engine

variable {σ κ η α : Type}

theorem report_gives_up_iff {setup : Setup η} {s : Scanner η} {n : Node} {name : Option String}
    {problem : Problem} {params : List String} {payload : Payload} :
    (s.report setup n name problem params).1 = some payload ↔
      ∃ handler, setup.handler = some handler ∧
        (handler ⟨problem, s.position? setup n name, problem.message params⟩ s.files
          s.reports).panic = some payload := by
  unfold Scanner.report
  cases setup.handler with
  | none => simp
  | some handler => simp

theorem internalError_gives_up_iff {setup : Setup η} {s : Scanner η} {n : Node} {f : Fault}
    {payload : Payload} :
    (internalError setup n f s).1 = some payload ↔ setup.GivesUp s n f payload := by
  -- What is noted before the report changes nothing that the handler sees.
  rw [internalError_fst, report_gives_up_iff]
  rfl

/-! ## Nested scans -/

/-- A request for the scan of a node. -/
def Asks (n : Node) : Request σ κ → Prop
  | .scan node => node = some n
  | .scanRoot m => m = n
  | _ => False

/-- Frames of which each waits for the scan of the next.  Which visit the
innermost one has left does not matter. -/
inductive Live (setup : Setup η) (pass : Pass σ κ) : List (Frame σ κ η) → Prop where
  | innermost {f : Frame σ κ η} : f.Begun setup pass → Live setup pass [f]
  | around {f g : Frame σ κ η} {frames : List (Frame σ κ η)} {given : List (Rollback κ)}
      {q : Request σ κ} {next : q.Answer → Visit σ κ Unit} :
      f.Begun setup pass →
      f.limit = g.limit + 1 →
      Reaches setup (f.below setup pass) (f.work pass) f.began given (.request q next) g.asked →
      Asks g.node q →
      Live setup pass (g :: frames) →
      Live setup pass (f :: g :: frames)

variable {setup : Setup η} {pass : Pass σ κ} {nested : Scan σ κ η} {f g : Frame σ κ η}
  {frames : List (Frame σ κ η)} {s t u : ScanState σ η} {payload : Payload} {fault : Fault}

theorem answer_of_panic {n : Node} {q : Request σ κ} (hq : Asks n q)
    (h : nested n s = .ok (.panic payload, u)) :
    answer setup nested q s = .ok (.panic payload, u) := by
  cases q with
  | scan node =>
      cases hq
      exact h
  | scanRoot m =>
      cases hq
      rw [answer_scanRoot, h]
      rfl
  | _ => cases hq

/-- A request that a panic answers is a report or asks for a scan. -/
theorem report_or_asks {q : Request σ κ} (h : answer setup nested q s = .ok (.panic payload, u)) :
    (∃ n name problem params, q = .report n name problem params) ∨
      ∃ n, Asks n q ∧ nested n s = .ok (.panic payload, u) := by
  cases q with
  | report n name problem params => exact .inl ⟨n, name, problem, params, rfl⟩
  | scan node =>
      cases node with
      | none => cases h
      | some n => exact .inr ⟨n, rfl, h⟩
  | scanRoot n =>
      refine .inr ⟨n, rfl, ?_⟩
      rw [answer_scanRoot] at h
      cases hn : nested n s with
      | error halt =>
          rw [hn] at h
          cases h
      | ok result =>
          obtain ⟨reply, t⟩ := result
          rw [hn] at h
          cases reply with
          | answer r =>
              cases r with
              | none => cases h
              | some r => cases h
          | panic p =>
              cases h
              rfl
  | _ => cases h

namespace Live

theorem begun (h : Live setup pass (f :: frames)) : f.Begun setup pass := by
  cases h with
  | innermost hb => exact hb
  | around hb _ _ _ _ => exact hb

theorem inner_of_cons (h : Live setup pass (f :: g :: frames)) : Live setup pass (g :: frames) := by
  cases h with
  | around _ _ _ _ hin => exact hin

theorem inner {outer : List (Frame σ κ η)} (h : Live setup pass (outer ++ f :: frames)) :
    Live setup pass (f :: frames) := by
  induction outer with
  | nil => exact h
  | cons e outer ih =>
      apply ih
      cases outer with
      | nil => exact h.inner_of_cons
      | cons g outer => exact h.inner_of_cons

theorem begun_of_getLast {e : Frame σ κ η} (h : Live setup pass (f :: frames))
    (he : (f :: frames).getLast? = some e) : e.Begun setup pass := by
  obtain ⟨outer, houter⟩ := List.getLast?_eq_some_iff.1 he
  rw [houter] at h
  exact h.inner.begun

/-- A scan is asked for while the node of the frame around is the current one. -/
theorem asked_stack (h : Live setup pass (f :: g :: frames)) :
    g.asked.scanner.stack = f.stack := by
  cases h with
  | around hb _ hw _ _ => exact hb.stack_of_reaches hw

/-- While frames are live their nodes are on top of what was on the stack before. -/
theorem stack_eq {e : Frame σ κ η} (h : Live setup pass (f :: frames))
    (he : (f :: frames).getLast? = some e) :
    e.stack = ((f :: frames).map Frame.node).reverse ++ f.asked.scanner.stack := by
  induction frames generalizing f with
  | nil =>
      cases he
      rfl
  | cons g frames ih =>
      have hin : Live setup pass (g :: frames) := h.inner_of_cons
      rw [ih hin (by simpa using he), h.asked_stack, Frame.stack]
      simp

end Live

/-! ## Frames that fail -/

/-- The work of a frame ends with a fault.  A panic that is caught is one. -/
def Frame.Fails (setup : Setup η) (pass : Pass σ κ) (f : Frame σ κ η) (fault : Fault)
    (u : ScanState σ η) : Prop :=
  f.Begun setup pass ∧
    f.guard setup (f.ended setup pass) = .ok (.interrupted (.fault fault), u)

theorem Frame.close_of_fault_given_up (hreported :
    (internalError setup f.node fault u.scanner).1 = some payload) :
    f.close (κ := κ) setup (.ok (.interrupted (.fault fault), u)) =
      .ok (.panic payload, u.on (internalError setup f.node fault u.scanner).2) := by
  simp only [Frame.close, settle_fault, hreported]
  rfl

/-- Unless a rollback lands at a node that is visited, the scan ends as the work of
the frame makes it end. -/
theorem Frame.Begun.scan_eq_finish (h : f.Begun setup pass)
    (hno : ∀ r u, f.ended setup pass ≠ .ok (.interrupted (.rollback r), u)) :
    f.scan setup pass = f.finish setup (f.ended setup pass) := by
  cases hp : f.phase with
  | visiting => exact h.scan_of_settled hp hno
  | landing callback => exact h.scan_of_landing hp

/-- Some frame of a scan decides how the scan ends. -/
theorem exists_frame_finish (setup : Setup η) (pass : Pass σ κ) (limit : Nat) (n : Node)
    (s : ScanState σ η) :
    ∃ f : Frame σ κ η, f.node = n ∧ f.asked = s ∧ f.limit = limit ∧ f.Begun setup pass ∧
      scan setup pass (limit + 1) n s = f.finish setup (f.ended setup pass) := by
  let f : Frame σ κ η := ⟨n, s, limit, .visiting, s.on (s.scanner.enter n), Visit.forward⟩
  have hb : f.Begun setup pass := rfl
  by_cases hroll : ∃ r u, f.ended setup pass = .ok (.interrupted (.rollback r), u)
  · obtain ⟨r, u, hw⟩ := hroll
    by_cases hsame : r.target.same n = true
    · -- The rollback lands here, and the landing decides.
      let f' : Frame σ κ η := { f with phase := .landing r.callback, began := f.landed u }
      have hb' : f'.Begun setup pass := ⟨r, u, hw, hsame, rfl, rfl⟩
      exact ⟨f', rfl, rfl, rfl, hb', hb'.scan_of_landing rfl⟩
    · refine ⟨f, rfl, rfl, rfl, hb, ?_⟩
      have hscan := hb.scan_of_uncaught hw hsame
      have hstack := hb.stack_of_rollback hw
      refine Eq.trans hscan ?_
      rw [hw, Frame.finish, Frame.guard]
      simp only [catchPanic, ite_self]
      show _ = leave f.node u (.answer (some r))
      unfold leave
      rw [Scanner.leave?_of_stack hstack]
      rfl
  · refine ⟨f, rfl, rfl, rfl, hb, hb.scan_eq_finish ?_⟩
    intro r u hw
    exact hroll ⟨r, u, hw⟩

namespace Frame.Fails

theorem not_rollback (h : f.Fails setup pass fault u) (r : Rollback κ) (t : ScanState σ η) :
    f.ended setup pass ≠ .ok (.interrupted (.rollback r), t) := by
  intro hw
  have hguard := h.2
  rw [hw, Frame.guard] at hguard
  simp only [catchPanic, ite_self] at hguard
  cases hguard

/-- The scan of a frame that fails ends with the report of the fault. -/
theorem scan_eq (h : f.Fails setup pass fault u) :
    f.scan setup pass = f.close setup (.ok (.interrupted (.fault fault), u)) := by
  rw [h.1.scan_eq_finish h.not_rollback, Frame.finish, h.2]

theorem stack_eq (h : f.Fails setup pass fault u) : u.scanner.stack = f.stack := by
  have hs := guarded_restores setup (scan_restores setup pass f.limit) (f.work pass) f.began
  rw [guarded_eq_guard (f.work pass) h.1.stack_eq] at hs
  have hguard := h.2
  unfold Frame.ended Frame.below at hguard
  rw [hguard, h.1.stack_eq] at hs
  exact hs

/-- The handler gives up on the report of the fault.  The panic leaves the scan, and
the node stays on the stack. -/
theorem scan_of_given_up (h : f.Fails setup pass fault u)
    (hgives : setup.GivesUp u.scanner f.node fault payload) :
    f.scan setup pass =
      .ok (.panic payload, u.on (internalError setup f.node fault u.scanner).2) := by
  rw [h.scan_eq]
  exact Frame.close_of_fault_given_up (internalError_gives_up_iff.2 hgives)

/-- The handler takes the report.  The scan has completed, and the node comes off the
stack. -/
theorem scan_of_taken (h : f.Fails setup pass fault u)
    (htaken : ∀ payload, ¬ setup.GivesUp u.scanner f.node fault payload) :
    f.scan setup pass = .ok (.answer none,
      (u.on (internalError setup f.node fault u.scanner).2).restack f.asked.scanner.stack) := by
  have hnone : (internalError setup f.node fault u.scanner).1 = none := by
    cases hi : (internalError setup f.node fault u.scanner).1 with
    | none => rfl
    | some payload => exact absurd (internalError_gives_up_iff.1 hi) (htaken payload)
  rw [h.scan_eq, ← Frame.finish_of_fault hnone h.stack_eq, Frame.finish, Frame.guard]
  simp only [catchPanic, ite_self]

end Frame.Fails

theorem leave_ne_panic {n : Node} {r : Option (Rollback κ)} :
    leave n u (.answer r) ≠ .ok (.panic payload, t) := by
  intro h
  simp only [leave] at h
  split at h
  · cases h
  · cases h

/-- A panic leaves the scan of a frame if the handler gives up on the report of its
fault, or if its work panics and nothing catches that. -/
theorem Frame.finish_panics {o : Except Halt (Outcome κ Unit × ScanState σ η)}
    (h : f.finish setup o = .ok (.panic payload, t)) :
    (∃ fault u, f.guard setup o = .ok (.interrupted (.fault fault), u) ∧
      setup.GivesUp u.scanner f.node fault payload ∧
      t = u.on (internalError setup f.node fault u.scanner).2) ∨
    (setup.config.catchPanics = false ∧ o = .ok (.panicked payload, t)) := by
  cases o with
  | error halt => cases h
  | ok ended =>
      obtain ⟨outcome, v⟩ := ended
      unfold Frame.finish at h
      cases hg : f.guard setup (.ok (outcome, v)) with
      | error halt =>
          rw [hg] at h
          cases h
      | ok guarded =>
          obtain ⟨outcome', u⟩ := guarded
          rw [hg] at h
          cases outcome' with
          | completed result => exact absurd h leave_ne_panic
          | interrupted cause =>
              cases cause with
              | rollback r => exact absurd h leave_ne_panic
              | fault fault =>
                  refine .inl ⟨fault, u, rfl, ?_⟩
                  cases hi : (internalError setup f.node fault u.scanner).1 with
                  | none =>
                      simp only [Frame.close, settle_fault, hi] at h
                      exact absurd h leave_ne_panic
                  | some p =>
                      rw [Frame.close_of_fault_given_up hi] at h
                      cases h
                      exact ⟨internalError_gives_up_iff.1 hi, rfl⟩
          | panicked p =>
              cases h
              refine .inr ?_
              unfold Frame.guard at hg
              cases hc : setup.config.catchPanics with
              | false =>
                  rw [hc] at hg
                  cases hg
                  exact ⟨rfl, rfl⟩
              | true =>
                  rw [hc] at hg
                  cases outcome with
                  | completed result => cases hg
                  | interrupted cause => cases hg
                  | panicked p' => cases hg

/-! ## Panics that are caught -/

/-- The innermost frame has failed, and the handler has given up once in each frame
but the outermost.  To that one a fault has come in this way. -/
inductive Climbs (setup : Setup η) (pass : Pass σ κ) :
    List (Frame σ κ η) → Fault → ScanState σ η → Prop where
  | fails {f : Frame σ κ η} {fault : Fault} {u : ScanState σ η} :
      f.Fails setup pass fault u → Climbs setup pass [f] fault u
  | climbs {f g : Frame σ κ η} {frames : List (Frame σ κ η)} {fault : Fault} {payload : Payload}
      {u : ScanState σ η} :
      Climbs setup pass (g :: frames) fault u →
      setup.GivesUp u.scanner g.node fault payload →
      Climbs setup pass (f :: g :: frames) (.ofPanic payload)
        ((u.on (internalError setup g.node fault u.scanner).2).restack f.stack)

/-- The work of a frame panics if a scan that it asks for does. -/
theorem ended_of_panic {given : List (Rollback κ)} {n : Node} {q : Request σ κ}
    {next : q.Answer → Visit σ κ Unit}
    (hw : Reaches setup (f.below setup pass) (f.work pass) f.began given (.request q next) t)
    (hq : Asks n q) (hn : scan setup pass f.limit n t = .ok (.panic payload, u)) :
    f.ended setup pass = .ok (.panicked payload, u) := by
  have hanswer : answer setup (f.below setup pass) q t = .ok (.panic payload, u) :=
    answer_of_panic hq hn
  rw [Frame.ended, hw.runVisit_eq, runVisit_request, hanswer]

theorem Live.ended_of_panic (h : Live setup pass (f :: g :: frames))
    (hg : g.scan setup pass = .ok (.panic payload, u)) :
    f.ended setup pass = .ok (.panicked payload, u) := by
  cases h with
  | around hb hlimit hw hq _ =>
      refine Engine.ended_of_panic hw hq ?_
      rw [hlimit]
      exact hg

theorem not_rollback_of_panicked (h : f.ended setup pass = .ok (.panicked payload, u))
    (r : Rollback κ) (t : ScanState σ η) :
    f.ended setup pass ≠ .ok (.interrupted (.rollback r), t) := by
  rw [h]
  exact nofun

/-- A panic of the work of a frame is a fault of the frame, and what it left on the
stack is dropped. -/
theorem Frame.Begun.fails_of_panicked (hcatch : setup.config.catchPanics = true)
    (h : f.Begun setup pass) (hended : f.ended setup pass = .ok (.panicked payload, u)) :
    f.Fails setup pass (.ofPanic payload) (u.restack f.stack) := by
  have hs := runVisit_restores setup (scan_restores setup pass f.limit) (f.work pass) f.began
  have hrun := hended
  unfold Frame.ended Frame.below at hrun
  rw [hrun, h.stack_eq] at hs
  have hcut : (u.scanner.cutTo f.stack.depth).stack = f.stack := catchPanic_restores hs
  refine ⟨h, ?_⟩
  rw [hended, Frame.guard, hcatch]
  show Except.ok (_, u.restack (u.scanner.cutTo f.stack.depth).stack) = _
  rw [hcut]

/-- The fault that has come to a frame is a fault of that frame. -/
theorem Climbs.fails_outermost (hcatch : setup.config.catchPanics = true)
    (h : Live setup pass (f :: frames)) (hc : Climbs setup pass (f :: frames) fault u) :
    f.Fails setup pass fault u := by
  induction frames generalizing f fault u with
  | nil =>
      cases hc with
      | fails hf => exact hf
  | cons g frames ih =>
      cases hc with
      | climbs hin hgives =>
          have hg := ih (h.inner_of_cons) hin
          exact h.begun.fails_of_panicked hcatch (h.ended_of_panic (hg.scan_of_given_up hgives))

theorem scan_panics_iff {limit : Nat} {n : Node} (hcatch : setup.config.catchPanics = true) :
    scan setup pass limit n s = .ok (.panic payload, t) ↔
      ∃ (f : Frame σ κ η) (fault : Fault) (u : ScanState σ η),
        f.node = n ∧ f.asked = s ∧ f.limit + 1 = limit ∧ f.Fails setup pass fault u ∧
        setup.GivesUp u.scanner n fault payload ∧
        t = u.on (internalError setup n fault u.scanner).2 := by
  constructor
  · intro h
    cases limit with
    | zero => cases h
    | succ limit =>
        obtain ⟨f, rfl, rfl, rfl, hb, hfinish⟩ := exists_frame_finish setup pass limit n s
        rw [hfinish] at h
        rcases Frame.finish_panics h with ⟨fault, u, hguard, hgives, rfl⟩ | ⟨hoff, _⟩
        · exact ⟨f, fault, u, rfl, rfl, rfl, ⟨hb, hguard⟩, hgives, rfl⟩
        · rw [hcatch] at hoff
          cases hoff
  · rintro ⟨f, fault, u, rfl, rfl, rfl, hf, hgives, rfl⟩
    exact hf.scan_of_given_up hgives

/-! ## Panics that are not caught -/

/-- A panic is raised at a frame: by the work of the frame itself, by a report that it
makes, or by the report of its fault. -/
inductive Raises (setup : Setup η) (pass : Pass σ κ) (f : Frame σ κ η) (payload : Payload) :
    ScanState σ η → Prop where
  | panic {given : List (Rollback κ)} {t : ScanState σ η} :
      Reaches setup (f.below setup pass) (f.work pass) f.began given (.panic payload) t →
      Raises setup pass f payload t
  | report {given : List (Rollback κ)} {n : Node} {name : Option String} {problem : Problem}
      {params : List String} {next : Unit → Visit σ κ Unit} {t : ScanState σ η} :
      Reaches setup (f.below setup pass) (f.work pass) f.began given
        (.request (.report n name problem params) next) t →
      (t.scanner.report setup n name problem params).1 = some payload →
      Raises setup pass f payload (t.on (t.scanner.report setup n name problem params).2)
  | fault {fault : Fault} {u : ScanState σ η} :
      f.Fails setup pass fault u →
      setup.GivesUp u.scanner f.node fault payload →
      Raises setup pass f payload (u.on (internalError setup f.node fault u.scanner).2)

theorem Frame.Begun.scan_of_panicked (hoff : setup.config.catchPanics = false)
    (h : f.Begun setup pass) (hended : f.ended setup pass = .ok (.panicked payload, u)) :
    f.scan setup pass = .ok (.panic payload, u) := by
  rw [h.scan_eq_finish (not_rollback_of_panicked hended), hended, Frame.finish, Frame.guard, hoff]
  rfl

namespace Raises

/-- Whatever raises a panic leaves the stack alone. -/
theorem stack_eq (hb : f.Begun setup pass) (h : Raises setup pass f payload u) :
    u.scanner.stack = f.stack := by
  cases h with
  | panic hw => exact hb.stack_of_reaches hw
  | report hw _ => exact (Scanner.report_stack ..).trans (hb.stack_of_reaches hw)
  | fault hf _ => exact (internalError_stack ..).trans hf.stack_eq

theorem scan_eq (hoff : setup.config.catchPanics = false) (hb : f.Begun setup pass)
    (h : Raises setup pass f payload u) : f.scan setup pass = .ok (.panic payload, u) := by
  cases h with
  | panic hw => exact hb.scan_of_panicked hoff hw.runVisit_eq
  | report hw hgives =>
      refine hb.scan_of_panicked hoff ?_
      rw [Frame.ended, hw.runVisit_eq, runVisit_request, answer_report, hgives]
      rfl
  | fault hf hgives => exact hf.scan_of_given_up hgives

end Raises

/-- A panic leaves the scans of all live frames. -/
theorem Live.scan_of_raised {e : Frame σ κ η} (hoff : setup.config.catchPanics = false)
    (h : Live setup pass (f :: frames)) (he : (f :: frames).getLast? = some e)
    (hraises : Raises setup pass e payload u) :
    f.scan setup pass = .ok (.panic payload, u) := by
  induction frames generalizing f with
  | nil =>
      cases he
      exact hraises.scan_eq hoff h.begun
  | cons g frames ih =>
      have hg := ih (h.inner_of_cons) (by simpa using he)
      exact h.begun.scan_of_panicked hoff (h.ended_of_panic hg)

/-- Work that ends with a panic has raised it, or a scan that it asked for has. -/
theorem raised_or_scan_panicked (v : Visit σ κ α)
    (h : runVisit setup nested v s = .ok (.panicked payload, u)) :
    (∃ given, Reaches setup nested v s given (.panic payload) u) ∨
    (∃ given n name problem params next t,
      Reaches setup nested v s given (.request (.report n name problem params) next) t ∧
      (t.scanner.report setup n name problem params).1 = some payload ∧
      u = t.on (t.scanner.report setup n name problem params).2) ∨
    ∃ given n q next t, Asks n q ∧ Reaches setup nested v s given (.request q next) t ∧
      nested n t = .ok (.panic payload, u) := by
  induction v generalizing s with
  | done result => cases h
  | interrupt cause => cases h
  | panic p =>
      cases h
      exact .inl ⟨[], .start⟩
  | request q next ih =>
      rw [runVisit_request] at h
      split at h
      · cases h
      · next a t ha =>
          rcases ih a h with ⟨given, hw⟩ | ⟨given, n, name, problem, params, next', t', hw, hr⟩ |
            ⟨given, n, q', next', t', hq, hw, hn⟩
          · exact .inl ⟨_, hw.request ha⟩
          · exact .inr (.inl ⟨_, n, name, problem, params, next', t', hw.request ha, hr⟩)
          · exact .inr (.inr ⟨_, n, q', next', t', hq, hw.request ha, hn⟩)
      · next p t ha =>
          cases h
          rcases report_or_asks ha with ⟨n, name, problem, params, rfl⟩ | ⟨n, hq, hn⟩
          · refine .inr (.inl ⟨[], n, name, problem, params, next, s, .start, ?_⟩)
            rw [answer_report] at ha
            cases hp : (s.scanner.report setup n name problem params).1 with
            | none =>
                rw [hp] at ha
                cases ha
            | some p' =>
                rw [hp] at ha
                cases ha
                exact ⟨rfl, rfl⟩
          · exact .inr (.inr ⟨[], n, q, next, s, hq, .start, hn⟩)

/-- A scan that a panic leaves has live frames of which the innermost raised it. -/
theorem exists_live_of_panic {limit : Nat} {n : Node}
    (h : scan setup pass limit n s = .ok (.panic payload, u)) :
    ∃ f frames e, f.node = n ∧ f.asked = s ∧ f.limit + 1 = limit ∧ Live setup pass (f :: frames) ∧
      (f :: frames).getLast? = some e ∧ Raises setup pass e payload u := by
  induction limit generalizing n s with
  | zero => cases h
  | succ limit ih =>
      obtain ⟨f, hn, hs, hlimit, hb, hfinish⟩ := exists_frame_finish setup pass limit n s
      rw [hfinish] at h
      rcases Frame.finish_panics h with ⟨fault, t, hguard, hgives, rfl⟩ | ⟨_, hended⟩
      · have hraises : Raises setup pass f payload _ := .fault ⟨hb, hguard⟩ hgives
        exact ⟨f, [], f, hn, hs, by rw [hlimit], .innermost hb, rfl, hraises⟩
      · rcases raised_or_scan_panicked (f.work pass) hended with
          ⟨given, hw⟩ | ⟨given, m, name, problem, params, next, t, hw, hp, rfl⟩ |
            ⟨given, m, q, next, t, hq, hw, hm⟩
        · exact ⟨f, [], f, hn, hs, by rw [hlimit], .innermost hb, rfl, .panic hw⟩
        · exact ⟨f, [], f, hn, hs, by rw [hlimit], .innermost hb, rfl, .report hw hp⟩
        · rw [Frame.below, hlimit] at hm
          obtain ⟨g, frames, e, hgn, hgs, hglimit, hlive, he, hraises⟩ := ih hm
          subst hgn hgs
          refine ⟨f, g :: frames, e, hn, hs, by rw [hlimit], ?_, by simpa using he, hraises⟩
          exact .around hb (hlimit.trans hglimit.symm) hw hq hlive

/-! ## Which panics leave, and what they leave behind -/

/-- With panics caught, a panic leaves a scan if and only if the handler gives up on
the internal error of the node itself, and what it leaves on the stack is the node on
top of the old stack.  The frame that waits for the scan then fails with that panic
as its fault, on the stack that ends with its own node, and so on outwards: after
each report that is given up on the fault has come one frame further.  A report that
is taken ends this.

With panics not caught, a panic leaves the scans of all frames that are live when it
is raised, with their nodes on top of the old stack, and every panic that leaves a
scan was raised in such frames. -/
theorem panics_climb_frames (setup : Setup η) (pass : Pass σ κ) :
    (setup.config.catchPanics = true →
      (∀ limit n s payload after, scan setup pass limit n s = .ok (.panic payload, after) ↔
        ∃ (f : Frame σ κ η) (fault : Fault) (u : ScanState σ η),
          f.node = n ∧ f.asked = s ∧ f.limit + 1 = limit ∧ f.Fails setup pass fault u ∧
          setup.GivesUp u.scanner n fault payload ∧
          after = u.on (internalError setup n fault u.scanner).2) ∧
      (∀ limit n s payload after, scan setup pass limit n s = .ok (.panic payload, after) →
        after.scanner.stack = n :: s.scanner.stack) ∧
      (∀ (f : Frame σ κ η) given n (q : Request σ κ) (next : q.Answer → Visit σ κ Unit) t payload u,
        f.Begun setup pass →
        Reaches setup (f.below setup pass) (f.work pass) f.began given (.request q next) t →
        Asks n q → scan setup pass f.limit n t = .ok (.panic payload, u) →
        f.Fails setup pass (.ofPanic payload) (u.restack f.stack)) ∧
      (∀ (f : Frame σ κ η) frames fault u, Live setup pass (f :: frames) →
        Climbs setup pass (f :: frames) fault u →
        f.Fails setup pass fault u ∧
        (∀ payload, setup.GivesUp u.scanner f.node fault payload →
          ∃ after, f.scan setup pass = .ok (.panic payload, after) ∧
            after.scanner.stack = f.stack) ∧
        ((∀ payload, ¬ setup.GivesUp u.scanner f.node fault payload) →
          ∃ after, f.scan setup pass = .ok (.answer none, after) ∧
            after.scanner.stack = f.asked.scanner.stack))) ∧
    (setup.config.catchPanics = false →
      (∀ (f : Frame σ κ η) frames e payload after, Live setup pass (f :: frames) →
        (f :: frames).getLast? = some e → Raises setup pass e payload after →
        after.scanner.stack =
          ((f :: frames).map Frame.node).reverse ++ f.asked.scanner.stack ∧
        ∀ outer g inner, f :: frames = outer ++ g :: inner →
          g.scan setup pass = .ok (.panic payload, after)) ∧
      (∀ limit n s payload after, scan setup pass limit n s = .ok (.panic payload, after) →
        ∃ (f : Frame σ κ η) (frames : List (Frame σ κ η)) (e : Frame σ κ η),
          f.node = n ∧ f.asked = s ∧ f.limit + 1 = limit ∧ Live setup pass (f :: frames) ∧
          (f :: frames).getLast? = some e ∧ Raises setup pass e payload after ∧
          after.scanner.stack =
            ((f :: frames).map Frame.node).reverse ++ s.scanner.stack)) := by
  refine ⟨fun hcatch => ⟨?_, ?_, ?_, ?_⟩, fun hoff => ⟨?_, ?_⟩⟩
  · intro limit n s payload after
    exact scan_panics_iff hcatch
  · intro limit n s payload after h
    obtain ⟨f, fault, u, rfl, rfl, _, hf, _, rfl⟩ := (scan_panics_iff hcatch).1 h
    exact (internalError_stack ..).trans hf.stack_eq
  · intro f given n q next t payload u hb hw hq hn
    exact hb.fails_of_panicked hcatch (ended_of_panic hw hq hn)
  · intro f frames fault u h hc
    have hf := hc.fails_outermost hcatch h
    refine ⟨hf, fun payload hgives => ?_, fun htaken => ?_⟩
    · exact ⟨_, hf.scan_of_given_up hgives, (internalError_stack ..).trans hf.stack_eq⟩
    · exact ⟨_, hf.scan_of_taken htaken, rfl⟩
  · intro f frames e payload after h he hraises
    refine ⟨(hraises.stack_eq (h.begun_of_getLast he)).trans (h.stack_eq he), ?_⟩
    intro outer g inner hframes
    rw [hframes] at h he
    rw [List.getLast?_append, List.getLast?_cons, Option.some_or, ← List.getLast?_cons] at he
    exact h.inner.scan_of_raised hoff he hraises
  · intro limit n s payload after h
    obtain ⟨f, frames, e, hn, hs, hlimit, hlive, he, hraises⟩ := exists_live_of_panic h
    refine ⟨f, frames, e, hn, hs, hlimit, hlive, he, hraises, ?_⟩
    rw [← hs]
    exact (hraises.stack_eq (hlive.begun_of_getLast he)).trans (hlive.stack_eq he)

/-- Gives up on its first reports. -/
def givingUp (times : Nat) : Handler Nat := fun _ _ count =>
  ⟨count + 1, [], if count < times then some (.text "no more") else none⟩

/-- Goes from tree to tree and panics in the third. -/
def panicInThird : Pass Unit Unit where
  visit n := if n.place.tree < 2 then Visit.scan (bareBlock (n.place.tree + 1)) else .panic .other
  resume _ _ := .done ()

/-- The frame of a tree in which nothing has been reported yet. -/
def treeFrame {η : Type} (reports : η) (tree limit : Nat) (stack : Stack) : Frame Unit Unit η :=
  let asked : ScanState Unit η := ⟨(), { Scanner.idle (.empty []) reports with stack := stack }⟩
  ⟨bareBlock tree, asked, limit, .visiting, asked.on (asked.scanner.enter (bareBlock tree)),
    Visit.forward⟩

/-- The frames of three trees, on a stack that holds a fourth. -/
def treeFrames {η : Type} (reports : η) : List (Frame Unit Unit η) :=
  [treeFrame reports 0 2 [bareBlock 7],
    treeFrame reports 1 1 [bareBlock 0, bareBlock 7],
    treeFrame reports 2 0 [bareBlock 1, bareBlock 0, bareBlock 7]]

theorem treeFrames_live {η : Type} (setup : Setup η) (reports : η) :
    Live setup panicInThird (treeFrames reports) :=
  .around rfl rfl .start rfl (.around rfl rfl .start rfl (.innermost rfl))

/-- A handler that gives up twice lets the panic of the third tree come to the first.
Where panics are not caught, it leaves all three on the stack. -/
theorem panicInThird_climbs :
    (∃ after, scan { config := {}, handler := some (givingUp 2) } panicInThird 3 (bareBlock 0)
        (treeFrame 0 0 2 [bareBlock 7]).asked = .ok (.answer none, after) ∧
      after.scanner.stack = [bareBlock 7]) ∧
    (∃ after, scan { config := {}, handler := some (givingUp 2) } panicInThird 2 (bareBlock 1)
        (treeFrame 0 1 1 [bareBlock 0, bareBlock 7]).asked =
          .ok (.panic (.text "no more"), after) ∧
      after.scanner.stack = [bareBlock 1, bareBlock 0, bareBlock 7]) ∧
    (∃ after, scan { config := { catchPanics := false }, handler := some (givingUp 2) }
        panicInThird 3 (bareBlock 0) (treeFrame 0 0 2 [bareBlock 7]).asked =
          .ok (.panic .other, after) ∧
      after.scanner.stack = [bareBlock 2, bareBlock 1, bareBlock 0, bareBlock 7]) := by
  let setup : Setup Nat := { config := {}, handler := some (givingUp 2) }
  obtain ⟨hon, _⟩ := panics_climb_frames setup panicInThird
  obtain ⟨_, _, _, hclimbs⟩ := hon rfl
  have hlive := treeFrames_live setup 0
  have hfails : (treeFrame 0 2 0 [bareBlock 1, bareBlock 0, bareBlock 7]).Fails setup panicInThird
      (.ofPanic .other) _ := ⟨rfl, rfl⟩
  have hthird := Climbs.fails hfails
  have hsecond : Climbs setup panicInThird (treeFrames 0).tail (.ofPanic (.text "no more")) _ :=
    hthird.climbs ⟨_, rfl, rfl⟩
  have hfirst : Climbs setup panicInThird (treeFrames 0) (.ofPanic (.text "no more")) _ :=
    hsecond.climbs ⟨_, rfl, rfl⟩
  refine ⟨?_, ?_, ?_⟩
  · refine (hclimbs _ _ _ _ hlive hfirst).2.2 fun payload hgives => ?_
    obtain ⟨handler, hh, hp⟩ := hgives
    cases hh
    cases hp
  · exact (hclimbs _ _ _ _ (hlive.inner_of_cons) hsecond).2.1 _ ⟨_, rfl, rfl⟩
  · obtain ⟨_, hoff⟩ := panics_climb_frames
      { config := { catchPanics := false }, handler := some (givingUp 2) } panicInThird
    obtain ⟨hstack, hscan⟩ := (hoff rfl).1 _ _ _ .other _ (treeFrames_live _ 0) rfl (.panic .start)
    exact ⟨_, hscan [] _ _ rfl, hstack⟩

end Engine

end TreeScan

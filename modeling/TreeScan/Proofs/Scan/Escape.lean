import TreeScan.Proofs.Scan.Unwinding

/-!
# Rollbacks that nothing catches

A rollback that no frame of a scan catches leaves the scan.  A scan of its own
then answers with the error of the rollback, and it answers with an error in no
other case: the rollback was raised in the innermost of its frames, and each
frame forwarded it.

Only the frames of that scan count.  A node that is on the stack below it, or
whose landing has begun, catches nothing.
-/

namespace TreeScan.Engine

variable {σ κ η : Type}

variable {setup : Setup η} {pass : Pass σ κ} {f g : Frame σ κ η} {frames : List (Frame σ κ η)}
  {given : List (Rollback κ)} {v : Visit σ κ Unit} {r : Rollback κ} {t u : ScanState σ η}

/-- The state after a scan of its own that a rollback has left, if the rollback
came out of the work of the outermost frame in the state `u`. -/
def Frame.escaped (f : Frame σ κ η) (r : Rollback κ) (u : ScanState σ η) : ScanState σ η :=
  (u.restack f.asked.scanner.stack).on
    ((u.restack f.asked.scanner.stack).scanner.note [Engine.escaped r])

/-- A rollback that no frame catches leaves the scan of the outermost frame. -/
theorem Underway.scan_of_forwarded (h : Underway setup pass (f :: frames) given (.rollback r) t)
    (huncaught : ∀ e ∈ f :: frames, ¬ e.Catches r)
    (hforwarded : Forwarded setup pass r (f :: frames) t u) :
    f.scan setup pass = .ok (.answer (some r), u.restack f.asked.scanner.stack) := by
  have hinner : ∀ e ∈ frames, ¬ e.Catches r :=
    fun e he => huncaught e (List.mem_cons_of_mem f he)
  exact h.begun.scan_of_uncaught (h.ended_of_forwarded hinner hforwarded)
    (huncaught f List.mem_cons_self)

/-- A scan of its own that a rollback leaves answers with the error of it. -/
theorem Frame.scanRoot_of_scan
    (h : f.scan setup pass = .ok (.answer (some r), u.restack f.asked.scanner.stack)) :
    answer setup (Engine.scan setup pass (f.limit + 1)) (.scanRoot f.node) f.asked =
      .ok (.answer (some (.ofRollback r)), f.escaped r u) := by
  rw [answer_scanRoot]
  unfold Frame.scan at h
  rw [h]
  rfl

/-- A guarded visit ends with a rollback only if the visit does. -/
theorem runVisit_of_guarded {nested : Scan σ κ η} {v : Visit σ κ Unit} {s : ScanState σ η}
    (h : guarded setup nested v s = .ok (.interrupted (.rollback r), u)) :
    runVisit setup nested v s = .ok (.interrupted (.rollback r), u) := by
  unfold guarded at h
  cases hv : runVisit setup nested v s with
  | error halt =>
      rw [hv] at h
      cases h
  | ok ended =>
      obtain ⟨outcome, t⟩ := ended
      rw [hv] at h
      cases outcome with
      | completed result =>
          simp only [catchPanic, ite_self] at h
          cases h
      | interrupted cause =>
          simp only [catchPanic, ite_self] at h
          exact h
      | panicked payload =>
          simp only [catchPanic] at h
          split at h <;> cases h

/-- Only a node that is left answers. -/
theorem reply_of_leave {n : Node} {reply : Reply (Option (Rollback κ))}
    {answered : Option (Rollback κ)} (h : leave n t reply = .ok (.answer answered, u)) :
    reply = .answer answered := by
  cases reply with
  | answer a =>
      simp only [leave] at h
      split at h
      · cases h
      · cases h
        rfl
  | panic payload => cases h

/-- A scan answers with a rollback only if the work at the node ended with it. -/
theorem outcome_of_close {outcome : Outcome κ Unit} {s' : ScanState σ η}
    (h : f.close setup (.ok (outcome, u)) = .ok (.answer (some r), s')) :
    outcome = .interrupted (.rollback r) := by
  have hreply := reply_of_leave h
  cases outcome with
  | completed result => cases hreply
  | interrupted cause =>
      cases cause with
      | rollback r' =>
          cases hreply
          rfl
      | fault fault =>
          rw [settle_fault] at hreply
          cases hi : (internalError setup f.node fault u.scanner).1 with
          | none =>
              rw [hi] at hreply
              cases hreply
          | some payload =>
              rw [hi] at hreply
              cases hreply
  | panicked payload => cases hreply

/-- A scan that a rollback leaves has a frame whose work ended with the rollback,
and which did not catch it. -/
theorem exists_frame_of_scan {limit : Nat} {n : Node} {s s' : ScanState σ η}
    (h : scan setup pass (limit + 1) n s = .ok (.answer (some r), s')) :
    ∃ (f : Frame σ κ η) (u : ScanState σ η), f.node = n ∧ f.asked = s ∧ f.limit = limit ∧
      f.Begun setup pass ∧ ¬ f.Catches r ∧
      f.ended setup pass = .ok (.interrupted (.rollback r), u) := by
  let f : Frame σ κ η := ⟨n, s, limit, .visiting, s.on (s.scanner.enter n), Visit.forward⟩
  have hclose : f.close setup (visit setup pass (f.below setup pass) n f.entered) =
      .ok (.answer (some r), s') := by
    rw [← Frame.scan_eq_close f]
    exact h
  cases hv : visit setup pass (f.below setup pass) n f.entered with
  | error halt =>
      rw [hv] at hclose
      cases hclose
  | ok ended =>
      obtain ⟨outcome, u⟩ := ended
      rw [hv] at hclose
      have houtcome := outcome_of_close hclose
      subst houtcome
      unfold visit at hv
      split at hv
      · cases hv
      · next r' t hg =>
          split at hv
          · next hsame =>
              let f' : Frame σ κ η :=
                { f with phase := .landing r'.callback, began := f.landed t }
              have hb : f'.Begun setup pass := ⟨r', t, runVisit_of_guarded hg, hsame, rfl, rfl⟩
              exact ⟨f', u, rfl, rfl, rfl, hb, fun hc => hc, runVisit_of_guarded hv⟩
          · next hother =>
              cases hv
              exact ⟨f, u, rfl, rfl, rfl, rfl, hother, runVisit_of_guarded hg⟩
      · next outcome t hno hg =>
          cases hv
          exact absurd rfl (hno r)

/-- A scan that a rollback leaves has a chain of frames of which the innermost
raised the rollback, all forwarded it and none caught it. -/
theorem exists_frames_of_scan {limit : Nat} {n : Node} {s s' : ScanState σ η}
    (h : scan setup pass limit n s = .ok (.answer (some r), s')) :
    ∃ f frames given t u, f.node = n ∧ f.asked = s ∧ f.limit + 1 = limit ∧
      Underway setup pass (f :: frames) given (.rollback r) t ∧ r ∉ given ∧
      (∀ e ∈ f :: frames, ¬ e.Catches r) ∧ Forwarded setup pass r (f :: frames) t u := by
  induction limit generalizing n s s' with
  | zero => cases h
  | succ limit ih =>
      obtain ⟨f, u, hn, hs, hlimit, hb, hc, hended⟩ := exists_frame_of_scan h
      -- Either the work of this frame raised the rollback, or a scan that it asked for
      -- was left by it, and that scan has such frames already.
      rcases raised_or_passed_on (f.work pass) hended with
        ⟨given, hr, hw⟩ | ⟨given, m, next, t₁, t₂, hw, hm, hnext⟩
      · refine ⟨f, [], given, u, u, hn, hs, by rw [hlimit], .innermost hb hw, hr, ?_, .here⟩
        intro e he
        rw [List.mem_singleton.1 he]
        exact hc
      · rw [Frame.below, hlimit] at hm
        obtain ⟨g, frames, given', t, u', hgn, hgs, hglimit, hin, hr, hin_uncaught, hforwarded⟩ :=
          ih hm
        have hg := hin.scan_of_forwarded hin_uncaught hforwarded
        have hg' : g.scan setup pass = .ok (.answer (some r), t₂) := by
          unfold Frame.scan
          rw [hgn, hgs, hglimit]
          exact hm
        have ht₂ : u'.restack g.asked.scanner.stack = t₂ := by
          rw [hg] at hg'
          cases hg'
          rfl
        let f' : Frame σ κ η := { f with rest := next }
        have hw' : Reaches setup (f'.below setup pass) (f'.work pass) f'.began given
            (.request (.scan (some g.node)) f'.rest) g.asked := by
          rw [hgn, hgs]
          exact hw
        refine ⟨f', g :: frames, given', t, u, hn, hs, by rw [← hlimit], ?_, hr, ?_, ?_⟩
        · exact .around hb (hlimit.trans hglimit.symm) hw' hin
        · intro e he
          rcases List.mem_cons.1 he with rfl | he
          · exact hc
          · exact hin_uncaught e he
        · refine .outwards hforwarded ?_
          rw [ht₂]
          exact hnext

/-- A scan of its own answers with an error if and only if a rollback leaves its
frames that none of them catches: the rollback was raised in the innermost frame
and each frame forwarded it.  The error is that of the rollback.  If the frames
forward it at once, nothing has changed in the end but the stack, on which no
frame is left, and the log. -/
theorem scanRoot_error_iff_uncaught (setup : Setup η) (pass : Pass σ κ) :
    (∀ f frames given r t u, Underway setup pass (f :: frames) given (.rollback r) t →
      (∀ e ∈ f :: frames, ¬ e.Catches r) → Forwarded setup pass r (f :: frames) t u →
      answer setup (scan setup pass (f.limit + 1)) (.scanRoot f.node) f.asked =
        .ok (.answer (some ⟨r.target.kind, r.target.span⟩), f.escaped r u)) ∧
    (∀ f frames given r t, Underway setup pass (f :: frames) given (.rollback r) t →
      (∀ e ∈ f :: frames, ¬ e.Catches r) →
      (∀ e ∈ (f :: frames).dropLast, e.rest (some r) = .rollback r) →
      answer setup (scan setup pass (f.limit + 1)) (.scanRoot f.node) f.asked =
        .ok (.answer (some ⟨r.target.kind, r.target.span⟩), f.escaped r t)) ∧
    (∀ limit n s error s',
      answer setup (scan setup pass limit) (.scanRoot n) s = .ok (.answer (some error), s') →
      ∃ f frames given r t u, f.node = n ∧ f.asked = s ∧ f.limit + 1 = limit ∧
        Underway setup pass (f :: frames) given (.rollback r) t ∧ r ∉ given ∧
        (∀ e ∈ f :: frames, ¬ e.Catches r) ∧ Forwarded setup pass r (f :: frames) t u ∧
        error = ⟨r.target.kind, r.target.span⟩ ∧ s' = f.escaped r u) := by
  refine ⟨?_, ?_, ?_⟩
  · intro f frames given r t u h huncaught hforwarded
    exact Frame.scanRoot_of_scan (h.scan_of_forwarded huncaught hforwarded)
  · intro f frames given r t h huncaught hrest
    have hroot := Frame.scanRoot_of_scan
      (h.scan_of_forwarded huncaught (h.forwarded_at_once hrest))
    exact hroot
  · intro limit n s error s' h
    rw [answer_scanRoot] at h
    cases hscan : scan setup pass limit n s with
    | error halt =>
        rw [hscan] at h
        cases h
    | ok ended =>
        obtain ⟨reply, t'⟩ := ended
        rw [hscan] at h
        cases reply with
        | panic payload => cases h
        | answer a =>
            cases a with
            | none => cases h
            | some r =>
                obtain ⟨f, frames, given, t, u, hn, hs, hlimit, hframes, hr, hc, hf⟩ :=
                  exists_frames_of_scan hscan
                have hroot := Frame.scanRoot_of_scan (hframes.scan_of_forwarded hc hf)
                rw [hn, hs, hlimit, answer_scanRoot, hscan] at hroot
                refine ⟨f, frames, given, r, t, u, hn, hs, hlimit, hframes, hr, hc, hf, ?_⟩
                have heq := h.symm.trans hroot
                simp only [Except.ok.injEq, Prod.mk.injEq, Reply.answer.injEq,
                  Option.some.injEq] at heq
                exact heq

/-- A descent that rolls back to a node below its own scan on the stack, and not
within the scan, is an error of the scan. -/
theorem descent_escapes :
    (∀ e ∈ descentFrames (bareBlock 0) [bareBlock 1] [bareBlock 2],
      ¬ e.Catches ⟨bareBlock 2, some ()⟩) ∧
    answer plainSetup (scan plainSetup (descent ⟨bareBlock 2, some ()⟩) 2) (.scanRoot (bareBlock 0))
        (descentState [bareBlock 1] [bareBlock 2]) =
      .ok (.answer (some ⟨.block, ⟨0, 0⟩⟩),
        (descentFrame (bareBlock 0) [bareBlock 1] [bareBlock 2]).escaped ⟨bareBlock 2, some ()⟩
          (descentState [] [bareBlock 1, bareBlock 0, bareBlock 2])) ∧
    ∃ f frames given r t u, f.node = bareBlock 0 ∧
      f.asked = descentState [bareBlock 1] [bareBlock 2] ∧
      Underway plainSetup (descent ⟨bareBlock 2, some ()⟩) (f :: frames) given (.rollback r) t ∧
      r ∉ given ∧
      Forwarded plainSetup (descent ⟨bareBlock 2, some ()⟩) r (f :: frames) t u := by
  have h := descent_underway plainSetup ⟨bareBlock 2, some ()⟩ (bareBlock 0) [bareBlock 1]
    [bareBlock 2]
  have huncaught : ∀ e ∈ descentFrames (bareBlock 0) [bareBlock 1] [bareBlock 2],
      ¬ e.Catches ⟨bareBlock 2, some ()⟩ := by
    intro e he
    simp only [descentFrames, List.mem_cons, List.not_mem_nil, or_false] at he
    rcases he with rfl | rfl
    · exact Bool.false_ne_true
    · exact Bool.false_ne_true
  obtain ⟨_, hatonce, honly⟩ :=
    scanRoot_error_iff_uncaught plainSetup (descent ⟨bareBlock 2, some ()⟩)
  have hroot := hatonce _ _ _ _ _ h huncaught fun e he => by
    have hmem : e ∈ descentFrames (bareBlock 0) [bareBlock 1] [bareBlock 2] :=
      List.dropLast_subset _ he
    rw [rest_of_mem_descentFrames hmem]
    rfl
  obtain ⟨f, frames, given, r, t, u, hn, hs, _, hframes, hr, _, hf, _⟩ := honly _ _ _ _ _ hroot
  exact ⟨huncaught, hroot, f, frames, given, r, t, u, hn, hs, hframes, hr, hf⟩

end TreeScan.Engine

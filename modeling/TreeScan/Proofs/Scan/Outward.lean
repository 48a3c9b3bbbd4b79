import Mathlib.Data.List.Chain
import Mathlib.Data.List.Induction
import TreeScan.Proofs.Scan.Changes
import TreeScan.Proofs.Scan.Escape
import TreeScan.Proofs.Scan.Landing
import TreeScan.Proofs.Scan.Panics

/-!
# Landings go outwards

The callback of a rollback may end with a rollback itself, raised by it or passed on
from a scan that it asked for.  Such a rollback does not land where the first one has
landed, not even if that node is its target: it is the answer of the frame's scan.  It
travels on through the frames around, and lands at the innermost of them that is still
visiting the target, or leaves the outermost scan (`Outward`).  Only a frame around that
is answered the rollback and does not forward it can put an end to it before that
(`Underway.outward_or_dropped`).

So a chain of landings of which each ends with the rollback of the next climbs
(`Relands.depth_lt`), and it has no more landings than the first is deep.  That a frame
is not landed at twice is not read off `Frame.Catches`, which says so by definition.  A
landing is noted in the log, and the log never gets shorter: a second landing at the
frame would have to begin in the very state in which the first began
(`Frame.Begun.not_caught_again`).
-/

namespace TreeScan

variable {σ κ η α : Type}

/-! ## The log -/

/-- What is in the log stays there. -/
theorem Engine.kept_log (setup : Setup η) (events : List LogEvent) :
    Engine.Kept setup fun _ s => events <+: s.log where
  restack _ h := h
  note more h := h.trans (List.prefix_append _ more)
  report n name problem params h := by
    unfold Scanner.report
    cases setup.handler with
    | none => exact h
    | some handler => exact h.trans (List.prefix_append _ _)
  lines := by
    intro _ s h
    unfold Scanner.lines
    cases s.unit with
    | none => exact h
    | some unit => exact h.trans (List.prefix_append _ _)
  change c h := by
    cases c with
    | activate unit =>
        cases unit with
        | none => exact h
        | some unit => exact h.trans (List.prefix_append _ _)
    | editFiles edit => exact h

namespace Engine

variable {setup : Setup η} {pass : Pass σ κ} {f g : Frame σ κ η} {given : List (Rollback κ)}
  {v : Visit σ κ Unit} {r : Rollback κ} {s t u : ScanState σ η}

/-- A visit only adds to the log. -/
theorem log_prefix_of_runVisit {limit : Nat} {outcome : Outcome κ α} {v : Visit σ κ α}
    (h : runVisit setup (scan setup pass limit) v s = .ok (outcome, t)) :
    s.scanner.log <+: t.scanner.log := by
  have hkept := kept_log setup s.scanner.log
  have hrun : Keeps (fun _ (s' : Scanner η) => s.scanner.log <+: s'.log)
      ([] ++ changedInVisit setup (scan setup pass limit) (changes setup pass limit) v s)
      (runVisit setup (scan setup pass limit) v s) :=
    runVisit_keeps hkept (scan_keeps hkept pass limit) v List.prefix_rfl
  rw [h] at hrun
  exact hrun

/-! ## A frame that a rollback has landed at -/

namespace Frame

/-- The frame after a rollback has landed at it that came out of its work in the state
`u`. -/
def caught (f : Frame σ κ η) (r : Rollback κ) (u : ScanState σ η) : Frame σ κ η :=
  { f with phase := .landing r.callback, began := f.landed u }

@[simp] theorem caught_stack (f : Frame σ κ η) (r : Rollback κ) (u : ScanState σ η) :
    (f.caught r u).stack = f.stack := rfl

/-- A frame catches a rollback only while its node is visited. -/
theorem Catches.phase_eq (h : f.Catches r) : f.phase = .visiting := by
  unfold Frame.Catches at h
  split at h
  · assumption
  · cases h

theorem not_catches_of_landing {callback : Option κ} (h : f.phase = .landing callback) :
    ¬ f.Catches r := by
  intro hc
  rw [hc.phase_eq] at h
  cases h

/-- A landing begins at a frame that catches a rollback. -/
theorem Begun.caught (h : f.Begun setup pass) (hc : f.Catches r)
    (hw : f.ended setup pass = .ok (.interrupted (.rollback r), u)) :
    (f.caught r u).Begun setup pass := by
  have hp := hc.phase_eq
  have hr : r.target.same f.node = true := by
    simpa [Frame.Catches, hp] using hc
  have hb : f.began = f.entered := by
    simpa [Frame.Begun, hp] using h
  refine ⟨r, u, ?_, hr, rfl, rfl⟩
  rw [← hw, Frame.ended]
  unfold Frame.work
  rw [hp, hb]
  rfl

/-- No rollback lands at a frame twice. -/
theorem Begun.not_caught_again (h : f.Begun setup pass) {callback : Option κ}
    (hp : f.phase = .landing callback)
    (hw : f.ended setup pass = .ok (.interrupted (.rollback r), u)) :
    ¬ (f.caught r u).Begun setup pass := by
  intro hagain
  unfold Frame.Begun at h
  rw [hp] at h
  obtain ⟨r₀, t₀, hvisit, _, _, hbegan⟩ := h
  obtain ⟨r₁, t₁, hvisit', _, _, hbegan'⟩ := hagain
  -- There is one state in which the visit of the node ends, so there is one in which a
  -- landing begins.
  have hvisited : t₀ = t₁ := by
    have heq := hvisit.symm.trans hvisit'
    simp only [Except.ok.injEq, Prod.mk.injEq] at heq
    exact heq.2
  have hsame : f.landed u = f.began := by
    rw [hbegan, hvisited]
    exact hbegan'
  have hgrown : f.began.scanner.log <+: u.scanner.log := log_prefix_of_runVisit hw
  have hlength : (f.landed u).scanner.log.length ≤ u.scanner.log.length := by
    rw [hsame]
    exact hgrown.length_le
  have hlonger : u.scanner.log.length < (f.landed u).scanner.log.length := by
    simp [Frame.landed, Scanner.note]
  exact absurd hlength (Nat.not_le.2 hlonger)

end Frame

/-! ## How deep frames are -/

/-- Further inwards frames are deeper. -/
theorem Underway.depths {frames : List (Frame σ κ η)}
    (h : Underway setup pass frames given v t) :
    frames.Pairwise fun e d => e.stack.depth < d.stack.depth := by
  induction h with
  | innermost _ _ => exact List.pairwise_singleton _ _
  | @around f g frames given given' v t hb _ hw _ ih =>
      have hfg : f.stack.depth < g.stack.depth := by
        have hasked : g.asked.scanner.stack = f.stack := hb.stack_of_reaches hw
        show f.stack.length < g.asked.scanner.stack.length + 1
        rw [hasked]
        exact Nat.lt_succ_self _
      refine List.pairwise_cons.2 ⟨fun d hd => ?_, ih⟩
      rcases List.mem_cons.1 hd with rfl | hd
      · exact hfg
      · exact Nat.lt_trans hfg ((List.pairwise_cons.1 ih).1 d hd)

/-- The frames around some frame are less deep. -/
theorem Underway.depth_lt {outer inner : List (Frame σ κ η)}
    (h : Underway setup pass (outer ++ f :: inner) given v t) (hg : g ∈ inner) :
    f.stack.depth < g.stack.depth :=
  (List.pairwise_cons.1 (List.pairwise_append.1 h.depths).2.1).1 g hg

/-- When a rollback has landed at a frame, that frame is the innermost one, and its
landing begins. -/
theorem Underway.caught {outer inner : List (Frame σ κ η)}
    (h : Underway setup pass (outer ++ f :: inner) given v t) (hc : f.Catches r)
    (hw : f.ended setup pass = .ok (.interrupted (.rollback r), u)) :
    Underway setup pass (outer ++ [f.caught r u]) [] (pass.land r.callback f.node)
      (f.landed u) := by
  induction outer with
  | nil => exact .innermost (h.begun.caught hc hw) .start
  | cons e outer ih =>
      cases outer with
      | nil =>
          cases h with
          | around hb hlimit hreaches hin => exact .around hb hlimit hreaches (ih hin)
      | cons d outer =>
          cases h with
          | around hb hlimit hreaches hin => exact .around hb hlimit hreaches (ih hin)

/-! ## Where a rollback goes that ends a landing -/

/-- A frame that is answered a rollback in some state forwards it. -/
def Frame.Forwards (setup : Setup η) (pass : Pass σ κ) (f : Frame σ κ η) (r : Rollback κ)
    (s : ScanState σ η) : Prop :=
  ∃ u, runVisit setup (f.below setup pass) (f.rest (some r)) s =
    .ok (.interrupted (.rollback r), u)

/-- A rollback that left the work of the frame `f` in the state `t` goes outwards, through
frames that forward it. -/
inductive Outward (setup : Setup η) (pass : Pass σ κ) (outer : List (Frame σ κ η))
    (f : Frame σ κ η) (r : Rollback κ) (t : ScanState σ η) : Prop where
  /-- It lands at the innermost frame around `f` that catches it. -/
  | lands {around : List (Frame σ κ η)} {g : Frame σ κ η} {passed : List (Frame σ κ η)}
      {u : ScanState σ η} :
      outer = around ++ g :: passed →
      g.Catches r → (∀ e ∈ passed, ¬ e.Catches r) →
      g.stack.depth < f.stack.depth →
      Forwarded setup pass r (g :: passed ++ [f]) t u →
      Lands setup pass g r u →
      Underway setup pass (around ++ [g.caught r u]) [] (pass.land r.callback g.node)
        (g.landed u) →
      Outward setup pass outer f r t
  /-- No frame around `f` catches it, and it is the error of the outermost scan. -/
  | escapes {e : Frame σ κ η} {frames : List (Frame σ κ η)} {u : ScanState σ η} :
      outer ++ [f] = e :: frames →
      (∀ d ∈ outer, ¬ d.Catches r) →
      Forwarded setup pass r (e :: frames) t u →
      answer setup (scan setup pass (e.limit + 1)) (.scanRoot e.node) e.asked =
        .ok (.answer (some (.ofRollback r)), e.escaped r u) →
      Outward setup pass outer f r t

/-- A rollback comes out of the work of some of the frames, and is answered to the frame
`g` around them, which does not forward it. -/
def Dropped (setup : Setup η) (pass : Pass σ κ) (frames : List (Frame σ κ η)) (r : Rollback κ)
    (t : ScanState σ η) (g : Frame σ κ η) : Prop :=
  ∃ d passed u, g :: d :: passed <:+ frames ∧ (∀ e ∈ d :: passed, ¬ e.Catches r) ∧
    Forwarded setup pass r (d :: passed) t u ∧
    ¬ g.Forwards setup pass r (u.restack d.asked.scanner.stack)

/-- How far out a rollback comes that has come out of the work of the frame `d` already. -/
theorem Forwarded.goes_on (outer : List (Frame σ κ η)) {passed : List (Frame σ κ η)}
    {d : Frame σ κ η} (h : Forwarded setup pass r (d :: passed) t u)
    (hd : ∀ e ∈ d :: passed, ¬ e.Catches r) :
    (∃ around g between w, outer = around ++ g :: between ∧ g.Catches r ∧
      (∀ e ∈ between, ¬ e.Catches r) ∧
      Forwarded setup pass r (g :: between ++ d :: passed) t w) ∨
    ((∀ e ∈ outer, ¬ e.Catches r) ∧ ∃ w, Forwarded setup pass r (outer ++ d :: passed) t w) ∨
    ∃ g ∈ outer, Dropped setup pass (outer ++ d :: passed) r t g := by
  induction outer using List.reverseRecOn generalizing d passed u with
  | nil => exact .inr (.inl ⟨fun e he => absurd he List.not_mem_nil, u, h⟩)
  | append_singleton outer g ih =>
      rw [List.append_assoc]
      by_cases hg : g.Forwards setup pass r (u.restack d.asked.scanner.stack)
      · obtain ⟨w, hw⟩ := hg
        have hout : Forwarded setup pass r (g :: d :: passed) t w := .outwards h hw
        by_cases hc : g.Catches r
        · exact .inl ⟨outer, g, [], w, rfl, hc, fun e he => absurd he List.not_mem_nil, hout⟩
        · have hall : ∀ e ∈ g :: d :: passed, ¬ e.Catches r := List.forall_mem_cons.2 ⟨hc, hd⟩
          rcases ih hout hall with ⟨around, e, between, w', houter, he, hbetween, hf⟩ |
            ⟨hnone, w', hf⟩ | ⟨e, he, hdropped⟩
          · refine .inl ⟨around, e, between ++ [g], w', by simp [houter], he, ?_, by simpa using hf⟩
            exact List.forall_mem_append.2 ⟨hbetween, List.forall_mem_singleton.2 hc⟩
          · refine .inr (.inl ⟨?_, w', by simpa using hf⟩)
            exact List.forall_mem_append.2 ⟨hnone, List.forall_mem_singleton.2 hc⟩
          · exact .inr (.inr ⟨e, List.mem_append_left _ he, hdropped⟩)
      · have hmem : g ∈ outer ++ [g] := List.mem_append_right outer List.mem_cons_self
        have hsuffix : g :: d :: passed <:+ outer ++ (g :: d :: passed) :=
          List.suffix_append outer _
        exact .inr (.inr ⟨g, hmem, d, passed, u, hsuffix, hd, h, hg⟩)

/-- A rollback that ends a landing goes outwards, unless a frame around does not forward
it. -/
theorem Underway.outward_or_dropped {outer : List (Frame σ κ η)}
    (h : Underway setup pass (outer ++ [f]) given (.rollback r) t) {callback : Option κ}
    (hp : f.phase = .landing callback) :
    Outward setup pass outer f r t ∨ ∃ g ∈ outer, Dropped setup pass (outer ++ [f]) r t g := by
  have hf : ¬ f.Catches r := Frame.not_catches_of_landing hp
  rcases Forwarded.goes_on outer (Forwarded.here (f := f))
    (List.forall_mem_singleton.2 hf) with
    ⟨around, g, passed, u, rfl, hg, hpassed, hforwarded⟩ | ⟨hnone, u, hforwarded⟩ | hdropped
  · rw [List.append_assoc, List.cons_append] at h
    have hinner : ∀ e ∈ passed ++ [f], ¬ e.Catches r :=
      List.forall_mem_append.2 ⟨hpassed, List.forall_mem_singleton.2 hf⟩
    have hended := h.inner.ended_of_forwarded hinner hforwarded
    have hdepth : g.stack.depth < f.stack.depth :=
      h.depth_lt (List.mem_append_right passed List.mem_cons_self)
    exact .inl (.lands rfl hg hpassed hdepth hforwarded (h.inner.begun.lands hg hended)
      (h.caught hg hended))
  · have hall : ∀ e ∈ outer ++ [f], ¬ e.Catches r :=
      List.forall_mem_append.2 ⟨hnone, List.forall_mem_singleton.2 hf⟩
    cases hframes : outer ++ [f] with
    | nil => simp at hframes
    | cons e frames =>
        rw [hframes] at h hall hforwarded
        exact .inl (.escapes hframes hnone hforwarded
          (Frame.scanRoot_of_scan (h.scan_of_forwarded hall hforwarded)))
  · exact .inr hdropped

/-- A frame that forwards at once drops nothing. -/
theorem Dropped.rest_ne {frames : List (Frame σ κ η)} (h : Dropped setup pass frames r t g) :
    g.rest (some r) ≠ .rollback r := by
  intro hrest
  obtain ⟨d, passed, u, _, _, _, hnot⟩ := h
  exact hnot ⟨u.restack d.asked.scanner.stack, by rw [hrest]; rfl⟩

/-! ## Chains of landings -/

/-- A landing that is under way, with the frames around it, outermost first. -/
structure Landing (σ κ η : Type) where
  around : List (Frame σ κ η)
  frame : Frame σ κ η

namespace Landing

/-- The frames of a landing. -/
def frames (l : Landing σ κ η) : List (Frame σ κ η) := l.around ++ [l.frame]

/-- How deep the stack is at a landing. -/
def depth (l : Landing σ κ η) : Nat := l.frame.stack.depth

theorem depth_pos (l : Landing σ κ η) : 0 < l.depth := Nat.succ_pos _

end Landing

/-- The work of one landing ends with a rollback, and the next landing is where this
rollback lands: it comes out of the work of some frame of the first landing, and a
landing begins there. -/
structure Relands (setup : Setup η) (pass : Pass σ κ) (l l' : Landing σ κ η) : Prop where
  landing : ∃ callback, l.frame.phase = .landing callback
  lands : ∃ given r t g inner u, Underway setup pass l.frames given (.rollback r) t ∧
    l.frames = l'.around ++ g :: inner ∧
    g.ended setup pass = .ok (.interrupted (.rollback r), u) ∧
    l'.frame = g.caught r u ∧ (g.caught r u).Begun setup pass

/-- The next landing is less deep. -/
theorem Relands.depth_lt {l l' : Landing σ κ η} (h : Relands setup pass l l') :
    l'.depth < l.depth := by
  obtain ⟨callback, hp⟩ := h.landing
  obtain ⟨given, r, t, g, inner, u, hunderway, hframes, hended, hframe, hbegun⟩ := h.lands
  rw [hframes] at hunderway
  have hdepth : l'.depth = g.stack.depth := by
    rw [Landing.depth, hframe, Frame.caught_stack]
  have hlast : (l'.around ++ g :: inner).getLast? = some l.frame := by
    rw [← hframes, Landing.frames, List.getLast?_concat]
  rw [List.getLast?_append_of_ne_nil _ (List.cons_ne_nil g inner)] at hlast
  rw [hdepth]
  cases inner with
  | nil =>
      -- The rollback would land again where the first landing is under way.
      have hg : g = l.frame := Option.some.inj hlast
      rw [← hg] at hp
      exact absurd hbegun (hunderway.inner.begun.not_caught_again hp hended)
  | cons e inner =>
      rw [List.getLast?_cons_cons] at hlast
      exact hunderway.depth_lt (List.mem_of_getLast? hlast)

/-- A chain of landings climbs. -/
theorem relands_climbs {ls : List (Landing σ κ η)} (h : ls.IsChain (Relands setup pass)) :
    ls.Pairwise fun l l' => l'.depth < l.depth := by
  have hclimbs : ls.IsChain fun l l' => l'.depth < l.depth := h.imp fun _ _ => Relands.depth_lt
  have : IsTrans (Landing σ κ η) fun l l' => l'.depth < l.depth :=
    ⟨fun _ _ _ hab hbc => Nat.lt_trans hbc hab⟩
  exact hclimbs.pairwise

/-- A chain that climbs is no longer than its first landing is deep. -/
theorem length_le_depth {l : Landing σ κ η} {ls : List (Landing σ κ η)}
    (h : (l :: ls).Pairwise fun l l' => l'.depth < l.depth) : (l :: ls).length ≤ l.depth := by
  induction ls generalizing l with
  | nil => exact l.depth_pos
  | cons l' ls ih =>
      obtain ⟨hl, hls⟩ := List.pairwise_cons.1 h
      exact Nat.succ_le_of_lt (Nat.lt_of_le_of_lt (ih hls) (hl l' List.mem_cons_self))

/-- Where a rollback lands that went outwards, the next landing of a chain begins. -/
theorem Underway.relands {around passed : List (Frame σ κ η)} {callback : Option κ}
    (h : Underway setup pass ((around ++ g :: passed) ++ [f]) given (.rollback r) t)
    (hp : f.phase = .landing callback) (hc : g.Catches r)
    (hlands : Lands setup pass g r u) :
    Relands setup pass ⟨around ++ g :: passed, f⟩ ⟨around, g.caught r u⟩ where
  landing := ⟨callback, hp⟩
  lands := by
    refine ⟨given, r, t, g, passed ++ [f], u, h, by simp [Landing.frames], hlands.ended, rfl, ?_⟩
    rw [List.append_assoc, List.cons_append] at h
    exact h.inner.begun.caught hc hlands.ended

/-! ## Landings that fail -/

/-- A frame that fails reports one internal error at its node, and its scan completes. -/
theorem Frame.Fails.delivers (quiet : setup.Quiet) {fault : Fault}
    (h : f.Fails setup pass fault u) :
    ∃ s', f.scan setup pass = .ok (.answer none, s') ∧
      Hears setup [⟨.internalError, u.scanner.position? setup f.node none,
        Problem.internalError.message [fault.text]⟩] u.scanner s'.scanner := by
  have hscan := h.scan_of_taken fun payload hgives => by
    rw [← internalError_gives_up_iff, internalError_quiet quiet] at hgives
    cases hgives
  exact ⟨_, hscan, (internalError_delivers quiet u.scanner f.node fault).silent
    (.of_eq rfl rfl rfl rfl)⟩

/-- A fault of the work of a frame is a fault of the frame. -/
theorem Frame.Begun.fails_of_fault (h : f.Begun setup pass) {fault : Fault}
    (hended : f.ended setup pass = .ok (.interrupted (.fault fault), u)) :
    f.Fails setup pass fault u := by
  refine ⟨h, ?_⟩
  rw [hended, Frame.guard]
  simp only [catchPanic, ite_self]

/-! ## Rollbacks raised while landing -/

/-- A rollback with which a landing ends does not land at the frame of the landing,
whatever its target is.  The scan of that frame is over, and nothing but the stack is
changed.  The rollback lands further out, less deep, at the innermost frame around that
is visiting the target, or it leaves the outermost scan as its error, unless one of the
frames around is answered the rollback and does not forward it.

So each landing of a chain is less deep than the one before it, and there are at most as
many as the first is deep.

A landing that ends with a fault, or with a panic that is caught, delivers one internal
error at the node, and the scan of the node completes. -/
theorem landings_go_outwards (setup : Setup η) (pass : Pass σ κ) :
    (∀ outer f callback given r t, Underway setup pass (outer ++ [f]) given (.rollback r) t →
      f.phase = .landing callback →
      f.scan setup pass = .ok (.answer (some r), t.restack f.asked.scanner.stack) ∧
      ¬ (f.caught r t).Begun setup pass ∧
      (Outward setup pass outer f r t ∨ ∃ g ∈ outer, Dropped setup pass (outer ++ [f]) r t g) ∧
      ((∀ e ∈ outer, e.rest (some r) = .rollback r) → Outward setup pass outer f r t)) ∧
    (∀ l ls, List.IsChain (Relands setup pass) (l :: ls) →
      (l :: ls).Pairwise (fun l l' => l'.depth < l.depth) ∧ (l :: ls).length ≤ l.depth) ∧
    (∀ (f : Frame σ κ η) callback t, f.Begun setup pass → f.phase = .landing callback →
      setup.Quiet →
      (∀ fault, f.ended setup pass = .ok (.interrupted (.fault fault), t) →
        ∃ s', f.scan setup pass = .ok (.answer none, s') ∧
          Hears setup [⟨.internalError, t.scanner.position? setup f.node none,
            Problem.internalError.message [fault.text]⟩] t.scanner s'.scanner) ∧
      (∀ payload, setup.config.catchPanics = true →
        f.ended setup pass = .ok (.panicked payload, t) →
        ∃ s', f.scan setup pass = .ok (.answer none, s') ∧
          Hears setup [⟨.internalError, t.scanner.position? setup f.node none,
            Problem.internalError.message [(Fault.ofPanic payload).text]⟩]
            t.scanner s'.scanner)) := by
  refine ⟨?_, ?_, ?_⟩
  · intro outer f callback given r t h hp
    have hbegun : f.Begun setup pass := h.inner.begun
    have hended : f.ended setup pass = .ok (.interrupted (.rollback r), t) :=
      h.inner.ended_of_forwarded (List.forall_mem_nil _) .here
    have hgoes := h.outward_or_dropped hp
    refine ⟨hbegun.scan_of_uncaught hended (Frame.not_catches_of_landing hp),
      hbegun.not_caught_again hp hended, hgoes, fun hrest => ?_⟩
    rcases hgoes with hout | ⟨g, hg, hdropped⟩
    · exact hout
    · exact absurd (hrest g hg) hdropped.rest_ne
  · intro l ls h
    have hclimbs := relands_climbs h
    exact ⟨hclimbs, length_le_depth hclimbs⟩
  · intro f callback t hbegun _ quiet
    constructor
    · intro fault hended
      exact (hbegun.fails_of_fault hended).delivers quiet
    · intro payload hcatch hended
      -- What the panic left on the stack is dropped, and nothing is delivered by that.
      obtain ⟨s', hscan, hhears⟩ := (hbegun.fails_of_panicked hcatch hended).delivers quiet
      exact ⟨s', hscan, hhears.unit_eq, hhears.files_eq, hhears.reports_eq, hhears.unhandled_eq⟩

/-- A descent whose callback does something else at the target. -/
def resuming (r : Rollback Unit) (v : Visit (List Node) Unit Unit) : Pass (List Node) Unit :=
  { descent r with resume := fun _ _ => v }

/-- A rollback to a node that a descent comes through twice. -/
def again : Rollback Unit := ⟨bareBlock 1, some ()⟩

/-- The frames around the inner one of the two frames of the node. -/
def aroundAgain : List (Frame (List Node) Unit Unit) :=
  [descentFrame (bareBlock 1) [bareBlock 0, bareBlock 1, bareBlock 2] [],
    descentFrame (bareBlock 0) [bareBlock 1, bareBlock 2] [bareBlock 1]]

/-- The inner frame of the node. -/
def innerAgain : Frame (List Node) Unit Unit :=
  descentFrame (bareBlock 1) [bareBlock 2] [bareBlock 0, bareBlock 1]

/-- The state in which the rollback has come back to that frame. -/
def cameBack : ScanState (List Node) Unit := descentState [] [bareBlock 1, bareBlock 0, bareBlock 1]

/-- The rollback lands at the inner frame, and its callback begins. -/
theorem resuming_lands (v : Visit (List Node) Unit Unit) :
    Underway plainSetup (resuming again v) (aroundAgain ++ [innerAgain.caught again cameBack]) [] v
      (innerAgain.landed cameBack) := by
  have h := underway_of_visit plainSetup (resuming again v) rfl (bareBlock 1)
    [bareBlock 0, bareBlock 1, bareBlock 2] []
  have hframes : descentFrames (bareBlock 1) [bareBlock 0, bareBlock 1, bareBlock 2] [] =
      aroundAgain ++ innerAgain ::
        [descentFrame (bareBlock 2) [] [bareBlock 1, bareBlock 0, bareBlock 1]] := rfl
  rw [hframes] at h
  have hforwarded := h.inner.forwarded_at_once (r := again) fun e he => by
    rw [List.mem_singleton.1 he]
    rfl
  have hended := h.inner.ended_of_forwarded (fun e he => by
    rw [List.mem_singleton.1 he]
    exact Bool.false_ne_true) hforwarded
  exact h.caught (f := innerAgain) rfl hended

/-- Of the two frames around the inner one only the outermost catches the rollback. -/
theorem catches_again {around passed : List (Frame (List Node) Unit Unit)}
    {g : Frame (List Node) Unit Unit} (h : aroundAgain = around ++ g :: passed)
    (hc : g.Catches again) :
    around = [] ∧ g = descentFrame (bareBlock 1) [bareBlock 0, bareBlock 1, bareBlock 2] [] := by
  unfold aroundAgain at h
  rcases around with _ | ⟨a, _ | ⟨b, rest⟩⟩
  · exact ⟨rfl, (List.cons.inj h).1.symm⟩
  · have hg := (List.cons.inj (List.cons.inj h).2).1
    rw [← hg] at hc
    exact absurd hc Bool.false_ne_true
  · simp at h

/-- A callback that rolls back to its own node does not land there, but two frames
further out, where the node is visited as well.  A callback that fails or panics is one
internal error. -/
theorem again_lands_outwards :
    (∃ l l' : Landing (List Node) Unit Unit,
      Relands plainSetup (resuming again (.rollback again)) l l' ∧
      l.frame.node = bareBlock 1 ∧ l.depth = 3 ∧ l'.frame.node = bareBlock 1 ∧ l'.depth = 1 ∧
      l'.depth < l.depth ∧ [l, l'].length ≤ l.depth) ∧
    (∃ s', (innerAgain.caught again cameBack).scan plainSetup
        (resuming again (.fault (.message "failed"))) = .ok (.answer none, s') ∧
      Hears plainSetup [⟨.internalError, none, "internal transpiler error: failed"⟩]
        (innerAgain.landed cameBack).scanner s'.scanner) ∧
    ∃ s', (innerAgain.caught again cameBack).scan plainSetup (resuming again (.panic .other)) =
        .ok (.answer none, s') ∧
      Hears plainSetup [⟨.internalError, none,
        "internal transpiler error: handler panicked: non-string panic payload"⟩]
        (innerAgain.landed cameBack).scanner s'.scanner := by
  have hquiet : plainSetup.Quiet := nofun
  have hmessage : Problem.internalError.message [(Fault.message "failed").text] =
      "internal transpiler error: failed" := by decide
  have hmessage' : Problem.internalError.message [(Fault.ofPanic .other).text] =
      "internal transpiler error: handler panicked: non-string panic payload" := by decide
  refine ⟨?_, ?_, ?_⟩
  · have h := resuming_lands (.rollback again)
    obtain ⟨hgoes, hchain, _⟩ :=
      landings_go_outwards plainSetup (resuming again (.rollback again))
    obtain ⟨_, _, _, hout⟩ := hgoes _ _ _ _ _ _ h rfl
    have hrest : ∀ e ∈ aroundAgain, e.rest (some again) = .rollback again := by
      intro e he
      simp only [aroundAgain, List.mem_cons, List.not_mem_nil, or_false] at he
      rcases he with rfl | rfl <;> rfl
    cases hout hrest with
    | lands houter hc _ _ _ hlands _ =>
        obtain ⟨rfl, rfl⟩ := catches_again houter hc
        rw [houter] at h
        have hrelands := h.relands rfl hc hlands
        obtain ⟨hclimbs, hlength⟩ := hchain _ _ (List.isChain_pair.2 hrelands)
        exact ⟨_, _, hrelands, rfl, rfl, rfl, rfl, hrelands.depth_lt, hlength⟩
    | escapes _ hnone _ _ => exact absurd rfl (hnone _ List.mem_cons_self)
  · have h := resuming_lands (.fault (.message "failed"))
    obtain ⟨_, _, hfails⟩ :=
      landings_go_outwards plainSetup (resuming again (.fault (.message "failed")))
    obtain ⟨hfault, _⟩ := hfails _ _ (innerAgain.landed cameBack) h.inner.begun rfl hquiet
    rw [← hmessage]
    exact hfault (.message "failed") rfl
  · have h := resuming_lands (.panic .other)
    obtain ⟨_, _, hfails⟩ := landings_go_outwards plainSetup (resuming again (.panic .other))
    obtain ⟨_, hpanic⟩ := hfails _ _ (innerAgain.landed cameBack) h.inner.begun rfl hquiet
    rw [← hmessage']
    exact hpanic .other rfl rfl

/-! ## A frame that does not forward -/

/-- Three nodes, of which each is scanned at the one before it.  The last one rolls back to
itself, and its callback rolls back to the first one.  The one between them takes no notice
of that. -/
def absorbing : Pass Unit Unit where
  visit n :=
    match n.place.tree with
    | 0 => Visit.scan (bareBlock 1)
    | 1 => (Visit.attempt (some (bareBlock 2))).bind fun _ => .done ()
    | _ => .rollback ⟨bareBlock 2, some ()⟩
  resume _ _ := .rollback ⟨bareBlock 0, none⟩

/-- The state in which some nodes are on the stack and nothing has been noted. -/
def onStack (stack : Stack) : ScanState Unit Unit :=
  ⟨(), { Scanner.idle (.empty []) () with stack := stack }⟩

/-- The frame of the first node. -/
def firstFrame : Frame Unit Unit Unit :=
  ⟨bareBlock 0, onStack [], 2, .visiting, onStack [bareBlock 0], Visit.forward⟩

/-- The frame of the node that takes no notice. -/
def middleFrame : Frame Unit Unit Unit :=
  ⟨bareBlock 1, onStack [bareBlock 0], 1, .visiting, onStack [bareBlock 1, bareBlock 0],
    fun _ => .done ()⟩

/-- The frame of the last node. -/
def lastFrame : Frame Unit Unit Unit :=
  ⟨bareBlock 2, onStack [bareBlock 1, bareBlock 0], 0, .visiting,
    onStack [bareBlock 2, bareBlock 1, bareBlock 0], Visit.forward⟩

/-- The state in which the last node has rolled back to itself. -/
def rolledBack : ScanState Unit Unit := onStack [bareBlock 2, bareBlock 1, bareBlock 0]

/-- The last node has been landed at, and its callback has rolled back to the first one. -/
theorem absorbing_underway :
    Underway plainSetup absorbing
      ([firstFrame, middleFrame] ++ [lastFrame.caught ⟨bareBlock 2, some ()⟩ rolledBack]) []
      (.rollback ⟨bareBlock 0, none⟩) (lastFrame.landed rolledBack) := by
  have hlast : Underway plainSetup absorbing [lastFrame] [] (.rollback ⟨bareBlock 2, some ()⟩)
      rolledBack := .innermost rfl .start
  have hframes : Underway plainSetup absorbing ([firstFrame, middleFrame] ++ lastFrame :: []) []
      (.rollback ⟨bareBlock 2, some ()⟩) rolledBack :=
    .around rfl rfl .start (.around rfl rfl .start hlast)
  exact hframes.caught rfl rfl

/-- The rollback of a landing goes nowhere if a frame around does not forward it.  The node
that it targets is being visited, and still the rollback neither lands there nor leaves the
outermost scan, which completes after one landing. -/
theorem absorbed_goes_nowhere :
    (Underway plainSetup absorbing
        ([firstFrame, middleFrame] ++ [lastFrame.caught ⟨bareBlock 2, some ()⟩ rolledBack]) []
        (.rollback ⟨bareBlock 0, none⟩) (lastFrame.landed rolledBack) ∧
      firstFrame.Catches ⟨bareBlock 0, none⟩ ∧
      ¬ Outward plainSetup absorbing [firstFrame, middleFrame]
        (lastFrame.caught ⟨bareBlock 2, some ()⟩ rolledBack) ⟨bareBlock 0, none⟩
        (lastFrame.landed rolledBack)) ∧
    ∃ s', answer plainSetup (scan plainSetup absorbing 3) (.scanRoot (bareBlock 0)) (onStack []) =
        .ok (.answer none, s') ∧
      s'.scanner.log = [landing (bareBlock 2) 3] := by
  refine ⟨⟨absorbing_underway, rfl, ?_⟩, _, rfl, rfl⟩
  -- To land or to escape it would have to come through the frame that takes no notice.
  intro hout
  cases hout with
  | @lands around _ _ _ houter hc _ _ hforwarded _ _ =>
      rcases around with _ | ⟨a, _ | ⟨b, rest⟩⟩
      · obtain ⟨rfl, rfl⟩ := List.cons.inj houter
        cases hforwarded with
        | outwards hmiddle _ =>
            cases hmiddle with
            | outwards _ hgoes => cases hgoes
      · obtain rfl := (List.cons.inj (List.cons.inj houter).2).1
        cases hc
      · simp at houter
  | escapes _ hnone _ _ => exact absurd rfl (hnone _ List.mem_cons_self)

end Engine

end TreeScan

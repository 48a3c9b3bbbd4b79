import TreeScan.Proofs.Scan.Frames

/-!
# Unwinding

A scan that is under way is a chain of frames, outermost first.  `Underway` says
how far it has come: the innermost frame has some visit left, and every frame
around it waits for the scan of the next.  Scans that were asked for on the way
and have answered are no frames any more.

A rollback that leaves the work of the innermost frame is answered to the frame
around it, and so on outwards, as long as no frame catches it and each one
forwards it (`Forwarded`).  On the way the engine does nothing but take nodes off
the stack: a rollback comes out of the work of the outermost frame in the state
that the frames themselves have left (`Underway.ended_of_forwarded`), and if they
forward it at once, only the stack has changed (`Underway.forwarded_at_once`).

At the end stand descents, passes whose frames are known.
-/

namespace TreeScan.Engine

variable {σ κ η α : Type}

/-! ## Chains of frames -/

/-- `Underway setup pass frames given v t` holds if the frames are those of a
scan that has come to where the innermost of them has the visit `v` left in the
state `t`.  The rollbacks that the scans of the innermost frame answered with are
`given`. -/
inductive Underway (setup : Setup η) (pass : Pass σ κ) :
    List (Frame σ κ η) → List (Rollback κ) → Visit σ κ Unit → ScanState σ η → Prop where
  | innermost {f : Frame σ κ η} {given : List (Rollback κ)} {v : Visit σ κ Unit}
      {t : ScanState σ η} :
      f.Begun setup pass →
      Reaches setup (f.below setup pass) (f.work pass) f.began given v t →
      Underway setup pass [f] given v t
  | around {f g : Frame σ κ η} {frames : List (Frame σ κ η)} {given given' : List (Rollback κ)}
      {v : Visit σ κ Unit} {t : ScanState σ η} :
      f.Begun setup pass →
      f.limit = g.limit + 1 →
      Reaches setup (f.below setup pass) (f.work pass) f.began given'
        (.request (.scan (some g.node)) f.rest) g.asked →
      Underway setup pass (g :: frames) given v t →
      Underway setup pass (f :: g :: frames) given v t

/-- `Forwarded setup pass r frames t u` holds if a rollback `r` that has left the
work of the innermost frame in the state `t` comes out of the work of the
outermost frame in the state `u`.  In between each frame is answered the
rollback, goes on, and ends with it. -/
inductive Forwarded (setup : Setup η) (pass : Pass σ κ) (r : Rollback κ) :
    List (Frame σ κ η) → ScanState σ η → ScanState σ η → Prop where
  | here {f : Frame σ κ η} {t : ScanState σ η} : Forwarded setup pass r [f] t t
  | outwards {f g : Frame σ κ η} {frames : List (Frame σ κ η)} {t u w : ScanState σ η} :
      Forwarded setup pass r (g :: frames) t u →
      runVisit setup (f.below setup pass) (f.rest (some r))
        (u.restack g.asked.scanner.stack) = .ok (.interrupted (.rollback r), w) →
      Forwarded setup pass r (f :: g :: frames) t w

variable {setup : Setup η} {pass : Pass σ κ} {f g : Frame σ κ η} {frames : List (Frame σ κ η)}
  {given : List (Rollback κ)} {v : Visit σ κ Unit} {r : Rollback κ} {t u : ScanState σ η}

namespace Underway

/-- The frames from some frame inwards are the frames of its scan. -/
theorem inner {outer : List (Frame σ κ η)}
    (h : Underway setup pass (outer ++ f :: frames) given v t) :
    Underway setup pass (f :: frames) given v t := by
  induction outer with
  | nil => exact h
  | cons e outer ih =>
      apply ih
      cases outer with
      | nil =>
          cases h with
          | around _ _ _ hin => exact hin
      | cons g outer =>
          cases h with
          | around _ _ _ hin => exact hin

theorem begun (h : Underway setup pass (f :: frames) given v t) : f.Begun setup pass := by
  cases h with
  | innermost hb _ => exact hb
  | around hb _ _ _ => exact hb

/-- If every frame forwards a rollback at once, it comes out with nothing changed
but the stack. -/
theorem forwarded_at_once (h : Underway setup pass (f :: frames) given v t)
    (hrest : ∀ e ∈ (f :: frames).dropLast, e.rest (some r) = .rollback r) :
    Forwarded setup pass r (f :: frames) t (t.restack f.stack) := by
  induction frames generalizing f with
  | nil =>
      cases h with
      | innermost hb hw =>
          rw [ScanState.restack_self (hb.stack_of_reaches hw)]
          exact .here
  | cons g frames ih =>
      cases h with
      | around hb _ hw hin =>
          rw [List.dropLast_cons_cons] at hrest
          refine .outwards (ih hin fun e he => hrest e (List.mem_cons_of_mem f he)) ?_
          rw [hrest f List.mem_cons_self, hb.stack_of_reaches hw]
          rfl

/-- A rollback that no inner frame catches and every frame forwards comes out of
the work of the outermost frame. -/
theorem ended_of_forwarded (h : Underway setup pass (f :: frames) given (.rollback r) t)
    (huncaught : ∀ e ∈ frames, ¬ e.Catches r)
    (hforwarded : Forwarded setup pass r (f :: frames) t u) :
    f.ended setup pass = .ok (.interrupted (.rollback r), u) := by
  induction frames generalizing f u with
  | nil =>
      cases h with
      | innermost hb hw =>
          cases hforwarded with
          | here => exact hw.runVisit_eq
  | cons g frames ih =>
      cases h with
      | around hb hlimit hw hin =>
          cases hforwarded with
          | outwards hf hrest =>
              -- The rollback has left the scan of `g`, so `f` is answered with it.
              have hg := ih hin (fun e he => huncaught e (List.mem_cons_of_mem g he)) hf
              have hscan := hin.begun.scan_of_uncaught hg (huncaught g List.mem_cons_self)
              have hanswer : answer setup (f.below setup pass) (.scan (some g.node)) g.asked =
                  g.scan setup pass := by
                rw [Frame.below, hlimit]
                rfl
              rw [Frame.ended, hw.runVisit_eq, runVisit_request, hanswer, hscan]
              exact hrest

/-- When the scan of a frame has answered, the frame around it goes on. -/
theorem caller_goes_on {outer : List (Frame σ κ η)} {answered : Option (Rollback κ)}
    (h : Underway setup pass (outer ++ g :: f :: frames) given v t)
    (hscan : f.scan setup pass = .ok (.answer answered, u)) :
    ∃ given', Underway setup pass (outer ++ [g]) given' (g.rest answered) u := by
  induction outer with
  | nil =>
      cases h with
      | around hb hlimit hw _ =>
          refine ⟨_, .innermost hb (hw.answered ?_)⟩
          rw [Frame.below, hlimit]
          exact hscan
  | cons e outer ih =>
      cases outer with
      | nil =>
          cases h with
          | around hb hlimit hw hin =>
              obtain ⟨given', hout⟩ := ih hin
              exact ⟨given', .around hb hlimit hw hout⟩
      | cons d outer =>
          cases h with
          | around hb hlimit hw hin =>
              obtain ⟨given', hout⟩ := ih hin
              exact ⟨given', .around hb hlimit hw hout⟩

end Underway

/-! ## Descents

A pass that goes down some nodes and then rolls back.  Its frames are known, so it
shows the results below at work. -/

/-- Scans some nodes, each at the one before it, and ends with a rollback.  The
state is the list of the nodes that are still to be scanned. -/
def descent (r : Rollback Unit) : Pass (List Node) Unit where
  visit _ := Visit.read.bind fun path =>
    match path with
    | [] => .rollback r
    | n :: path => (Visit.write path).bind fun _ => Visit.scan n
  resume _ _ := .done ()

/-- The state in which some nodes are still to be scanned. -/
def descentState (path : List Node) (stack : Stack) : ScanState (List Node) Unit :=
  ⟨path, { Scanner.idle (.empty []) () with stack := stack }⟩

/-- The frame of a node from which some nodes are still to be scanned. -/
def descentFrame (n : Node) (path : List Node) (stack : Stack) : Frame (List Node) Unit Unit :=
  ⟨n, descentState path stack, path.length, .visiting, descentState path (n :: stack),
    Visit.forward⟩

/-- The frames of a descent when it has come to its end. -/
def descentFrames : Node → List Node → Stack → List (Frame (List Node) Unit Unit)
  | n, [], stack => [descentFrame n [] stack]
  | n, m :: path, stack => descentFrame n (m :: path) stack :: descentFrames m path (n :: stack)

/-- A pass with the visits of a descent comes to the end of the descent. -/
theorem underway_of_visit (setup : Setup Unit) (pass : Pass (List Node) Unit) {r : Rollback Unit}
    (hvisit : pass.visit = (descent r).visit) (n : Node) (path : List Node) (stack : Stack) :
    Underway setup pass (descentFrames n path stack) [] (.rollback r)
      (descentState [] (path.reverse ++ n :: stack)) := by
  induction path generalizing n stack with
  | nil =>
      have hw : Reaches setup ((descentFrame n [] stack).below setup pass)
          (pass.visit n) (descentState [] (n :: stack)) [] (.rollback r)
          (descentState [] (n :: stack)) := by
        rw [hvisit]
        exact .request (r := .read) (a := ([] : List Node)) rfl .start
      exact .innermost rfl hw
  | cons m path ih =>
      have hin := ih m (n :: stack)
      rw [List.reverse_cons, List.append_assoc]
      have hw : Reaches setup ((descentFrame n (m :: path) stack).below setup pass)
          (pass.visit n) (descentState (m :: path) (n :: stack)) []
          (.request (.scan (some m)) Visit.forward) (descentState path (n :: stack)) := by
        rw [hvisit]
        exact .request (r := .read) (a := m :: path) rfl (.request (r := .write path) rfl .start)
      cases path with
      | nil => exact .around rfl rfl hw hin
      | cons k path => exact .around rfl rfl hw hin

/-- A descent comes to its end. -/
theorem descent_underway (setup : Setup Unit) (r : Rollback Unit) (n : Node) (path : List Node)
    (stack : Stack) :
    Underway setup (descent r) (descentFrames n path stack) [] (.rollback r)
      (descentState [] (path.reverse ++ n :: stack)) :=
  underway_of_visit setup (descent r) rfl n path stack

/-- All frames of a descent forward. -/
theorem rest_of_mem_descentFrames {n : Node} {path : List Node} {stack : Stack}
    {e : Frame (List Node) Unit Unit} (h : e ∈ descentFrames n path stack) :
    e.rest = Visit.forward := by
  induction path generalizing n stack with
  | nil =>
      rw [List.mem_singleton.1 h]
      rfl
  | cons m path ih =>
      rcases List.mem_cons.1 h with rfl | h
      · rfl
      · exact ih h

end TreeScan.Engine

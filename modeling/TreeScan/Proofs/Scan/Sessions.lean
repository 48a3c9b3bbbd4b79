import TreeScan.Proofs.Scan.Changes
import TreeScan.Proofs.Scan.Happenings

/-!
# Sessions

A session is all that is asked of one scanner.  It runs visits, one after the other,
and which visit comes next depends on how the ones before it ended.  A visit that scans
a node, activates a unit or edits the files is a step of a session like any other.

The scanner goes on as the step before left it, also if that step failed.  A step that
halts is the last.  `Session.steps` lists the steps as they went.
-/

namespace TreeScan

/-- What is asked of a scanner. -/
inductive Session : Type 1 where
  | done
  /-- Runs a visit with a pass in some state.  What comes next depends on how the visit
  ended and on the state that the pass is in then. -/
  | step {σ κ α : Type} (pass : Pass σ κ) (state : σ) (visit : Visit σ κ α)
      (next : Outcome κ α → σ → Session)

namespace Session

variable {η : Type}

/-- A step of a session as it went. -/
structure Step (η : Type) : Type 1 where
  {σ κ α : Type}
  happenings : List (Happening κ)
  changes : List Change
  result : Except Halt (Outcome κ α × ScanState σ η)

namespace Step

/-- The scanner that a step left, unless it halted. -/
def scanner? (step : Step η) : Option (Scanner η) :=
  step.result.toOption.map fun result => result.2.scanner

/-- The units that a step activated, in order. -/
def units (step : Step η) : List CompilationUnit := Change.units step.changes

/-- The edits of files in a step, in order. -/
def edits (step : Step η) : List (FileStore → FileStore) := Change.edits step.changes

end Step

/-- The step that runs a visit. -/
def stepOf {σ κ α : Type} (setup : Setup η) (limit : Nat) (pass : Pass σ κ) (visit : Visit σ κ α)
    (s : ScanState σ η) : Step η where
  happenings := Engine.runHappenings setup pass limit visit s
  changes := Engine.runChanges setup pass limit visit s
  result := Engine.run setup pass limit visit s

/-- The steps of a session, with scans nested up to a limit. -/
def steps (setup : Setup η) (limit : Nat) : Session → Scanner η → List (Step η)
  | done, _ => []
  | step pass state visit next, s =>
    stepOf setup limit pass visit ⟨state, s⟩ ::
      match Engine.run setup pass limit visit ⟨state, s⟩ with
      | .error _ => []
      | .ok (outcome, t) => steps setup limit (next outcome t.pass) t.scanner

/-! ## Properties that are kept -/

variable {setup : Setup η} {I : List Change → Scanner η → Prop}

/-- What bookkeeping does not break and every change carries over holds after every
step of a session, for the changes up to that step. -/
theorem steps_keep (kept : Engine.Kept setup I) (limit : Nat) (session : Session)
    {cs : List Change} {s t : Scanner η} (h : I cs s) {before after : List (Step η)} {last : Step η}
    (hsteps : session.steps setup limit s = before ++ last :: after)
    (hlast : last.scanner? = some t) :
    I (cs ++ (before ++ [last]).flatMap Step.changes) t := by
  induction session generalizing cs s before with
  | done => exact absurd hsteps (by simp [steps])
  | step pass state visit next ih =>
      have hrun := Engine.run_keeps kept pass limit visit (s := ⟨state, s⟩) h
      rw [steps] at hsteps
      cases before with
      | nil =>
          obtain ⟨rfl, -⟩ := List.cons.inj hsteps
          simp only [List.nil_append, List.flatMap_singleton]
          -- The scanner that the step left is the one that the run ended with.
          cases hx : Engine.run setup pass limit visit ⟨state, s⟩ with
          | error halt => simp [Step.scanner?, stepOf, hx, Except.toOption] at hlast
          | ok result =>
              rw [hx] at hrun
              simp [Step.scanner?, stepOf, hx, Except.toOption] at hlast
              exact hlast ▸ hrun
      | cons first before =>
          obtain ⟨rfl, hrest⟩ := List.cons.inj hsteps
          cases hx : Engine.run setup pass limit visit ⟨state, s⟩ with
          | error halt =>
              rw [hx] at hrest
              simp at hrest
          | ok result =>
              obtain ⟨outcome, u⟩ := result
              rw [hx] at hrun hrest
              have hnext := ih outcome u.pass hrun hrest
              rw [List.cons_append, List.flatMap_cons, ← List.append_assoc]
              exact hnext

end Session

end TreeScan

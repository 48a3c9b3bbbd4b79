import TreeScan.Proofs.Scan.Concession
import TreeScan.Proofs.Scan.Raised

/-!
# Panics and faults

The setting that says whether panics are caught makes a difference where something panics,
and nowhere else.  Where it does, a panic that is caught is a fault.

A scan in which nothing is raised is the same with both settings, and the same happens in it
(`scan_calm`), by induction on the limit of the nesting.  `Calm` is what the scans below
have to meet for this.  A pass can read the settings, and so it can do different things
although nothing panics (`setting_is_visible`).  This is left out by `Visit.Indifferent`.
-/

namespace TreeScan

/-! ## Passes that do not look at a setting -/

/-- A visit for which it makes no difference which of two settings the scanner has. -/
inductive Visit.Indifferent {σ κ α : Type} (c c' : ScanConfig) : Visit σ κ α → Prop where
  | done (result : α) : Indifferent c c' (.done result)
  | interrupt (cause : Interrupt κ) : Indifferent c c' (.interrupt cause)
  | panic (payload : Payload) : Indifferent c c' (.panic payload)
  | config {next : ScanConfig → Visit σ κ α} : next c' = next c → Indifferent c c' (next c) →
      Indifferent c c' (.request .config next)
  | request {r : Request σ κ} {next : r.Answer → Visit σ κ α} : r ≠ .config →
      (∀ a, Indifferent c c' (next a)) → Indifferent c c' (.request r next)

/-- A pass for which it makes no difference which of two settings the scanner has. -/
structure Pass.Indifferent {σ κ : Type} (c c' : ScanConfig) (pass : Pass σ κ) : Prop where
  visit : ∀ n, (pass.visit n).Indifferent c c'
  landed : ∀ n, (pass.landed n).Indifferent c c'
  resume : ∀ callback n, (pass.resume callback n).Indifferent c c'

namespace Visit.Indifferent

variable {σ κ α β : Type} {c c' : ScanConfig}

theorem bind {v : Visit σ κ α} {f : α → Visit σ κ β} (hv : v.Indifferent c c')
    (hf : ∀ a, (f a).Indifferent c c') : (v.bind f).Indifferent c c' := by
  induction hv with
  | done result => exact hf result
  | interrupt cause => exact .interrupt cause
  | panic payload => exact .panic payload
  | config hnext _ ih => exact .config (congrArg (·.bind f) hnext) ih
  | request hr _ ih => exact .request hr ih

theorem land {pass : Pass σ κ} (hp : pass.Indifferent c c') (callback : Option κ) (n : Node) :
    (pass.land callback n).Indifferent c c' := by
  refine (hp.landed n).bind fun _ => ?_
  cases callback with
  | none => exact .done ()
  | some callback => exact hp.resume callback n

end Visit.Indifferent

/-- The setup with another setting for panics. -/
def Setup.catching {η : Type} (setup : Setup η) (catchPanics : Bool) : Setup η :=
  { setup with config := { setup.config with catchPanics := catchPanics } }

namespace Engine

variable {σ κ η α : Type}

/-! ## Two settings -/

/-- Scans with what happens in them and what is raised, before and after a change of the
setting for panics.  Where nothing is raised before, nothing is different after. -/
structure Calm (nested nested' : Scan σ κ η) (below below' : Account σ κ η)
    (toll toll' : Toll σ η) : Prop where
  sounds : Sounds nested toll
  scan_eq : ∀ n s, toll n s = [] → nested' n s = nested n s
  below_eq : ∀ n s, toll n s = [] → below' n s = below n s
  toll_eq : ∀ n s, toll n s = [] → toll' n s = []

section Catching

variable {setup : Setup η} {c c' : Bool} {nested nested' : Scan σ κ η}
  {below below' : Account σ κ η} {toll toll' : Toll σ η} {s : ScanState σ η}
  (calm : Calm nested nested' below below' toll toll')
include calm

theorem answer_calm {r : Request σ κ} (hr : r ≠ .config)
    (h : raisedByRequest (setup.catching c) toll r s = []) :
    answer (setup.catching c') nested' r s = answer (setup.catching c) nested r s ∧
    duringRequest (setup.catching c') below' r s = duringRequest (setup.catching c) below r s ∧
    raisedByRequest (setup.catching c') toll' r s = [] := by
  cases r with
  | config => exact absurd rfl hr
  | scan node =>
      cases node with
      | none => exact ⟨rfl, rfl, rfl⟩
      | some n => exact ⟨calm.scan_eq n s h, calm.below_eq n s h, calm.toll_eq n s h⟩
  | scanRoot n =>
      refine ⟨?_, calm.below_eq n s h, calm.toll_eq n s h⟩
      rw [answer_scanRoot, answer_scanRoot, calm.scan_eq n s h]
  | report n name problem params => exact ⟨rfl, rfl, h⟩
  | _ => exact ⟨rfl, rfl, rfl⟩

/-- A visit that raises nothing ends in the same way. -/
theorem visit_calm {v : Visit σ κ α}
    (hv : v.Indifferent (setup.catching c).config (setup.catching c').config)
    (h : raisedInVisit (setup.catching c) nested toll v s = []) :
    runVisit (setup.catching c') nested' v s = runVisit (setup.catching c) nested v s ∧
    duringVisit (setup.catching c') nested' below' v s =
      duringVisit (setup.catching c) nested below v s ∧
    raisedInVisit (setup.catching c') nested' toll' v s = [] := by
  induction hv generalizing s with
  | done result => exact ⟨rfl, rfl, rfl⟩
  | interrupt cause => exact ⟨rfl, rfl, rfl⟩
  | panic payload => cases h
  | @config next hnext _ ih =>
      -- Both settings are answered with the same rest of the visit.
      show runVisit _ nested' (next (setup.catching c').config) s = _ ∧
        duringVisit _ nested' below' (next (setup.catching c').config) s = _ ∧
        raisedInVisit _ nested' toll' (next (setup.catching c').config) s = []
      rw [hnext]
      exact ih h
  | @request r next hr _ ih =>
      rw [raisedInVisit, List.append_eq_nil_iff] at h
      obtain ⟨hanswer, hduring, hraised⟩ :
          answer (setup.catching c') nested' r s = answer (setup.catching c) nested r s ∧ _ ∧ _ :=
        answer_calm calm hr h.1
      rw [runVisit_request, runVisit_request, duringVisit, duringVisit, raisedInVisit, hanswer,
        hduring, hraised]
      cases ha : answer (setup.catching c) nested r s with
      | error halt => exact ⟨rfl, rfl, rfl⟩
      | ok result =>
          obtain ⟨reply, t⟩ := result
          rw [ha] at h
          cases reply with
          | panic payload => exact ⟨rfl, rfl, rfl⟩
          | answer a =>
              obtain ⟨hrun, hrest, hnone⟩ := ih a h.2
              exact ⟨hrun, congrArg _ hrest, hnone⟩

theorem guarded_calm {v : Visit σ κ Unit}
    (hv : v.Indifferent (setup.catching c).config (setup.catching c').config)
    (h : raisedInVisit (setup.catching c) nested toll v s = []) :
    guarded (setup.catching c') nested' v s = guarded (setup.catching c) nested v s := by
  obtain ⟨hrun, -, -⟩ := visit_calm calm hv h
  have hno := runVisit_noPanic calm.sounds h
  rw [guarded_eq_runVisit hno, guarded_eq_runVisit (hrun ▸ hno), hrun]

variable {pass : Pass σ κ}
  (indifferent : pass.Indifferent (setup.catching c).config (setup.catching c').config)
include indifferent

theorem duringLanding_calm (n : Node) {callback : Option κ}
    (h : raisedInVisit (setup.catching c) nested toll (pass.land callback n) s = []) :
    duringLanding (setup.catching c') pass nested' below' n callback s =
      duringLanding (setup.catching c) pass nested below n callback s := by
  unfold Pass.land at h
  rw [raisedInVisit_bind, List.append_eq_nil_iff] at h
  obtain ⟨hrun, hduring, -⟩ := visit_calm calm (indifferent.landed n) h.1
  unfold duringLanding
  rw [hrun, hduring]
  refine congrArg _ ?_
  cases callback with
  | none => rfl
  | some callback =>
      cases hl : runVisit (setup.catching c) nested (pass.landed n) s with
      | error halt => rfl
      | ok ended =>
          obtain ⟨outcome, t⟩ := ended
          rw [hl] at h
          cases outcome with
          | interrupted cause => rfl
          | panicked payload => rfl
          | completed result =>
              obtain ⟨-, hresume, -⟩ := visit_calm calm (indifferent.resume callback n) h.2
              exact congrArg (.callback callback n :: ·) hresume

/-- What follows the visit of a node, if neither raises anything. -/
theorem afterVisit_calm {n : Node} {ended : Except Halt (Outcome κ Unit × ScanState σ η)}
    (h : raisedAfterVisit (setup.catching c) pass nested toll n ended = []) :
    afterVisit (setup.catching c') pass nested' below' n ended =
        afterVisit (setup.catching c) pass nested below n ended ∧
    raisedAfterVisit (setup.catching c') pass nested' toll' n ended = [] := by
  cases ended with
  | error halt => exact ⟨rfl, rfl⟩
  | ok result =>
      obtain ⟨outcome, t⟩ := result
      cases outcome with
      | completed result => exact ⟨rfl, rfl⟩
      | panicked payload => exact ⟨rfl, rfl⟩
      | interrupted cause =>
          cases cause with
          | fault f => exact ⟨rfl, rfl⟩
          | rollback r =>
              simp only [afterVisit, raisedAfterVisit]
              split
              · next hr =>
                  rw [raisedAfterVisit_of_landing hr] at h
                  exact ⟨duringLanding_calm calm indifferent n h,
                    (visit_calm calm (.land indifferent r.callback n) h).2.2⟩
              · exact ⟨rfl, rfl⟩

theorem visitNode_calm {n : Node}
    (hvisit : raisedInVisit (setup.catching c) nested toll (pass.visit n) s = [])
    (hafter : raisedAfterVisit (setup.catching c) pass nested toll n
      (guarded (setup.catching c) nested (pass.visit n) s) = []) :
    visit (setup.catching c') pass nested' n s = visit (setup.catching c) pass nested n s := by
  have hguarded := guarded_calm calm (indifferent.visit n) hvisit
  rcases lands_or_not n (guarded (setup.catching c) nested (pass.visit n) s) with ⟨r, t, hg, hr⟩ | hno
  · rw [hg, raisedAfterVisit_of_landing hr] at hafter
    rw [visit_of_landing hg hr, visit_of_landing (hguarded.trans hg) hr]
    exact guarded_calm calm (.land indifferent r.callback n) hafter
  · rw [visit_of_no_landing hno, visit_of_no_landing (hguarded ▸ hno), hguarded]

/-- One scan keeps this, if the scans nested in it do. -/
theorem scanWith_calm :
    Calm (scanWith (setup.catching c) pass nested) (scanWith (setup.catching c') pass nested')
      (duringScan (setup.catching c) pass nested below)
      (duringScan (setup.catching c') pass nested' below')
      (raisedInScan (setup.catching c) pass nested toll)
      (raisedInScan (setup.catching c') pass nested' toll') := by
  have hscan : ∀ n s, raisedInScan (setup.catching c) pass nested toll n s = [] →
      scanWith (setup.catching c') pass nested' n s =
          scanWith (setup.catching c) pass nested n s ∧
        duringScan (setup.catching c') pass nested' below' n s =
          duringScan (setup.catching c) pass nested below n s ∧
        raisedInScan (setup.catching c') pass nested' toll' n s = [] := by
    intro n s h
    simp only [raisedInScan, List.append_eq_nil_iff] at h
    obtain ⟨⟨hvisit, hafter⟩, hsettling⟩ := h
    obtain ⟨-, hduring, hraised⟩ := visit_calm calm (indifferent.visit n) hvisit
    obtain ⟨hduring', hraised'⟩ := afterVisit_calm calm indifferent hafter
    have hguarded := guarded_calm calm (indifferent.visit n) hvisit
    have hnode := visitNode_calm calm indifferent hvisit hafter
    refine ⟨?_, ?_, ?_⟩
    · unfold scanWith
      rw [hnode]
      rfl
    · simp only [duringScan, hduring, hguarded, hduring', hnode]
      rfl
    · simp only [raisedInScan, hraised, hguarded, hraised', hnode]
      exact hsettling
  exact ⟨scanWith_sounds _ pass calm.sounds, fun n s h => (hscan n s h).1,
    fun n s h => (hscan n s h).2.1, fun n s h => (hscan n s h).2.2⟩

omit calm in
/-- Scans in which nothing is raised are the same with both settings. -/
theorem scan_calm (limit : Nat) :
    Calm (scan (setup.catching c) pass limit) (scan (setup.catching c') pass limit)
      (happenings (setup.catching c) pass limit) (happenings (setup.catching c') pass limit)
      (raised (setup.catching c) pass limit) (raised (setup.catching c') pass limit) := by
  induction limit with
  | zero => exact ⟨scan_sounds _ pass 0, fun _ _ _ => rfl, fun _ _ _ => rfl, fun _ _ _ => rfl⟩
  | succ limit ih => exact scanWith_calm ih indifferent

end Catching

/-! ## Panics and faults -/

/-- With panics caught, a run is the same wherever its visits, hooks and callbacks concede
instead of panicking, in their own work or in a report that the handler gives up on.  The
scans in it are the same, the same happens, and the run ends in the same way and in the same
state.  So it is if the pass is written to end with faults where its own work panics.

A run in which nothing is raised is the same whether panics are caught or not, as long as the
pass does not look at this setting. -/
theorem caught_panics_are_faults (setup : Setup η) (pass : Pass σ κ) (limit : Nat)
    (v : Visit σ κ α) (s : ScanState σ η) :
    (setup.config.catchPanics = true →
      (∀ chosen : Points σ η,
        (∀ n t, scanConceding setup chosen pass limit n t = scan setup pass limit n t) ∧
        (∀ n t, happeningsConceding setup chosen pass limit n t =
          happenings setup pass limit n t) ∧
        concedingRun setup chosen pass limit v s = run setup pass limit v s ∧
        concedingRunHappenings setup chosen pass limit v s =
          runHappenings setup pass limit v s) ∧
      (∀ pass' : Pass σ κ, pass.Conceded pass' →
        run setup pass' limit v s = run setup pass limit v s ∧
        runHappenings setup pass' limit v s = runHappenings setup pass limit v s)) ∧
    (∀ c c' : Bool, pass.Indifferent (setup.catching c).config (setup.catching c').config →
      v.Indifferent (setup.catching c).config (setup.catching c').config →
      runRaised (setup.catching c) pass limit v s = [] →
      run (setup.catching c') pass limit v s = run (setup.catching c) pass limit v s ∧
      runHappenings (setup.catching c') pass limit v s =
        runHappenings (setup.catching c) pass limit v s ∧
      runRaised (setup.catching c') pass limit v s = []) := by
  refine ⟨fun hcatch => ⟨fun chosen => ?_, fun pass' hconceded => ?_⟩,
    fun c c' hpass hvisit hraised => ?_⟩
  · have hscan := scanConceding_eq hcatch chosen pass limit
    have hhappenings := happeningsConceding_eq hcatch chosen pass limit
    refine ⟨fun n t => congrFun (congrFun hscan n) t,
      fun n t => congrFun (congrFun hhappenings n) t, ?_, ?_⟩
    · rw [concedingRun, hscan]
      rfl
    · rw [concedingRunHappenings, hscan, hhappenings]
      rfl
  · have hscan := scan_conceded hcatch hconceded limit
    have hhappenings := happenings_conceded hcatch hconceded limit
    refine ⟨?_, ?_⟩
    · rw [run, hscan]
      rfl
    · rw [runHappenings, hscan, hhappenings]
      rfl
  · exact visit_calm (scan_calm hpass limit) hvisit hraised

/-- Scans a second tree, which panics, and then reports on the first. -/
def brittle : Pass Unit Empty where
  visit n :=
    if n.place.tree = 0 then
      (Visit.scan (bareBlock 1)).bind fun _ => Visit.report n .unknownSymbol ["T"]
    else .panic (.text "no more")
  resume callback _ := callback.elim

/-- The same, but the second tree ends with a fault. -/
def yielding : Pass Unit Empty where
  visit n :=
    if n.place.tree = 0 then
      (Visit.scan (bareBlock 1)).bind fun _ => Visit.report n .unknownSymbol ["T"]
    else .fault (.panic "no more")
  resume callback _ := callback.elim

/-- Gives up on the second report. -/
def tiring : Handler Nat := fun _ _ count =>
  ⟨count + 1, [], if count = 1 then some .other else none⟩

theorem brittle_conceded : brittle.Conceded yielding := by
  refine ⟨fun n => ?_, fun _ => .same _, fun callback _ => callback.elim⟩
  unfold brittle yielding
  dsimp only
  split
  · exact .same _
  · exact .panic (.text "no more")

/-- Ends with a fault everywhere. -/
def declining : Pass Unit Empty where
  visit _ := .fault (.message "not here")
  resume callback _ := callback.elim

/-- The panic of the second tree and the report that the handler gives up on are both
caught, and might both be faults.  A fault that is no panic is settled with both settings. -/
theorem brittle_might_yield :
    (∃ after, run ⟨{}, some tiring, spanPositions⟩ brittle 2 (Visit.scanRoot (bareBlock 0))
        ⟨(), .idle (.empty []) 0⟩ = .ok (.completed none, after) ∧
      after.scanner.stack = [] ∧ after.scanner.reports = 3 ∧
      concedingRun ⟨{}, some tiring, spanPositions⟩ (fun _ _ => true) brittle 2
        (Visit.scanRoot (bareBlock 0)) ⟨(), .idle (.empty []) 0⟩ = .ok (.completed none, after) ∧
      run ⟨{}, some tiring, spanPositions⟩ yielding 2 (Visit.scanRoot (bareBlock 0))
        ⟨(), .idle (.empty []) 0⟩ = .ok (.completed none, after)) ∧
    run (plainSetup.catching false) declining 1 (Visit.scanRoot (bareBlock 0))
        ⟨(), .idle (.empty []) ()⟩ =
      run (plainSetup.catching true) declining 1 (Visit.scanRoot (bareBlock 0))
        ⟨(), .idle (.empty []) ()⟩ := by
  obtain ⟨hon, -⟩ := caught_panics_are_faults ⟨{}, some tiring, spanPositions⟩ brittle 2
    (Visit.scanRoot (bareBlock 0)) ⟨(), .idle (.empty []) 0⟩
  obtain ⟨hchosen, hpasses⟩ := hon rfl
  obtain ⟨-, -, hconceding, -⟩ := hchosen fun _ _ => true
  obtain ⟨hyielding, -⟩ := hpasses yielding brittle_conceded
  obtain ⟨-, hcalm⟩ := caught_panics_are_faults plainSetup declining 1
    (Visit.scanRoot (bareBlock 0)) ⟨(), .idle (.empty []) ()⟩
  obtain ⟨hsame, -, -⟩ := hcalm true false
    ⟨fun _ => .interrupt _, fun _ => .done (), fun callback _ => callback.elim⟩
    (.request (by simp) .done) rfl
  refine ⟨?_, hsame⟩
  rw [hconceding, hyielding]
  exact ⟨_, rfl, rfl, rfl, rfl, rfl⟩

/-- Keeps the setting for panics. -/
def noting : Pass Bool Empty where
  visit _ := Visit.config.bind fun config => Visit.write config.catchPanics
  resume callback _ := callback.elim

/-- Two runs in which nothing is raised can be different, for a pass can read the setting. -/
theorem setting_is_visible :
    ¬ ∀ (pass : Pass Bool Empty) (v : Visit Bool Empty (Option ScanError))
      (s : ScanState Bool Unit),
      runRaised (plainSetup.catching true) pass 1 v s = [] →
      runRaised (plainSetup.catching false) pass 1 v s = [] →
      run (plainSetup.catching false) pass 1 v s = run (plainSetup.catching true) pass 1 v s := by
  intro h
  have hsame := h noting (Visit.scanRoot (bareBlock 0)) ⟨true, .idle (.empty []) ()⟩ rfl rfl
  cases hsame

end Engine

end TreeScan

import TreeScan.Proofs.Scan.Happenings
import TreeScan.Proofs.Scan.Survey

/-!
# What is left over does not matter

A scanner carries things over from one run to the next: the unit that was active,
the static imports, the source cache, and what panics left on the stack.  Two
scanners that differ in nothing else cannot be told apart by a pass that does not
ask for these things.

The two states of such scanners are `Twins`.  A computation on both is mirrored
(`Mirrors`) if it gives the same result, ends in twins again, and has put the same
nodes on top of either stack.  What was on the stacks before may be different, and
it stays below.

Each layer of the engine mirrors if the scans nested in it do.  The guard cuts a
stack back to a depth, and the depths differ.  But what is cut off is what was put
on top since, and that is the same.
-/

namespace TreeScan

/-! ## Passes that do not look back -/

/-- A request for something that a scanner carries over. -/
def Request.LooksBack {σ κ : Type} : Request σ κ → Prop
  | .stack => True
  | .imports => True
  | .lines => True
  | .trace => True
  | _ => False

/-- A visit that does not ask for what a scanner carries over. -/
def Visit.Blind {σ κ α : Type} : Visit σ κ α → Prop
  | .request r next => ¬ r.LooksBack ∧ ∀ a, (next a).Blind
  | _ => True

/-- A pass whose visits do not ask for what a scanner carries over. -/
structure Pass.Blind {σ κ : Type} (pass : Pass σ κ) : Prop where
  visit : ∀ n, (pass.visit n).Blind
  landed : ∀ n, (pass.landed n).Blind
  resume : ∀ callback n, (pass.resume callback n).Blind

namespace Visit.Blind

variable {σ κ α β : Type}

theorem bind {v : Visit σ κ α} {f : α → Visit σ κ β} (hv : v.Blind) (hf : ∀ a, (f a).Blind) :
    (v.bind f).Blind := by
  induction v with
  | done result => exact hf result
  | interrupt cause => exact trivial
  | panic payload => exact trivial
  | request r next ih => exact ⟨hv.1, fun a => ih a (hv.2 a)⟩

theorem ask {r : Request σ κ} (h : ¬ r.LooksBack) : (Visit.ask r).Blind := ⟨h, fun _ => trivial⟩

theorem change (f : σ → σ) : (Visit.change f : Visit σ κ Unit).Blind :=
  bind (ask id) fun _ => ask id

theorem forward (r : Option (Rollback κ)) : (Visit.forward r : Visit σ κ Unit).Blind := by
  cases r with
  | none => exact trivial
  | some r => exact trivial

theorem scanAll (nodes : List Node) : (Visit.scanAll nodes : Visit σ κ Unit).Blind := by
  induction nodes with
  | nil => exact trivial
  | cons n nodes ih => exact bind (bind (ask id) forward) fun _ => ih

end Visit.Blind

/-! ## Twins -/

/-- What becomes of a diagnostic.  Without a handler nothing does. -/
def Setup.hear {η : Type} (setup : Setup η) (d : Diagnostic) (files : FileStore) (reports : η) :
    Handled η :=
  match setup.handler with
  | none => ⟨reports, [], none⟩
  | some handler => handler d files reports

/-- Two setups with the same settings and positions.  The relation `R` between the
states of their handlers is kept by every diagnostic, and in related states the
handlers give up with the same or not at all. -/
structure Setup.Alike {η η' : Type} (setup : Setup η) (setup' : Setup η') (R : η → η' → Prop) :
    Prop where
  config_eq : setup.config = setup'.config
  positions_eq : setup.positions = setup'.positions
  panic_eq : ∀ d files reports reports', R reports reports' →
    (setup.hear d files reports).panic = (setup'.hear d files reports').panic
  state_alike : ∀ d files reports reports', R reports reports' →
    R (setup.hear d files reports).state (setup'.hear d files reports').state

namespace Engine

variable {σ κ η η' α β : Type} {R : η → η' → Prop}

/-- Two states that a pass cannot tell apart unless it looks back. -/
structure Twins (R : η → η' → Prop) (s : ScanState σ η) (s' : ScanState σ η') :
    Prop where
  pass_eq : s.pass = s'.pass
  unit_eq : s.scanner.unit = s'.scanner.unit
  files_eq : s.scanner.files = s'.scanner.files
  reports_alike : R s.scanner.reports s'.scanner.reports

/-- From `s` and `s'` to `t` and `t'` the same nodes were put on the stacks, and the
states are twins. -/
structure Mirrored (R : η → η' → Prop) (s : ScanState σ η) (s' : ScanState σ η')
    (t : ScanState σ η) (t' : ScanState σ η') : Prop where
  twins : Twins R t t'
  frames : ∃ frames, t.scanner.stack = frames ++ s.scanner.stack ∧
    t'.scanner.stack = frames ++ s'.scanner.stack

/-- Two computations, one from `s` and one from `s'`, with the same result. -/
def Mirrors (R : η → η' → Prop) (s : ScanState σ η) (s' : ScanState σ η') :
    Except Halt (α × ScanState σ η) → Except Halt (α × ScanState σ η') → Prop
  | .error halt, .error halt' => halt = halt'
  | .ok (a, t), .ok (a', t') => a = a' ∧ Mirrored R s s' t t'
  | _, _ => False

variable {s t : ScanState σ η} {s' t' : ScanState σ η'}

theorem Twins.mirrored (h : Twins R s s') : Mirrored R s s' s s' := ⟨h, [], rfl, rfl⟩

theorem Mirrored.of_stack_eq (h : Twins R t t') (hs : t.scanner.stack = s.scanner.stack)
    (hs' : t'.scanner.stack = s'.scanner.stack) : Mirrored R s s' t t' :=
  ⟨h, [], hs, hs'⟩

theorem Mirrored.trans {u : ScanState σ η} {u' : ScanState σ η'} (h : Mirrored R s s' t t')
    (h' : Mirrored R t t' u u') : Mirrored R s s' u u' := by
  obtain ⟨_, frames, hs, hs'⟩ := h
  obtain ⟨htwins, more, ht, ht'⟩ := h'
  refine ⟨htwins, more ++ frames, ?_, ?_⟩
  · rw [ht, hs, List.append_assoc]
  · rw [ht', hs', List.append_assoc]

/-- What two mirrored computations have come to. -/
theorem Mirrors.cases {x : Except Halt (α × ScanState σ η)} {x' : Except Halt (α × ScanState σ η')}
    (h : Mirrors R s s' x x') :
    (∃ halt, x = .error halt ∧ x' = .error halt) ∨
      ∃ a t t', x = .ok (a, t) ∧ x' = .ok (a, t') ∧ Mirrored R s s' t t' := by
  cases x with
  | error halt =>
      cases x' with
      | error halt' =>
          cases h
          exact .inl ⟨halt, rfl, rfl⟩
      | ok result => cases h
  | ok result =>
      cases x' with
      | error halt' => cases h
      | ok result' =>
          obtain ⟨a, t⟩ := result
          obtain ⟨a', t'⟩ := result'
          obtain ⟨rfl, hm⟩ := h
          exact .inr ⟨a, t, t', rfl, rfl, hm⟩

theorem Mirrors.after {x : Except Halt (α × ScanState σ η)} {x' : Except Halt (α × ScanState σ η')}
    (h : Mirrored R s s' t t') (hx : Mirrors R t t' x x') : Mirrors R s s' x x' := by
  rcases hx.cases with ⟨halt, rfl, rfl⟩ | ⟨a, u, u', rfl, rfl, hm⟩
  · rfl
  · exact ⟨rfl, h.trans hm⟩

/-! ## Reports -/

variable {setup : Setup η} {setup' : Setup η'}

theorem report_eq_hear (setup : Setup η) (s : Scanner η) (n : Node) (name : Option String)
    (problem : Problem) (params : List String) :
    (s.report setup n name problem params).1 =
        (setup.hear ⟨problem, s.position? setup n name, problem.message params⟩ s.files
          s.reports).panic ∧
      (s.report setup n name problem params).2.reports =
        (setup.hear ⟨problem, s.position? setup n name, problem.message params⟩ s.files
          s.reports).state ∧
      (s.report setup n name problem params).2.unit = s.unit ∧
      (s.report setup n name problem params).2.files = s.files := by
  unfold Scanner.report Setup.hear
  cases setup.handler with
  | none => exact ⟨rfl, rfl, rfl, rfl⟩
  | some handler => exact ⟨rfl, rfl, rfl, rfl⟩

/-- Steps on which nothing is delivered keep states twins. -/
theorem Twins.silent (h : Twins R s s') {x : Scanner η} {x' : Scanner η'}
    (hx : Hears setup [] s.scanner x) (hx' : Hears setup' [] s'.scanner x') :
    Twins R (s.on x) (s'.on x') where
  pass_eq := h.pass_eq
  unit_eq := hx.unit_eq.trans (h.unit_eq.trans hx'.unit_eq.symm)
  files_eq := hx.files_eq.trans (h.files_eq.trans hx'.files_eq.symm)
  reports_alike := by
    show R x.reports x'.reports
    rw [hx.reports_eq, hx'.reports_eq, setup.heard_nil, setup'.heard_nil]
    exact h.reports_alike

theorem Twins.enter (h : Twins R s s') (n : Node) :
    Twins R (s.on (s.scanner.enter n)) (s'.on (s'.scanner.enter n)) :=
  ⟨h.pass_eq, h.unit_eq, h.files_eq, h.reports_alike⟩

theorem Twins.note (h : Twins R s s') (events events' : List LogEvent) :
    Twins R (s.on (s.scanner.note events)) (s'.on (s'.scanner.note events')) :=
  ⟨h.pass_eq, h.unit_eq, h.files_eq, h.reports_alike⟩

theorem Twins.restack (h : Twins R s s') (stack stack' : Stack) :
    Twins R (s.restack stack) (s'.restack stack') :=
  ⟨h.pass_eq, h.unit_eq, h.files_eq, h.reports_alike⟩

section Alike

variable (alike : setup.Alike setup' R)
include alike

theorem position_eq (h : Twins R s s') (n : Node) (name : Option String) :
    s.scanner.position? setup n name = s'.scanner.position? setup' n name := by
  rw [Scanner.position?, Scanner.position?, h.unit_eq, alike.positions_eq]

theorem reporting_eq (h : Twins R s s') (n : Node) (name : Option String) (problem : Problem)
    (params : List String) :
    (reporting setup s.scanner n name problem params : Happening κ) =
      reporting setup' s'.scanner n name problem params := by
  rw [reporting, reporting, position_eq alike h]

theorem report_alike (h : Twins R s s') (n : Node) (name : Option String) (problem : Problem)
    (params : List String) :
    (s.scanner.report setup n name problem params).1 =
        (s'.scanner.report setup' n name problem params).1 ∧
      Twins R (s.on (s.scanner.report setup n name problem params).2)
        (s'.on (s'.scanner.report setup' n name problem params).2) := by
  obtain ⟨hpanic, hstate, hunit, hfiles⟩ := report_eq_hear setup s.scanner n name problem params
  obtain ⟨hpanic', hstate', hunit', hfiles'⟩ :=
    report_eq_hear setup' s'.scanner n name problem params
  rw [position_eq alike h, h.files_eq] at hpanic hstate
  refine ⟨?_, h.pass_eq, ?_, ?_, ?_⟩
  · rw [hpanic, hpanic']
    exact alike.panic_eq _ _ _ _ h.reports_alike
  · exact hunit.trans (h.unit_eq.trans hunit'.symm)
  · exact hfiles.trans (h.files_eq.trans hfiles'.symm)
  · rw [ScanState.on_scanner, ScanState.on_scanner, hstate, hstate']
    exact alike.state_alike _ _ _ _ h.reports_alike

theorem internalError_alike (h : Twins R s s') (n : Node) (f : Fault) :
    (internalError setup n f s.scanner).1 = (internalError setup' n f s'.scanner).1 ∧
      Twins R (s.on (internalError setup n f s.scanner).2)
        (s'.on (internalError setup' n f s'.scanner).2) := by
  obtain ⟨hpanic, htwins⟩ :=
    report_alike alike (h.note [failing n f] [failing n f]) n none .internalError [f.text]
  rw [internalError_fst, internalError_fst]
  exact ⟨hpanic, htwins.silent (internalError_silent ..) (internalError_silent ..)⟩

/-! ## Requests and visits -/

variable {nested : Scan σ κ η} {nested' : Scan σ κ η'} {below : Account σ κ η}
  {below' : Account σ κ η'}

/-- Scans of a node in twin states, with what happens in them. -/
structure Reflects (R : η → η' → Prop) (nested : Scan σ κ η) (nested' : Scan σ κ η')
    (below : Account σ κ η) (below' : Account σ κ η') : Prop where
  mirrors : ∀ n s s', Twins R s s' → Mirrors R s s' (nested n s) (nested' n s')
  below_eq : ∀ n s s', Twins R s s' → below n s = below' n s'

theorem answer_mirrors (hn : Reflects R nested nested' below below') {r : Request σ κ}
    (hr : ¬ r.LooksBack) (h : Twins R s s') :
    Mirrors R s s' (answer setup nested r s) (answer setup' nested' r s') := by
  cases r with
  | scan node =>
      cases node with
      | none => exact ⟨rfl, h.mirrored⟩
      | some n => exact hn.mirrors n s s' h
  | scanRoot n =>
      rw [answer_scanRoot, answer_scanRoot]
      rcases (hn.mirrors n s s' h).cases with ⟨halt, hx, hx'⟩ | ⟨reply, t, t', hx, hx', hm⟩
      · rw [hx, hx']
        rfl
      · rw [hx, hx']
        cases reply with
        | panic payload => exact ⟨rfl, hm⟩
        | answer a =>
            cases a with
            | none => exact ⟨rfl, hm⟩
            | some r => exact ⟨rfl, hm.twins.note _ _, hm.frames⟩
  | report n name problem params =>
      obtain ⟨hpanic, htwins⟩ := report_alike alike h n name problem params
      rw [answer_report, answer_report, hpanic]
      exact ⟨rfl, .of_stack_eq htwins (Scanner.report_stack ..) (Scanner.report_stack ..)⟩
  | activate unit =>
      refine ⟨rfl, .of_stack_eq ?_ (Scanner.activate_stack ..) (Scanner.activate_stack ..)⟩
      cases unit with
      | none => exact ⟨h.pass_eq, rfl, h.files_eq, h.reports_alike⟩
      | some unit => exact ⟨h.pass_eq, rfl, h.files_eq, h.reports_alike⟩
  | read => exact ⟨congrArg Reply.answer h.pass_eq, h.mirrored⟩
  | unit => exact ⟨congrArg Reply.answer h.unit_eq, h.mirrored⟩
  | config => exact ⟨congrArg Reply.answer alike.config_eq, h.mirrored⟩
  | write state =>
      exact ⟨rfl, .of_stack_eq ⟨rfl, h.unit_eq, h.files_eq, h.reports_alike⟩ rfl rfl⟩
  | log event => exact ⟨rfl, .of_stack_eq (h.note _ _) rfl rfl⟩
  | editFiles edit =>
      have hfiles : edit s.scanner.files = edit s'.scanner.files := congrArg edit h.files_eq
      exact ⟨rfl, .of_stack_eq ⟨h.pass_eq, h.unit_eq, hfiles, h.reports_alike⟩ rfl rfl⟩
  | stack => exact absurd trivial hr
  | imports => exact absurd trivial hr
  | lines => exact absurd trivial hr
  | trace => exact absurd trivial hr

theorem duringRequest_eq (hn : Reflects R nested nested' below below') (r : Request σ κ)
    (h : Twins R s s') :
    duringRequest setup below r s = duringRequest setup' below' r s' := by
  cases r with
  | scan node =>
      cases node with
      | none => rfl
      | some n => exact hn.below_eq n s s' h
  | scanRoot n => exact hn.below_eq n s s' h
  | report n name problem params =>
      exact congrArg (fun x => [x]) (reporting_eq alike h n name problem params)
  | _ => rfl

theorem runVisit_mirrors (hn : Reflects R nested nested' below below') {v : Visit σ κ α}
    (hv : v.Blind) (h : Twins R s s') :
    Mirrors R s s' (runVisit setup nested v s) (runVisit setup' nested' v s') := by
  induction v generalizing s s' with
  | done result => exact ⟨rfl, h.mirrored⟩
  | interrupt cause => exact ⟨rfl, h.mirrored⟩
  | panic payload => exact ⟨rfl, h.mirrored⟩
  | request r next ih =>
      rw [runVisit_request, runVisit_request]
      rcases (answer_mirrors alike hn hv.1 h).cases with
        ⟨halt, hx, hx'⟩ | ⟨reply, t, t', hx, hx', hm⟩
      · rw [hx, hx']
        rfl
      · rw [hx, hx']
        cases reply with
        | answer a => exact .after hm (ih a (hv.2 a) hm.twins)
        | panic payload => exact ⟨rfl, hm⟩

theorem duringVisit_eq (hn : Reflects R nested nested' below below') {v : Visit σ κ α}
    (hv : v.Blind) (h : Twins R s s') :
    duringVisit setup nested below v s = duringVisit setup' nested' below' v s' := by
  induction v generalizing s s' with
  | request r next ih =>
      rw [duringVisit, duringVisit, duringRequest_eq alike hn r h]
      rcases (answer_mirrors alike hn hv.1 h).cases with
        ⟨halt, hx, hx'⟩ | ⟨reply, t, t', hx, hx', hm⟩
      · rw [hx, hx']
      · rw [hx, hx']
        cases reply with
        | answer a => exact congrArg _ (ih a (hv.2 a) hm.twins)
        | panic payload => rfl
  | _ => rfl

/-! ## One scan -/

theorem guarded_mirrors (hn : Reflects R nested nested' below below') {v : Visit σ κ Unit}
    (hv : v.Blind) (h : Twins R s s') :
    Mirrors R s s' (guarded setup nested v s) (guarded setup' nested' v s') := by
  unfold guarded
  rw [← alike.config_eq]
  rcases (runVisit_mirrors alike hn hv h).cases with ⟨halt, hx, hx'⟩ | ⟨outcome, t, t', hx, hx', hm⟩
  · rw [hx, hx']
    rfl
  · rw [hx, hx']
    cases setup.config.catchPanics with
    | false => exact ⟨rfl, hm⟩
    | true =>
        cases outcome with
        | completed result => exact ⟨rfl, hm⟩
        | interrupted cause => exact ⟨rfl, hm⟩
        | panicked payload =>
            -- Either stack is cut back to what it was, whatever that is.
            obtain ⟨frames, hs, hs'⟩ := hm.frames
            refine ⟨rfl, .of_stack_eq (hm.twins.restack _ _) ?_ ?_⟩
            · show t.scanner.stack.cutTo s.scanner.stack.length = _
              rw [hs]
              exact Stack.cutTo_append frames s.scanner.stack
            · show t'.scanner.stack.cutTo s'.scanner.stack.length = _
              rw [hs']
              exact Stack.cutTo_append frames s'.scanner.stack

theorem land_mirrors (hn : Reflects R nested nested' below below') {pass : Pass σ κ}
    (blind : pass.Blind) (n : Node) (callback : Option κ) (h : Twins R s s') :
    Mirrors R s s' (land setup pass nested n callback s)
      (land setup' pass nested' n callback s') := by
  have hland : (pass.land callback n).Blind := by
    refine (blind.landed n).bind fun _ => ?_
    cases callback with
    | none => exact trivial
    | some callback => exact blind.resume callback n
  exact .after (.of_stack_eq (h.note _ _) rfl rfl) (guarded_mirrors alike hn hland (h.note _ _))

theorem visit_mirrors (hn : Reflects R nested nested' below below') {pass : Pass σ κ}
    (blind : pass.Blind) (n : Node) (h : Twins R s s') :
    Mirrors R s s' (visit setup pass nested n s) (visit setup' pass nested' n s') := by
  unfold visit
  rcases (guarded_mirrors alike hn (blind.visit n) h).cases with
    ⟨halt, hx, hx'⟩ | ⟨outcome, t, t', hx, hx', hm⟩
  · rw [hx, hx']
    rfl
  · rw [hx, hx']
    cases outcome with
    | completed result => exact ⟨rfl, hm⟩
    | panicked payload => exact ⟨rfl, hm⟩
    | interrupted cause =>
        cases cause with
        | fault f => exact ⟨rfl, hm⟩
        | rollback r =>
            show Mirrors R s s' (if r.target.same n then _ else _)
              (if r.target.same n then _ else _)
            split
            · exact .after hm (land_mirrors alike hn blind n r.callback hm.twins)
            · exact ⟨rfl, hm⟩

theorem settle_alike (h : Twins R s s') (n : Node) (outcome : Outcome κ Unit) :
    (settle setup n s outcome).1 = (settle setup' n s' outcome).1 ∧
      Twins R (settle setup n s outcome).2 (settle setup' n s' outcome).2 := by
  cases outcome with
  | completed result => exact ⟨rfl, h⟩
  | panicked payload => exact ⟨rfl, h⟩
  | interrupted cause =>
      cases cause with
      | rollback r => exact ⟨rfl, h⟩
      | fault f =>
          obtain ⟨hpanic, htwins⟩ := internalError_alike alike h n f
          rw [settle_fault, settle_fault, hpanic]
          exact ⟨rfl, htwins⟩

omit alike in
theorem leave_mirrors {n : Node}
    (h : Mirrored R (s.on (s.scanner.enter n)) (s'.on (s'.scanner.enter n)) t t')
    (reply : Reply (Option (Rollback κ))) :
    Mirrors R s s' (leave n t reply) (leave n t' reply) := by
  obtain ⟨htwins, frames, hs, hs'⟩ := h
  rw [ScanState.on_scanner, Scanner.enter_stack] at hs hs'
  cases reply with
  | panic payload =>
      refine ⟨rfl, htwins, frames ++ [n], ?_, ?_⟩
      · rw [hs, List.append_assoc, List.singleton_append]
      · rw [hs', List.append_assoc, List.singleton_append]
  | answer r =>
      simp only [leave, Scanner.leave?]
      cases frames with
      | nil =>
          rw [List.nil_append] at hs hs'
          rw [hs, hs']
          simp only [Node.same_self]
          exact ⟨rfl, .of_stack_eq (htwins.restack _ _) rfl rfl⟩
      | cons top frames =>
          rw [List.cons_append] at hs hs'
          rw [hs, hs']
          cases hsame : top.same n with
          | false => simp only [hsame]; rfl
          | true =>
              simp only [hsame]
              refine ⟨rfl, htwins.restack _ _, frames ++ [n], ?_, ?_⟩
              · show frames ++ n :: s.scanner.stack = _
                rw [List.append_assoc, List.singleton_append]
              · show frames ++ n :: s'.scanner.stack = _
                rw [List.append_assoc, List.singleton_append]

theorem scanWith_mirrors (hn : Reflects R nested nested' below below') {pass : Pass σ κ}
    (blind : pass.Blind) (n : Node) (h : Twins R s s') :
    Mirrors R s s' (scanWith setup pass nested n s) (scanWith setup' pass nested' n s') := by
  unfold scanWith
  rcases (visit_mirrors alike hn blind n (h.enter n)).cases with
    ⟨halt, hx, hx'⟩ | ⟨outcome, t, t', hx, hx', hm⟩
  · rw [hx, hx']
    rfl
  · obtain ⟨hreply, htwins⟩ := settle_alike alike hm.twins n outcome
    rw [hx, hx']
    show Mirrors R s s' (leave n (settle setup n t outcome).2 (settle setup n t outcome).1)
      (leave n (settle setup' n t' outcome).2 (settle setup' n t' outcome).1)
    rw [hreply]
    exact leave_mirrors (.trans hm (.of_stack_eq htwins (settle_stack ..) (settle_stack ..))) _

/-! ## What happens in one scan -/

theorem duringLanding_eq (hn : Reflects R nested nested' below below') {pass : Pass σ κ}
    (blind : pass.Blind) (n : Node) (callback : Option κ) (h : Twins R s s') :
    duringLanding setup pass nested below n callback s =
      duringLanding setup' pass nested' below' n callback s' := by
  unfold duringLanding
  rw [duringVisit_eq alike hn (blind.landed n) h]
  rcases (runVisit_mirrors alike hn (blind.landed n) h).cases with
    ⟨halt, hx, hx'⟩ | ⟨outcome, t, t', hx, hx', hm⟩
  · rw [hx, hx']
    cases callback <;> rfl
  · rw [hx, hx']
    cases callback with
    | none => rfl
    | some callback =>
        cases outcome with
        | completed result =>
            have hresume := duringVisit_eq alike hn (blind.resume callback n) hm.twins
            exact congrArg (fun l => _ ++ .callback callback n :: l) hresume
        | interrupted cause => rfl
        | panicked payload => rfl

theorem duringScan_eq (hn : Reflects R nested nested' below below') {pass : Pass σ κ}
    (blind : pass.Blind) (n : Node) (h : Twins R s s') :
    duringScan setup pass nested below n s = duringScan setup' pass nested' below' n s' := by
  have hvisit := duringVisit_eq alike hn (blind.visit n) (h.enter n)
  have hafter : afterVisit setup pass nested below n
        (guarded setup nested (pass.visit n) (s.on (s.scanner.enter n))) =
      afterVisit setup' pass nested' below' n
        (guarded setup' nested' (pass.visit n) (s'.on (s'.scanner.enter n))) := by
    rcases (guarded_mirrors alike hn (blind.visit n) (h.enter n)).cases with
      ⟨halt, hx, hx'⟩ | ⟨outcome, t, t', hx, hx', hm⟩
    · rw [hx, hx']
      rfl
    · rw [hx, hx']
      cases outcome with
      | completed result => rfl
      | panicked payload => rfl
      | interrupted cause =>
          cases cause with
          | fault f => rfl
          | rollback r =>
              simp only [afterVisit]
              split
              · exact duringLanding_eq alike hn blind n r.callback (hm.twins.note _ _)
              · rfl
  have hsettling : duringSettling (κ := κ) setup n
        (visit setup pass nested n (s.on (s.scanner.enter n))) =
      duringSettling setup' n (visit setup' pass nested' n (s'.on (s'.scanner.enter n))) := by
    rcases (visit_mirrors alike hn blind n (h.enter n)).cases with
      ⟨halt, hx, hx'⟩ | ⟨outcome, t, t', hx, hx', hm⟩
    · rw [hx, hx']
      rfl
    · rw [hx, hx']
      cases outcome with
      | completed result => rfl
      | panicked payload => rfl
      | interrupted cause =>
          cases cause with
          | rollback r => rfl
          | fault f => exact congrArg (fun x => [x]) (reporting_eq alike hm.twins n none _ _)
  simp only [duringScan, hvisit, hafter, hsettling]

/-! ## All scans -/

/-- Scans in twin states are mirrored, and the same happens in them. -/
theorem scan_reflects {pass : Pass σ κ} (blind : pass.Blind) (limit : Nat) :
    Reflects R (scan setup pass limit) (scan setup' pass limit) (happenings setup pass limit)
      (happenings setup' pass limit) := by
  induction limit with
  | zero => exact ⟨fun _ _ _ _ => rfl, fun _ _ _ _ => rfl⟩
  | succ limit ih =>
      exact ⟨fun n _ _ h => scanWith_mirrors alike ih blind n h,
        fun n _ _ h => duringScan_eq alike ih blind n h⟩

end Alike

/-! ## Runs -/

/-- Two scanners with alike setups run a pass that does not look back.  Whatever is
left over in either of them, and whatever is on their stacks, the same happens in both
runs, in the same order, and both end in the same way.  A run that ends leaves the same
nodes on top of either stack, and none unless a panic left it. -/
theorem run_ignores_leftovers {pass : Pass σ κ} (blind : pass.Blind)
    (alike : setup.Alike setup' R) (limit tree : Nat) (unit : CompilationUnit)
    (s : ScanState σ η) (s' : ScanState σ η') (hpass : s.pass = s'.pass)
    (hfiles : s.scanner.files = s'.scanner.files)
    (hreports : R s.scanner.reports s'.scanner.reports) :
    runHappenings setup pass limit (.scanUnit tree unit) s =
      runHappenings setup' pass limit (.scanUnit tree unit) s' ∧
    ((∃ halt, run setup pass limit (.scanUnit tree unit) s = .error halt ∧
        run setup' pass limit (.scanUnit tree unit) s' = .error halt) ∨
      ∃ outcome t t' frames,
        run setup pass limit (.scanUnit tree unit) s = .ok (outcome, t) ∧
        run setup' pass limit (.scanUnit tree unit) s' = .ok (outcome, t') ∧
        t.pass = t'.pass ∧ R t.scanner.reports t'.scanner.reports ∧
        t.scanner.unit = t'.scanner.unit ∧ t.scanner.files = t'.scanner.files ∧
        t.scanner.stack = frames ++ s.scanner.stack ∧
        t'.scanner.stack = frames ++ s'.scanner.stack ∧
        (frames = [] ∨ ∃ payload, outcome = .panicked payload)) := by
  have hn := scan_reflects alike blind limit
  -- Both scanners have the same active unit once the run has begun.
  have htwins : Twins R (s.on (s.scanner.activate setup (some unit)))
      (s'.on (s'.scanner.activate setup' (some unit))) := ⟨hpass, rfl, hfiles, hreports⟩
  have hblind : (Visit.scanRoot (.root tree unit) : Visit σ κ (Option ScanError)).Blind := .ask id
  constructor
  · have hroot := duringVisit_eq alike hn hblind htwins
    exact hroot
  · have hs : run setup pass limit (.scanUnit tree unit) s =
        runVisit setup (scan setup pass limit) (Visit.scanRoot (.root tree unit)) _ :=
      runVisit_scanUnit setup _ tree unit s
    have hs' : run setup' pass limit (.scanUnit tree unit) s' =
        runVisit setup' (scan setup' pass limit) (Visit.scanRoot (.root tree unit)) _ :=
      runVisit_scanUnit setup' _ tree unit s'
    have hrestores := runVisit_restores setup (scan_restores setup pass limit)
      (.scanUnit tree unit) s
    rcases (runVisit_mirrors alike hn hblind htwins).cases with
      ⟨halt, hx, hx'⟩ | ⟨outcome, t, t', hx, hx', hm⟩
    · exact .inl ⟨halt, hs.trans hx, hs'.trans hx'⟩
    · obtain ⟨frames, ht, ht'⟩ := hm.frames
      have hrun := hs.trans hx
      refine .inr ⟨outcome, t, t', frames, hrun, hs'.trans hx', hm.twins.pass_eq,
        hm.twins.reports_alike, hm.twins.unit_eq, hm.twins.files_eq, ht, ht', ?_⟩
      rw [run] at hrun
      rw [hrun] at hrestores
      cases outcome with
      | completed result => exact .inl (List.append_left_eq_self.1 (ht.symm.trans hrestores))
      | interrupted cause => exact .inl (List.append_left_eq_self.1 (ht.symm.trans hrestores))
      | panicked payload => exact .inr ⟨payload, rfl⟩

/-- A happening in short. -/
def brief : Happening κ → String × List Nat
  | .visit n => ("visit", n.place.path)
  | .hook n => ("hook", n.place.path)
  | .callback _ n => ("callback", n.place.path)
  | .report d => (d.problem.code, [])

theorem behaving_blind (b : Node → Behaviour) : (behaving b).Blind where
  visit n := by
    refine (Visit.Blind.change _).bind fun _ => ?_
    cases b n with
    | walk => exact .scanAll n.children
    | _ => exact trivial
  landed _ := trivial
  resume callback _ := callback.elim

/-- A scanner on which nothing was scanned yet. -/
def freshState : ScanState (List Node) (List Diagnostic) := ⟨[], Scanner.idle (.empty []) []⟩

/-- A scanner on whose stack the root of another tree was left. -/
def usedState : ScanState (List Node) (List Diagnostic) :=
  ⟨[], { Scanner.idle (.empty []) [] with
    stack := [.root 1 classes]
    unit := some classes
    sources := ⟨some ("A.java", ["class A"])⟩ }⟩

/-- A rollback to a node that was left on the stack is no less an error of the run. -/
theorem usedState_ignored :
    ∃ t, run ⟨{}, some collecting, spanPositions⟩ (behaving mixed) 3 (.scanUnit 0 classes)
        usedState = .ok (.completed (some ⟨.compilationUnit, ⟨0, 49⟩⟩), t) ∧
      t.scanner.stack = [.root 1 classes] ∧
      (runHappenings ⟨{}, some collecting, spanPositions⟩ (behaving mixed) 3
          (.scanUnit 0 classes) usedState).map brief =
        [("visit", []), ("visit", [0]), ("visit", [0, 0]), ("hook", [0]), ("visit", [1]),
          ("ferry::internal", []), ("visit", [2]), ("ferry::internal", []), ("visit", [3])] := by
  have alike : Setup.Alike ⟨{}, some collecting, spanPositions⟩
      ⟨{}, some collecting, spanPositions⟩ Eq :=
    ⟨rfl, rfl, fun _ _ _ _ _ => rfl, fun _ _ _ _ h => h ▸ rfl⟩
  obtain ⟨hsame, hrun⟩ := run_ignores_leftovers (behaving_blind mixed) alike 3 0 classes
    freshState usedState rfl rfl rfl
  have hfresh : (account (run ⟨{}, some collecting, spanPositions⟩ (behaving mixed) 3
      (.scanUnit 0 classes) freshState)).map Prod.fst =
        some (some ⟨.compilationUnit, ⟨0, 49⟩⟩) := by
    decide +kernel
  rw [← hsame]
  rcases hrun with ⟨halt, hx, _⟩ | ⟨outcome, t, t', frames, hx, hx', _, _, _, _, _, hstack, hframes⟩
  · rw [hx] at hfresh
    cases hfresh
  · rw [hx] at hfresh
    cases outcome with
    | interrupted cause => cases hfresh
    | panicked payload => cases hfresh
    | completed result =>
        cases hfresh
        rcases hframes with rfl | ⟨payload, hpanic⟩
        · exact ⟨t', hx', hstack, by decide +kernel⟩
        · cases hpanic

end Engine

end TreeScan

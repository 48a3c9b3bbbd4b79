import TreeScan.Proofs.Scan.Changes
import TreeScan.Proofs.Scan.Deliveries
import TreeScan.Proofs.Scan.Happenings

/-!
# Reports have no effect on scans

What becomes of a report is no concern of a scan.  Two scanners with different handlers
of diagnostics, different position services and different settings for stack traces
scan in the same way, as long as no handler gives up and the pass does not look at
source lines, at stack traces or at these settings.

The states of two such scanners *agree* (`Agree`): the pass, the stack, the active unit,
the static imports and the files are the same, and what the scanners were told is
related.  The source caches and the logs may be different, since a stack trace that is
written after an internal error loads source lines and is noted.

Each layer of the engine gives the same result on states that agree, and leaves states
that agree, if the scans nested in it do.  The same happens on both sides, and the same
is changed, if positions are looked at through a common `blur`.
-/

namespace TreeScan

/-! ## Passes that do not look -/

/-- A request that is answered in the same way whatever becomes of reports. -/
def Request.Neutral {σ κ : Type} : Request σ κ → Prop
  | .config => False
  | .lines => False
  | .trace => False
  | _ => True

/-- A visit that does not ask for source lines or stack traces, and for which it makes no
difference which of two settings the scanner has. -/
inductive Visit.Discreet {σ κ α : Type} (c c' : ScanConfig) : Visit σ κ α → Prop where
  | done (result : α) : Discreet c c' (.done result)
  | interrupt (cause : Interrupt κ) : Discreet c c' (.interrupt cause)
  | panic (payload : Payload) : Discreet c c' (.panic payload)
  | config {next : ScanConfig → Visit σ κ α} : next c = next c' → Discreet c c' (next c) →
      Discreet c c' (.request .config next)
  | request {r : Request σ κ} {next : r.Answer → Visit σ κ α} : r.Neutral →
      (∀ a, Discreet c c' (next a)) → Discreet c c' (.request r next)

/-- A pass whose visits do not ask for source lines or stack traces, and for which it makes
no difference which of two settings the scanner has. -/
structure Pass.Discreet {σ κ : Type} (c c' : ScanConfig) (pass : Pass σ κ) : Prop where
  visit : ∀ n, (pass.visit n).Discreet c c'
  landed : ∀ n, (pass.landed n).Discreet c c'
  resume : ∀ callback n, (pass.resume callback n).Discreet c c'

namespace Visit.Discreet

variable {σ κ α β : Type} {c c' : ScanConfig}

theorem bind {v : Visit σ κ α} {f : α → Visit σ κ β} (hv : v.Discreet c c')
    (hf : ∀ a, (f a).Discreet c c') : (v.bind f).Discreet c c' := by
  induction hv with
  | done result => exact hf result
  | interrupt cause => exact .interrupt cause
  | panic payload => exact .panic payload
  | config hnext _ ih => exact .config (congrArg (·.bind f) hnext) ih
  | request hr _ ih => exact .request hr ih

theorem ask {r : Request σ κ} (hr : r.Neutral) : (Visit.ask r).Discreet c c' := .request hr .done

theorem forward (r : Option (Rollback κ)) :
    (Visit.forward r : Visit σ κ Unit).Discreet c c' := by
  cases r with
  | none => exact .done ()
  | some r => exact .interrupt (.rollback r)

theorem scanAll (nodes : List Node) : (Visit.scanAll nodes : Visit σ κ Unit).Discreet c c' := by
  induction nodes with
  | nil => exact .done ()
  | cons n nodes ih => exact bind (bind (ask trivial) forward) fun _ => ih

theorem scanUnit (tree : Nat) (unit : CompilationUnit) :
    (Visit.scanUnit tree unit : Visit σ κ (Option ScanError)).Discreet c c' :=
  bind (ask trivial) fun _ => ask trivial

theorem land {pass : Pass σ κ} (hp : pass.Discreet c c') (callback : Option κ) (n : Node) :
    (pass.land callback n).Discreet c c' := by
  refine (hp.landed n).bind fun _ => ?_
  cases callback with
  | none => exact .done ()
  | some callback => exact hp.resume callback n

end Visit.Discreet

/-! ## What scanners are told -/

variable {η η' : Type}

/-- The state of the handler, and the messages for which there was none. -/
def Scanner.told (s : Scanner η) : η × List String := (s.reports, s.unhandled)

/-- What a scanner was told, with one more diagnostic. -/
def Setup.tell (setup : Setup η) (d : Diagnostic) (files : FileStore) (told : η × List String) :
    η × List String :=
  (setup.heard files told.1 [d], told.2 ++ setup.unheard [d])

theorem Hears.told_eq {setup : Setup η} {d : Diagnostic} {s s' : Scanner η}
    (h : Hears setup [d] s s') : s'.told = setup.tell d s.files s.told :=
  Prod.ext h.reports_eq h.unhandled_eq

theorem Hears.told_unchanged {setup : Setup η} {s s' : Scanner η} (h : Hears setup [] s s') :
    s'.told = s.told := by
  have hreports := h.reports_eq
  have hunhandled := h.unhandled_eq
  rw [setup.heard_nil] at hreports
  rw [setup.unheard_nil, List.append_nil] at hunhandled
  exact Prod.ext hreports hunhandled

/-! ## Positions through a blur -/

/-- A diagnostic whose position is seen through a blur. -/
def Diagnostic.blurred (blur : Option SourcePosition → Option SourcePosition) (d : Diagnostic) :
    Diagnostic :=
  { d with position := blur d.position }

/-- A happening in which positions are seen through a blur. -/
def Happening.blurred {κ : Type} (blur : Option SourcePosition → Option SourcePosition) :
    Happening κ → Happening κ
  | .report d => .report (d.blurred blur)
  | happening => happening

/-- Two setups that differ at most in what becomes of reports.  No handler gives up.  The
positions are the same through a blur, and a relation `R` between what the scanners were
told is kept by diagnostics that are. -/
structure Setup.Peers (setup : Setup η) (setup' : Setup η')
    (blur : Option SourcePosition → Option SourcePosition)
    (R : η × List String → η' × List String → Prop) : Prop where
  quiet : setup.Quiet
  quiet' : setup'.Quiet
  staticImports_eq : setup.config.staticImports = setup'.config.staticImports
  catchPanics_eq : setup.config.catchPanics = setup'.config.catchPanics
  positions_eq : ∀ unit n name,
    blur (setup.positions unit n name) = blur (setup'.positions unit n name)
  tell : ∀ d d' files told told', d.blurred blur = d'.blurred blur → R told told' →
    R (setup.tell d files told) (setup'.tell d' files told')

/-! ## What reports leave alone -/

namespace Scanner

@[simp] theorem lines_imports (s : Scanner η) : s.lines.2.imports = s.imports := by
  unfold lines
  cases s.unit with
  | none => rfl
  | some unit => rfl

@[simp] theorem report_imports (setup : Setup η) (s : Scanner η) (n : Node) (name : Option String)
    (problem : Problem) (params : List String) :
    (s.report setup n name problem params).2.imports = s.imports := by
  unfold report
  cases setup.handler with
  | none => rfl
  | some handler => rfl

end Scanner

namespace Engine

@[simp] theorem internalError_imports (setup : Setup η) (n : Node) (f : Fault) (s : Scanner η) :
    (internalError setup n f s).2.imports = s.imports := by
  have h := (s.note [failing n f]).report_imports setup n none .internalError [f.text]
  unfold internalError
  split
  · next payload after hr =>
      rw [hr] at h
      exact h
  · next after hr =>
      rw [hr] at h
      split
      · exact after.lines_imports.trans h
      · exact h

/-! ## States that agree -/

variable {σ κ α : Type} {R : η × List String → η' × List String → Prop}

/-- Two states that differ at most in what became of reports. -/
structure Agree (R : η × List String → η' × List String → Prop) (s : ScanState σ η)
    (s' : ScanState σ η') : Prop where
  pass_eq : s.pass = s'.pass
  stack_eq : s.scanner.stack = s'.scanner.stack
  unit_eq : s.scanner.unit = s'.scanner.unit
  imports_eq : s.scanner.imports = s'.scanner.imports
  files_eq : s.scanner.files = s'.scanner.files
  told : R s.scanner.told s'.scanner.told

/-- Two computations with the same result that end in states that agree. -/
def Agrees (R : η × List String → η' × List String → Prop) :
    Except Halt (α × ScanState σ η) → Except Halt (α × ScanState σ η') → Prop
  | .error halt, .error halt' => halt = halt'
  | .ok (a, t), .ok (a', t') => a = a' ∧ Agree R t t'
  | _, _ => False

variable {s t : ScanState σ η} {s' t' : ScanState σ η'}

/-- What two computations have come to that agree. -/
theorem Agrees.cases {x : Except Halt (α × ScanState σ η)} {x' : Except Halt (α × ScanState σ η')}
    (h : Agrees R x x') :
    (∃ halt, x = .error halt ∧ x' = .error halt) ∨
      ∃ a t t', x = .ok (a, t) ∧ x' = .ok (a, t') ∧ Agree R t t' := by
  cases x with
  | error halt =>
      cases x' with
      | error halt' =>
          cases h
          exact .inl ⟨halt, rfl, rfl⟩
      | ok result => cases h
  | ok result =>
      cases x' with
      | error halt' => cases h
      | ok result' =>
          obtain ⟨a, t⟩ := result
          obtain ⟨a', t'⟩ := result'
          obtain ⟨rfl, ht⟩ := h
          exact .inr ⟨a, t, t', rfl, rfl, ht⟩

namespace Agree

theorem note (h : Agree R s s') (events events' : List LogEvent) :
    Agree R (s.on (s.scanner.note events)) (s'.on (s'.scanner.note events')) :=
  ⟨h.pass_eq, h.stack_eq, h.unit_eq, h.imports_eq, h.files_eq, h.told⟩

theorem restack (h : Agree R s s') (stack : Stack) : Agree R (s.restack stack) (s'.restack stack) :=
  ⟨h.pass_eq, rfl, h.unit_eq, h.imports_eq, h.files_eq, h.told⟩

theorem enter (h : Agree R s s') (n : Node) :
    Agree R (s.on (s.scanner.enter n)) (s'.on (s'.scanner.enter n)) :=
  ⟨h.pass_eq, congrArg (n :: ·) h.stack_eq, h.unit_eq, h.imports_eq, h.files_eq, h.told⟩

theorem cutTo (h : Agree R s s') (depth : Nat) :
    Agree R (s.on (s.scanner.cutTo depth)) (s'.on (s'.scanner.cutTo depth)) :=
  ⟨h.pass_eq, congrArg (Stack.cutTo · depth) h.stack_eq, h.unit_eq, h.imports_eq, h.files_eq,
    h.told⟩

end Agree

/-! ## Reports -/

variable {setup : Setup η} {setup' : Setup η'}
  {blur : Option SourcePosition → Option SourcePosition}

section Peers

variable (peers : setup.Peers setup' blur R)
include peers

theorem position_blurred (h : Agree R s s') (n : Node) (name : Option String) :
    blur (s.scanner.position? setup n name) = blur (s'.scanner.position? setup' n name) := by
  rw [Scanner.position?, Scanner.position?, h.unit_eq]
  cases s'.scanner.unit with
  | none => rfl
  | some unit => exact peers.positions_eq unit n name

theorem reporting_blurred (h : Agree R s s') (n : Node) (name : Option String) (problem : Problem)
    (params : List String) :
    (reporting setup s.scanner n name problem params : Happening κ).blurred blur =
      (reporting setup' s'.scanner n name problem params).blurred blur := by
  have hposition := position_blurred peers h n name
  simp only [reporting, Happening.blurred, Diagnostic.blurred, hposition]

theorem report_agree (h : Agree R s s') (n : Node) (name : Option String) (problem : Problem)
    (params : List String) :
    Agree R (s.on (s.scanner.report setup n name problem params).2)
      (s'.on (s'.scanner.report setup' n name problem params).2) := by
  have hhears := (Scanner.report_hears peers.quiet s.scanner n name problem params).2
  have hhears' := (Scanner.report_hears peers.quiet' s'.scanner n name problem params).2
  have hposition := position_blurred peers h n name
  constructor
  · exact h.pass_eq
  · exact (Scanner.report_stack ..).trans (h.stack_eq.trans (Scanner.report_stack ..).symm)
  · exact hhears.unit_eq.trans (h.unit_eq.trans hhears'.unit_eq.symm)
  · exact (Scanner.report_imports ..).trans (h.imports_eq.trans (Scanner.report_imports ..).symm)
  · exact hhears.files_eq.trans (h.files_eq.trans hhears'.files_eq.symm)
  · rw [ScanState.on_scanner, ScanState.on_scanner, hhears.told_eq, hhears'.told_eq, h.files_eq]
    refine peers.tell _ _ _ _ _ ?_ h.told
    simp only [Diagnostic.blurred, hposition]

/-- An internal error is reported on both sides.  A stack trace may be written on either,
and that changes nothing that matters. -/
theorem internalError_agree (h : Agree R s s') (n : Node) (f : Fault) :
    Agree R (s.on (internalError setup n f s.scanner).2)
      (s'.on (internalError setup' n f s'.scanner).2) := by
  have hreported :=
    report_agree peers (h.note [failing n f] [failing n f]) n none .internalError [f.text]
  have hsilent := internalError_silent setup n f s.scanner
  have hsilent' := internalError_silent setup' n f s'.scanner
  constructor
  · exact h.pass_eq
  · exact (internalError_stack ..).trans (h.stack_eq.trans (internalError_stack ..).symm)
  · exact hsilent.unit_eq.trans (hreported.unit_eq.trans hsilent'.unit_eq.symm)
  · exact (internalError_imports ..).trans (h.imports_eq.trans (internalError_imports ..).symm)
  · exact hsilent.files_eq.trans (hreported.files_eq.trans hsilent'.files_eq.symm)
  · rw [ScanState.on_scanner, ScanState.on_scanner, hsilent.told_unchanged,
      hsilent'.told_unchanged]
    exact hreported.told

/-! ## Requests and visits -/

variable {nested : Scan σ κ η} {nested' : Scan σ κ η'} {below : Account σ κ η}
  {below' : Account σ κ η'} {ledger : Ledger σ η} {ledger' : Ledger σ η'}

/-- Scans of a node in states that agree, with what happens in them and what they change. -/
structure Coincide (R : η × List String → η' × List String → Prop)
    (blur : Option SourcePosition → Option SourcePosition) (nested : Scan σ κ η)
    (nested' : Scan σ κ η') (below : Account σ κ η) (below' : Account σ κ η') (ledger : Ledger σ η)
    (ledger' : Ledger σ η') : Prop where
  agrees : ∀ n s s', Agree R s s' → Agrees R (nested n s) (nested' n s')
  below_eq : ∀ n s s', Agree R s s' →
    (below n s).map (·.blurred blur) = (below' n s').map (·.blurred blur)
  ledger_eq : ∀ n s s', Agree R s s' → ledger n s = ledger' n s'

variable (hn : Coincide R blur nested nested' below below' ledger ledger')
include hn

theorem answer_agrees {r : Request σ κ} (hr : r.Neutral) (h : Agree R s s') :
    Agrees R (answer setup nested r s) (answer setup' nested' r s') := by
  cases r with
  | scan node =>
      cases node with
      | none => exact ⟨rfl, h⟩
      | some n => exact hn.agrees n s s' h
  | scanRoot n =>
      rw [answer_scanRoot, answer_scanRoot]
      rcases (hn.agrees n s s' h).cases with ⟨halt, hx, hx'⟩ | ⟨reply, t, t', hx, hx', ht⟩
      · rw [hx, hx']
        rfl
      · rw [hx, hx']
        cases reply with
        | panic payload => exact ⟨rfl, ht⟩
        | answer a =>
            cases a with
            | none => exact ⟨rfl, ht⟩
            | some r => exact ⟨rfl, ht.note _ _⟩
  | report n name problem params =>
      have hquiet := (Scanner.report_hears peers.quiet s.scanner n name problem params).1
      have hquiet' := (Scanner.report_hears peers.quiet' s'.scanner n name problem params).1
      rw [answer_report, answer_report, hquiet, hquiet']
      exact ⟨rfl, report_agree peers h n name problem params⟩
  | activate unit =>
      refine ⟨rfl, ?_⟩
      cases unit with
      | none => exact ⟨h.pass_eq, h.stack_eq, rfl, h.imports_eq, h.files_eq, h.told⟩
      | some unit =>
          refine ⟨h.pass_eq, h.stack_eq, rfl, ?_, h.files_eq, h.told⟩
          show (s.scanner.imports.register setup.config.staticImports unit).1 =
            (s'.scanner.imports.register setup'.config.staticImports unit).1
          rw [h.imports_eq, peers.staticImports_eq]
  | read => exact ⟨congrArg Reply.answer h.pass_eq, h⟩
  | stack => exact ⟨congrArg Reply.answer h.stack_eq, h⟩
  | unit => exact ⟨congrArg Reply.answer h.unit_eq, h⟩
  | imports => exact ⟨congrArg Reply.answer h.imports_eq, h⟩
  | write state =>
      exact ⟨rfl, rfl, h.stack_eq, h.unit_eq, h.imports_eq, h.files_eq, h.told⟩
  | log event => exact ⟨rfl, h.note _ _⟩
  | editFiles edit =>
      have hfiles : edit s.scanner.files = edit s'.scanner.files := congrArg edit h.files_eq
      exact ⟨rfl, h.pass_eq, h.stack_eq, h.unit_eq, h.imports_eq, hfiles, h.told⟩
  | config => exact hr.elim
  | lines => exact hr.elim
  | trace => exact hr.elim

theorem runVisit_agrees {v : Visit σ κ α} (hv : v.Discreet setup.config setup'.config)
    (h : Agree R s s') : Agrees R (runVisit setup nested v s) (runVisit setup' nested' v s') := by
  induction hv generalizing s s' with
  | done result => exact ⟨rfl, h⟩
  | interrupt cause => exact ⟨rfl, h⟩
  | panic payload => exact ⟨rfl, h⟩
  | config hnext _ ih =>
      have hrest := ih h
      rw [runVisit_request, runVisit_request]
      show Agrees R (runVisit setup nested _ s) (runVisit setup' nested' _ s')
      rw [← hnext]
      exact hrest
  | request hr _ ih =>
      rw [runVisit_request, runVisit_request]
      rcases (answer_agrees peers hn hr h).cases with ⟨halt, hx, hx'⟩ | ⟨reply, t, t', hx, hx', ht⟩
      · rw [hx, hx']
        rfl
      · rw [hx, hx']
        cases reply with
        | answer a => exact ih a ht
        | panic payload => exact ⟨rfl, ht⟩

theorem duringRequest_blurred (r : Request σ κ) (h : Agree R s s') :
    (duringRequest setup below r s).map (·.blurred blur) =
      (duringRequest setup' below' r s').map (·.blurred blur) := by
  cases r with
  | scan node =>
      cases node with
      | none => rfl
      | some n => exact hn.below_eq n s s' h
  | scanRoot n => exact hn.below_eq n s s' h
  | report n name problem params =>
      exact congrArg (fun x => [x]) (reporting_blurred peers h n name problem params)
  | _ => rfl

theorem duringVisit_blurred {v : Visit σ κ α} (hv : v.Discreet setup.config setup'.config)
    (h : Agree R s s') :
    (duringVisit setup nested below v s).map (·.blurred blur) =
      (duringVisit setup' nested' below' v s').map (·.blurred blur) := by
  induction hv generalizing s s' with
  | done result => rfl
  | interrupt cause => rfl
  | panic payload => rfl
  | config hnext _ ih =>
      have hrest := ih h
      rw [duringVisit, duringVisit]
      show (duringVisit setup nested below _ s).map _ =
        (duringVisit setup' nested' below' _ s').map _
      rw [← hnext]
      exact hrest
  | request hr _ ih =>
      rw [duringVisit, duringVisit, List.map_append, List.map_append,
        duringRequest_blurred peers hn _ h]
      rcases (answer_agrees peers hn hr h).cases with ⟨halt, hx, hx'⟩ | ⟨reply, t, t', hx, hx', ht⟩
      · rw [hx, hx']
      · rw [hx, hx']
        cases reply with
        | answer a => exact congrArg _ (ih a ht)
        | panic payload => rfl

omit peers in
theorem changedByRequest_eq (r : Request σ κ) (h : Agree R s s') :
    changedByRequest ledger r s = changedByRequest ledger' r s' := by
  cases r with
  | scan node =>
      cases node with
      | none => rfl
      | some n => exact hn.ledger_eq n s s' h
  | scanRoot n => exact hn.ledger_eq n s s' h
  | _ => rfl

theorem changedInVisit_eq {v : Visit σ κ α} (hv : v.Discreet setup.config setup'.config)
    (h : Agree R s s') :
    changedInVisit setup nested ledger v s = changedInVisit setup' nested' ledger' v s' := by
  induction hv generalizing s s' with
  | done result => rfl
  | interrupt cause => rfl
  | panic payload => rfl
  | config hnext _ ih =>
      have hrest := ih h
      rw [changedInVisit, changedInVisit]
      show changedInVisit setup nested ledger _ s = changedInVisit setup' nested' ledger' _ s'
      rw [← hnext]
      exact hrest
  | request hr _ ih =>
      rw [changedInVisit, changedInVisit, changedByRequest_eq hn _ h]
      rcases (answer_agrees peers hn hr h).cases with ⟨halt, hx, hx'⟩ | ⟨reply, t, t', hx, hx', ht⟩
      · rw [hx, hx']
      · rw [hx, hx']
        cases reply with
        | answer a => exact congrArg _ (ih a ht)
        | panic payload => rfl

/-! ## One scan -/

theorem guarded_agrees {v : Visit σ κ Unit} (hv : v.Discreet setup.config setup'.config)
    (h : Agree R s s') : Agrees R (guarded setup nested v s) (guarded setup' nested' v s') := by
  unfold guarded
  rw [← peers.catchPanics_eq, ← h.stack_eq]
  rcases (runVisit_agrees peers hn hv h).cases with ⟨halt, hx, hx'⟩ | ⟨outcome, t, t', hx, hx', ht⟩
  · rw [hx, hx']
    rfl
  · rw [hx, hx']
    cases setup.config.catchPanics with
    | false => exact ⟨rfl, ht⟩
    | true =>
        cases outcome with
        | completed result => exact ⟨rfl, ht⟩
        | interrupted cause => exact ⟨rfl, ht⟩
        | panicked payload => exact ⟨rfl, ht.cutTo _⟩

variable {pass : Pass σ κ} (discreet : pass.Discreet setup.config setup'.config)
include discreet

theorem land_agrees (n : Node) (callback : Option κ) (h : Agree R s s') :
    Agrees R (land setup pass nested n callback s) (land setup' pass nested' n callback s') :=
  guarded_agrees peers hn (.land discreet callback n) (h.note _ _)

theorem visit_agrees (n : Node) (h : Agree R s s') :
    Agrees R (visit setup pass nested n s) (visit setup' pass nested' n s') := by
  unfold visit
  rcases (guarded_agrees peers hn (discreet.visit n) h).cases with
    ⟨halt, hx, hx'⟩ | ⟨outcome, t, t', hx, hx', ht⟩
  · rw [hx, hx']
    rfl
  · rw [hx, hx']
    cases outcome with
    | completed result => exact ⟨rfl, ht⟩
    | panicked payload => exact ⟨rfl, ht⟩
    | interrupted cause =>
        cases cause with
        | fault f => exact ⟨rfl, ht⟩
        | rollback r =>
            show Agrees R (if r.target.same n then _ else _) (if r.target.same n then _ else _)
            split
            · exact land_agrees peers hn discreet n r.callback ht
            · exact ⟨rfl, ht⟩

omit hn discreet in
theorem settle_agree (n : Node) (outcome : Outcome κ Unit) (h : Agree R s s') :
    (settle setup n s outcome).1 = (settle setup' n s' outcome).1 ∧
      Agree R (settle setup n s outcome).2 (settle setup' n s' outcome).2 := by
  cases outcome with
  | completed result => exact ⟨rfl, h⟩
  | panicked payload => exact ⟨rfl, h⟩
  | interrupted cause =>
      cases cause with
      | rollback r => exact ⟨rfl, h⟩
      | fault f =>
          rw [settle_fault, settle_fault, internalError_quiet peers.quiet,
            internalError_quiet peers.quiet']
          exact ⟨rfl, internalError_agree peers h n f⟩

omit peers hn discreet in
theorem leave_agrees (n : Node) (reply : Reply (Option (Rollback κ))) (h : Agree R s s') :
    Agrees R (leave n s reply) (leave n s' reply) := by
  cases reply with
  | panic payload => exact ⟨rfl, h⟩
  | answer r =>
      simp only [leave, Scanner.leave?, ← h.stack_eq]
      cases s.scanner.stack with
      | nil => rfl
      | cons top rest =>
          cases hsame : top.same n with
          | false =>
              simp only [hsame]
              rfl
          | true =>
              simp only [hsame]
              exact ⟨rfl, h.restack rest⟩

theorem scanWith_agrees (n : Node) (h : Agree R s s') :
    Agrees R (scanWith setup pass nested n s) (scanWith setup' pass nested' n s') := by
  unfold scanWith
  rcases (visit_agrees peers hn discreet n (h.enter n)).cases with
    ⟨halt, hx, hx'⟩ | ⟨outcome, t, t', hx, hx', ht⟩
  · rw [hx, hx']
    rfl
  · obtain ⟨hreply, hsettled⟩ := settle_agree peers n outcome ht
    rw [hx, hx']
    show Agrees R (leave n (settle setup n t outcome).2 (settle setup n t outcome).1)
      (leave n (settle setup' n t' outcome).2 (settle setup' n t' outcome).1)
    rw [hreply]
    exact leave_agrees n _ hsettled

/-! ## What happens in one scan, and what it changes -/

theorem duringLanding_blurred (n : Node) (callback : Option κ) (h : Agree R s s') :
    (duringLanding setup pass nested below n callback s).map (·.blurred blur) =
      (duringLanding setup' pass nested' below' n callback s').map (·.blurred blur) := by
  unfold duringLanding
  rw [List.map_append, List.map_append, List.map_cons, List.map_cons,
    duringVisit_blurred peers hn (discreet.landed n) h]
  refine congrArg _ ?_
  cases callback with
  | none => rfl
  | some callback =>
      rcases (runVisit_agrees peers hn (discreet.landed n) h).cases with
        ⟨halt, hx, hx'⟩ | ⟨outcome, t, t', hx, hx', ht⟩
      · rw [hx, hx']
      · rw [hx, hx']
        cases outcome with
        | interrupted cause => rfl
        | panicked payload => rfl
        | completed result =>
            exact congrArg (.callback callback n :: ·)
              (duringVisit_blurred peers hn (discreet.resume callback n) ht)

theorem afterVisit_blurred (n : Node) (h : Agree R s s') :
    (afterVisit setup pass nested below n (guarded setup nested (pass.visit n) s)).map
        (·.blurred blur) =
      (afterVisit setup' pass nested' below' n (guarded setup' nested' (pass.visit n) s')).map
        (·.blurred blur) := by
  rcases (guarded_agrees peers hn (discreet.visit n) h).cases with
    ⟨halt, hx, hx'⟩ | ⟨outcome, t, t', hx, hx', ht⟩
  · rw [hx, hx']
    rfl
  · rw [hx, hx']
    cases outcome with
    | completed result => rfl
    | panicked payload => rfl
    | interrupted cause =>
        cases cause with
        | fault f => rfl
        | rollback r =>
            simp only [afterVisit]
            split
            · exact duringLanding_blurred peers hn discreet n r.callback (ht.note _ _)
            · rfl

theorem duringSettling_blurred (n : Node) (h : Agree R s s') :
    (duringSettling (κ := κ) setup n (visit setup pass nested n s)).map (·.blurred blur) =
      (duringSettling setup' n (visit setup' pass nested' n s')).map (·.blurred blur) := by
  rcases (visit_agrees peers hn discreet n h).cases with
    ⟨halt, hx, hx'⟩ | ⟨outcome, t, t', hx, hx', ht⟩
  · rw [hx, hx']
    rfl
  · rw [hx, hx']
    cases outcome with
    | completed result => rfl
    | panicked payload => rfl
    | interrupted cause =>
        cases cause with
        | rollback r => rfl
        | fault f => exact congrArg (fun x => [x]) (reporting_blurred peers ht n none _ _)

theorem duringScan_blurred (n : Node) (h : Agree R s s') :
    (duringScan setup pass nested below n s).map (·.blurred blur) =
      (duringScan setup' pass nested' below' n s').map (·.blurred blur) := by
  have hvisit := duringVisit_blurred peers hn (discreet.visit n) (h.enter n)
  have hafter := afterVisit_blurred peers hn discreet n (h.enter n)
  have hsettling := duringSettling_blurred peers hn discreet n (h.enter n)
  simp only [duringScan, List.map_append, List.map_cons, hvisit, hafter, hsettling]

theorem changedAfterVisit_eq (n : Node) (h : Agree R s s') :
    changedAfterVisit setup pass nested ledger n (guarded setup nested (pass.visit n) s) =
      changedAfterVisit setup' pass nested' ledger' n
        (guarded setup' nested' (pass.visit n) s') := by
  rcases (guarded_agrees peers hn (discreet.visit n) h).cases with
    ⟨halt, hx, hx'⟩ | ⟨outcome, t, t', hx, hx', ht⟩
  · rw [hx, hx']
    rfl
  · rw [hx, hx']
    cases outcome with
    | completed result => rfl
    | panicked payload => rfl
    | interrupted cause =>
        cases cause with
        | fault f => rfl
        | rollback r =>
            simp only [changedAfterVisit]
            split
            · exact changedInVisit_eq peers hn (.land discreet r.callback n) (ht.note _ _)
            · rfl

/-- One scan coincides on both sides if the scans nested in it do. -/
theorem scanWith_coincide :
    Coincide R blur (scanWith setup pass nested) (scanWith setup' pass nested')
      (duringScan setup pass nested below) (duringScan setup' pass nested' below')
      (changedInScan setup pass nested ledger) (changedInScan setup' pass nested' ledger') where
  agrees n _ _ h := scanWith_agrees peers hn discreet n h
  below_eq n _ _ h := duringScan_blurred peers hn discreet n h
  ledger_eq n s s' h := by
    have hvisit := changedInVisit_eq peers hn (discreet.visit n) (h.enter n)
    have hafter := changedAfterVisit_eq peers hn discreet n (h.enter n)
    simp only [changedInScan, hvisit, hafter]

omit hn in
/-- All scans coincide on both sides. -/
theorem scan_coincide (limit : Nat) :
    Coincide R blur (scan setup pass limit) (scan setup' pass limit)
      (happenings setup pass limit) (happenings setup' pass limit)
      (changes setup pass limit) (changes setup' pass limit) := by
  induction limit with
  | zero => exact ⟨fun _ _ _ _ => rfl, fun _ _ _ _ => rfl, fun _ _ _ _ => rfl⟩
  | succ limit ih => exact scanWith_coincide peers ih discreet

end Peers

end Engine

end TreeScan

import TreeScan.Proofs.Scan.Happenings
import TreeScan.Proofs.Scan.Recording

/-!
# Happenings are what passes and handlers see

The happenings of a scan are read off the engine.  That they do happen can be seen from
the two sides that take part in a scan.

*The pass.*  Without the reports, the happenings are what a pass records that writes down
each visit, each landing and each callback (`run_records_deeds`).

*The handler.*  The reports among them are what the handler of diagnostics is given, in
this order, whatever it does with them and also if it gives up (`run_tells`).  Without a
handler their messages are kept as unhandled (`run_leaves_unhandled`).
-/

namespace TreeScan

variable {σ κ η α : Type}

namespace Happening

/-- The diagnostic of a report. -/
def diagnostic? : Happening κ → Option Diagnostic
  | .report d => some d
  | _ => none

/-- The happenings but for the reports. -/
def deeds (hs : List (Happening κ)) : List (Happening κ) := hs.filter (·.diagnostic?.isNone)

/-- The diagnostics that are reported. -/
def reports (hs : List (Happening κ)) : List Diagnostic := hs.filterMap diagnostic?

/-- Writes down visits, landings and callbacks. -/
def notes : Notes κ (Happening κ) where
  visit n _ := [.visit n]
  landed n := [.hook n]
  resume callback n := [.callback callback n]

theorem deeds_append (hs hs' : List (Happening κ)) : deeds (hs ++ hs') = deeds hs ++ deeds hs' :=
  List.filter_append ..

theorem reports_append (hs hs' : List (Happening κ)) :
    reports (hs ++ hs') = reports hs ++ reports hs' :=
  List.filterMap_append

end Happening

namespace Engine

open Happening

variable {setup : Setup η} {pass : Pass σ κ} {nested : Scan σ κ η} {below : Account σ κ η}
  {s t : ScanState σ η}

/-! ## What a pass records -/

section

variable {seen : Watch σ η (Happening κ)}

theorem deeds_duringVisit (hb : ∀ n s, deeds (below n s) = seen n s) (v : Visit σ κ α)
    (s : ScanState σ η) :
    deeds (duringVisit setup nested below v s) = observedInVisit setup nested seen v s := by
  induction v generalizing s with
  | done result => rfl
  | interrupt cause => rfl
  | panic payload => rfl
  | request r next ih =>
      have hrequest : deeds (duringRequest setup below r s) = observedByRequest seen r s := by
        cases r with
        | scan node =>
            cases node with
            | none => rfl
            | some n => exact hb n s
        | scanRoot n => exact hb n s
        | _ => rfl
      rw [duringVisit, observedInVisit, deeds_append, hrequest]
      rcases answer setup nested r s with halt | ⟨a | payload, t⟩
      · rfl
      · exact congrArg (_ ++ ·) (ih a t)
      · rfl

theorem deeds_duringLanding (hb : ∀ n s, deeds (below n s) = seen n s) (n : Node)
    (callback : Option κ) (s : ScanState σ η) :
    deeds (duringLanding setup pass nested below n callback s) =
      observedInLanding notes setup pass nested seen n callback s := by
  have htold : deeds (.hook n :: duringVisit setup nested below (pass.landed n) s) =
      notes.landed n ++ observedInVisit setup nested seen (pass.landed n) s :=
    congrArg (_ :: ·) (deeds_duringVisit hb (pass.landed n) s)
  unfold duringLanding observedInLanding
  rw [deeds_append, htold]
  cases callback with
  | none => rcases runVisit setup nested (pass.landed n) s with halt | ⟨_ | _ | _, t⟩ <;> rfl
  | some callback =>
      rcases runVisit setup nested (pass.landed n) s with halt | ⟨⟨⟩ | cause | payload, t⟩
      · rfl
      · have hresumed : deeds (duringVisit setup nested below (pass.resume callback n) t) =
            observedInVisit setup nested seen (pass.resume callback n) t :=
          deeds_duringVisit hb (pass.resume callback n) t
        exact congrArg (_ ++ _ :: ·) hresumed
      · rfl
      · rfl

theorem deeds_afterVisit (hb : ∀ n s, deeds (below n s) = seen n s) (n : Node)
    (ended : Except Halt (Outcome κ Unit × ScanState σ η)) :
    deeds (afterVisit setup pass nested below n ended) =
      observedAfterVisit notes setup pass nested seen n ended := by
  rcases ended with halt | ⟨result | ⟨r | f⟩ | payload, t⟩
  · rfl
  · rfl
  · rw [afterVisit, observedAfterVisit]
    split
    · exact deeds_duringLanding hb n r.callback _
    · rfl
  · rfl
  · rfl

theorem deeds_duringSettling (n : Node)
    (ended : Except Halt (Outcome κ Unit × ScanState σ η)) :
    deeds (duringSettling setup n ended) = [] := by
  rcases ended with halt | ⟨_ | ⟨_ | _⟩ | _, t⟩ <;> rfl

/-- Without the reports, the happenings of a scan are what is noted of it. -/
theorem deeds_happenings (limit : Nat) (n : Node) (s : ScanState σ η) :
    deeds (happenings setup pass limit n s) = observed notes setup pass limit n s := by
  induction limit generalizing n s with
  | zero => rfl
  | succ limit ih =>
      rw [happenings, duringScan, deeds_append, deeds_append, deeds_duringSettling,
        deeds_afterVisit ih, List.append_nil]
      exact congrArg (_ :: · ++ _) (deeds_duringVisit ih (pass.visit n) _)

end

/-- A pass that writes down its visits, landings and callbacks records the happenings of a run
but for the reports. -/
theorem run_records_deeds (setup : Setup η) (pass : Pass σ κ) (limit : Nat) (v : Visit σ κ α)
    (s : ScanState σ η) (log : List (Happening κ)) :
    run setup (pass.recorded notes) limit v.beside (s.beside log) =
      logged (log ++ deeds (runHappenings setup pass limit v s)) (run setup pass limit v s) := by
  rw [run_recorded, runHappenings, runObserved, deeds_duringVisit (deeds_happenings limit)]

/-! ## What a handler is given -/

/-- A property of the diagnostics so far and of the scanner that a report carries over, and
that nothing else breaks. -/
structure Heard (setup : Setup η) (I : List Diagnostic → Scanner η → Prop) : Prop where
  report : ∀ {ds s}, ∀ (n : Node) name problem params, I ds s →
    I (ds ++ [⟨problem, s.position? setup n name, problem.message params⟩])
      (s.report setup n name problem params).2
  restack : ∀ {ds s} stack, I ds s → I ds { s with stack := stack }
  note : ∀ {ds s} events, I ds s → I ds (s.note events)
  lines : ∀ {ds s}, I ds s → I ds s.lines.2
  activate : ∀ {ds s} unit, I ds s → I ds (s.activate setup unit)
  editFiles : ∀ {ds s} (edit : FileStore → FileStore),
    I ds s → I ds { s with files := edit s.files }

/-- A property holds of some diagnostics and the scanner when something has ended. -/
def Ends (I : List Diagnostic → Scanner η → Prop) (ds : List Diagnostic) :
    Except Halt (α × ScanState σ η) → Prop
  | .error _ => True
  | .ok (_, t) => I ds t.scanner

namespace Heard

variable {I : List Diagnostic → Scanner η → Prop} {ds : List Diagnostic}
  (heard : Heard setup I)

/-- The reports of a scan are carried over. -/
def Carries (I : List Diagnostic → Scanner η → Prop) (nested : Scan σ κ η)
    (below : Account σ κ η) : Prop :=
  ∀ n ds s, I ds s.scanner → Ends I (ds ++ reports (below n s)) (nested n s)

/-- If nothing happens, nothing is reported. -/
theorem of_nothing {s : Scanner η} (h : I ds s) : I (ds ++ reports ([] : List (Happening κ))) s :=
  (List.append_nil ds).symm ▸ h

include heard

theorem answer_ends (hn : Carries I nested below) (r : Request σ κ) (h : I ds s.scanner) :
    Ends I (ds ++ reports (duringRequest setup below r s)) (answer setup nested r s) := by
  have hnone : I (ds ++ reports ([] : List (Happening κ))) s.scanner := of_nothing h
  cases r with
  | scan node =>
      cases node with
      | none => exact hnone
      | some n => exact hn n ds s h
  | scanRoot n =>
      have hscan := hn n ds s h
      unfold answer
      dsimp only
      rcases hnested : nested n s with halt | ⟨⟨_ | r⟩ | payload, t⟩
      · trivial
      · rw [hnested] at hscan
        exact hscan
      · rw [hnested] at hscan
        exact heard.note _ hscan
      · rw [hnested] at hscan
        exact hscan
  | report n name problem params => exact heard.report n name problem params h
  | lines => exact heard.lines hnone
  | trace => exact heard.lines hnone
  | activate unit => exact heard.activate unit hnone
  | log event => exact heard.note [event] hnone
  | editFiles edit => exact heard.editFiles edit hnone
  | _ => exact hnone

theorem runVisit_ends (hn : Carries I nested below) (v : Visit σ κ α) (h : I ds s.scanner) :
    Ends I (ds ++ reports (duringVisit setup nested below v s)) (runVisit setup nested v s) := by
  induction v generalizing ds s with
  | done result => exact of_nothing (κ := κ) h
  | interrupt cause => exact of_nothing (κ := κ) h
  | panic payload => exact of_nothing (κ := κ) h
  | request r next ih =>
      have hanswer := heard.answer_ends hn r h
      rw [runVisit_request, duringVisit, reports_append, ← List.append_assoc]
      rcases ha : answer setup nested r s with halt | ⟨a | payload, t⟩
      · trivial
      · rw [ha] at hanswer
        exact ih a hanswer
      · rw [ha] at hanswer
        exact of_nothing (κ := κ) hanswer

theorem guarded_ends {v : Visit σ κ Unit} (h : Ends I ds (runVisit setup nested v s)) :
    Ends I ds (guarded setup nested v s) := by
  unfold guarded
  rcases hv : runVisit setup nested v s with halt | ⟨outcome, t⟩
  · trivial
  · rw [hv] at h
    by_cases hc : setup.config.catchPanics = true
    · simp only [if_pos hc]
      cases outcome with
      | completed result => exact h
      | interrupted cause => exact h
      | panicked payload => exact heard.restack _ h
    · simp only [if_neg hc]
      exact h

theorem runVisit_land_ends (hn : Carries I nested below) (callback : Option κ) (n : Node)
    (h : I ds s.scanner) :
    Ends I (ds ++ reports (duringLanding setup pass nested below n callback s))
      (runVisit setup nested (pass.land callback n) s) := by
  have htold := heard.runVisit_ends hn (pass.landed n) h
  unfold duringLanding Pass.land
  rw [runVisit_bind, reports_append, ← List.append_assoc]
  rcases hlanded : runVisit setup nested (pass.landed n) s with halt | ⟨⟨⟩ | cause | payload, t⟩
  · trivial
  · rw [hlanded] at htold
    cases callback with
    | none => exact of_nothing (κ := κ) htold
    | some callback => exact heard.runVisit_ends hn (pass.resume callback n) htold
  · rw [hlanded] at htold
    cases callback <;> exact of_nothing (κ := κ) htold
  · rw [hlanded] at htold
    cases callback <;> exact of_nothing (κ := κ) htold

theorem visit_ends (hn : Carries I nested below) (pass : Pass σ κ) (n : Node)
    (h : I ds s.scanner) :
    Ends I (ds ++ reports (duringVisit setup nested below (pass.visit n) s ++
        afterVisit setup pass nested below n (guarded setup nested (pass.visit n) s)))
      (visit setup pass nested n s) := by
  have hvisit := heard.guarded_ends (heard.runVisit_ends hn (pass.visit n) h)
  rw [reports_append, ← List.append_assoc]
  unfold visit
  rcases hg : guarded setup nested (pass.visit n) s with halt | ⟨⟨⟩ | ⟨r | f⟩ | payload, t⟩
  · trivial
  · rw [hg] at hvisit
    exact of_nothing (κ := κ) hvisit
  · rw [hg] at hvisit
    simp only [afterVisit]
    by_cases hr : r.target.same n = true
    · rw [if_pos hr, if_pos hr]
      exact heard.guarded_ends (heard.runVisit_land_ends hn r.callback n (heard.note _ hvisit))
    · rw [if_neg hr, if_neg hr]
      exact of_nothing (κ := κ) hvisit
  · rw [hg] at hvisit
    exact of_nothing (κ := κ) hvisit
  · rw [hg] at hvisit
    exact of_nothing (κ := κ) hvisit

theorem internalError_heard (n : Node) (f : Fault) {s : Scanner η} (h : I ds s) :
    I (ds ++ [⟨.internalError, s.position? setup n none, Problem.internalError.message [f.text]⟩])
      (internalError setup n f s).2 := by
  have hreport := heard.report n none .internalError [f.text] (heard.note [failing n f] h)
  unfold internalError
  split
  · next payload after hr =>
      rw [hr] at hreport
      exact hreport
  · next after hr =>
      rw [hr] at hreport
      split
      · exact heard.note _ (heard.lines hreport)
      · exact hreport

theorem settle_heard (n : Node) (outcome : Outcome κ Unit) (h : I ds s.scanner) :
    I (ds ++ reports (duringSettling setup n (.ok (outcome, s))))
      (settle setup n s outcome).2.scanner := by
  rcases outcome with result | ⟨r | f⟩ | payload
  · exact of_nothing (κ := κ) h
  · exact of_nothing (κ := κ) h
  · rw [settle_fault]
    exact heard.internalError_heard n f h
  · exact of_nothing (κ := κ) h

theorem leave_ends (n : Node) (reply : Reply (Option (Rollback κ))) (h : I ds s.scanner) :
    Ends I ds (leave n s reply) := by
  cases reply with
  | panic payload => exact h
  | answer r =>
      simp only [leave, Scanner.leave?]
      cases s.scanner.stack with
      | nil => trivial
      | cons top rest =>
          cases hsame : top.same n with
          | false =>
              simp only [hsame]
              trivial
          | true =>
              simp only [hsame]
              exact heard.restack rest h

theorem scanWith_carries (hn : Carries I nested below) (pass : Pass σ κ) :
    Carries I (scanWith setup pass nested) (duringScan setup pass nested below) := by
  intro n ds s h
  have hvisit := heard.visit_ends hn pass n (s := s.on (s.scanner.enter n)) (heard.restack _ h)
  have hentered : reports (duringScan setup pass nested below n s) =
      reports (duringVisit setup nested below (pass.visit n) (s.on (s.scanner.enter n)) ++
        afterVisit setup pass nested below n
          (guarded setup nested (pass.visit n) (s.on (s.scanner.enter n)))) ++
      reports (duringSettling setup n
        (visit setup pass nested n (s.on (s.scanner.enter n)))) := reports_append _ _
  rw [hentered, ← List.append_assoc]
  unfold scanWith
  rcases hv : visit setup pass nested n (s.on (s.scanner.enter n)) with halt | ⟨outcome, t⟩
  · trivial
  · rw [hv] at hvisit
    exact heard.leave_ends n _ (heard.settle_heard n outcome hvisit)

/-- The reports of every scan are carried over. -/
theorem scan_carries (pass : Pass σ κ) (limit : Nat) :
    Carries I (scan setup pass limit) (happenings setup pass limit) := by
  induction limit with
  | zero => exact fun _ _ _ _ => trivial
  | succ limit ih => exact heard.scanWith_carries ih pass

/-- The reports of a run are carried over. -/
theorem run_ends (pass : Pass σ κ) (limit : Nat) (v : Visit σ κ α) (h : I ds s.scanner) :
    Ends I (ds ++ reports (runHappenings setup pass limit v s)) (run setup pass limit v s) :=
  heard.runVisit_ends (heard.scan_carries pass limit) v h

end Heard

end Engine

/-- Writes down every diagnostic before a handler is given it. -/
def listing (inner : Handler η) : Handler (List Diagnostic × η) := fun d files (told, state) =>
  let handled := inner d files state
  ⟨(told ++ [d], handled.state), handled.events, handled.panic⟩

namespace Engine

/-- What is said of the handler's state and of the messages kept is changed by reports alone. -/
theorem heard_of_report {setup : Setup η} {I : List Diagnostic → η → List String → Prop}
    (report : ∀ {ds} {s : Scanner η} (n : Node) name problem params,
      I ds s.reports s.unhandled →
      I (ds ++ [⟨problem, s.position? setup n name, problem.message params⟩])
        (s.report setup n name problem params).2.reports
        (s.report setup n name problem params).2.unhandled) :
    Heard setup fun ds s => I ds s.reports s.unhandled where
  report := report
  restack _ hs := hs
  note _ hs := hs
  lines {_ s} hs := by
    unfold Scanner.lines
    cases s.unit with
    | none => exact hs
    | some unit => exact hs
  activate unit hs := by
    cases unit with
    | none => exact hs
    | some unit => exact hs
  editFiles _ hs := hs

theorem heard_of_listing {setup : Setup (List Diagnostic × η)} {inner : Handler η}
    (h : setup.handler = some (listing inner)) (told : List Diagnostic) :
    Heard setup fun ds s => s.reports.1 = told ++ ds :=
  heard_of_report (I := fun ds (reports : List Diagnostic × η) _ => reports.1 = told ++ ds)
    fun {ds s} n name problem params hs => by
      unfold Scanner.report
      rw [h]
      show s.reports.1 ++ _ = _
      rw [hs, List.append_assoc]

/-- A handler is given the reports among the happenings of a run, in this order. -/
theorem run_tells {setup : Setup (List Diagnostic × η)} {inner : Handler η}
    (h : setup.handler = some (listing inner)) (pass : Pass σ κ) (limit : Nat) (v : Visit σ κ α)
    {s t : ScanState σ (List Diagnostic × η)} {outcome : Outcome κ α}
    (hrun : run setup pass limit v s = .ok (outcome, t)) :
    t.scanner.reports.1 =
      s.scanner.reports.1 ++ Happening.reports (runHappenings setup pass limit v s) := by
  have hbefore : s.scanner.reports.1 = s.scanner.reports.1 ++ [] := (List.append_nil _).symm
  have hends := (heard_of_listing h s.scanner.reports.1).run_ends pass limit v hbefore
  rw [hrun] at hends
  exact hends

theorem heard_of_none {setup : Setup η} (h : setup.handler = none) (kept : List String) :
    Heard setup fun ds s => s.unhandled = kept ++ ds.map (·.message) :=
  heard_of_report (I := fun ds _ unhandled => unhandled = kept ++ ds.map (·.message))
    fun {ds s} n name problem params hs => by
      unfold Scanner.report
      rw [h]
      show s.unhandled ++ _ = _
      rw [hs, List.map_append, List.append_assoc]
      rfl

/-- Without a handler the messages of the reports are kept. -/
theorem run_leaves_unhandled {setup : Setup η} (h : setup.handler = none) (pass : Pass σ κ)
    (limit : Nat) (v : Visit σ κ α) {s t : ScanState σ η} {outcome : Outcome κ α}
    (hrun : run setup pass limit v s = .ok (outcome, t)) :
    t.scanner.unhandled = s.scanner.unhandled ++
      (Happening.reports (runHappenings setup pass limit v s)).map (·.message) := by
  have hbefore : s.scanner.unhandled =
      s.scanner.unhandled ++ ([] : List Diagnostic).map (·.message) := (List.append_nil _).symm
  have hends := (heard_of_none h s.scanner.unhandled).run_ends pass limit v hbefore
  rw [hrun] at hends
  exact hends

end Engine

end TreeScan

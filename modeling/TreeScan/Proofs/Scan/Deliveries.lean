import TreeScan.Proofs.Scan.Balance

/-!
# What the handler of diagnostics hears

`Hears` says of two states of a scanner that some diagnostics were delivered
between them, in this order, and that neither the active unit nor the files have
changed.  The stack, the source cache and the log do not matter.

Most of what a scanner does delivers nothing.  An internal error that the handler
takes is one delivery (`internalError_hears`): the position is that of the node in
the active unit, and writing the trace of the stack delivers nothing more.
-/

namespace TreeScan

variable {η : Type}

/-! ## Deliveries -/

/-- The state of the handler after it has received some diagnostics. -/
def Setup.heard (setup : Setup η) (files : FileStore) (reports : η) (ds : List Diagnostic) : η :=
  match setup.handler with
  | none => reports
  | some handler => ds.foldl (fun reports d => (handler d files reports).state) reports

/-- The messages of some diagnostics, if there is no handler to receive them. -/
def Setup.unheard (setup : Setup η) (ds : List Diagnostic) : List String :=
  match setup.handler with
  | none => ds.map (·.message)
  | some _ => []

/-- The handler never gives up. -/
def Setup.Quiet (setup : Setup η) : Prop :=
  ∀ handler, setup.handler = some handler →
    ∀ d files reports, (handler d files reports).panic = none

theorem Setup.heard_append (setup : Setup η) (files : FileStore) (reports : η)
    (ds ds' : List Diagnostic) :
    setup.heard files (setup.heard files reports ds) ds' =
      setup.heard files reports (ds ++ ds') := by
  unfold heard
  cases setup.handler with
  | none => rfl
  | some handler => exact List.foldl_append.symm

theorem Setup.unheard_append (setup : Setup η) (ds ds' : List Diagnostic) :
    setup.unheard ds ++ setup.unheard ds' = setup.unheard (ds ++ ds') := by
  unfold unheard
  cases setup.handler with
  | none => exact List.map_append.symm
  | some handler => rfl

theorem Setup.heard_nil (setup : Setup η) (files : FileStore) (reports : η) :
    setup.heard files reports [] = reports := by
  unfold heard
  cases setup.handler with
  | none => rfl
  | some handler => rfl

theorem Setup.unheard_nil (setup : Setup η) : setup.unheard [] = [] := by
  unfold unheard
  cases setup.handler with
  | none => rfl
  | some handler => rfl

/-- From `s` to `s'` the diagnostics `ds` were delivered, and the active unit and
the files are the same. -/
structure Hears (setup : Setup η) (ds : List Diagnostic) (s s' : Scanner η) : Prop where
  unit_eq : s'.unit = s.unit
  files_eq : s'.files = s.files
  reports_eq : s'.reports = setup.heard s.files s.reports ds
  unhandled_eq : s'.unhandled = s.unhandled ++ setup.unheard ds

namespace Hears

variable {setup : Setup η} {ds ds' : List Diagnostic} {s s' s'' : Scanner η}

/-- Nothing is delivered if what a delivery changes is the same. -/
theorem of_eq (hunit : s'.unit = s.unit) (hfiles : s'.files = s.files)
    (hreports : s'.reports = s.reports) (hunhandled : s'.unhandled = s.unhandled) :
    Hears setup [] s s' where
  unit_eq := hunit
  files_eq := hfiles
  reports_eq := by rw [hreports, setup.heard_nil]
  unhandled_eq := by rw [hunhandled, setup.unheard_nil, List.append_nil]

theorem refl (s : Scanner η) : Hears setup [] s s := of_eq rfl rfl rfl rfl

theorem trans (h : Hears setup ds s s') (h' : Hears setup ds' s' s'') :
    Hears setup (ds ++ ds') s s'' where
  unit_eq := h'.unit_eq.trans h.unit_eq
  files_eq := h'.files_eq.trans h.files_eq
  reports_eq := by
    rw [h'.reports_eq, h.reports_eq, h.files_eq, setup.heard_append]
  unhandled_eq := by
    rw [h'.unhandled_eq, h.unhandled_eq, List.append_assoc, setup.unheard_append]

/-- Nothing more is delivered. -/
theorem silent (h : Hears setup ds s s') (h' : Hears setup [] s' s'') : Hears setup ds s s'' := by
  have hall := h.trans h'
  rw [List.append_nil] at hall
  exact hall

end Hears

/-! ## What delivers nothing -/

namespace Scanner

variable (setup : Setup η) (s : Scanner η)

theorem note_hears (events : List LogEvent) : Hears setup [] s (s.note events) :=
  .of_eq rfl rfl rfl rfl

theorem enter_hears (n : Node) : Hears setup [] s (s.enter n) := .of_eq rfl rfl rfl rfl

theorem lines_hears : Hears setup [] s s.lines.2 := by
  unfold lines
  cases hu : s.unit with
  | none => exact .refl s
  | some unit => exact .of_eq hu.symm rfl rfl rfl

theorem trace_hears : Hears setup [] s (s.trace setup).2 := s.lines_hears setup

end Scanner

/-! ## Reports -/

/-- A report that the handler takes is a delivery. -/
theorem Scanner.report_hears {setup : Setup η} (quiet : setup.Quiet) (s : Scanner η) (n : Node)
    (name : Option String) (problem : Problem) (params : List String) :
    (s.report setup n name problem params).1 = none ∧
      Hears setup [⟨problem, s.position? setup n name, problem.message params⟩] s
        (s.report setup n name problem params).2 := by
  unfold report
  cases hh : setup.handler with
  | none =>
      refine ⟨rfl, rfl, rfl, ?_, ?_⟩
      · rw [Setup.heard, hh]
      · rw [Setup.unheard, hh]
        rfl
  | some handler =>
      refine ⟨quiet handler hh _ _ _, rfl, rfl, ?_, ?_⟩
      · rw [Setup.heard, hh]
        rfl
      · rw [Setup.unheard, hh]
        exact (List.append_nil _).symm

/-! ### Internal errors -/

namespace Engine

variable (setup : Setup η) (n : Node) (f : Fault) (s : Scanner η)

/-- An internal error ends as the report of it does. -/
theorem internalError_fst :
    (internalError setup n f s).1 =
      ((s.note [failing n f]).report setup n none .internalError [f.text]).1 := by
  unfold internalError
  split
  · next payload after hr => rw [hr]
  · next after hr =>
      rw [hr]
      split <;> rfl

/-- After the report of an internal error nothing more is delivered. -/
theorem internalError_silent :
    Hears setup [] ((s.note [failing n f]).report setup n none .internalError [f.text]).2
      (internalError setup n f s).2 := by
  unfold internalError
  split
  · next payload after hr =>
      rw [hr]
      exact .refl after
  · next after hr =>
      rw [hr]
      split
      · exact (after.trace_hears setup).trans (Scanner.note_hears setup _ _)
      · exact .refl after

end Engine

/-- A handler that never gives up takes every internal error. -/
theorem internalError_quiet {setup : Setup η} (quiet : setup.Quiet) (s : Scanner η) (n : Node)
    (f : Fault) : (Engine.internalError setup n f s).1 = none := by
  rw [Engine.internalError_fst]
  exact (Scanner.report_hears quiet _ n none .internalError [f.text]).1

/-- An internal error at a node of a unit. -/
def internalErrorAt (unit : CompilationUnit) (n : Node) (f : Fault) : Diagnostic :=
  ⟨.internalError, some ⟨unit.path, n.span⟩, Problem.internalError.message [f.text]⟩

/-- A handler that never gives up is delivered a fault as one internal error. -/
theorem internalError_delivers {setup : Setup η} (quiet : setup.Quiet) (s : Scanner η) (n : Node)
    (f : Fault) :
    Hears setup [⟨.internalError, s.position? setup n none,
      Problem.internalError.message [f.text]⟩] s (Engine.internalError setup n f s).2 := by
  have hnoted := s.note_hears setup [Engine.failing n f]
  have hreported := (Scanner.report_hears quiet (s.note [Engine.failing n f]) n none
    .internalError [f.text]).2
  exact (hnoted.trans hreported).silent (Engine.internalError_silent setup n f s)

/-- The fault of a visit is delivered as an internal error. -/
theorem internalError_hears {setup : Setup η} (quiet : setup.Quiet)
    (hpositions : setup.positions = spanPositions) {s : Scanner η} {unit : CompilationUnit}
    (hunit : s.unit = some unit) (n : Node) (f : Fault) :
    Hears setup [internalErrorAt unit n f] s (Engine.internalError setup n f s).2 := by
  have hposition : s.position? setup n none = some ⟨unit.path, n.span⟩ := by
    rw [Scanner.position?, hunit, hpositions]
    rfl
  have hdelivered := internalError_delivers quiet s n f
  rwa [hposition] at hdelivered

end TreeScan

import Mathlib.Data.List.Forall2
import TreeScan.Proofs.Scan.Discretion
import TreeScan.Proofs.Scan.Registry
import TreeScan.Report.Console

/-!
# Reporting is passive

A session goes the same way whatever becomes of the reports it makes.  This is
`Session.reports_are_passive`, for sessions on a new scanner that do not look at source
lines, stack traces or the settings for them, and handlers that do not give up.

* The same happens in every step and the step ends in the same way, up to the positions of
  the problems that are reported.
* With the same position service the positions are the same too, and handlers that were in
  related states stay in related states.
* If no file changes during the session, and if units whose paths are equal have the same
  text, then the source lines that can be had after a step are the same.  The source caches
  may have loaded different files, but each holds what the store says (`Sourced`).

A session may look at the settings, and two of these say how stack traces are written.  A
pass can record what it sees there, so it has to be left out
(`Session.settings_are_visible`).
-/

namespace TreeScan

variable {η η' : Type}

/-! ## Handlers that do not give up -/

/-- A handler that never gives up. -/
def Handler.Quiet (handler : Handler η) : Prop :=
  ∀ d files reports, (handler d files reports).panic = none

theorem collecting_quiet : Handler.Quiet collecting := fun _ _ _ => rfl

theorem counting_quiet {inner : Handler η} (h : Handler.Quiet inner) :
    Handler.Quiet (counting inner) := fun d files reports => h d files reports.2

/-- A renderer that never panics.  It may fail. -/
def Renderer.Quiet (renderer : Renderer) : Prop :=
  ∀ exhibit payload, renderer exhibit ≠ .panicked payload

/-- A frame can be drawn of everything. -/
theorem Frame.renderer_quiet : Renderer.Quiet Frame.renderer := nofun

theorem Renderer.Quiet.render {renderer : Renderer} (h : renderer.Quiet) (d : Diagnostic)
    (lines : Option (List String)) : ∃ text, Console.render renderer d lines = .ok text := by
  unfold Console.render
  split
  · split
    · exact ⟨_, rfl⟩
    · exact ⟨_, rfl⟩
    · next payload hpanic => exact absurd hpanic (h _ payload)
  · exact ⟨_, rfl⟩

/-- The console gives up on a diagnostic only if its renderer panics. -/
theorem Console.printing_quiet {renderer : Renderer} (h : renderer.Quiet) :
    Handler.Quiet (printing renderer) := by
  intro d files console
  obtain ⟨text, htext⟩ := h.render d (console.linesFor files d).lines
  exact (printing_of_ok htext).panic_eq

theorem Setup.quiet_of_none {setup : Setup η} (h : setup.handler = none) : setup.Quiet := by
  intro handler hhandler
  rw [h] at hhandler
  cases hhandler

theorem Setup.quiet_of_handler {setup : Setup η} {handler : Handler η}
    (quiet : Handler.Quiet handler) (h : setup.handler = some handler) : setup.Quiet := by
  intro other hother
  rw [h] at hother
  cases hother
  exact quiet

namespace Session

/-! ## Sessions that do not look -/

/-- A session that does not ask for source lines or stack traces, and for which it makes no
difference which of two settings the scanner has. -/
inductive Discreet (c c' : ScanConfig) : Session → Prop where
  | done : Discreet c c' .done
  | step {σ κ α : Type} {pass : Pass σ κ} {state : σ} {visit : Visit σ κ α}
      {next : Outcome κ α → σ → Session} : pass.Discreet c c' → visit.Discreet c c' →
      (∀ outcome state, Discreet c c' (next outcome state)) →
      Discreet c c' (.step pass state visit next)

end Session

/-! ## What is seen of a step -/

/-- The part of a scanner that reports have no part in. -/
structure Scanner.View where
  stack : Stack
  unit : Option CompilationUnit
  imports : StaticImports

/-- What is seen of a scanner apart from reports. -/
def Scanner.view (s : Scanner η) : Scanner.View := ⟨s.stack, s.unit, s.imports⟩

namespace Session

/-- What is seen of a step: what happens in it and what it changes, how it ends, and the
pass and the scanner as it leaves them. -/
structure Glimpse : Type 1 where
  {σ κ α : Type}
  happenings : List (Happening κ)
  changes : List Change
  result : Except Halt (Outcome κ α × σ × Scanner.View)

namespace Step

/-- What is seen of a step if positions are seen through a blur. -/
def glimpse (blur : Option SourcePosition → Option SourcePosition) (step : Step η) : Glimpse where
  happenings := step.happenings.map (·.blurred blur)
  changes := step.changes
  result := step.result.map fun ended => (ended.1, ended.2.pass, ended.2.scanner.view)

/-- What is seen of a step. -/
def shown (step : Step η) : Glimpse := step.glimpse id

/-- What is seen of a step without the positions of problems. -/
def unplaced (step : Step η) : Glimpse := step.glimpse fun _ => none

/-- What the scanner was told up to the end of a step. -/
def told? (step : Step η) : Option (η × List String) := step.scanner?.map (·.told)

/-- The source lines that can be had after a step. -/
def lines? (step : Step η) : Option (Option (List String)) := step.scanner?.map (·.lines.1)

end Step

/-! ## Two sessions side by side -/

variable {setup : Setup η} {setup' : Setup η'}
  {blur : Option SourcePosition → Option SourcePosition}
  {R : η × List String → η' × List String → Prop}

/-- A step on scanners that agree is seen to be the same, and leaves scanners that agree. -/
theorem stepOf_coincide {σ κ α : Type} (peers : setup.Peers setup' blur R) (limit : Nat)
    {pass : Pass σ κ} (hpass : pass.Discreet setup.config setup'.config) {visit : Visit σ κ α}
    (hvisit : visit.Discreet setup.config setup'.config) {s : ScanState σ η} {s' : ScanState σ η'}
    (h : Engine.Agree R s s') :
    (stepOf setup limit pass visit s).glimpse blur =
        (stepOf setup' limit pass visit s').glimpse blur ∧
      Option.Rel R (stepOf setup limit pass visit s).told?
        (stepOf setup' limit pass visit s').told? := by
  have hscan := Engine.scan_coincide peers hpass limit
  have hhappenings : (Engine.runHappenings setup pass limit visit s).map (·.blurred blur) =
      (Engine.runHappenings setup' pass limit visit s').map (·.blurred blur) :=
    Engine.duringVisit_blurred peers hscan hvisit h
  have hchanges : Engine.runChanges setup pass limit visit s =
      Engine.runChanges setup' pass limit visit s' :=
    Engine.changedInVisit_eq peers hscan hvisit h
  have hrun : Engine.Agrees R (Engine.run setup pass limit visit s)
      (Engine.run setup' pass limit visit s') := Engine.runVisit_agrees peers hscan hvisit h
  simp only [Step.glimpse, Step.told?, Step.scanner?, stepOf, hhappenings, hchanges]
  rcases hrun.cases with ⟨halt, hx, hx'⟩ | ⟨outcome, t, t', hx, hx', ht⟩
  · rw [hx, hx']
    exact ⟨rfl, .none⟩
  · rw [hx, hx']
    have hview : t.scanner.view = t'.scanner.view := by
      rw [Scanner.view, Scanner.view, ht.stack_eq, ht.unit_eq, ht.imports_eq]
    refine ⟨?_, .some ht.told⟩
    simp only [Except.map, ht.pass_eq, hview]

/-- Two sessions on scanners that agree are seen to be the same, step by step. -/
theorem steps_coincide (peers : setup.Peers setup' blur R) (limit : Nat) {session : Session}
    (discreet : session.Discreet setup.config setup'.config) {s : Scanner η} {s' : Scanner η'}
    (h : ∀ {σ : Type} (state : σ), Engine.Agree R ⟨state, s⟩ ⟨state, s'⟩) :
    (session.steps setup limit s).map (Step.glimpse blur) =
        (session.steps setup' limit s').map (Step.glimpse blur) ∧
      List.Forall₂ (fun step step' => Option.Rel R step.told? step'.told?)
        (session.steps setup limit s) (session.steps setup' limit s') := by
  induction discreet generalizing s s' with
  | done => exact ⟨rfl, .nil⟩
  | @step σ κ α pass state visit next hpass hvisit _ ih =>
      obtain ⟨hglimpse, htold⟩ := stepOf_coincide peers limit hpass hvisit (h state)
      have hrun : Engine.Agrees R (Engine.run setup pass limit visit ⟨state, s⟩)
          (Engine.run setup' pass limit visit ⟨state, s'⟩) :=
        Engine.runVisit_agrees peers (Engine.scan_coincide peers hpass limit) hvisit (h state)
      rw [steps, steps, List.map_cons, List.map_cons, hglimpse]
      rcases hrun.cases with ⟨halt, hx, hx'⟩ | ⟨outcome, t, t', hx, hx', ht⟩
      · rw [hx, hx']
        exact ⟨rfl, .cons htold .nil⟩
      · rw [hx, hx']
        -- The next step begins with a pass of its own, on the scanners that this one left.
        have hnext : ∀ {σ : Type} (state : σ), Engine.Agree R ⟨state, t.scanner⟩
            ⟨state, t'.scanner⟩ := fun _ =>
          ⟨rfl, ht.stack_eq, ht.unit_eq, ht.imports_eq, ht.files_eq, ht.told⟩
        obtain ⟨hrest, htolds⟩ := ih outcome t'.pass hnext
        simp only [ht.pass_eq]
        exact ⟨congrArg _ hrest, .cons htold htolds⟩

end Session

/-! ## Source lines -/

/-- The lines of the file at a path, if it can be read. -/
def FileStore.linesOf (files : FileStore) (path : String) : Option (List String) :=
  (files.read path).toOption.map sourceLines

theorem SourceCache.load_lines (cache : SourceCache) (files : FileStore) (path : String) :
    (cache.load files path).lines = files.linesOf path := by
  unfold load FileStore.linesOf
  cases files.read path with
  | ok text => rfl
  | error e => rfl

/-- A scanner on some files that it has not changed.  Its source cache holds what the files
say about one of the units that were activated. -/
structure Sourced (files : FileStore) (units : List CompilationUnit) (s : Scanner η) : Prop where
  files_eq : s.files = files
  unit_mem : ∀ unit, s.unit = some unit → unit ∈ units
  slot : ∀ path lines, s.sources.slot = some (path, lines) →
    ∃ unit ∈ units, unit.path = path ∧ files.linesOf path = some lines

namespace Sourced

variable {files : FileStore} {units : List CompilationUnit} {s : Scanner η}

theorem idle (files : FileStore) (reports : η) : Sourced files [] (.idle files reports) where
  files_eq := rfl
  unit_mem _ h := nomatch h
  slot _ _ h := nomatch h

/-- Lines that are loaded are those of the active unit. -/
theorem lines (h : Sourced files units s) : Sourced files units s.lines.2 := by
  unfold Scanner.lines
  cases hu : s.unit with
  | none => exact h
  | some unit =>
      refine ⟨h.files_eq, fun other hother => h.unit_mem other (hu.trans hother), ?_⟩
      intro path lines hslot
      simp only [Scanner.note, SourceCache.linesAt] at hslot
      split at hslot
      · exact h.slot path lines hslot
      · unfold SourceCache.load at hslot
        split at hslot
        · next text hread =>
            cases hslot
            refine ⟨unit, h.unit_mem unit hu, rfl, ?_⟩
            rw [FileStore.linesOf, ← h.files_eq, hread]
            rfl
        · exact h.slot path lines hslot

theorem activate (h : Sourced files units s) (setup : Setup η) (unit : Option CompilationUnit) :
    Sourced files (units ++ unit.toList) (s.activate setup unit) := by
  have hslot : ∀ path lines, s.sources.slot = some (path, lines) →
      ∃ u ∈ units ++ unit.toList, u.path = path ∧ files.linesOf path = some lines := by
    intro path lines hs
    obtain ⟨u, hu, hpath, hlines⟩ := h.slot path lines hs
    exact ⟨u, List.mem_append_left _ hu, hpath, hlines⟩
  cases unit with
  | none =>
      refine ⟨h.files_eq, fun other hother => ?_, hslot⟩
      cases hother
  | some unit =>
      refine ⟨h.files_eq, fun other hother => ?_, hslot⟩
      obtain rfl : unit = other := Option.some.inj hother
      exact List.mem_append_right _ List.mem_cons_self

/-- If units with equal paths have the same text, the lines of the active unit are those of
its file, whatever is in the cache. -/
theorem lines_eq (h : Sourced files units s)
    (hpaths : ∀ u ∈ units, ∀ v ∈ units, Path.equal u.path v.path = true →
      (files.read u.path).toOption = (files.read v.path).toOption) :
    s.lines.1 = s.unit.bind fun unit => files.linesOf unit.path := by
  unfold Scanner.lines
  cases hu : s.unit with
  | none => rfl
  | some unit =>
      show (s.sources.linesAt s.files unit.path).lines = files.linesOf unit.path
      rw [h.files_eq]
      unfold SourceCache.linesAt SourceCache.cached?
      cases hslot : s.sources.slot with
      | none => exact s.sources.load_lines files unit.path
      | some loaded =>
          obtain ⟨path, lines⟩ := loaded
          obtain ⟨other, hother, rfl, hlines⟩ := h.slot path lines hslot
          by_cases hequal : Path.equal other.path unit.path = true
          · simp only [hequal, if_true]
            rw [← hlines, FileStore.linesOf, FileStore.linesOf,
              hpaths other hother unit (h.unit_mem unit hu) hequal]
          · simp only [hequal]
            exact s.sources.load_lines files unit.path

end Sourced

/-- As long as no file has changed, the source cache holds what the files say. -/
theorem sourced_kept (setup : Setup η) (files : FileStore) :
    Engine.Kept setup fun cs s => (∀ edit ∈ Change.edits cs, edit files = files) →
      Sourced files (Change.units cs) s where
  restack _ h hedits := ⟨(h hedits).files_eq, (h hedits).unit_mem, (h hedits).slot⟩
  note _ h hedits := ⟨(h hedits).files_eq, (h hedits).unit_mem, (h hedits).slot⟩
  report n name problem params h hedits := by
    unfold Scanner.report
    cases setup.handler with
    | none => exact ⟨(h hedits).files_eq, (h hedits).unit_mem, (h hedits).slot⟩
    | some handler => exact ⟨(h hedits).files_eq, (h hedits).unit_mem, (h hedits).slot⟩
  lines h hedits := (h hedits).lines
  change {cs s} c h hedits := by
    rw [Change.edits_append] at hedits
    have hs := h fun edit hmem => hedits edit (List.mem_append_left _ hmem)
    rw [Change.units_append]
    cases c with
    | activate unit =>
        rw [Change.units_activate]
        exact hs.activate setup unit
    | editFiles edit =>
        have hsame : edit files = files :=
          hedits edit (List.mem_append_right _ List.mem_cons_self)
        rw [Change.units_editFiles, List.append_nil]
        refine ⟨?_, hs.unit_mem, hs.slot⟩
        show edit s.files = files
        rw [hs.files_eq, hsame]

namespace Session

/-- The source lines that can be had after a step, read off what is seen of it. -/
def Glimpse.linesFrom (files : FileStore) (glimpse : Glimpse) : Option (Option (List String)) :=
  glimpse.result.toOption.map fun ended =>
    ended.2.2.unit.bind fun unit => files.linesOf unit.path

/-- No step changes the files. -/
def Settled (files : FileStore) (steps : List (Step η)) : Prop :=
  ∀ edit ∈ steps.flatMap Step.edits, edit files = files

/-- Units that are activated and whose paths are equal have the same text. -/
def Coherent (files : FileStore) (steps : List (Step η)) : Prop :=
  ∀ u ∈ steps.flatMap Step.units, ∀ v ∈ steps.flatMap Step.units,
    Path.equal u.path v.path = true → (files.read u.path).toOption = (files.read v.path).toOption

variable {setup : Setup η} {setup' : Setup η'}

theorem lines?_eq {limit : Nat} {session : Session} {files : FileStore} {reports : η}
    (hsettled : Settled files (session.steps setup limit (.idle files reports)))
    (hcoherent : Coherent files (session.steps setup limit (.idle files reports)))
    (blur : Option SourcePosition → Option SourcePosition) {step : Step η}
    (hstep : step ∈ session.steps setup limit (.idle files reports)) :
    step.lines? = (step.glimpse blur).linesFrom files := by
  obtain ⟨before, after, hsteps⟩ := List.append_of_mem hstep
  cases hresult : step.result with
  | error halt =>
      simp only [Step.lines?, Step.scanner?, Glimpse.linesFrom, Step.glimpse, hresult]
      rfl
  | ok ended =>
      obtain ⟨outcome, t⟩ := ended
      have hlast : step.scanner? = some t.scanner := by
        rw [Step.scanner?, hresult]
        rfl
      have hidle : (∀ edit ∈ Change.edits [], edit files = files) →
          Sourced files (Change.units []) (.idle files reports) := fun _ => .idle files reports
      have hkept := steps_keep (sourced_kept setup files) limit session hidle hsteps hlast
      -- What was changed up to this step is part of what the session changes.
      have hpart : ∀ {β : Type} (part : Change → Option β),
          ∀ b ∈ ((before ++ [step]).flatMap Step.changes).filterMap part,
            b ∈ (session.steps setup limit (.idle files reports)).flatMap
              fun step => step.changes.filterMap part := by
        intro β part b hb
        rw [List.filterMap_flatMap] at hb
        rw [hsteps, List.append_cons, List.flatMap_append]
        exact List.mem_append_left _ hb
      rw [List.nil_append] at hkept
      have hsourced := hkept fun edit hedit => hsettled edit (hpart _ edit hedit)
      have hlines := hsourced.lines_eq fun u hu v hv =>
        hcoherent u (hpart _ u hu) v (hpart _ v hv)
      simp only [Step.lines?, hlast, Glimpse.linesFrom, Step.glimpse, hresult]
      exact congrArg some hlines

theorem map_lines?_eq {limit : Nat} {session : Session} {files : FileStore} {reports : η}
    (hsettled : Settled files (session.steps setup limit (.idle files reports)))
    (hcoherent : Coherent files (session.steps setup limit (.idle files reports))) :
    (session.steps setup limit (.idle files reports)).map Step.lines? =
      ((session.steps setup limit (.idle files reports)).map Step.unplaced).map
        (Glimpse.linesFrom files) := by
  rw [List.map_map]
  exact List.map_congr_left fun step hstep => lines?_eq hsettled hcoherent _ hstep

section Unplaced

variable {steps : List (Step η)} {steps' : List (Step η')} {files : FileStore}
  (h : steps.map Step.unplaced = steps'.map Step.unplaced)
include h

/-- Steps that are seen to be the same change the same. -/
theorem flatMap_changes_eq {β : Type} (part : List Change → List β) :
    (steps.flatMap fun step => part step.changes) =
      steps'.flatMap fun step => part step.changes := by
  have hparts := congrArg (List.flatMap fun glimpse => part glimpse.changes) h
  rw [List.flatMap_map, List.flatMap_map] at hparts
  exact hparts

theorem Settled.of_unplaced_eq (hsettled : Settled files steps) : Settled files steps' := by
  have hedits : steps.flatMap Step.edits = steps'.flatMap Step.edits :=
    flatMap_changes_eq h Change.edits
  unfold Settled
  rw [← hedits]
  exact hsettled

theorem Coherent.of_unplaced_eq (hcoherent : Coherent files steps) : Coherent files steps' := by
  have hunits : steps.flatMap Step.units = steps'.flatMap Step.units :=
    flatMap_changes_eq h Change.units
  unfold Coherent
  rw [← hunits]
  exact hcoherent

end Unplaced

/-! ## Passive reports -/

/-- A relation between what two scanners were told, kept by every diagnostic.  Setups with
the same handler keep equality. -/
def KeptByTelling (setup : Setup η) (setup' : Setup η')
    (R : η × List String → η' × List String → Prop) : Prop :=
  ∀ d files told told', R told told' → R (setup.tell d files told) (setup'.tell d files told')

theorem keptByTelling_of_handler_eq {setup setup' : Setup η} (h : setup.handler = setup'.handler) :
    KeptByTelling setup setup' Eq := by
  rintro d files told _ rfl
  simp only [Setup.tell, Setup.heard, Setup.unheard, h]

theorem peers_unplaced (quiet : setup.Quiet) (quiet' : setup'.Quiet)
    (himports : setup.config.staticImports = setup'.config.staticImports)
    (hcatch : setup.config.catchPanics = setup'.config.catchPanics) :
    setup.Peers setup' (fun _ => none) fun _ _ => True :=
  ⟨quiet, quiet', himports, hcatch, fun _ _ _ => rfl, fun _ _ _ _ _ _ _ => trivial⟩

theorem peers_placed (quiet : setup.Quiet) (quiet' : setup'.Quiet)
    (himports : setup.config.staticImports = setup'.config.staticImports)
    (hcatch : setup.config.catchPanics = setup'.config.catchPanics)
    (hpositions : setup.positions = setup'.positions)
    {R : η × List String → η' × List String → Prop} (hkept : KeptByTelling setup setup' R) :
    setup.Peers setup' id R := by
  refine ⟨quiet, quiet', himports, hcatch, fun _ _ _ => by rw [hpositions], ?_⟩
  intro d d' files told told' hd htold
  obtain rfl : d = d' := hd
  exact hkept d files told told' htold

/-- Two new scanners differ at most in what becomes of reports, and no handler gives up.  A
session that does not look at source lines, stack traces or the settings for them goes the
same way on both, step by step: the same is visited, landed, called back, reported and
changed, the steps end in the same way, and pass, stack, active unit and static imports are
the same after each.  With the same position service problems have the same positions, and
what the scanners were told stays related.  If the files stay as they are, and equal paths of
units have the same text, then the source lines after each step are the same. -/
theorem reports_are_passive (setup : Setup η) (setup' : Setup η') (quiet : setup.Quiet)
    (quiet' : setup'.Quiet)
    (himports : setup.config.staticImports = setup'.config.staticImports)
    (hcatch : setup.config.catchPanics = setup'.config.catchPanics) (limit : Nat)
    {session : Session} (discreet : session.Discreet setup.config setup'.config)
    (files : FileStore) (reports : η) (reports' : η') :
    let steps := session.steps setup limit (.idle files reports)
    let steps' := session.steps setup' limit (.idle files reports')
    steps.map Step.unplaced = steps'.map Step.unplaced ∧
    (setup.positions = setup'.positions →
      steps.map Step.shown = steps'.map Step.shown ∧
      ∀ R, KeptByTelling setup setup' R → R (reports, []) (reports', []) →
        List.Forall₂ (fun step step' => Option.Rel R step.told? step'.told?) steps steps') ∧
    (Settled files steps → Coherent files steps →
      steps.map Step.lines? = steps'.map Step.lines?) := by
  intro steps steps'
  have hunplaced : steps.map Step.unplaced = steps'.map Step.unplaced :=
    (steps_coincide (peers_unplaced quiet quiet' himports hcatch) limit discreet
      fun _ => ⟨rfl, rfl, rfl, rfl, rfl, trivial⟩).1
  refine ⟨hunplaced, fun hpositions => ?_, fun hsettled hcoherent => ?_⟩
  · have hboth : ∀ R, KeptByTelling setup setup' R → R (reports, []) (reports', []) →
        steps.map Step.shown = steps'.map Step.shown ∧
          List.Forall₂ (fun step step' => Option.Rel R step.told? step'.told?) steps steps' := by
      intro R hkept hreports
      have peers := peers_placed quiet quiet' himports hcatch hpositions hkept
      exact steps_coincide peers limit discreet fun _ => ⟨rfl, rfl, rfl, rfl, rfl, hreports⟩
    exact ⟨(hboth (fun _ _ => True) (fun _ _ _ _ _ => trivial) trivial).1,
      fun R hkept hreports => (hboth R hkept hreports).2⟩
  · -- The same is changed in both sessions, so the second one finds the same files.
    have hsettled' : Settled files steps' := hsettled.of_unplaced_eq hunplaced
    have hcoherent' : Coherent files steps' := hcoherent.of_unplaced_eq hunplaced
    have hlines := map_lines?_eq hsettled hcoherent
    have hlines' := map_lines?_eq hsettled' hcoherent'
    rw [hlines, hlines', hunplaced]

/-- A directory with the file of the first unit. -/
def fileOfA : FileStore := ⟨[], [(["A.java"], .file "import static A.m;\n".toUTF8)]⟩

/-- A setup that collects diagnostics. -/
def collectingSetup : Setup (List Diagnostic) := ⟨{}, some collecting, spanPositions⟩

/-- A setup that prints diagnostics without positions, and writes no stack traces. -/
def printingSetup : Setup Console :=
  ⟨{ dumpStackOnError := false }, some Console.print, noPositions⟩

theorem overlapping_discreet (c c' : ScanConfig) : overlapping.Discreet c c' := by
  have hpass : refusing.Discreet c c' :=
    ⟨fun _ => .panic .other, fun _ => .done (), fun callback _ => callback.elim⟩
  exact .step hpass (.scanUnit 0 importsOfA) fun _ _ =>
    .step hpass (.scanUnit 1 importsOfB) fun _ _ =>
      .step hpass (.ask trivial) fun _ _ =>
        .step hpass (.scanUnit 0 importsOfA) fun _ _ => .done

theorem overlapping_settled :
    Settled fileOfA (overlapping.steps collectingSetup 1 (.idle fileOfA [])) := by
  have hnone : ((overlapping.steps collectingSetup 1 (.idle fileOfA [])).flatMap
      Step.edits).isEmpty = true := by decide +kernel
  intro edit hedit
  rw [List.isEmpty_iff.1 hnone] at hedit
  cases hedit

theorem overlapping_coherent :
    Coherent fileOfA (overlapping.steps collectingSetup 1 (.idle fileOfA [])) := by
  unfold Coherent
  decide +kernel

/-- Panics that are caught are reported as internal errors.  It makes no difference whether
they are collected or given to a console that is broken, and stack traces make no difference
to what is collected. -/
theorem overlapping_passive :
    (overlapping.steps collectingSetup 1 (.idle fileOfA [])).map Step.unplaced =
      (overlapping.steps printingSetup 1 (.idle fileOfA (.onto (.broken "broken pipe")))).map
        Step.unplaced ∧
    (overlapping.steps printingSetup 1 (.idle fileOfA (.onto (.broken "broken pipe")))).map
        Step.lines? =
      [some (some ["import static A.m;"]), some none, some none,
        some (some ["import static A.m;"])] ∧
    List.Forall₂ (fun step step' => Option.Rel Eq step.told? step'.told?)
      (overlapping.steps collectingSetup 1 (.idle fileOfA []))
      (overlapping.steps { collectingSetup with config := printingSetup.config } 1
        (.idle fileOfA [])) := by
  have quiet : collectingSetup.Quiet := Setup.quiet_of_handler collecting_quiet rfl
  have quiet' : printingSetup.Quiet := Setup.quiet_of_handler (Console.printing_quiet Frame.renderer_quiet) rfl
  have discreet := overlapping_discreet collectingSetup.config printingSetup.config
  obtain ⟨hsame, -, hlines⟩ := reports_are_passive collectingSetup printingSetup quiet quiet'
    rfl rfl 1 discreet fileOfA [] (.onto (.broken "broken pipe"))
  obtain ⟨-, hplaced, -⟩ := reports_are_passive collectingSetup
    { collectingSetup with config := printingSetup.config } quiet quiet rfl rfl 1 discreet fileOfA
    [] []
  refine ⟨hsame, ?_, (hplaced rfl).2 Eq (keptByTelling_of_handler_eq rfl) rfl⟩
  rw [← hlines overlapping_settled overlapping_coherent]
  decide +kernel

/-! ## What has to be left out -/

/-- Keeps the width of stack traces at every node. -/
def peeking : Pass Nat Empty where
  visit _ := Visit.config.bind fun c => Visit.write c.dumpTextWidth
  resume callback _ := callback.elim

/-- Asks for no source lines and no stack traces, but for the settings. -/
def peekingSession : Session := .step peeking 0 (Visit.scanUnit 0 importsOfA) fun _ _ => .done

/-- A session that asks for no source lines and no stack traces can still see the settings
for stack traces.  Two scanners that differ in the width alone are told apart. -/
theorem settings_are_visible :
    (∀ c, peekingSession.Discreet c c) ∧
    (peekingSession.steps ⟨{}, none, spanPositions⟩ 1 (.idle (.empty []) ())).map Step.unplaced ≠
      (peekingSession.steps ⟨{ dumpTextWidth := 7 }, none, spanPositions⟩ 1
        (.idle (.empty []) ())).map Step.unplaced := by
  constructor
  · intro c
    refine .step ⟨fun _ => ?_, fun _ => .done (), fun callback _ => callback.elim⟩
      (.scanUnit 0 importsOfA) fun _ _ => .done
    exact .config rfl (.ask trivial)
  · intro h
    injection h with hstep
    injection hstep with _ _ _ _ _ hresult
    cases hresult

end Session

end TreeScan

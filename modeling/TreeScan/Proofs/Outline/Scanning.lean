import TreeScan.Proofs.Outline.Drawing
import TreeScan.Proofs.Scan.Landing

/-!
# Scans that draw

The scan of a node draws it (`ScanDraws`): it completes, leaves the stack as it was, adds
the lines of the node to the outline, and delivers one warning for each method that falls
back.  `Draws` relates the states before and after.

This holds of a node if it holds of its children.  Here it is shown for every node but
methods (`visit_draws`).  Their visits write a line at most and then scan their children,
so they follow the equations of the outline one by one.
-/

namespace TreeScan.Outline

open Engine

variable {η α : Type} {setup : Setup η} {nested : Scan Outline Nat η} {nodes ns ns' : List Node}
  {n : Node} {depth : Nat} {lines : List String} {s t u : ScanState Outline η}

/-! ## Levels -/

/-- The level of what is scanned below a stack. -/
def levelBelow (stack : Stack) : Nat := (stack.filter fun n => !isBody n.element).length

theorem level_cons (h : isBody n.element = false) (stack : Stack) :
    level (n :: stack) = levelBelow stack := by
  simp [level, levelBelow, h]

theorem levelBelow_cons (h : isBody n.element = false) (stack : Stack) :
    levelBelow (n :: stack) = levelBelow stack + 1 := by
  simp [levelBelow, h]

theorem levelBelow_cons_body (h : isBody n.element = true) (stack : Stack) :
    levelBelow (n :: stack) = levelBelow stack := by
  simp [levelBelow, h]

/-! ## From one state to another -/

/-- The warning that a method falls back to the expanded style. -/
def fallbackAt (setup : Setup η) (unit : Option CompilationUnit) (method : Node) : Diagnostic :=
  ⟨.strategyFallback, unit.bind fun u => setup.positions u method none,
    Problem.strategyFallback.message ["expanded outline", method.label]⟩

/-- From `s` to `t` some lines were written and nothing was delivered. -/
structure Writes (setup : Setup η) (lines : List String) (s t : ScanState Outline η) : Prop where
  stack_eq : t.scanner.stack = s.scanner.stack
  pass_eq : t.pass = s.pass.withLines lines
  hears : Hears setup [] s.scanner t.scanner

/-- From `s` to `t` some nodes were drawn at a level, and for each method that fell back a
warning was delivered. -/
structure Draws (setup : Setup η) (level : Nat) (ns : List Node) (s t : ScanState Outline η) :
    Prop where
  stack_eq : t.scanner.stack = s.scanner.stack
  pass_eq : t.pass = s.pass.draw level ns
  hears : Hears setup ((s.pass.fallbacks ns).map (fallbackAt setup s.scanner.unit))
    s.scanner t.scanner

theorem Draws.nil (setup : Setup η) (level : Nat) (s : ScanState Outline η) :
    Draws setup level [] s s where
  stack_eq := rfl
  pass_eq := (s.pass.draw_nil level).symm
  hears := by
    rw [s.pass.fallbacks_eq_nil [] nofun]
    exact .refl s.scanner

theorem Draws.trans (h : Draws setup depth ns s t) (h' : Draws setup depth ns' t u) :
    Draws setup depth (ns ++ ns') s u where
  stack_eq := h'.stack_eq.trans h.stack_eq
  pass_eq := by rw [h'.pass_eq, h.pass_eq, draw_append]
  hears := by
    have hall := h.hears.trans h'.hears
    rw [h.pass_eq, h.hears.unit_eq, ← List.map_append, ← fallbacks_append] at hall
    exact hall

theorem Writes.draws (h : Writes setup (render s.pass.style depth n.element) s t)
    (hf : s.pass.fallbacks [n] = []) : Draws setup depth [n] s t where
  stack_eq := h.stack_eq
  pass_eq := by rw [h.pass_eq, draw_singleton_eq_withLines _ _ hf]
  hears := by
    rw [hf]
    exact h.hears

/-- The lines of a node before its children. -/
theorem Draws.of_children {level level' : Nat} (lines : List String) (hfits : overflows n = false)
    (hrender : render s.pass.style level n.element =
      lines ++ renderAll s.pass.style level' n.element.children)
    (h : Draws setup level' n.children ⟨s.pass.withLines lines, s.scanner⟩ t) :
    Draws setup level [n] s t where
  stack_eq := h.stack_eq
  pass_eq := by rw [h.pass_eq, draw_children _ _ hfits hrender]
  hears := by
    have hh := h.hears
    have hfallbacks : (s.pass.withLines lines).fallbacks n.children = s.pass.fallbacks [n] :=
      s.pass.fallbacks_children hfits
    rw [hfallbacks] at hh
    exact hh

/-! ## Scans -/

/-- The scan of a node draws it. -/
def ScanDraws (setup : Setup η) (nodes : List Node) (nested : Scan Outline Nat η) (n : Node) :
    Prop :=
  ∀ s : ScanState Outline η, Ready nodes s.pass →
    ∃ t, nested n s = .ok (.answer none, t) ∧
      Draws setup (levelBelow s.scanner.stack) [n] s t

/-- The scans of some nodes draw them, and all that is at or below them is among `nodes`. -/
def AllDraw (setup : Setup η) (nodes : List Node) (nested : Scan Outline Nat η)
    (ns : List Node) : Prop :=
  ∀ n ∈ ns, n.subtree ⊆ nodes ∧ ScanDraws setup nodes nested n

/-- After the scan of a node comes what follows its answer. -/
theorem runVisit_scan_bind {escaped : Option (Rollback Nat)}
    (h : nested n s = .ok (.answer escaped, t)) (f : Unit → Step α) :
    runVisit setup nested ((Visit.scan n).bind f) s =
      runVisit setup nested ((Visit.forward escaped).bind f) t := by
  unfold Visit.scan Visit.attempt Visit.ask
  rw [Visit.bind_assoc]
  show runVisit setup nested (.request (.scan (some n)) _) s = _
  rw [runVisit_request, answer, h]
  rfl

theorem runVisit_scan_of_answer (h : nested n s = .ok (.answer none, t)) (f : Unit → Step α) :
    runVisit setup nested ((Visit.scan n).bind f) s = runVisit setup nested (f ()) t :=
  runVisit_scan_bind h f

theorem runVisit_scanAll (hnodes : Node.Identified nodes)
    (hns : AllDraw setup nodes nested ns)
    (hready : Ready nodes s.pass) :
    ∃ t, runVisit setup nested (Visit.scanAll ns) s = .ok (.completed (), t) ∧
      Draws setup (levelBelow s.scanner.stack) ns s t := by
  induction ns generalizing s with
  | nil => exact ⟨s, rfl, .nil setup _ s⟩
  | cons n ns ih =>
      obtain ⟨hsub, hdraws⟩ := hns n List.mem_cons_self
      obtain ⟨s₁, hscan, hn⟩ := hdraws s hready
      have hready₁ : Ready nodes s₁.pass := by
        rw [hn.pass_eq]
        exact hready.draw _ _ hnodes (by simpa using hsub)
      obtain ⟨s₂, hall, hds⟩ := ih (fun m hm => hns m (List.mem_cons_of_mem n hm)) hready₁
      rw [Visit.scanAll, runVisit_scan_of_answer hscan]
      rw [hn.stack_eq] at hds
      exact ⟨s₂, hall, hn.trans hds⟩

/-! ## Visits -/

/-- A visit of a node, which has just been entered, draws it. -/
def VisitDraws (setup : Setup η) (nested : Scan Outline Nat η) (n : Node) (v : Step Unit)
    (s : ScanState Outline η) : Prop :=
  ∃ t, runVisit setup nested v (s.on (s.scanner.enter n)) = .ok (.completed (), t) ∧
    Draws setup (levelBelow s.scanner.stack) [n] (s.on (s.scanner.enter n)) t

/-- A visit that draws its node makes the scan draw it. -/
theorem VisitDraws.scan {limit : Nat} (h : VisitDraws setup (scan setup pass limit) n (visit n) s) :
    ∃ t, Engine.scan setup pass (limit + 1) n s = .ok (.answer none, t) ∧
      Draws setup (levelBelow s.scanner.stack) [n] s t := by
  obtain ⟨t, hvisit, hdraws⟩ := h
  have hhears := hdraws.hears
  exact ⟨_, scan_of_completed hvisit, rfl, hdraws.pass_eq,
    hhears.unit_eq, hhears.files_eq, hhears.reports_eq, hhears.unhandled_eq⟩

theorem push_eq_withLines {o : Outline} (h : o.buffer.indent = indent) (level : Nat)
    (text : String) :
    { o with buffer := o.buffer.push level text } = o.withLines [lineAt level text] := by
  unfold withLines lineAt
  rw [← h]
  rfl

/-- The current node writes its line. -/
theorem runVisit_writeLine {stack : Stack} (hstack : s.scanner.stack = n :: stack)
    (hbody : isBody n.element = false) (hindent : s.pass.buffer.indent = indent) (text : String)
    (f : Nat → Step α) :
    runVisit setup nested ((writeLine text).bind f) s =
      runVisit setup nested (f s.pass.buffer.size)
        ⟨s.pass.withLines [lineAt (levelBelow stack) text], s.scanner⟩ := by
  rw [← push_eq_withLines hindent, ← level_cons hbody, ← hstack]
  simp only [writeLine, LineBuffer.line_eq]
  rfl

/-- A statement is a line and then its children while no line takes the statements. -/
theorem runVisit_visitStmt (setup : Setup η) (nested : Scan Outline Nat η) (st : Stmt)
    (h : s.pass.inlineAt = none) :
    runVisit setup nested (visitStmt n st) s =
      runVisit setup nested ((writeLine (stmtLine st)).bind fun _ => Visit.walk n) s := by
  obtain ⟨⟨style, buffer, inlineAt, known⟩, scanner⟩ := s
  obtain rfl : inlineAt = none := h
  rfl

/-- A node that is a line and nothing else. -/
theorem visitDraws_line (hready : Ready nodes s.pass) (hbody : isBody n.element = false)
    {text : String}
    (hrender : render s.pass.style (levelBelow s.scanner.stack) n.element =
      [lineAt (levelBelow s.scanner.stack) text]) (hf : s.pass.fallbacks [n] = []) :
    VisitDraws setup nested n ((writeLine text).bind fun _ => .done ()) s := by
  refine ⟨_, runVisit_writeLine (s := s.on (s.scanner.enter n)) rfl hbody hready.indent_eq text _,
    Writes.draws ?_ hf⟩
  exact ⟨rfl, congrArg s.pass.withLines hrender.symm, .refl _⟩

/-- A node that is a line and then its children. -/
theorem visitDraws_lineAndWalk (hnodes : Node.Identified nodes) (hready : Ready nodes s.pass)
    (hchildren : AllDraw setup nodes nested n.children)
    (hbody : isBody n.element = false) {text : String}
    (hrender : render s.pass.style (levelBelow s.scanner.stack) n.element =
      lineAt (levelBelow s.scanner.stack) text ::
        renderAll s.pass.style (levelBelow s.scanner.stack + 1) n.element.children)
    (hfits : overflows n = false) :
    VisitDraws setup nested n ((writeLine text).bind fun _ => Visit.walk n) s := by
  obtain ⟨t, hwalk, hdraws⟩ := runVisit_scanAll (s := ⟨s.pass.withLines
    [lineAt (levelBelow s.scanner.stack) text], s.scanner.enter n⟩) hnodes hchildren
    (hready.withLines _)
  have hlevel : levelBelow (s.scanner.enter n).stack = levelBelow s.scanner.stack + 1 :=
    levelBelow_cons hbody _
  rw [hlevel] at hdraws
  refine ⟨t, ?_, .of_children [_] hfits hrender hdraws⟩
  exact (runVisit_writeLine (s := s.on (s.scanner.enter n)) rfl hbody hready.indent_eq text _).trans
    hwalk

/-- A node that is its children. -/
theorem visitDraws_walk (hnodes : Node.Identified nodes) (hready : Ready nodes s.pass)
    (hchildren : AllDraw setup nodes nested n.children)
    (hrender : render s.pass.style (levelBelow s.scanner.stack) n.element =
      renderAll s.pass.style (levelBelow (n :: s.scanner.stack)) n.element.children)
    (hfits : overflows n = false) : VisitDraws setup nested n (Visit.walk n) s := by
  obtain ⟨t, hwalk, hdraws⟩ := runVisit_scanAll (s := s.on (s.scanner.enter n)) hnodes hchildren
    hready
  refine ⟨t, hwalk, .of_children [] hfits hrender ?_⟩
  rw [withLines_nil]
  exact hdraws

/-- A node that is nothing. -/
theorem visitDraws_nothing
    (hrender : render s.pass.style (levelBelow s.scanner.stack) n.element = [])
    (hf : s.pass.fallbacks [n] = []) : VisitDraws setup nested n (.done ()) s := by
  refine ⟨_, rfl, Writes.draws ⟨rfl, ?_, .refl _⟩ hf⟩
  exact (congrArg s.pass.withLines hrender).trans s.pass.withLines_nil |>.symm

/-- The visit of a node other than a method draws it, if the scans of its children do. -/
theorem visit_draws (hnodes : Node.Identified nodes) (hready : Ready nodes s.pass)
    (hchildren : AllDraw setup nodes nested n.children)
    (hmethod : n.element.method? = none) : VisitDraws setup nested n (visit n) s := by
  have hfits : overflows n = false := overflows_of_method?_eq_none hmethod
  obtain ⟨place, element⟩ := n
  cases element with
  | unit u => exact visitDraws_lineAndWalk hnodes hready hchildren rfl (unitLines_eq _ _ u) hfits
  | importDecl d =>
      exact visitDraws_line hready rfl rfl (s.pass.fallbacks_eq_nil_of_children hfits nofun)
  | typeDecl d =>
      exact visitDraws_lineAndWalk hnodes hready hchildren rfl (typeLines_eq _ _ d.node) hfits
  | member m =>
      obtain ⟨m, span⟩ := m
      cases m with
      | field d =>
          have hf := s.pass.fallbacks_eq_nil_of_children hfits fun c => Element.isCode_ofField
          refine visitDraws_line hready rfl ?_ hf
          simp only [render, memberLines]
      | method d => cases hmethod
      | type d =>
          refine visitDraws_lineAndWalk hnodes hready hchildren rfl ?_ hfits
          simp only [render, memberLines]
          exact typeLines_eq _ _ d
  | param p => exact visitDraws_walk hnodes hready hchildren rfl hfits
  | typeRef r =>
      exact visitDraws_walk hnodes hready hchildren (renderAll_typeRefs _ _ _).symm hfits
  | block b =>
      refine visitDraws_walk hnodes hready hchildren ?_ hfits
      rw [levelBelow_cons_body rfl]
      exact (renderAll_stmts _ _ _).symm
  | stmt c =>
      obtain ⟨t, hwalk, hdraws⟩ :=
        visitDraws_lineAndWalk hnodes hready hchildren rfl (stmtLines_eq _ _ c.node) hfits
      have hvisit := runVisit_visitStmt (n := ⟨place, .stmt c⟩)
        (s := s.on (s.scanner.enter ⟨place, .stmt c⟩)) setup nested c.node hready.inlineAt_eq
      exact ⟨t, hvisit.trans hwalk, hdraws⟩
  | expr x => exact visitDraws_nothing rfl (s.pass.fallbacks_eq_nil_of_children hfits fun c =>
      Element.isCode_of_mem_children rfl)

end TreeScan.Outline

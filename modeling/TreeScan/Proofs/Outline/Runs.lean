import TreeScan.Proofs.Outline.Methods

/-!
# Outlines of runs

An outline that begins without lines, on a scanner with an empty stack, renders what is
scanned.  The run of a unit gives the outline of the unit (`run_renders`).  Scans of several
roots with one outline give what each root gives alone (`roots_render_apart`): what the pass
remembers from one scan to the next is which methods fell back, and that decides which
warnings are delivered but not how anything is written.
-/

namespace TreeScan

variable {σ κ η : Type}

/-- Scans nodes as the roots of scans of their own, one after the other.  The result is what
each scan answered and the stack that it left. -/
def Visit.scanRoots : List Node → Visit σ κ (List (Option ScanError × Stack))
  | [] => .done []
  | n :: ns => (scanRoot n).bind fun error => stack.bind fun left =>
    (scanRoots ns).bind fun rest => .done ((error, left) :: rest)

namespace Outline

open Engine

variable {setup : Setup η} {nested : Scan Outline Nat η} {nodes roots : List Node} {n : Node}
  {limit : Nat} {α : Type} {s t : ScanState Outline η}

theorem runVisit_scanRoot (setup : Setup η) (h : nested n s = .ok (.answer none, t))
    (f : Option ScanError → Step α) :
    runVisit setup nested ((Visit.scanRoot n).bind f) s = runVisit setup nested (f none) t := by
  show runVisit setup nested (.request (.scanRoot n) f) s = _
  rw [runVisit_request, answer_scanRoot, h]
  rfl

/-- A scan of its own with a fresh outline draws the node. -/
theorem scanRoot_draws (quiet : setup.Quiet) (hlimit : n.height ≤ limit) (style : OutlineStyle)
    {s : Scanner η} (hidle : s.stack = []) :
    ∃ t, runVisit setup (scan setup pass limit) (.scanRoot n) ⟨.empty style, s⟩ =
        .ok (.completed none, t) ∧
      Draws setup 0 [n] ⟨.empty style, s⟩ t := by
  have hready : Ready n.subtree (.empty style) := .empty _ style
  obtain ⟨t, hscan, hdraws⟩ := scan_draws n.identified_subtree quiet
    (List.Subset.refl _) hlimit ⟨.empty style, s⟩ hready
  have hrun := runVisit_scanRoot setup hscan .done
  rw [Visit.bind_done] at hrun
  rw [hidle] at hdraws
  exact ⟨t, hrun, hdraws⟩

/-- What is drawn of a node in a fresh outline are its lines. -/
theorem Draws.lines_eq {style : OutlineStyle} {s : Scanner η}
    (h : Draws setup 0 [n] ⟨.empty style, s⟩ t) : t.pass.lines = render style 0 n.element := by
  rw [h.pass_eq]
  exact List.flatMap_singleton _ _

/-- A scan of its own with a fresh outline renders the node. -/
theorem scanRoot_renders (quiet : setup.Quiet) (hlimit : n.height ≤ limit) (style : OutlineStyle)
    {s : Scanner η} (hidle : s.stack = []) :
    ∃ t, runVisit setup (scan setup pass limit) (.scanRoot n) ⟨.empty style, s⟩ =
        .ok (.completed none, t) ∧
      t.pass.lines = render style 0 n.element ∧ t.scanner.stack = [] := by
  obtain ⟨t, hrun, hdraws⟩ := scanRoot_draws quiet hlimit style hidle
  exact ⟨t, hrun, hdraws.lines_eq, hdraws.stack_eq.trans hidle⟩

/-- The run of a unit with a fresh outline on a scanner with an empty stack completes, and
its lines are the outline of the unit. -/
theorem run_renders (quiet : setup.Quiet) {tree : Nat} {unit : CompilationUnit}
    (hlimit : (Node.root tree unit).height ≤ limit) (style : OutlineStyle) {s : Scanner η}
    (hidle : s.stack = []) :
    ∃ t, run setup pass limit (.scanUnit tree unit) ⟨.empty style, s⟩ =
        .ok (.completed none, t) ∧
      t.pass.lines = unitLines style 0 unit ∧ t.scanner.stack = [] := by
  have hactive : (s.activate setup (some unit)).stack = [] :=
    (s.activate_stack setup (some unit)).trans hidle
  obtain ⟨t, hroot, hlines, hstack⟩ := scanRoot_renders quiet hlimit style hactive
  exact ⟨t, (runVisit_scanUnit setup _ tree unit _).trans hroot, hlines, hstack⟩

/-- A statement that is a name. -/
def naming (name : String) : Spanned Stmt := ⟨.expr ⟨.ident name, ⟨0, 1⟩⟩, ⟨0, 1⟩⟩

/-- A method without parameters. -/
def methodOf (name : String) (body : Option (List (Spanned Stmt))) : Spanned Member :=
  ⟨.method ⟨false, name, [], none, body.map fun stmts => ⟨⟨stmts⟩, ⟨0, 1⟩⟩⟩, ⟨0, 1⟩⟩

/-- A method that overflows. -/
def grow : Spanned Member :=
  methodOf "grow" (some [naming "a", ⟨.whileLoop ⟨.ident "c", ⟨0, 1⟩⟩ (naming "b"), ⟨0, 1⟩⟩])

/-- A class with a method without a body, one that fits and one that overflows. -/
def shape : Spanned TypeDecl :=
  ⟨⟨.classType, "Shape",
    [methodOf "area" none, methodOf "reset" (some [naming "a", naming "b"]), grow]⟩, ⟨0, 1⟩⟩

/-- A file with one class. -/
def shapes : CompilationUnit := ⟨"Shape.java", none, [], [shape]⟩

theorem shapes_height (tree : Nat) : (Node.root tree shapes).height ≤ 7 := by
  simp [Node.height, Node.root, shapes, shape, grow, methodOf, naming, Element.height_eq,
    Element.children, Element.ofMember, Element.ofStmt, Element.ofExpr]

/-- The setup whose handler keeps all diagnostics. -/
def keeping : Setup (List Diagnostic) := ⟨{}, some collecting, spanPositions⟩

theorem keeping_quiet : keeping.Quiet := by
  intro handler h
  cases h
  exact fun _ _ _ => rfl

/-- Nothing is left of the inlined text of the method that overflows. -/
theorem shapes_rendered :
    ∃ t, run keeping pass 7 (.scanUnit 0 shapes)
        ⟨.empty .compact, Scanner.idle (.empty []) []⟩ = .ok (.completed none, t) ∧
      t.pass.lines = ["unit Shape.java", "  class Shape", "    method area()",
        "    method reset() \x7b a; b; \x7d", "    method grow()", "      a", "      while",
        "        b"] ∧
      t.scanner.stack = [] := by
  have hlines : unitLines .compact 0 shapes = ["unit Shape.java", "  class Shape",
      "    method area()", "    method reset() \x7b a; b; \x7d", "    method grow()", "      a",
      "      while", "        b"] := by
    decide +kernel
  rw [← hlines]
  exact run_renders keeping_quiet (shapes_height 0) .compact rfl

/-! ## Several roots -/

theorem runVisit_scanRoots (hnodes : Node.Identified nodes)
    (hroots : AllDraw setup nodes nested roots)
    (hready : Ready nodes s.pass) (hidle : s.scanner.stack = []) :
    ∃ t, runVisit setup nested (Visit.scanRoots roots) s =
        .ok (.completed (roots.map fun _ => (none, [])), t) ∧
      Draws setup 0 roots s t := by
  induction roots generalizing s with
  | nil => exact ⟨s, rfl, .nil setup 0 s⟩
  | cons n roots ih =>
      obtain ⟨hsub, hdraws⟩ := hroots n List.mem_cons_self
      obtain ⟨s₁, hscan, hn⟩ := hdraws s hready
      have hready₁ : Ready nodes s₁.pass := by
        rw [hn.pass_eq]
        exact hready.draw _ _ hnodes (by simpa using hsub)
      have hidle₁ : s₁.scanner.stack = [] := hn.stack_eq.trans hidle
      obtain ⟨s₂, hrest, hds⟩ :=
        ih (fun m hm => hroots m (List.mem_cons_of_mem n hm)) hready₁ hidle₁
      rw [hidle] at hn
      refine ⟨s₂, ?_, hn.trans hds⟩
      rw [Visit.scanRoots, runVisit_scanRoot setup hscan]
      show runVisit setup nested ((Visit.scanRoots roots).bind fun rest =>
        .done ((none, s₁.scanner.stack) :: rest)) s₁ = _
      rw [runVisit_bind, hrest, hidle₁]
      rfl

/-- Nodes are scanned one after the other, as the roots of scans of their own, with one
outline, on a scanner with an empty stack.  They may be parts of several trees, and the same
node may come again.  Every scan completes and leaves an empty stack.  The lines are those
that each root gives with a fresh outline of its own, one after the other.  In the compact
style one warning is delivered for each method that overflows, where it is met for the first
time, and nothing else is.  In the expanded style nothing is delivered.

Nodes with the same place have to be the same, as those of numbered trees are
(`Node.identified_of_trees`). -/
theorem roots_render_apart (quiet : setup.Quiet) (style : OutlineStyle)
    (hroots : Node.Identified (roots.flatMap Node.subtree))
    (hlimit : ∀ n ∈ roots, n.height ≤ limit) {s : Scanner η} (hidle : s.stack = []) :
    ∃ t, run setup pass limit (.scanRoots roots) ⟨.empty style, s⟩ =
        .ok (.completed (roots.map fun _ => (none, [])), t) ∧
      t.pass.lines = roots.flatMap (fun n => render style 0 n.element) ∧
      (∀ n ∈ roots, ∀ s' : Scanner η, s'.stack = [] →
        ∃ t', run setup pass limit (.scanRoot n) ⟨.empty style, s'⟩ = .ok (.completed none, t') ∧
          t'.pass.lines = render style 0 n.element) ∧
      (style = .compact →
        ∃ methods, methods = firstOverflows [] (roots.flatMap Node.subtree) ∧
          (∀ m, m ∈ methods ↔ m ∈ roots.flatMap Node.subtree ∧ overflows m = true) ∧
          (methods.map Node.place).Nodup ∧
          Hears setup (methods.map (fallbackAt setup s.unit)) s t.scanner) ∧
      (style = .expanded → Hears setup [] s t.scanner) := by
  have hsub : ∀ n ∈ roots, n.subtree ⊆ roots.flatMap Node.subtree := fun n hn m hm =>
    List.mem_flatMap.2 ⟨n, hn, hm⟩
  have hdraws : AllDraw setup (roots.flatMap Node.subtree) (scan setup pass limit) roots :=
    fun n hn => ⟨hsub n hn, scan_draws hroots quiet (hsub n hn) (hlimit n hn)⟩
  have hready : Ready (roots.flatMap Node.subtree) (.empty style) := .empty _ style
  obtain ⟨t, hrun, hall⟩ := runVisit_scanRoots (s := ⟨.empty style, s⟩) hroots hdraws hready hidle
  refine ⟨t, hrun, ?_, ?_, ?_, ?_⟩
  · rw [hall.pass_eq]
    show [] ++ renderAll style 0 (roots.map Node.element) = _
    rw [renderAll, List.flatMap_map]
    rfl
  · intro n hn s' hidle'
    obtain ⟨t', hroot, hlines, _⟩ := scanRoot_renders quiet (hlimit n hn) style hidle'
    exact ⟨t', hroot, hlines⟩
  · rintro rfl
    exact ⟨_, rfl, fun m => mem_firstOverflows_iff hroots, (firstOverflows_places [] _).1,
      hall.hears⟩
  · rintro rfl
    exact hall.hears

/-- The method that overflows, in one of several trees with the same content. -/
def growIn (tree : Nat) : Node := ⟨⟨tree, [2, 0]⟩, .member grow⟩

theorem growIn_mem (tree : Nat) : growIn tree ∈ (Node.root tree shapes).subtree := by
  refine Node.mem_subtree_of_child (c := ⟨⟨tree, [0]⟩, .typeDecl shape⟩) List.mem_cons_self ?_
  refine Node.mem_subtree_of_child (c := growIn tree) ?_ (growIn tree).mem_subtree_self
  exact List.mem_cons_of_mem _ (List.mem_cons_of_mem _ List.mem_cons_self)

theorem growIn_height (tree : Nat) : (growIn tree).height ≤ 7 := by
  simp [Node.height, growIn, grow, methodOf, naming, Element.height_eq, Element.children,
    Element.ofMember, Element.ofStmt, Element.ofExpr]

/-- A method before its class, the class twice, and the method of another tree. -/
theorem shapes_scanned_again :
    ∃ t, run keeping pass 7 (.scanRoots [growIn 0, .root 0 shapes, .root 0 shapes, growIn 1])
        ⟨.empty .compact, Scanner.idle (.empty []) []⟩ =
          .ok (.completed [(none, []), (none, []), (none, []), (none, [])], t) ∧
      t.pass.lines = ["method grow()", "  a", "  while", "    b"] ++
        unitLines .compact 0 shapes ++ unitLines .compact 0 shapes ++
          ["method grow()", "  a", "  while", "    b"] ∧
      t.scanner.reports = [growIn 0, growIn 1].map (fallbackAt keeping none) := by
  have hroots : Node.Identified
      ([growIn 0, .root 0 shapes, .root 0 shapes, growIn 1].flatMap Node.subtree) := by
    refine Node.identified_of_trees (fun _ => shapes) fun n hn => ?_
    simp only [List.mem_cons, List.not_mem_nil, or_false] at hn
    rcases hn with rfl | rfl | rfl | rfl
    · exact growIn_mem 0
    · exact Node.mem_subtree_self _
    · exact Node.mem_subtree_self _
    · exact growIn_mem 1
  have hlimit : ∀ n ∈ [growIn 0, .root 0 shapes, .root 0 shapes, growIn 1], n.height ≤ 7 := by
    intro n hn
    simp only [List.mem_cons, List.not_mem_nil, or_false] at hn
    rcases hn with rfl | rfl | rfl | rfl
    · exact growIn_height 0
    · exact shapes_height 0
    · exact shapes_height 0
    · exact growIn_height 1
  obtain ⟨t, hrun, hlines, _, hcompact, _⟩ :=
    roots_render_apart keeping_quiet .compact hroots hlimit
    (s := Scanner.idle (.empty []) []) rfl
  have hmethods : firstOverflows []
      ([growIn 0, .root 0 shapes, .root 0 shapes, growIn 1].flatMap Node.subtree) =
        [growIn 0, growIn 1] := by
    simp [Node.subtree_eq, Node.below, Node.children, Place.child, Element.children,
      Element.ofMember, Element.ofStmt, Element.ofExpr, Element.method?, firstOverflows,
      overflows, hasCompound, isCompound, growIn, Node.root, shapes, shape, grow, methodOf, naming]
  obtain ⟨_, rfl, _, _, hhears⟩ := hcompact rfl
  rw [hmethods] at hhears
  refine ⟨t, hrun, ?_, hhears.reports_eq⟩
  rw [hlines]
  rfl

end Outline

end TreeScan

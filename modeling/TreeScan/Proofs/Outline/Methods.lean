import TreeScan.Proofs.Ast.Declarations
import TreeScan.Proofs.Outline.Scanning

/-!
# Scans of methods

A method without a body is its line.  A method with a body is written in one of three
ways.

* It is expanded at once if the style says so or if it fell back before.  Then its body is
  scanned like any other node (`visitDraws_expanded`).
* In the compact style its body is scanned while the line takes the statements.  If all of
  them fit, the method is that one line (`visitDraws_fits`).
* A statement that does not fit rolls back to the method.  What was written by then is
  the line of the method with some text added, and the callback cuts it off.  So the
  landing begins with the outline that the visit began with, but for the method that is
  known now, and writes the method expanded (`scan_overflows`).

With the other nodes this makes every scan draw (`scan_draws`).
-/

namespace TreeScan

namespace Outline

open Engine

variable {η α : Type} {setup : Setup η} {nested : Scan Outline Nat η} {nodes : List Node}
  {n body c m : Node} {d : MethodDecl} {span : Span} {block : Spanned Block}
  {stack : Stack} {header limit : Nat} {s t : ScanState Outline η}

/-! ## Methods

A method has no body, or one that is a child of it. -/

theorem isBody_method (hn : n.element = .member ⟨.method d, span⟩) : isBody n.element = false := by
  rw [hn]
  rfl

theorem kind_method (hn : n.element = .member ⟨.method d, span⟩) : n.kind = .method := by
  unfold Node.kind
  rw [hn]
  rfl

theorem visit_method (hn : n.element = .member ⟨.method d, span⟩) :
    visit n = visitMethod n d := by
  unfold visit
  rw [hn]
  rfl

theorem overflows_method (hn : n.element = .member ⟨.method d, span⟩) :
    overflows n = d.body.any fun body => hasCompound body.node := by
  unfold overflows
  rw [hn]
  rfl

theorem render_method (style : OutlineStyle) (level : Nat)
    (hn : n.element = .member ⟨.method d, span⟩) :
    render style level n.element = methodLines style level d := by
  rw [hn]
  simp only [render, memberLines]

theorem isCode_of_method (hn : n.element = .member ⟨.method d, span⟩) :
    ∀ c ∈ n.element.children, c.isCode = true := by
  rw [hn]
  exact fun c => Element.isCode_ofMethod

/-- Below a method nothing overflows. -/
theorem eq_of_overflows_method (hn : n.element = .member ⟨.method d, span⟩)
    (hm : m ∈ n.subtree) (hover : overflows m = true) : m = n := by
  rcases Node.mem_subtree_iff.1 hm with rfl | ⟨c, hc, hm⟩
  · rfl
  · have hcode := isCode_of_method hn _ (Node.element_mem_of_mem_children hc)
    rw [overflows_of_code (Node.isCode_of_mem_subtree hcode hm)] at hover
    cases hover

theorem isInline_iff (o : Outline) (n : Node) :
    o.isInline n = true ↔ o.style = .compact ∧ n.place ∉ o.expanded := by
  simp [isInline]

theorem body?_eq_none (hn : n.element = .member ⟨.method d, span⟩) (hbody : d.body = none) :
    body? n = none := by
  refine List.find?_eq_none.2 fun c hc => ?_
  have hmem := Node.element_mem_of_mem_children hc
  rw [hn] at hmem
  simp only [Element.children, Element.ofMember, hbody, Option.toList_none, List.map_nil,
    List.append_nil, List.mem_append, List.mem_map] at hmem
  rcases hmem with ⟨p, _, hp⟩ | ⟨r, _, hr⟩
  · rw [← hp]
    exact Bool.false_ne_true
  · rw [← hr]
    exact Bool.false_ne_true

theorem exists_body (hn : n.element = .member ⟨.method d, span⟩) (hbody : d.body = some block) :
    ∃ c ∈ n.children, body? n = some c ∧ c.element = .block block := by
  have hmem : Element.block block ∈ n.element.children := by
    rw [hn]
    simp [Element.children, Element.ofMember, hbody]
  rw [← n.children_map_element, List.mem_map] at hmem
  obtain ⟨c, hc, he⟩ := hmem
  have hsome : (body? n).isSome = true :=
    List.find?_isSome.2 ⟨c, hc, by rw [he]; rfl⟩
  obtain ⟨c', hc'⟩ := Option.isSome_iff_exists.1 hsome
  have hisBody : isBody c'.element = true :=
    List.find?_some (p := fun k : Node => isBody k.element) hc'
  have hmem' := Node.element_mem_of_mem_children (List.mem_of_find?_eq_some hc')
  rw [hn] at hmem'
  simp only [Element.children, Element.ofMember, hbody, Option.toList_some, List.map_cons,
    List.map_nil, List.mem_append, List.mem_map, List.mem_singleton] at hmem'
  refine ⟨c', List.mem_of_find?_eq_some hc', hc', ?_⟩
  rcases hmem' with (⟨p, _, hp⟩ | ⟨r, _, hr⟩) | hb
  · rw [← hp] at hisBody
    cases hisBody
  · rw [← hr] at hisBody
    cases hisBody
  · exact hb

/-! ## Expanded -/

/-- A method whose body is not written on its line. -/
theorem visitMethod_expanded (hready : Ready nodes s.pass)
    (hchildren : AllDraw setup nodes nested n.children)
    (hn : n.element = .member ⟨.method d, span⟩) (hbody : d.body = some block)
    (hstack : s.scanner.stack = n :: stack) (hexpanded : s.pass.isInline n = false) :
    ∃ t, runVisit setup nested (visitMethod n d) s = .ok (.completed (), t) ∧
      Writes setup (lineAt (levelBelow stack) (methodLine d) ::
        bodyLines (levelBelow stack + 1) block.node.stmts) s t := by
  obtain ⟨c, hc, hfound, hblock⟩ := exists_body hn hbody
  have hno := isBody_method hn
  let written : ScanState Outline η :=
    ⟨s.pass.withLines [lineAt (levelBelow stack) (methodLine d)], s.scanner⟩
  have hvisit : runVisit setup nested (visitMethod n d) s =
      runVisit setup nested (Visit.scan c) written := by
    refine (runVisit_writeLine hstack hno hready.indent_eq _ _).trans ?_
    rw [hfound]
    show runVisit setup nested (if s.pass.isInline n = true then _ else _) written = _
    rw [hexpanded]
    rfl
  obtain ⟨t, hscan, hdraws⟩ := (hchildren c hc).2 written (hready.withLines _)
  have hcode : written.pass.fallbacks [c] = [] :=
    written.pass.fallbacks_eq_nil_of_code _ fun k hk => by
      rw [List.mem_singleton.1 hk, hblock]
      rfl
  have hlevel : levelBelow written.scanner.stack = levelBelow stack + 1 := by
    show levelBelow s.scanner.stack = _
    rw [hstack, levelBelow_cons hno]
  rw [← Visit.bind_done (Visit.scan c), runVisit_scan_of_answer hscan] at hvisit
  refine ⟨t, hvisit, hdraws.stack_eq, ?_, ?_⟩
  · rw [hdraws.pass_eq, draw_singleton_eq_withLines _ _ hcode, hlevel, hblock,
      withLines_withLines]
    rfl
  · have hhears := hdraws.hears
    rw [hcode] at hhears
    exact hhears

/-! ## On one line -/

/-- An outline with a text added to a line. -/
def added (o : Outline) (header : Nat) (text : String) : Outline :=
  { o with buffer := o.buffer.append header text }

theorem added_added (o : Outline) (text text' : String) :
    (o.added header text).added header text' = o.added header (text ++ text') := by
  unfold added
  rw [LineBuffer.append_append]

theorem added_nothing (o : Outline) : o.added header "" = o := by
  have hsame : (fun line : String => line ++ "") = id := funext fun line => String.append_empty
  unfold added LineBuffer.append
  rw [hsame, List.modify_id]

/-- What is added to the last line might have been written with it. -/
theorem withLines_added (o : Outline) (level : Nat) (text text' : String) :
    (o.withLines [lineAt level text]).added o.buffer.size text' =
      o.withLines [lineAt level (text ++ text')] := by
  have hlast := o.buffer.append_last text' (lineAt level text)
  have hline : lineAt level text ++ text' = lineAt level (text ++ text') :=
    LineBuffer.indented_append text text' _
  unfold withLines added
  rw [hlast, hline]

/-- What is done at a statement while a line takes the statements. -/
theorem runVisit_visitStmt_inline (setup : Setup η) {st : Stmt}
    (h : s.pass.inlineAt = some header) :
    runVisit setup nested (visitStmt n st) s =
      runVisit setup nested
        (if isCompound st then giveUpInline header else addTo header (" " ++ stmtLine st ++ ";"))
        s := by
  obtain ⟨⟨style, buffer, inlineAt, known⟩, scanner⟩ := s
  obtain rfl : inlineAt = some header := h
  rfl

theorem runVisit_giveUpInline (setup : Setup η)
    (h : s.scanner.stack.nearestOfKinds? [.method] = some m) :
    runVisit setup nested (giveUpInline header) s =
      .ok (.interrupted (.rollback ⟨m, some header⟩), s.on (s.scanner.note [expanding m])) := by
  show runVisit setup nested (.request .stack _) s = _
  rw [runVisit_request]
  simp only [answer, Visit.pure_bind, h]
  rfl

/-- A statement that fits is added to the line. -/
theorem scan_simple (setup : Setup η) {st : Spanned Stmt} (hlimit : c.height ≤ limit)
    (hc : c.element = .stmt st) (hsimple : isCompound st.node = false)
    (hinline : s.pass.inlineAt = some header) :
    scan setup pass limit c s =
      .ok (.answer none, ⟨s.pass.added header (" " ++ stmtLine st.node ++ ";"), s.scanner⟩) := by
  obtain ⟨limit, rfl, _⟩ := Node.exists_limit hlimit
  obtain ⟨place, element⟩ := c
  subst hc
  refine scan_of_completed (t := ⟨s.pass.added header (" " ++ stmtLine st.node ++ ";"),
    s.scanner.enter ⟨place, .stmt st⟩⟩) ?_
  refine (runVisit_visitStmt_inline (s := s.on (s.scanner.enter _)) setup hinline).trans ?_
  rw [hsimple]
  rfl

/-- At a statement that does not fit a rollback leaves for the method. -/
theorem scan_compound (setup : Setup η) {st : Spanned Stmt} (hlimit : c.height ≤ limit)
    (hc : c.element = .stmt st) (hcompound : isCompound st.node = true)
    (hinline : s.pass.inlineAt = some header)
    (hmethod : Stack.nearestOfKinds? (c :: s.scanner.stack) [.method] = some m)
    (hother : m.place ≠ c.place) :
    scan setup pass limit c s =
      .ok (.answer (some ⟨m, some header⟩), ⟨s.pass, s.scanner.note [expanding m]⟩) := by
  obtain ⟨limit, rfl, _⟩ := Node.exists_limit hlimit
  obtain ⟨place, element⟩ := c
  subst hc
  refine scan_of_rollback (t := ⟨s.pass, (s.scanner.enter ⟨place, .stmt st⟩).note [expanding m]⟩)
    ?_ hother
  refine (runVisit_visitStmt_inline (s := s.on (s.scanner.enter _)) setup hinline).trans ?_
  rw [hcompound]
  exact runVisit_giveUpInline setup hmethod

/-- Statements that fit are added to the line one after the other. -/
theorem runVisit_scanAll_fits (setup : Setup η) {cs : List Node} {stmts : List (Spanned Stmt)}
    (hlimit : ∀ c ∈ cs, c.height ≤ limit) (hcs : cs.map Node.element = stmts.map .stmt)
    (hsimple : ∀ st ∈ stmts, isCompound st.node = false)
    (hinline : s.pass.inlineAt = some header) :
    runVisit setup (scan setup pass limit) (Visit.scanAll cs) s =
      .ok (.completed (), ⟨s.pass.added header (inlineText stmts), s.scanner⟩) := by
  induction stmts generalizing cs s with
  | nil =>
      rw [List.map_eq_nil_iff.1 hcs, inlineText, added_nothing]
      rfl
  | cons st stmts ih =>
      obtain ⟨c, cs, rfl, hc, hcs⟩ := List.map_eq_cons_iff.1 hcs
      have hlow := hlimit c List.mem_cons_self
      have hlimit : ∀ c ∈ cs, c.height ≤ limit := fun k hk => hlimit k (List.mem_cons_of_mem c hk)
      have hscan := scan_simple setup hlow hc
        (hsimple st List.mem_cons_self) hinline
      have hrest := ih (s := ⟨s.pass.added header (" " ++ stmtLine st.node ++ ";"), s.scanner⟩)
        hlimit hcs (fun st hst => hsimple st (List.mem_cons_of_mem _ hst)) hinline
      rw [Visit.scanAll, runVisit_scan_of_answer hscan, hrest, added_added, inlineText]

/-- Of statements that do not all fit some are added to the line, and then a rollback leaves
for the method. -/
theorem runVisit_scanAll_overflows (setup : Setup η) {cs : List Node} {stmts : List (Spanned Stmt)}
    (hlimit : ∀ c ∈ cs, c.height ≤ limit) (hcs : cs.map Node.element = stmts.map .stmt)
    (hcompound : ∃ st ∈ stmts, isCompound st.node = true)
    (hinline : s.pass.inlineAt = some header)
    (hmethod : ∀ c, Stack.nearestOfKinds? (c :: s.scanner.stack) [.method] = some m)
    (hother : ∀ c ∈ cs, m.place ≠ c.place) :
    ∃ text, runVisit setup (scan setup pass limit) (Visit.scanAll cs) s =
      .ok (.interrupted (.rollback ⟨m, some header⟩),
        ⟨s.pass.added header text, s.scanner.note [expanding m]⟩) := by
  induction stmts generalizing cs s with
  | nil =>
      obtain ⟨st, hst, _⟩ := hcompound
      cases hst
  | cons st stmts ih =>
      obtain ⟨c, cs, rfl, hc, hcs⟩ := List.map_eq_cons_iff.1 hcs
      have hlow := hlimit c List.mem_cons_self
      have hlimit : ∀ c ∈ cs, c.height ≤ limit := fun k hk => hlimit k (List.mem_cons_of_mem c hk)
      cases hst : isCompound st.node with
      | true =>
          have hscan := scan_compound setup hlow hc hst hinline (hmethod c)
            (hother c List.mem_cons_self)
          refine ⟨"", ?_⟩
          rw [added_nothing, Visit.scanAll, runVisit_scan_bind hscan]
          rfl
      | false =>
          have hscan := scan_simple setup hlow hc hst hinline
          obtain ⟨text, htext⟩ := ih
            (s := ⟨s.pass.added header (" " ++ stmtLine st.node ++ ";"), s.scanner⟩)
            hlimit hcs (by simpa [hst] using hcompound) hinline hmethod
            (fun c hc => hother c (List.mem_cons_of_mem _ hc))
          rw [Visit.scanAll, runVisit_scan_of_answer hscan, htext, added_added]
          exact ⟨_, rfl⟩

/-! ### Bodies -/

theorem children_of_block (hb : body.element = .block block) :
    body.children.map Node.element = block.node.stmts.map .stmt := by
  rw [body.children_map_element, hb]
  rfl

theorem visit_block (hb : body.element = .block block) :
    pass.visit body = Visit.scanAll body.children := by
  show visit body = _
  unfold visit
  rw [hb]
  rfl

/-- A body that fits is added to the line. -/
theorem scan_body_fits (setup : Setup η) (hlimit : body.height ≤ limit)
    (hb : body.element = .block block) (hfits : hasCompound block.node = false)
    (hinline : s.pass.inlineAt = some header) :
    scan setup pass limit body s =
      .ok (.answer none, ⟨s.pass.added header (inlineText block.node.stmts), s.scanner⟩) := by
  obtain ⟨limit, rfl, hlow⟩ := Node.exists_limit hlimit
  refine scan_of_completed (t := ⟨s.pass.added header (inlineText block.node.stmts),
    s.scanner.enter body⟩) ?_
  rw [visit_block hb]
  refine runVisit_scanAll_fits setup (s := s.on (s.scanner.enter body)) hlow
    (children_of_block hb) ?_ hinline
  simpa [hasCompound] using hfits

/-- From a body that does not fit a rollback leaves for the method. -/
theorem scan_body_overflows (setup : Setup η) (hlimit : body.height ≤ limit)
    (hb : body.element = .block block) (hover : hasCompound block.node = true)
    (hinline : s.pass.inlineAt = some header)
    (hstack : s.scanner.stack = m :: stack) (hm : m.kind = .method) (hbelow : body ∈ m.children) :
    ∃ text, scan setup pass limit body s =
      .ok (.answer (some ⟨m, some header⟩),
        ⟨s.pass.added header text, s.scanner.note [expanding m]⟩) := by
  obtain ⟨limit, rfl, hlow⟩ := Node.exists_limit hlimit
  have hcompound : ∃ st ∈ block.node.stmts, isCompound st.node = true := by
    simpa [hasCompound] using hover
  -- Neither the body nor a statement in it is the method.
  have hother : ∀ c ∈ body.subtree, m.place ≠ c.place := fun c hc =>
    Node.place_ne_of_mem_below (Node.mem_below_iff.2 ⟨body, hbelow, hc⟩)
  have hnearest : ∀ c, Stack.nearestOfKinds? (c :: (s.scanner.enter body).stack) [.method] =
      some m := by
    intro c
    have hbody : body.kind = .block := by
      unfold Node.kind
      rw [hb]
      rfl
    show List.find? (fun k : Node => [NodeKind.method].contains k.kind)
      (body :: s.scanner.stack) = _
    rw [hstack]
    simp [hbody, hm]
  obtain ⟨text, hrun⟩ := runVisit_scanAll_overflows setup
    (s := s.on (s.scanner.enter body)) hlow (children_of_block hb) hcompound hinline hnearest
    fun c hc => hother c (Node.mem_subtree_of_child hc c.mem_subtree_self)
  refine ⟨text, scan_of_rollback (t := ⟨s.pass.added header text,
    (s.scanner.enter body).note [expanding m]⟩) ?_ (hother body body.mem_subtree_self)⟩
  rw [visit_block hb]
  exact hrun

/-! ### Methods -/

/-- An outline of which a line takes the statements. -/
def inlining (o : Outline) (header : Nat) : Outline := { o with inlineAt := some header }

/-- Writing a body on a line goes on as the scan of the body answers, with the text that the
scan has added. -/
theorem runVisit_inlineBody (setup : Setup η) {escaped : Option (Rollback Nat)} {text : String}
    {scanner : Scanner η} (hnone : s.pass.inlineAt = none)
    (h : nested body ⟨(s.pass.added header " \x7b").inlining header, s.scanner⟩ =
      .ok (.answer escaped,
        ⟨((s.pass.added header " \x7b").inlining header).added header text, scanner⟩)) :
    runVisit setup nested (inlineBody header body) s =
      runVisit setup nested ((Visit.forward escaped).bind fun _ => addTo header " \x7d")
        ⟨(s.pass.added header " \x7b").added header text, scanner⟩ := by
  show runVisit setup nested (.request (.scan (some body)) _)
    ⟨(s.pass.added header " \x7b").inlining header, s.scanner⟩ = _
  rw [runVisit_request, answer, h]
  obtain ⟨⟨style, buffer, inlineAt, known⟩, _⟩ := s
  obtain rfl : inlineAt = none := hnone
  rfl

theorem visitMethod_inline (hindent : s.pass.buffer.indent = indent)
    (hn : n.element = .member ⟨.method d, span⟩) (hbody : body? n = some body)
    (hstack : s.scanner.stack = n :: stack) (hinline : s.pass.isInline n = true) :
    runVisit setup nested (visitMethod n d) s =
      runVisit setup nested (inlineBody s.pass.buffer.size body)
        ⟨s.pass.withLines [lineAt (levelBelow stack) (methodLine d)], s.scanner⟩ := by
  have hno := isBody_method hn
  refine (runVisit_writeLine hstack hno hindent _ _).trans ?_
  rw [hbody]
  show runVisit setup nested (if s.pass.isInline n = true then _ else _) _ = _
  rw [hinline]
  rfl

/-- A method whose body fits stands on one line. -/
theorem visitMethod_fits (setup : Setup η) (hlimit : ∀ c ∈ n.children, c.height ≤ limit)
    (hready : Ready nodes s.pass)
    (hn : n.element = .member ⟨.method d, span⟩) (hbody : d.body = some block)
    (hstack : s.scanner.stack = n :: stack) (hinline : s.pass.isInline n = true)
    (hfits : hasCompound block.node = false) :
    ∃ t, runVisit setup (scan setup pass limit) (visitMethod n d) s =
        .ok (.completed (), t) ∧
      Writes setup [lineAt (levelBelow stack)
        (methodLine d ++ " \x7b" ++ inlineText block.node.stmts ++ " \x7d")] s t := by
  obtain ⟨body, hmem, hfound, hb⟩ := exists_body hn hbody
  have hscan := scan_body_fits setup (hlimit body hmem) hb hfits
    (s := ⟨((s.pass.withLines [lineAt (levelBelow stack) (methodLine d)]).added
      s.pass.buffer.size " \x7b").inlining s.pass.buffer.size, s.scanner⟩) rfl
  have hrun := (visitMethod_inline hready.indent_eq hn hfound hstack hinline).trans
    (runVisit_inlineBody setup hready.inlineAt_eq hscan)
  refine ⟨_, hrun, rfl, ?_, .refl _⟩
  rw [← withLines_added, ← withLines_added, ← withLines_added]
  rfl

/-- From a method whose body does not fit a rollback leaves for the method itself.  It carries
the line of the method, and by then nothing but that line was written. -/
theorem visitMethod_overflows (setup : Setup η) (hlimit : ∀ c ∈ n.children, c.height ≤ limit)
    (hready : Ready nodes s.pass) (hn : n.element = .member ⟨.method d, span⟩)
    (hbody : d.body = some block) (hstack : s.scanner.stack = n :: stack)
    (hinline : s.pass.isInline n = true) (hover : hasCompound block.node = true) :
    ∃ line, runVisit setup (scan setup pass limit) (visitMethod n d) s =
      .ok (.interrupted (.rollback ⟨n, some s.pass.buffer.size⟩),
        ⟨s.pass.withLines [line], s.scanner.note [expanding n]⟩) := by
  obtain ⟨body, hmem, hfound, hb⟩ := exists_body hn hbody
  obtain ⟨text, hscan⟩ := scan_body_overflows setup (hlimit body hmem) hb hover
    (s := ⟨((s.pass.withLines [lineAt (levelBelow stack) (methodLine d)]).added
      s.pass.buffer.size " \x7b").inlining s.pass.buffer.size, s.scanner⟩) rfl hstack
    (kind_method hn) hmem
  have hrun := (visitMethod_inline hready.indent_eq hn hfound hstack hinline).trans
    (runVisit_inlineBody setup hready.inlineAt_eq hscan)
  refine ⟨lineAt (levelBelow stack) (methodLine d ++ " \x7b" ++ text), hrun.trans ?_⟩
  rw [← withLines_added, ← withLines_added]
  rfl

/-- An outline that starts again with a method, from the line of it on. -/
def restarted (header : Nat) (n : Node) (o : Outline) : Outline :=
  { o with
    buffer := o.buffer.truncate header
    inlineAt := none
    expanded := n.place :: o.expanded }

/-- Nothing is left of the lines that were written for the method. -/
theorem restarted_withLines {o : Outline} (h : o.inlineAt = none) (n : Node)
    (lines : List String) : restarted o.buffer.size n (o.withLines lines) = o.withKnown [n] := by
  unfold restarted withLines
  rw [o.buffer.truncate_lines]
  cases o
  cases h
  rfl

theorem isInline_withKnown (o : Outline) (n : Node) : (o.withKnown [n]).isInline n = false := by
  simp [isInline, withKnown, knowing]

/-- At the method the pass drops the line, reports the method, and writes it expanded. -/
theorem expand_writes (quiet : setup.Quiet) {o : Outline} {line : String}
    (hready : Ready nodes (o.withKnown [n]))
    (hchildren : AllDraw setup nodes nested n.children)
    (hn : n.element = .member ⟨.method d, span⟩) (hbody : d.body = some block)
    (hpass : s.pass = o.withLines [line]) (hstack : s.scanner.stack = n :: stack) :
    ∃ t, runVisit setup nested (expand o.buffer.size n) s = .ok (.completed (), t) ∧
      t.scanner.stack = s.scanner.stack ∧
      t.pass = (o.withKnown [n]).withLines (lineAt (levelBelow stack) (methodLine d) ::
        bodyLines (levelBelow stack + 1) block.node.stmts) ∧
      Hears setup [fallbackAt setup s.scanner.unit n] s.scanner t.scanner := by
  have hnone : o.inlineAt = none := hready.inlineAt_eq
  have hreport := s.scanner.report_hears quiet n none .strategyFallback
    ["expanded outline", n.label]
  let reported : ScanState Outline η := ⟨o.withKnown [n],
    (s.scanner.report setup n none .strategyFallback ["expanded outline", n.label]).2⟩
  have hstack' : reported.scanner.stack = n :: stack :=
    (s.scanner.report_stack setup n none _ _).trans hstack
  have hanswer : answer setup nested
      (.report n none .strategyFallback ["expanded outline", n.label])
      ⟨o.withKnown [n], s.scanner⟩ = .ok (.answer (), reported) := by
    show Except.ok (reportReply (s.scanner.report setup n none _ _).1, reported) = _
    rw [hreport.1]
    rfl
  have hrun : runVisit setup nested (expand o.buffer.size n) s =
      runVisit setup nested (visitMethod n d) reported := by
    show runVisit setup nested
      (.request (.report n none .strategyFallback ["expanded outline", n.label]) _)
      ⟨restarted o.buffer.size n s.pass, s.scanner⟩ = _
    rw [hpass, restarted_withLines hnone, runVisit_request, hanswer, hn]
    rfl
  obtain ⟨t, hvisit, hwrites⟩ := visitMethod_expanded hready hchildren hn hbody hstack'
    (o.isInline_withKnown n)
  exact ⟨t, hrun.trans hvisit, hwrites.stack_eq.trans (hstack'.trans hstack.symm),
    hwrites.pass_eq, hreport.2.silent hwrites.hears⟩

/-! ## The scan of a method -/

/-- A method with a body is rendered expanded unless it is compact and fits. -/
theorem render_expanded {style : OutlineStyle} (level : Nat)
    (hn : n.element = .member ⟨.method d, span⟩) (hbody : d.body = some block)
    (h : style = .compact → hasCompound block.node = true) :
    render style level n.element =
      lineAt level (methodLine d) :: bodyLines (level + 1) block.node.stmts := by
  simp only [render_method _ _ hn, methodLines, hbody]
  rw [bodiedLines, if_neg]
  rintro ⟨hstyle, hfits⟩
  rw [h hstyle] at hfits
  cases hfits

/-- A method without a body. -/
theorem visitDraws_bodiless (hready : Ready nodes s.pass)
    (hn : n.element = .member ⟨.method d, span⟩) (hbody : d.body = none) :
    VisitDraws setup nested n (visit n) s := by
  have hno := isBody_method hn
  have hfits : overflows n = false := by
    rw [overflows_method hn, hbody]
    rfl
  have hrender : render s.pass.style (levelBelow s.scanner.stack) n.element =
      [lineAt (levelBelow s.scanner.stack) (methodLine d)] := by
    simp only [render_method _ _ hn, methodLines, hbody]
  have hvisit : visit n = (writeLine (methodLine d)).bind fun _ => .done () := by
    rw [visit_method hn]
    unfold visitMethod
    rw [body?_eq_none hn hbody]
    rfl
  rw [hvisit]
  exact visitDraws_line hready hno hrender
    (s.pass.fallbacks_eq_nil_of_children hfits (isCode_of_method hn))

/-- A method that is expanded at once, because the style says so or because it fell back
before. -/
theorem visitDraws_expanded (hready : Ready nodes s.pass)
    (hchildren : AllDraw setup nodes nested n.children)
    (hn : n.element = .member ⟨.method d, span⟩) (hmem : n ∈ nodes)
    (hbody : d.body = some block) (hexpanded : s.pass.isInline n = false) :
    VisitDraws setup nested n (visit n) s := by
  obtain ⟨t, hvisit, hwrites⟩ := visitMethod_expanded (s := s.on (s.scanner.enter n)) hready
    hchildren hn hbody rfl hexpanded
  have hknown : s.pass.style = .compact → n.place ∈ s.pass.expanded := by
    intro hstyle
    by_contra hnew
    rw [(isInline_iff s.pass n).2 ⟨hstyle, hnew⟩] at hexpanded
    cases hexpanded
  have hcompound : s.pass.style = .compact → hasCompound block.node = true := by
    intro hstyle
    have hover := hready.overflows_of_expanded n hmem (hknown hstyle)
    rw [overflows_method hn, hbody] at hover
    exact hover
  have hrender := render_expanded (levelBelow s.scanner.stack) hn hbody hcompound
  have hf : s.pass.fallbacks [n] = [] := by
    unfold fallbacks
    rw [List.flatMap_singleton]
    split
    · rfl
    · next hstyle =>
        refine firstOverflows_eq_nil fun m hm hover => ?_
        rw [eq_of_overflows_method hn hm hover]
        exact hknown hstyle
  rw [← hrender] at hwrites
  rw [visit_method hn]
  exact ⟨t, hvisit, hwrites.draws hf⟩

/-- A method that stands on one line. -/
theorem visitDraws_fits (hlimit : ∀ c ∈ n.children, c.height ≤ limit)
    (hready : Ready nodes s.pass) (hn : n.element = .member ⟨.method d, span⟩)
    (hbody : d.body = some block) (hinline : s.pass.isInline n = true)
    (hfits : hasCompound block.node = false) :
    VisitDraws setup (scan setup pass limit) n (visit n) s := by
  obtain ⟨t, hvisit, hwrites⟩ := visitMethod_fits setup
    (s := s.on (s.scanner.enter n)) hlimit hready hn hbody rfl hinline hfits
  have hstyle : s.pass.style = .compact := ((isInline_iff s.pass n).1 hinline).1
  have hrender : render s.pass.style (levelBelow s.scanner.stack) n.element =
      [lineAt (levelBelow s.scanner.stack)
        (methodLine d ++ " \x7b" ++ inlineText block.node.stmts ++ " \x7d")] := by
    simp only [render_method _ _ hn, methodLines, hbody]
    rw [bodiedLines, if_pos ⟨hstyle, hfits⟩]
  have hover : overflows n = false := by
    rw [overflows_method hn, hbody]
    exact hfits
  have hf := s.pass.fallbacks_eq_nil_of_children hover (isCode_of_method hn)
  rw [← hrender] at hwrites
  rw [visit_method hn]
  exact ⟨t, hvisit, hwrites.draws hf⟩

/-- A method that falls back. -/
theorem scan_overflows (hnodes : Node.Identified nodes) (quiet : setup.Quiet)
    (hlimit : ∀ c ∈ n.children, c.height ≤ limit) (hready : Ready nodes s.pass)
    (hchildren : AllDraw setup nodes (scan setup pass limit) n.children)
    (hn : n.element = .member ⟨.method d, span⟩) (hmem : n ∈ nodes)
    (hbody : d.body = some block) (hinline : s.pass.isInline n = true)
    (hcompound : hasCompound block.node = true) :
    ∃ t, scan setup pass (limit + 1) n s = .ok (.answer none, t) ∧
      Draws setup (levelBelow s.scanner.stack) [n] s t := by
  have hover : overflows n = true := by
    rw [overflows_method hn, hbody]
    exact hcompound
  have hstyle := (isInline_iff s.pass n).1 hinline
  obtain ⟨line, hvisit⟩ := visitMethod_overflows setup
    (s := s.on (s.scanner.enter n)) hlimit hready hn hbody rfl hinline hcompound
  rw [← visit_method hn] at hvisit
  have hready' : Ready nodes (s.pass.withKnown [n]) := hready.withKnown hnodes (by
    intro m hm
    rw [List.mem_singleton.1 hm]
    exact ⟨hmem, hover⟩)
  obtain ⟨t, hexpand, hstack, hpass, hhears⟩ := expand_writes
    (s := ⟨s.pass.withLines [line],
      ((s.scanner.enter n).note [expanding n]).note
        [landing n (Stack.depth (n :: s.scanner.stack))]⟩)
    quiet hready' hchildren hn hbody rfl rfl
  have hscan := scan_of_landing hvisit rfl hexpand
  have hf : s.pass.fallbacks [n] = [n] := by
    unfold fallbacks
    rw [hstyle.1, List.flatMap_singleton, n.subtree_eq]
    show firstOverflows _ _ = _
    rw [firstOverflows, if_pos ⟨hover, hstyle.2⟩, firstOverflows_eq_nil]
    intro m hm hover'
    rw [eq_of_overflows_method hn (Node.mem_subtree_of_below hm) hover']
    exact List.mem_cons_self
  have hrender := render_expanded (levelBelow s.scanner.stack) hn hbody fun _ : s.pass.style = _ =>
    hcompound
  refine ⟨_, hscan, rfl, ?_, ?_⟩
  · show t.pass = _
    rw [hpass, draw, hf, ← hrender]
    simp only [renderAll, List.map_singleton, List.flatMap_singleton]
    rfl
  · rw [hf]
    exact ⟨hhears.unit_eq, hhears.files_eq, hhears.reports_eq, hhears.unhandled_eq⟩

/-! ## All scans -/

/-- The scan of a node draws it if the scans of its children do. -/
theorem scanDraws_of_children (hnodes : Node.Identified nodes) (quiet : setup.Quiet)
    (hmem : n ∈ nodes) (hlimit : ∀ c ∈ n.children, c.height ≤ limit)
    (hchildren : AllDraw setup nodes (scan setup pass limit) n.children) :
    ScanDraws setup nodes (scan setup pass (limit + 1)) n := by
  intro s hready
  cases hd : n.element.method? with
  | none => exact (visit_draws hnodes hready hchildren hd).scan
  | some d =>
      obtain ⟨span, hn⟩ := Element.eq_member_of_method? hd
      cases hbody : d.body with
      | none => exact (visitDraws_bodiless hready hn hbody).scan
      | some block =>
          cases hinline : s.pass.isInline n with
          | false => exact (visitDraws_expanded hready hchildren hn hmem hbody hinline).scan
          | true =>
              cases hcompound : hasCompound block.node with
              | false => exact (visitDraws_fits hlimit hready hn hbody hinline hcompound).scan
              | true =>
                  exact scan_overflows hnodes quiet hlimit hready hchildren hn hmem hbody hinline
                    hcompound

/-- Every scan with nesting enough draws. -/
theorem scan_draws (hnodes : Node.Identified nodes) (quiet : setup.Quiet)
    (hsub : n.subtree ⊆ nodes) (hlimit : n.height ≤ limit) :
    ScanDraws setup nodes (scan setup pass limit) n := by
  induction limit generalizing n with
  | zero =>
      obtain ⟨k, hk, _⟩ := Node.exists_limit hlimit
      cases hk
  | succ limit ih =>
      obtain ⟨k, hk, hlow⟩ := Node.exists_limit hlimit
      cases hk
      have hbelow : ∀ c ∈ n.children, c.subtree ⊆ nodes := fun c hc m hm =>
        hsub (Node.mem_subtree_of_child hc hm)
      exact scanDraws_of_children hnodes quiet (hsub n.mem_subtree_self) hlow fun c hc =>
        ⟨hbelow c hc, ih (hbelow c hc) (hlow c hc)⟩

end Outline

end TreeScan

import TreeScan.Proofs.Scan.Sightings

/-!
# The order of a text

The parts of an element stand in a text one after the other, in the order of its grammar
(`Element.written`).  A walk goes through them in another order (`Role.all`).  The two
differ in one place: the return type of a method is written before its parameters, and a
walk scans it after them.

So the children of an element whose spans follow a text are in the order in which they
start, if and only if no return type starts before a parameter
(`Element.children_ordered_iff`).  This is the one fact here about the two orders.  What a
run visits directly below a node is read off its sightings (`Node.visitedUnder`).  In a
tour these are the children of the node (`Node.visitedUnder_tour`).
-/

namespace TreeScan

/-! ## Parts as they are written -/

/-- All roles.  In every element the parts are written in the order of their roles. -/
def Role.written : List Role :=
  [.importDecl, .typeDecl, .member, .stmt, .returnType, .param, .type, .init, .condition,
    .whenTrue, .whenFalse, .body, .callee, .left, .right, .operand, .target, .value, .arg]

theorem Role.mem_written (r : Role) : r ∈ Role.written := by
  cases r <;> decide

namespace Element

/-- The parts of an element in the order in which they are written. -/
def written (e : Element) : List Element := Role.written.flatMap e.parts

theorem mem_written_iff {c e : Element} : c ∈ e.written ↔ c ∈ e.children := by
  rw [written, children_eq]
  simp [Role.mem_written, Role.mem_all]

/-- The spans of the parts of an element lie in its span, one after the other. -/
structure LaidOut (e : Element) : Prop where
  inside : ∀ c ∈ e.written,
    e.span.start ≤ c.span.start ∧ c.span.start ≤ c.span.stop ∧ c.span.stop ≤ e.span.stop
  in_turn : e.written.Pairwise fun c d => c.span.stop ≤ d.span.start

instance (e : Element) : Decidable e.LaidOut :=
  decidable_of_iff
    ((∀ c ∈ e.written,
      e.span.start ≤ c.span.start ∧ c.span.start ≤ c.span.stop ∧ c.span.stop ≤ e.span.stop) ∧
      e.written.Pairwise fun c d => c.span.stop ≤ d.span.start)
    ⟨fun h => ⟨h.1, h.2⟩, fun h => ⟨h.inside, h.in_turn⟩⟩

/-- The spans of an element and of all elements below it follow a text. -/
inductive FollowsText : Element → Prop where
  | intro {e : Element} : e.LaidOut → (∀ c ∈ e.written, c.FollowsText) → e.FollowsText

/-- The first starts no later than the second. -/
def StartsBefore (c d : Element) : Prop := c.span.start ≤ d.span.start

/-- A return type starts before a parameter. -/
def ReturnTypeFirst (e : Element) : Prop :=
  ∃ t ∈ e.parts .returnType, ∃ p ∈ e.parts .param, t.span.start < p.span.start

theorem LaidOut.written_ordered {e : Element} (h : e.LaidOut) :
    e.written.Pairwise StartsBefore :=
  h.in_turn.imp_of_mem fun hc _ hcd => (h.inside _ hc).2.1.trans hcd

/-- Without a return type a walk goes through the parts as they are written. -/
theorem children_eq_written {e : Element} (h : e.parts .returnType = []) :
    e.children = e.written := by
  rw [children_eq, written]
  simp only [Role.all, Role.written, List.flatMap_cons, h, List.nil_append]

/-- Only methods have a return type. -/
theorem exists_method_of_returnType {e t : Element} (h : t ∈ e.parts .returnType) :
    ∃ d span, e = .member ⟨.method d, span⟩ := by
  cases e with
  | member m =>
      obtain ⟨node, span⟩ := m
      cases node with
      | method d => exact ⟨d, span, rfl⟩
      | field d => cases h
      | type d => cases h
  | stmt s =>
      obtain ⟨node, span⟩ := s
      cases node <;> cases h
  | expr e =>
      obtain ⟨node, span⟩ := e
      cases node <;> cases h
  | _ => cases h

theorem children_of_method (d : MethodDecl) (span : Span) :
    (Element.member ⟨.method d, span⟩).children =
      d.params.map .param ++ d.returnType.toList.map .typeRef ++ d.body.toList.map .block := rfl

theorem written_of_method (d : MethodDecl) (span : Span) :
    (Element.member ⟨.method d, span⟩).written =
      d.returnType.toList.map .typeRef ++ d.params.map .param ++ d.body.toList.map .block := by
  simp [written, Role.written, parts, memberParts]

/-- A walk goes through the parts in the order in which they start, if and only if no
return type starts before a parameter. -/
theorem children_ordered_iff {e : Element} (h : e.LaidOut) :
    e.children.Pairwise StartsBefore ↔ ¬ e.ReturnTypeFirst := by
  have hwritten := h.written_ordered
  rcases List.eq_nil_or_concat (e.parts .returnType) with hnone | ⟨_, t, ht⟩
  · rw [children_eq_written hnone]
    refine iff_of_true hwritten ?_
    rintro ⟨t, ht, _⟩
    rw [hnone] at ht
    cases ht
  · obtain ⟨d, span, rfl⟩ := exists_method_of_returnType (e := e) (t := t) (by simp [ht])
    rw [written_of_method, List.pairwise_append, List.pairwise_append] at hwritten
    obtain ⟨⟨hreturn, hparams, _⟩, hbody, hheader⟩ := hwritten
    rw [children_of_method, List.pairwise_append, List.pairwise_append]
    constructor
    · rintro ⟨⟨_, _, hlate⟩, _⟩ ⟨t, ht, p, hp, hlt⟩
      exact Nat.not_lt.2 (hlate p hp t ht) hlt
    · intro hlate
      refine ⟨⟨hparams, hreturn, fun p hp t ht => Nat.not_lt.1 fun hlt => hlate ⟨t, ht, p, hp, hlt⟩⟩,
        hbody, fun c hc b hb => hheader c ?_ b hb⟩
      rw [List.mem_append] at hc ⊢
      exact hc.symm

end Element

/-! ## Visits directly below a node -/

namespace Node

theorem followsText_of_mem_subtree {m n : Node} (h : n.element.FollowsText)
    (hm : m ∈ n.subtree) : m.element.FollowsText := by
  induction n using child_induction with
  | step n ih =>
      rcases mem_subtree_iff.1 hm with rfl | ⟨c, hc, hm⟩
      · exact h
      · cases h with
        | intro _ hbelow =>
            have hwritten : c.element ∈ n.element.written :=
              Element.mem_written_iff.2 (element_mem_of_mem_children hc)
            exact ih c hc (hbelow c.element hwritten) hm

/-- Whether a visit begins on top of a node. -/
def holds (n : Node) (w : Sighting) : Bool := w.stack.parent?.any n.same

/-- The nodes that are visited directly below a node, in the order of the visits. -/
def visitedUnder (n : Node) (ws : List Sighting) : List Node :=
  (ws.filter n.holds).map Sighting.node

variable {m n : Node} {around : Stack}

theorem holds_top : m.holds ⟨n, n :: around⟩ = around.head?.any m.same := by
  rw [holds, Stack.parent?, Stack.ancestors, List.tail_cons, List.head?_eq_getElem?]

theorem visitedUnder_cons (w : Sighting) (ws : List Sighting) :
    n.visitedUnder (w :: ws) =
      if n.holds w then w.node :: n.visitedUnder ws else n.visitedUnder ws := by
  unfold visitedUnder
  rw [List.filter_cons]
  split <;> rfl

theorem visitedUnder_tours (m : Node) (ns : List Node) (around : Stack) :
    m.visitedUnder (ns.flatMap fun n => n.tour around) =
      ns.flatMap fun n => m.visitedUnder (n.tour around) := by
  simp only [visitedUnder, List.filter_flatMap, List.map_flatMap]

/-- In the tour of a node that a node is not in, only the node itself may be visited
directly below that one. -/
theorem visitedUnder_tour_of_apart (h : ∀ k ∈ n.subtree, m.place ≠ k.place) (around : Stack) :
    m.visitedUnder (n.tour around) = if around.head?.any m.same then [n] else [] := by
  have hchildren : ∀ (n : Node) (around : Stack), (∀ k ∈ n.subtree, m.place ≠ k.place) →
      (n.children.flatMap fun c => m.visitedUnder (c.tour (n :: around))) = [] := by
    intro n
    induction n using child_induction with
    | step n ih =>
        intro around h
        rw [List.flatMap_eq_nil_iff]
        intro c hc
        have hbelow : ∀ k ∈ c.subtree, m.place ≠ k.place := fun k hk =>
          h k (mem_subtree_of_child hc hk)
        have hother : m.same n = false := by
          simpa [same] using h n n.mem_subtree_self
        rw [tour_eq, visitedUnder_cons, holds_top, List.head?_cons, Option.any_some, hother,
          if_neg Bool.false_ne_true, visitedUnder_tours, ih c hc (n :: around) hbelow]
  rw [tour_eq, visitedUnder_cons, holds_top, visitedUnder_tours, hchildren n around h]

/-- The visits directly below a node of a tree are those of its children, one after the
other, in a tour that begins on another node or on none. -/
theorem visitedUnder_tour (hm : m ∈ n.subtree) (hother : around.head?.any m.same = false) :
    m.visitedUnder (n.tour around) = m.children := by
  induction n using child_induction generalizing around with
  | step n ih =>
      rw [tour_eq, visitedUnder_cons, holds_top, hother, if_neg Bool.false_ne_true,
        visitedUnder_tours]
      rcases mem_subtree_iff.1 hm with rfl | ⟨c, hc, hm⟩
      · -- Each child is visited on top of the node, and nothing below the child is.
        have hchild : ∀ c ∈ m.children, m.visitedUnder (c.tour (m :: around)) = [c] := by
          intro c hc
          rw [visitedUnder_tour_of_apart fun k hk =>
            place_ne_of_mem_below (mem_below_iff.2 ⟨c, hc, hk⟩)]
          simp
        rw [List.flatMap_congr hchild, List.flatMap_singleton']
      · have hplace : m.place ≠ n.place :=
          (place_ne_of_mem_below (mem_below_iff.2 ⟨c, hc, hm⟩)).symm
        have htop : ((n :: around).head?.any m.same) = false := by
          simpa [same] using hplace
        obtain ⟨before, after, heq⟩ := List.append_of_mem hc
        have hnone : ∀ d ∈ before ++ after, m.visitedUnder (d.tour (n :: around)) = [] := by
          intro d hd
          have hapart := n.children_places
          rw [heq, List.pairwise_middle Ne.symm, List.pairwise_cons] at hapart
          have hmem : d ∈ n.children := by
            rw [heq]
            exact List.perm_middle.mem_iff.2 (List.mem_cons_of_mem c hd)
          rw [visitedUnder_tour_of_apart fun k hk =>
            place_ne_of_mem_siblings hc hmem (hapart.1 d hd) hm hk, htop]
          rfl
        rw [heq, List.flatMap_append, List.flatMap_cons, ih c hc hm htop,
          List.flatMap_eq_nil_iff.2 fun d hd => hnone d (List.mem_append_left after hd),
          List.flatMap_eq_nil_iff.2 fun d hd => hnone d (List.mem_append_right before hd),
          List.nil_append, List.append_nil]

end Node

/-! ## Runs -/

namespace Engine

variable {σ κ η : Type} {setup : Setup η} {pass : Pass σ κ} {s : ScanState σ η}

/-- The visits directly below a node in a run of a pass that leaves the walks as they are,
over a unit whose spans follow a text: the children of the node, each once.  They are in
the order in which they start, if and only if no return type starts before a parameter.
So wherever a method has both, the order of the walk is not the order of the text. -/
theorem run_keeps_text_order_iff (walks : pass.Walks setup) {tree limit : Nat}
    {unit : CompilationUnit} (hlimit : (Node.root tree unit).height ≤ limit)
    (hidle : s.scanner.stack = []) (htext : (Element.unit unit).FollowsText) :
    ∃ s', run setup pass limit (.scanUnit tree unit) s = .ok (.completed none, s') ∧
      (runSightings setup pass limit (.scanUnit tree unit) s).map Sighting.node =
        (Node.root tree unit).subtree ∧
      ∀ n ∈ (Node.root tree unit).subtree, ∃ visited,
        n.visitedUnder (runSightings setup pass limit (.scanUnit tree unit) s) = visited ∧
        visited.map Node.element = n.element.children ∧
        (visited.Pairwise (fun c d => c.span.start ≤ d.span.start) ↔
          ¬ n.element.ReturnTypeFirst) := by
  obtain ⟨s', hrun, _, htour⟩ := run_tours walks hlimit hidle
  rw [htour]
  refine ⟨s', hrun, Node.tour_nodes _ _, fun n hn =>
    ⟨n.children, Node.visitedUnder_tour hn rfl, n.children_map_element, ?_⟩⟩
  have hlaid : n.element.LaidOut := by
    cases Node.followsText_of_mem_subtree htext hn with
    | intro h _ => exact h
  rw [← Element.children_ordered_iff hlaid, ← n.children_map_element, List.pairwise_map]
  rfl

/-- The tree of `class A { int m(int p) {} }`. -/
def headed : CompilationUnit :=
  ⟨"A.java", none, [], [⟨⟨.classType, "A", [⟨.method ⟨false, "m",
    [⟨⟨"p", ⟨.simple "int", ⟨16, 19⟩⟩⟩, ⟨16, 21⟩⟩], some ⟨.simple "int", ⟨10, 13⟩⟩,
    some ⟨⟨[]⟩, ⟨23, 25⟩⟩⟩, ⟨10, 25⟩⟩]⟩, ⟨0, 27⟩⟩]⟩

/-- The method of the class. -/
def headedMethod : Node :=
  ⟨⟨0, [0, 0]⟩, .member ⟨.method ⟨false, "m",
    [⟨⟨"p", ⟨.simple "int", ⟨16, 19⟩⟩⟩, ⟨16, 21⟩⟩], some ⟨.simple "int", ⟨10, 13⟩⟩,
    some ⟨⟨[]⟩, ⟨23, 25⟩⟩⟩, ⟨10, 25⟩⟩⟩

theorem headed_followsText : (Element.unit headed).FollowsText := by
  have hleaf : ∀ {e : Element}, e.LaidOut → e.written = [] → e.FollowsText := by
    intro e hlaid hnone
    refine .intro hlaid fun c hc => ?_
    rw [hnone] at hc
    cases hc
  have honly : ∀ {e c : Element}, e.LaidOut → e.written = [c] → c.FollowsText →
      e.FollowsText := by
    intro e c hlaid hwritten hc
    refine .intro hlaid fun d hd => ?_
    rw [hwritten, List.mem_singleton] at hd
    exact hd ▸ hc
  refine honly (by decide) rfl (honly (by decide) rfl (.intro (by decide) fun c hc => ?_))
  rw [Element.written_of_method] at hc
  simp only [Option.toList_some, List.map_cons, List.map_nil, List.cons_append,
    List.nil_append, List.mem_cons, List.not_mem_nil, or_false] at hc
  rcases hc with rfl | rfl | rfl
  · exact hleaf (by decide) rfl
  · exact honly (by decide) rfl (hleaf (by decide) rfl)
  · exact hleaf (by decide) rfl

theorem headedMethod_mem : headedMethod ∈ (Node.root 0 headed).subtree :=
  Node.mem_subtree_of_child (Node.mem_children_iff.2 ⟨0, _, rfl, rfl⟩)
    (Node.mem_subtree_of_child (Node.mem_children_iff.2 ⟨0, _, rfl, rfl⟩)
      (Node.mem_subtree_self _))

theorem headed_height : (Node.root 0 headed).height ≤ 5 := by
  simp [Node.height, Node.root, headed, Element.height_eq, Element.children, Element.ofMember,
    TypeRef.simple]

theorem headedMethod_returnTypeFirst : headedMethod.element.ReturnTypeFirst :=
  ⟨_, .head _, _, .head _, by decide⟩

/-- The return type is visited after the parameter that it is written before. -/
theorem headed_out_of_order :
    tallying.Walks plainSetup ∧ (Node.root 0 headed).height ≤ 5 ∧
    (Element.unit headed).FollowsText ∧
    ∃ s', run plainSetup tallying 5 (.scanUnit 0 headed) ⟨0, .idle (.empty []) ()⟩ =
        .ok (.completed none, s') ∧
      ¬ (headedMethod.visitedUnder (runSightings plainSetup tallying 5 (.scanUnit 0 headed)
        ⟨0, .idle (.empty []) ()⟩)).Pairwise fun c d => c.span.start ≤ d.span.start := by
  obtain ⟨s', hrun, -, hvisits⟩ := run_keeps_text_order_iff (tallying_walks plainSetup)
    headed_height (s := ⟨0, .idle (.empty []) ()⟩) rfl headed_followsText
  obtain ⟨_, rfl, -, hordered⟩ := hvisits headedMethod headedMethod_mem
  refine ⟨tallying_walks plainSetup, headed_height, headed_followsText, s', hrun, fun h => ?_⟩
  exact hordered.1 h headedMethod_returnTypeFirst

/-- Not every run goes through the children of each node in the order of the text. -/
theorem not_in_text_order :
    ¬ ∀ unit : CompilationUnit, (Element.unit unit).FollowsText →
      ∀ n ∈ (Node.root 0 unit).subtree,
        (n.visitedUnder (runSightings plainSetup tallying (Node.root 0 unit).height
          (.scanUnit 0 unit) ⟨0, .idle (.empty []) ()⟩)).Pairwise
          fun c d => c.span.start ≤ d.span.start := by
  intro h
  have hmethod := h headed headed_followsText headedMethod headedMethod_mem
  obtain ⟨_, _, _, htour⟩ := run_tours (tallying_walks plainSetup)
    (Nat.le_refl (Node.root 0 headed).height) (s := ⟨0, .idle (.empty []) ()⟩) rfl
  rw [htour, Node.visitedUnder_tour headedMethod_mem rfl] at hmethod
  have hchildren : headedMethod.element.children.Pairwise Element.StartsBefore := by
    rw [← headedMethod.children_map_element, List.pairwise_map]
    exact hmethod
  exact (Element.children_ordered_iff (by decide)).1 hchildren headedMethod_returnTypeFirst

end Engine

end TreeScan

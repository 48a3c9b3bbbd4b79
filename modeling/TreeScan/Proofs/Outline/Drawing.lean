import TreeScan.Proofs.Outline.Overflows

/-!
# Drawing nodes in an outline

`draw` says what scanning some nodes makes of an outline: their lines are added at the
end, and the methods that fell back are known.  No scan is in it.

Drawing composes over lists of nodes (`draw_append`).  A node that is rendered as some
lines and then its children is drawn by writing the lines and drawing the children
(`draw_children`).  Drawing leads from outlines that are ready to outlines that are
(`Ready.draw`).  `Ready` is the invariant of the pass between two nodes.
-/

namespace TreeScan

/-! ## Line buffers -/

namespace LineBuffer

variable (b : LineBuffer) (index : Nat) (text text' : String)

theorem indented_append (spaces : Nat) :
    indented spaces text ++ text' = indented spaces (text ++ text') := by
  simp [indented, String.ofList_append, String.append_assoc]

theorem append_append :
    (b.append index text).append index text' = b.append index (text ++ text') := by
  unfold append
  rw [List.modify_modify_eq]
  congr 2
  funext line
  exact String.append_assoc

/-- What is added to the last line might have been written with it. -/
theorem append_last (line : String) :
    { b with lines := b.lines ++ [line] }.append b.size text =
      { b with lines := b.lines ++ [line ++ text] } := by
  have hlt : b.lines.length < (b.lines ++ [line]).length := by simp
  unfold append size
  congr 1
  rw [List.modify_eq_take_cons_drop hlt]
  simp

/-- Cutting a buffer back to a mark drops what was written since. -/
theorem truncate_lines (lines : List String) :
    { b with lines := b.lines ++ lines }.truncate b.size = b := by
  unfold truncate size
  rw [List.take_left]

end LineBuffer

/-! ## Drawing -/

namespace Outline

/-- An outline with some lines more. -/
def withLines (o : Outline) (lines : List String) : Outline :=
  { o with buffer := { o.buffer with lines := o.buffer.lines ++ lines } }

/-- The methods among the nodes at and below some nodes that fall back to the expanded
style when the nodes are drawn. -/
def fallbacks (o : Outline) (nodes : List Node) : List Node :=
  match o.style with
  | .expanded => []
  | .compact => firstOverflows o.expanded (nodes.flatMap Node.subtree)

/-- An outline that knows some more methods. -/
def withKnown (o : Outline) (methods : List Node) : Outline :=
  { o with expanded := knowing o.expanded methods }

/-- An outline with some nodes drawn at a level. -/
def draw (o : Outline) (level : Nat) (nodes : List Node) : Outline :=
  (o.withLines (renderAll o.style level (nodes.map Node.element))).withKnown (o.fallbacks nodes)

variable (o : Outline) (level : Nat) {n m : Node} (nodes nodes' : List Node)

theorem withLines_nil : o.withLines [] = o := by
  unfold withLines
  rw [List.append_nil]

theorem withLines_withLines (lines lines' : List String) :
    (o.withLines lines).withLines lines' = o.withLines (lines ++ lines') := by
  unfold withLines
  rw [List.append_assoc]

theorem fallbacks_append :
    o.fallbacks (nodes ++ nodes') = o.fallbacks nodes ++ (o.draw level nodes).fallbacks nodes' := by
  cases hs : o.style with
  | expanded => simp [fallbacks, draw, withKnown, withLines, hs]
  | compact => simp [fallbacks, draw, withKnown, withLines, hs, firstOverflows_append]

theorem draw_append :
    o.draw level (nodes ++ nodes') = (o.draw level nodes).draw level nodes' := by
  unfold draw withKnown
  rw [o.fallbacks_append level, knowing_append, List.map_append, renderAll_append,
    ← withLines_withLines]
  rfl

/-! ### One node -/

theorem fallbacks_eq_nil
    (h : ∀ n ∈ nodes, ∀ m ∈ n.subtree, overflows m = true → m.place ∈ o.expanded) :
    o.fallbacks nodes = [] := by
  unfold fallbacks
  split
  · rfl
  · refine firstOverflows_eq_nil fun m hm hover => ?_
    obtain ⟨n, hn, hm⟩ := List.mem_flatMap.1 hm
    exact h n hn m hm hover

theorem fallbacks_eq_nil_of_code (h : ∀ n ∈ nodes, n.element.isCode = true) :
    o.fallbacks nodes = [] := by
  refine o.fallbacks_eq_nil nodes fun n hn m hm hover => ?_
  rw [overflows_of_code (Node.isCode_of_mem_subtree (h n hn) hm)] at hover
  cases hover

/-- What falls back at a node that fits falls back at its children. -/
theorem fallbacks_children (hfits : overflows n = false) :
    o.fallbacks n.children = o.fallbacks [n] := by
  unfold fallbacks
  rw [List.flatMap_singleton, n.subtree_eq, firstOverflows_cons_of_fits hfits]
  rfl

/-- Nothing falls back at a node that fits and has only code below. -/
theorem fallbacks_eq_nil_of_children (hfits : overflows n = false)
    (hcode : ∀ c ∈ n.element.children, c.isCode = true) : o.fallbacks [n] = [] := by
  rw [← o.fallbacks_children hfits]
  exact o.fallbacks_eq_nil_of_code _ fun c hc => hcode _ (Node.element_mem_of_mem_children hc)

theorem draw_eq_withLines (h : o.fallbacks nodes = []) :
    o.draw level nodes = o.withLines (renderAll o.style level (nodes.map Node.element)) := by
  unfold draw
  rw [h]
  rfl

theorem draw_nil : o.draw level [] = o := by
  rw [draw_eq_withLines o level [] (o.fallbacks_eq_nil [] nofun)]
  exact o.withLines_nil

theorem draw_singleton_eq_withLines (h : o.fallbacks [n] = []) :
    o.draw level [n] = o.withLines (render o.style level n.element) := by
  rw [draw_eq_withLines o level [n] h]
  unfold renderAll
  rw [List.map_singleton, List.flatMap_singleton]

/-- A node that is rendered as some lines and then its children is drawn so. -/
theorem draw_children {level' : Nat} {lines : List String} (hfits : overflows n = false)
    (h : render o.style level n.element = lines ++ renderAll o.style level' n.element.children) :
    (o.withLines lines).draw level' n.children = o.draw level [n] := by
  have hfallbacks : (o.withLines lines).fallbacks n.children = o.fallbacks [n] :=
    o.fallbacks_children hfits
  have hrender : renderAll o.style level [n.element] = render o.style level n.element :=
    List.flatMap_singleton _ _
  unfold draw
  rw [hfallbacks, n.children_map_element, withLines_withLines, List.map_singleton, hrender, h]
  rfl

/-! ## Outlines that are ready -/

/-- The state of an outline between two nodes, when the nodes that it may come to are known:
no body is being written on a line, and the known methods are some of those that
overflow. -/
structure Ready (nodes : List Node) (o : Outline) : Prop where
  indent_eq : o.buffer.indent = indent
  inlineAt_eq : o.inlineAt = none
  overflows_of_expanded : ∀ m ∈ nodes, m.place ∈ o.expanded → overflows m = true

theorem Ready.empty (style : OutlineStyle) : Ready nodes (.empty style) where
  indent_eq := rfl
  inlineAt_eq := rfl
  overflows_of_expanded _ _ h := nomatch h

variable {o nodes}

theorem Ready.withLines (h : Ready nodes o) (lines : List String) :
    Ready nodes (o.withLines lines) where
  indent_eq := h.indent_eq
  inlineAt_eq := h.inlineAt_eq
  overflows_of_expanded := h.overflows_of_expanded

/-- Methods that overflow may become known. -/
theorem Ready.withKnown (h : Ready nodes o) (hnodes : Node.Identified nodes) {methods : List Node}
    (hmethods : ∀ m ∈ methods, m ∈ nodes ∧ overflows m = true) :
    Ready nodes (o.withKnown methods) where
  indent_eq := h.indent_eq
  inlineAt_eq := h.inlineAt_eq
  overflows_of_expanded m hm hmem := by
    rcases List.mem_append.1 hmem with hmem | hmem
    · rw [List.mem_reverse] at hmem
      obtain ⟨k, hk, hplace⟩ := List.mem_map.1 hmem
      rw [hnodes m hm k (hmethods k hk).1 hplace.symm]
      exact (hmethods k hk).2
    · exact h.overflows_of_expanded m hm hmem

theorem Ready.draw (h : Ready nodes o) (hnodes : Node.Identified nodes)
    (hdrawn : ∀ n ∈ nodes', n.subtree ⊆ nodes) : Ready nodes (o.draw level nodes') := by
  refine (h.withLines _).withKnown hnodes fun m hm => ?_
  unfold fallbacks at hm
  split at hm
  · cases hm
  · obtain ⟨hmem, hover⟩ := of_mem_firstOverflows hm
    obtain ⟨n, hn, hmem⟩ := List.mem_flatMap.1 hmem
    exact ⟨hdrawn n hn hmem, hover⟩

end Outline

end TreeScan

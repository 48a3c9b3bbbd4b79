import Mathlib.Data.List.Forall2
import Mathlib.Data.List.Infix
import TreeScan.Proofs.Ast.Addresses
import TreeScan.Scan.Stack

/-!
# Tours

The *tour* of a node is what a walk should see of the tree below it: each node with the
stack on which its visit begins.  The tour is given by the children alone, and so is
close to what a walk does.

What it amounts to is said by addresses (`tour_sighted`).  The tour goes through the
addresses of the tree, in their order.  The sighting at an address is the node that the
address leads to, on a stack of the nodes that lie on the way there (`Sighted`).  For
the induction the stack has to be told from the one that the tour began on, for the
tours of the children begin on a higher one.
-/

namespace TreeScan

/-- The visit of a node begins on a stack. -/
structure Sighting where
  node : Node
  stack : Stack

namespace Node

/-! ## The tour of a node -/

/-- The nodes at and below a node, each with the stack on which a walk finds it. -/
def tour (n : Node) (around : Stack) : List Sighting :=
  ⟨n, n :: around⟩ :: n.children.attach.flatMap fun c => c.1.tour (n :: around)
termination_by sizeOf n.element
decreasing_by exact sizeOf_lt_of_mem_children c.2

theorem tour_eq (n : Node) (around : Stack) :
    n.tour around = ⟨n, n :: around⟩ :: n.children.flatMap fun c => c.tour (n :: around) := by
  rw [tour]
  simp only [List.flatMap_def, List.attach_map_val (f := fun c => tour c (n :: around))]

/-- A tour goes through the nodes at and below a node. -/
theorem tour_nodes (n : Node) (around : Stack) :
    (n.tour around).map Sighting.node = n.subtree := by
  induction n using child_induction generalizing around with
  | step n ih =>
      rw [tour_eq, subtree_eq, below, List.map_cons, List.map_flatMap]
      congr 1
      exact List.flatMap_congr fun c hc => ih c hc (n :: around)

/-! ## Sightings at addresses -/

/-- The sighting at an address: the node that the address leads to is the current one,
and on the stack are the nodes on the way there. -/
structure Sighted (root : Node) (a : Address) (w : Sighting) : Prop where
  node_eq : root.follow? a = some w.node
  /-- The node has the element at the address. -/
  element_eq : root.element.follow? a = some w.node.element
  current_eq : w.stack.current? = some w.node
  /-- The stack is the chain of the nodes from the root to this one. -/
  stack_eq : w.stack.map some = a.inits.reverse.map root.follow?
  /-- The root has no ancestors. -/
  parent_of_root : a = [] → w.stack.parent? = none
  parent_eq : ∀ b s, a = b ++ [s] → w.stack.parent? = root.follow? b
  ancestors_eq : w.stack.ancestors.map some = a.inits.reverse.tail.map root.follow?
  depth_eq : w.stack.depth = a.length + 1

/-- A sighting at an address of a tree whose root is on top of some stack. -/
structure SightedOn (root : Node) (around : Stack) (a : Address) (w : Sighting) : Prop where
  node_eq : root.follow? a = some w.node
  current_eq : w.stack.current? = some w.node
  stack_eq : w.stack.map some = a.inits.reverse.map root.follow? ++ around.map some

/-- What is sighted from a child on top of its parent is sighted from the parent. -/
theorem SightedOn.of_child {n c : Node} {around : Stack} {s : Step} {a : Address} {w : Sighting}
    (hc : n.part? s = some c) (h : SightedOn c (n :: around) a w) :
    SightedOn n around (s :: a) w where
  node_eq := by rw [follow?, hc]; exact h.node_eq
  current_eq := h.current_eq
  stack_eq := by
    -- The nodes on the way from the child, and then the node itself.
    have hway : (s :: a).inits.reverse.map n.follow? =
        a.inits.reverse.map c.follow? ++ [some n] := by
      simp [Function.comp_def, follow?, hc]
    rw [hway, h.stack_eq, List.append_assoc]
    rfl

theorem inits_snoc (b : Address) (s : Step) :
    (b ++ [s]).inits.reverse = (b ++ [s]) :: b.inits.reverse := by
  simp [List.inits_append]

theorem inits_reverse_head (b : Address) : b.inits.reverse.head? = some b := by
  rcases List.eq_nil_or_concat b with rfl | ⟨b, s, rfl⟩
  · rfl
  · rw [List.concat_eq_append, inits_snoc]
    rfl

/-- On an empty stack all is told by the address. -/
theorem SightedOn.sighted {root : Node} {a : Address} {w : Sighting}
    (h : SightedOn root [] a w) : Sighted root a w := by
  have hstack : w.stack.map some = a.inits.reverse.map root.follow? := by
    rw [h.stack_eq, List.map_nil, List.append_nil]
  have hancestors : w.stack.ancestors.map some = a.inits.reverse.tail.map root.follow? := by
    rw [Stack.ancestors, List.map_tail, hstack, List.map_tail]
  exact {
    node_eq := h.node_eq
    element_eq := by rw [← root.follow?_element a, h.node_eq]; rfl
    current_eq := h.current_eq
    stack_eq := hstack
    parent_of_root := by
      rintro rfl
      have hnone : w.stack.ancestors = [] := by simpa using hancestors
      rw [Stack.parent?, hnone]
      rfl
    parent_eq := by
      rintro b s rfl
      rw [inits_snoc, List.tail_cons] at hancestors
      have hhead := congrArg List.head? hancestors
      rw [List.head?_map, List.head?_map, inits_reverse_head, List.head?_eq_getElem?] at hhead
      have hparent : w.stack.parent?.map some = some (root.follow? b) := hhead
      cases hp : w.stack.parent? with
      | none => simp [hp] at hparent
      | some p => simpa [hp] using hparent
    ancestors_eq := hancestors
    depth_eq := by simpa [Stack.depth] using congrArg List.length hstack }

/-! ## Tours go through the addresses -/

/-- The steps of an element lead to the children of the node. -/
theorem steps_lead (n : Node) :
    List.Forall₂ (fun s c => n.part? s = some c) n.element.steps n.children := by
  have h : List.Forall₂ (· = ·) (n.element.steps.map n.part?) (n.children.map some) := by
    rw [n.steps_part?, List.forall₂_eq_eq_eq]
  rwa [List.forall₂_map_left_iff, List.forall₂_map_right_iff] at h

theorem mem_children_of_part? {n c : Node} {s : Step} (h : n.part? s = some c) :
    c ∈ n.children := List.mem_of_getElem? h

theorem addressesFrom_of_part? {n c : Node} {s : Step} (h : n.part? s = some c) :
    n.element.addressesFrom s = c.element.addresses.map (s :: ·) := by
  have hpart : n.element.part? s = some c.element := by
    rw [← n.part?_element s, h]
    rfl
  rw [Element.addressesFrom, hpart]
  simp

/-- A tour on some stack goes through the addresses of the tree. -/
theorem tour_sightedOn (n : Node) (around : Stack) :
    List.Forall₂ (SightedOn n around) n.element.addresses (n.tour around) := by
  induction n using child_induction generalizing around with
  | step n ih =>
      rw [Element.addresses_eq, tour_eq]
      refine .cons ⟨rfl, rfl, rfl⟩ ?_
      refine List.rel_flatMap n.steps_lead fun s c hc => ?_
      rw [addressesFrom_of_part? hc, List.forall₂_map_left_iff]
      exact (ih c (mem_children_of_part? hc) (n :: around)).imp fun _ _ h => h.of_child hc

/-- A tour on the empty stack goes through the addresses of the tree, and tells the node
and its ancestors at each. -/
theorem tour_sighted (n : Node) :
    List.Forall₂ (Sighted n) n.element.addresses (n.tour []) :=
  (n.tour_sightedOn []).imp fun _ _ h => h.sighted

/-- No two sightings of a tour are of the same node. -/
theorem tour_places (n : Node) (around : Stack) :
    (n.tour around).Pairwise fun w w' => w.node.place ≠ w'.node.place := by
  have h := n.subtree_places_pairwise
  rwa [← n.tour_nodes around, List.pairwise_map] at h

end Node

end TreeScan

import Mathlib.Data.List.Nodup
import TreeScan.Ast.Height

/-!
# Subtrees

The subtree of a node is the list of the nodes at and below it in pre-order: the
node first, and then the subtrees of its children in the order of a walk.

A node `m` is in the subtree of `a` if `a` is `m` or one of its ancestors.  The
relation is transitive (`mem_subtree_trans`).  It can be read off the places: the
path of a node ends with the path of each of its ancestors
(`path_suffix_of_mem_subtree`).  From this it follows that no place stands twice
in a subtree (`subtree_places_nodup`), so each node of a tree is determined by
its place (`eq_of_same`).  Of two nodes that lie below different children neither
is below the other (`apart_children`).
-/

namespace TreeScan.Node

/-! ## Children -/

theorem children_map_element (n : Node) : n.children.map element = n.element.children := by
  refine List.ext_getElem ?_ fun i hi hi' => ?_
  · rw [List.length_map, children, List.length_mapIdx]
  · simp only [children, List.getElem_map, List.getElem_mapIdx]

theorem mem_children_iff {c n : Node} :
    c ∈ n.children ↔ ∃ i e, n.element.children[i]? = some e ∧ c = ⟨n.place.child i, e⟩ := by
  unfold children
  rw [List.mem_iff_getElem?]
  constructor
  · rintro ⟨i, hi⟩
    rw [List.getElem?_mapIdx, Option.map_eq_some_iff] at hi
    obtain ⟨e, he, rfl⟩ := hi
    exact ⟨i, e, he, rfl⟩
  · rintro ⟨i, e, he, rfl⟩
    refine ⟨i, ?_⟩
    rw [List.getElem?_mapIdx, he]
    rfl

theorem element_mem_of_mem_children {c n : Node} (h : c ∈ n.children) :
    c.element ∈ n.element.children := by
  obtain ⟨i, e, he, rfl⟩ := mem_children_iff.1 h
  exact List.mem_of_getElem? he

theorem sizeOf_lt_of_mem_children {c n : Node} (h : c ∈ n.children) :
    sizeOf c.element < sizeOf n.element :=
  Element.sizeOf_lt_of_mem_children (element_mem_of_mem_children h)

/-- What holds of a node whenever it holds of its children holds of all nodes. -/
theorem child_induction {p : Node → Prop} (step : ∀ n : Node, (∀ c ∈ n.children, p c) → p n)
    (n : Node) : p n :=
  step n fun c _ => child_induction step c
termination_by sizeOf n.element
decreasing_by exact sizeOf_lt_of_mem_children (by assumption)

theorem le_foldr_max {k : Nat} {ks : List Nat} (h : k ∈ ks) : k ≤ ks.foldr max 0 := by
  induction ks with
  | nil => cases h
  | cons j ks ih =>
      rcases List.mem_cons.1 h with rfl | h
      · exact Nat.le_max_left _ _
      · exact Nat.le_trans (ih h) (Nat.le_max_right _ _)

theorem height_lt_of_mem_children {c n : Node} (h : c ∈ n.children) : c.height < n.height := by
  have hc := List.mem_map_of_mem (f := Element.height) (element_mem_of_mem_children h)
  unfold height
  rw [n.element.height_eq]
  exact Nat.lt_succ_of_le (le_foldr_max hc)

/-- A limit that is enough for a node leaves enough for its children. -/
theorem exists_limit {n : Node} {limit : Nat} (h : n.height ≤ limit) :
    ∃ k, limit = k + 1 ∧ ∀ c ∈ n.children, c.height ≤ k := by
  cases limit with
  | zero =>
      unfold height at h
      rw [n.element.height_eq] at h
      cases h
  | succ k =>
      exact ⟨k, rfl, fun c hc =>
        Nat.le_of_lt_succ (Nat.lt_of_lt_of_le (height_lt_of_mem_children hc) h)⟩

/-- Two children of a node stand at different places. -/
theorem children_places (n : Node) : n.children.Pairwise fun c d => c.place ≠ d.place := by
  rw [List.pairwise_iff_getElem]
  intro i j hi hj hij h
  simp only [children, List.getElem_mapIdx, Place.child, Place.mk.injEq, List.cons.injEq] at h
  omega

/-! ## The nodes at and below a node -/

/-- The nodes at and below a node, in pre-order. -/
def subtree (n : Node) : List Node := n :: n.children.attach.flatMap fun c => c.1.subtree
termination_by sizeOf n.element
decreasing_by exact sizeOf_lt_of_mem_children c.2

/-- The nodes below a node, in pre-order. -/
def below (n : Node) : List Node := n.children.flatMap subtree

theorem subtree_eq (n : Node) : n.subtree = n :: n.below := by
  rw [subtree, below]
  simp only [List.flatMap_def, List.attach_map_val]

theorem mem_below_iff {m n : Node} : m ∈ n.below ↔ ∃ c ∈ n.children, m ∈ c.subtree :=
  List.mem_flatMap

theorem mem_subtree_self (n : Node) : n ∈ n.subtree := by
  rw [subtree_eq]
  exact List.mem_cons_self

theorem mem_subtree_of_below {m n : Node} (h : m ∈ n.below) : m ∈ n.subtree := by
  rw [subtree_eq]
  exact List.mem_cons_of_mem n h

theorem mem_subtree_iff {m n : Node} :
    m ∈ n.subtree ↔ m = n ∨ ∃ c ∈ n.children, m ∈ c.subtree := by
  rw [subtree_eq, List.mem_cons, mem_below_iff]

theorem mem_subtree_of_child {c m n : Node} (hc : c ∈ n.children) (h : m ∈ c.subtree) :
    m ∈ n.subtree :=
  mem_subtree_iff.2 (.inr ⟨c, hc, h⟩)

theorem mem_subtree_trans {a m n : Node} (ha : a ∈ n.subtree) (hm : m ∈ a.subtree) :
    m ∈ n.subtree := by
  induction n using child_induction with
  | step n ih =>
      rcases mem_subtree_iff.1 ha with rfl | ⟨c, hc, ha⟩
      · exact hm
      · exact mem_subtree_of_child hc (ih c hc ha)

/-! ## Places in a subtree -/

theorem path_suffix_of_mem_subtree {m n : Node} (h : m ∈ n.subtree) :
    n.place.path <:+ m.place.path := by
  induction n using child_induction with
  | step n ih =>
      rcases mem_subtree_iff.1 h with rfl | ⟨c, hc, hm⟩
      · exact List.suffix_rfl
      · have hcm := ih c hc hm
        obtain ⟨i, e, _, rfl⟩ := mem_children_iff.1 hc
        exact (List.suffix_cons i n.place.path).trans hcm

/-- A tree has one number. -/
theorem tree_eq_of_mem_subtree {m n : Node} (h : m ∈ n.subtree) : m.place.tree = n.place.tree := by
  induction n using child_induction with
  | step n ih =>
      rcases mem_subtree_iff.1 h with rfl | ⟨c, hc, hm⟩
      · rfl
      · have hcm := ih c hc hm
        obtain ⟨i, e, _, rfl⟩ := mem_children_iff.1 hc
        exact hcm

theorem path_length_of_mem_children {c n : Node} (h : c ∈ n.children) :
    c.place.path.length = n.place.path.length + 1 := by
  obtain ⟨i, e, _, rfl⟩ := mem_children_iff.1 h
  rfl

/-- A node stands at another place than everything below it. -/
theorem place_ne_of_mem_below {m n : Node} (hm : m ∈ n.below) : n.place ≠ m.place := by
  intro h
  obtain ⟨c, hc, hm⟩ := mem_below_iff.1 hm
  have hlength := (path_suffix_of_mem_subtree hm).length_le
  rw [path_length_of_mem_children hc, ← h] at hlength
  omega

/-- What is below two children stands at different places, if the children do. -/
theorem place_ne_of_mem_siblings {c d m k n : Node} (hc : c ∈ n.children) (hd : d ∈ n.children)
    (hcd : c.place ≠ d.place) (hm : m ∈ c.subtree) (hk : k ∈ d.subtree) : m.place ≠ k.place := by
  intro h
  have hlength : c.place.path.length = d.place.path.length :=
    (path_length_of_mem_children hc).trans (path_length_of_mem_children hd).symm
  have hsuffix : d.place.path <:+ m.place.path := h ▸ path_suffix_of_mem_subtree hk
  have hpath : c.place.path = d.place.path :=
    List.IsSuffix.eq_of_length
      (List.suffix_of_suffix_length_le (path_suffix_of_mem_subtree hm) hsuffix
        (Nat.le_of_eq hlength)) hlength
  apply hcd
  obtain ⟨i, e, _, rfl⟩ := mem_children_iff.1 hc
  obtain ⟨j, e', _, rfl⟩ := mem_children_iff.1 hd
  exact congrArg (Place.mk n.place.tree) hpath

theorem subtree_places_pairwise (n : Node) :
    n.subtree.Pairwise fun a b => a.place ≠ b.place := by
  induction n using child_induction with
  | step n ih =>
      rw [subtree_eq, List.pairwise_cons, below, List.pairwise_flatMap]
      refine ⟨?_, ih, ?_⟩
      · intro m hm
        exact place_ne_of_mem_below hm
      · refine (children_places n).imp_of_mem fun hc hd hcd m hm k hk => ?_
        exact place_ne_of_mem_siblings hc hd hcd hm hk

/-- No place stands twice in a subtree. -/
theorem subtree_places_nodup (n : Node) : (n.subtree.map place).Nodup :=
  List.pairwise_map.2 n.subtree_places_pairwise

/-- A node of a tree is determined by its place. -/
theorem eq_of_same {a b n : Node} (ha : a ∈ n.subtree) (hb : b ∈ n.subtree)
    (h : a.place = b.place) : a = b :=
  List.inj_on_of_nodup_map n.subtree_places_nodup ha hb h

/-- Each of some nodes is determined by its place. -/
def Identified (nodes : List Node) : Prop :=
  ∀ a ∈ nodes, ∀ b ∈ nodes, a.place = b.place → a = b

theorem identified_subtree (n : Node) : Identified n.subtree :=
  fun _ ha _ hb h => eq_of_same ha hb h

/-- Nodes of several trees are determined by their places, if no number belongs to two
trees. -/
theorem identified_of_trees (units : Nat → CompilationUnit) {nodes : List Node}
    (h : ∀ n ∈ nodes, n ∈ (root n.place.tree (units n.place.tree)).subtree) :
    Identified (nodes.flatMap subtree) := by
  have hmem : ∀ m ∈ nodes.flatMap subtree,
      m ∈ (root m.place.tree (units m.place.tree)).subtree := by
    intro m hm
    obtain ⟨n, hn, hm⟩ := List.mem_flatMap.1 hm
    rw [tree_eq_of_mem_subtree hm]
    exact mem_subtree_trans (h n hn) hm
  intro a ha b hb hab
  have hb := hmem b hb
  rw [← hab] at hb
  exact eq_of_same (hmem a ha) hb hab

/-! ## Parts of a tree that are apart -/

/-- No node of the one list is at or below a node of the other. -/
def Apart (nodes others : List Node) : Prop :=
  ∀ a ∈ nodes, ∀ m ∈ others, m ∉ a.subtree ∧ a ∉ m.subtree

/-- Nodes that are apart are different. -/
theorem Apart.not_mem {nodes others : List Node} (h : Apart nodes others) {a : Node}
    (ha : a ∈ nodes) : a ∉ others :=
  fun hm => (h a ha a hm).1 a.mem_subtree_self

/-- What is below one child is apart from what is below another. -/
theorem apart_of_children {c d n : Node} (hc : c ∈ n.children) (hd : d ∈ n.children)
    (hcd : c.place ≠ d.place) : Apart c.subtree d.subtree := by
  intro a ha m hm
  constructor
  · intro h
    exact place_ne_of_mem_siblings hc hd hcd (mem_subtree_trans ha h) hm rfl
  · intro h
    exact place_ne_of_mem_siblings hc hd hcd ha (mem_subtree_trans hm h) rfl

theorem apart_children (n : Node) :
    n.children.Pairwise fun c d => Apart c.subtree d.subtree :=
  n.children_places.imp_of_mem fun hc hd hcd => apart_of_children hc hd hcd

/-- A node is not below what is below it. -/
theorem not_mem_subtree_of_below {m n : Node} (hm : m ∈ n.below) : n ∉ m.subtree := by
  intro h
  obtain ⟨c, hc, hm⟩ := mem_below_iff.1 hm
  exact place_ne_of_mem_below (mem_below_iff.2 ⟨c, hc, mem_subtree_trans hm h⟩) rfl

theorem ne_of_mem_below {m n : Node} (hm : m ∈ n.below) : m ≠ n := by
  rintro rfl
  exact place_ne_of_mem_below hm rfl

/-! ## Before and after -/

/-- One node stands before another in a list. -/
def Precedes (nodes : List Node) (a b : Node) : Prop := [a, b].Sublist nodes

variable {a b n : Node} {nodes others : List Node}

theorem precedes_cons : Precedes (n :: nodes) a b ↔ (a = n ∧ b ∈ nodes) ∨ Precedes nodes a b := by
  unfold Precedes
  rw [List.sublist_cons_iff]
  constructor
  · rintro (h | ⟨rest, hrest, h⟩)
    · exact .inr h
    · cases hrest
      exact .inl ⟨rfl, List.singleton_sublist.1 h⟩
  · rintro (⟨rfl, h⟩ | h)
    · exact .inr ⟨[b], rfl, List.singleton_sublist.2 h⟩
    · exact .inl h

theorem Precedes.left_mem (h : Precedes nodes a b) : a ∈ nodes :=
  List.Sublist.subset h List.mem_cons_self

theorem Precedes.right_mem (h : Precedes nodes a b) : b ∈ nodes :=
  List.Sublist.subset h (List.mem_cons_of_mem a List.mem_cons_self)

theorem precedes_append : Precedes (nodes ++ others) a b ↔
    Precedes nodes a b ∨ Precedes others a b ∨ (a ∈ nodes ∧ b ∈ others) := by
  induction nodes with
  | nil => simp [Precedes]
  | cons n nodes ih =>
      rw [List.cons_append, precedes_cons, precedes_cons, ih, List.mem_append, List.mem_cons]
      constructor
      · rintro (⟨ha, hb | hb⟩ | h | h | ⟨ha, hb⟩)
        · exact .inl (.inl ⟨ha, hb⟩)
        · exact .inr (.inr ⟨.inl ha, hb⟩)
        · exact .inl (.inr h)
        · exact .inr (.inl h)
        · exact .inr (.inr ⟨.inr ha, hb⟩)
      · rintro ((⟨ha, hb⟩ | h) | h | ⟨ha | ha, hb⟩)
        · exact .inl ⟨ha, .inl hb⟩
        · exact .inr (.inl h)
        · exact .inr (.inr (.inl h))
        · exact .inl ⟨ha, .inr hb⟩
        · exact .inr (.inr (.inr ⟨ha, hb⟩))

end TreeScan.Node

import TreeScan.Proofs.Ast.Subtree
import TreeScan.Scan.Interrupt

/-!
# Pruning

Every node of a tree is given a behaviour: it walks its children, it fails or it
rolls back to some node.  A survey says what then becomes of the tree: which nodes
are visited, in order, and which rollback is left.  It is computed from the leaves
up (`survey`).

A survey follows a rule that does not mention how it is computed (`Prunes`).  A
node is visited if everything above it walks and no rollback before it prunes it.
A rollback prunes what is below its target and comes later.  If its target is not
a node at or above the one that rolls back, it prunes everything that comes later.

The rule is proved for lists of nodes that are whole subtrees next to each other.
What happens in one part is decided by what is above it in the same part
(`Within`), so the rule holds of two parts that are apart if it holds of each
(`Prunes.andThen`), and of a node that walks if it holds of what is below
(`Prunes.under`).
-/

namespace TreeScan

/-! ## Behaviours -/

/-- What is done at a node. -/
inductive Behaviour where
  /-- The children are scanned in their order. -/
  | walk
  | fault (fault : Fault)
  | panic (payload : Payload)
  /-- A rollback without a callback. -/
  | rollback (target : Node)

/-- The target of a rollback. -/
def Behaviour.target? : Behaviour → Option Node
  | .walk => none
  | .fault _ => none
  | .panic _ => none
  | .rollback target => some target

theorem Behaviour.target?_eq_some {b : Behaviour} {t : Node} :
    b.target? = some t ↔ b = .rollback t := by
  cases b with
  | rollback target => simp [target?]
  | _ => simp [target?]

/-! ## Surveys -/

/-- What becomes of some nodes and what is below them. -/
structure Survey where
  /-- The nodes that are visited, in order. -/
  visited : List Node
  /-- The target of the rollback that is left. -/
  escape : Option Node

namespace Survey

/-- One survey and then another, if no rollback is left. -/
def andThen (r next : Survey) : Survey :=
  match r.escape with
  | none => ⟨r.visited ++ next.visited, next.escape⟩
  | some _ => r

/-- The surveys of the members of a list, one after the other. -/
def inTurn {α : Type} (f : α → Survey) : List α → Survey
  | [] => ⟨[], none⟩
  | x :: xs => (f x).andThen (inTurn f xs)

/-- A survey below a node, seen from the node.  The node itself is visited first,
and a rollback to it is not left. -/
def under (n : Node) (r : Survey) : Survey :=
  ⟨n :: r.visited, r.escape.filter fun t => !t.same n⟩

theorem inTurn_map {α β : Type} (f : β → Survey) (g : α → β) (xs : List α) :
    inTurn f (xs.map g) = inTurn (fun x => f (g x)) xs := by
  induction xs with
  | nil => rfl
  | cons x xs ih => rw [List.map_cons, inTurn, inTurn, ih]

end Survey

/-- What becomes of the nodes below a node that behaves so, if `walked` is the
survey of a walk. -/
def Behaviour.below (walked : Survey) : Behaviour → Survey
  | .walk => walked
  | b => ⟨[], b.target?⟩

theorem Behaviour.below_of_ne_walk {b : Behaviour} (h : b ≠ .walk) (walked : Survey) :
    b.below walked = ⟨[], b.target?⟩ := by
  cases b with
  | walk => exact absurd rfl h
  | _ => rfl

/-- What becomes of a node and what is below it. -/
def survey (b : Node → Behaviour) (n : Node) : Survey :=
  ((b n).below (Survey.inTurn (fun c => survey b c.1) n.children.attach)).under n
termination_by sizeOf n.element
decreasing_by exact Node.sizeOf_lt_of_mem_children c.2

theorem survey_eq (b : Node → Behaviour) (n : Node) :
    survey b n = ((b n).below (Survey.inTurn (survey b) n.children)).under n := by
  rw [survey, ← Survey.inTurn_map (survey b) Subtype.val, List.attach_map_subtype_val]

/-! ## The rule -/

/-- Every node above `m` is visited and walks. -/
def Reached (b : Node → Behaviour) (nodes visited : List Node) (m : Node) : Prop :=
  ∀ a ∈ nodes, m ∈ a.subtree → a ≠ m → a ∈ visited ∧ b a = .walk

/-- Every rollback before `m` lands at a node that `m` is not below. -/
def Spared (b : Node → Behaviour) (nodes visited : List Node) (m : Node) : Prop :=
  ∀ n ∈ visited, Node.Precedes nodes n m → ∀ t, b n = .rollback t →
    ∃ a ∈ nodes, t.same a = true ∧ n ∈ a.subtree ∧ m ∉ a.subtree

/-- The node `n` rolls back to `t`, which is no node at or above it. -/
def Uncaught (b : Node → Behaviour) (nodes : List Node) (n t : Node) : Prop :=
  b n = .rollback t ∧ ∀ a ∈ nodes, t.same a = true → n ∉ a.subtree

/-- A survey of some nodes follows the rule. -/
structure Prunes (b : Node → Behaviour) (nodes : List Node) (r : Survey) : Prop where
  /-- Nodes are visited in their order. -/
  in_order : r.visited.Sublist nodes
  visited_iff : ∀ m ∈ nodes,
    m ∈ r.visited ↔ Reached b nodes r.visited m ∧ Spared b nodes r.visited m
  escape_iff : ∀ t, r.escape = some t ↔ ∃ n ∈ r.visited, Uncaught b nodes n t

variable {b : Node → Behaviour} {nodes part part' visited visited' : List Node} {m n t : Node}
  {r r' : Survey}

/-! ## Parts -/

/-- The list `part` is a part of `nodes`, and nothing that is above it is
missing. -/
structure Within (part nodes : List Node) : Prop where
  subset : part ⊆ nodes
  above : ∀ a ∈ nodes, ∀ m ∈ part, m ∈ a.subtree → a ∈ part

theorem Within.of_append_left (h : Node.Apart part part') : Within part (part ++ part') where
  subset := List.subset_append_left part part'
  above a ha m hm hma := by
    rcases List.mem_append.1 ha with ha | ha
    · exact ha
    · exact absurd hma (h m hm a ha).2

theorem Within.of_append_right (h : Node.Apart part part') : Within part' (part ++ part') where
  subset := List.subset_append_right part part'
  above a ha m hm hma := by
    rcases List.mem_append.1 ha with ha | ha
    · exact absurd hma (h a ha m hm).1
    · exact ha

theorem Within.reached_iff (h : Within part nodes)
    (hvisited : ∀ a ∈ part, a ∈ visited ↔ a ∈ visited') (hm : m ∈ part) :
    Reached b nodes visited m ↔ Reached b part visited' m := by
  constructor
  · intro hr a ha hma hne
    obtain ⟨hv, hw⟩ := hr a (h.subset ha) hma hne
    exact ⟨(hvisited a ha).1 hv, hw⟩
  · intro hr a ha hma hne
    have ha' := h.above a ha m hm hma
    obtain ⟨hv, hw⟩ := hr a ha' hma hne
    exact ⟨(hvisited a ha').2 hv, hw⟩

theorem Within.uncaught_iff (h : Within part nodes) (hn : n ∈ part) :
    Uncaught b nodes n t ↔ Uncaught b part n t := by
  constructor
  · rintro ⟨hb, hu⟩
    exact ⟨hb, fun a ha => hu a (h.subset ha)⟩
  · rintro ⟨hb, hu⟩
    exact ⟨hb, fun a ha hsame hna => hu a (h.above a ha n hn hna) hsame hna⟩

/-- A rollback is caught, or it is not. -/
theorem exists_of_not_uncaught (hb : b n = .rollback t) (h : ¬ Uncaught b nodes n t) :
    ∃ a ∈ nodes, t.same a = true ∧ n ∈ a.subtree := by
  simpa [Uncaught, hb] using h

/-- What is in the first part is spared if it is spared in that part: what is in
the second part comes later. -/
theorem spared_append_left (h : Node.Apart part part') (hv : visited ⊆ part)
    (hv' : visited' ⊆ part') (hm : m ∈ part) :
    Spared b (part ++ part') (visited ++ visited') m ↔ Spared b part visited m := by
  have hwithin := Within.of_append_left h
  constructor
  · intro hs n hn hnm t hb
    have hnm' : Node.Precedes (part ++ part') n m := Node.precedes_append.2 (.inl hnm)
    obtain ⟨a, ha, hsame, hna, hma⟩ := hs n (List.mem_append_left visited' hn) hnm' t hb
    exact ⟨a, hwithin.above a ha n (hv hn) hna, hsame, hna, hma⟩
  · intro hs n hn hnm t hb
    have hm' := h.not_mem hm
    rcases Node.precedes_append.1 hnm with hnm | hnm | ⟨_, hmem⟩
    · rcases List.mem_append.1 hn with hn | hn
      · obtain ⟨a, ha, hrest⟩ := hs n hn hnm t hb
        exact ⟨a, List.mem_append_left part' ha, hrest⟩
      · exact absurd (hv' hn) (h.not_mem hnm.left_mem)
    · exact absurd hnm.right_mem hm'
    · exact absurd hmem hm'

/-- What is in the second part is spared if every rollback of the first part is
caught there, and if it is spared in its own part. -/
theorem spared_append_right (h : Node.Apart part part') (hv : visited ⊆ part)
    (hv' : visited' ⊆ part') (hm : m ∈ part') :
    Spared b (part ++ part') (visited ++ visited') m ↔
      (∀ n ∈ visited, ∀ t, ¬ Uncaught b part n t) ∧ Spared b part' visited' m := by
  have hleft := Within.of_append_left h
  have hright := Within.of_append_right h
  constructor
  · intro hs
    constructor
    · rintro n hn t ⟨hb, hu⟩
      have hnm := Node.precedes_append.2 (.inr (.inr ⟨hv hn, hm⟩))
      obtain ⟨a, ha, hsame, hna, _⟩ := hs n (List.mem_append_left visited' hn) hnm t hb
      exact hu a (hleft.above a ha n (hv hn) hna) hsame hna
    · intro n hn hnm t hb
      have hnm' : Node.Precedes (part ++ part') n m :=
        Node.precedes_append.2 (.inr (.inl hnm))
      obtain ⟨a, ha, hsame, hna, hma⟩ := hs n (List.mem_append_right visited hn) hnm' t hb
      exact ⟨a, hright.above a ha n (hv' hn) hna, hsame, hna, hma⟩
  · rintro ⟨hu, hs⟩ n hn hnm t hb
    rcases List.mem_append.1 hn with hn | hn
    · obtain ⟨a, ha, hsame, hna⟩ := exists_of_not_uncaught hb (hu n hn t)
      exact ⟨a, List.mem_append_left part' ha, hsame, hna, (h a ha m hm).1⟩
    · rcases Node.precedes_append.1 hnm with hnm | hnm | ⟨hmem, _⟩
      · exact absurd (hv' hn) (h.not_mem hnm.left_mem)
      · obtain ⟨a, ha, hrest⟩ := hs n hn hnm t hb
        exact ⟨a, List.mem_append_right part ha, hrest⟩
      · exact absurd (hv' hn) (h.not_mem hmem)

/-- In a whole tree a rollback lands at one node at most.  So a node is spared if
no rollback before it prunes it and every rollback before it lands. -/
theorem spared_subtree_iff : Spared b n.subtree visited m ↔
    (∀ k ∈ visited, Node.Precedes n.subtree k m → ∀ t, b k = .rollback t →
      ∀ a ∈ n.subtree, t.same a = true → k ∈ a.subtree → m ∉ a.subtree) ∧
    (∀ k ∈ visited, Node.Precedes n.subtree k m → ∀ t, b k = .rollback t →
      ∃ a ∈ n.subtree, t.same a = true ∧ k ∈ a.subtree) := by
  constructor
  · intro hs
    constructor
    · intro k hk hkm t hb a ha hsame _ hma
      obtain ⟨a', ha', hsame', _, hma'⟩ := hs k hk hkm t hb
      have hplace := (Node.same_iff.1 hsame).symm.trans (Node.same_iff.1 hsame')
      have haa' := Node.eq_of_same ha ha' hplace
      exact hma' (haa' ▸ hma)
    · intro k hk hkm t hb
      obtain ⟨a, ha, hsame, hka, _⟩ := hs k hk hkm t hb
      exact ⟨a, ha, hsame, hka⟩
  · rintro ⟨hpruned, hlands⟩ k hk hkm t hb
    obtain ⟨a, ha, hsame, hka⟩ := hlands k hk hkm t hb
    exact ⟨a, ha, hsame, hka, hpruned k hk hkm t hb a ha hsame hka⟩

/-! ## Surveys follow the rule -/

theorem Prunes.nil : Prunes b [] ⟨[], none⟩ where
  in_order := .slnil
  visited_iff m hm := by cases hm
  escape_iff t := by simp

/-- A second part after a first that no rollback has left. -/
theorem Prunes.append (h : Prunes b part r) (h' : Prunes b part' r')
    (hapart : Node.Apart part part') (he : r.escape = none) :
    Prunes b (part ++ part') ⟨r.visited ++ r'.visited, r'.escape⟩ := by
  have hleft := Within.of_append_left hapart
  have hright := Within.of_append_right hapart
  have hv := h.in_order.subset
  have hv' := h'.in_order.subset
  -- Every rollback of the first part is caught there, so it spares the second part.
  have hcaught : ∀ n ∈ r.visited, ∀ t, ¬ Uncaught b part n t := by
    intro n hn t hu
    have hsome := (h.escape_iff t).2 ⟨n, hn, hu⟩
    rw [he] at hsome
    cases hsome
  have hmem : ∀ a ∈ part, a ∈ r.visited ++ r'.visited ↔ a ∈ r.visited := by
    intro a ha
    rw [List.mem_append, or_iff_left fun hn => hapart.not_mem ha (hv' hn)]
  have hmem' : ∀ a ∈ part', a ∈ r.visited ++ r'.visited ↔ a ∈ r'.visited := by
    intro a ha
    rw [List.mem_append, or_iff_right fun hn => hapart.not_mem (hv hn) ha]
  refine ⟨h.in_order.append h'.in_order, ?_, ?_⟩
  · intro m hm
    rcases List.mem_append.1 hm with hm | hm
    · rw [hmem m hm, hleft.reached_iff hmem hm, spared_append_left hapart hv hv' hm]
      exact h.visited_iff m hm
    · rw [hmem' m hm, hright.reached_iff hmem' hm, spared_append_right hapart hv hv' hm,
        h'.visited_iff m hm]
      exact and_congr_right fun _ => (and_iff_right hcaught).symm
  · intro t
    rw [h'.escape_iff t]
    constructor
    · rintro ⟨n, hn, hu⟩
      exact ⟨n, List.mem_append_right r.visited hn, (hright.uncaught_iff (hv' hn)).2 hu⟩
    · rintro ⟨n, hn, hu⟩
      rcases List.mem_append.1 hn with hn | hn
      · exact absurd ((hleft.uncaught_iff (hv hn)).1 hu) (hcaught n hn t)
      · exact ⟨n, hn, (hright.uncaught_iff (hv' hn)).1 hu⟩

/-- Nothing of a second part is visited after a first that a rollback has left. -/
theorem Prunes.cut (h : Prunes b part r) (hapart : Node.Apart part part')
    (he : r.escape = some t) : Prunes b (part ++ part') r := by
  have hleft := Within.of_append_left hapart
  have hv := h.in_order.subset
  obtain ⟨n, hn, hu⟩ := (h.escape_iff t).1 he
  -- The second part has no visited nodes, which is the case of `visited' = []`.
  have hvisited : r.visited ++ [] = r.visited := List.append_nil r.visited
  have hnone : ([] : List Node) ⊆ part' := List.nil_subset part'
  refine ⟨h.in_order.trans (List.sublist_append_left part part'), ?_, ?_⟩
  · intro m hm
    rcases List.mem_append.1 hm with hm | hm
    · have hspared := spared_append_left (b := b) hapart hv hnone hm
      rw [hvisited] at hspared
      rw [hleft.reached_iff (fun _ _ => Iff.rfl) hm, hspared]
      exact h.visited_iff m hm
    · have hspared := spared_append_right (b := b) hapart hv hnone hm
      rw [hvisited] at hspared
      rw [hspared]
      constructor
      · intro hm'
        exact absurd hm (hapart.not_mem (hv hm'))
      · rintro ⟨_, hcaught, _⟩
        exact absurd hu (hcaught n hn t)
  · intro t'
    rw [h.escape_iff t']
    constructor
    · rintro ⟨n, hn, hu⟩
      exact ⟨n, hn, (hleft.uncaught_iff (hv hn)).2 hu⟩
    · rintro ⟨n, hn, hu⟩
      exact ⟨n, hn, (hleft.uncaught_iff (hv hn)).1 hu⟩

theorem Prunes.andThen (h : Prunes b part r) (h' : Prunes b part' r')
    (hapart : Node.Apart part part') : Prunes b (part ++ part') (r.andThen r') := by
  unfold Survey.andThen
  split
  · next he => exact h.append h' hapart he
  · next t he => exact h.cut hapart he

/-- Subtrees that are apart, one after the other. -/
theorem Prunes.inTurn {ns : List Node} (h : ∀ n ∈ ns, Prunes b n.subtree (survey b n))
    (hapart : ns.Pairwise fun c d => Node.Apart c.subtree d.subtree) :
    Prunes b (ns.flatMap Node.subtree) (Survey.inTurn (survey b) ns) := by
  induction ns with
  | nil => exact Prunes.nil
  | cons n ns ih =>
      obtain ⟨hn, hns⟩ := List.pairwise_cons.1 hapart
      rw [List.flatMap_cons, Survey.inTurn]
      refine (h n List.mem_cons_self).andThen
        (ih (fun m hm => h m (List.mem_cons_of_mem n hm)) hns) ?_
      intro a ha m hm
      obtain ⟨d, hd, hm⟩ := List.mem_flatMap.1 hm
      exact hn d hd a ha m hm

/-! ### At the top of a subtree -/

theorem reached_top (b : Node → Behaviour) (visited : List Node) (n : Node) :
    Reached b n.subtree visited n := by
  intro a ha hna hne
  rw [Node.subtree_eq, List.mem_cons] at ha
  rcases ha with rfl | ha
  · exact absurd rfl hne
  · exact absurd hna (Node.not_mem_subtree_of_below ha)

theorem not_precedes_top (k n : Node) : ¬ Node.Precedes n.subtree k n := by
  intro h
  rw [Node.subtree_eq, Node.precedes_cons] at h
  rcases h with ⟨_, h⟩ | h
  · exact Node.ne_of_mem_below h rfl
  · exact Node.ne_of_mem_below h.right_mem rfl

theorem spared_top (b : Node → Behaviour) (visited : List Node) (n : Node) :
    Spared b n.subtree visited n :=
  fun k _ hkn => absurd hkn (not_precedes_top k n)

/-- A rollback to a node leaves what is below the node, and not the node. -/
theorem uncaught_below_iff (hm : m ∈ n.below) :
    Uncaught b n.subtree m t ↔ Uncaught b n.below m t ∧ t.same n = false := by
  have hmn := Node.mem_subtree_of_below hm
  rw [Node.subtree_eq] at *
  constructor
  · rintro ⟨hb, hu⟩
    refine ⟨⟨hb, fun a ha => hu a (List.mem_cons_of_mem n ha)⟩, ?_⟩
    rw [← Bool.not_eq_true]
    exact fun hsame => hu n List.mem_cons_self hsame (Node.mem_subtree_of_below hm)
  · rintro ⟨⟨hb, hu⟩, hsame⟩
    refine ⟨hb, fun a ha hta hma => ?_⟩
    rcases List.mem_cons.1 ha with rfl | ha
    · rw [hsame] at hta
      cases hta
    · exact hu a ha hta hma

theorem uncaught_top_iff : Uncaught b n.subtree n t ↔ b n = .rollback t ∧ t.same n = false := by
  constructor
  · rintro ⟨hb, hu⟩
    refine ⟨hb, ?_⟩
    rw [← Bool.not_eq_true]
    exact fun hsame => hu n n.mem_subtree_self hsame n.mem_subtree_self
  · rintro ⟨hb, hsame⟩
    refine ⟨hb, fun a ha hta hna => ?_⟩
    rw [Node.subtree_eq, List.mem_cons] at ha
    rcases ha with rfl | ha
    · rw [hsame] at hta
      cases hta
    · exact Node.not_mem_subtree_of_below ha hna

/-- Below a node that walks, what is reached is what was reached there already. -/
theorem reached_below_iff (hb : b n = .walk) (hm : m ∈ n.below) :
    Reached b n.subtree (n :: visited) m ↔ Reached b n.below visited m := by
  rw [Node.subtree_eq]
  constructor
  · intro hr a ha hma hne
    obtain ⟨hv, hw⟩ := hr a (List.mem_cons_of_mem n ha) hma hne
    rcases List.mem_cons.1 hv with rfl | hv
    · exact absurd rfl (Node.ne_of_mem_below ha)
    · exact ⟨hv, hw⟩
  · intro hr a ha hma hne
    rcases List.mem_cons.1 ha with rfl | ha
    · exact ⟨List.mem_cons_self, hb⟩
    · obtain ⟨hv, hw⟩ := hr a ha hma hne
      exact ⟨List.mem_cons_of_mem n hv, hw⟩

/-- A rollback that lands at a node spares nothing below the node. -/
theorem spared_below_iff (hb : b n = .walk) (hvisited : visited ⊆ n.below) (hm : m ∈ n.below) :
    Spared b n.subtree (n :: visited) m ↔ Spared b n.below visited m := by
  have hmn := Node.mem_subtree_of_below hm
  rw [Node.subtree_eq] at *
  constructor
  · intro hs k hk hkm t ht
    obtain ⟨a, ha, hsame, hka, hma⟩ := hs k (List.mem_cons_of_mem n hk)
      (Node.precedes_cons.2 (.inr hkm)) t ht
    rcases List.mem_cons.1 ha with rfl | ha
    · exact absurd (Node.mem_subtree_of_below hm) hma
    · exact ⟨a, ha, hsame, hka, hma⟩
  · intro hs k hk hkm t ht
    rcases List.mem_cons.1 hk with rfl | hkv
    · rw [hb] at ht
      cases ht
    · rcases Node.precedes_cons.1 hkm with ⟨hkn, _⟩ | hkm
      · exact absurd hkn (Node.ne_of_mem_below (hvisited hkv))
      · obtain ⟨a, ha, hrest⟩ := hs k hkv hkm t ht
        exact ⟨a, List.mem_cons_of_mem n ha, hrest⟩

/-! ### Nodes -/

theorem under_escape {n : Node} {r : Survey} :
    (r.under n).escape = some t ↔ r.escape = some t ∧ t.same n = false := by
  simp [Survey.under, Option.filter_eq_some_iff]

/-- A node that walks, over what is below it. -/
theorem Prunes.under (hb : b n = .walk) (h : Prunes b n.below r) :
    Prunes b n.subtree (r.under n) := by
  have hv := h.in_order.subset
  refine ⟨?_, ?_, ?_⟩
  · rw [Node.subtree_eq]
    exact h.in_order.cons_cons n
  · intro m hm
    rw [Node.subtree_eq, List.mem_cons] at hm
    rcases hm with rfl | hm
    · exact iff_of_true List.mem_cons_self ⟨reached_top b _ m, spared_top b _ m⟩
    · show m ∈ n :: r.visited ↔ Reached b n.subtree (n :: r.visited) m ∧
        Spared b n.subtree (n :: r.visited) m
      rw [reached_below_iff hb hm, spared_below_iff hb hv hm, List.mem_cons,
        or_iff_right (Node.ne_of_mem_below hm)]
      exact h.visited_iff m hm
  · intro t
    rw [under_escape, h.escape_iff t]
    constructor
    · rintro ⟨⟨k, hk, hu⟩, hsame⟩
      exact ⟨k, List.mem_cons_of_mem n hk, (uncaught_below_iff (hv hk)).2 ⟨hu, hsame⟩⟩
    · rintro ⟨k, hk, hu⟩
      rcases List.mem_cons.1 hk with rfl | hk
      · have ht := hu.1
        rw [hb] at ht
        cases ht
      · obtain ⟨hu, hsame⟩ := (uncaught_below_iff (hv hk)).1 hu
        exact ⟨⟨k, hk, hu⟩, hsame⟩

/-- A node that does not walk. -/
theorem Prunes.stopped (hb : b n ≠ .walk) :
    Prunes b n.subtree (Survey.under n ⟨[], (b n).target?⟩) := by
  refine ⟨?_, ?_, ?_⟩
  · exact List.singleton_sublist.2 n.mem_subtree_self
  · intro m hm
    show m ∈ [n] ↔ _
    rw [Node.subtree_eq, List.mem_cons] at hm
    rcases hm with rfl | hm
    · exact iff_of_true List.mem_cons_self ⟨reached_top b _ m, spared_top b _ m⟩
    · refine iff_of_false ?_ ?_
      · rw [List.mem_singleton]
        exact Node.ne_of_mem_below hm
      · rintro ⟨hr, _⟩
        exact hb (hr n n.mem_subtree_self (Node.mem_subtree_of_below hm)
          (Node.ne_of_mem_below hm).symm).2
  · intro t
    rw [under_escape]
    show (b n).target? = some t ∧ _ ↔ ∃ k ∈ [n], Uncaught b n.subtree k t
    rw [Behaviour.target?_eq_some, ← uncaught_top_iff]
    simp only [List.mem_singleton, exists_eq_left]

/-- The survey of a node follows the rule. -/
theorem survey_prunes (b : Node → Behaviour) (n : Node) : Prunes b n.subtree (survey b n) := by
  induction n using Node.child_induction with
  | step n ih =>
      rw [survey_eq]
      by_cases hb : b n = .walk
      · rw [hb]
        exact (Prunes.inTurn ih n.apart_children).under hb
      · rw [Behaviour.below_of_ne_walk hb]
        exact Prunes.stopped hb

end TreeScan

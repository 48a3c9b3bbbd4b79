import TreeScan.Proofs.Ast.Subtree

/-!
# Addresses

Where an element stands in a tree can be told without a walk.  A *role* names what a
part is to the element that it hangs on, such as the condition of a loop or an argument
of a call, and a *step* is a role with a number, for there may be several parts in one
role.  An *address* is a list of steps from an element down to one of its parts.

`Element.parts` reads the parts of an element off its fields, role by role and in no
order among the roles.  The children that a walk goes through are the parts in all
roles (`Element.children_eq`), so each of them stands at one step and each step that
leads somewhere leads to one of them (`Element.steps_at`, `Element.mem_steps_iff`,
`Element.steps_nodup`).  This is the one fact here that looks at the syntax.  From it
follows, by induction on the tree, that `Element.addresses` lists every address that
leads somewhere, each once and a parent before its children.
-/

namespace TreeScan

/-! ## Roles and steps -/

/-- What a part is to the element that it hangs on. -/
inductive Role where
  | importDecl | typeDecl | member | stmt | param | type | returnType | init | condition
  | whenTrue | whenFalse | body | callee | left | right | operand | target | value | arg
deriving DecidableEq, Repr

/-- All roles.  In every element a walk goes through the roles in this order. -/
def Role.all : List Role :=
  [.importDecl, .typeDecl, .member, .stmt, .param, .type, .returnType, .init, .condition,
    .whenTrue, .whenFalse, .body, .callee, .left, .right, .operand, .target, .value, .arg]

theorem Role.mem_all (r : Role) : r ∈ Role.all := by
  cases r <;> decide

theorem Role.all_nodup : Role.all.Nodup := by decide

/-- One part among those in a role. -/
structure Step where
  role : Role
  index : Nat
deriving DecidableEq, Repr

/-- Steps from an element down to a part, outermost first. -/
abbrev Address := List Step

namespace Element

/-! ## Parts -/

/-- The parts of a member. -/
def memberParts : Member → Role → List Element
  | .field d, .type => [.typeRef d.type]
  | .field d, .init => d.init.toList.map .expr
  | .method d, .param => d.params.map .param
  | .method d, .returnType => d.returnType.toList.map .typeRef
  | .method d, .body => d.body.toList.map .block
  | .type d, .member => d.members.map .member
  | _, _ => []

/-- The parts of a statement. -/
def stmtParts : Stmt → Role → List Element
  | .localVar _ type _, .type => type.toList.map .typeRef
  | .localVar _ _ init, .init => init.toList.map .expr
  | .expr e, .value => [.expr e]
  | .ret value, .value => value.toList.map .expr
  | .ifThen c _ _, .condition => [.expr c]
  | .ifThen _ t _, .whenTrue => [.stmt t]
  | .ifThen _ _ e, .whenFalse => e.toList.map .stmt
  | .whileLoop c _, .condition => [.expr c]
  | .whileLoop _ b, .body => [.stmt b]
  | .block b, .stmt => b.stmts.map .stmt
  | _, _ => []

/-- The parts of an expression. -/
def exprParts : Expr → Role → List Element
  | .field target _, .target => [.expr target]
  | .call callee _, .callee => [.expr callee]
  | .call _ args, .arg => args.map .expr
  | .new type _, .type => [.typeRef type]
  | .new _ args, .arg => args.map .expr
  | .binary l _ _, .left => [.expr l]
  | .binary _ _ r, .right => [.expr r]
  | .unary _ e, .operand => [.expr e]
  | .assign target _, .target => [.expr target]
  | .assign _ value, .value => [.expr value]
  | .lambda params _, .param => params.map .param
  | .lambda _ body, .body => [ofLambdaBody body]
  | .conditional c _ _, .condition => [.expr c]
  | .conditional _ t _, .whenTrue => [.expr t]
  | .conditional _ _ e, .whenFalse => [.expr e]
  | _, _ => []

/-- The parts of an element in a role: whatever can be visited on its own and hangs
directly on the element.  The members of a nested type hang on the member, and the
statements of a block that stands as a statement hang on the statement. -/
def parts : Element → Role → List Element
  | .unit u, .importDecl => u.imports.map .importDecl
  | .unit u, .typeDecl => u.types.map .typeDecl
  | .typeDecl d, .member => d.node.members.map .member
  | .member m, r => memberParts m.node r
  | .param p, .type => [.typeRef p.node.type]
  | .typeRef t, .arg => t.node.args.map .typeRef
  | .block b, .stmt => b.node.stmts.map .stmt
  | .stmt s, r => stmtParts s.node r
  | .expr e, r => exprParts e.node r
  | _, _ => []

theorem ofMember_eq (m : Member) : ofMember m = Role.all.flatMap (memberParts m) := by
  cases m <;> simp [ofMember, memberParts, Role.all]

theorem ofStmt_eq (s : Stmt) : ofStmt s = Role.all.flatMap (stmtParts s) := by
  cases s <;> simp [ofStmt, stmtParts, Role.all]

theorem ofExpr_eq (e : Expr) : ofExpr e = Role.all.flatMap (exprParts e) := by
  cases e <;> simp [ofExpr, exprParts, Role.all]

/-- A walk goes through the parts in all roles. -/
theorem children_eq (e : Element) : e.children = Role.all.flatMap e.parts := by
  cases e with
  | unit u => simp [children, parts, Role.all]
  | importDecl d => simp [children, parts, Role.all]
  | typeDecl d => simp [children, parts, Role.all]
  | member m => exact ofMember_eq m.node
  | param p => simp [children, parts, Role.all]
  | typeRef t => simp [children, parts, Role.all]
  | block b => simp [children, parts, Role.all]
  | stmt s => exact ofStmt_eq s.node
  | expr e => exact ofExpr_eq e.node

/-- The part that one step leads to. -/
def part? (e : Element) (s : Step) : Option Element := (e.parts s.role)[s.index]?

/-- The part that an address leads to. -/
def follow? : Element → Address → Option Element
  | e, [] => some e
  | e, s :: a => (e.part? s).bind fun part => part.follow? a

theorem follow?_cons (e : Element) (s : Step) (a : Address) :
    e.follow? (s :: a) = (e.part? s).bind fun part => part.follow? a := rfl

/-! ## The steps of an element -/

/-- The steps that lead from an element to its parts, in the order of a walk. -/
def steps (e : Element) : List Step :=
  Role.all.flatMap fun r => (List.range (e.parts r).length).map fun i => ⟨r, i⟩

theorem mem_steps_iff {e : Element} {s : Step} : s ∈ e.steps ↔ (e.part? s).isSome := by
  obtain ⟨role, index⟩ := s
  simp [steps, part?, Role.mem_all]

theorem steps_nodup (e : Element) : e.steps.Nodup := by
  unfold steps
  rw [List.nodup_flatMap]
  refine ⟨fun r _ => ?_, Role.all_nodup.imp fun hne => ?_⟩
  · exact List.nodup_range.map fun i j h => (Step.mk.inj h).2
  · intro s hs hs'
    obtain ⟨i, _, rfl⟩ := List.mem_map.1 hs
    obtain ⟨j, _, hj⟩ := List.mem_map.1 hs'
    exact hne (Step.mk.inj hj).1.symm

/-- The steps of an element lead to its children, one by one. -/
theorem steps_part? (e : Element) : e.steps.map e.part? = e.children.map some := by
  have hrole : ∀ r, ((List.range (e.parts r).length).map fun i => e.part? ⟨r, i⟩) =
      (e.parts r).map some := by
    intro r
    refine List.ext_getElem (by simp) fun i h _ => ?_
    have hi : i < (e.parts r).length := by simpa using h
    simp [part?, hi]
  rw [children_eq, steps, List.map_flatMap, List.map_flatMap]
  simp only [List.map_map, Function.comp_def, hrole]

theorem steps_length (e : Element) : e.steps.length = e.children.length := by
  simpa using congrArg List.length e.steps_part?

theorem mem_children_of_part? {e part : Element} {s : Step} (h : e.part? s = some part) :
    part ∈ e.children := by
  have hs : s ∈ e.steps := mem_steps_iff.2 (by rw [h]; rfl)
  have hmem : e.part? s ∈ e.steps.map e.part? := List.mem_map_of_mem hs
  rw [h, steps_part?, List.mem_map] at hmem
  obtain ⟨c, hc, heq⟩ := hmem
  exact Option.some.inj heq ▸ hc

/-! ## The addresses in an element -/

/-- The addresses of all parts of an element, at every depth and its own first, in the
order of a walk. -/
def addresses (e : Element) : List Address :=
  [] :: e.steps.flatMap fun s =>
    match _ : e.part? s with
    | none => []
    | some part => part.addresses.map (s :: ·)
termination_by sizeOf e
decreasing_by exact sizeOf_lt_of_mem_children (mem_children_of_part? (by assumption))

/-- The addresses that begin with some step. -/
def addressesFrom (e : Element) (s : Step) : List Address :=
  ((e.part? s).toList.flatMap addresses).map (s :: ·)

theorem addresses_eq (e : Element) : e.addresses = [] :: e.steps.flatMap e.addressesFrom := by
  rw [addresses]
  congr 2
  funext s
  unfold addressesFrom
  split
  · next h => rw [h]; rfl
  · next part h => rw [h]; simp

/-- What holds of an element whenever it holds of its parts holds of all elements. -/
theorem part_induction {p : Element → Prop}
    (step : ∀ e : Element, (∀ s part, e.part? s = some part → p part) → p e) (e : Element) : p e :=
  step e fun _ part _ => part_induction step part
termination_by sizeOf e
decreasing_by exact sizeOf_lt_of_mem_children (mem_children_of_part? (by assumption))

theorem mem_addressesFrom {e : Element} {s : Step} {a : Address} :
    a ∈ e.addressesFrom s ↔ ∃ part b, e.part? s = some part ∧ b ∈ part.addresses ∧ a = s :: b := by
  unfold addressesFrom
  cases e.part? s with
  | none => simp
  | some part =>
      simp only [Option.toList_some, List.flatMap_singleton, List.mem_map, Option.some.injEq]
      constructor
      · rintro ⟨b, hb, rfl⟩
        exact ⟨part, b, rfl, hb, rfl⟩
      · rintro ⟨_, b, rfl, hb, rfl⟩
        exact ⟨b, hb, rfl⟩

/-- Every address that leads somewhere is listed, and no other. -/
theorem mem_addresses_iff {e : Element} {a : Address} :
    a ∈ e.addresses ↔ (e.follow? a).isSome := by
  induction e using part_induction generalizing a with
  | step e ih =>
      rw [addresses_eq, List.mem_cons, List.mem_flatMap]
      cases a with
      | nil => exact iff_of_true (.inl rfl) rfl
      | cons s a =>
          rw [follow?_cons, or_iff_right (List.cons_ne_nil s a)]
          constructor
          · rintro ⟨s', _, h⟩
            obtain ⟨part, b, hpart, hb, heq⟩ := mem_addressesFrom.1 h
            obtain ⟨rfl, rfl⟩ := List.cons.inj heq
            rw [hpart]
            exact (ih s part hpart).1 hb
          · intro h
            obtain ⟨c, hc⟩ := Option.isSome_iff_exists.1 h
            obtain ⟨part, hpart, hfollow⟩ := Option.bind_eq_some_iff.1 hc
            refine ⟨s, mem_steps_iff.2 (by rw [hpart]; rfl), mem_addressesFrom.2 ?_⟩
            exact ⟨part, a, hpart, (ih s part hpart).2 (by rw [hfollow]; rfl), rfl⟩

/-- Addresses that begin with different steps are different, and neither is on the way
to the other. -/
theorem not_prefix_of_steps_ne {e : Element} {s s' : Step} {a b : Address} (hne : s ≠ s')
    (ha : a ∈ e.addressesFrom s) (hb : b ∈ e.addressesFrom s') : ¬ b <+: a := by
  obtain ⟨_, a, _, _, rfl⟩ := mem_addressesFrom.1 ha
  obtain ⟨_, b, _, _, rfl⟩ := mem_addressesFrom.1 hb
  rw [List.cons_prefix_cons]
  exact fun h => hne h.1.symm

/-- What leads further down than an address is listed after it. -/
theorem addresses_ordered (e : Element) : e.addresses.Pairwise fun a b => ¬ b <+: a := by
  induction e using part_induction with
  | step e ih =>
      rw [addresses_eq, List.pairwise_cons, List.pairwise_flatMap]
      refine ⟨?_, ?_, ?_⟩
      · intro a ha
        obtain ⟨s, _, ha⟩ := List.mem_flatMap.1 ha
        obtain ⟨_, b, _, _, rfl⟩ := mem_addressesFrom.1 ha
        simp
      · intro s _
        unfold addressesFrom
        cases hpart : e.part? s with
        | none => exact List.Pairwise.nil
        | some part =>
            simp only [Option.toList_some, List.flatMap_singleton]
            refine List.pairwise_map.2 ((ih s part hpart).imp fun h => ?_)
            rwa [List.prefix_cons_inj]
      · exact e.steps_nodup.imp fun hne a ha b hb => not_prefix_of_steps_ne hne ha hb

/-- No address is listed twice. -/
theorem addresses_nodup (e : Element) : e.addresses.Nodup :=
  e.addresses_ordered.imp fun h => by
    rintro rfl
    exact h List.prefix_rfl

end Element

/-! ## Nodes at addresses -/

namespace Node

/-- The child that one step leads to. -/
def part? (n : Node) (s : Step) : Option Node := n.children[n.element.steps.idxOf s]?

/-- The node that an address leads to. -/
def follow? : Node → Address → Option Node
  | n, [] => some n
  | n, s :: a => (n.part? s).bind fun part => part.follow? a

theorem children_length (n : Node) : n.children.length = n.element.children.length := by
  simp [children]

/-- The steps of an element lead to the children of its node, one by one. -/
theorem steps_part? (n : Node) : n.element.steps.map n.part? = n.children.map some := by
  have hlength : n.element.steps.length = n.children.length :=
    n.element.steps_length.trans n.children_length.symm
  refine List.ext_getElem (by simpa using hlength) fun i hi hi' => ?_
  rw [List.getElem_map, List.getElem_map, part?]
  have hi : i < n.element.steps.length := by simpa using hi
  rw [n.element.steps_nodup.idxOf_getElem i hi]
  exact List.getElem?_eq_getElem (by simpa using hi')

/-- The child that a step leads to is the part that the step leads to. -/
theorem part?_element (n : Node) (s : Step) : (n.part? s).map element = n.element.part? s := by
  by_cases hs : s ∈ n.element.steps
  · -- The step and what it leads to have the same number, among the steps and the children.
    have hi : n.element.steps.idxOf s < n.element.steps.length := List.idxOf_lt_length_of_mem hs
    have hget := congrArg (·[n.element.steps.idxOf s]?) n.element.steps_part?
    simp only [List.getElem?_map, List.getElem?_eq_getElem hi, List.getElem_idxOf,
      Option.map_some] at hget
    rw [part?, children, List.getElem?_mapIdx]
    cases hc : n.element.children[n.element.steps.idxOf s]? with
    | none => simp [hc] at hget
    | some c =>
        rw [hc] at hget
        simpa using hget.symm
  · have hnone : n.element.part? s = none := by
      rw [Element.mem_steps_iff] at hs
      simpa using hs
    have hidx : n.element.steps.idxOf s = n.element.steps.length :=
      List.idxOf_eq_length_iff.2 hs
    rw [hnone, part?, hidx, n.element.steps_length, ← n.children_length,
      List.getElem?_length]
    rfl

/-- The node at an address has the element at the address. -/
theorem follow?_element (n : Node) (a : Address) :
    (n.follow? a).map element = n.element.follow? a := by
  induction a generalizing n with
  | nil => rfl
  | cons s a ih =>
      rw [Element.follow?_cons, ← n.part?_element s, follow?]
      cases n.part? s with
      | none => rfl
      | some part => exact ih part

end Node

end TreeScan

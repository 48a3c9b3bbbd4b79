import TreeScan.Ast.Node

/-!
# The height of a tree

An element is larger than each of its children, so whatever goes from elements
to their children comes to an end.  The height of an element is the number of
elements on the longest way down from it, itself included.

Scans that only go down a tree are nested as deep as the tree is high.
-/

namespace TreeScan

namespace Element

/-- An element of a list under a constructor is smaller than the list. -/
theorem sizeOf_lt_of_mem_map {β : Type} [SizeOf β] {f : β → Element} {xs : List β} {c : Element}
    (hf : ∀ x, sizeOf (f x) = sizeOf x + 1) (h : c ∈ xs.map f) : sizeOf c < sizeOf xs + 1 := by
  obtain ⟨x, hx, rfl⟩ := List.mem_map.1 h
  have := List.sizeOf_lt_of_mem hx
  have := hf x
  omega

/-- What an optional part holds is smaller than the option. -/
theorem sizeOf_lt_of_mem_toList {β : Type} [SizeOf β] {f : β → Element} {x : Option β}
    {c : Element} (hf : ∀ x, sizeOf (f x) = sizeOf x + 1) (h : c ∈ x.toList.map f) :
    sizeOf c < sizeOf x + 1 := by
  cases x with
  | none => simp at h
  | some x =>
    simp only [Option.toList_some, List.map_cons, List.map_nil, List.mem_singleton] at h
    subst h
    simp [hf x]

theorem sizeOf_ofLambdaBody (b : LambdaBody) : sizeOf (ofLambdaBody b) = sizeOf b := by
  cases b <;> simp [ofLambdaBody]

theorem sizeOf_lt_of_mem_ofStmt {c : Element} {s : Stmt} (h : c ∈ ofStmt s) :
    sizeOf c < sizeOf s + 1 := by
  cases s with
  | localVar name type init =>
    rcases List.mem_append.1 h with h | h
    · have := sizeOf_lt_of_mem_toList (by simp [Nat.add_comm]) h
      simp at this ⊢
      omega
    · have := sizeOf_lt_of_mem_toList (by simp [Nat.add_comm]) h
      simp at this ⊢
      omega
  | expr e => simp_all [ofStmt]
  | ret value =>
    have := sizeOf_lt_of_mem_toList (by simp [Nat.add_comm]) h
    simp at this ⊢
    omega
  | ifThen i t e =>
    rcases List.mem_cons.1 h with rfl | h
    · simp
      omega
    rcases List.mem_cons.1 h with rfl | h
    · simp
      omega
    · have := sizeOf_lt_of_mem_toList (by simp [Nat.add_comm]) h
      simp at this ⊢
      omega
  | whileLoop i b =>
    simp only [ofStmt, List.mem_cons, List.not_mem_nil, or_false] at h
    rcases h with rfl | rfl <;>
      simp only [expr.sizeOf_spec, stmt.sizeOf_spec, Stmt.whileLoop.sizeOf_spec] <;> omega
  | block b =>
    rcases b with ⟨stmts⟩
    have := sizeOf_lt_of_mem_map (by simp [Nat.add_comm]) h
    simp at this ⊢
    omega

theorem sizeOf_lt_of_mem_ofExpr {c : Element} {e : Expr} (h : c ∈ ofExpr e) :
    sizeOf c < sizeOf e + 1 := by
  cases e with
  | ident name => simp [ofExpr] at h
  | literal value => simp [ofExpr] at h
  | field target name =>
    obtain rfl := List.mem_singleton.1 h
    simp only [expr.sizeOf_spec, Expr.field.sizeOf_spec]
    omega
  | call callee args =>
    rcases List.mem_cons.1 h with rfl | h
    · simp only [expr.sizeOf_spec, Expr.call.sizeOf_spec]
      omega
    · have := sizeOf_lt_of_mem_map (by simp [Nat.add_comm]) h
      simp at this ⊢
      omega
  | new type args =>
    rcases List.mem_cons.1 h with rfl | h
    · simp only [typeRef.sizeOf_spec, Expr.new.sizeOf_spec]
      omega
    · have := sizeOf_lt_of_mem_map (by simp [Nat.add_comm]) h
      simp at this ⊢
      omega
  | binary l op r =>
    simp only [ofExpr, List.mem_cons, List.not_mem_nil, or_false] at h
    rcases h with rfl | rfl <;> simp only [expr.sizeOf_spec, Expr.binary.sizeOf_spec] <;> omega
  | unary op e =>
    obtain rfl := List.mem_singleton.1 h
    simp only [expr.sizeOf_spec, Expr.unary.sizeOf_spec]
    omega
  | assign l r =>
    simp only [ofExpr, List.mem_cons, List.not_mem_nil, or_false] at h
    rcases h with rfl | rfl <;> simp only [expr.sizeOf_spec, Expr.assign.sizeOf_spec] <;> omega
  | lambda params body =>
    rcases List.mem_append.1 h with h | h
    · have := sizeOf_lt_of_mem_map (by simp [Nat.add_comm]) h
      simp at this ⊢
      omega
    · obtain rfl := List.mem_singleton.1 h
      rw [sizeOf_ofLambdaBody, Expr.lambda.sizeOf_spec]
      omega
  | conditional i t e =>
    simp only [ofExpr, List.mem_cons, List.not_mem_nil, or_false] at h
    rcases h with rfl | rfl | rfl <;>
      simp only [expr.sizeOf_spec, Expr.conditional.sizeOf_spec] <;> omega

theorem sizeOf_lt_of_mem_ofMember {c : Element} {m : Member} (h : c ∈ ofMember m) :
    sizeOf c < sizeOf m + 1 := by
  cases m with
  | field d =>
    rcases d with ⟨s, name, type, init⟩
    rcases List.mem_cons.1 h with rfl | h
    · simp
      omega
    · have := sizeOf_lt_of_mem_toList (by simp [Nat.add_comm]) h
      simp at this ⊢
      omega
  | method d =>
    rcases d with ⟨s, name, params, type, body⟩
    simp only [ofMember, List.mem_append] at h
    rcases h with (h | h) | h
    · have := sizeOf_lt_of_mem_map (by simp [Nat.add_comm]) h
      simp at this ⊢
      omega
    · have := sizeOf_lt_of_mem_toList (by simp [Nat.add_comm]) h
      simp at this ⊢
      omega
    · have := sizeOf_lt_of_mem_toList (by simp [Nat.add_comm]) h
      simp at this ⊢
      omega
  | type d =>
    rcases d with ⟨k, name, members⟩
    have := sizeOf_lt_of_mem_map (by simp [Nat.add_comm]) h
    simp at this ⊢
    omega

/-- A child is smaller than its parent. -/
theorem sizeOf_lt_of_mem_children {c e : Element} (h : c ∈ e.children) : sizeOf c < sizeOf e := by
  cases e with
  | unit u =>
    rcases u with ⟨path, package, imports, types⟩
    rcases List.mem_append.1 h with h | h
    · have := sizeOf_lt_of_mem_map (by simp [Nat.add_comm]) h
      simp at this ⊢
      omega
    · have := sizeOf_lt_of_mem_map (by simp [Nat.add_comm]) h
      simp at this ⊢
      omega
  | importDecl d => simp [children] at h
  | typeDecl d =>
    rcases d with ⟨⟨k, name, members⟩, span⟩
    have := sizeOf_lt_of_mem_map (by simp [Nat.add_comm]) h
    simp at this ⊢
    omega
  | member m =>
    rcases m with ⟨m, span⟩
    have := sizeOf_lt_of_mem_ofMember h
    simp at this ⊢
    omega
  | param p =>
    rcases p with ⟨⟨name, type⟩, span⟩
    simp_all [children]
    omega
  | typeRef t =>
    rcases t with ⟨⟨name, args⟩, span⟩
    have := sizeOf_lt_of_mem_map (by simp [Nat.add_comm]) h
    simp at this ⊢
    omega
  | block b =>
    rcases b with ⟨⟨stmts⟩, span⟩
    have := sizeOf_lt_of_mem_map (by simp [Nat.add_comm]) h
    simp at this ⊢
    omega
  | stmt s =>
    rcases s with ⟨s, span⟩
    have := sizeOf_lt_of_mem_ofStmt h
    simp at this ⊢
    omega
  | expr e =>
    rcases e with ⟨e, span⟩
    have := sizeOf_lt_of_mem_ofExpr h
    simp at this ⊢
    omega

/-- The number of elements on the longest way down. -/
def height (e : Element) : Nat :=
  (e.children.attach.map fun c => c.1.height).foldr max 0 + 1
termination_by sizeOf e
decreasing_by exact sizeOf_lt_of_mem_children c.2

theorem height_eq (e : Element) : e.height = (e.children.map height).foldr max 0 + 1 := by
  rw [height, List.attach_map_val]

end Element

/-- The height of the tree below a node. -/
def Node.height (n : Node) : Nat := n.element.height

end TreeScan

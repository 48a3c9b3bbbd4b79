import TreeScan.Proofs.Ast.Subtree
import TreeScan.Proofs.Outline.Rendering

/-!
# Methods that do not fit on a line

A method overflows if its body holds a compound statement directly.  In the compact
style it falls back to the expanded one when it is met for the first time, and its place
is known from then on.  So which methods fall back among some nodes depends on what is
known before (`firstOverflows`).  For nodes after other nodes, what fell back among those
is known as well (`firstOverflows_append`).

Only methods overflow, and methods are not declared in code.  So nothing that is below a
method, a field, a statement or an expression ever falls back.
-/

namespace TreeScan

/-! ## Code

Below parameters, named types, blocks, statements and expressions no member is
declared. -/

namespace Element

/-- Whether an element is part of the code of a member or of its signature. -/
def isCode : Element → Bool
  | .param _ => true
  | .typeRef _ => true
  | .block _ => true
  | .stmt _ => true
  | .expr _ => true
  | _ => false

theorem method?_of_isCode {e : Element} (h : e.isCode = true) : e.method? = none := by
  cases e with
  | member m => cases h
  | _ => rfl

theorem isCode_of_mem_map {β : Type} {f : β → Element} {xs : List β} {c : Element}
    (hf : ∀ x, (f x).isCode = true) (h : c ∈ xs.map f) : c.isCode = true := by
  obtain ⟨x, _, rfl⟩ := List.mem_map.1 h
  exact hf x

theorem isCode_ofStmt {s : Stmt} {c : Element} (h : c ∈ ofStmt s) : c.isCode = true := by
  cases s with
  | localVar name type init =>
      rcases List.mem_append.1 h with h | h
      · exact isCode_of_mem_map (fun _ => rfl) h
      · exact isCode_of_mem_map (fun _ => rfl) h
  | expr e =>
      rw [List.mem_singleton.1 h]
      rfl
  | ret value => exact isCode_of_mem_map (fun _ => rfl) h
  | ifThen i t e =>
      rcases List.mem_cons.1 h with rfl | h
      · rfl
      rcases List.mem_cons.1 h with rfl | h
      · rfl
      · exact isCode_of_mem_map (fun _ => rfl) h
  | whileLoop i b =>
      rcases List.mem_cons.1 h with rfl | h
      · rfl
      · rw [List.mem_singleton.1 h]
        rfl
  | block b => exact isCode_of_mem_map (fun _ => rfl) h

theorem isCode_ofLambdaBody (b : LambdaBody) : (ofLambdaBody b).isCode = true := by
  cases b with
  | expr value => rfl
  | block b => rfl

theorem isCode_ofExpr {x : Expr} {c : Element} (h : c ∈ ofExpr x) : c.isCode = true := by
  cases x with
  | ident name => cases h
  | literal value => cases h
  | call callee args =>
      rcases List.mem_cons.1 h with rfl | h
      · rfl
      · exact isCode_of_mem_map (fun _ => rfl) h
  | new type args =>
      rcases List.mem_cons.1 h with rfl | h
      · rfl
      · exact isCode_of_mem_map (fun _ => rfl) h
  | lambda params body =>
      rcases List.mem_append.1 h with h | h
      · exact isCode_of_mem_map (fun _ => rfl) h
      · rw [List.mem_singleton.1 h]
        exact isCode_ofLambdaBody body
  | _ =>
      -- The others have nothing but expressions in them.
      simp only [ofExpr, List.mem_cons, List.not_mem_nil, or_false] at h
      rcases h with rfl | rfl | rfl <;> rfl

theorem isCode_of_mem_children {e c : Element} (he : e.isCode = true) (h : c ∈ e.children) :
    c.isCode = true := by
  cases e with
  | param p =>
      rw [List.mem_singleton.1 h]
      rfl
  | typeRef t => exact isCode_of_mem_map (fun _ => rfl) h
  | block b => exact isCode_of_mem_map (fun _ => rfl) h
  | stmt s => exact isCode_ofStmt h
  | expr x => exact isCode_ofExpr h
  | unit u => cases he
  | importDecl d => cases he
  | typeDecl d => cases he
  | member m => cases he

theorem isCode_ofField {d : FieldDecl} {c : Element} (h : c ∈ ofMember (.field d)) :
    c.isCode = true := by
  rcases List.mem_cons.1 h with rfl | h
  · rfl
  · exact isCode_of_mem_map (fun _ => rfl) h

theorem isCode_ofMethod {d : MethodDecl} {c : Element} (h : c ∈ ofMember (.method d)) :
    c.isCode = true := by
  rcases List.mem_append.1 h with h | h
  · rcases List.mem_append.1 h with h | h
    · exact isCode_of_mem_map (fun _ => rfl) h
    · exact isCode_of_mem_map (fun _ => rfl) h
  · exact isCode_of_mem_map (fun _ => rfl) h

end Element

theorem Node.isCode_of_mem_subtree {m n : Node} (hn : n.element.isCode = true)
    (hm : m ∈ n.subtree) : m.element.isCode = true := by
  induction n using child_induction with
  | step n ih =>
      rcases mem_subtree_iff.1 hm with rfl | ⟨c, hc, hm⟩
      · exact hn
      · exact ih c hc (Element.isCode_of_mem_children hn (element_mem_of_mem_children hc)) hm

namespace Outline

/-! ## Methods that overflow -/

/-- Whether a node is a method with a body that does not fit on a line. -/
def overflows (n : Node) : Bool :=
  (n.element.method?.bind (·.body)).any fun body => hasCompound body.node

theorem overflows_of_method?_eq_none {n : Node} (h : n.element.method? = none) :
    overflows n = false := by
  unfold overflows
  rw [h]
  rfl

theorem overflows_of_code {n : Node} (h : n.element.isCode = true) : overflows n = false :=
  overflows_of_method?_eq_none (Element.method?_of_isCode h)

/-- The methods among some nodes that overflow and whose places are not known, each where
it is met for the first time. -/
def firstOverflows (known : List Place) : List Node → List Node
  | [] => []
  | n :: nodes =>
    if overflows n ∧ n.place ∉ known then n :: firstOverflows (n.place :: known) nodes
    else firstOverflows known nodes

/-- The known places when some methods have become known. -/
def knowing (known : List Place) (methods : List Node) : List Place :=
  (methods.map Node.place).reverse ++ known

theorem knowing_cons (known : List Place) (m : Node) (methods : List Node) :
    knowing known (m :: methods) = knowing (m.place :: known) methods := by
  simp [knowing]

theorem knowing_append (known : List Place) (methods methods' : List Node) :
    knowing known (methods ++ methods') = knowing (knowing known methods) methods' := by
  simp [knowing]

variable {known : List Place} {n m : Node} {nodes nodes' : List Node}

theorem firstOverflows_append :
    firstOverflows known (nodes ++ nodes') =
      firstOverflows known nodes ++
        firstOverflows (knowing known (firstOverflows known nodes)) nodes' := by
  induction nodes generalizing known with
  | nil => rfl
  | cons n nodes ih =>
      rw [List.cons_append, firstOverflows, firstOverflows]
      split
      · rw [ih, List.cons_append, knowing_cons]
      · exact ih

theorem firstOverflows_eq_nil (h : ∀ n ∈ nodes, overflows n = true → n.place ∈ known) :
    firstOverflows known nodes = [] := by
  induction nodes with
  | nil => rfl
  | cons n nodes ih =>
      rw [firstOverflows, if_neg fun hn => hn.2 (h n List.mem_cons_self hn.1)]
      exact ih fun m hm => h m (List.mem_cons_of_mem n hm)

theorem firstOverflows_cons_of_fits (h : overflows n = false) :
    firstOverflows known (n :: nodes) = firstOverflows known nodes := by
  rw [firstOverflows, if_neg fun hn => by rw [h] at hn; cases hn.1]

theorem of_mem_firstOverflows (h : m ∈ firstOverflows known nodes) :
    m ∈ nodes ∧ overflows m = true := by
  induction nodes generalizing known with
  | nil => cases h
  | cons n nodes ih =>
      rw [firstOverflows] at h
      split at h
      · next hn =>
          rcases List.mem_cons.1 h with rfl | h
          · exact ⟨List.mem_cons_self, hn.1⟩
          · exact (ih h).imp_left (List.mem_cons_of_mem n)
      · exact (ih h).imp_left (List.mem_cons_of_mem n)

/-- No place stands twice in the list, and none in it was known. -/
theorem firstOverflows_places (known : List Place) (nodes : List Node) :
    ((firstOverflows known nodes).map Node.place).Nodup ∧
      ∀ m ∈ firstOverflows known nodes, m.place ∉ known := by
  induction nodes generalizing known with
  | nil => exact ⟨List.nodup_nil, nofun⟩
  | cons n nodes ih =>
      rw [firstOverflows]
      split
      · next hn =>
          obtain ⟨hnodup, hnew⟩ := ih (n.place :: known)
          refine ⟨List.nodup_cons.2 ⟨fun hmem => ?_, hnodup⟩, fun m hm => ?_⟩
          · obtain ⟨m, hm, hplace⟩ := List.mem_map.1 hmem
            exact hnew m hm (hplace ▸ List.mem_cons_self)
          · rcases List.mem_cons.1 hm with rfl | hm
            · exact hn.2
            · exact fun hknown => hnew m hm (List.mem_cons_of_mem _ hknown)
      · exact ih known

/-- A node that overflows is known or in the list. -/
theorem known_or_firstOverflows (known : List Place) (hm : m ∈ nodes) (hover : overflows m = true) :
    m.place ∈ known ∨ ∃ k ∈ firstOverflows known nodes, k.place = m.place := by
  induction nodes generalizing known with
  | nil => cases hm
  | cons n nodes ih =>
      rw [firstOverflows]
      split
      · next hn =>
          rcases List.mem_cons.1 hm with rfl | hm
          · exact .inr ⟨m, List.mem_cons_self, rfl⟩
          · rcases ih (n.place :: known) hm with hknown | ⟨k, hk, hplace⟩
            · rcases List.mem_cons.1 hknown with hplace | hknown
              · exact .inr ⟨n, List.mem_cons_self, hplace.symm⟩
              · exact .inl hknown
            · exact .inr ⟨k, List.mem_cons_of_mem n hk, hplace⟩
      · next hn =>
          rcases List.mem_cons.1 hm with rfl | hm
          · exact .inl (not_not.1 fun hnew => hn ⟨hover, hnew⟩)
          · exact ih known hm

/-- Among nodes that are determined by their places the list has every node that
overflows. -/
theorem mem_firstOverflows_iff (hnodes : Node.Identified nodes) :
    m ∈ firstOverflows [] nodes ↔ m ∈ nodes ∧ overflows m = true := by
  refine ⟨of_mem_firstOverflows, fun ⟨hm, hover⟩ => ?_⟩
  rcases known_or_firstOverflows [] hm hover with hknown | ⟨k, hk, hplace⟩
  · cases hknown
  · rw [← hnodes k (of_mem_firstOverflows hk).1 m hm hplace]
    exact hk

end Outline

end TreeScan

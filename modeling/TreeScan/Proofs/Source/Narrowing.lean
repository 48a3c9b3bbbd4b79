import TreeScan.Proofs.Ast.Subtree
import TreeScan.Scan.Engine

/-!
# Narrowing a position to a name

A report on a node can be narrowed to a part of it that carries a name.  The parts with
their names are listed by `Element.namedParts`, and a walk goes through the same parts in
its own list, `Element.children`.

The two agree (`Element.namedParts_eq`).  Of the children of a type declaration, a method, a
lambda or a block, those that declare something are the named parts, in the order of a walk.
Other elements have no named parts, even those with a child that declares something, such as
a conditional with a local variable for its branch.  So the position of a name is that of
the first such child that has it (`narrowing_follows_walk`).
-/

namespace TreeScan

namespace Element

/-- Whether an element is a member, a parameter or a statement that declares a local
variable. -/
def isDeclaration : Element → Bool
  | .member _ => true
  | .param _ => true
  | .stmt s =>
    match s.node with
    | .localVar .. => true
    | _ => false
  | _ => false

/-- The kinds of elements that a report can be narrowed in. -/
def narrowedKinds : List NodeKind :=
  [.classType, .interfaceType, .enumType, .method, .lambda, .block]

/-- The name of an element and its span. -/
def nameAndSpan (e : Element) : Option String × Span := (e.name?, e.span)

/-- A named part as the name and the span of an element. -/
def ofPart (part : String × Span) : Option String × Span := (some part.1, part.2)

/-! ## Children that declare something -/

/-- All children of some form declare something. -/
theorem filter_declarations {α : Type} {form : α → Element}
    (h : ∀ a, (form a).isDeclaration = true) (as : List α) :
    (as.map form).filter isDeclaration = as.map form :=
  List.filter_eq_self.2 fun _ hmem => by
    obtain ⟨a, _, rfl⟩ := List.mem_map.1 hmem
    exact h a

/-- No children of some form declare anything. -/
theorem filter_others {α : Type} {form : α → Element}
    (h : ∀ a, (form a).isDeclaration = false) (as : List α) :
    (as.map form).filter isDeclaration = [] :=
  List.filter_eq_nil_iff.2 fun _ hmem => by
    obtain ⟨a, _, rfl⟩ := List.mem_map.1 hmem
    simp [h a]

theorem namedMembers_eq (members : List (Spanned Member)) :
    (namedMembers members).map ofPart =
      ((members.map member).filter isDeclaration).map nameAndSpan := by
  rw [filter_declarations fun _ => rfl, namedMembers, List.map_map, List.map_map]
  rfl

theorem namedParams_eq (params : List (Spanned Param)) :
    (namedParams params).map ofPart =
      ((params.map param).filter isDeclaration).map nameAndSpan := by
  rw [filter_declarations fun _ => rfl, namedParams, List.map_map, List.map_map]
  rfl

theorem namedLocals_eq (b : Block) :
    (namedLocals b).map ofPart = ((b.stmts.map stmt).filter isDeclaration).map nameAndSpan := by
  rw [namedLocals]
  induction b.stmts with
  | nil => rfl
  | cons s stmts ih =>
      obtain ⟨node, span⟩ := s
      cases node with
      | localVar name type init => exact congrArg ((some name, span) :: ·) ih
      | _ => exact ih

/-! ## Named parts -/

theorem ofMember_declarations (d : MethodDecl) :
    (ofMember (.method d)).filter isDeclaration = (d.params.map param).filter isDeclaration := by
  rw [ofMember, List.filter_append, List.filter_append,
    filter_others (fun _ => rfl) d.returnType.toList, filter_others (fun _ => rfl) d.body.toList,
    List.append_nil, List.append_nil]

theorem ofExpr_declarations (params : List (Spanned Param)) (body : LambdaBody) :
    (ofExpr (.lambda params body)).filter isDeclaration =
      (params.map param).filter isDeclaration := by
  rw [ofExpr, List.filter_append]
  cases body with
  | expr e => exact List.append_nil _
  | block b => exact List.append_nil _

/-- The named parts of an element that can be narrowed are its children that declare
something, each with its name and span, in the order of a walk.  Other elements have none. -/
theorem namedParts_eq (e : Element) :
    e.namedParts.map ofPart =
      (if narrowedKinds.contains e.kind then e.children.filter isDeclaration else []).map
        nameAndSpan := by
  cases e with
  | typeDecl d =>
      obtain ⟨⟨k, name, members⟩, span⟩ := d
      cases k <;> exact namedMembers_eq members
  | member m =>
      obtain ⟨node, span⟩ := m
      cases node with
      | field d => rfl
      | method d =>
          refine (namedParams_eq d.params).trans ?_
          rw [← ofMember_declarations d]
          rfl
      | type d =>
          obtain ⟨k, name, members⟩ := d
          cases k <;> exact namedMembers_eq members
  | block b => exact namedLocals_eq b.node
  | stmt s =>
      obtain ⟨node, span⟩ := s
      cases node with
      | block b => exact namedLocals_eq b
      | _ => rfl
  | expr e =>
      obtain ⟨node, span⟩ := e
      cases node with
      | lambda params body =>
          refine (namedParams_eq params).trans ?_
          rw [← ofExpr_declarations params body]
          rfl
      | _ => rfl
  | _ => rfl

end Element

/-! ## What a walk scans -/

namespace Engine

variable {κ η : Type}

/-- Completes every scan, and keeps the nodes that were scanned. -/
def keeping : Scan (List Node) κ η := fun n s => .ok (.answer none, ⟨s.pass ++ [n], s.scanner⟩)

theorem runVisit_scanAll_keeping (setup : Setup η) (nodes kept : List Node) (s : Scanner η) :
    runVisit setup (keeping (κ := κ)) (Visit.scanAll nodes) ⟨kept, s⟩ =
      .ok (.completed (), ⟨kept ++ nodes, s⟩) := by
  induction nodes generalizing kept with
  | nil =>
      rw [List.append_nil]
      rfl
  | cons n nodes ih =>
      rw [← List.singleton_append, ← List.append_assoc]
      exact ih (kept ++ [n])

end Engine

/-! ## The position of a name -/

namespace Node

/-- The nodes among some that declare something, if a report on the node can be narrowed. -/
def declarationsAmong (n : Node) (nodes : List Node) : List Node :=
  if Element.narrowedKinds.contains n.kind then nodes.filter (·.element.isDeclaration) else []

theorem namedParts_eq (n : Node) :
    n.element.namedParts.map Element.ofPart =
      (n.declarationsAmong n.children).map fun c => (c.name?, c.span) := by
  have hnodes : (n.children.filter (·.element.isDeclaration)).map element =
      n.element.children.filter Element.isDeclaration := by
    rw [← children_map_element, List.filter_map]
    rfl
  rw [n.element.namedParts_eq, declarationsAmong, kind]
  split
  · rw [← hnodes, List.map_map]
    rfl
  · rfl

/-- A name is looked for among the children that declare something. -/
theorem narrowedSpan_eq (n : Node) (name : String) :
    narrowedSpan n (some name) =
      (((n.declarationsAmong n.children).find? (·.name? == some name)).map span).getD n.span := by
  have hfind := congrArg (List.find? fun part => part.1 == some name) n.namedParts_eq
  rw [List.find?_map, List.find?_map] at hfind
  have hspan := congrArg (Option.map Prod.snd) hfind
  rw [Option.map_map, Option.map_map] at hspan
  have hsame : (n.element.namedParts.find? fun part => part.1 == name).map Prod.snd =
      ((n.declarationsAmong n.children).find? (·.name? == some name)).map span := hspan
  rw [← hsame, narrowedSpan]
  cases n.element.namedParts.find? fun part => part.1 == name <;> rfl

end Node

/-- A walk from a node scans some nodes.  Of these, the named parts of the node are the
members, parameters and local variables that are scanned directly from a type declaration, a
method, a lambda or a block, in the order in which they are scanned.  The position of a name
is the span of the first of them that has it, and that of the node if none has it or no name
is asked for. -/
theorem narrowing_follows_walk {κ η : Type} (setup : Setup η) (s : Scanner η) (n : Node) :
    ∃ scanned : List Node,
      Engine.runVisit setup (Engine.keeping (κ := κ)) (Visit.walk n) ⟨[], s⟩ =
        .ok (.completed (), ⟨scanned, s⟩) ∧
      (n.element.namedParts.map fun part => (some part.1, part.2)) =
        (n.declarationsAmong scanned).map (fun c => (c.name?, c.span)) ∧
      ∀ unit : CompilationUnit,
        spanPositions unit n none = some ⟨unit.path, n.span⟩ ∧
        ∀ name, spanPositions unit n (some name) =
          some ⟨unit.path, (((n.declarationsAmong scanned).find?
            fun c => c.name? == some name).map Node.span).getD n.span⟩ := by
  refine ⟨n.children, Engine.runVisit_scanAll_keeping setup n.children [] s, n.namedParts_eq,
    fun unit => ⟨rfl, fun name => ?_⟩⟩
  rw [← n.narrowedSpan_eq name]
  rfl

/-- Of two local variables of the same name the first counts.  One that stands in a branch
is not looked at. -/
example :
    let declared (name : String) (start : Nat) : Spanned Stmt :=
      ⟨.localVar name none none, ⟨start, start + 6⟩⟩
    let branch : Spanned Stmt := ⟨.whileLoop ⟨.ident "a", ⟨1, 2⟩⟩ (declared "y" 4), ⟨1, 10⟩⟩
    let n : Node := ⟨⟨0, []⟩, .block ⟨⟨[branch, declared "x" 11, declared "x" 20]⟩, ⟨0, 30⟩⟩⟩
    narrowedSpan n (some "x") = ⟨11, 17⟩ ∧ narrowedSpan n (some "y") = ⟨0, 30⟩ := by
  decide

end TreeScan

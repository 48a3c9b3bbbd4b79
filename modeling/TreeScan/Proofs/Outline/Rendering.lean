import TreeScan.Outline.Pass

/-!
# The outline of a tree

What the outline of a tree is, by recursion over the tree and with no scan, stack
or line buffer in it.  A part of a tree is rendered at a level and gives some
lines.

Units, imports, types, members and statements have a line each, and what is in
them stands one level further in.  The body of a method adds no level.  Parameters,
types that are only named, and expressions have no lines.

In the compact style a method stands with its body on one line, unless the body
holds a compound statement directly.  Such a body does not fit
(`hasCompound`), and its method is rendered as in the expanded style.

A part with a line of its own is rendered as the line and then its children
(`stmtLines_eq`, `typeLines_eq`, `unitLines_eq`).
-/

namespace TreeScan.Outline

/-- A text as a line at a level. -/
def lineAt (level : Nat) (text : String) : String := LineBuffer.indented (level * indent) text

/-! ## Statements -/

mutual

/-- The lines of a statement: its own, and one level further in those of the
statements in it. -/
def stmtLines (level : Nat) : Stmt → List String
  | .ifThen _ ⟨t, _⟩ none => lineAt level "if" :: stmtLines (level + 1) t
  | .ifThen _ ⟨t, _⟩ (some ⟨e, _⟩) =>
    lineAt level "if" :: (stmtLines (level + 1) t ++ stmtLines (level + 1) e)
  | .whileLoop _ ⟨b, _⟩ => lineAt level "while" :: stmtLines (level + 1) b
  | .block ⟨stmts⟩ => lineAt level "block" :: bodyLines (level + 1) stmts
  | .localVar name type init => [lineAt level (stmtLine (.localVar name type init))]
  | .expr e => [lineAt level (stmtLine (.expr e))]
  | .ret value => [lineAt level (stmtLine (.ret value))]

/-- The lines of statements one after the other. -/
def bodyLines (level : Nat) : List (Spanned Stmt) → List String
  | [] => []
  | ⟨s, _⟩ :: stmts => stmtLines level s ++ bodyLines level stmts

end

/-! ## Members and types -/

/-- Whether a compound statement stands directly in a block. -/
def hasCompound (body : Block) : Bool := body.stmts.any fun s => isCompound s.node

/-- The text of statements that stand on one line. -/
def inlineText : List (Spanned Stmt) → String
  | [] => ""
  | s :: stmts => " " ++ stmtLine s.node ++ ";" ++ inlineText stmts

/-- The lines of a method with its body. -/
def bodiedLines (style : OutlineStyle) (level : Nat) (d : MethodDecl) (body : Block) :
    List String :=
  if style = .compact ∧ hasCompound body = false then
    [lineAt level (methodLine d ++ " \x7b" ++ inlineText body.stmts ++ " \x7d")]
  else lineAt level (methodLine d) :: bodyLines (level + 1) body.stmts

/-- The lines of a method. -/
def methodLines (style : OutlineStyle) (level : Nat) (d : MethodDecl) : List String :=
  match d.body with
  | none => [lineAt level (methodLine d)]
  | some body => bodiedLines style level d body.node

mutual

/-- The lines of a member. -/
def memberLines (style : OutlineStyle) (level : Nat) : Member → List String
  | .field d => [lineAt level (fieldLine d)]
  | .method d => methodLines style level d
  | .type d => typeLines style level d

/-- The lines of a type declaration: its own, and one level further in those of its
members. -/
def typeLines (style : OutlineStyle) (level : Nat) : TypeDecl → List String
  | ⟨kind, name, members⟩ =>
    lineAt level (kind.keyword ++ " " ++ name) :: membersLines style (level + 1) members

/-- The lines of members one after the other. -/
def membersLines (style : OutlineStyle) (level : Nat) : List (Spanned Member) → List String
  | [] => []
  | ⟨m, _⟩ :: members => memberLines style level m ++ membersLines style level members

end

/-! ## Units and their parts -/

/-- The line of an import. -/
def importLine (d : Spanned ImportDecl) : String := Element.label (.importDecl d)

/-- The lines of a unit. -/
def unitLines (style : OutlineStyle) (level : Nat) (u : CompilationUnit) : List String :=
  lineAt level (unitLine u) ::
    ((u.imports.map fun d => lineAt (level + 1) (importLine d)) ++
      u.types.flatMap fun d => typeLines style (level + 1) d.node)

/-- The lines of a part of a tree. -/
def render (style : OutlineStyle) (level : Nat) : Element → List String
  | .unit u => unitLines style level u
  | .importDecl d => [lineAt level (importLine d)]
  | .typeDecl d => typeLines style level d.node
  | .member m => memberLines style level m.node
  | .stmt s => stmtLines level s.node
  | .block b => bodyLines level b.node.stmts
  | .param _ => []
  | .typeRef _ => []
  | .expr _ => []

/-- The lines of parts one after the other. -/
def renderAll (style : OutlineStyle) (level : Nat) (es : List Element) : List String :=
  es.flatMap (render style level)

/-! ## A line and the children -/

variable (style : OutlineStyle) (level : Nat)

theorem renderAll_append (es es' : List Element) :
    renderAll style level (es ++ es') = renderAll style level es ++ renderAll style level es' :=
  List.flatMap_append

/-- Parts without lines. -/
theorem renderAll_eq_nil {es : List Element} (h : ∀ e ∈ es, render style level e = []) :
    renderAll style level es = [] :=
  List.flatMap_eq_nil_iff.2 h

theorem renderAll_exprs (es : List (Spanned Expr)) :
    renderAll style level (es.map .expr) = [] := by
  refine renderAll_eq_nil style level fun e he => ?_
  obtain ⟨x, _, rfl⟩ := List.mem_map.1 he
  rfl

theorem renderAll_typeRefs (ts : List (Spanned TypeRef)) :
    renderAll style level (ts.map .typeRef) = [] := by
  refine renderAll_eq_nil style level fun e he => ?_
  obtain ⟨t, _, rfl⟩ := List.mem_map.1 he
  rfl

theorem renderAll_stmts (stmts : List (Spanned Stmt)) :
    renderAll style level (stmts.map .stmt) = bodyLines level stmts := by
  induction stmts with
  | nil => rfl
  | cons s stmts ih =>
      rw [bodyLines, ← ih]
      rfl

theorem renderAll_members (members : List (Spanned Member)) :
    renderAll style level (members.map .member) = membersLines style level members := by
  induction members with
  | nil => rfl
  | cons m members ih =>
      rw [membersLines, ← ih]
      rfl

theorem stmtLines_eq (s : Stmt) :
    stmtLines level s =
      lineAt level (stmtLine s) :: renderAll style (level + 1) (Element.ofStmt s) := by
  cases s with
  | localVar name type init =>
      rw [stmtLines, Element.ofStmt, renderAll_append, renderAll_typeRefs, renderAll_exprs]
      rfl
  | expr e =>
      rw [stmtLines]
      rfl
  | ret value =>
      rw [stmtLines, Element.ofStmt, renderAll_exprs]
  | ifThen c t e =>
      cases e with
      | none => simp [stmtLines, stmtLine, Element.ofStmt, renderAll, render]
      | some e => simp [stmtLines, stmtLine, Element.ofStmt, renderAll, render]
  | whileLoop c b => simp [stmtLines, stmtLine, Element.ofStmt, renderAll, render]
  | block b =>
      cases b with
      | mk stmts =>
          rw [stmtLines, Element.ofStmt, renderAll_stmts]
          rfl

theorem typeLines_eq (d : TypeDecl) :
    typeLines style level d =
      lineAt level (typeLine d) ::
        renderAll style (level + 1) (Element.ofMember (.type d)) := by
  cases d with
  | mk kind name members =>
      rw [typeLines, Element.ofMember, renderAll_members]
      rfl

theorem unitLines_eq (u : CompilationUnit) :
    unitLines style level u =
      lineAt level (unitLine u) :: renderAll style (level + 1) (Element.unit u).children := by
  rw [Element.children, renderAll_append, unitLines]
  unfold renderAll
  rw [List.flatMap_map, List.flatMap_map, List.map_eq_flatMap]
  rfl

end TreeScan.Outline

import TreeScan.Ast.Describe

/-!
# Nodes

A node is an element of a tree together with the place where it stands.  The
place is what makes it this node and no other.  Two parts of a tree that look
alike are different nodes, and so are the roots of two units with the same
content.  `Node.same` compares places and never content.

A place is the number of a tree and the child numbers that lead from its root
to the element.  The children of an element are listed by `Element.children` in
the order in which a walk visits them.  Everything that descends into a tree
goes through that list.
-/

namespace TreeScan

/-! ## Elements -/

/-- A part of a tree that can be visited. -/
inductive Element where
  | unit (unit : CompilationUnit)
  | importDecl (decl : Spanned ImportDecl)
  /-- A type declaration of a unit.  A nested one is a member. -/
  | typeDecl (decl : Spanned TypeDecl)
  | member (member : Spanned Member)
  | param (param : Spanned Param)
  | typeRef (type : Spanned TypeRef)
  | block (block : Spanned Block)
  | stmt (stmt : Spanned Stmt)
  | expr (expr : Spanned Expr)

namespace Element

/-- The span an element was recorded with.  A unit has that of its declarations. -/
def span : Element → Span
  | .unit u => u.span
  | .importDecl d => d.span
  | .typeDecl d => d.span
  | .member m => m.span
  | .param p => p.span
  | .typeRef t => t.span
  | .block b => b.span
  | .stmt s => s.span
  | .expr e => e.span

/-- What a lambda computes, as an element. -/
def ofLambdaBody : LambdaBody → Element
  | .expr e => .expr e
  | .block b => .block b

/-! ## Children -/

/-- The children of a statement. -/
def ofStmt : Stmt → List Element
  | .localVar _ type init => type.toList.map .typeRef ++ init.toList.map .expr
  | .expr e => [.expr e]
  | .ret value => value.toList.map .expr
  | .ifThen c t e => .expr c :: .stmt t :: e.toList.map .stmt
  | .whileLoop c b => [.expr c, .stmt b]
  | .block b => b.stmts.map .stmt

/-- The children of an expression. -/
def ofExpr : Expr → List Element
  | .ident _ => []
  | .literal _ => []
  | .field target _ => [.expr target]
  | .call callee args => .expr callee :: args.map .expr
  | .new type args => .typeRef type :: args.map .expr
  | .binary l _ r => [.expr l, .expr r]
  | .unary _ e => [.expr e]
  | .assign target value => [.expr target, .expr value]
  | .lambda params body => params.map .param ++ [ofLambdaBody body]
  | .conditional c t e => [.expr c, .expr t, .expr e]

/-- The children of a member. -/
def ofMember : Member → List Element
  | .field d => .typeRef d.type :: d.init.toList.map .expr
  | .method d =>
    d.params.map .param ++ d.returnType.toList.map .typeRef ++ d.body.toList.map .block
  | .type d => d.members.map .member

/-- The children of an element, in the order in which a walk visits them.
Imports have none. -/
def children : Element → List Element
  | .unit u => u.imports.map .importDecl ++ u.types.map .typeDecl
  | .importDecl _ => []
  | .typeDecl d => d.node.members.map .member
  | .member m => ofMember m.node
  | .param p => [.typeRef p.node.type]
  | .typeRef t => t.node.args.map .typeRef
  | .block b => b.node.stmts.map .stmt
  | .stmt s => ofStmt s.node
  | .expr e => ofExpr e.node

end Element

/-! ## Kinds -/

/-- What an element is. -/
inductive NodeKind where
  | compilationUnit | importDecl | classType | interfaceType | enumType | field | method
  | parameter | typeRef | block | localVariable | expressionStatement | ret | ifThen | whileLoop
  | ident | literal | fieldAccess | call | new | binary | unary | assign | lambda | conditional
deriving DecidableEq, Repr

/-- The name of a kind as it is shown. -/
def NodeKind.name : NodeKind → String
  | .compilationUnit => "CompilationUnit"
  | .importDecl => "Import"
  | .classType => "Class"
  | .interfaceType => "Interface"
  | .enumType => "Enum"
  | .field => "Field"
  | .method => "Method"
  | .parameter => "Parameter"
  | .typeRef => "TypeRef"
  | .block => "Block"
  | .localVariable => "LocalVariable"
  | .expressionStatement => "ExpressionStatement"
  | .ret => "Return"
  | .ifThen => "If"
  | .whileLoop => "While"
  | .ident => "Ident"
  | .literal => "Literal"
  | .fieldAccess => "FieldAccess"
  | .call => "Call"
  | .new => "New"
  | .binary => "Binary"
  | .unary => "Unary"
  | .assign => "Assign"
  | .lambda => "Lambda"
  | .conditional => "Conditional"

/-- The name of a kind inside a label. -/
def NodeKind.word (k : NodeKind) : String := String.ofList (k.name.toList.map Char.toLower)

/-- The kind of a type declaration. -/
def TypeKind.nodeKind : TypeKind → NodeKind
  | .classType => .classType
  | .interfaceType => .interfaceType
  | .enumType => .enumType

/-- The kind of a member. -/
def Member.kind : Member → NodeKind
  | .field _ => .field
  | .method _ => .method
  | .type d => d.kind.nodeKind

/-- The kind of a statement. -/
def Stmt.kind : Stmt → NodeKind
  | .localVar .. => .localVariable
  | .expr _ => .expressionStatement
  | .ret _ => .ret
  | .ifThen .. => .ifThen
  | .whileLoop .. => .whileLoop
  | .block _ => .block

/-- The kind of an expression. -/
def Expr.kind : Expr → NodeKind
  | .ident _ => .ident
  | .literal _ => .literal
  | .field .. => .fieldAccess
  | .call .. => .call
  | .new .. => .new
  | .binary .. => .binary
  | .unary .. => .unary
  | .assign .. => .assign
  | .lambda .. => .lambda
  | .conditional .. => .conditional

namespace Element

/-- The kind of an element. -/
def kind : Element → NodeKind
  | .unit _ => .compilationUnit
  | .importDecl _ => .importDecl
  | .typeDecl d => d.node.kind.nodeKind
  | .member m => m.node.kind
  | .param _ => .parameter
  | .typeRef _ => .typeRef
  | .block _ => .block
  | .stmt s => s.node.kind
  | .expr e => e.node.kind

/-! ## Names and labels -/

/-- The name an element declares or refers to, if it has one. -/
def name? : Element → Option String
  | .unit _ => none
  | .importDecl d => d.node.name.last?
  | .typeDecl d => some d.node.name
  | .member m => some m.node.name
  | .param p => some p.node.name
  | .typeRef t => t.node.name.last?
  | .block _ => none
  | .stmt s =>
    match s.node with
    | .localVar name _ _ => some name
    | _ => none
  | .expr e =>
    match e.node with
    | .ident name => some name
    | .field _ name => some name
    | _ => none

/-- The label of an expression. -/
def exprLabel : Expr → String
  | .ident name => name
  | .literal value => value.text
  | .field _ name => name
  | .call callee args =>
    let name := match callee.node with
      | .ident name => name
      | .field _ name => name
      | _ => "call"
    name ++ "(" ++ toString args.length ++ " args)"
  | .new type _ => "new " ++ type.node.text
  | .binary _ op _ => "_ " ++ op.symbol ++ " _"
  | .unary op _ => op.symbol ++ "_"
  | e => e.kind.name

/-- A short description of an element, for where no source text is at hand. -/
def label (e : Element) : String :=
  match e with
  | .unit u => u.path
  | .importDecl d =>
    (if d.node.isStatic then "import static " else "import ") ++ d.node.identifier
  | .typeRef t => t.node.text
  | .expr e => exprLabel e.node
  | e =>
    match e.name? with
    | some name => e.kind.word ++ " " ++ name
    | none => e.kind.word

/-! ## Views -/

/-- The unit, if the element is one. -/
def unit? : Element → Option CompilationUnit
  | .unit u => some u
  | _ => none

/-- The type declaration, if the element is one of a unit or a nested one. -/
def typeDecl? : Element → Option TypeDecl
  | .typeDecl d => some d.node
  | .member m =>
    match m.node with
    | .type d => some d
    | _ => none
  | _ => none

/-- The method, if the element is one. -/
def method? : Element → Option MethodDecl
  | .member m =>
    match m.node with
    | .method d => some d
    | _ => none
  | _ => none

/-- The field, if the element is one. -/
def field? : Element → Option FieldDecl
  | .member m =>
    match m.node with
    | .field d => some d
    | _ => none
  | _ => none

/-- The statement, if the element is one. -/
def stmt? : Element → Option Stmt
  | .stmt s => some s.node
  | _ => none

/-- The expression, if the element is one. -/
def expr? : Element → Option Expr
  | .expr e => some e.node
  | _ => none

/-! ## Named parts -/

/-- The members of a type with their names. -/
def namedMembers (members : List (Spanned Member)) : List (String × Span) :=
  members.map fun m => (m.node.name, m.span)

/-- The parameters of a method or lambda with their names. -/
def namedParams (params : List (Spanned Param)) : List (String × Span) :=
  params.map fun p => (p.node.name, p.span)

/-- The local variables that a block declares directly. -/
def namedLocals (block : Block) : List (String × Span) :=
  block.stmts.filterMap fun s =>
    match s.node with
    | .localVar name _ _ => some (name, s.span)
    | _ => none

/-- The parts of an element that carry a name, in order.  A report on the
element can be narrowed to one of them. -/
def namedParts : Element → List (String × Span)
  | .typeDecl d => namedMembers d.node.members
  | .member m =>
    match m.node with
    | .type d => namedMembers d.members
    | .method d => namedParams d.params
    | .field _ => []
  | .expr e =>
    match e.node with
    | .lambda params _ => namedParams params
    | _ => []
  | .block b => namedLocals b.node
  | .stmt s =>
    match s.node with
    | .block b => namedLocals b
    | _ => []
  | _ => []

end Element

/-! ## Places -/

/-- A place in one of several trees. -/
structure Place where
  /-- The number of the tree. -/
  tree : Nat
  /-- The child numbers from the element back to the root, innermost first. -/
  path : List Nat
deriving DecidableEq, Repr

/-- The place of a child. -/
def Place.child (p : Place) (i : Nat) : Place := ⟨p.tree, i :: p.path⟩

/-- An element at its place. -/
structure Node where
  place : Place
  element : Element

namespace Node

/-- The root of a tree. -/
def root (tree : Nat) (unit : CompilationUnit) : Node := ⟨⟨tree, []⟩, .unit unit⟩

/-- Whether two nodes are one and the same. -/
def same (m n : Node) : Bool := m.place == n.place

/-- The children of a node, in the order in which a walk visits them. -/
def children (n : Node) : List Node :=
  n.element.children.mapIdx fun i e => ⟨n.place.child i, e⟩

/-- The node that some child numbers lead to. -/
def descend? (n : Node) : List Nat → Option Node
  | [] => some n
  | i :: is => n.children[i]?.bind (·.descend? is)

def kind (n : Node) : NodeKind := n.element.kind
def span (n : Node) : Span := n.element.span
def name? (n : Node) : Option String := n.element.name?
def label (n : Node) : String := n.element.label

/-- A node as it is shown: its kind, its label and its span. -/
def text (n : Node) : String := n.kind.name ++ "(" ++ n.label ++ ") @ " ++ n.span.text

@[simp] theorem same_self (n : Node) : n.same n = true := by simp [same]

theorem same_iff {m n : Node} : m.same n = true ↔ m.place = n.place := by simp [same]

end Node

example :
    (Element.stmt ⟨.localVar "total" none none, ⟨10, 16⟩⟩).label
      = "localvariable total" := by decide
example :
    (Node.mk ⟨0, []⟩ (.expr ⟨.call ⟨.ident "log", ⟨0, 3⟩⟩ [], ⟨0, 5⟩⟩)).text
      = "Call(log(0 args)) @ 0..5" := by decide

end TreeScan

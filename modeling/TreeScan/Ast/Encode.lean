import TreeScan.Ast.Decode
import TreeScan.Json.Basic

/-!
# Encoding trees

The JSON form of a tree.  Every field is written, also one that has its default
value.  A part that is missing is written as `null`.  The names of the fields
and variants are those that the decoders know.
-/

namespace TreeScan

/-- The name under which a value is listed. -/
def nameIn {α : Type} [DecidableEq α] (names : List (String × α)) (value : α) : String :=
  match names.find? fun entry => entry.2 = value with
  | some entry => entry.1
  | none => ""

/-- A value or `null`. -/
def Json.ofOption {α : Type} (encode : α → Json) : Option α → Json
  | none => .null
  | some value => encode value

/-- A variant with its content. -/
def Json.variant (name : String) (content : Json) : Json := .object [(name, content)]

/-- The JSON form of a span. -/
def Span.encode (s : Span) : Json := .object [("start", .int s.start), ("end", .int s.stop)]

/-- The JSON form of something with its span, given its own form. -/
def Spanned.encode (node : Json) (span : Span) : Json :=
  .object [("node", node), ("span", span.encode)]

/-- The JSON form of a qualified name. -/
def QualifiedName.encode (q : QualifiedName) : Json :=
  .object [("segments", .array (q.segments.map .str))]

/-- The JSON form of an import. -/
def ImportDecl.encode (d : ImportDecl) : Json :=
  .object [("is_static", .bool d.isStatic), ("name", d.name.encode), ("wildcard", .bool d.wildcard)]

/-! ## Types, parameters, literals and operators -/

mutual

/-- The JSON form of a type. -/
def TypeRef.encode : TypeRef → Json
  | ⟨name, args⟩ => .object [("name", name.encode), ("args", .array (TypeRef.encodeList args))]

/-- The JSON forms of some types. -/
def TypeRef.encodeList : List (Spanned TypeRef) → List Json
  | [] => []
  | ⟨node, span⟩ :: args => Spanned.encode node.encode span :: TypeRef.encodeList args

end

/-- The JSON form of a type with its span. -/
def TypeRef.encodeSpanned (t : Spanned TypeRef) : Json := Spanned.encode t.node.encode t.span

/-- The JSON form of a parameter. -/
def Param.encode (p : Param) : Json :=
  .object [("name", .str p.name), ("ty", TypeRef.encodeSpanned p.type)]

/-- The JSON form of a parameter with its span. -/
def Param.encodeSpanned (p : Spanned Param) : Json := Spanned.encode p.node.encode p.span

/-- The JSON form of a literal. -/
def Literal.encode : Literal → Json
  | .int value => .variant "Int" (.int value)
  | .float value => .variant "Float" (.float value)
  | .str value => .variant "Str" (.str value)
  | .char value => .variant "Char" (.str (String.singleton value))
  | .bool value => .variant "Bool" (.bool value)
  | .null => .str "Null"

/-- The JSON form of an operator between two expressions. -/
def BinaryOp.encode (op : BinaryOp) : Json := .str (nameIn BinaryOp.names op)

/-- The JSON form of an operator before an expression. -/
def UnaryOp.encode (op : UnaryOp) : Json := .str (nameIn UnaryOp.names op)

/-! ## Expressions and statements -/

mutual

/-- The JSON form of an expression. -/
def Expr.encode : Expr → Json
  | .ident name => .variant "Ident" (.str name)
  | .literal value => .variant "Literal" value.encode
  | .field ⟨target, span⟩ name =>
    .variant "Field" (.array [Spanned.encode target.encode span, .str name])
  | .call ⟨callee, span⟩ args =>
    .variant "Call" (.array [Spanned.encode callee.encode span, .array (Expr.encodeList args)])
  | .new type args =>
    .variant "New" (.array [TypeRef.encodeSpanned type, .array (Expr.encodeList args)])
  | .binary ⟨left, leftSpan⟩ op ⟨right, rightSpan⟩ =>
    .variant "Binary"
      (.array [Spanned.encode left.encode leftSpan, op.encode,
        Spanned.encode right.encode rightSpan])
  | .unary op ⟨operand, span⟩ =>
    .variant "Unary" (.array [op.encode, Spanned.encode operand.encode span])
  | .assign ⟨target, targetSpan⟩ ⟨value, valueSpan⟩ =>
    .variant "Assign"
      (.array [Spanned.encode target.encode targetSpan, Spanned.encode value.encode valueSpan])
  | .lambda params body =>
    .variant "Lambda" (.array [.array (params.map Param.encodeSpanned), body.encode])
  | .conditional ⟨c, cSpan⟩ ⟨t, tSpan⟩ ⟨e, eSpan⟩ =>
    .variant "Conditional"
      (.array [Spanned.encode c.encode cSpan, Spanned.encode t.encode tSpan,
        Spanned.encode e.encode eSpan])

/-- The JSON forms of some expressions. -/
def Expr.encodeList : List (Spanned Expr) → List Json
  | [] => []
  | ⟨node, span⟩ :: exprs => Spanned.encode node.encode span :: Expr.encodeList exprs

/-- The JSON form of what a lambda computes. -/
def LambdaBody.encode : LambdaBody → Json
  | .expr ⟨value, span⟩ => .variant "Expr" (Spanned.encode value.encode span)
  | .block ⟨block, span⟩ => .variant "Block" (Spanned.encode block.encode span)

/-- The JSON form of a block. -/
def Block.encode : Block → Json
  | ⟨stmts⟩ => .object [("stmts", .array (Stmt.encodeList stmts))]

/-- The JSON forms of some statements. -/
def Stmt.encodeList : List (Spanned Stmt) → List Json
  | [] => []
  | ⟨node, span⟩ :: stmts => Spanned.encode node.encode span :: Stmt.encodeList stmts

/-- The JSON form of a statement. -/
def Stmt.encode : Stmt → Json
  | .localVar name type init =>
    .variant "Local"
      (.object [("name", .str name), ("ty", .ofOption TypeRef.encodeSpanned type),
        ("init", Expr.encodeOption init)])
  | .expr ⟨value, span⟩ => .variant "Expr" (Spanned.encode value.encode span)
  | .ret value => .variant "Return" (Expr.encodeOption value)
  | .ifThen ⟨c, cSpan⟩ ⟨t, tSpan⟩ e =>
    .variant "If"
      (.object [("condition", Spanned.encode c.encode cSpan),
        ("then_branch", Spanned.encode t.encode tSpan), ("else_branch", Stmt.encodeOption e)])
  | .whileLoop ⟨c, cSpan⟩ ⟨b, bSpan⟩ =>
    .variant "While"
      (.object [("condition", Spanned.encode c.encode cSpan),
        ("body", Spanned.encode b.encode bSpan)])
  | .block b => .variant "Block" b.encode

/-- The JSON form of an expression that may be missing. -/
def Expr.encodeOption : Option (Spanned Expr) → Json
  | none => .null
  | some ⟨node, span⟩ => Spanned.encode node.encode span

/-- The JSON form of a statement that may be missing. -/
def Stmt.encodeOption : Option (Spanned Stmt) → Json
  | none => .null
  | some ⟨node, span⟩ => Spanned.encode node.encode span

end

/-- The JSON form of a block with its span. -/
def Block.encodeSpanned (b : Spanned Block) : Json := Spanned.encode b.node.encode b.span

/-! ## Declarations -/

/-- The JSON form of a field. -/
def FieldDecl.encode (d : FieldDecl) : Json :=
  .object [("is_static", .bool d.isStatic), ("name", .str d.name),
    ("ty", TypeRef.encodeSpanned d.type), ("init", Expr.encodeOption d.init)]

/-- The JSON form of a method. -/
def MethodDecl.encode (d : MethodDecl) : Json :=
  .object [("is_static", .bool d.isStatic), ("name", .str d.name),
    ("params", .array (d.params.map Param.encodeSpanned)),
    ("return_type", .ofOption TypeRef.encodeSpanned d.returnType),
    ("body", .ofOption Block.encodeSpanned d.body)]

mutual

/-- The JSON form of a member. -/
def Member.encode : Member → Json
  | .field d => .variant "Field" d.encode
  | .method d => .variant "Method" d.encode
  | .type d => .variant "Type" d.encode

/-- The JSON form of a type declaration. -/
def TypeDecl.encode : TypeDecl → Json
  | ⟨kind, name, members⟩ =>
    .object [("kind", .str (nameIn TypeKind.names kind)), ("name", .str name),
      ("members", .array (Member.encodeList members))]

/-- The JSON forms of some members. -/
def Member.encodeList : List (Spanned Member) → List Json
  | [] => []
  | ⟨node, span⟩ :: members => Spanned.encode node.encode span :: Member.encodeList members

end

/-- The JSON form of a compilation unit. -/
def CompilationUnit.encode (u : CompilationUnit) : Json :=
  .object [("path", .str u.path), ("package", .ofOption QualifiedName.encode u.package),
    ("imports", .array (u.imports.map fun d => Spanned.encode d.node.encode d.span)),
    ("types", .array (u.types.map fun d => Spanned.encode d.node.encode d.span))]

end TreeScan

import TreeScan.Ast.Span
import TreeScan.Ast.Name

/-!
# Syntax trees

The trees of a class-based, statically typed language.  A compilation unit holds
imports and type declarations, types hold members, and method bodies hold
statements and expressions.  Whatever can be visited on its own is `Spanned`.

A nested type is a member, and a block that stands as a statement is a
statement.  Neither has an element of its own below it: the members and the
statements hang directly on the member and on the statement.
-/

namespace TreeScan

/-! ## Imports -/

/-- One import.  With `wildcard` it brings in everything below the name. -/
structure ImportDecl where
  isStatic : Bool
  name : QualifiedName
  wildcard : Bool
deriving DecidableEq, Repr

/-- The imported identifier as it is written. -/
def ImportDecl.identifier (i : ImportDecl) : String :=
  if i.wildcard then i.name.text ++ ".*" else i.name.text

/-! ## Types, parameters and literals -/

/-- A type such as `Map<String, List<Integer>>`. -/
structure TypeRef where
  name : QualifiedName
  args : List (Spanned TypeRef)

/-- The type of a name without arguments. -/
def TypeRef.simple (dotted : String) : TypeRef := ⟨.parse dotted, []⟩

/-- A parameter of a method or of a lambda. -/
structure Param where
  name : String
  type : Spanned TypeRef

/-- A literal. -/
inductive Literal where
  | int (value : Int)
  | float (value : Float)
  | str (value : String)
  | char (value : Char)
  | bool (value : Bool)
  | null

/-- An operator between two expressions. -/
inductive BinaryOp where
  | add | sub | mul | div | rem | eq | notEq | lt | ltEq | gt | gtEq | and | or
deriving DecidableEq, Repr

/-- An operator before an expression. -/
inductive UnaryOp where
  | neg | not
deriving DecidableEq, Repr

/-! ## Expressions and statements -/

mutual

/-- An expression. -/
inductive Expr where
  | ident (name : String)
  | literal (value : Literal)
  | field (target : Spanned Expr) (name : String)
  | call (callee : Spanned Expr) (args : List (Spanned Expr))
  | new (type : Spanned TypeRef) (args : List (Spanned Expr))
  | binary (left : Spanned Expr) (op : BinaryOp) (right : Spanned Expr)
  | unary (op : UnaryOp) (operand : Spanned Expr)
  | assign (target : Spanned Expr) (value : Spanned Expr)
  | lambda (params : List (Spanned Param)) (body : LambdaBody)
  | conditional (condition : Spanned Expr) (whenTrue : Spanned Expr) (whenFalse : Spanned Expr)

/-- What a lambda computes. -/
inductive LambdaBody where
  | expr (value : Spanned Expr)
  | block (block : Spanned Block)

/-- Statements between braces. -/
structure Block where
  stmts : List (Spanned Stmt)

/-- A statement. -/
inductive Stmt where
  /-- A local variable.  One declared with `var` has no type. -/
  | localVar (name : String) (type : Option (Spanned TypeRef)) (init : Option (Spanned Expr))
  | expr (value : Spanned Expr)
  | ret (value : Option (Spanned Expr))
  | ifThen (condition : Spanned Expr) (thenBranch : Spanned Stmt)
      (elseBranch : Option (Spanned Stmt))
  | whileLoop (condition : Spanned Expr) (body : Spanned Stmt)
  | block (block : Block)

end

/-! ## Declarations -/

/-- What is declared by a type declaration. -/
inductive TypeKind where
  | classType | interfaceType | enumType
deriving DecidableEq, Repr

/-- The keyword of a type declaration. -/
def TypeKind.keyword : TypeKind → String
  | .classType => "class"
  | .interfaceType => "interface"
  | .enumType => "enum"

/-- A field of a type. -/
structure FieldDecl where
  isStatic : Bool
  name : String
  type : Spanned TypeRef
  init : Option (Spanned Expr)

/-- A method of a type.  A constructor has no return type, and an abstract
method has no body. -/
structure MethodDecl where
  isStatic : Bool
  name : String
  params : List (Spanned Param)
  returnType : Option (Spanned TypeRef)
  body : Option (Spanned Block)

mutual

/-- A member of a type. -/
inductive Member where
  | field (decl : FieldDecl)
  | method (decl : MethodDecl)
  | type (decl : TypeDecl)

/-- The declaration of a type. -/
structure TypeDecl where
  kind : TypeKind
  name : String
  members : List (Spanned Member)

end

/-- The declared name of a member. -/
def Member.name : Member → String
  | .field decl => decl.name
  | .method decl => decl.name
  | .type decl => decl.name

/-! ## Compilation units -/

/-- The tree of one source file. -/
structure CompilationUnit where
  /-- The path of the source file, as it was given. -/
  path : String
  package : Option QualifiedName
  imports : List (Spanned ImportDecl)
  types : List (Spanned TypeDecl)

/-- The span that covers every import and type declaration of a unit. -/
def CompilationUnit.span (u : CompilationUnit) : Span :=
  Span.mergeAll (u.imports.map (·.span) ++ u.types.map (·.span))

end TreeScan

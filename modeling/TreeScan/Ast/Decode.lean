import TreeScan.Ast.Tree
import TreeScan.Json.Decoder

/-!
# Decoding trees

The decoders of the tree types.  Every type is a record of its fields or a
choice between its variants.  Lists, optional parts and flags may be absent and
are then empty, missing and false.

The first argument bounds the depth of arrays and objects.  Each of them uses
one level, so the decoders end.
-/

namespace TreeScan

open Json
open Json.Decode hiding bool float

/-! ## Spans and names -/

/-- Decodes a span. -/
def Span.decode (bound : Nat) : Decoder Span :=
  record "Span" bound fun _ _ =>
    (required "start" natural <| required "end" natural noFields).map
      fun (start, stop, ()) => ⟨start, stop⟩

/-- Decodes something with its span. -/
def Spanned.decode {α : Type} (bound : Nat) (node : (n : Nat) → n < bound → Decoder α) :
    Decoder (Spanned α) :=
  record "Spanned" bound fun n h =>
    (required "node" (node n h) <| required "span" (Span.decode n) noFields).map
      fun (node, span, ()) => ⟨node, span⟩

/-- Decodes a list of things with their spans. -/
def Spanned.decodeList {α : Type} (bound : Nat) (node : (n : Nat) → n < bound → Decoder α) :
    Decoder (List (Spanned α)) :=
  list bound fun n h => Spanned.decode n fun m g => node m (Nat.lt_trans g h)

/-- Decodes a qualified name. -/
def QualifiedName.decode (bound : Nat) : Decoder QualifiedName :=
  record "QualifiedName" bound fun n _ =>
    (required "segments" (list n fun _ _ => string) noFields).map fun (segments, ()) => ⟨segments⟩

/-- Decodes an import. -/
def ImportDecl.decode (bound : Nat) : Decoder ImportDecl :=
  record "ImportDecl" bound fun n _ =>
    (defaulted "is_static" Decode.bool false <|
      required "name" (QualifiedName.decode n) <|
      defaulted "wildcard" Decode.bool false noFields).map
      fun (isStatic, name, wildcard, ()) => ⟨isStatic, name, wildcard⟩

/-! ## Types, parameters, literals and operators -/

/-- Decodes a type. -/
def TypeRef.decode (bound : Nat) : Decoder TypeRef :=
  record "TypeRef" bound fun n _ =>
    (required "name" (QualifiedName.decode n) <|
      defaulted "args" (Spanned.decodeList n fun m _ => TypeRef.decode m) [] noFields).map
      fun (name, args, ()) => ⟨name, args⟩
termination_by bound

/-- Decodes a parameter. -/
def Param.decode (bound : Nat) : Decoder Param :=
  record "Param" bound fun n _ =>
    (required "name" string <|
      required "ty" (Spanned.decode n fun m _ => TypeRef.decode m) noFields).map
      fun (name, type, ()) => ⟨name, type⟩

/-- Decodes a literal. -/
def Literal.decode (bound : Nat) : Decoder Literal :=
  choice bound
    [("Int", .newtype fun _ _ d => (Decode.integer d).map .int),
     ("Float", .newtype fun _ _ d => (Decode.float d).map .float),
     ("Str", .newtype fun _ _ d => (Decode.string d).map .str),
     ("Char", .newtype fun _ _ d => (Decode.char d).map .char),
     ("Bool", .newtype fun _ _ d => (Decode.bool d).map .bool),
     ("Null", .unit .null)]

/-- The binary operators by name. -/
def BinaryOp.names : List (String × BinaryOp) :=
  [("Add", .add), ("Sub", .sub), ("Mul", .mul), ("Div", .div), ("Rem", .rem), ("Eq", .eq),
   ("NotEq", .notEq), ("Lt", .lt), ("LtEq", .ltEq), ("Gt", .gt), ("GtEq", .gtEq), ("And", .and),
   ("Or", .or)]

/-- Decodes an operator between two expressions. -/
def BinaryOp.decode (bound : Nat) : Decoder BinaryOp :=
  choice bound (BinaryOp.names.map fun (name, op) => (name, .unit op))

/-- The unary operators by name. -/
def UnaryOp.names : List (String × UnaryOp) := [("Neg", .neg), ("Not", .not)]

/-- Decodes an operator before an expression. -/
def UnaryOp.decode (bound : Nat) : Decoder UnaryOp :=
  choice bound (UnaryOp.names.map fun (name, op) => (name, .unit op))

/-! ## Expressions and statements -/

mutual

/-- Decodes an expression. -/
def Expr.decode (bound : Nat) : Decoder Expr :=
  choice bound
    [("Ident", .newtype fun _ _ d => (string d).map .ident),
     ("Literal", .newtype fun n _ d => (Literal.decode n d).map .literal),
     ("Field", .tuple fun n _ => tuple "Expr::Field" n fun m _ =>
       (item (Spanned.decode m fun k _ => Expr.decode k) <| item string noFields).map
         fun (target, name, ()) => .field target name),
     ("Call", .tuple fun n _ => tuple "Expr::Call" n fun m _ =>
       (item (Spanned.decode m fun k _ => Expr.decode k) <|
         item (Spanned.decodeList m fun k _ => Expr.decode k) noFields).map
         fun (callee, args, ()) => .call callee args),
     ("New", .tuple fun n _ => tuple "Expr::New" n fun m _ =>
       (item (Spanned.decode m fun k _ => TypeRef.decode k) <|
         item (Spanned.decodeList m fun k _ => Expr.decode k) noFields).map
         fun (type, args, ()) => .new type args),
     ("Binary", .tuple fun n _ => tuple "Expr::Binary" n fun m _ =>
       (item (Spanned.decode m fun k _ => Expr.decode k) <|
         item (BinaryOp.decode m) <|
         item (Spanned.decode m fun k _ => Expr.decode k) noFields).map
         fun (left, op, right, ()) => .binary left op right),
     ("Unary", .tuple fun n _ => tuple "Expr::Unary" n fun m _ =>
       (item (UnaryOp.decode m) <|
         item (Spanned.decode m fun k _ => Expr.decode k) noFields).map
         fun (op, operand, ()) => .unary op operand),
     ("Assign", .tuple fun n _ => tuple "Expr::Assign" n fun m _ =>
       (item (Spanned.decode m fun k _ => Expr.decode k) <|
         item (Spanned.decode m fun k _ => Expr.decode k) noFields).map
         fun (target, value, ()) => .assign target value),
     ("Lambda", .tuple fun n _ => tuple "Expr::Lambda" n fun m _ =>
       (item (Spanned.decodeList m fun k _ => Param.decode k) <|
         item (LambdaBody.decode m) noFields).map
         fun (params, body, ()) => .lambda params body),
     ("Conditional", .tuple fun n _ => tuple "Expr::Conditional" n fun m _ =>
       (item (Spanned.decode m fun k _ => Expr.decode k) <|
         item (Spanned.decode m fun k _ => Expr.decode k) <|
         item (Spanned.decode m fun k _ => Expr.decode k) noFields).map
         fun (condition, whenTrue, whenFalse, ()) => .conditional condition whenTrue whenFalse)]
termination_by bound

/-- Decodes what a lambda computes. -/
def LambdaBody.decode (bound : Nat) : Decoder LambdaBody :=
  choice bound
    [("Expr", .newtype fun n _ d => (Spanned.decode n (fun m _ => Expr.decode m) d).map .expr),
     ("Block", .newtype fun n _ d => (Spanned.decode n (fun m _ => Block.decode m) d).map .block)]
termination_by bound

/-- Decodes a block. -/
def Block.decode (bound : Nat) : Decoder Block :=
  record "Block" bound fun n _ =>
    (required "stmts" (Spanned.decodeList n fun m _ => Stmt.decode m) noFields).map
      fun (stmts, ()) => ⟨stmts⟩
termination_by bound

/-- Decodes a statement. -/
def Stmt.decode (bound : Nat) : Decoder Stmt :=
  choice bound
    [("Local", .newtype fun n _ => record "LocalDecl" n fun m _ =>
       (required "name" string <|
         defaulted "ty" (optional (Spanned.decode m fun k _ => TypeRef.decode k)) none <|
         defaulted "init" (optional (Spanned.decode m fun k _ => Expr.decode k)) none
           noFields).map
         fun (name, type, init, ()) => .localVar name type init),
     ("Expr", .newtype fun n _ d => (Spanned.decode n (fun m _ => Expr.decode m) d).map .expr),
     ("Return", .newtype fun n _ d =>
       (optional (Spanned.decode n fun m _ => Expr.decode m) d).map .ret),
     ("If", .newtype fun n _ => record "IfStmt" n fun m _ =>
       (required "condition" (Spanned.decode m fun k _ => Expr.decode k) <|
         required "then_branch" (Spanned.decode m fun k _ => Stmt.decode k) <|
         defaulted "else_branch" (optional (Spanned.decode m fun k _ => Stmt.decode k)) none
           noFields).map
         fun (condition, thenBranch, elseBranch, ()) => .ifThen condition thenBranch elseBranch),
     ("While", .newtype fun n _ => record "WhileStmt" n fun m _ =>
       (required "condition" (Spanned.decode m fun k _ => Expr.decode k) <|
         required "body" (Spanned.decode m fun k _ => Stmt.decode k) noFields).map
         fun (condition, body, ()) => .whileLoop condition body),
     ("Block", .newtype fun n _ d => (Block.decode n d).map .block)]
termination_by bound

end

/-! ## Declarations -/

/-- The kinds of type declarations by name. -/
def TypeKind.names : List (String × TypeKind) :=
  [("Class", .classType), ("Interface", .interfaceType), ("Enum", .enumType)]

/-- Decodes the kind of a type declaration. -/
def TypeKind.decode (bound : Nat) : Decoder TypeKind :=
  choice bound (TypeKind.names.map fun (name, kind) => (name, .unit kind))

/-- Decodes a field. -/
def FieldDecl.decode (bound : Nat) : Decoder FieldDecl :=
  record "FieldDecl" bound fun n _ =>
    (defaulted "is_static" Decode.bool false <|
      required "name" string <|
      required "ty" (Spanned.decode n fun m _ => TypeRef.decode m) <|
      defaulted "init" (optional (Spanned.decode n fun m _ => Expr.decode m)) none noFields).map
      fun (isStatic, name, type, init, ()) => ⟨isStatic, name, type, init⟩

/-- Decodes a method. -/
def MethodDecl.decode (bound : Nat) : Decoder MethodDecl :=
  record "MethodDecl" bound fun n _ =>
    (defaulted "is_static" Decode.bool false <|
      required "name" string <|
      defaulted "params" (Spanned.decodeList n fun m _ => Param.decode m) [] <|
      defaulted "return_type" (optional (Spanned.decode n fun m _ => TypeRef.decode m)) none <|
      defaulted "body" (optional (Spanned.decode n fun m _ => Block.decode m)) none noFields).map
      fun (isStatic, name, params, returnType, body, ()) =>
        ⟨isStatic, name, params, returnType, body⟩

mutual

/-- Decodes a member. -/
def Member.decode (bound : Nat) : Decoder Member :=
  choice bound
    [("Field", .newtype fun n _ d => (FieldDecl.decode n d).map .field),
     ("Method", .newtype fun n _ d => (MethodDecl.decode n d).map .method),
     ("Type", .newtype fun n _ d => (TypeDecl.decode n d).map .type)]
termination_by bound

/-- Decodes a type declaration. -/
def TypeDecl.decode (bound : Nat) : Decoder TypeDecl :=
  record "TypeDecl" bound fun n _ =>
    (required "kind" (TypeKind.decode n) <|
      required "name" string <|
      defaulted "members" (Spanned.decodeList n fun m _ => Member.decode m) [] noFields).map
      fun (kind, name, members, ()) => ⟨kind, name, members⟩
termination_by bound

end

/-- Decodes a compilation unit. -/
def CompilationUnit.decode (bound : Nat) : Decoder CompilationUnit :=
  record "CompilationUnit" bound fun n _ =>
    (required "path" (textAs "path string") <|
      defaulted "package" (optional (QualifiedName.decode n)) none <|
      defaulted "imports" (Spanned.decodeList n fun m _ => ImportDecl.decode m) [] <|
      defaulted "types" (Spanned.decodeList n fun m _ => TypeDecl.decode m) [] noFields).map
      fun (path, package, imports, types, ()) => ⟨path, package, imports, types⟩

end TreeScan

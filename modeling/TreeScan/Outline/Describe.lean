import TreeScan.Ast.Node

/-!
# The lines of an outline

How declarations and statements are described in an outline, each on one line.
-/

namespace TreeScan.Outline

/-- The line of a unit. -/
def unitLine (u : CompilationUnit) : String :=
  "unit " ++ u.path ++
    match u.package with
    | some package => " (package " ++ package.text ++ ")"
    | none => ""

/-- The line of a type declaration. -/
def typeLine (d : TypeDecl) : String := d.kind.keyword ++ " " ++ d.name

/-- What stands before a static member. -/
def staticMark (isStatic : Bool) : String := if isStatic then "static " else ""

/-- The line of a field. -/
def fieldLine (d : FieldDecl) : String :=
  staticMark d.isStatic ++ "field " ++ d.name ++ ": " ++ d.type.node.text

/-- The line of a method. -/
def methodLine (d : MethodDecl) : String :=
  let params := d.params.map fun p => p.node.name ++ ": " ++ p.node.type.node.text
  staticMark d.isStatic ++ "method " ++ d.name ++ "(" ++ Text.joinStrings ", " params ++ ")" ++
    match d.returnType with
    | some type => " -> " ++ type.node.text
    | none => ""

/-- The line of an expression that stands as a statement. -/
def exprLine : Expr → String
  | .assign target value =>
    Element.exprLabel target.node ++ " = " ++ Element.exprLabel value.node
  | e => Element.exprLabel e

/-- The line of a statement. -/
def stmtLine : Stmt → String
  | .localVar name type _ =>
    match type with
    | some type => "let " ++ name ++ ": " ++ type.node.text
    | none => "let " ++ name
  | .expr e => exprLine e.node
  | .ret value =>
    match value with
    | some value => "return " ++ Element.exprLabel value.node
    | none => "return"
  | .ifThen .. => "if"
  | .whileLoop .. => "while"
  | .block _ => "block"

/-- Whether a statement holds other statements. -/
def isCompound : Stmt → Bool
  | .ifThen .. => true
  | .whileLoop .. => true
  | .block _ => true
  | _ => false

end TreeScan.Outline

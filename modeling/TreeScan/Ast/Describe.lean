import TreeScan.Ast.Tree
import TreeScan.Text.Quoted
import TreeScan.Decimal.Layout

/-!
# Trees as text

How types, literals and operators are written in labels, outlines and messages.
-/

namespace TreeScan

/-! ## Types -/

mutual

/-- A type as it is written, its arguments between angle brackets. -/
def TypeRef.text : TypeRef → String
  | ⟨name, []⟩ => name.text
  | ⟨name, arg :: args⟩ => name.text ++ "<" ++ arg.node.text ++ TypeRef.restText args ++ ">"

/-- Further type arguments, each after a comma. -/
def TypeRef.restText : List (Spanned TypeRef) → String
  | [] => ""
  | arg :: args => ", " ++ arg.node.text ++ TypeRef.restText args

end

/-! ## Literals and operators -/

/-- A literal as it is written.  Texts and characters are quoted, and a number
with a fraction is written in full. -/
def Literal.text : Literal → String
  | .int value => toString value
  | .float value => Decimal.plain.float value
  | .str value => Text.quoteString value
  | .char value => Text.quoteSingle value
  | .bool value => if value then "true" else "false"
  | .null => "null"

/-- The symbol of an operator between two expressions. -/
def BinaryOp.symbol : BinaryOp → String
  | .add => "+"
  | .sub => "-"
  | .mul => "*"
  | .div => "/"
  | .rem => "%"
  | .eq => "=="
  | .notEq => "!="
  | .lt => "<"
  | .ltEq => "<="
  | .gt => ">"
  | .gtEq => ">="
  | .and => "&&"
  | .or => "||"

/-- The symbol of an operator before an expression. -/
def UnaryOp.symbol : UnaryOp → String
  | .neg => "-"
  | .not => "!"

example :
    (TypeRef.mk (.parse "Map") [⟨.simple "String", ⟨0, 0⟩⟩,
      ⟨⟨.parse "List", [⟨.simple "Integer", ⟨0, 0⟩⟩]⟩, ⟨0, 0⟩⟩]).text
      = "Map<String, List<Integer>>" := by decide
example : (Literal.str "a\"b").text = "\"a\\\"b\"" := by decide +kernel

end TreeScan

import TreeScan.Ast.Node

/-!
# Symbols

A symbol is what a node declares.  A resolver finds the symbol of a node in a
unit.  `declResolver` looks at nothing but the node: every declaration has a
symbol of its own kind, name and span, and other nodes have none.
-/

namespace TreeScan

/-- What a symbol stands for. -/
inductive SymbolKind where
  | type (kind : TypeKind)
  | method (isStatic : Bool)
  | field (isStatic : Bool)
  | parameter
  | localVar
deriving DecidableEq, Repr

/-- A symbol kind in one word. -/
def SymbolKind.word : SymbolKind → String
  | .type kind => kind.keyword
  | .method _ => "method"
  | .field _ => "field"
  | .parameter => "parameter"
  | .localVar => "local"

/-- What a node declares. -/
structure DeclSymbol where
  kind : SymbolKind
  name : String
  span : Span
deriving DecidableEq, Repr

namespace DeclSymbol

/-- Whether a symbol stands for a type. -/
def isType (s : DeclSymbol) : Bool :=
  match s.kind with
  | .type _ => true
  | _ => false

/-- Whether a symbol stands for a static method or field. -/
def isStatic (s : DeclSymbol) : Bool :=
  match s.kind with
  | .method isStatic => isStatic
  | .field isStatic => isStatic
  | _ => false

end DeclSymbol

/-- Finds the symbol of a node in a unit. -/
abbrev SymbolResolver (β : Type) := CompilationUnit → Node → Option β

/-- The kind and name of what an element declares. -/
def Element.declared? : Element → Option (SymbolKind × String)
  | .typeDecl d => some (.type d.node.kind, d.node.name)
  | .member m =>
    match m.node with
    | .type d => some (.type d.kind, d.name)
    | .method d => some (.method d.isStatic, d.name)
    | .field d => some (.field d.isStatic, d.name)
  | .param p => some (.parameter, p.node.name)
  | .stmt s =>
    match s.node with
    | .localVar name _ _ => some (.localVar, name)
    | _ => none
  | _ => none

/-- The symbol that a node declares. -/
def Node.symbol? (n : Node) : Option DeclSymbol :=
  n.element.declared?.map fun (kind, name) => ⟨kind, name, n.span⟩

/-- Resolves declarations by themselves. -/
def declResolver : SymbolResolver DeclSymbol := fun _ n => n.symbol?

end TreeScan

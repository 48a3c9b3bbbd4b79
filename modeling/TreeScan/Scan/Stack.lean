import TreeScan.Scan.Symbol

/-!
# The scanning stack

The stack holds the nodes that are being visited.  The first is the current
node, and every other one was being visited when the one before it was entered.
A node may be on the stack more than once.

The *ancestors* of the current node are the rest of the stack.  Searches go
through them from the nearest outwards and stop at the first that fits.  A
search takes its test in any monad, so a test that keeps a record shows which
nodes it was asked about.
-/

namespace TreeScan

/-- The nodes that are being visited, innermost first. -/
abbrev Stack := List Node

namespace Stack

/-! ## Single nodes -/

/-- The current node. -/
def current? (s : Stack) : Option Node := s.head?

/-- The nodes around the current one, nearest first. -/
def ancestors (s : Stack) : List Node := s.tail

/-- The nearest ancestor. -/
def parent? (s : Stack) : Option Node := s.ancestors[0]?

/-- The second ancestor. -/
def grandparent? (s : Stack) : Option Node := s.ancestors[1]?

/-- The number of nodes. -/
def depth (s : Stack) : Nat := s.length

/-- The nodes from the outermost inwards. -/
def fromRoot (s : Stack) : List Node := s.reverse

/-! ## Searches -/

/-- The nearest ancestor that passes a test. -/
def nearestM? {m : Type → Type} [Monad m] (s : Stack) (p : Node → m Bool) : m (Option Node) :=
  s.ancestors.findM? p

/-- The nearest ancestor that passes a test. -/
def nearest? (s : Stack) (p : Node → Bool) : Option Node := s.ancestors.find? p

/-- The nearest ancestor of one of some kinds. -/
def nearestOfKinds? (s : Stack) (kinds : List NodeKind) : Option Node :=
  s.nearest? fun n => kinds.contains n.kind

/-- What is first found at an ancestor. -/
def find? {β : Type} (s : Stack) (f : Node → Option β) : Option β := s.ancestors.findSome? f

/-- The stack as it was when a node was current.  The innermost occurrence of
the node counts. -/
def backTo (s : Stack) (n : Node) : Stack := s.dropWhile fun m => !m.same n

/-- The nearest node around another one that passes a test.  There is none for
a node that is not on the stack. -/
def nearestFromM? {m : Type → Type} [Monad m] (s : Stack) (p : Node → m Bool) (n : Node) :
    m (Option Node) :=
  (s.backTo n).nearestM? p

/-- The nearest node around another one that passes a test. -/
def nearestFrom? (s : Stack) (p : Node → Bool) (n : Node) : Option Node := (s.backTo n).nearest? p

/-! ## Symbols

A symbol is found in a unit, so there is none without an active one. -/

/-- The symbol of a node. -/
def symbolOf? {β : Type} (unit : Option CompilationUnit) (resolve : SymbolResolver β) (n : Node) :
    Option β :=
  unit.bind fun u => resolve u n

/-- The symbol of the nearest ancestor that has one and passes a test. -/
def nearestSymbol? {β : Type} (s : Stack) (unit : Option CompilationUnit)
    (resolve : SymbolResolver β) (p : β → Bool) : Option β :=
  unit.bind fun u => (s.ancestors.filterMap (resolve u)).find? p

/-- The symbol of the nearest ancestor that has one. -/
def parentSymbol? {β : Type} (s : Stack) (unit : Option CompilationUnit)
    (resolve : SymbolResolver β) : Option β :=
  s.nearestSymbol? unit resolve fun _ => true

/-- The part of a stack that was there when it held `depth` nodes. -/
def cutTo (s : Stack) (depth : Nat) : Stack := s.drop (s.length - depth)

theorem cutTo_append (frames s : Stack) : (frames ++ s : Stack).cutTo s.length = s := by
  simp [cutTo]

end Stack

end TreeScan

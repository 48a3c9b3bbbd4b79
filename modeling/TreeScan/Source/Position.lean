import TreeScan.Ast.Node
import TreeScan.Text.Bytes

/-!
# Source positions

A source position is a file and a span in it.  The trees record byte offsets
only, so a line and a column are worked out from the lines of the file when
they are needed.

Lines are separated by one line break, which counts as one byte.  An offset at
a line break belongs to the line that it ends.  An offset beyond the text is at
the end of the last line.
-/

namespace TreeScan

/-- A line and a column, both counted from one. -/
structure LineColumn where
  line : Nat
  column : Nat
deriving DecidableEq, Repr

/-- The number of bytes of a line without its line break. -/
def lineLength (line : String) : Nat := Text.byteLength line.toList

/-- The line and column of an offset among lines of which the first has the
given number. -/
def locateFrom (number : Nat) : List String → Nat → LineColumn
  | [], _ => ⟨number, 1⟩
  | [line], offset => ⟨number, min offset (lineLength line) + 1⟩
  | line :: lines, offset =>
    if offset ≤ lineLength line then ⟨number, offset + 1⟩
    else locateFrom (number + 1) lines (offset - (lineLength line + 1))

/-- The line and column of a byte offset.  Without lines it is the first of the first. -/
def locate (lines : List String) (offset : Nat) : LineColumn := locateFrom 1 lines offset

/-- A span in a file. -/
structure SourcePosition where
  file : String
  span : Span
deriving DecidableEq, Repr

namespace SourcePosition

/-- A position without the lines of its file. -/
def text (p : SourcePosition) : String := p.file ++ "@" ++ p.span.text

/-- A position with the line and column where it starts. -/
def render (p : SourcePosition) (lines : List String) : String :=
  let place := locate lines p.span.start
  p.file ++ ":" ++ toString place.line ++ ":" ++ toString place.column

end SourcePosition

/-! ## Positions of nodes -/

/-- Finds the position of a node in a unit.  A name asks for the part of the
node that carries it. -/
abbrev PositionService := CompilationUnit → Node → Option String → Option SourcePosition

/-- The span of a node, narrowed to its first part with a name. -/
def narrowedSpan (n : Node) : Option String → Span
  | none => n.span
  | some name =>
    match n.element.namedParts.find? fun part => part.1 == name with
    | some part => part.2
    | none => n.span

/-- The positions recorded in the tree. -/
def spanPositions : PositionService := fun unit n name =>
  some ⟨unit.path, narrowedSpan n name⟩

/-- No positions at all. -/
def noPositions : PositionService := fun _ _ _ => none

example : locate ["ab", "cd"] 2 = ⟨1, 3⟩ ∧ locate ["ab", "cd"] 3 = ⟨2, 1⟩ := by decide
example : locate ["ab", "cd"] 105 = ⟨2, 3⟩ ∧ locate [] 5 = ⟨1, 1⟩ := by decide
example : locate ["é", "ü"] 3 = ⟨2, 1⟩ := by decide
example : (SourcePosition.mk "A.java" ⟨12, 15⟩).render ["class A \x7b", "  int x;", "\x7d"]
    = "A.java:2:3" := by decide

end TreeScan

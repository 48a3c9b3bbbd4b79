import TreeScan.Outline.Describe
import TreeScan.Outline.LineBuffer
import TreeScan.Scan.Visit

/-!
# Outlines

The outline of a tree lists units, imports, types, members and statements, each
on a line and indented by its nesting.  Expressions have no lines of their own.

In the compact style the body of a method is first written on the method's own
line.  A compound statement in it does not fit there.  Then the pass rolls back
to the method, drops what it wrote for it, reports that it falls back to the
expanded style, and writes the method again in that style.  A method that fell
back once is expanded at once when it is met again.
-/

namespace TreeScan

/-- How the bodies of methods are written. -/
inductive OutlineStyle where
  /-- Each statement on a line. -/
  | expanded
  /-- Simple bodies on the line of their method. -/
  | compact
deriving DecidableEq, Repr

/-- The state of an outline. -/
structure Outline where
  style : OutlineStyle
  buffer : LineBuffer
  /-- The line that takes the statements, while a body is written on it. -/
  inlineAt : Option Nat
  /-- The methods that fell back to the expanded style. -/
  expanded : List Place

namespace Outline

/-- The number of spaces of a level. -/
def indent : Nat := 2

/-- An outline without lines. -/
def empty (style : OutlineStyle) : Outline :=
  { style := style, buffer := .empty indent, inlineAt := none, expanded := [] }

/-- The lines so far. -/
def lines (o : Outline) : List String := o.buffer.lines

/-- The outline as a text. -/
def text (o : Outline) : String := o.buffer.text

/-! ## Lines -/

/-- Whether an element is the body of a method or of a lambda. -/
def isBody : Element → Bool
  | .block _ => true
  | _ => false

/-- The level of the current node.  Bodies do not count. -/
def level (s : Stack) : Nat := (s.filter fun n => !isBody n.element).length - 1

/-- A visit in an outline.  A callback is the index of the line of a method. -/
abbrev Step (α : Type) := Visit Outline Nat α

/-- Writes a line for the current node.  The result is its index. -/
def writeLine (text : String) : Step Nat := do
  let stack ← Visit.stack
  let o ← Visit.read
  let (index, buffer) := o.buffer.line (level stack) text
  Visit.write { o with buffer := buffer }
  pure index

/-- Adds a text to a line. -/
def addTo (index : Nat) (text : String) : Step Unit :=
  Visit.change fun o => { o with buffer := o.buffer.append index text }

/-- Says which line takes the statements. -/
def inlineOn (index : Option Nat) : Step Unit := Visit.change fun o => { o with inlineAt := index }

/-! ## Members -/

/-- The body among the children of a node. -/
def body? (n : Node) : Option Node := n.children.find? fun c => isBody c.element

/-- Whether the body of a method is to be written on the method's line. -/
def isInline (o : Outline) (method : Node) : Bool :=
  o.style == .compact && !o.expanded.contains method.place

/-- Writes a body on the line of its method. -/
def inlineBody (header : Nat) (body : Node) : Step Unit := do
  addTo header " \x7b"
  inlineOn (some header)
  let escaped ← Visit.attempt (some body)
  inlineOn none
  Visit.forward escaped
  addTo header " \x7d"

/-- Writes a method. -/
def visitMethod (n : Node) (d : MethodDecl) : Step Unit := do
  let header ← writeLine (methodLine d)
  match body? n with
  | none => pure ()
  | some body =>
    let o ← Visit.read
    if o.isInline n then inlineBody header body else Visit.scan body

/-- Writes a member. -/
def visitMember (n : Node) : Member → Step Unit
  | .field d => do
    let _ ← writeLine (fieldLine d)
  | .type d => do
    let _ ← writeLine (typeLine d)
    Visit.walk n
  | .method d => visitMethod n d

/-! ## Statements -/

/-- What is noted when a compound statement is met in a body on one line. -/
def expanding (method : Node) : LogEvent :=
  ⟨.debug, "compound statement, expanding method", [("method", .text method.label)]⟩

/-- Rolls back to the enclosing method, to write it again from its line on. -/
def giveUpInline (header : Nat) : Step Unit := do
  let stack ← Visit.stack
  match stack.nearestOfKinds? [.method] with
  | none => Visit.fault (.message "inlined statement outside of a method")
  | some method =>
    Visit.log (expanding method)
    Visit.rollback ⟨method, some header⟩

/-- Writes a statement. -/
def visitStmt (n : Node) (s : Stmt) : Step Unit := do
  let o ← Visit.read
  match o.inlineAt with
  | none =>
    let _ ← writeLine (stmtLine s)
    Visit.walk n
  | some header =>
    if isCompound s then giveUpInline header
    else addTo header (" " ++ stmtLine s ++ ";")

/-! ## The pass -/

/-- Writes a node. -/
def visit (n : Node) : Step Unit :=
  match n.element with
  | .unit u => do
    let _ ← writeLine (unitLine u)
    Visit.walk n
  | .importDecl _ => do
    let _ ← writeLine n.label
  | .typeDecl d => do
    let _ ← writeLine (typeLine d.node)
    Visit.walk n
  | .member m => visitMember n m.node
  | .stmt s => visitStmt n s.node
  | .expr _ => pure ()
  | .param _ => Visit.walk n
  | .typeRef _ => Visit.walk n
  | .block _ => Visit.walk n

/-- Writes a method again, expanded.  What was written since its line is
dropped. -/
def expand (header : Nat) (n : Node) : Step Unit := do
  Visit.change fun o =>
    { o with
      buffer := o.buffer.truncate header
      inlineAt := none
      expanded := n.place :: o.expanded }
  Visit.report n .strategyFallback ["expanded outline", n.label]
  match n.element with
  | .member m => visitMember n m.node
  | _ => pure ()

/-- The pass that writes outlines. -/
def pass : Pass Outline Nat where
  visit := visit
  resume := expand

end Outline

end TreeScan

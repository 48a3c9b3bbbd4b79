import TreeScan.Scan.Scanner
import TreeScan.Text.Blank

/-!
# Stack traces

A stack trace lists the nodes on the stack, innermost first.  An entry shows the
kind of a node, the beginning of its text and its position.

The text is the node's source on the line where it starts, without the blanks
around it.  Where there is no such text, the label stands for it.  It is cut to a
width, counted in characters.  Dots follow if it was cut or if the node goes on
past the line.
-/

namespace TreeScan.Trace

/-! ## The text of a node -/

/-- The source of a span on the line where it starts, trimmed, and whether the
span goes on past that line.  There is none if it is blank, if it starts or stops
inside a character, or if the span starts after the last line. -/
def firstLine? : List String → Span → Option (String × Bool)
  | [], _ => none
  | line :: lines, span =>
    if span.start ≤ lineLength line then
      let stop := min span.stop (lineLength line)
      match Text.byteSlice? line.toList span.start (max stop span.start) with
      | none => none
      | some source =>
        if Text.trim source = [] then none
        else some (String.ofList (Text.trim source), lineLength line < span.stop)
    else
      firstLine? lines
        ⟨span.start - (lineLength line + 1), span.stop - (lineLength line + 1)⟩

/-- A text cut to a width, without blanks at the cut, and whether it was cut. -/
def shorten (width : Nat) (text : String) : String × Bool :=
  if width < text.toList.length then
    (String.ofList (Text.trimEnd (text.toList.take width)), true)
  else (text, false)

/-- The text of a node in a trace. -/
def nodeText (width : Nat) (lines : Option (List String)) (n : Node) : String :=
  let (text, goesOn) := (lines.bind fun lines => firstLine? lines n.span).getD (n.label, false)
  let (shown, cut) := shorten width text
  if goesOn || cut then shown ++ "..." else shown

/-! ## Entries -/

/-- The position of a node in a trace. -/
def place (position : Option SourcePosition) (lines : Option (List String)) : String :=
  match position, lines with
  | some position, some lines => position.render lines
  | some position, none => position.text
  | none, _ => "unknown position"

/-- The entry of a node. -/
def entry (width : Nat) (lines : Option (List String)) (position : Option SourcePosition)
    (n : Node) : String :=
  "   [" ++ n.kind.name ++ "] " ++ nodeText width lines n ++ " (" ++ place position lines ++ ")"

/-- The first line of a trace. -/
def heading : String := "dumping transpiler's stack trace:"

end Trace

namespace Scanner

/-- The trace of the stack. -/
def trace {η : Type} (setup : Setup η) (s : Scanner η) : String × Scanner η :=
  let (lines, after) := s.lines
  let entries := s.stack.map fun n =>
    Trace.entry setup.config.dumpTextWidth lines (s.position? setup n none) n
  (Text.joinStrings "\n" (Trace.heading :: entries), after)

end Scanner

namespace Trace

example : firstLine? ["int x;", "  go();"] ⟨9, 14⟩ = some ("go();", false) := by decide
example : firstLine? ["if (a) \x7b", "\x7d"] ⟨0, 10⟩ = some ("if (a) \x7b", true) := by decide
example : shorten 5 "let x = 1" = ("let x", true) ∧ shorten 4 "let x" = ("let", true) := by decide

end Trace

end TreeScan

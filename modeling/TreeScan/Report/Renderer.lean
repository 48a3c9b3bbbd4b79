import TreeScan.Report.Diagnostic

/-!
# Renderers

A diagnostic about a text that can be shown is handed to a renderer as an exhibit: the
problem in words, the text and a label in it.  How it is drawn is up to the renderer.
A renderer may also answer with an error, or panic.
-/

namespace TreeScan

/-- A range of bytes of a text. -/
structure Label where
  start : Nat
  length : Nat
deriving DecidableEq, Repr

/-- The offset after the last byte of a label. -/
def Label.stop (l : Label) : Nat := l.start + l.length

/-- What a renderer is given. -/
structure Exhibit where
  code : String
  severity : Severity
  message : String
  /-- The name of the text. -/
  file : String
  source : String
  label : Label
  /-- What is written at the label. -/
  caption : String
deriving DecidableEq, Repr

/-- What comes of rendering an exhibit. -/
inductive Rendered where
  | text (text : String)
  /-- The renderer has answered with an error. -/
  | failed
  | panicked (payload : Payload)
deriving DecidableEq, Repr

/-- Draws exhibits, one at a time. -/
abbrev Renderer := Exhibit → Rendered

end TreeScan

import TreeScan.Report.Frame
import TreeScan.Source.Cache

/-!
# The console

The console prints diagnostics.  One whose source file can be read is handed to a
renderer with its source text, any other is one line.  It is one line as well if the
renderer fails.  The console has a source cache of its own.  A sink that does not take
the text is noted in the log and nowhere else.

The console gives up on a diagnostic if and only if the renderer panics.  Then nothing
is printed, but the source text has been loaded.
-/

namespace TreeScan

/-- Where printed text goes. -/
inductive Sink where
  /-- Keeps the text. -/
  | buffer (text : String)
  /-- Takes nothing and answers with an error. -/
  | broken (error : String)
deriving DecidableEq, Repr

/-- Gives a text to a sink.  The error is what the sink answers. -/
def Sink.write (sink : Sink) (more : String) : Sink × Option String :=
  match sink with
  | .buffer text => (.buffer (text ++ more), none)
  | .broken error => (.broken error, some error)

/-- The text that a sink has kept. -/
def Sink.text : Sink → String
  | .buffer text => text
  | .broken _ => ""

/-- The state of the console. -/
structure Console where
  sources : SourceCache
  sink : Sink
deriving DecidableEq, Repr

namespace Console

/-- A console that prints to a sink. -/
def onto (sink : Sink) : Console := ⟨.empty, sink⟩

/-- The text that a report on a file is about: its lines with line breaks
between them. -/
def sourceText (lines : List String) : String := Text.joinStrings "\n" lines

/-- The range of a text that a span covers.  It is cut at the end of the text. -/
def labelOf (text : String) (span : Span) : Label :=
  let size := Text.byteLength text.toList
  let start := min span.start size
  ⟨start, min span.length (size - start)⟩

/-- What a renderer is given of a diagnostic at a position in a file with some lines. -/
def exhibit (d : Diagnostic) (position : SourcePosition) (lines : List String) : Exhibit :=
  let text := sourceText lines
  { code := d.problem.code
    severity := d.severity
    message := d.message
    file := position.file
    source := text
    label := labelOf text position.span
    caption := "here" }

/-- A diagnostic on one line with its code. -/
def plain (d : Diagnostic) : String :=
  d.severity.name ++ "[" ++ d.problem.code ++ "]: " ++ d.message ++
    (match d.position with
    | some position => " (" ++ position.text ++ ")"
    | none => "") ++ "\n"

/-- The text of a diagnostic, given the lines of its file if they can be read, or what
the renderer panicked with. -/
def render (renderer : Renderer) (d : Diagnostic) (lines : Option (List String)) :
    Except Payload String :=
  match d.position, lines with
  | some position, some lines =>
    match renderer (exhibit d position lines) with
    | .text text => .ok text
    | .failed => .ok (d.text ++ "\n")
    | .panicked payload => .error payload
  | _, _ => .ok (plain d)

/-- The lines of the file of a diagnostic, if it has a position. -/
def linesFor (console : Console) (files : FileStore) (d : Diagnostic) : SourceAnswer :=
  match d.position with
  | some position => console.sources.linesAt files position.file
  | none => ⟨none, console.sources, []⟩

/-- Writes the text of a diagnostic, or gives up on it. -/
def deliver (console : Console) (answer : SourceAnswer) : Except Payload String → Handled Console
  | .error payload => ⟨⟨answer.cache, console.sink⟩, answer.events, some payload⟩
  | .ok text =>
    let (sink, failure) := console.sink.write text
    let failed := failure.toList.map fun error =>
      ⟨.warn, "failed to write diagnostic", [("error", .text error)]⟩
    ⟨⟨answer.cache, sink⟩, answer.events ++ failed, none⟩

/-- Prints a diagnostic with a renderer. -/
def printing (renderer : Renderer) : Handler Console := fun d files console =>
  let answer := console.linesFor files d
  console.deliver answer (render renderer d answer.lines)

/-- Prints a diagnostic, framed if it can be. -/
def print : Handler Console := printing Frame.renderer

/-! ## What becomes of a diagnostic -/

/-- A diagnostic was taken, and a text for it was given to the sink. -/
structure Took (console : Console) (text : String) (handled : Handled Console) : Prop where
  sink_eq : handled.state.sink = (console.sink.write text).1
  panic_eq : handled.panic = none

/-- A diagnostic was given up, and nothing was given to the sink. -/
structure GaveUp (console : Console) (payload : Payload) (handled : Handled Console) : Prop where
  sink_eq : handled.state.sink = console.sink
  panic_eq : handled.panic = some payload

section

variable {renderer : Renderer} {d : Diagnostic} {files : FileStore} {console : Console}

theorem printing_of_ok {text : String}
    (h : render renderer d (console.linesFor files d).lines = .ok text) :
    console.Took text (printing renderer d files console) := by
  show console.Took text (console.deliver _ (render ..))
  rw [h]
  exact ⟨rfl, rfl⟩

theorem printing_of_error {payload : Payload}
    (h : render renderer d (console.linesFor files d).lines = .error payload) :
    console.GaveUp payload (printing renderer d files console) := by
  show console.GaveUp payload (console.deliver _ (render ..))
  rw [h]
  exact ⟨rfl, rfl⟩

/-- Whatever becomes of a diagnostic, its file has been asked for. -/
theorem printing_sources (renderer : Renderer) (d : Diagnostic) (files : FileStore)
    (console : Console) :
    (printing renderer d files console).state.sources = (console.linesFor files d).cache := by
  show (console.deliver _ (render ..)).state.sources = _
  cases render renderer d (console.linesFor files d).lines with
  | ok text => rfl
  | error payload => rfl

end

end Console

end TreeScan

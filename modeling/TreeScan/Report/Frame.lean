import TreeScan.Report.Renderer
import TreeScan.Text.Wrap

/-!
# Framed reports

A framed report shows a problem's code and message and the lines of the source
text around a label.  The message is wrapped, and its line breaks are kept.  The
label is a range of bytes of the text.  One line before it and one line after it
are shown as well.

A label within one line is underlined, and a stroke leads from its middle to
its caption.  A label over several lines gets a gutter beside the text.  The
gutter has an arrow at the first line and at the last, and the caption stands
below the last.

A line break belongs to the line that it ends.  So a label that ends with a line
break stays within its line.  A label at the end of the text is not drawn.

A label is a range of bytes, and it is drawn below the columns that its characters
take.  A tab is drawn as the spaces to the next tab stop.  What stands from an
escape to an `m` gives the text a colour and takes no column.
-/

namespace TreeScan.Frame

/-- A line of a text. -/
structure Line where
  /-- The number of the line, counted from one. -/
  number : Nat
  /-- The offset of its first byte. -/
  offset : Nat
  /-- The number of its bytes, with its line break. -/
  size : Nat
  /-- The line without its line break. -/
  text : List Char
deriving DecidableEq, Repr

/-- The offset after a line. -/
def Line.stop (line : Line) : Nat := line.offset + line.size

/-- The lines of a text, given its pieces between line breaks.  What stands
after the last line break is a line only if it is not empty. -/
def linesFrom (number offset : Nat) : List (List Char) → List Line
  | [] => []
  | [piece] => if piece = [] then [] else [⟨number, offset, Text.byteLength piece, piece⟩]
  | piece :: pieces =>
    ⟨number, offset, Text.byteLength piece + 1, piece⟩ ::
      linesFrom (number + 1) (offset + Text.byteLength piece + 1) pieces

/-- The lines of a text. -/
def lines (text : String) : List Line := linesFrom 1 0 (Text.split '\n' text.toList)

/-! ## The lines that are shown -/

/-- The last byte of a label, or the byte before an empty one. -/
def lastByte (l : Label) : Nat := l.stop - 1

/-- The offset after the text of a line. -/
def Line.textStop (line : Line) : Nat := line.offset + Text.byteLength line.text

/-- Whether the line break of a line comes before a label. -/
def Line.isBefore (line : Line) (l : Label) : Bool := line.textStop < l.start

/-- Whether the line break of a line comes after a label.  It has to come after
the label's last byte. -/
def Line.endsAfter (line : Line) (l : Label) : Bool := l.start < line.stop && lastByte l + 1 < line.stop

/-- The lines up to the second whose line break comes after a label. -/
def upToContext (l : Label) : Nat → List Line → List Line
  | _, [] => []
  | 0, line :: lines =>
    line :: if line.endsAfter l then upToContext l 1 lines else upToContext l 0 lines
  | _ + 1, line :: lines =>
    line :: if line.endsAfter l then [] else upToContext l 1 lines

/-- The lines around a label: one before it, those that it touches, and one
after it. -/
def context (l : Label) (all : List Line) : List Line :=
  let before := all.filter (·.isBefore l)
  upToContext l 0 (all.drop (before.length - 1))

/-! ## How a line and a label meet -/

/-- Whether a label lies within a line. -/
def Line.contains (line : Line) (l : Label) : Bool := line.offset ≤ l.start && l.stop ≤ line.stop

/-- Whether a label starts in a line. -/
def Line.hasStart (line : Line) (l : Label) : Bool :=
  line.offset ≤ l.start && l.start < line.stop

/-- The offset after a label, where an empty label counts as one byte. -/
def drawnStop (l : Label) : Nat := l.start + max l.length 1

/-- Whether a label ends in a line. -/
def Line.hasStop (line : Line) (l : Label) : Bool :=
  line.offset < drawnStop l && drawnStop l ≤ line.stop

/-- Whether a label starts before a line and ends after it. -/
def Line.isInside (line : Line) (l : Label) : Bool :=
  l.start < line.offset && line.stop < drawnStop l

/-- Whether a label and a line have something in common. -/
def Line.meets (line : Line) (l : Label) : Bool :=
  line.hasStart l || line.isInside l || line.hasStop l

/-- Whether a label is drawn beside a line. -/
def Line.besides (line : Line) (l : Label) : Bool :=
  line.meets l && !(line.hasStart l && line.hasStop l)

/-! ## Drawing -/

/-- The same character several times. -/
def times (n : Nat) (c : Char) : List Char := List.replicate n c

/-- The beginning of a row that shows a line, with its number in `width` columns. -/
def numbered (width : Nat) (n : Nat) : List Char :=
  let digits := Nat.toDigits 10 n
  ' ' :: times (width - digits.length) ' ' ++ digits ++ [' ', '│', ' ']

/-- The beginning of a row that shows no line. -/
def unnumbered (width : Nat) : List Char := ' ' :: times width ' ' ++ [' ', '·', ' ']

/-- The gutter beside a line, if the report has one. -/
def gutter (line : Line) (l : Label) : List Char :=
  if line.besides l then
    if line.offset ≤ l.start then ['╭', '─', '▶', ' ']
    else if l.stop ≤ line.stop then ['├', '─', '▶', ' ']
    else ['│', ' ', ' ', ' ']
  else [' ', ' ', ' ', ' ']

/-- The columns between two tab stops. -/
def tabWidth : Nat := 4

/-- The characters of a text from a column on, each with the columns that it
takes.  `colour` says whether the text starts between an escape and its `m`. -/
def drawnFrom (column : Nat) (colour : Bool) : List Char → List (Char × Nat)
  | [] => []
  | c :: cs =>
    if colour then (c, 0) :: drawnFrom column (c ≠ 'm') cs
    else if c = '\x1b' then (c, 0) :: drawnFrom column true cs
    else
      let width := if c = '\t' then tabWidth - column % tabWidth else Text.charColumns c
      (c, width) :: drawnFrom (column + width) false cs

/-- The characters of a line, each with the columns that it takes. -/
def Line.drawn (line : Line) : List (Char × Nat) := drawnFrom 0 false line.text

/-- The text of a line, with spaces for its tabs. -/
def Line.untabbed (line : Line) : List Char :=
  line.drawn.flatMap fun (c, width) => if c = '\t' then times width ' ' else [c]

/-- The columns that the first `bytes` bytes of some characters take.  If they end
inside a character, `round` says whether it counts. -/
def columnsOf (round : Bool) (bytes : Nat) : List (Char × Nat) → Nat
  | [] => 0
  | (c, width) :: cs =>
    if c.utf8Size ≤ bytes then width + columnsOf round (bytes - c.utf8Size) cs
    else if round && 0 < bytes then width else 0

/-- The column of a byte of a line.  Every byte after the text is one column
after it. -/
def column (round : Bool) (line : Line) (offset : Nat) : Nat :=
  columnsOf round (offset - line.offset) line.drawn +
    if line.textStop < offset then 1 else 0

example : Line.untabbed ⟨1, 0, 4, "a\tb".toList⟩ = "a   b".toList := by decide +kernel
example : [0, 1, 4, 5, 6, 7, 8].map (column false ⟨1, 0, 8, "\x1b[1mé\x01\n".toList.dropLast⟩) =
    [0, 0, 0, 0, 1, 1, 2] := by decide +kernel
example : column true ⟨1, 3, 3, "é".toList⟩ 4 = 1 ∧ column false ⟨1, 3, 3, "é".toList⟩ 4 = 0 := by
  decide +kernel

/-- The rows that underline a label within a line, and its caption. -/
def underline (width : Nat) (line : Line) (l : Label) (caption : List Char) : List (List Char) :=
  let first := column false line l.start
  let past := if l.length = 0 then first + 1 else max (column true line l.stop) (first + 1)
  let middle := (first + past) / 2
  let mark := if l.length = 0 then '▲' else '┬'
  [unnumbered width ++ times first ' ' ++ times (middle - first) '─' ++ mark ::
      times (past - middle - 1) '─',
    unnumbered width ++ times middle ' ' ++ ['╰', '─', '─', ' '] ++ caption]

/-- The rows of one line: its text, and a label's mark below it. -/
def rows (width : Nat) (hasGutter : Bool) (l : Label) (caption : List Char) (line : Line) :
    List (List Char) :=
  let text := numbered width line.number ++ (if hasGutter then gutter line l else []) ++
    line.untabbed
  if !line.meets l then [text]
  else if line.contains l then text :: underline width line l caption
  else if l.stop ≤ line.stop && l.start < line.offset then
    [text, unnumbered width ++ ['╰', '─', '─', '─', '─', ' '] ++ caption]
  else [text]

/-- The line and column, both from one, where a label starts. -/
def startOf (text : String) (l : Label) : Nat × Nat :=
  let before := (lines text).filter (·.isBefore l)
  (before.length + 1, l.start - (before.getLast?.map Line.stop).getD 0 + 1)

/-- The frame with the lines around a label. -/
def frame (file text : String) (l : Label) (caption : String) : List (List Char) :=
  let shown := context l (lines text)
  let last := (shown.getLast?.map Line.number).getD 0
  let width := (Nat.toDigits 10 last).length
  let hasGutter := shown.any fun line => !line.contains l && line.besides l
  let (line, column) := startOf text l
  let place := '[' :: file.toList ++ ':' :: Nat.toDigits 10 line ++
    ':' :: Nat.toDigits 10 column ++ [']']
  [times (width + 2) ' ' ++ ['╭', '─'] ++ place] ++
    shown.flatMap (rows width hasGutter l caption.toList) ++
    [times (width + 2) ' ' ++ ['╰', '─', '─', '─', '─']]

/-- The sign of a severity. -/
def sign : Severity → Char
  | .error => '×'
  | .warning => '⚠'

/-- The columns of a line of a message, without its sign or its bar. -/
def messageWidth : Nat := 194

/-- The lines of a message.  The first stands after its sign and the others after
a bar. -/
def message (severity : Severity) (text : String) : List (List Char) :=
  match (Text.split '\n' text.toList).flatMap (Text.wrap messageWidth) with
  | [] => []
  | line :: lines =>
    ([' ', ' ', sign severity, ' '] ++ line) :: lines.map ([' ', ' ', '│', ' '] ++ ·)

/-- The framed report of an exhibit. -/
def report (e : Exhibit) : String :=
  let all := [e.code.toList, []] ++ message e.severity e.message ++
    frame e.file e.source e.label e.caption
  String.ofList (all.flatMap (· ++ ['\n']))

/-- Renders every exhibit as a framed report. -/
def renderer : Renderer := fun e => .text (report e)

end TreeScan.Frame

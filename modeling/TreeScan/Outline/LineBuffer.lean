import TreeScan.Text.Split

/-!
# Line buffers

A line buffer collects indented lines.  A line keeps its index while it is in
the buffer, so text can still be added to it.  The number of lines serves as a
mark: cutting the buffer back to a mark drops every line written after it.
-/

namespace TreeScan

/-- Lines, and the number of spaces by which a level is indented. -/
structure LineBuffer where
  indent : Nat
  lines : List String
deriving DecidableEq, Repr

namespace LineBuffer

/-- An empty buffer. -/
def empty (indent : Nat) : LineBuffer := ⟨indent, []⟩

/-- The number of lines.  It is a mark. -/
def size (b : LineBuffer) : Nat := b.lines.length

/-- A text indented by a number of spaces. -/
def indented (spaces : Nat) (text : String) : String :=
  String.ofList (List.replicate spaces ' ' ++ text.toList)

/-- The buffer with one more line at a level. -/
def push (b : LineBuffer) (level : Nat) (text : String) : LineBuffer :=
  { b with lines := b.lines ++ [indented (level * b.indent) text] }

/-- Writes one more line at a level.  The result is its index, and the buffer with it. -/
def line (b : LineBuffer) (level : Nat) (text : String) : Nat × LineBuffer :=
  let written := b.push level text
  (written.size - 1, written)

/-- The buffer with a text added to the line of some index.  Nothing happens if
there is no such line. -/
def append (b : LineBuffer) (index : Nat) (text : String) : LineBuffer :=
  { b with lines := b.lines.modify index (· ++ text) }

/-- The buffer without the lines after a mark. -/
def truncate (b : LineBuffer) (mark : Nat) : LineBuffer := { b with lines := b.lines.take mark }

/-- The lines with line breaks between them, and one at the end unless there is
nothing else. -/
def text (b : LineBuffer) : String :=
  let joined := Text.joinStrings "\n" b.lines
  if joined = "" then "" else joined ++ "\n"

@[simp] theorem size_push (b : LineBuffer) (level : Nat) (text : String) :
    (b.push level text).size = b.size + 1 := by simp [size, push]

/-- The index of a line that is written is the size of the buffer before. -/
theorem line_eq (b : LineBuffer) (level : Nat) (text : String) :
    b.line level text = (b.size, b.push level text) := by
  rw [line, size_push, Nat.add_sub_cancel]

@[simp] theorem size_append (b : LineBuffer) (index : Nat) (text : String) :
    (b.append index text).size = b.size := by simp [size, append]

@[simp] theorem size_truncate (b : LineBuffer) (mark : Nat) :
    (b.truncate mark).size = min mark b.size := by simp [size, truncate]

theorem getElem?_push_size (b : LineBuffer) (level : Nat) (text : String) :
    (b.push level text).lines[b.size]? = some (indented (level * b.indent) text) :=
  List.getElem?_concat_length

/-- A single empty line has no text. -/
theorem text_of_empty_line {b : LineBuffer} (h : b.lines = [""]) : b.text = "" := by
  rw [text, h, Text.joinStrings_singleton]
  rfl

/-- In the text of any other lines a line break follows each line. -/
theorem text_eq_join {b : LineBuffer} (h : b.lines ≠ [""]) :
    b.text = String.join (b.lines.map (· ++ "\n")) := by
  by_cases hnil : b.lines = []
  · rw [text, hnil]
    rfl
  · have hjoined : Text.joinStrings "\n" b.lines ≠ "" := by
      rw [Ne, Text.joinStrings_eq_empty_iff (by decide), not_or]
      exact ⟨hnil, h⟩
    rw [text, if_neg hjoined, Text.joinStrings_lines hnil]

example : (((empty 4).push 0 "class A").push 1 "method m").text = "class A\n    method m\n" := by
  decide
example : ((((empty 2).push 0 "m \x7b").push 1 "a").truncate 1 |>.append 0 " \x7d").lines
    = ["m \x7b \x7d"] := by decide

end LineBuffer

end TreeScan

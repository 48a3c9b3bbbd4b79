import TreeScan.Outline.LineBuffer

/-!
# Edits of a line buffer

A line buffer is written to, appended to and cut back to marks, in any order.  Two
independent pieces.

*Indices.*  A line keeps its index as long as the buffer is not cut at or below it.  What
becomes of the line in that time is what was appended to its index (`getElem?_editAll`).
An index that was dropped may be handed out again.  Until then it belongs to no line, and
what is appended to it is lost (`size_editAll_le`).

*Text.*  In the text of a buffer a line break follows each line.  There is one exception,
a buffer with a single line that is empty (`text_eq_join_iff`).  Lines without a line
break in them can be read off the text, with the same exception (`splitString_text_iff`).
-/

namespace TreeScan.LineBuffer

/-! ## Edits -/

/-- An operation on a line buffer. -/
inductive Edit where
  | line (level : Nat) (text : String)
  | append (index : Nat) (text : String)
  | truncate (mark : Nat)

/-- The buffer after an edit. -/
def edit (b : LineBuffer) : Edit → LineBuffer
  | .line level text => (b.line level text).2
  | .append index text => b.append index text
  | .truncate mark => b.truncate mark

/-- The buffer after some edits. -/
def editAll (b : LineBuffer) (edits : List Edit) : LineBuffer := edits.foldl edit b

/-- The indices that some edits hand out, oldest first. -/
def handedOut (b : LineBuffer) : List Edit → List Nat
  | [] => []
  | .line level text :: edits =>
    (b.line level text).1 :: (b.line level text).2.handedOut edits
  | .append index text :: edits => (b.append index text).handedOut edits
  | .truncate mark :: edits => (b.truncate mark).handedOut edits

/-- The text that an edit appends to the line of an index. -/
def Edit.textFor (index : Nat) : Edit → String
  | .append i text => if i = index then text else ""
  | _ => ""

/-- The texts that some edits append to the line of an index, one after the other. -/
def appended (index : Nat) (edits : List Edit) : String :=
  String.join (edits.map (Edit.textFor index))

/-- No edit cuts the buffer below a mark. -/
def KeepsBelow (mark : Nat) (edits : List Edit) : Prop :=
  ∀ cut, .truncate cut ∈ edits → mark ≤ cut

variable {b : LineBuffer} {e : Edit} {edits : List Edit} {index mark : Nat} {line : String}

theorem appended_cons :
    appended index (e :: edits) = e.textFor index ++ appended index edits := by
  rw [appended, List.map_cons, String.join_cons]
  rfl

theorem KeepsBelow.mono {mark' : Nat} (hle : mark ≤ mark') (h : KeepsBelow mark' edits) :
    KeepsBelow mark edits :=
  fun cut hcut => Nat.le_trans hle (h cut hcut)

theorem keepsBelow_cons :
    KeepsBelow mark (e :: edits) ↔ (∀ cut, e = .truncate cut → mark ≤ cut) ∧
      KeepsBelow mark edits := by
  constructor
  · intro h
    exact ⟨fun cut he => h cut (he ▸ List.mem_cons_self),
      fun cut hcut => h cut (List.mem_cons_of_mem e hcut)⟩
  · rintro ⟨he, hedits⟩ cut hcut
    rcases List.mem_cons.1 hcut with hcut | hcut
    · exact he cut hcut.symm
    · exact hedits cut hcut

theorem indent_editAll (b : LineBuffer) (edits : List Edit) :
    (b.editAll edits).indent = b.indent := by
  induction edits generalizing b with
  | nil => rfl
  | cons e edits ih =>
      refine (ih (b.edit e)).trans ?_
      cases e <;> rfl

/-! ## Lines at their indices -/

/-- An edit that does not cut at or below a line adds its text for the line to it. -/
theorem getElem?_edit (hline : b.lines[index]? = some line)
    (hkeeps : ∀ cut, e = .truncate cut → index < cut) :
    (b.edit e).lines[index]? = some (line ++ e.textFor index) := by
  cases e with
  | line level text =>
      have hlt : index < b.lines.length := (List.getElem?_eq_some_iff.1 hline).1
      show (b.lines ++ [_])[index]? = some (line ++ "")
      rw [List.getElem?_append_left hlt, hline, String.append_empty]
  | append i text =>
      show (b.lines.modify i (· ++ text))[index]? = some (line ++ if i = index then text else "")
      rw [List.getElem?_modify, hline]
      split
      · rfl
      · rw [String.append_empty]
        rfl
  | truncate cut =>
      show (b.lines.take cut)[index]? = some (line ++ "")
      rw [List.getElem?_take_of_lt (hkeeps cut rfl), hline, String.append_empty]

/-- A line keeps its index, and takes what is appended to it, as long as the buffer is not
cut at or below it. -/
theorem getElem?_editAll (hline : b.lines[index]? = some line)
    (hkeeps : KeepsBelow (index + 1) edits) :
    (b.editAll edits).lines[index]? = some (line ++ appended index edits) := by
  induction edits generalizing b line with
  | nil =>
      rw [appended, List.map_nil, String.join_nil, String.append_empty]
      exact hline
  | cons e edits ih =>
      obtain ⟨he, hedits⟩ := keepsBelow_cons.1 hkeeps
      have hstep : (b.edit e).lines[index]? = some (line ++ e.textFor index) :=
        getElem?_edit hline he
      rw [appended_cons, ← String.append_assoc]
      exact ih hstep hedits

/-- What a cut back to a mark leaves of the lines that stood below it. -/
theorem take_editAll (hkeeps : KeepsBelow b.size edits) :
    (b.editAll edits).lines.take b.size =
      b.lines.mapIdx fun index line => line ++ appended index edits := by
  -- The lists are compared index by index.  Lines written since stand at the mark or above.
  refine List.ext_getElem? fun index => ?_
  rw [List.getElem?_mapIdx]
  by_cases hlt : index < b.size
  · have hline : b.lines[index]? = some b.lines[index] := List.getElem?_eq_getElem hlt
    rw [List.getElem?_take_of_lt hlt, getElem?_editAll hline (hkeeps.mono hlt), hline]
    rfl
  · have hle : b.size ≤ index := Nat.le_of_not_lt hlt
    rw [List.getElem?_take_eq_none hle, List.getElem?_eq_none hle]
    rfl

/-! ## Indices without a line -/

theorem append_of_size_le (h : b.size ≤ index) (text : String) : b.append index text = b := by
  rw [append, List.modify_eq_self h]

/-- An index beyond the lines stays so until it is handed out. -/
theorem size_editAll_le (hsize : b.size ≤ index) (hnot : index ∉ b.handedOut edits) :
    (b.editAll edits).size ≤ index := by
  induction edits generalizing b with
  | nil => exact hsize
  | cons e edits ih =>
      cases e with
      | line level text =>
          -- The buffer grows to the index only where it hands the index out.
          rw [handedOut, line_eq] at hnot
          obtain ⟨hne, hnot⟩ := not_or.1 (mt List.mem_cons.2 hnot)
          have hlt : (b.push level text).size ≤ index := by
            rw [size_push]
            omega
          exact ih hlt hnot
      | append i text => exact ih ((size_append b i text).symm ▸ hsize) hnot
      | truncate mark =>
          have hle : (b.truncate mark).size ≤ b.size := by
            rw [size_truncate]
            exact Nat.min_le_right mark b.size
          exact ih (Nat.le_trans hle hsize) hnot

/-! ## Marks and indices -/

/-- The size of a buffer is a mark, and the index that comes with the next line.

A cut back to the mark leaves the lines that the buffer had, each with what was appended
to its index since, if there was no cut below the mark.

The next line stands at the index that was handed out for it, with what was appended to
the index since, until the buffer is cut at or below it.  Then nothing stands there.

An append to an index without a line does nothing.  An index that was dropped by a cut has
no line until it is handed out again. -/
theorem indices_hold (b : LineBuffer) :
    (∀ edits, KeepsBelow b.size edits →
      (b.editAll edits).truncate b.size =
        { b with lines := b.lines.mapIdx fun index line => line ++ appended index edits }) ∧
    (∀ level text,
      let (index, written) := b.line level text
      index = b.size ∧ ∀ edits, KeepsBelow (index + 1) edits →
        (written.editAll edits).lines[index]? =
            some (indented (level * b.indent) text ++ appended index edits) ∧
          ∀ cut ≤ index, ((written.editAll edits).truncate cut).lines[index]? = none) ∧
    (∀ index text, b.size ≤ index → b.append index text = b) ∧
    (∀ cut index edits text, cut ≤ index → index ∉ (b.truncate cut).handedOut edits →
      ((b.truncate cut).editAll edits).append index text = (b.truncate cut).editAll edits) := by
  refine ⟨fun edits hkeeps => ?_, fun level text => ?_,
    fun index text h => append_of_size_le h text, fun cut index edits text hcut hnot => ?_⟩
  · rw [truncate, take_editAll hkeeps, indent_editAll]
  · rw [line_eq]
    refine ⟨rfl, fun edits hkeeps => ⟨?_, fun cut hcut => List.getElem?_take_eq_none hcut⟩⟩
    exact getElem?_editAll (getElem?_push_size b level text) hkeeps
  · have hdropped : (b.truncate cut).size ≤ index := by
      rw [size_truncate]
      exact Nat.le_trans (Nat.min_le_left cut b.size) hcut
    exact append_of_size_le (size_editAll_le hdropped hnot) text

/-- A buffer with two lines, so that the next index is 2. -/
def twoLines : LineBuffer := ⟨2, ["class A", "method m"]⟩

/-- Edits that drop the line with index 2 and hand out the index again. -/
def rewriting : List Edit :=
  [.append 1 " (", .line 1 "a", .truncate 2, .append 2 "lost", .append 1 ")", .line 1 "b",
    .append 2 ";"]

/-- Edits that keep a line with index 2. -/
def continuing : List Edit := [.append 2 ";", .line 0 "c", .truncate 3]

theorem rewritten_indices_hold :
    (KeepsBelow twoLines.size rewriting ∧
      (twoLines.editAll rewriting).truncate 2 = ⟨2, ["class A", "method m ()"]⟩) ∧
    ((twoLines.line 1 "b").1 = 2 ∧ KeepsBelow 3 continuing ∧
      ((twoLines.line 1 "b").2.editAll continuing).lines[2]? = some "  b;" ∧
      (((twoLines.line 1 "b").2.editAll continuing).truncate 1).lines[2]? = none) ∧
    (twoLines.size ≤ 7 ∧ twoLines.append 7 "lost" = twoLines) ∧
    1 ∉ (twoLines.truncate 0).handedOut [.line 0 "class B"] ∧
      ((twoLines.truncate 0).editAll [.line 0 "class B"]).append 1 "lost" =
        (twoLines.truncate 0).editAll [.line 0 "class B"] := by
  obtain ⟨hmark, hindex, habsent, hdropped⟩ := indices_hold twoLines
  have hrewriting : KeepsBelow twoLines.size rewriting := by
    intro cut hcut
    have hcut : cut = 2 := by simpa [rewriting] using hcut
    exact hcut ▸ Nat.le_refl 2
  have hlater : KeepsBelow 3 continuing := by
    intro cut hcut
    have hcut : cut = 3 := by simpa [continuing] using hcut
    exact hcut ▸ Nat.le_refl 3
  have hnot : 1 ∉ (twoLines.truncate 0).handedOut [.line 0 "class B"] := by decide
  obtain ⟨hat, hstands⟩ := hindex 1 "b"
  obtain ⟨hline, hcut⟩ := hstands continuing hlater
  exact ⟨⟨hrewriting, hmark rewriting hrewriting⟩, ⟨hat, hlater, hline, hcut 1 (by decide)⟩,
    ⟨by decide, habsent 7 "lost" (by decide)⟩, hnot,
    hdropped 0 1 _ "lost" (by decide) hnot⟩

/-! ## Line breaks -/

/-- No line break is in the text of an edit. -/
def Edit.Unbroken : Edit → Prop
  | .line _ text => '\n' ∉ text.toList
  | .append _ text => '\n' ∉ text.toList
  | .truncate _ => True

instance : (e : Edit) → Decidable e.Unbroken
  | .line _ text => inferInstanceAs (Decidable ('\n' ∉ text.toList))
  | .append _ text => inferInstanceAs (Decidable ('\n' ∉ text.toList))
  | .truncate _ => inferInstanceAs (Decidable True)

/-- No line break is in a line of a buffer. -/
def Unbroken (b : LineBuffer) : Prop := ∀ line ∈ b.lines, '\n' ∉ line.toList

theorem not_mem_indented (spaces : Nat) {text : String} (h : '\n' ∉ text.toList) :
    '\n' ∉ (indented spaces text).toList := by
  rw [indented, String.toList_ofList, List.mem_append, not_or]
  refine ⟨fun hspace => ?_, h⟩
  cases List.eq_of_mem_replicate hspace

theorem Unbroken.edit (hb : b.Unbroken) (he : e.Unbroken) : (b.edit e).Unbroken := by
  cases e with
  | line level text =>
      intro line hline
      rcases List.mem_append.1 hline with hline | hline
      · exact hb line hline
      · rw [List.mem_singleton.1 hline]
        exact not_mem_indented _ he
  | append i text =>
      intro line hline
      obtain ⟨index, hindex⟩ := List.mem_iff_getElem?.1 hline
      rw [LineBuffer.edit, append, List.getElem?_modify] at hindex
      obtain ⟨before, hbefore, rfl⟩ := Option.map_eq_some_iff.1 hindex
      have hbefore : '\n' ∉ before.toList := hb before (List.mem_of_getElem? hbefore)
      split
      · rw [String.toList_append, List.mem_append, not_or]
        exact ⟨hbefore, he⟩
      · exact hbefore
  | truncate cut => exact fun line hline => hb line (List.mem_of_mem_take hline)

theorem Unbroken.editAll (hb : b.Unbroken) (hedits : ∀ e ∈ edits, e.Unbroken) :
    (b.editAll edits).Unbroken := by
  induction edits generalizing b with
  | nil => exact hb
  | cons e edits ih =>
      obtain ⟨he, hedits⟩ := List.forall_mem_cons.1 hedits
      exact ih (hb.edit he) hedits

/-! ## The text -/

theorem text_eq_join_iff (b : LineBuffer) :
    b.text = String.join (b.lines.map (· ++ "\n")) ↔ b.lines ≠ [""] := by
  refine ⟨fun htext hlines => ?_, text_eq_join⟩
  rw [text_of_empty_line hlines, hlines] at htext
  exact absurd htext (by decide)

/-- The lines of a buffer are what its text is split into, and after them nothing comes. -/
theorem splitString_text_iff (hb : b.Unbroken) :
    Text.splitString '\n' b.text = b.lines ++ [""] ↔ b.lines ≠ [""] := by
  refine ⟨fun hsplit hlines => ?_, fun hlines => ?_⟩
  · rw [text_of_empty_line hlines, hlines] at hsplit
    exact absurd hsplit (by decide)
  · by_cases hnil : b.lines = []
    · rw [text, hnil]
      decide
    · have htext : b.text = Text.joinStrings (String.singleton '\n') b.lines ++
          String.singleton '\n' ++ "" := by
        rw [text_eq_join hlines, ← Text.joinStrings_lines hnil, String.append_empty]
        rfl
      rw [htext, Text.splitString_append, Text.splitString_joinStrings hnil hb]
      rfl

/-- In the text of a buffer a line break follows each line, whatever was done to the
buffer, unless it has a single line and that is empty.  Then it has no text.  From texts
without a line break come lines that can be read off the text, with the same exception. -/
theorem text_keeps_lines_iff (indent : Nat) (edits : List Edit) :
    let b := (empty indent).editAll edits
    (b.text = String.join (b.lines.map (· ++ "\n")) ↔ b.lines ≠ [""]) ∧
      (b.lines = [""] → b.text = "") ∧
      ((∀ e ∈ edits, e.Unbroken) →
        (Text.splitString '\n' b.text = b.lines ++ [""] ↔ b.lines ≠ [""])) := by
  have hempty : (empty indent).Unbroken := nofun
  exact ⟨text_eq_join_iff _, text_of_empty_line,
    fun hedits => splitString_text_iff (hempty.editAll hedits)⟩

/-- Edits that leave a line between two empty ones. -/
def framing : List Edit :=
  [.line 0 "", .line 1 "a", .line 0 "b", .append 1 ";", .truncate 2, .line 0 ""]

theorem framed_lines_kept :
    ((empty 2).editAll framing).text = "\n  a;\n\n" ∧
      (∀ e ∈ framing, e.Unbroken) ∧
      Text.splitString '\n' ((empty 2).editAll framing).text = ["", "  a;", "", ""] := by
  obtain ⟨htext, -, hsplit⟩ := text_keeps_lines_iff 2 framing
  have hunbroken : ∀ e ∈ framing, e.Unbroken := by decide
  exact ⟨htext.2 (by decide), hunbroken, (hsplit hunbroken).2 (by decide)⟩

/-- A single empty line is lost. -/
theorem empty_line_lost :
    ¬ ∀ (indent : Nat) (edits : List Edit),
      ((empty indent).editAll edits).text =
        String.join (((empty indent).editAll edits).lines.map (· ++ "\n")) :=
  fun h => absurd (h 2 [.line 0 ""]) (by decide)

end TreeScan.LineBuffer

import Mathlib.Data.List.Forall2
import TreeScan.Proofs.Scan.Excerpts
import TreeScan.Proofs.Text.Ends

/-!
# The entries of a stack trace

A stack trace has an entry for each node on the stack.  What an entry says is told here by
what it is about, and not by how it is put together (`Trace.Describes`).

*Text.*  An entry shows what the source of the node begins with on the line where it is
located (`Trace.Begins`).  Where this cannot be told it shows the label.  The text is cut to
a width, and no blank stands before the cut (`Trace.ShownIn`).

*Position.*  The position is told as well as it is known (`Trace.PlacedAt`).

*Offsets.*  To find the text, the position and the cut, offsets are taken from each other
and lines are cut at offsets.  The same entries come out when all offsets are measured from
the beginning of the file and every such step is checked (`Trace.traceFrom_eq`).
-/

namespace TreeScan.Trace

open Text

/-! ## Texts -/

/-- On the line where a span is located its source begins with a text, once the blanks
around it are dropped.  The source goes on if the span ends after the line. -/
def Begins (lines : List String) (span : Span) (text : String) (goesOn : Bool) : Prop :=
  Covers lines span.start ∧ ∃ line slice, Cuts lines span line slice ∧
    (∃ c ∈ slice, isBlank c = false) ∧ text = String.ofList (trim slice) ∧
    (goesOn = true ↔
      lineStart lines (locate lines span.start).line + lineLength line < span.stop)

theorem firstLine?_eq_some_iff {lines : List String} {span : Span} {text : String}
    {goesOn : Bool} :
    firstLine? lines span = some (text, goesOn) ↔ Begins lines span text goesOn := by
  by_cases hlt : span.start < extent lines
  · obtain ⟨before, line, after, column, rfl, hcolumn, hstart⟩ := exists_line_of_lt hlt
    rw [firstLine?_eq_some_iff_cuts hcolumn hstart]
    exact (and_iff_right (covers_iff.2 hlt)).symm
  · rw [firstLine?_of_extent_le (Nat.le_of_not_lt hlt)]
    exact ⟨nofun, fun h => absurd (covers_iff.1 h.1) hlt⟩

/-- The text that stands for a node, and whether its source goes on after that.  Without
lines, or where the source begins with nothing, it is the label. -/
inductive StandsFor (lines : Option (List String)) (n : Node) : String → Bool → Prop where
  | source {found : List String} {text : String} {goesOn : Bool} :
      lines = some found → Begins found n.span text goesOn → StandsFor lines n text goesOn
  | label : (∀ found, lines = some found → ∀ text goesOn, ¬ Begins found n.span text goesOn) →
      StandsFor lines n n.label false

/-- The text of a node before it is cut, and whether the source goes on. -/
def fullText (lines : Option (List String)) (n : Node) : String × Bool :=
  (lines.bind fun lines => firstLine? lines n.span).getD (n.label, false)

theorem fullText_standsFor (lines : Option (List String)) (n : Node) :
    StandsFor lines n (fullText lines n).1 (fullText lines n).2 := by
  cases lines with
  | none => exact .label nofun
  | some lines =>
      show StandsFor _ _ ((firstLine? lines n.span).getD (n.label, false)).1
        ((firstLine? lines n.span).getD (n.label, false)).2
      cases hfirst : firstLine? lines n.span with
      | none =>
          refine .label ?_
          rintro _ ⟨⟩ text goesOn hbegins
          rw [firstLine?_eq_some_iff.2 hbegins] at hfirst
          cases hfirst
      | some found => exact .source rfl (firstLine?_eq_some_iff.1 hfirst)

/-! ## Cutting to a width -/

/-- What is shown of a text in a width. -/
structure ShownIn (width : Nat) (text shown : String) : Prop where
  /-- It is what the text begins with. -/
  begins : ∃ rest, text = shown ++ rest
  fits : shown.length ≤ width
  /-- A text that fits is shown as it is. -/
  whole : text.length ≤ width → shown = text
  /-- Up to the width of a longer text only blanks are missing. -/
  missing : width < text.length → ∃ blanks rest, text = shown ++ blanks ++ rest ∧
    (shown ++ blanks).length = width ∧ ∀ c ∈ blanks.toList, isBlank c = true
  /-- No blank stands before a cut. -/
  last : width < text.length → ∀ c, shown.toList.getLast? = some c → isBlank c = false

theorem shorten_of_le {width : Nat} {text : String} (h : text.length ≤ width) :
    shorten width text = (text, false) := by
  rw [shorten, String.length_toList, if_neg (Nat.not_lt.2 h)]

theorem shorten_of_lt {width : Nat} {text : String} (h : width < text.length) :
    shorten width text = (String.ofList (trimEnd (text.toList.take width)), true) := by
  rw [shorten, String.length_toList, if_pos h]

theorem shorten_snd (width : Nat) (text : String) :
    (shorten width text).2 = decide (width < text.length) := by
  by_cases h : width < text.length
  · rw [shorten_of_lt h, decide_eq_true h]
  · rw [shorten_of_le (Nat.le_of_not_lt h), decide_eq_false h]

theorem shorten_shownIn (width : Nat) (text : String) :
    ShownIn width text (shorten width text).1 := by
  by_cases h : width < text.length
  · obtain ⟨blanks, hdropped, hblank⟩ := exists_dropped isBlank (text.toList.take width)
    have hblanks : trimEnd (text.toList.take width) ++ blanks = text.toList.take width := hdropped
    have htext : text = String.ofList (trimEnd (text.toList.take width)) ++
        String.ofList blanks ++ String.ofList (text.toList.drop width) := by
      rw [← String.toList_inj]
      simp [hblanks]
    have hlength : (String.ofList (trimEnd (text.toList.take width)) ++
        String.ofList blanks).length = width := by
      rw [← String.ofList_append, hblanks, String.length_ofList, List.length_take,
        String.length_toList]
      omega
    have hfits : (String.ofList (trimEnd (text.toList.take width))).length ≤ width := by
      rw [String.length_append] at hlength
      omega
    rw [shorten_of_lt h]
    exact {
      begins := ⟨_, htext.trans (String.append_assoc ..)⟩
      fits := hfits
      whole := fun hle => absurd h (Nat.not_lt.2 hle)
      missing := fun _ => ⟨_, _, htext, hlength, by simpa using hblank⟩
      last := fun _ c hc => by
        have hc : (trimEnd (text.toList.take width)).getLast? = some c := by simpa using hc
        exact getLast?_dropEndWhile hc }
  · have hle := Nat.le_of_not_lt h
    rw [shorten_of_le hle]
    exact {
      begins := ⟨"", (String.append_empty ..).symm⟩
      fits := hle
      whole := fun _ => rfl
      missing := fun hlt => absurd hlt h
      last := fun hlt => absurd hlt h }

/-! ## Entries -/

/-- How a position is told, by the lines of the file if there are any. -/
inductive PlacedAt : Option SourcePosition → Option (List String) → String → Prop where
  | byLine (p : SourcePosition) (lines : List String) (line column : Nat) :
      locate lines p.span.start = ⟨line, column⟩ →
      PlacedAt (some p) (some lines) (p.file ++ ":" ++ toString line ++ ":" ++ toString column)
  | byOffset (p : SourcePosition) :
      PlacedAt (some p) none
        (p.file ++ "@" ++ toString p.span.start ++ ".." ++ toString p.span.stop)
  | unknown (lines : Option (List String)) : PlacedAt none lines "unknown position"

theorem place_placedAt (position : Option SourcePosition) (lines : Option (List String)) :
    PlacedAt position lines (place position lines) := by
  cases position with
  | none => exact .unknown lines
  | some p =>
      cases lines with
      | some lines => exact .byLine p lines _ _ rfl
      | none =>
          have htext : p.text =
              p.file ++ "@" ++ toString p.span.start ++ ".." ++ toString p.span.stop := by
            rw [SourcePosition.text, Span.text, ← String.append_assoc, ← String.append_assoc]
          show PlacedAt (some p) none p.text
          rw [htext]
          exact .byOffset p

/-- What follows a text that is shown. -/
def dots (more : Prop) [Decidable more] : String := if more then "..." else ""

/-- An entry describes a node: its kind, a text that stands for it, cut to a width, and its
position.  There are dots if and only if the text was longer or the source goes on. -/
def Describes (width : Nat) (lines : Option (List String)) (position : Option SourcePosition)
    (n : Node) (entry : String) : Prop :=
  ∃ text goesOn shown at',
    StandsFor lines n text goesOn ∧ ShownIn width text shown ∧ PlacedAt position lines at' ∧
      entry = "   [" ++ n.kind.name ++ "] " ++ shown ++
        dots (width < text.length ∨ goesOn = true) ++ " (" ++ at' ++ ")"

theorem nodeText_eq (width : Nat) (lines : Option (List String)) (n : Node) :
    nodeText width lines n = (shorten width (fullText lines n).1).1 ++
      dots (width < (fullText lines n).1.length ∨ (fullText lines n).2 = true) := by
  show (if (fullText lines n).2 || (shorten width (fullText lines n).1).2 then
    (shorten width (fullText lines n).1).1 ++ "..." else (shorten width (fullText lines n).1).1) = _
  rw [shorten_snd, dots]
  by_cases hmore : width < (fullText lines n).1.length ∨ (fullText lines n).2 = true
  · rw [if_pos hmore, if_pos (by simpa [or_comm] using hmore)]
  · rw [if_neg hmore, if_neg (by simpa [or_comm] using hmore), String.append_empty]

theorem entry_describes (width : Nat) (lines : Option (List String))
    (position : Option SourcePosition) (n : Node) :
    Describes width lines position n (entry width lines position n) := by
  refine ⟨_, _, _, _, fullText_standsFor lines n, shorten_shownIn width _,
    place_placedAt position lines, ?_⟩
  rw [entry, nodeText_eq, ← String.append_assoc]

/-! ## Offsets from the beginning of the file -/

/-- The line and column of an offset, among lines of which the first has a number and begins
at an offset.  All offsets count from the same beginning. -/
def locateIn (begins number : Nat) : List String → Nat → Except Slip (Option LineColumn)
  | [], _ => .ok none
  | line :: lines, offset =>
    let ends := begins + lineLength line
    if offset ≤ ends then do
      let column ← distance begins offset
      return some ⟨number, column + 1⟩
    else locateIn (ends + 1) (number + 1) lines offset

theorem locateIn_eq {begins offset : Nat} (h : begins ≤ offset) (number : Nat)
    (lines : List String) :
    locateIn begins number lines offset =
      .ok (if offset - begins < extent lines then some (locateFrom number lines (offset - begins))
        else none) := by
  induction lines generalizing begins number with
  | nil => rfl
  | cons line lines ih =>
      rw [locateIn, extent_cons]
      by_cases hle : offset ≤ begins + lineLength line
      · have hcolumn : distance begins offset = .ok (offset - begins) := if_pos h
        have hplace : locateFrom number (line :: lines) (offset - begins) =
            ⟨number, offset - begins + 1⟩ := locateFrom_of_le (by omega) number lines
        have hlt : offset - begins < lineLength line + 1 + extent lines := by omega
        simp only [hle, hcolumn, hplace, hlt, if_true, bind, Except.bind, pure, Except.pure]
      · have hrest : offset - begins - (lineLength line + 1) =
            offset - (begins + lineLength line + 1) := by omega
        have hlt : offset - begins < lineLength line + 1 + extent lines ↔
            offset - (begins + lineLength line + 1) < extent lines := by omega
        have hbehind : ¬ offset - begins ≤ lineLength line := by omega
        rw [if_neg hle, ih (by omega)]
        cases lines with
        | nil =>
            rw [if_neg (by simp), if_neg (by rw [hlt]; simp)]
        | cons next lines =>
            simp only [hlt]
            rw [locateFrom_cons (List.cons_ne_nil next lines), if_neg hbehind, hrest]

/-- The line and column of an offset.  One in no line is at the end of the last. -/
def locateFromStart (lines : List String) (offset : Nat) : Except Slip LineColumn := do
  let place ← locateIn 0 1 lines offset
  return place.getD (lastPlace lines)

theorem locateFromStart_eq (lines : List String) (offset : Nat) :
    locateFromStart lines offset = .ok (locate lines offset) := by
  rw [locateFromStart, locateIn_eq (Nat.zero_le offset), Nat.sub_zero]
  by_cases hlt : offset < extent lines
  · rw [if_pos hlt]
    rfl
  · rw [if_neg hlt, locate_of_extent_le (Nat.le_of_not_lt hlt)]
    rfl

/-- The number of bytes before the character with some number. -/
def bytesBefore? : List Char → Nat → Option Nat
  | [], _ => none
  | _ :: _, 0 => some 0
  | c :: cs, k + 1 => (bytesBefore? cs k).map (c.utf8Size + ·)

theorem bytesBefore?_eq (cs : List Char) (k : Nat) :
    bytesBefore? cs k = if k < cs.length then some (byteLength (cs.take k)) else none := by
  induction cs generalizing k with
  | nil => rfl
  | cons c cs ih =>
      cases k with
      | zero => rfl
      | succ k =>
          rw [bytesBefore?, ih, List.length_cons]
          by_cases hlt : k < cs.length
          · rw [if_pos hlt, if_pos (by omega)]
            rfl
          · rw [if_neg hlt, if_neg (by omega)]
            rfl

/-- A text cut to a width at an offset in bytes, which must not be inside a character. -/
def shortenAt (width : Nat) (text : String) : Except Slip (String × Bool) :=
  match bytesBefore? text.toList width with
  | none => .ok (text, false)
  | some stop =>
    match takeBytes? stop text.toList with
    | none => .error .outOfBounds
    | some front => .ok (String.ofList (trimEnd front), true)

theorem shortenAt_eq (width : Nat) (text : String) :
    shortenAt width text = .ok (shorten width text) := by
  have hfront : takeBytes? (byteLength (text.toList.take width)) text.toList =
      some (text.toList.take width) :=
    takeBytes?_eq_some_iff.2 ⟨_, (List.take_append_drop width text.toList).symm, rfl⟩
  rw [shortenAt, bytesBefore?_eq, String.length_toList]
  by_cases h : width < text.length
  · rw [if_pos h, shorten_of_lt h]
    simp only [hfront]
  · rw [if_neg h, shorten_of_le (Nat.le_of_not_lt h)]

/-- The text that stands for a node, with checked offsets. -/
def fullTextFrom (lines : Option (List String)) (n : Node) : Except Slip (String × Bool) := do
  let found ← match lines with
    | some lines => firstLineFrom 0 lines n.span
    | none => .ok none
  return found.getD (n.label, false)

theorem fullTextFrom_eq (lines : Option (List String)) (n : Node) :
    fullTextFrom lines n = .ok (fullText lines n) := by
  cases lines with
  | none => rfl
  | some lines =>
      rw [fullTextFrom, firstLineFrom_eq (Nat.zero_le n.span.start)]
      rfl

/-- The position of a node, with checked offsets. -/
def placeFrom (position : Option SourcePosition) (lines : Option (List String)) :
    Except Slip String :=
  match position, lines with
  | some p, some lines => do
    let place ← locateFromStart lines p.span.start
    return p.file ++ ":" ++ toString place.line ++ ":" ++ toString place.column
  | some p, none => .ok p.text
  | none, _ => .ok "unknown position"

theorem placeFrom_eq (position : Option SourcePosition) (lines : Option (List String)) :
    placeFrom position lines = .ok (place position lines) := by
  cases position with
  | none => rfl
  | some p =>
      cases lines with
      | none => rfl
      | some lines =>
          rw [placeFrom, locateFromStart_eq]
          rfl

/-- The entry of a node, with checked offsets. -/
def entryFrom (width : Nat) (lines : Option (List String)) (position : Option SourcePosition)
    (n : Node) : Except Slip String := do
  let (text, goesOn) ← fullTextFrom lines n
  let (shown, cut) ← shortenAt width text
  let place ← placeFrom position lines
  return "   [" ++ n.kind.name ++ "] " ++ (if goesOn || cut then shown ++ "..." else shown) ++
    " (" ++ place ++ ")"

theorem entryFrom_eq (width : Nat) (lines : Option (List String))
    (position : Option SourcePosition) (n : Node) :
    entryFrom width lines position n = .ok (entry width lines position n) := by
  rw [entryFrom, fullTextFrom_eq, placeFrom_eq]
  simp only [bind, Except.bind, shortenAt_eq]
  rfl

variable {η : Type}

/-- The trace of a stack, with checked offsets. -/
def traceFrom (setup : Setup η) (s : Scanner η) : Except Slip String := do
  let entries ← s.stack.mapM fun n =>
    entryFrom setup.config.dumpTextWidth s.lines.1 (s.position? setup n none) n
  return joinStrings "\n" (heading :: entries)

/-- The entries of a trace, innermost node first. -/
def entries (setup : Setup η) (s : Scanner η) : List String :=
  s.stack.map fun n => entry setup.config.dumpTextWidth s.lines.1 (s.position? setup n none) n

theorem traceFrom_eq (setup : Setup η) (s : Scanner η) :
    traceFrom setup s = .ok (s.trace setup).1 := by
  have hentries : (s.stack.mapM fun n =>
      entryFrom setup.config.dumpTextWidth s.lines.1 (s.position? setup n none) n) =
        (.ok (entries setup s) : Except Slip (List String)) := by
    simp only [entryFrom_eq]
    exact List.mapM_pure
  rw [traceFrom, hentries]
  rfl

/-! ## The trace of a stack -/

theorem stack_lines (s : Scanner η) : s.lines.2.stack = s.stack := by
  unfold Scanner.lines
  cases s.unit <;> rfl

/-- A trace is the heading and one entry for each node on the stack, innermost first, and
each entry describes its node.  The lines are those that the source cache has for the file of
the active unit, and without one there are none.  The positions are those that the position
service knows of in the active unit.  The one that goes by the tree knows all of them.  Every
step from one offset to another succeeds, and the stack stays as it is. -/
theorem trace_describes_stack (setup : Setup η) (s : Scanner η) :
    (∃ entries, (s.trace setup).1 = joinStrings "\n" (heading :: entries) ∧
      List.Forall₂ (fun n entry => Describes setup.config.dumpTextWidth s.lines.1
        (s.unit.bind fun unit => setup.positions unit n none) n entry) s.stack entries) ∧
    (∀ unit, s.unit = some unit →
      s.lines.1 = (s.sources.linesAt s.files unit.path).lines) ∧
    (s.unit = none → s.lines.1 = none) ∧
    (setup.positions = spanPositions → ∀ unit n, setup.positions unit n none =
      some ⟨unit.path, n.span⟩) ∧
    traceFrom setup s = .ok (s.trace setup).1 ∧
    (s.trace setup).2.stack = s.stack := by
  refine ⟨⟨entries setup s, rfl, ?_⟩, ?_, ?_, ?_, traceFrom_eq setup s, stack_lines s⟩
  · rw [entries, List.forall₂_map_right_iff, List.forall₂_same]
    exact fun n _ => entry_describes _ _ _ n
  · intro unit hunit
    unfold Scanner.lines
    rw [hunit]
  · intro hunit
    unfold Scanner.lines
    rw [hunit]
  · intro hpositions unit n
    rw [hpositions]
    rfl

end TreeScan.Trace

import Mathlib.Data.List.TakeWhile
import TreeScan.Proofs.Source.Location
import TreeScan.Scan.Trace

/-!
# The text of a node in a stack trace

A stack trace shows the source of a node on the line where it starts.  The line is looked
for by `Trace.firstLine?`, and not by `locate`, which finds the line and column that are
shown next to it.  They agree: the text is cut out of the line that `locate` finds, from the
column that it finds (`Trace.firstLine_locates`).

The search goes down the lines and measures the span from the beginning of each.  It could
as well measure from the beginning of the first line, and subtract where it cuts
(`Trace.firstLineFrom`).  Then the offset of the line is never larger than that of the span,
and no cut goes beyond the line.
-/

namespace TreeScan

/-- Nothing is left of a text if all of it is blank. -/
theorem Text.trim_eq_nil_iff {cs : List Char} :
    Text.trim cs = [] ↔ ∀ c ∈ cs, Text.isBlank c = true := by
  rw [trim, trimEnd, dropEndWhile, List.reverse_eq_nil_iff, List.dropWhile_eq_nil_iff]
  simp only [List.mem_reverse]
  constructor
  · intro h c hc
    rw [← List.takeWhile_append_dropWhile (p := isBlank) (l := cs), List.mem_append] at hc
    rcases hc with hc | hc
    · exact List.all_eq_true.1 List.all_takeWhile c hc
    · exact h c hc
  · intro h c hc
    exact h c ((List.dropWhile_sublist isBlank).mem hc)

namespace Trace

open Text

/-! ## The line that is found -/

/-- Lines that end before a span starts are passed over. -/
theorem firstLine?_append {before : List String} {span : Span} (h : extent before ≤ span.start)
    (lines : List String) :
    firstLine? (before ++ lines) span =
      firstLine? lines ⟨span.start - extent before, span.stop - extent before⟩ := by
  induction before generalizing span with
  | nil => rfl
  | cons line before ih =>
      rw [extent_cons] at h
      rw [List.cons_append, firstLine?, if_neg (by omega), ih (by show _ ≤ _ - _; omega),
        extent_cons, Nat.sub_sub, Nat.sub_sub]

/-- Nothing is found of a span that starts beyond the lines. -/
theorem firstLine?_of_extent_le {lines : List String} {span : Span}
    (h : extent lines ≤ span.start) : firstLine? lines span = none := by
  rw [← List.append_nil lines, firstLine?_append h, firstLine?]

/-- What is shown of a slice of a line, if there is one and it is not blank. -/
def shown (slice? : Option (List Char)) (goesOn : Bool) : Option (String × Bool) :=
  match slice? with
  | none => none
  | some slice => if trim slice = [] then none else some (String.ofList (trim slice), goesOn)

theorem shown_eq_some_iff {slice? : Option (List Char)} {longer goesOn : Bool} {text : String} :
    shown slice? longer = some (text, goesOn) ↔
      ∃ slice, slice? = some slice ∧ (∃ c ∈ slice, isBlank c = false) ∧
        text = String.ofList (trim slice) ∧ goesOn = longer := by
  have hblank : ∀ slice, trim slice = [] ↔ ¬ ∃ c ∈ slice, isBlank c = false := by
    intro slice
    rw [trim_eq_nil_iff]
    simp
  cases slice? with
  | none => simp [shown]
  | some slice =>
      simp only [shown, hblank, Option.some.injEq]
      constructor
      · intro h
        split at h
        · cases h
        · next hshown =>
            cases h
            exact ⟨slice, rfl, not_not.1 hshown, rfl, rfl⟩
      · rintro ⟨_, rfl, hshown, rfl, rfl⟩
        exact if_neg (not_not.2 hshown)

theorem firstLine?_of_le {line : String} {span : Span} (h : span.start ≤ lineLength line)
    (lines : List String) :
    firstLine? (line :: lines) span =
      shown (byteSlice? line.toList span.start (max (min span.stop (lineLength line)) span.start))
        (lineLength line < span.stop) := by
  rw [firstLine?, if_pos h]
  rfl

theorem byteLength_pos {c : Char} {cs : List Char} (h : c ∈ cs) : 0 < byteLength cs := by
  cases cs with
  | nil => cases h
  | cons d cs => exact Nat.add_pos_left d.utf8Size_pos _

/-- What is found of a span that starts in the first line. -/
theorem firstLine?_cons_eq_some_iff {line : String} {span : Span}
    (h : span.start ≤ lineLength line) (lines : List String) {text : String} {goesOn : Bool} :
    firstLine? (line :: lines) span = some (text, goesOn) ↔
      ∃ slice head tail, line.toList = head ++ slice ++ tail ∧
        byteLength head = span.start ∧
        byteLength (head ++ slice) = min span.stop (lineLength line) ∧
        (∃ c ∈ slice, isBlank c = false) ∧ text = String.ofList (trim slice) ∧
        goesOn = decide (lineLength line < span.stop) := by
  -- A slice with a character in it does not end where it starts.
  have hends : ∀ {head slice : List Char}, byteLength head = span.start →
      (∃ c ∈ slice, isBlank c = false) →
      (byteLength (head ++ slice) = max (min span.stop (lineLength line)) span.start ↔
        byteLength (head ++ slice) = min span.stop (lineLength line)) := by
    rintro head slice hhead ⟨c, hc, -⟩
    have hpos := byteLength_pos hc
    rw [byteLength_append]
    omega
  rw [firstLine?_of_le h, shown_eq_some_iff]
  constructor
  · rintro ⟨slice, hslice, hshown, htext, hgoes⟩
    obtain ⟨head, tail, hline, hhead, hpast⟩ := byteSlice?_eq_some_iff.1 hslice
    exact ⟨slice, head, tail, hline, hhead, (hends hhead hshown).1 hpast, hshown, htext, hgoes⟩
  · rintro ⟨slice, head, tail, hline, hhead, hpast, hshown, htext, hgoes⟩
    exact ⟨slice, byteSlice?_eq_some_iff.2 ⟨head, tail, hline, hhead, (hends hhead hshown).2 hpast⟩,
      hshown, htext, hgoes⟩

/-! ## The line that is located -/

/-- Where a line begins among some lines. -/
def lineStart (lines : List String) (number : Nat) : Nat := extent (lines.take (number - 1))

/-- In the line in which a span is located, the bytes from its column to the end of the span
or of the line, whichever comes first, are a slice. -/
structure Cuts (lines : List String) (span : Span) (line : String) (slice : List Char) :
    Prop where
  line_eq : lines[(locate lines span.start).line - 1]? = some line
  slice_eq : ∃ head tail, line.toList = head ++ slice ++ tail ∧
    byteLength head = (locate lines span.start).column - 1 ∧
    lineStart lines (locate lines span.start).line + byteLength (head ++ slice) =
      min span.stop
        (lineStart lines (locate lines span.start).line + lineLength line)

/-- The lines have a last one, and an offset is not past its end. -/
def Covers (lines : List String) (offset : Nat) : Prop :=
  ∃ before last, lines = before ++ [last] ∧ offset ≤ extent before + lineLength last

theorem covers_iff {lines : List String} {offset : Nat} :
    Covers lines offset ↔ offset < extent lines := by
  constructor
  · rintro ⟨before, last, rfl, h⟩
    rw [extent_append, extent_cons, extent_nil]
    omega
  · intro h
    rcases List.eq_nil_or_concat lines with rfl | ⟨before, last, rfl⟩
    · cases h
    · rw [List.concat_eq_append, extent_append, extent_cons, extent_nil] at h
      exact ⟨before, last, List.concat_eq_append, by omega⟩

/-- A span that starts in a line is located there. -/
theorem locate_start {before after : List String} {line : String} {span : Span} {column : Nat}
    (hcolumn : column ≤ lineLength line) (hstart : span.start = extent before + column) :
    locate (before ++ line :: after) span.start = ⟨before.length + 1, column + 1⟩ := by
  rw [hstart, locate_line before after hcolumn]

theorem lineStart_append (before lines : List String) :
    lineStart (before ++ lines) (before.length + 1) = extent before := by
  rw [lineStart, Nat.add_sub_cancel, List.take_left]

theorem cuts_iff {before after : List String} {line found : String} {span : Span} {column : Nat}
    {slice : List Char} (hcolumn : column ≤ lineLength line)
    (hstart : span.start = extent before + column) :
    Cuts (before ++ line :: after) span found slice ↔
      found = line ∧ ∃ head tail, line.toList = head ++ slice ++ tail ∧
        byteLength head = column ∧
        extent before + byteLength (head ++ slice) =
          min span.stop (extent before + lineLength line) := by
  have hplace : locate (before ++ line :: after) span.start = ⟨before.length + 1, column + 1⟩ :=
    locate_start hcolumn hstart
  have hline : (before ++ line :: after)[before.length]? = some line := by simp
  constructor
  · rintro ⟨hfound, head, tail, hslice⟩
    rw [hplace] at hfound hslice
    obtain rfl : line = found := Option.some.inj (hline.symm.trans hfound)
    rw [lineStart_append] at hslice
    exact ⟨rfl, head, tail, hslice⟩
  · rintro ⟨rfl, head, tail, hslice⟩
    refine ⟨by rw [hplace]; exact hline, head, tail, ?_⟩
    rw [hplace, lineStart_append]
    exact hslice

/-- What is found of a span that starts in a line is cut out where the span is located. -/
theorem firstLine?_eq_some_iff_cuts {before after : List String} {line : String} {span : Span}
    {column : Nat} (hcolumn : column ≤ lineLength line)
    (hstart : span.start = extent before + column) {text : String} {goesOn : Bool} :
    firstLine? (before ++ line :: after) span = some (text, goesOn) ↔
      ∃ found slice, Cuts (before ++ line :: after) span found slice ∧
        (∃ c ∈ slice, isBlank c = false) ∧ text = String.ofList (trim slice) ∧
        (goesOn = true ↔
          lineStart (before ++ line :: after) (locate (before ++ line :: after) span.start).line +
            lineLength found < span.stop) := by
  -- Where the slice is not empty, the span does not end before the line begins.
  have hends : ∀ {head slice : List Char}, byteLength head = column →
      (∃ c ∈ slice, isBlank c = false) →
      (byteLength (head ++ slice) = min (span.stop - extent before) (lineLength line) ↔
        extent before + byteLength (head ++ slice) =
          min span.stop (extent before + lineLength line)) := by
    rintro head slice - ⟨c, hc, -⟩
    have hpos := byteLength_pos hc
    rw [byteLength_append]
    omega
  have hgoes : decide (lineLength line < span.stop - extent before) = true ↔
      extent before + lineLength line < span.stop := by
    rw [decide_eq_true_iff]
    omega
  rw [firstLine?_append (by omega), firstLine?_cons_eq_some_iff (by show _ - _ ≤ _; omega),
    locate_start hcolumn hstart, lineStart_append]
  simp only [cuts_iff hcolumn hstart]
  constructor
  · rintro ⟨slice, head, tail, hline, hhead, hpast, hshown, htext, rfl⟩
    have hhead' : byteLength head = column := by omega
    exact ⟨line, slice, ⟨rfl, head, tail, hline, hhead', (hends hhead' hshown).1 hpast⟩, hshown,
      htext, hgoes⟩
  · rintro ⟨_, slice, ⟨rfl, head, tail, hline, hhead, hpast⟩, hshown, htext, hlonger⟩
    exact ⟨slice, head, tail, hline, by omega, (hends hhead hshown).2 hpast, hshown, htext,
      Bool.eq_iff_iff.2 (hlonger.trans hgoes.symm)⟩

/-! ## Offsets from the first line -/

/-- What can go wrong where an offset is taken from another or a line is cut. -/
inductive Slip where
  /-- The larger offset was to be taken from the smaller. -/
  | underflow
  /-- A line was to be cut behind its end, or from a later offset to an earlier one. -/
  | outOfBounds
deriving DecidableEq, Repr

/-- The distance from one offset up to another. -/
def distance (first past : Nat) : Except Slip Nat :=
  if first ≤ past then .ok (past - first) else .error .underflow

/-- The bytes of a line between two offsets, if these do not cut a character. -/
def cut (line : String) (first past : Nat) : Except Slip (Option (List Char)) :=
  if first ≤ past ∧ past ≤ lineLength line then .ok (byteSlice? line.toList first past)
  else .error .outOfBounds

/-- The source of a span on the line where it starts, among lines of which the first begins
at an offset.  All offsets count from the same beginning. -/
def firstLineFrom (begins : Nat) : List String → Span → Except Slip (Option (String × Bool))
  | [], _ => .ok none
  | line :: lines, span =>
    let ends := begins + lineLength line
    if span.start ≤ ends then do
      let first ← distance begins span.start
      let past := min span.stop ends - begins
      let slice? ← cut line first (max past first)
      return shown slice? (ends < span.stop)
    else firstLineFrom (ends + 1) lines span

/-- It makes no difference where offsets are measured from, and nothing goes wrong. -/
theorem firstLineFrom_eq {begins : Nat} {span : Span} (h : begins ≤ span.start)
    (lines : List String) :
    firstLineFrom begins lines span =
      .ok (firstLine? lines ⟨span.start - begins, span.stop - begins⟩) := by
  induction lines generalizing begins with
  | nil => rfl
  | cons line lines ih =>
      rw [firstLineFrom]
      by_cases hle : span.start ≤ begins + lineLength line
      · have hpast : min span.stop (begins + lineLength line) - begins =
            min (span.stop - begins) (lineLength line) := by omega
        have hgoes : begins + lineLength line < span.stop ↔
            lineLength line < span.stop - begins := by omega
        have hin : max (min (span.stop - begins) (lineLength line)) (span.start - begins) ≤
            lineLength line := by omega
        have hfirst : distance begins span.start = .ok (span.start - begins) := if_pos h
        have hcut : cut line (span.start - begins)
              (max (min (span.stop - begins) (lineLength line)) (span.start - begins)) =
            .ok (byteSlice? line.toList (span.start - begins)
              (max (min (span.stop - begins) (lineLength line)) (span.start - begins))) :=
          if_pos ⟨Nat.le_max_right _ _, hin⟩
        rw [firstLine?_of_le (by show _ - _ ≤ _; omega)]
        simp only [hle, if_true, hpast, hgoes, hfirst, hcut, bind, Except.bind, pure,
          Except.pure]
      · rw [if_neg hle, ih (by omega), firstLine?, if_neg (by show ¬ _ - _ ≤ _; omega)]
        simp only [Nat.sub_sub, Nat.add_assoc]

/-! ## What a trace shows of a node -/

/-- Something is found of a span if and only if it starts no later than the last line ends
and its part of the line where it is located is a slice that is not all blank.  What is found
is that slice without the blanks around it, and whether the span ends after the line.
Nothing goes wrong where offsets are taken from each other and where the line is cut. -/
theorem firstLine_locates (lines : List String) (span : Span) :
    (∀ text goesOn, firstLine? lines span = some (text, goesOn) ↔
      Covers lines span.start ∧ ∃ line slice, Cuts lines span line slice ∧
        (∃ c ∈ slice, isBlank c = false) ∧ text = String.ofList (trim slice) ∧
        (goesOn = true ↔
          lineStart lines (locate lines span.start).line + lineLength line < span.stop)) ∧
    firstLineFrom 0 lines span = .ok (firstLine? lines span) := by
  refine ⟨fun text goesOn => ?_, firstLineFrom_eq (Nat.zero_le _) lines⟩
  by_cases hlt : span.start < extent lines
  · obtain ⟨before, line, after, column, rfl, hcolumn, hstart⟩ := exists_line_of_lt hlt
    rw [firstLine?_eq_some_iff_cuts hcolumn hstart]
    exact (and_iff_right (covers_iff.2 hlt)).symm
  · rw [firstLine?_of_extent_le (Nat.le_of_not_lt hlt)]
    constructor
    · intro h
      cases h
    · rintro ⟨h, -⟩
      exact absurd (covers_iff.1 h) hlt

end Trace

end TreeScan

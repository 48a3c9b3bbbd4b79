import Mathlib.Data.List.DropRight
import TreeScan.Proofs.Text.ByteOrder
import TreeScan.Source.Cache
import TreeScan.Source.Position

/-!
# Lines and columns

Two independent pieces.

*Offsets among lines.*  Lines that follow each other, each with a line break, have an
`extent` in bytes.  An offset within it stands in one of the lines, and the lines before
that one and a column in it give the offset back (`exists_line_of_lt`).  `locate` finds
that line and column (`locate_line`).  Beyond the extent it answers with the end of the
last line (`locate_of_extent_le`).  Nothing here depends on where the lines come from.

*Lines of a text.*  The bytes of the source lines of a text, each with a line break, are
the bytes of the text, with a line break at the end if there was none (`broken_sourceLines`).
So the line breaks before an offset count the lines before it, and what follows the last of
them is the column (`locate_sourceLines`).
-/

namespace TreeScan

/-! ## Offsets among lines -/

/-- The number of bytes of some lines, each with its line break. -/
def extent : List String → Nat
  | [] => 0
  | line :: lines => lineLength line + 1 + extent lines

@[simp] theorem extent_nil : extent [] = 0 := rfl

@[simp] theorem extent_cons (line : String) (lines : List String) :
    extent (line :: lines) = lineLength line + 1 + extent lines := rfl

@[simp] theorem extent_append (lines lines' : List String) :
    extent (lines ++ lines') = extent lines + extent lines' := by
  induction lines with
  | nil => rw [List.nil_append, extent_nil, Nat.zero_add]
  | cons line lines ih => rw [List.cons_append, extent_cons, extent_cons, ih, Nat.add_assoc _ (extent lines)]

/-- An offset among lines stands in one of them, or at the line break that ends it. -/
theorem exists_line_of_lt {lines : List String} {offset : Nat} (h : offset < extent lines) :
    ∃ before line after column, lines = before ++ line :: after ∧
      column ≤ lineLength line ∧ offset = extent before + column := by
  induction lines generalizing offset with
  | nil => cases h
  | cons line lines ih =>
      rw [extent_cons] at h
      by_cases hle : offset ≤ lineLength line
      · exact ⟨[], line, lines, offset, rfl, hle, (Nat.zero_add offset).symm⟩
      · have hrest : offset - (lineLength line + 1) < extent lines := by omega
        obtain ⟨before, found, after, column, rfl, hcolumn, hoffset⟩ := ih hrest
        refine ⟨line :: before, found, after, column, rfl, hcolumn, ?_⟩
        rw [extent_cons]
        omega

theorem locateFrom_cons {lines : List String} (hne : lines ≠ []) (number : Nat) (line : String)
    (offset : Nat) :
    locateFrom number (line :: lines) offset =
      if offset ≤ lineLength line then ⟨number, offset + 1⟩
      else locateFrom (number + 1) lines (offset - (lineLength line + 1)) := by
  cases lines with
  | nil => exact absurd rfl hne
  | cons next lines => rfl

theorem locateFrom_of_le {offset : Nat} {line : String} (h : offset ≤ lineLength line)
    (number : Nat) (lines : List String) :
    locateFrom number (line :: lines) offset = ⟨number, offset + 1⟩ := by
  cases lines with
  | nil => rw [locateFrom, Nat.min_eq_left h]
  | cons next lines => rw [locateFrom_cons (List.cons_ne_nil next lines), if_pos h]

theorem locateFrom_append {lines : List String} (hne : lines ≠ []) (number : Nat)
    (before : List String) (offset : Nat) :
    locateFrom number (before ++ lines) (extent before + offset) =
      locateFrom (number + before.length) lines offset := by
  induction before generalizing number with
  | nil => rw [List.nil_append, extent_nil, Nat.zero_add, List.length_nil, Nat.add_zero]
  | cons line before ih =>
      rw [List.cons_append, locateFrom_cons (List.append_ne_nil_of_right_ne_nil before hne),
        extent_cons, if_neg (by omega), Nat.add_assoc, Nat.add_sub_cancel_left, ih,
        List.length_cons, Nat.add_assoc, Nat.add_comm 1]

/-- An offset is found in the line in which it stands. -/
theorem locate_line (before : List String) {line : String} (after : List String) {column : Nat}
    (h : column ≤ lineLength line) :
    locate (before ++ line :: after) (extent before + column) =
      ⟨before.length + 1, column + 1⟩ := by
  rw [locate, locateFrom_append (List.cons_ne_nil line after), locateFrom_of_le h,
    Nat.add_comm 1]

/-- The end of the last line, or the beginning of everything if there is no line. -/
def lastPlace (lines : List String) : LineColumn :=
  match lines.getLast? with
  | some last => ⟨lines.length, lineLength last + 1⟩
  | none => ⟨1, 1⟩

/-- An offset beyond the lines is found at the end of the last one. -/
theorem locate_of_extent_le {lines : List String} {offset : Nat} (h : extent lines ≤ offset) :
    locate lines offset = lastPlace lines := by
  rcases List.eq_nil_or_concat lines with rfl | ⟨before, last, rfl⟩
  · rfl
  · rw [List.concat_eq_append, extent_append, extent_cons, extent_nil] at h
    obtain ⟨offset, rfl⟩ : ∃ k, offset = extent before + k :=
      ⟨offset - extent before, by omega⟩
    rw [List.concat_eq_append, lastPlace, locate,
      locateFrom_append (List.cons_ne_nil last []), locateFrom, Nat.min_eq_right (by omega),
      List.getLast?_concat, List.length_append, List.length_singleton, Nat.add_comm 1]

/-! ## The order of positions -/

/-- Positions are ordered by their lines first. -/
instance : LE LineColumn :=
  ⟨fun p q => p.line < q.line ∨ p.line = q.line ∧ p.column ≤ q.column⟩

theorem le_line_locateFrom (number : Nat) (lines : List String) (offset : Nat) :
    number ≤ (locateFrom number lines offset).line := by
  fun_induction locateFrom number lines offset with
  | case1 => exact Nat.le_refl _
  | case2 => exact Nat.le_refl _
  | case3 => exact Nat.le_refl _
  | case4 number line lines offset hne hlt ih => exact Nat.le_of_succ_le ih

theorem locateFrom_mono (number : Nat) (lines : List String) {offset offset' : Nat}
    (h : offset ≤ offset') :
    locateFrom number lines offset ≤ locateFrom number lines offset' := by
  fun_induction locateFrom number lines offset generalizing offset' with
  | case1 number offset => exact .inr ⟨rfl, Nat.le_refl _⟩
  | case2 number line offset =>
      refine .inr ⟨rfl, ?_⟩
      show min offset (lineLength line) + 1 ≤ min offset' (lineLength line) + 1
      omega
  | case3 number line lines offset hne hle =>
      rw [locateFrom_cons hne]
      split
      · exact .inr ⟨rfl, Nat.succ_le_succ h⟩
      · exact .inl (le_line_locateFrom (number + 1) _ _)
  | case4 number line lines offset hne hlt ih =>
      rw [locateFrom_cons hne, if_neg (by omega)]
      exact ih (by omega)

/-- A larger offset is not found earlier. -/
theorem locate_mono (lines : List String) {offset offset' : Nat} (h : offset ≤ offset') :
    locate lines offset ≤ locate lines offset' := locateFrom_mono 1 lines h

/-! ## The bytes of lines -/

namespace Text

/-- The byte of a line break. -/
def lineBreak : UInt8 := 10

theorem le_toNat_of_mem_continuation {k code : Nat} {b : UInt8} (h : b ∈ continuation k code) :
    0x80 ≤ b.toNat := by
  induction k with
  | zero => cases h
  | succ k ih =>
      rw [continuation, List.mem_cons] at h
      rcases h with rfl | h
      · rw [UInt8.toNat_ofNat']
        omega
      · exact ih h

/-- Only a line break has the byte of a line break in its form. -/
theorem lineBreak_mem_encode {c : Char} :
    lineBreak ∈ String.utf8EncodeChar c ↔ c = '\n' := by
  constructor
  · intro h
    rw [encode_eq, List.mem_cons] at h
    rcases h with h | h
    · -- The leading byte is the code itself, or it is larger than all single bytes.
      have hbyte : 10 = leading c.val.toNat % 256 := by
        simpa [lineBreak] using congrArg UInt8.toNat h
      rw [Nat.mod_eq_of_lt (leading_lt (code_lt c))] at hbyte
      have hcode : c.val.toNat = 10 := by
        unfold leading continued at hbyte
        generalize c.val.toNat = code at hbyte ⊢
        split_ifs at hbyte <;> simp only [mark] at hbyte <;> omega
      exact Char.ext (UInt32.toNat_inj.1 hcode)
    · have hbyte := le_toNat_of_mem_continuation h
      simp [lineBreak] at hbyte
  · rintro rfl
    decide

theorem lineBreak_mem_bytes {line : String} : lineBreak ∈ bytes line ↔ '\n' ∈ line.toList := by
  simp [bytes_eq, lineBreak_mem_encode]

theorem length_bytes (line : String) : (bytes line).length = lineLength line := by
  rw [bytes_eq, lineLength]
  induction line.toList with
  | nil => rfl
  | cons c cs ih => rw [List.flatMap_cons, List.length_append, ih, String.length_utf8EncodeChar,
      byteLength]

theorem bytes_append (s t : String) : bytes (s ++ t) = bytes s ++ bytes t := by
  simp [bytes_eq]

theorem encode_lineBreak : String.utf8EncodeChar '\n' = [lineBreak] := by decide

/-- A text ends with a line break if its last byte is that of one. -/
theorem getLast?_bytes_eq_lineBreak {text : String} :
    (bytes text).getLast? = some lineBreak ↔ text.toList.getLast? = some '\n' := by
  rw [bytes_eq]
  rcases List.eq_nil_or_concat text.toList with h | ⟨cs, c, h⟩
  · simp [h]
  · rw [h, List.concat_eq_append, List.flatMap_append, List.flatMap_singleton,
      List.getLast?_concat, Option.some_inj]
    constructor
    · intro hlast
      rw [List.getLast?_append_of_ne_nil _ (by simp [encode_eq])] at hlast
      exact lineBreak_mem_encode.1 (List.mem_of_getLast? hlast)
    · rintro rfl
      rw [encode_lineBreak, List.getLast?_concat]

/-- The bytes of some lines, each with a line break. -/
def broken (lines : List String) : List UInt8 :=
  lines.flatMap fun line => bytes line ++ [lineBreak]

@[simp] theorem broken_append (lines lines' : List String) :
    broken (lines ++ lines') = broken lines ++ broken lines' := List.flatMap_append

theorem broken_cons (line : String) (lines : List String) :
    broken (line :: lines) = bytes line ++ lineBreak :: broken lines := by
  simp [broken]

theorem length_broken (lines : List String) : (broken lines).length = extent lines := by
  induction lines with
  | nil => rfl
  | cons line lines ih =>
      rw [broken_cons, List.length_append, List.length_cons, length_bytes, ih, extent_cons]
      omega

theorem broken_eq_bytes (lines : List String) :
    broken lines = bytes (String.join (lines.map (· ++ "\n"))) := by
  induction lines with
  | nil => rfl
  | cons line lines ih =>
      rw [List.map_cons, String.join_cons, bytes_append, bytes_append, ← ih, broken_cons,
        List.append_assoc]
      rfl

/-- In lines that have no line break in them there is one for each. -/
theorem count_broken {lines : List String} (h : ∀ line ∈ lines, '\n' ∉ line.toList) :
    (broken lines).count lineBreak = lines.length := by
  induction lines with
  | nil => rfl
  | cons line lines ih =>
      have hline : lineBreak ∉ bytes line := fun hmem =>
        h line List.mem_cons_self (lineBreak_mem_bytes.1 hmem)
      rw [broken_cons, List.count_append, List.count_eq_zero_of_not_mem hline,
        List.count_cons_self, ih fun l hl => h l (List.mem_cons_of_mem line hl), Nat.zero_add,
        List.length_cons]

/-- What follows the line break of the last of some lines. -/
theorem rtakeWhile_broken (lines : List String) {bs : List UInt8} (h : lineBreak ∉ bs) :
    (broken lines ++ bs).rtakeWhile (· ≠ lineBreak) = bs := by
  induction bs using List.reverseRecOn with
  | nil =>
      rcases List.eq_nil_or_concat lines with rfl | ⟨before, last, rfl⟩
      · rfl
      · simp [broken]
  | append_singleton bs b ih =>
      have hbs : lineBreak ∉ bs := fun hmem => h (List.mem_append_left [b] hmem)
      have hb : b ≠ lineBreak := fun heq => h (by simp [heq])
      rw [← List.append_assoc, List.rtakeWhile_concat, if_pos (by simpa using hb), ih hbs]

end Text

/-! ## The lines of a text -/

open Text

theorem splitString_ne_nil (text : String) : splitString '\n' text ≠ [] := by
  simpa [splitString] using split_ne_nil '\n' text.toList

/-- The pieces of a text between its line breaks, each with a line break, are the text with
one line break more. -/
theorem broken_splitString (text : String) :
    broken (splitString '\n' text) = bytes text ++ [lineBreak] := by
  have hjoin : joinStrings "\n" (splitString '\n' text) = text :=
    joinStrings_splitString '\n' text
  rw [broken_eq_bytes, ← joinStrings_lines (splitString_ne_nil text), hjoin, bytes_append]
  rfl

theorem sourceLines_eq (text : String) :
    sourceLines text =
      if (splitString '\n' text).getLast? = some "" then (splitString '\n' text).dropLast
      else splitString '\n' text := rfl

theorem not_mem_of_mem_sourceLines {text line : String} (h : line ∈ sourceLines text) :
    '\n' ∉ line.toList := by
  have hpiece : line ∈ splitString '\n' text := by
    rw [sourceLines_eq] at h
    split at h
    · exact (List.dropLast_sublist _).mem h
    · exact h
  obtain ⟨piece, hmem, rfl⟩ := List.mem_map.1 hpiece
  rw [String.toList_ofList]
  exact not_mem_of_mem_split hmem

/-- The last piece of a text is empty if the text is, or if it ends with a line break. -/
theorem getLast?_splitString_eq_empty {text : String} :
    (splitString '\n' text).getLast? = some "" ↔
      bytes text = [] ∨ (bytes text).getLast? = some lineBreak := by
  obtain ⟨before, piece, hlast, htext, hpiece, hbefore⟩ := getLast?_split '\n' text.toList
  have hempty : bytes text = [] ↔ text.toList = [] := by
    rw [bytes_eq]
    constructor
    · intro h
      cases hcs : text.toList with
      | nil => rfl
      | cons c cs => simp [hcs, encode_eq] at h
    · intro h
      rw [h, List.flatMap_nil]
  rw [splitString, List.getLast?_map, hlast, getLast?_bytes_eq_lineBreak, hempty, htext,
    Option.map_some, Option.some_inj]
  constructor
  · intro h
    have hnil : piece = [] := by simpa using congrArg String.toList h
    subst hnil
    rw [List.append_nil]
    rcases hbefore with rfl | hbefore
    · exact .inl rfl
    · exact .inr hbefore
  · rintro (h | h)
    · rw [(List.append_eq_nil_iff.1 h).2]
    · rcases List.eq_nil_or_concat piece with rfl | ⟨cs, c, rfl⟩
      · rfl
      · -- A piece that is not empty does not end with a separator.
        rw [List.concat_eq_append, ← List.append_assoc, List.getLast?_concat,
          Option.some_inj] at h
        exact absurd (by simp [h]) hpiece

/-- The bytes of the source lines are those of the text, with a line break at the end. -/
theorem broken_sourceLines (text : String) :
    broken (sourceLines text) =
      if bytes text = [] ∨ (bytes text).getLast? = some lineBreak then bytes text
      else bytes text ++ [lineBreak] := by
  have hall := broken_splitString text
  rw [sourceLines_eq]
  by_cases h : (splitString '\n' text).getLast? = some ""
  · rw [if_pos h, if_pos (getLast?_splitString_eq_empty.1 h)]
    rw [← List.dropLast_append_getLast? "" h, broken_append] at hall
    exact List.append_cancel_right hall
  · rw [if_neg h, if_neg (mt getLast?_splitString_eq_empty.2 h), hall]

/-- An offset in a text: before its end, or at its end if no line break ends it. -/
def InText (text : String) (offset : Nat) : Prop :=
  offset < (bytes text).length ∨
    offset = (bytes text).length ∧ (bytes text).getLast? ≠ some lineBreak

theorem lt_extent_of_inText {text : String} {offset : Nat} (h : InText text offset)
    (hne : bytes text ≠ []) : offset < extent (sourceLines text) := by
  rw [← length_broken, broken_sourceLines]
  unfold InText at h
  split_ifs with hc
  · grind
  · rw [List.length_append, List.length_singleton]
    omega

theorem extent_le_of_not_inText {text : String} {offset : Nat} (h : ¬ InText text offset) :
    extent (sourceLines text) ≤ offset := by
  rw [← length_broken, broken_sourceLines]
  unfold InText at h
  split_ifs with hc
  · omega
  · rw [List.length_append, List.length_singleton]
    grind

/-- Up to an offset in it, a text is as its lines are. -/
theorem take_bytes {text : String} {offset : Nat} (h : InText text offset) :
    (bytes text).take offset = (broken (sourceLines text)).take offset := by
  have hle : offset ≤ (bytes text).length := by
    rcases h with h | ⟨h, _⟩
    · exact Nat.le_of_lt h
    · exact Nat.le_of_eq h
  rw [broken_sourceLines]
  split
  · rfl
  · rw [List.take_append_of_le_length hle]

/-- Up to a place in one of its lines, a text is the lines before that one and a part of it. -/
theorem take_broken (before : List String) {line : String} (after : List String) {column : Nat}
    (h : column ≤ lineLength line) :
    (broken (before ++ line :: after)).take (extent before + column) =
      broken before ++ (bytes line).take column := by
  rw [broken_append, ← length_broken, List.take_length_add_append, broken_cons,
    List.take_append_of_le_length (by rwa [length_bytes])]

/-- An offset in a text stands in one of its lines.  There are as many line breaks before it
as lines, and as many bytes after the last of these as columns. -/
theorem exists_line_of_inText {text : String} {offset : Nat} (h : InText text offset)
    (hne : bytes text ≠ []) :
    ∃ before line after column, sourceLines text = before ++ line :: after ∧
      column ≤ lineLength line ∧ offset = extent before + column ∧
      ((bytes text).take offset).count lineBreak = before.length ∧
      (((bytes text).take offset).rtakeWhile (· ≠ lineBreak)).length = column := by
  obtain ⟨before, line, after, column, hlines, hcolumn, rfl⟩ :=
    exists_line_of_lt (lt_extent_of_inText h hne)
  have hunbroken : ∀ l ∈ before ++ line :: after, '\n' ∉ l.toList := fun l hl =>
    not_mem_of_mem_sourceLines (hlines ▸ hl)
  have hbefore : ∀ l ∈ before, '\n' ∉ l.toList := fun l hl =>
    hunbroken l (List.mem_append_left _ hl)
  have hline : lineBreak ∉ (bytes line).take column := fun hmem =>
    hunbroken line (by simp) (lineBreak_mem_bytes.1 (List.mem_of_mem_take hmem))
  have htake : (bytes text).take (extent before + column) =
      broken before ++ (bytes line).take column := by
    rw [take_bytes h, hlines, take_broken before after hcolumn]
  refine ⟨before, line, after, column, hlines, hcolumn, rfl, ?_, ?_⟩
  · rw [htake, List.count_append, count_broken hbefore, List.count_eq_zero_of_not_mem hline,
      Nat.add_zero]
  · rw [htake, rtakeWhile_broken before hline,
      List.length_take_of_le (by rwa [length_bytes])]

theorem sourceLines_of_bytes_eq_nil {text : String} (h : bytes text = []) :
    sourceLines text = [] := by
  have hbroken : (broken (sourceLines text)).length = 0 := by
    rw [broken_sourceLines, if_pos (.inl h), h]
    rfl
  cases hs : sourceLines text with
  | nil => rfl
  | cons line lines => simp [hs, broken_cons] at hbroken

/-- The line breaks before an offset in a text count the lines before it, and the bytes
after the last of them are the column.  The lengths of the lines before it and the column
give the offset back.  Any larger offset is found at the end of the last line, and at the
beginning if the text is empty.  So a larger offset is never found earlier. -/
theorem locate_sourceLines (text : String) :
    (∀ offset, InText text offset →
      locate (sourceLines text) offset =
        ⟨1 + ((bytes text).take offset).count lineBreak,
          1 + (((bytes text).take offset).rtakeWhile (· ≠ lineBreak)).length⟩ ∧
      offset = extent ((sourceLines text).take ((locate (sourceLines text) offset).line - 1)) +
        ((locate (sourceLines text) offset).column - 1)) ∧
    (∀ offset, ¬ InText text offset →
      locate (sourceLines text) offset = lastPlace (sourceLines text)) ∧
    ∀ offset offset', offset ≤ offset' →
      locate (sourceLines text) offset ≤ locate (sourceLines text) offset' := by
  refine ⟨fun offset h => ?_, fun offset h => ?_, fun offset offset' h => locate_mono _ h⟩
  · by_cases hempty : bytes text = []
    · have hzero : offset = 0 := by simpa [InText, hempty] using h
      rw [sourceLines_of_bytes_eq_nil hempty, hempty, hzero]
      exact ⟨rfl, rfl⟩
    · obtain ⟨before, line, after, column, hlines, hcolumn, hoffset, hcount, hrest⟩ :=
        exists_line_of_inText h hempty
      have hplace : locate (sourceLines text) offset = ⟨before.length + 1, column + 1⟩ := by
        rw [hlines, hoffset, locate_line before after hcolumn]
      rw [hplace, hcount, hrest, Nat.add_comm 1, Nat.add_comm 1]
      refine ⟨rfl, ?_⟩
      rw [Nat.add_sub_cancel, Nat.add_sub_cancel, hlines, List.take_left, hoffset]
  · exact locate_of_extent_le (extent_le_of_not_inText h)

end TreeScan

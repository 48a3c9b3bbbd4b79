/-!
# Splitting at a separator and joining with one

`split` cuts a text at every occurrence of one character.  The pieces are what
stands between the separators, so a text without separators is one piece and
the empty text is one empty piece.  `join` is its inverse: it writes the pieces
with the separator between them.

Main statements: `join_split` gives the text back, and `split_join` gives pieces back in
which the separator does not occur.  No piece of a text has the separator in it
(`not_mem_of_mem_split`), and the last piece is what comes after the last separator
(`getLast?_split`).
-/

namespace TreeScan.Text

/-- The pieces of a text between the occurrences of `sep`.  There is always one. -/
def split (sep : Char) : List Char → List (List Char)
  | [] => [[]]
  | c :: cs =>
    if c = sep then [] :: split sep cs
    else
      match split sep cs with
      | [] => [[c]]
      | piece :: pieces => (c :: piece) :: pieces

/-- The pieces one after the other, with `sep` between two of them. -/
def join (sep : List Char) : List (List Char) → List Char
  | [] => []
  | [piece] => piece
  | piece :: pieces => piece ++ sep ++ join sep pieces

theorem split_eq_splitOn (sep : Char) (cs : List Char) : split sep cs = cs.splitOn sep := by
  induction cs with
  | nil => rfl
  | cons c cs ih =>
    rw [split, List.splitOn_cons_eq_if_modifyHead, ih]
    by_cases hc : c = sep
    · rw [if_pos hc, if_pos (beq_iff_eq.2 hc)]
    · rw [if_neg hc, if_neg (mt beq_iff_eq.1 hc)]
      cases hs : cs.splitOn sep with
      | nil => exact absurd hs (List.splitOnP_ne_nil _ cs)
      | cons piece pieces => rfl

theorem join_eq_intercalate (sep : List Char) (pieces : List (List Char)) :
    join sep pieces = sep.intercalate pieces := by
  induction pieces with
  | nil => rw [join, List.intercalate_nil]
  | cons piece pieces ih =>
    cases pieces with
    | nil => rw [join, List.intercalate_singleton]
    | cons next pieces =>
      rw [List.intercalate_cons_cons, ← ih]
      rfl

theorem split_ne_nil (sep : Char) (cs : List Char) : split sep cs ≠ [] := by
  rw [split_eq_splitOn]
  exact List.splitOnP_ne_nil _ cs

theorem join_split (sep : Char) (cs : List Char) : join [sep] (split sep cs) = cs := by
  rw [split_eq_splitOn, join_eq_intercalate, List.intercalate_splitOn]

/-- Pieces without the separator, if there are any, are what their text is split into. -/
theorem split_join {sep : Char} {pieces : List (List Char)} (hne : pieces ≠ [])
    (h : ∀ piece ∈ pieces, sep ∉ piece) : split sep (join [sep] pieces) = pieces := by
  rw [split_eq_splitOn, join_eq_intercalate, List.splitOn_intercalate sep h hne]

theorem split_of_not_mem {sep : Char} {cs : List Char} (h : sep ∉ cs) : split sep cs = [cs] :=
  split_join (List.cons_ne_nil cs []) (List.forall_mem_singleton.2 h)

theorem split_append_cons (sep : Char) (before cs : List Char) :
    split sep (before ++ sep :: cs) = split sep before ++ split sep cs := by
  simp only [split_eq_splitOn, List.splitOn_append_cons_self]

/-- No piece has the separator in it. -/
theorem not_mem_of_mem_split {sep : Char} {cs piece : List Char} (h : piece ∈ split sep cs) :
    sep ∉ piece := by
  induction cs generalizing piece with
  | nil =>
      rw [split, List.mem_singleton] at h
      subst h
      exact List.not_mem_nil
  | cons c cs ih =>
      rw [split] at h
      split at h
      · rcases List.mem_cons.1 h with rfl | h
        · exact List.not_mem_nil
        · exact ih h
      · next hc =>
          cases hs : split sep cs with
          | nil => exact absurd hs (split_ne_nil sep cs)
          | cons first pieces =>
              rw [hs] at h ih
              rcases List.mem_cons.1 h with rfl | h
              · have hfirst := ih List.mem_cons_self
                simp [hfirst, Ne.symm hc]
              · exact ih (List.mem_cons_of_mem first h)

/-- A character of a text that was put together is one of the separator or of a piece. -/
theorem mem_join {sep : List Char} {pieces : List (List Char)} {c : Char}
    (h : c ∈ join sep pieces) : c ∈ sep ∨ ∃ piece ∈ pieces, c ∈ piece := by
  induction pieces with
  | nil => cases h
  | cons piece pieces ih =>
    cases pieces with
    | nil => exact .inr ⟨piece, List.mem_cons_self, h⟩
    | cons next pieces =>
      have h : c ∈ piece ++ sep ++ join sep (next :: pieces) := h
      rw [List.append_assoc, List.mem_append, List.mem_append] at h
      rcases h with h | h | h
      · exact .inr ⟨piece, List.mem_cons_self, h⟩
      · exact .inl h
      · rcases ih h with h | ⟨other, hother, hc⟩
        · exact .inl h
        · exact .inr ⟨other, List.mem_cons_of_mem piece hother, hc⟩

/-- The last piece of a text is what comes after its last separator, or all of it. -/
theorem getLast?_split (sep : Char) (cs : List Char) :
    ∃ before piece, (split sep cs).getLast? = some piece ∧ cs = before ++ piece ∧
      sep ∉ piece ∧ (before = [] ∨ before.getLast? = some sep) := by
  by_cases h : sep ∈ cs
  · -- The first separator from the end is the last one.
    obtain ⟨after, before, hcs, hafter⟩ := List.eq_append_cons_of_mem (List.mem_reverse.2 h)
    have hcs : cs = before.reverse ++ sep :: after.reverse := by
      rw [← List.reverse_reverse cs, hcs]
      simp
    have hpiece : sep ∉ after.reverse := mt List.mem_reverse.1 hafter
    refine ⟨before.reverse ++ [sep], after.reverse, ?_, by simp [hcs], hpiece, .inr ?_⟩
    · rw [hcs, split_append_cons, split_of_not_mem hpiece, List.getLast?_concat]
    · rw [List.getLast?_concat]
  · exact ⟨[], cs, by rw [split_of_not_mem h]; rfl, rfl, h, .inl rfl⟩

/-- The pieces of a string between the occurrences of `sep`. -/
def splitString (sep : Char) (s : String) : List String :=
  (split sep s.toList).map String.ofList

/-- The strings one after the other, with `sep` between two of them. -/
def joinStrings (sep : String) (pieces : List String) : String :=
  String.ofList (join sep.toList (pieces.map String.toList))

theorem joinStrings_splitString (sep : Char) (s : String) :
    joinStrings (String.singleton sep) (splitString sep s) = s := by
  have hpieces : (splitString sep s).map String.toList = split sep s.toList := by
    simp [splitString, Function.comp_def]
  rw [joinStrings, hpieces, String.toList_singleton, join_split, String.ofList_toList]

theorem not_mem_of_mem_splitString {sep : Char} {s piece : String}
    (h : piece ∈ splitString sep s) : sep ∉ piece.toList := by
  obtain ⟨cs, hcs, rfl⟩ := List.mem_map.1 h
  rw [String.toList_ofList]
  exact not_mem_of_mem_split hcs

/-- Strings without the separator, if there are any, are what their text is split into. -/
theorem splitString_joinStrings {sep : Char} {pieces : List String} (hne : pieces ≠ [])
    (h : ∀ piece ∈ pieces, sep ∉ piece.toList) :
    splitString sep (joinStrings (String.singleton sep) pieces) = pieces := by
  have hpieces : ∀ cs ∈ pieces.map String.toList, sep ∉ cs := by
    intro cs hcs
    obtain ⟨piece, hmem, rfl⟩ := List.mem_map.1 hcs
    exact h piece hmem
  rw [splitString, joinStrings, String.toList_ofList, String.toList_singleton,
    split_join (by simpa using hne) hpieces]
  simp [Function.comp_def]

theorem splitString_of_not_mem {sep : Char} {s : String} (h : sep ∉ s.toList) :
    splitString sep s = [s] := by
  rw [splitString, split_of_not_mem h, List.map_singleton, String.ofList_toList]

theorem splitString_append (sep : Char) (before s : String) :
    splitString sep (before ++ String.singleton sep ++ s) =
      splitString sep before ++ splitString sep s := by
  simp [splitString, split_append_cons, String.toList_append]

theorem mem_joinStrings {sep : String} {pieces : List String} {c : Char}
    (h : c ∈ (joinStrings sep pieces).toList) :
    c ∈ sep.toList ∨ ∃ piece ∈ pieces, c ∈ piece.toList := by
  rw [joinStrings, String.toList_ofList] at h
  rcases mem_join h with hsep | ⟨cs, hcs, hc⟩
  · exact .inl hsep
  · obtain ⟨piece, hpiece, rfl⟩ := List.mem_map.1 hcs
    exact .inr ⟨piece, hpiece, hc⟩

theorem joinStrings_singleton (sep piece : String) : joinStrings sep [piece] = piece := by
  simp [joinStrings, join]

theorem joinStrings_cons_cons (sep piece next : String) (pieces : List String) :
    joinStrings sep (piece :: next :: pieces) =
      piece ++ sep ++ joinStrings sep (next :: pieces) := by
  simp [joinStrings, join, String.ofList_append, String.append_assoc]

/-- Line breaks between some lines and one at the end are one after each line. -/
theorem joinStrings_lines {lines : List String} (h : lines ≠ []) :
    joinStrings "\n" lines ++ "\n" = String.join (lines.map (· ++ "\n")) := by
  induction lines with
  | nil => exact absurd rfl h
  | cons line lines ih =>
      cases lines with
      | nil =>
          rw [joinStrings_singleton, List.map_singleton, String.join_cons, String.join_nil,
            String.append_empty]
      | cons next lines =>
          have hrest := ih (List.cons_ne_nil next lines)
          rw [joinStrings_cons_cons, String.append_assoc, hrest]
          exact String.join_cons.symm

/-- What is joined with a separator is empty if there is nothing to join, or one empty
string. -/
theorem joinStrings_eq_empty_iff {sep : String} (hsep : sep ≠ "") (pieces : List String) :
    joinStrings sep pieces = "" ↔ pieces = [] ∨ pieces = [""] := by
  cases pieces with
  | nil => simp [joinStrings, join]
  | cons piece pieces =>
      cases pieces with
      | nil => simp [joinStrings_singleton]
      | cons next pieces => simp [joinStrings_cons_cons, hsep]

example : splitString '.' "a..b." = ["a", "", "b", ""] := by decide
example : joinStrings ", " ["a", "b", "c"] = "a, b, c" := by decide

end TreeScan.Text

import TreeScan.Text.Alphanumeric
import TreeScan.Text.Blank
import TreeScan.Text.Breaks
import TreeScan.Text.Columns

/-!
# Wrapping

A text is wrapped by cutting it into words and filling lines with them.  A
*word* ends where a line may be broken, and the spaces at its end are no part of
it.  A word does not end at a hyphen.  But it is cut after a hyphen between two
letters or numbers, and where it is wider than a line.

Lines are filled from the first word to the last.  A word goes on the current
line if it fits there with the words and spaces before it, and on a new line
otherwise.  The spaces between two lines are dropped.

Main statements: `fill_flatten` says that the lines hold the words in their
order.  `fill_fits` says that a line of more than one word is not wider than it
may be.
-/

namespace TreeScan.Text

/-! ## Words -/

/-- A word, and the number of spaces after it. -/
structure Word where
  text : List Char
  spaces : Nat
deriving DecidableEq, Repr

/-- The columns of a word without its spaces. -/
def Word.width (w : Word) : Nat := columns w.text

/-- The columns from the start of a word to the next word. -/
def Word.advance (w : Word) : Nat := w.width + w.spaces

/-- A text as one word. -/
def Word.ofText (cs : List Char) : Word :=
  let text := dropEndWhile (· == ' ') cs
  ⟨text, cs.length - text.length⟩

/-- Whether a word ends after a character, if a line may end there.  No word
ends after a hyphen, hard or soft. -/
def endsWord (m : Char × Bool) : Bool := m.2 && m.1 ≠ '-' && m.1 ≠ '\xad'

/-- Flags without the last that is set. -/
def clearLast : List Bool → List Bool
  | [] => []
  | b :: bs => if bs.contains true then b :: clearLast bs else false :: bs

/-- Gives flags to the characters that are drawn, one after the other. -/
def assignFlags : List (Char × Bool) → List Bool → List (Char × Bool)
  | [], _ => []
  | (c, false) :: cs, flags => (c, false) :: assignFlags cs flags
  | (c, true) :: cs, flags => (c, flags.headD false) :: assignFlags cs flags.tail

/-- The words of a text with the spaces after them.  The last of the places
where a word may end is not used.  Mostly it is the end of the text. -/
def cutWords (cs : List Char) : List (List Char) :=
  let marked := markDrawn cs
  let drawn := (marked.filter (·.2)).map (·.1)
  cutAfter (assignFlags marked (clearLast ((markBreaks drawn).map endsWord)))

theorem assignFlags_map_fst (marked : List (Char × Bool)) (flags : List Bool) :
    (assignFlags marked flags).map (·.1) = marked.map (·.1) := by
  induction marked generalizing flags with
  | nil => rfl
  | cons m cs ih =>
    obtain ⟨c, drawn⟩ := m
    cases drawn <;> simp [assignFlags, ih]

/-- The words with their spaces are the text. -/
theorem cutWords_flatten (cs : List Char) : (cutWords cs).flatten = cs := by
  rw [cutWords, cutAfter_flatten, assignFlags_map_fst, markDrawn_map_fst]

/-! ## Parts of words -/

/-- The characters of a text, each with whether it is a hyphen between two
letters or numbers. -/
def markHyphens (before : Option Char) : List Char → List (Char × Bool)
  | [] => []
  | c :: cs =>
    (c, c = '-' && before.any isAlphanumeric && cs.head?.any isAlphanumeric) ::
      markHyphens (some c) cs

/-- The parts of a text that are at most some columns wide.  `part` is the
current one, last character first, and `used` its columns. -/
def narrowFrom (limit : Nat) (part : List Char) (used : Nat) :
    List (Char × Bool) → List (List Char)
  | [] => if part = [] then [] else [part.reverse]
  | (c, drawn) :: cs =>
    let more := if drawn then charColumns c else 0
    if drawn && 0 < used && limit < used + more then
      part.reverse :: narrowFrom limit [c] more cs
    else narrowFrom limit (c :: part) (used + more) cs

/-- The parts of a text that are at most some columns wide. -/
def narrow (limit : Nat) (cs : List Char) : List (List Char) :=
  narrowFrom limit [] 0 (markDrawn cs)

/-- Words without spaces after them, but for the last. -/
def spacedWords (spaces : Nat) : List (List Char) → List Word
  | [] => [⟨[], spaces⟩]
  | [text] => [⟨text, spaces⟩]
  | text :: texts => ⟨text, 0⟩ :: spacedWords spaces texts

/-- The parts of a word. -/
def Word.parts (limit : Nat) (w : Word) : List Word :=
  spacedWords w.spaces ((cutAfter (markHyphens none w.text)).flatMap (narrow limit))

/-! ## Lines -/

/-- Fills lines.  `line` is the current line, last word first, and `used` the
columns from its start to the next word. -/
def fillFrom (limit : Nat) (line : List Word) (used : Nat) : List Word → List (List Word)
  | [] => [line.reverse]
  | w :: ws =>
    if line ≠ [] ∧ limit < used + w.width then
      line.reverse :: fillFrom limit [w] w.advance ws
    else fillFrom limit (w :: line) (used + w.advance) ws

/-- The lines that words fill.  There is always one. -/
def fill (limit : Nat) (words : List Word) : List (List Word) := fillFrom limit [] 0 words

/-- The text of a line. -/
def lineText : List Word → List Char
  | [] => []
  | [w] => w.text
  | w :: ws => w.text ++ List.replicate w.spaces ' ' ++ lineText ws

/-- The lines of a text, wrapped to some columns. -/
def wrap (limit : Nat) (cs : List Char) : List (List Char) :=
  (fill limit ((cutWords cs).flatMap fun word => (Word.ofText word).parts limit)).map lineText

/-- The columns of a line. -/
def lineWidth : List Word → Nat
  | [] => 0
  | [w] => w.width
  | w :: ws => w.advance + lineWidth ws

/-- The columns from the start of a line to the word after it. -/
def lineAdvance (line : List Word) : Nat := line.foldr (fun w rest => w.advance + rest) 0

theorem lineAdvance_append (line rest : List Word) :
    lineAdvance (line ++ rest) = lineAdvance line + lineAdvance rest := by
  induction line with
  | nil => simp [lineAdvance]
  | cons w line ih =>
    simp only [lineAdvance, List.cons_append, List.foldr_cons] at ih ⊢
    omega

theorem lineAdvance_reverse (line : List Word) : lineAdvance line.reverse = lineAdvance line := by
  induction line with
  | nil => rfl
  | cons w line ih =>
    rw [List.reverse_cons, lineAdvance_append, ih]
    simp only [lineAdvance, List.foldr_cons, List.foldr_nil]
    omega

theorem lineWidth_concat (line : List Word) (w : Word) :
    lineWidth (line ++ [w]) = lineAdvance line + w.width := by
  induction line with
  | nil => simp [lineWidth, lineAdvance]
  | cons v line ih =>
    cases line with
    | nil => simp [lineWidth, lineAdvance]
    | cons u line =>
      simp only [List.cons_append, lineWidth, lineAdvance, List.foldr_cons] at ih ⊢
      omega

theorem fillFrom_flatten (limit : Nat) (line : List Word) (used : Nat) (words : List Word) :
    (fillFrom limit line used words).flatten = line.reverse ++ words := by
  induction words generalizing line used with
  | nil => simp [fillFrom]
  | cons w ws ih =>
    rw [fillFrom]
    split <;> simp [ih]

/-- The lines hold the words in their order. -/
theorem fill_flatten (limit : Nat) (words : List Word) : (fill limit words).flatten = words :=
  fillFrom_flatten limit [] 0 words

theorem fillFrom_fits (limit : Nat) (line : List Word) (words : List Word)
    (h : line.length ≤ 1 ∨ lineWidth line.reverse ≤ limit) :
    ∀ l ∈ fillFrom limit line (lineAdvance line) words,
      l.length ≤ 1 ∨ lineWidth l ≤ limit := by
  induction words generalizing line with
  | nil => simpa [fillFrom] using h
  | cons w ws ih =>
    rw [fillFrom]
    split
    · intro l hl
      rcases List.mem_cons.mp hl with rfl | hl
      · simpa using h
      · exact ih [w] (Or.inl (by simp)) l hl
    · next hw =>
      have hline : (w :: line).length ≤ 1 ∨ lineWidth (w :: line).reverse ≤ limit := by
        cases line with
        | nil => exact Or.inl (by simp)
        | cons v line =>
          refine Or.inr ?_
          have hfit : lineAdvance (v :: line) + w.width ≤ limit := by
            simp only [ne_eq, reduceCtorEq, not_false_eq_true, true_and, Nat.not_lt] at hw
            exact hw
          rw [List.reverse_cons, lineWidth_concat, lineAdvance_reverse]
          exact hfit
      intro l hl
      refine ih (w :: line) hline l ?_
      have hadvance : lineAdvance (w :: line) = lineAdvance line + w.advance := Nat.add_comm _ _
      rw [hadvance]
      exact hl

/-- A line of more than one word is not wider than it may be. -/
theorem fill_fits (limit : Nat) (words : List Word) :
    ∀ line ∈ fill limit words, line.length ≤ 1 ∨ lineWidth line ≤ limit :=
  fillFrom_fits limit [] words (Or.inl (by simp))

/-- The lines of a string, wrapped to some columns. -/
def wrapString (limit : Nat) (s : String) : List String :=
  (wrap limit s.toList).map String.ofList

example : wrapString 7 "one  two   three  " = ["one", "two", "three"] := by decide +kernel
example : wrapString 8 "one  two   three" = ["one  two", "three"] := by decide +kernel
example : wrapString 6 "re-use --a-b abcdefgh" = ["re-use", "--a-b", "abcdef", "gh"] := by
  decide +kernel
example : wrapString 4 "re-use" = ["re-", "use"] ∧ cutWords "a b c-".toList = ["a ".toList,
    "b c-".toList] := by decide +kernel
example : wrapString 4 "" = [""] ∧ wrapString 4 " a" = [" a"] := by decide +kernel

end TreeScan.Text

/-!
# Blank characters

A character is *blank* when it has the property `White_Space`.  Trimming takes
the blank characters off the ends of a text and leaves those inside it.

The property holds of more than the ASCII blanks.  It holds of the next-line
character, of both no-break spaces, of the spaces of typography and of the two
Unicode separators of lines and paragraphs.  It does not hold of the zero-width
space.
-/

namespace TreeScan.Text

/-- The ranges of `White_Space`, first and last code point of each, ascending. -/
def blankRanges : List (Nat × Nat) :=
  [(0x09, 0x0D), (0x20, 0x20), (0x85, 0x85), (0xA0, 0xA0), (0x1680, 0x1680),
   (0x2000, 0x200A), (0x2028, 0x2029), (0x202F, 0x202F), (0x205F, 0x205F), (0x3000, 0x3000)]

/-- Whether a character has the property `White_Space`. -/
def isBlank (c : Char) : Bool :=
  blankRanges.any fun r => r.1 ≤ c.toNat && c.toNat ≤ r.2

/-- A text without the blanks it starts with. -/
def trimStart (cs : List Char) : List Char := cs.dropWhile isBlank

/-- A text without the characters at its end that satisfy `p`. -/
def dropEndWhile (p : Char → Bool) (cs : List Char) : List Char :=
  (cs.reverse.dropWhile p).reverse

/-- A text without the blanks it ends with. -/
def trimEnd (cs : List Char) : List Char := dropEndWhile isBlank cs

/-- A text without the blanks at both ends. -/
def trim (cs : List Char) : List Char := trimEnd (trimStart cs)

/-- Every blank of core is a blank here. -/
theorem isBlank_of_isWhitespace {c : Char} (h : c.isWhitespace = true) : isBlank c = true := by
  simp only [Char.isWhitespace, Bool.or_eq_true, decide_eq_true_eq] at h
  rcases h with ((rfl | rfl) | rfl) | rfl <;> decide

example : trim " \ta b\u00a0\n".toList = "a b".toList := by decide
example : trim "\u200b".toList = "\u200b".toList := by decide

end TreeScan.Text

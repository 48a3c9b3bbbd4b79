import TreeScan.Text.Unprintable

/-!
# Columns

A terminal draws a text in columns.  Most characters take one column.  The
characters of East Asia and most emoji take two.  Controls, marks on other
characters and characters that are to be ignored take none.  The tables are of
Unicode 17.0.

A *control sequence* tells the terminal something and takes no column either.
It starts with an escape.  After a bracket `[` it goes on to a letter or another
character from `@` to `~`.  After a bracket `]` it goes on to a bell, or to an
escape with a backslash.  After an escape any other character ends it at once.
-/

namespace TreeScan.Text

/-- How far a control sequence has been read. -/
inductive Sequence where
  /-- The text is outside of control sequences. -/
  | outside
  /-- After the escape. -/
  | escape
  /-- After the escape and `[`. -/
  | parameters
  /-- After the escape and `]`, with the last character read. -/
  | command (last : Char)
deriving DecidableEq, Repr

/-- How far a control sequence has been read with one more character. -/
def Sequence.push : Sequence → Char → Sequence
  | .outside, c => if c = '\x1b' then .escape else .outside
  | .escape, c =>
    if c = '[' then .parameters else if c = ']' then .command ']' else .outside
  | .parameters, c => if 0x40 ≤ c.toNat && c.toNat ≤ 0x7E then .outside else .parameters
  | .command last, c =>
    if c = '\x07' || (c = '\\' && last = '\x1b') then .outside else .command c

/-- The characters of a text, each with whether it is drawn, that is, outside of
control sequences. -/
def markDrawnFrom (s : Sequence) : List Char → List (Char × Bool)
  | [] => []
  | c :: cs => (c, s = .outside && c ≠ '\x1b') :: markDrawnFrom (s.push c) cs

/-- The characters of a text, each with whether it is drawn. -/
def markDrawn (cs : List Char) : List (Char × Bool) := markDrawnFrom .outside cs

theorem markDrawnFrom_map_fst (s : Sequence) (cs : List Char) :
    (markDrawnFrom s cs).map (·.1) = cs := by
  induction cs generalizing s with
  | nil => rfl
  | cons c cs ih => simp [markDrawnFrom, ih]

theorem markDrawn_map_fst (cs : List Char) : (markDrawn cs).map (·.1) = cs :=
  markDrawnFrom_map_fst .outside cs

/-- The characters that are to be ignored, the vowels and final consonants of
Hangul, which are drawn in their syllable, the signs around numbers that have no
width, and the consonants that are drawn on the next one. -/
def widthlessRanges : List (Nat × Nat) :=
  [(0xAD, 0xAD), (0x34F, 0x34F), (0x605, 0x605), (0x61C, 0x61C), (0x70F, 0x70F), (0x890, 0x891),
   (0x8E2, 0x8E2), (0xD4E, 0xD4E), (0x1160, 0x11FF), (0x17B4, 0x17B5), (0x180B, 0x180F),
   (0x200B, 0x200F), (0x202A, 0x202E), (0x2060, 0x206F), (0x3164, 0x3164), (0xA8FA, 0xA8FA),
   (0xD7B0, 0xD7C6), (0xD7CB, 0xD7FB), (0xFE00, 0xFE0F), (0xFEFF, 0xFEFF), (0xFFA0, 0xFFA0),
   (0xFFF0, 0xFFF8), (0x111C2, 0x111C3), (0x113D1, 0x113D1), (0x1193F, 0x1193F), (0x11941, 0x11941),
   (0x11A84, 0x11A89), (0x11D46, 0x11D46), (0x11F02, 0x11F02), (0x1BCA0, 0x1BCA3),
   (0x1D173, 0x1D17A), (0xE0000, 0xE0FFF)]

/-- The ranges of `East_Asian_Width` that are wide or full. -/
def wideRanges : List (Nat × Nat) :=
  [(0x1100, 0x115F), (0x231A, 0x231B), (0x2329, 0x232A), (0x23E9, 0x23EC), (0x23F0, 0x23F0),
   (0x23F3, 0x23F3), (0x25FD, 0x25FE), (0x2614, 0x2615), (0x2630, 0x2637), (0x2648, 0x2653),
   (0x267F, 0x267F), (0x268A, 0x268F), (0x2693, 0x2693), (0x26A1, 0x26A1), (0x26AA, 0x26AB),
   (0x26BD, 0x26BE), (0x26C4, 0x26C5), (0x26CE, 0x26CE), (0x26D4, 0x26D4), (0x26EA, 0x26EA),
   (0x26F2, 0x26F3), (0x26F5, 0x26F5), (0x26FA, 0x26FA), (0x26FD, 0x26FD), (0x2705, 0x2705),
   (0x270A, 0x270B), (0x2728, 0x2728), (0x274C, 0x274C), (0x274E, 0x274E), (0x2753, 0x2755),
   (0x2757, 0x2757), (0x2795, 0x2797), (0x27B0, 0x27B0), (0x27BF, 0x27BF), (0x2B1B, 0x2B1C),
   (0x2B50, 0x2B50), (0x2B55, 0x2B55), (0x2E80, 0x2E99), (0x2E9B, 0x2EF3), (0x2F00, 0x2FD5),
   (0x2FF0, 0x303E), (0x3041, 0x3096), (0x3099, 0x30FF), (0x3105, 0x312F), (0x3131, 0x318E),
   (0x3190, 0x31E5), (0x31EF, 0x321E), (0x3220, 0x3247), (0x3250, 0xA48C), (0xA490, 0xA4C6),
   (0xA960, 0xA97C), (0xAC00, 0xD7A3), (0xF900, 0xFAFF), (0xFE10, 0xFE19), (0xFE30, 0xFE52),
   (0xFE54, 0xFE66), (0xFE68, 0xFE6B), (0xFF01, 0xFF60), (0xFFE0, 0xFFE6), (0x16FE0, 0x16FE4),
   (0x16FF0, 0x16FF6), (0x17000, 0x18CD5), (0x18CFF, 0x18D1E), (0x18D80, 0x18DF2),
   (0x1AFF0, 0x1AFF3), (0x1AFF5, 0x1AFFB), (0x1AFFD, 0x1AFFE), (0x1B000, 0x1B122),
   (0x1B132, 0x1B132), (0x1B150, 0x1B152), (0x1B155, 0x1B155), (0x1B164, 0x1B167),
   (0x1B170, 0x1B2FB), (0x1D300, 0x1D356), (0x1D360, 0x1D376), (0x1F004, 0x1F004),
   (0x1F0CF, 0x1F0CF), (0x1F18E, 0x1F18E), (0x1F191, 0x1F19A), (0x1F200, 0x1F202),
   (0x1F210, 0x1F23B), (0x1F240, 0x1F248), (0x1F250, 0x1F251), (0x1F260, 0x1F265),
   (0x1F300, 0x1F320), (0x1F32D, 0x1F335), (0x1F337, 0x1F37C), (0x1F37E, 0x1F393),
   (0x1F3A0, 0x1F3CA), (0x1F3CF, 0x1F3D3), (0x1F3E0, 0x1F3F0), (0x1F3F4, 0x1F3F4),
   (0x1F3F8, 0x1F43E), (0x1F440, 0x1F440), (0x1F442, 0x1F4FC), (0x1F4FF, 0x1F53D),
   (0x1F54B, 0x1F54E), (0x1F550, 0x1F567), (0x1F57A, 0x1F57A), (0x1F595, 0x1F596),
   (0x1F5A4, 0x1F5A4), (0x1F5FB, 0x1F64F), (0x1F680, 0x1F6C5), (0x1F6CC, 0x1F6CC),
   (0x1F6D0, 0x1F6D2), (0x1F6D5, 0x1F6D8), (0x1F6DC, 0x1F6DF), (0x1F6EB, 0x1F6EC),
   (0x1F6F4, 0x1F6FC), (0x1F7E0, 0x1F7EB), (0x1F7F0, 0x1F7F0), (0x1F90C, 0x1F93A),
   (0x1F93C, 0x1F945), (0x1F947, 0x1F9FF), (0x1FA70, 0x1FA7C), (0x1FA80, 0x1FA8A),
   (0x1FA8E, 0x1FAC6), (0x1FAC8, 0x1FAC8), (0x1FACD, 0x1FADC), (0x1FADF, 0x1FAEA),
   (0x1FAEF, 0x1FAF8), (0x20000, 0x2FFFD), (0x30000, 0x3FFFD)]

/-- The columns of a character.  Two signs of Khmer that stand for several letters
are as wide as these. -/
def charColumns (c : Char) : Nat :=
  let code := c.toNat
  if code < 0x20 then 0
  else if code < 0x7F then 1
  else if code < 0xA0 then 0
  else if inRanges widthlessRanges code || isExtender c then 0
  else if code = 0x17D8 then 3
  else if code = 0x17A4 || inRanges wideRanges code then 2
  else 1

/-- The columns of a text. -/
def columns (cs : List Char) : Nat :=
  (markDrawn cs).foldr (fun m rest => (if m.2 then charColumns m.1 else 0) + rest) 0

example : columns "aé변\u0301\t".toList = 4 := by decide +kernel
example : columns "\u17d8\u17a4\u0d4e\u2ffc".toList = 7 := by decide +kernel
example : columns "\x1b[31;1mred\x1b[0m\x1b]8;;u\x07!".toList = 4 := by decide +kernel

end TreeScan.Text

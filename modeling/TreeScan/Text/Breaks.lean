import TreeScan.Text.BreakClass

/-!
# Where a line may be broken

The places of a text where a line may end are found by reading the classes of
its characters from left to right.  A *place* is between two characters.  What
is known before a place is kept in a `Reading`.  A combining mark belongs to the
character before it, and spaces belong to what stands before them.  Of what
stands behind a place, the next two characters count.

The rules come in this order, and the first that fits decides.

* A line is broken after a hard line break, and nothing comes between a carriage
  return and a line feed.
* Nothing is broken after a zero-width joiner.
* Nothing is broken before a hard line break, a space or a zero-width space, and
  a line may be broken after a zero-width space.
* A mark stays with its character.  A mark without one is a letter.
* Some classes stay together over spaces (`heldOverSpaces`).  An opening
  quotation mark stays with what it opens, and a closing one with what it closes,
  also over spaces.
* A line may be broken after spaces.
* Some classes stay together without spaces between them (`held`).
* A line may be broken anywhere else.
-/

namespace TreeScan.Text

namespace BreakClass

/-- Whether a line is always broken after a character. -/
def isHard : BreakClass → Bool
  | .hardBreak | .carriageReturn | .lineFeed | .nextLine => true
  | _ => false

/-- Whether a character is a mark on the one before it. -/
def isMark (k : BreakClass) : Bool := k = .combining || k = .zeroWidthJoiner

/-- The classes that no line starts with, also after spaces. -/
def neverFirst : List BreakClass :=
  [.wordJoiner, .closing, .closingParenthesis, .exclamation, .separator, .slash]

/-- The opening brackets. -/
def openings : List BreakClass := [.opening, .wideOpening]

/-- Whether two classes stay together, whatever spaces are between them. -/
def heldOverSpaces (last next : BreakClass) : Bool :=
  next ∈ neverFirst || last ∈ openings ||
    (last = .closing || last = .closingParenthesis) && next = .nonStarter ||
    last = .dash && next = .dash

/-- The quotation marks. -/
def quotations : List BreakClass := [.quotation, .openingQuotation, .closingQuotation]

/-- The classes before an opening quotation mark that begins a quotation. -/
def beforeQuoting : List BreakClass :=
  [.space, .zeroWidthSpace, .hardBreak, .carriageReturn, .lineFeed, .nextLine, .glue] ++
    openings ++ quotations

/-- The classes after a closing quotation mark that ends a quotation. -/
def afterQuoting : List BreakClass :=
  [.space, .zeroWidthSpace, .hardBreak, .carriageReturn, .lineFeed, .nextLine, .glue] ++
    neverFirst ++ quotations

/-- The letters. -/
def letters : List BreakClass := [.letter, .hebrewLetter, .dottedCircle]

/-- The characters of an aksara that take a virama. -/
def bases : List BreakClass := [.aksara, .aksaraStart, .dottedCircle]

/-- The signs at a number. -/
def signs : List BreakClass := [.beforeNumber, .afterNumber]

/-- The parts of Hangul. -/
def hangul : List BreakClass :=
  [.leadingJamo, .vowelJamo, .trailingJamo, .openSyllable, .closedSyllable]

/-- Pictures: ideographs and emoji. -/
def pictures : List BreakClass :=
  [.ideograph, .reservedPicture, .emojiBase, .emojiModifier]

/-- The classes that stay together side by side: any of the first list with any
of the second. -/
def heldPairs : List (List BreakClass × List BreakClass) :=
  [([.slash], [.hebrewLetter]),
   (letters, letters), (letters, [.digit]), ([.digit], letters),
   ([.beforeNumber], pictures), (pictures, [.afterNumber]),
   (signs, letters), (letters, signs),
   ([.closing, .closingParenthesis, .digit], signs), (signs, .digit :: openings),
   ([.hyphen, .separator, .digit, .slash], [.digit]),
   ([.leadingJamo], [.leadingJamo, .vowelJamo, .openSyllable, .closedSyllable]),
   ([.vowelJamo, .openSyllable], [.vowelJamo, .trailingJamo]),
   ([.trailingJamo, .closedSyllable], [.trailingJamo]),
   (hangul, [.afterNumber]), ([.beforeNumber], hangul),
   ([.separator], letters),
   (letters, [.opening]), ([.digit], [.opening]),
   ([.closingParenthesis], letters), ([.closingParenthesis], [.digit]),
   ([.emojiBase, .reservedPicture], [.emojiModifier]),
   ([.aksaraPrefix], bases), (bases, [.virama, .finalVirama])]

/-- Whether two classes stay together side by side.  Quotation marks come before
objects, and objects before the classes that no line starts with. -/
def held (last next : BreakClass) : Bool :=
  if last = .wordJoiner || last = .glue then true
  else if next = .glue && last ≠ .breakAfter && last ≠ .hyphen then true
  else if last ∈ quotations || next ∈ quotations then true
  else if last = .contingent || next = .contingent then false
  else next ∈ [.breakAfter, .hyphen, .nonStarter, .inseparable] || last = .breakBefore ||
    heldPairs.any fun pair => last ∈ pair.1 && next ∈ pair.2

end BreakClass

/-- What is known before a place. -/
structure Reading where
  /-- The class of the last character that is no space and no mark.  It is
  `space` where a line begins with spaces. -/
  last : BreakClass
  /-- The class of the character before that, or `space` at the start of a line. -/
  before : BreakClass := .space
  /-- Whether spaces stand between the last character and the place. -/
  spaced : Bool := false
  /-- Whether the last character is a zero-width joiner. -/
  joined : Bool := false
  /-- Whether the place is inside a flag: an odd number of halves stands before. -/
  inFlag : Bool := false
deriving DecidableEq, Repr

namespace Reading

open BreakClass

/-- What is known after one character, if nothing counts that stands before it. -/
def afresh (k : BreakClass) : Reading :=
  { last := if isMark k then .letter else k
    joined := k = .zeroWidthJoiner
    inFlag := k = .regionalIndicator }

/-- Whether a mark has a character to stand on. -/
def carries (r : Reading) : Bool :=
  !(r.spaced || r.last.isHard || r.last = .space || r.last = .zeroWidthSpace)

/-- What is known after one more character. -/
def push (r : Reading) (k : BreakClass) : Reading :=
  if k = .space then
    if r.last.isHard then afresh k else { r with spaced := true, joined := false }
  else if isMark k && r.carries then { r with joined := k = .zeroWidthJoiner }
  else
    { afresh k with
      before := if r.spaced then .space else r.last
      inFlag := k = .regionalIndicator && !(r.inFlag && !r.spaced) }

/-- Whether the last character begins a quotation. -/
def inQuotation (r : Reading) : Bool :=
  r.last = .openingQuotation && r.before ∈ beforeQuoting

/-- Whether a character ends a quotation, if `after` comes after it.  It does at
the end of the text. -/
def endsQuotation (k : BreakClass) (after : Option BreakClass) : Bool :=
  k = .closingQuotation && after.all (· ∈ afterQuoting)

/-- Whether two characters side by side stay together, where more than their
classes counts: a hyphen after a Hebrew letter, the parts of an aksara, and the
halves of a flag. -/
def holds (r : Reading) (next : BreakClass) (after : Option BreakClass) : Bool :=
  held r.last next ||
    r.before = .hebrewLetter && (r.last = .hyphen || r.last = .breakAfter) &&
      next ≠ .contingent ||
    r.before ∈ bases && r.last = .virama && (next = .aksara || next = .dottedCircle) ||
    r.last ∈ bases && next ∈ bases && after = some .finalVirama ||
    r.inFlag && next = .regionalIndicator

/-- Whether a line may be broken before a character.  `after` is the class of the
one after it. -/
def breaks (r : Reading) (k : BreakClass) (after : Option BreakClass) : Bool :=
  if r.last.isHard then !(r.last = .carriageReturn && k = .lineFeed)
  else if r.joined then false
  else if k.isHard || k = .space || k = .zeroWidthSpace then false
  else if r.last = .zeroWidthSpace then true
  else if isMark k && r.carries then false
  else
    let next := if isMark k then .letter else k
    if heldOverSpaces r.last next || r.inQuotation || endsQuotation next after then false
    else if r.spaced || r.last = .space then true
    else !r.holds next after

/-- Whether a line may end at a place and at each place after it, given the
classes of the characters there.  A line may end at the end of the text. -/
def places (r : Reading) : List BreakClass → List Bool
  | [] => [true]
  | k :: ks => r.breaks k (ks.find? (!·.isMark)) :: (r.push k).places ks

theorem length_places (r : Reading) (ks : List BreakClass) :
    (r.places ks).length = ks.length + 1 := by
  induction ks generalizing r with
  | nil => rfl
  | cons k ks ih => rw [places, List.length_cons, ih, List.length_cons]

end Reading

/-- The characters of a text, each with whether a line may end after it. -/
def markBreaks (cs : List Char) : List (Char × Bool) :=
  match cs.map BreakClass.ofChar with
  | [] => []
  | k :: ks => cs.zip ((Reading.afresh k).places ks)

/-- Looking for places keeps the text. -/
theorem markBreaks_map_fst (cs : List Char) : (markBreaks cs).map (·.1) = cs := by
  cases cs with
  | nil => rfl
  | cons c cs => exact List.map_fst_zip (by simp [Reading.length_places])

/-- The text up to each place where a line may end, one below the other. -/
def cutAfter : List (Char × Bool) → List (List Char)
  | [] => []
  | (c, true) :: rest => [c] :: cutAfter rest
  | (c, false) :: rest =>
    match cutAfter rest with
    | [] => [[c]]
    | piece :: pieces => (c :: piece) :: pieces

theorem cutAfter_flatten (marked : List (Char × Bool)) :
    (cutAfter marked).flatten = marked.map (·.1) := by
  induction marked with
  | nil => rfl
  | cons m rest ih =>
    obtain ⟨c, cut⟩ := m
    cases cut with
    | true => simp [cutAfter, ih]
    | false =>
      rw [cutAfter]
      cases h : cutAfter rest with
      | nil => rw [h] at ih; simp [← ih]
      | cons piece pieces => rw [h] at ih; simp [← ih]

/-- The pieces of a text that are never broken. -/
def unbroken (s : String) : List String := (cutAfter (markBreaks s.toList)).map String.ofList

example : unbroken "to be (or  not) 'so'." = ["to ", "be ", "(or  ", "not) ", "'so'."] := by
  decide +kernel
example : unbroken "a' (b) 'c'(d)" = ["a' ", "(b) ", "'c'(d)"] := by decide +kernel
example : unbroken "“ a”, (b”c “d” ” e" = ["“ a”, ", "(b”c ", "“d” ” ", "e"] := by
  decide +kernel
example : unbroken "a(b c（d %（e" = ["a(b ", "c", "（d ", "%（e"] := by decide +kernel
example : unbroken "ᬅ᭄ᬅᬅ ᯀᯀ᯲ᯀ◌᭄◌᬴᭄" = ["ᬅ᭄ᬅ", "ᬅ ", "ᯀᯀ᯲", "ᯀ", "◌᭄◌᬴᭄"] := by
  decide +kernel
example : unbroken "a/b, -1.5% $9 ( x )" = ["a/", "b, ", "-1.5% ", "$9 ", "( x )"] := by
  decide +kernel

end TreeScan.Text

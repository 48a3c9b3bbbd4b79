import TreeScan.Json.Numeral
import TreeScan.Text.Bytes

/-!
# Reading JSON

`Draft.ofText` reads a text as far as it can be read.  The result is a tree that
may end in a flaw: the place from which the text is malformed or missing.  What
comes after a flaw is not in the tree.

A flawed text has to become a tree first, since the reader of the tree decides
which error is seen.  It goes through the tree in the order of the text and may
find an error of its own before the flaw.  A part of the tree that is of no
interest is skipped.  Skipping checks less than reading does, so a flaw says
what it is in both cases.
-/

namespace TreeScan.Json

/-- Why a text cannot be read on. -/
inductive Flaw where
  /-- The text breaks the grammar. -/
  | malformed
  /-- The text ends too early. -/
  | cutShort
deriving DecidableEq, Repr

mutual

/-- A JSON text as far as it could be read. -/
inductive Draft where
  | null
  | bool (value : Bool)
  | number (value : Numeral)
  | text (value : String)
  /-- A text with half of a surrogate pair in it.  It can be skipped but not read. -/
  | unpaired
  /-- An array, with the flaw that stands where a comma or its end should be. -/
  | array (items : List Draft) (flaw : Option Flaw)
  /-- An object, with the flaw that stands where a comma or its end should be. -/
  | object (entries : List Entry) (flaw : Option Flaw)
  /-- The torn beginning of a keyword or number. -/
  | torn (whenRead whenSkipped : Flaw)
  /-- No value, or the torn beginning of a text. -/
  | flawed (whenRead whenSkipped : Flaw)

/-- A member of an object as far as it could be read. -/
structure Entry where
  key : Draft
  value : Draft

end

namespace Read

/-- A draft, and the text after it unless a flaw stopped the reading. -/
abbrev Reading := Draft × Option (List Char)

/-! ## Blanks and keywords -/

/-- The text after the blanks at its beginning. -/
def skipBlanks (cs : List Char) : List Char :=
  cs.dropWhile fun c => c == ' ' || c == '\n' || c == '\t' || c == '\r'

/-- The rest of a keyword. -/
def keyword (value : Draft) : List Char → List Char → Reading
  | [], cs => (value, some cs)
  | _ :: _, [] => (.torn .cutShort .cutShort, none)
  | k :: ks, c :: cs =>
    if k = c then keyword value ks cs else (.torn .malformed .malformed, none)

/-! ## Numbers -/

/-- At least one digit, or the flaw in its place. -/
def digits (cs : List Char) : Except Draft (List Char × List Char) :=
  match cs with
  | [] => .error (.torn .cutShort .malformed)
  | c :: _ =>
    if c.isDigit then .ok (cs.takeWhile Char.isDigit, cs.dropWhile Char.isDigit)
    else .error (.torn .malformed .malformed)

/-- The digits before the point.  A zero is alone. -/
def wholeDigits (cs : List Char) : Except Draft (List Char × List Char) :=
  match cs with
  | '0' :: c :: cs =>
    if c.isDigit then .error (.torn .malformed .malformed) else .ok (['0'], c :: cs)
  | cs => digits cs

/-- The fraction of a number, if there is one. -/
def fraction (cs : List Char) : Except Draft (Option (List Char) × List Char) :=
  match cs with
  | '.' :: cs => (digits cs).map fun (ds, cs) => (some ds, cs)
  | cs => .ok (none, cs)

/-- The exponent of a number, if there is one. -/
def exponent (cs : List Char) : Except Draft (Option (Bool × List Char) × List Char) :=
  match cs with
  | [] => .ok (none, [])
  | c :: cs =>
    if c = 'e' || c = 'E' then
      match cs with
      | '-' :: cs => (digits cs).map fun (ds, cs) => (some (true, ds), cs)
      | '+' :: cs => (digits cs).map fun (ds, cs) => (some (false, ds), cs)
      | cs => (digits cs).map fun (ds, cs) => (some (false, ds), cs)
    else .ok (none, c :: cs)

/-- A number from its sign on. -/
def numeral (negative : Bool) (cs : List Char) : Reading :=
  let parts : Except Draft Reading := do
    let (whole, cs) ← wholeDigits cs
    let (fraction, cs) ← fraction cs
    let (exponent, cs) ← exponent cs
    pure (.number ⟨negative, whole, fraction, exponent⟩, some cs)
  match parts with
  | .ok reading => reading
  | .error flaw => (flaw, none)

/-! ## Texts -/

/-- The value of a hexadecimal digit. -/
def hexValue? (c : Char) : Option Nat :=
  if c.isDigit then some (c.toNat - '0'.toNat)
  else if 'a' ≤ c && c ≤ 'f' then some (c.toNat - 'a'.toNat + 10)
  else if 'A' ≤ c && c ≤ 'F' then some (c.toNat - 'A'.toNat + 10)
  else none

/-- Four hexadecimal digits.  Fewer than four bytes are a text cut short. -/
def fourDigits (cs : List Char) : Except Flaw (Nat × List Char) :=
  match cs with
  | a :: b :: c :: d :: rest =>
    match hexValue? a, hexValue? b, hexValue? c, hexValue? d with
    | some a, some b, some c, some d => .ok (((a * 16 + b) * 16 + c) * 16 + d, rest)
    | _, _, _, _ => .error .malformed
  | cs => .error (if Text.byteLength cs < 4 then .cutShort else .malformed)

/-- The character that a letter after a backslash stands for. -/
def escapedChar? (c : Char) : Option Char :=
  if c = '\x22' || c = '\\' || c = '/' then some c
  else if c = 'b' then some '\x08'
  else if c = 'f' then some '\x0c'
  else if c = 'n' then some '\n'
  else if c = 'r' then some '\r'
  else if c = 't' then some '\t'
  else none

/-- The second half of a surrogate pair, and the character of the pair. -/
def secondHalf (first : Nat) (cs : List Char) : Except Flaw (Char × List Char) :=
  match cs with
  | [] => .error .cutShort
  | '\\' :: [] => .error .cutShort
  | '\\' :: 'u' :: cs => do
    let (second, cs) ← fourDigits cs
    if 0xDC00 ≤ second && second ≤ 0xDFFF then
      pure (Char.ofNat (0x10000 + (first - 0xD800) * 0x400 + (second - 0xDC00)), cs)
    else throw .malformed
  | _ => .error .malformed

/-- The character written after `\u`. -/
def codePoint (cs : List Char) : Except Flaw (Char × List Char) := do
  let (code, cs) ← fourDigits cs
  if 0xDC00 ≤ code && code ≤ 0xDFFF then throw .malformed
  else if 0xD800 ≤ code && code ≤ 0xDBFF then secondHalf code cs
  else pure (Char.ofNat code, cs)

/-- The characters of a text up to its closing quote, after those read so far.
The number bounds the characters that are left. -/
def readText (read : List Char) : Nat → List Char → Except Flaw (String × List Char)
  | 0, _ => .error .cutShort
  | _ + 1, [] => .error .cutShort
  | left + 1, c :: cs =>
    if c = '\x22' then .ok (String.ofList read.reverse, cs)
    else if c = '\\' then
      match cs with
      | [] => .error .cutShort
      | 'u' :: cs =>
        match codePoint cs with
        | .error flaw => .error flaw
        | .ok (c, cs) => readText (c :: read) left cs
      | e :: cs =>
        match escapedChar? e with
        | some c => readText (c :: read) left cs
        | none => .error .malformed
    else if c.toNat < 0x20 then .error .malformed
    else readText (c :: read) left cs

/-- The text after the closing quote.  Code points need not be paired. -/
def skipText : Nat → List Char → Except Flaw (List Char)
  | 0, _ => .error .cutShort
  | _ + 1, [] => .error .cutShort
  | left + 1, c :: cs =>
    if c = '\x22' then .ok cs
    else if c = '\\' then
      match cs with
      | [] => .error .cutShort
      | 'u' :: cs =>
        match fourDigits cs with
        | .error flaw => .error flaw
        | .ok (_, cs) => skipText left cs
      | e :: cs => if (escapedChar? e).isSome then skipText left cs else .error .malformed
    else if c.toNat < 0x20 then .error .malformed
    else skipText left cs

/-- A text after its opening quote. -/
def text (cs : List Char) : Reading :=
  match readText [] (cs.length + 1) cs with
  | .ok (value, rest) => (.text value, some rest)
  | .error whenRead =>
    match skipText (cs.length + 1) cs with
    | .ok rest => (.unpaired, some rest)
    | .error whenSkipped => (.flawed whenRead whenSkipped, none)

/-! ## Values -/

/-- A draft for what is malformed however one looks at it. -/
def malformed : Draft := .flawed .malformed .malformed

/-- A draft for what is missing. -/
def cutShort : Draft := .flawed .cutShort .cutShort

mutual

/-- The value at the beginning of a text.  The number bounds the steps. -/
def readValue : Nat → List Char → Reading
  | 0, _ => (malformed, none)
  | steps + 1, cs =>
    match skipBlanks cs with
    | [] => (cutShort, none)
    | c :: cs =>
      if c = 'n' then keyword .null ['u', 'l', 'l'] cs
      else if c = 't' then keyword (.bool true) ['r', 'u', 'e'] cs
      else if c = 'f' then keyword (.bool false) ['a', 'l', 's', 'e'] cs
      else if c = '-' then numeral true cs
      else if c.isDigit then numeral false (c :: cs)
      else if c = '\x22' then text cs
      else if c = '[' then
        match skipBlanks cs with
        | [] => (.array [] (some .cutShort), none)
        | c :: cs =>
          if c = ']' then (.array [] none, some cs)
          else
            let (items, flaw, rest) := readItems steps (c :: cs)
            (.array items flaw, rest)
      else if c = '\x7b' then
        match skipBlanks cs with
        | [] => (.object [⟨cutShort, cutShort⟩] none, none)
        | c :: cs =>
          if c = '\x7d' then (.object [] none, some cs)
          else
            let (entries, flaw, rest) := readEntries steps (c :: cs)
            (.object entries flaw, rest)
      else (malformed, none)

/-- The items of an array up to its end. -/
def readItems : Nat → List Char → List Draft × Option Flaw × Option (List Char)
  | 0, _ => ([malformed], none, none)
  | steps + 1, cs =>
    match readValue steps cs with
    | (item, none) => ([item], none, none)
    | (item, some rest) =>
      match skipBlanks rest with
      | [] => ([item], some .cutShort, none)
      | c :: cs =>
        if c = ']' then ([item], none, some cs)
        else if c = ',' then
          match skipBlanks cs with
          | [] => ([item, cutShort], none, none)
          | c :: cs =>
            if c = ']' then ([item, malformed], none, none)
            else
              let (more, flaw, rest) := readItems steps (c :: cs)
              (item :: more, flaw, rest)
        else ([item], some .malformed, none)

/-- The members of an object up to its end. -/
def readEntries : Nat → List Char → List Entry × Option Flaw × Option (List Char)
  | 0, _ => ([⟨malformed, malformed⟩], none, none)
  | steps + 1, cs =>
    match readEntry steps cs with
    | (e, none) => ([e], none, none)
    | (e, some rest) =>
      match skipBlanks rest with
      | [] => ([e], some .cutShort, none)
      | c :: cs =>
        if c = '\x7d' then ([e], none, some cs)
        else if c = ',' then
          match skipBlanks cs with
          | [] => ([e, ⟨cutShort, cutShort⟩], none, none)
          | c :: cs =>
            if c = '\x7d' then ([e, ⟨malformed, malformed⟩], none, none)
            else
              let (more, flaw, rest) := readEntries steps (c :: cs)
              (e :: more, flaw, rest)
        else ([e], some .malformed, none)

/-- One member of an object.  Only a text can be a key. -/
def readEntry : Nat → List Char → Entry × Option (List Char)
  | 0, _ => (⟨malformed, malformed⟩, none)
  | steps + 1, cs =>
    match cs with
    | [] => (⟨cutShort, cutShort⟩, none)
    | c :: cs =>
      if c = '\x22' then
        match text cs with
        | (key, none) => (⟨key, malformed⟩, none)
        | (key, some rest) =>
          match skipBlanks rest with
          | [] => (⟨key, cutShort⟩, none)
          | c :: cs =>
            if c = ':' then
              let (value, rest) := readValue steps cs
              (⟨key, value⟩, rest)
            else (⟨key, malformed⟩, none)
      else (⟨malformed, malformed⟩, none)

end

end Read

/-- A whole text: one value and nothing after it. -/
structure Document where
  value : Draft
  /-- Whether something other than blanks stands after the value. -/
  trailing : Bool

/-- Reads a text as far as it can be read. -/
def Document.ofText (s : String) : Document :=
  let cs := s.toList
  let (value, rest) := Read.readValue (2 * cs.length + 2) cs
  ⟨value, match rest with | none => false | some rest => !(Read.skipBlanks rest).isEmpty⟩

/-! ## Skipping -/

mutual

/-- The flaw that stops one who skips a value. -/
def Draft.skipFlaw : Draft → Option Flaw
  | .torn _ whenSkipped => some whenSkipped
  | .flawed _ whenSkipped => some whenSkipped
  | .array items flaw => (skipItems items).or flaw
  | .object entries flaw => (skipEntries entries).or flaw
  | _ => none

/-- The first flaw in some items. -/
def skipItems : List Draft → Option Flaw
  | [] => none
  | item :: items => item.skipFlaw.or (skipItems items)

/-- The first flaw in some members. -/
def skipEntries : List Entry → Option Flaw
  | [] => none
  | e :: es => e.skipFlaw.or (skipEntries es)

/-- The first flaw in a member. -/
def Entry.skipFlaw : Entry → Option Flaw
  | ⟨key, value⟩ => key.skipFlaw.or value.skipFlaw

end

end TreeScan.Json

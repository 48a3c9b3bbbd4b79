/-!
# Numerals

A numeral is a number as it is written.  Its value is an integer when it has
neither a fraction nor an exponent and fits into 64 bits.  Otherwise it is a
floating-point number.

The floating-point value keeps as many leading digits as fit into an unsigned
word of 64 bits.  It is that word times or divided by a power of ten, each step
rounded once.  A value that is too large does not exist, and one that is too
small is zero.
-/

namespace TreeScan.Json

/-- A number as it is written. -/
structure Numeral where
  negative : Bool
  whole : List Char
  fraction : Option (List Char)
  /-- Whether the exponent is negative, and its digits. -/
  exponent : Option (Bool × List Char)
deriving DecidableEq, Repr

/-- The value of a numeral. -/
inductive Number where
  /-- A natural number below `2 ^ 64`. -/
  | natural (value : Nat)
  /-- A negative integer not below `-2 ^ 63`. -/
  | negative (value : Int)
  | real (value : Float)

/-- The greatest unsigned word. -/
def greatestWord : Nat := Nat.pow 2 64 - 1

/-- The value of a digit. -/
def digitValue (c : Char) : Nat := c.toNat - '0'.toNat

/-- Adds digits to a number as long as it stays a word.  The digits that are
left over are returned with it. -/
def takeDigits (significand : Nat) : List Char → Nat × List Char
  | [] => (significand, [])
  | c :: cs =>
    if significand * 10 + digitValue c ≤ greatestWord then
      takeDigits (significand * 10 + digitValue c) cs
    else (significand, c :: cs)

/-- The floating-point number nearest to `10 ^ n`. -/
def powerOfTen (n : Nat) : Float := Float.ofScientific 1 false n

/-- `f` times or divided by a power of ten.  The powers beyond `10 ^ 308` are
reached in steps.  After four steps down nothing is left of a word. -/
def scale (f : Float) (exponent : Int) : Nat → Option Float
  | 0 => some 0
  | steps + 1 =>
    if exponent.natAbs ≤ 308 then
      if 0 ≤ exponent then
        let scaled := f * powerOfTen exponent.natAbs
        if scaled.isInf then none else some scaled
      else some (f / powerOfTen exponent.natAbs)
    else if f == 0 then some f
    else if 0 ≤ exponent then none
    else scale (f / powerOfTen 308) (exponent + 308) steps

/-- The value of an exponent's digits, if it fits into 31 bits. -/
def exponentValue? (digits : List Char) : Option Nat :=
  let value := digits.foldl (fun n c => n * 10 + digitValue c) 0
  if value < Nat.pow 2 31 then some value else none

/-- The value of a numeral with a fraction, an exponent or too many digits. -/
def Numeral.real? (n : Numeral) : Option Float :=
  let (whole, left) := takeDigits 0 n.whole
  let digits := n.fraction.getD []
  let (significand, dropped) := takeDigits whole digits
  let shift : Int := (left.length : Int) - ((digits.length - dropped.length : Nat) : Int)
  let size : Option Float :=
    match n.exponent with
    | none => scale (UInt64.ofNat significand).toFloat shift 5
    | some (negative, digits) =>
      match exponentValue? digits with
      | some e =>
        scale (UInt64.ofNat significand).toFloat (if negative then shift - e else shift + e) 5
      | none => if significand ≠ 0 && !negative then none else some 0
  size.map fun f => if n.negative then -f else f

/-- The value of a numeral, if it is not too large. -/
def Numeral.value? (n : Numeral) : Option Number :=
  match n.fraction, n.exponent, takeDigits 0 n.whole with
  | none, none, (significand, []) =>
    if !n.negative then some (.natural significand)
    else if significand = 0 then some (.real (-0.0))
    else if significand ≤ Nat.pow 2 63 then some (.negative (-(significand : Int)))
    else some (.real (-(UInt64.ofNat significand).toFloat))
  | _, _, _ => n.real?.map .real

end TreeScan.Json

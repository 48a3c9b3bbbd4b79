import TreeScan.Decimal.Shortest

/-!
# Layouts of decimal numbers

A layout decides how a number is written: which of two equally near decimals is
taken, up to which power of ten the point is put in its place and not moved by
an exponent, and whether a whole number still shows a fraction.
-/

namespace TreeScan.Decimal

/-- How digits are laid out. -/
structure Layout where
  tie : Tie
  /-- The least and greatest power of ten of a leading digit that is written
  in its place.  Without bounds there is never an exponent. -/
  inPlace : Option (Int × Int)
  /-- Whether a whole number ends in `.0`. -/
  wholeFraction : Bool
  /-- How an infinite number is written, given whether it is negative. -/
  infinite : Bool → String
  notANumber : String

/-- Digits with the point in its place. -/
def positional (wholeFraction : Bool) (digits : List Char) (exponent : Int) : List Char :=
  if 0 ≤ exponent then
    digits ++ List.replicate exponent.toNat '0' ++ (if wholeFraction then ['.', '0'] else [])
  else
    let fraction := (-exponent).toNat
    if fraction < digits.length then
      digits.take (digits.length - fraction) ++ '.' :: digits.drop (digits.length - fraction)
    else
      '0' :: '.' :: List.replicate (fraction - digits.length) '0' ++ digits

/-- Digits with the point after the first and a power of ten behind them. -/
def scientific (digits : List Char) (power : Int) : List Char :=
  let mantissa := match digits with
    | [] => []
    | [d] => [d]
    | d :: ds => d :: '.' :: ds
  mantissa ++ 'e' :: (if power < 0 then '-' else '+') :: Nat.toDigits 10 power.natAbs

/-- A decimal number without its sign. -/
def Layout.digits (layout : Layout) (d : Digits) : List Char :=
  let digits := Nat.toDigits 10 d.digits
  let power := (digits.length : Int) - 1 + d.exponent
  match layout.inPlace with
  | none => positional layout.wholeFraction digits d.exponent
  | some (least, greatest) =>
    if least ≤ power && power ≤ greatest then positional layout.wholeFraction digits d.exponent
    else scientific digits power

/-- A floating-point number given by its bits. -/
def Layout.bits (layout : Layout) (bits : UInt64) : String :=
  let sign := if isNegative bits then "-" else ""
  match Magnitude.ofBits bits with
  | .notANumber => layout.notANumber
  | .infinite => layout.infinite (isNegative bits)
  | .finite 0 _ _ => sign ++ String.ofList (layout.digits ⟨0, 0⟩)
  | .finite m q close => sign ++ String.ofList (layout.digits (shortest layout.tie m q close))

/-- A floating-point number. -/
def Layout.float (layout : Layout) (x : Float) : String := layout.bits x.toBits

/-- Numbers in data stay in place from `10 ^ -5` to `10 ^ 15`, and a whole number
shows that it is not an integer.  What is not a number is written as nothing. -/
def data : Layout := ⟨.toEven, some (-5, 15), true, fun _ => "null", "null"⟩

/-- Numbers in a description have no exponent. -/
def plain : Layout :=
  ⟨.up, none, false, fun negative => if negative then "-inf" else "inf", "NaN"⟩

example : String.ofList (data.digits ⟨1, 15⟩) = "1000000000000000.0" := by decide +kernel
example : String.ofList (data.digits ⟨15, 299⟩) = "1.5e+300" := by decide +kernel
example : String.ofList (data.digits ⟨1, -5⟩) = "0.00001" := by decide +kernel
example : String.ofList (data.digits ⟨1, -7⟩) = "1e-7" := by decide +kernel
example : String.ofList (plain.digits ⟨1, 21⟩) = "1000000000000000000000" := by decide +kernel
example : String.ofList (plain.digits ⟨123456789, -3⟩) = "123456.789" := by decide +kernel
example : String.ofList (plain.digits ⟨0, 0⟩) = "0" := by decide +kernel

end TreeScan.Decimal

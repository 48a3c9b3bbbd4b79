/-!
# The shortest decimal that reads back

A binary floating-point number is read from every decimal in an interval around
it.  The interval ends halfway to the two neighbouring numbers, and it contains
its ends exactly when the significand is even.  The *shortest* decimal of the
number is the one with the fewest digits in that interval, and of two with as
few digits the nearer.  Two may be equally near.  Then a rule for ties decides.

The search works on the grids of the multiples of `10 ^ k`, from the coarsest
to the finest, in exact arithmetic.  If a grid has a point in the interval, then
one of the two grid points around the number lies in it.  So two candidates per
grid are enough.
-/

namespace TreeScan.Decimal

/-- What the bits of a floating-point number say about its size. -/
inductive Magnitude where
  /-- The number `significand * 2 ^ exponent`.  The flag tells that the number
  below it is only half as far away as the number above it. -/
  | finite (significand : Nat) (exponent : Int) (closeBelow : Bool)
  | infinite
  | notANumber

/-- Whether the sign bit is set. -/
def isNegative (bits : UInt64) : Bool := bits.toNat / Nat.pow 2 63 == 1

/-- The size of the number that some bits stand for. -/
def Magnitude.ofBits (bits : UInt64) : Magnitude :=
  let field : Nat := bits.toNat / Nat.pow 2 52 % Nat.pow 2 11
  let fraction : Nat := bits.toNat % Nat.pow 2 52
  if field = 2047 then (if fraction = 0 then .infinite else .notANumber)
  else if field = 0 then .finite fraction (-1074) false
  else .finite (Nat.pow 2 52 + fraction) ((field : Int) - 1075) (fraction == 0 && field != 1)

/-- The decimal number `digits * 10 ^ exponent`. -/
structure Digits where
  digits : Nat
  exponent : Int
deriving DecidableEq, Repr

/-- The interval of decimals that read back, as multiples of `numerator / denominator`. -/
structure Interval where
  /-- Four times the number itself. -/
  middle : Nat
  low : Nat
  high : Nat
  /-- Whether the two ends belong to it. -/
  closed : Bool
  numerator : Nat
  denominator : Nat

/-- The interval around `significand * 2 ^ exponent`. -/
def Interval.around (significand : Nat) (exponent : Int) (closeBelow : Bool) : Interval where
  middle := 4 * significand
  low := 4 * significand - (if closeBelow then 1 else 2)
  high := 4 * significand + 2
  closed := significand % 2 == 0
  numerator := Nat.pow 2 (exponent - 2).toNat
  denominator := Nat.pow 2 (2 - exponent).toNat

/-- A number of the interval over the step `10 ^ k`, as a fraction. -/
def Interval.scale (i : Interval) (k : Int) (x : Nat) : Nat × Nat :=
  (x * i.numerator * Nat.pow 10 (-k).toNat, i.denominator * Nat.pow 10 k.toNat)

/-- Whether `d * 10 ^ k` lies in the interval. -/
def Interval.holds (i : Interval) (k : Int) (d : Nat) : Bool :=
  let (low, unit) := i.scale k i.low
  let (high, _) := i.scale k i.high
  if i.closed then low ≤ d * unit && d * unit ≤ high else low < d * unit && d * unit < high

/-- Which of two neighbours is taken that are equally near. -/
inductive Tie where
  /-- The one with an even last digit. -/
  | toEven
  /-- The greater one. -/
  | up
deriving DecidableEq, Repr

/-- Whether a tie between `below` and the number after it goes to `below`. -/
def Tie.goesDown (tie : Tie) (below : Nat) : Bool :=
  match tie with
  | .toEven => below % 2 == 0
  | .up => false

/-- The point of the grid `10 ^ k` in the interval that is nearest to its middle. -/
def Interval.nearest? (i : Interval) (tie : Tie) (k : Int) : Option Nat :=
  let (middle, unit) := i.scale k i.middle
  let below := middle / unit
  match i.holds k below, i.holds k (below + 1) with
  | true, true =>
    let rest := middle % unit
    if 2 * rest < unit || (2 * rest == unit && tie.goesDown below) then some below
    else some (below + 1)
  | true, false => some below
  | false, true => some (below + 1)
  | false, false => none

/-- The first grid with a point in the interval, from `10 ^ k` on to finer ones. -/
def Interval.search (i : Interval) (tie : Tie) : Nat → Int → Digits
  | 0, k => ⟨(i.scale k i.middle).1 / (i.scale k i.middle).2, k⟩
  | steps + 1, k =>
    match i.nearest? tie k with
    | some d => ⟨d, k⟩
    | none => i.search tie steps (k - 1)

/-- A power of ten above `2 ^ binary`. -/
def powerAbove (binary : Int) : Int := binary * 30103 / 100000 + 2

/-- The shortest decimal that reads back as `significand * 2 ^ exponent`.

A number has at most seventeen digits to find, and the first grid is at most
three powers of ten too coarse. -/
def shortest (tie : Tie) (significand : Nat) (exponent : Int) (closeBelow : Bool) : Digits :=
  (Interval.around significand exponent closeBelow).search tie 22
    (powerAbove (significand.log2 + exponent))

example : shortest .up (2 ^ 52) (-52) true = ⟨1, 0⟩ := by decide +kernel
example : shortest .up 1 (-1074) false = ⟨5, -324⟩ := by decide +kernel
example : shortest .up 5404319552844595 (-54) false = ⟨3, -1⟩ := by decide +kernel
example : shortest .up 5404319552844596 (-54) false = ⟨30000000000000004, -17⟩ := by
  decide +kernel
example : shortest .up (2 ^ 53 - 1) 971 false = ⟨17976931348623157, 292⟩ := by decide +kernel
example : shortest .up (2 ^ 52 + 1) (-2) false = ⟨11258999068426243, -1⟩ := by decide +kernel
example : shortest .toEven (2 ^ 52 + 1) (-2) false = ⟨11258999068426242, -1⟩ := by
  decide +kernel

end TreeScan.Decimal

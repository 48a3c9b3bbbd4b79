/-!
# Tables of code points

A property of characters that follows no rule is a table.  It lists the first
and last code point of each range.
-/

namespace TreeScan.Text

/-- Whether a code point lies in one of the ranges of a table. -/
def inRanges (table : List (Nat × Nat)) (code : Nat) : Bool :=
  table.any fun r => r.1 ≤ code && code ≤ r.2

example : inRanges [(3, 5), (9, 9)] 4 = true ∧ inRanges [(3, 5), (9, 9)] 8 = false := by decide

end TreeScan.Text

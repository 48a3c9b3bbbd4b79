/-!
# Settings of a scanner

What a scanner is told once, before it scans anything.
-/

namespace TreeScan

/-- What happens to the static imports of earlier units when a unit is
activated. -/
inductive StaticImportPolicy where
  /-- They stay.  A new import with the same short name replaces the old one. -/
  | accumulate
  /-- They are dropped. -/
  | resetPerUnit
deriving DecidableEq, Repr

/-- The settings of a scanner. -/
structure ScanConfig where
  staticImports : StaticImportPolicy := .accumulate
  /-- Whether a panic becomes a fault of the node that was visited. -/
  catchPanics : Bool := true
  /-- Whether the stack is written to the log after an internal error. -/
  dumpStackOnError : Bool := true
  /-- The number of characters of a node's text in a stack trace. -/
  dumpTextWidth : Nat := 30
deriving DecidableEq, Repr

end TreeScan

/-!
# Spans

A span is a range of byte offsets into a source text.  The stop may come before
the start.  Such a span is empty, and so is one whose ends are equal.
-/

namespace TreeScan

/-- A range of byte offsets. -/
structure Span where
  start : Nat
  stop : Nat
deriving DecidableEq, Repr, Inhabited

namespace Span

/-- The span from the lesser start to the greater stop. -/
def merge (s t : Span) : Span := ⟨min s.start t.start, max s.stop t.stop⟩

/-- The number of bytes of a span. -/
def length (s : Span) : Nat := s.stop - s.start

/-- Whether a span has no bytes. -/
def isEmpty (s : Span) : Bool := s.length == 0

/-- A span as it is shown. -/
def text (s : Span) : String := toString s.start ++ ".." ++ toString s.stop

/-- The merge of all spans of a list.  The empty list has the span `0..0`. -/
def mergeAll : List Span → Span
  | [] => ⟨0, 0⟩
  | s :: ss => ss.foldl merge s

theorem merge_assoc (s t u : Span) : (s.merge t).merge u = s.merge (t.merge u) := by
  simp [merge, Nat.min_assoc, Nat.max_assoc]

theorem merge_comm (s t : Span) : s.merge t = t.merge s := by
  simp [merge, Nat.min_comm, Nat.max_comm]

example : (⟨5, 1⟩ : Span).merge ⟨2, 2⟩ = ⟨2, 2⟩ ∧ (⟨5, 1⟩ : Span).length = 0 := by decide
example : (⟨5, 1⟩ : Span).text = "5..1" := by decide

end Span

/-- Something with the place in the source text where it stands. -/
structure Spanned (α : Type) where
  node : α
  span : Span
deriving DecidableEq, Repr

end TreeScan

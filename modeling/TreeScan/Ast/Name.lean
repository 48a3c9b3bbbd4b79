import TreeScan.Text.Split

/-!
# Dotted names

A qualified name is a list of segments and is written with dots between them.
Reading one from a text drops the empty segments.  The *short name* of a dotted
text is what comes after its last dot.
-/

namespace TreeScan

/-- A name such as `java.util.List`, segment by segment. -/
structure QualifiedName where
  segments : List String
deriving DecidableEq, Repr, Inhabited

namespace QualifiedName

/-- The segments of a dotted text.  Empty segments are dropped. -/
def parse (dotted : String) : QualifiedName :=
  ⟨(Text.splitString '.' dotted).filter (· ≠ "")⟩

/-- The last segment, if there is one. -/
def last? (q : QualifiedName) : Option String := q.segments.getLast?

/-- The segments with dots between them. -/
def text (q : QualifiedName) : String := Text.joinStrings "." q.segments

example : (parse "a..b.").segments = ["a", "b"] ∧ (parse "").segments = [] := by decide
example : (parse "pkg.Holder.member").text = "pkg.Holder.member" := by decide

end QualifiedName

/-- What comes after the last dot of a text, or all of it. -/
def shortName (dotted : String) : String :=
  ((Text.splitString '.' dotted).getLast?).getD dotted

example : shortName "pkg.Holder.*" = "*" ∧ shortName "solo" = "solo" ∧ shortName "q." = "" := by
  decide

end TreeScan

import TreeScan.Ast.Node
import TreeScan.Scan.Imports

/-!
# Dotted names

A name is a list of segments, and its text has dots between them.  Three functions take such
texts apart again, each in its own way.

*Reading.*  `QualifiedName.parse` cuts at every dot and drops empty segments.  So it reads a
name back from its text if and only if the name is plain, that is, if no segment is empty or
has a dot of its own (`QualifiedName.parse_text_iff`).  What was read is plain
(`QualifiedName.plain_parse`).

*Short names.*  `shortName` is what comes after the last dot (`shortName_eq_iff`).  Here an
empty segment does no harm, and only dots in the segments do.  If there are none, the short
name of a name's text is its last segment (`QualifiedName.shortName_text`).

*Wildcards.*  The identifier of a wildcard import is the text of its name with `.*` after it.
The star comes after a dot, so it is the short name, whatever the segments are.
-/

namespace TreeScan

namespace QualifiedName

variable {q : QualifiedName}

/-! ## Reading a name back -/

/-- No segment of a name is empty, and none has a dot. -/
def Plain (q : QualifiedName) : Prop :=
  ∀ segment ∈ q.segments, segment ≠ "" ∧ '.' ∉ segment.toList

theorem plain_parse (dotted : String) : (parse dotted).Plain := by
  intro segment h
  obtain ⟨hmem, hne⟩ := List.mem_filter.1 h
  exact ⟨by simpa using hne, Text.not_mem_of_mem_splitString hmem⟩

theorem splitString_text (hne : q.segments ≠ [])
    (h : ∀ segment ∈ q.segments, '.' ∉ segment.toList) :
    Text.splitString '.' q.text = q.segments :=
  Text.splitString_joinStrings hne h

theorem parse_text (h : q.Plain) : parse q.text = q := by
  obtain ⟨segments⟩ := q
  cases segments with
  | nil => rfl
  | cons first segments =>
      have hsplit : Text.splitString '.' (text ⟨first :: segments⟩) = first :: segments :=
        splitString_text (List.cons_ne_nil first segments) fun s hs => (h s hs).2
      have hfilter : (first :: segments).filter (· ≠ "") = first :: segments :=
        List.filter_eq_self.2 fun s hs => by simpa using (h s hs).1
      rw [parse, hsplit, hfilter]

theorem parse_text_iff (q : QualifiedName) : parse q.text = q ↔ q.Plain := by
  constructor
  · intro h
    rw [← h]
    exact plain_parse q.text
  · exact parse_text

end QualifiedName

/-! ## Short names -/

theorem shortName_of_getLast? {dotted piece : String}
    (h : (Text.splitString '.' dotted).getLast? = some piece) : shortName dotted = piece := by
  rw [shortName, h, Option.getD_some]

/-- A name without a dot that is all of a text, or that comes after a dot and ends it. -/
structure IsShortName (dotted name : String) : Prop where
  ends : dotted = name ∨ ∃ before, dotted = before ++ "." ++ name
  dotless : '.' ∉ name.toList

theorem isShortName_shortName (dotted : String) : IsShortName dotted (shortName dotted) := by
  obtain ⟨before, piece, hlast, hsplit, hpiece, hbefore⟩ := Text.getLast?_split '.' dotted.toList
  have hshort : shortName dotted = String.ofList piece := by
    rw [shortName, Text.splitString, List.getLast?_map, hlast]
    rfl
  have htext : dotted = String.ofList before ++ String.ofList piece := by
    rw [← String.ofList_append, ← hsplit, String.ofList_toList]
  rw [hshort]
  refine ⟨?_, by rwa [String.toList_ofList]⟩
  rcases hbefore with rfl | hdot
  · exact .inl (htext.trans String.empty_append)
  · obtain ⟨first, rfl⟩ := List.getLast?_eq_some_iff.1 hdot
    exact .inr ⟨String.ofList first, by rw [htext, String.ofList_append]⟩

/-- A text has one short name. -/
theorem shortName_eq_iff {dotted name : String} :
    shortName dotted = name ↔ IsShortName dotted name := by
  constructor
  · rintro rfl
    exact isShortName_shortName dotted
  · rintro ⟨rfl | ⟨before, rfl⟩, hdotless⟩
    · apply shortName_of_getLast?
      rw [Text.splitString_of_not_mem hdotless]
      rfl
    · apply shortName_of_getLast?
      have hsplit := Text.splitString_append '.' before name
      rw [Text.splitString_of_not_mem hdotless] at hsplit
      exact (congrArg List.getLast? hsplit).trans List.getLast?_concat

namespace QualifiedName

variable {q : QualifiedName}

theorem shortName_text (hne : q.segments ≠ [])
    (h : ∀ segment ∈ q.segments, '.' ∉ segment.toList) : q.last? = some (shortName q.text) := by
  have hlast := List.getLast?_eq_some_getLast hne
  have hshort : shortName q.text = q.segments.getLast hne := by
    apply shortName_of_getLast?
    rw [splitString_text hne h, hlast]
  rw [last?, hlast, hshort]

theorem shortName_text_star (q : QualifiedName) : shortName (q.text ++ ".*") = "*" := by
  have hdot : q.text ++ ".*" = q.text ++ String.singleton '.' ++ "*" := by
    rw [String.append_assoc]
    rfl
  have hstar : Text.splitString '.' "*" = ["*"] := by decide
  apply shortName_of_getLast?
  rw [hdot, Text.splitString_append, hstar, List.getLast?_concat]

end QualifiedName

/-! ## Imports -/

/-- An import whose name has segments, none of them with a dot.  They may be empty. -/
structure ImportDecl.WellNamed (i : ImportDecl) : Prop where
  named : i.name.segments ≠ []
  dotless : ∀ segment ∈ i.name.segments, '.' ∉ segment.toList

namespace StaticImports

variable {d : Spanned ImportDecl}

theorem nameOf_of_wildcard (h : d.node.wildcard = true) : nameOf d = "*" := by
  rw [nameOf, ImportDecl.identifier, if_pos h]
  exact d.node.name.shortName_text_star

theorem last?_of_wellNamed (h : d.node.WellNamed) (hone : d.node.wildcard = false) :
    d.node.name.last? = some (nameOf d) := by
  rw [nameOf, ImportDecl.identifier, if_neg (by simp [hone])]
  exact QualifiedName.shortName_text h.named h.dotless

end StaticImports

open StaticImports in
/-- What is read from a text is read again from its own text.  A name is read back from its
text if and only if no segment is empty or has a dot.  The static imports enter an import
under `*` if it is a wildcard, and else under the last segment of its name, which is also the
name of its node.  So two imports that are no wildcards take each other's place if and only if
their last segments are equal. -/
theorem dotted_names_agree :
    (∀ dotted,
      QualifiedName.parse (QualifiedName.parse dotted).text = QualifiedName.parse dotted) ∧
    (∀ q : QualifiedName, QualifiedName.parse q.text = q ↔
      ∀ segment ∈ q.segments, segment ≠ "" ∧ '.' ∉ segment.toList) ∧
    (∀ d : Spanned ImportDecl, d.node.WellNamed →
      (d.node.wildcard = true → nameOf d = "*") ∧
      (d.node.wildcard = false → d.node.name.last? = some (nameOf d) ∧
        ∀ place, (Node.mk place (.importDecl d)).name? = some (nameOf d))) ∧
    (∀ d e : Spanned ImportDecl, d.node.WellNamed → e.node.WellNamed →
      d.node.wildcard = false → e.node.wildcard = false →
      (nameOf d = nameOf e ↔ d.node.name.last? = e.node.name.last?)) := by
  refine ⟨fun dotted => ?_, QualifiedName.parse_text_iff, fun d h => ?_,
    fun d e hd he hdone heone => ?_⟩
  · exact QualifiedName.parse_text (QualifiedName.plain_parse dotted)
  · refine ⟨nameOf_of_wildcard, fun hone => ?_⟩
    have hlast := last?_of_wellNamed h hone
    exact ⟨hlast, fun _ => hlast⟩
  · rw [last?_of_wellNamed hd hdone, last?_of_wellNamed he heone, Option.some_inj]

/-- An import whose name ends in an empty segment, so that its text ends in a dot. -/
def trailingImport (first : String) (wildcard : Bool) : Spanned ImportDecl :=
  ⟨⟨true, ⟨[first, ""]⟩, wildcard⟩, ⟨0, 9⟩⟩

theorem trailing_names_agree :
    (trailingImport "a" false).node.WellNamed ∧ (trailingImport "b" false).node.WellNamed ∧
      StaticImports.nameOf (trailingImport "a" false) =
        StaticImports.nameOf (trailingImport "b" false) ∧
      (trailingImport "a" true).node.WellNamed ∧
      StaticImports.nameOf (trailingImport "a" true) = "*" := by
  have hsingle : (trailingImport "a" false).node.WellNamed := ⟨by decide, by decide⟩
  have hother : (trailingImport "b" false).node.WellNamed := ⟨by decide, by decide⟩
  have hstar : (trailingImport "a" true).node.WellNamed := ⟨by decide, by decide⟩
  obtain ⟨_, _, hname, hshared⟩ := dotted_names_agree
  have hplace := (hshared _ _ hsingle hother rfl rfl).2 rfl
  exact ⟨hsingle, hother, hplace, hstar, (hname _ hstar).1 rfl⟩

/-- An empty segment is dropped, and a segment with a dot is cut. -/
example :
    QualifiedName.parse (QualifiedName.mk ["a", "", "b.c"]).text = ⟨["a", "b", "c"]⟩ ∧
      shortName (QualifiedName.mk ["a", "", "b.c"]).text = "c" := by
  decide

end TreeScan

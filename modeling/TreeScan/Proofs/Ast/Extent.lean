import Mathlib.Order.Bounds.Basic
import TreeScan.Ast.Tree

/-!
# The extent of a unit

The span of a unit is put together from the spans of its declarations, one after the
other.  What comes out is their hull: it goes from the least start to the greatest stop
(`Span.mergeAll_isHull`).  Nothing is assumed of the declarations.  They may stand in any
order, overlap, and stop before they start.

The hull grows with the spans, as a set (`Span.IsHull.mono`).  So it is the only one, and
neither the order of the spans nor a repetition matters.  If the spans are well-formed, then
the hull is the smallest span that contains them all (`Span.IsHull.contains_of_contains`).

A unit without declarations has the span `0..0`.  This is not a hull, and it takes no part
when a declaration is added.
-/

namespace TreeScan

namespace Span

/-! ## Hulls -/

/-- A span goes from the least start of some spans to their greatest stop. -/
structure IsHull (s : Span) (spans : List Span) : Prop where
  start_isLeast : IsLeast {offset | offset ∈ spans.map start} s.start
  stop_isGreatest : IsGreatest {offset | offset ∈ spans.map stop} s.stop

variable {s t : Span} {spans others : List Span}

theorem isHull_singleton (s : Span) : s.IsHull [s] where
  start_isLeast := by simp
  stop_isGreatest := by simp

theorem setOf_mem_cons (offset : Nat) (offsets : List Nat) :
    {o | o ∈ offset :: offsets} = insert offset {o | o ∈ offsets} :=
  Set.ext fun _ => List.mem_cons

/-- One span more is merged into the hull. -/
theorem IsHull.merge (h : t.IsHull spans) (s : Span) : (s.merge t).IsHull (s :: spans) where
  start_isLeast := by
    rw [List.map_cons, setOf_mem_cons]
    exact h.start_isLeast.insert s.start
  stop_isGreatest := by
    rw [List.map_cons, setOf_mem_cons]
    exact h.stop_isGreatest.insert s.stop

instance : Std.Associative merge := ⟨merge_assoc⟩

theorem mergeAll_cons (s : Span) (h : spans ≠ []) :
    mergeAll (s :: spans) = s.merge (mergeAll spans) := by
  cases spans with
  | nil => exact absurd rfl h
  | cons t spans => exact List.foldl_assoc

/-- The merge of some spans is their hull, if there are any. -/
theorem mergeAll_isHull (h : spans ≠ []) : (mergeAll spans).IsHull spans := by
  induction spans with
  | nil => exact absurd rfl h
  | cons s spans ih =>
      by_cases hnil : spans = []
      · subst hnil
        exact isHull_singleton s
      · rw [mergeAll_cons s hnil]
        exact (ih hnil).merge s

/-- The hull of more spans starts no later and stops no earlier. -/
theorem IsHull.mono (hs : s.IsHull spans) (ht : t.IsHull others) (h : spans ⊆ others) :
    t.start ≤ s.start ∧ s.stop ≤ t.stop :=
  ⟨hs.start_isLeast.mono ht.start_isLeast (List.map_subset start h),
    hs.stop_isGreatest.mono ht.stop_isGreatest (List.map_subset stop h)⟩

theorem IsHull.unique (hs : s.IsHull spans) (ht : t.IsHull others) (h : spans ⊆ others)
    (h' : others ⊆ spans) : s = t := by
  obtain ⟨hstart, hstop⟩ := hs.mono ht h
  obtain ⟨hstart', hstop'⟩ := ht.mono hs h'
  cases s
  cases t
  rw [Span.mk.injEq]
  exact ⟨hstart'.antisymm hstart, hstop.antisymm hstop'⟩

theorem mergeAll_eq_of_perm (h : spans.Perm others) : mergeAll spans = mergeAll others := by
  by_cases hnil : spans = []
  · subst hnil
    rw [h.nil_eq]
  · have hnil' : others ≠ [] := by
      rintro rfl
      exact hnil h.eq_nil
    exact (mergeAll_isHull hnil).unique (mergeAll_isHull hnil') h.subset h.symm.subset

/-! ## Offsets -/

/-- Whether an offset lies in a span.  Both ends do, so that an empty span has its place. -/
def Has (s : Span) (offset : Nat) : Prop := s.start ≤ offset ∧ offset ≤ s.stop

/-- A span has all offsets of another one. -/
def Contains (s t : Span) : Prop := ∀ offset, t.Has offset → s.Has offset

theorem contains_of_le (hstart : s.start ≤ t.start) (hstop : t.stop ≤ s.stop) : s.Contains t :=
  fun _ h => ⟨hstart.trans h.1, h.2.trans hstop⟩

/-- Only a well-formed span has offsets. -/
theorem contains_iff (h : t.start ≤ t.stop) :
    s.Contains t ↔ s.start ≤ t.start ∧ t.stop ≤ s.stop := by
  refine ⟨fun hcontains => ?_, fun ⟨hstart, hstop⟩ => contains_of_le hstart hstop⟩
  exact ⟨(hcontains t.start ⟨le_rfl, h⟩).1, (hcontains t.stop ⟨h, le_rfl⟩).2⟩

theorem IsHull.start_le (hs : s.IsHull spans) (ht : t ∈ spans) : s.start ≤ t.start :=
  hs.start_isLeast.2 (List.mem_map_of_mem ht)

theorem IsHull.le_stop (hs : s.IsHull spans) (ht : t ∈ spans) : t.stop ≤ s.stop :=
  hs.stop_isGreatest.2 (List.mem_map_of_mem ht)

/-- The hull of well-formed spans is well-formed. -/
theorem IsHull.start_le_stop (hs : s.IsHull spans) (hformed : ∀ t ∈ spans, t.start ≤ t.stop) :
    s.start ≤ s.stop := by
  obtain ⟨t, ht, hstart⟩ := List.mem_map.1 hs.start_isLeast.1
  rw [← hstart]
  exact (hformed t ht).trans (hs.le_stop ht)

/-- What contains some well-formed spans goes from their hull's start to its stop or
further. -/
theorem IsHull.le_of_contains (hs : s.IsHull spans) (hformed : ∀ t ∈ spans, t.start ≤ t.stop)
    {u : Span} (hu : ∀ t ∈ spans, u.Contains t) : u.start ≤ s.start ∧ s.stop ≤ u.stop := by
  obtain ⟨t, ht, hstart⟩ := List.mem_map.1 hs.start_isLeast.1
  obtain ⟨t', ht', hstop⟩ := List.mem_map.1 hs.stop_isGreatest.1
  rw [← hstart, ← hstop]
  exact ⟨((contains_iff (hformed t ht)).1 (hu t ht)).1,
    ((contains_iff (hformed t' ht')).1 (hu t' ht')).2⟩

end Span

/-! ## Units -/

namespace CompilationUnit

/-- The spans of the imports and type declarations of a unit. -/
def declSpans (u : CompilationUnit) : List Span :=
  u.imports.map Spanned.span ++ u.types.map Spanned.span

variable {u v : CompilationUnit}

theorem declSpans_ne_nil (h : u.imports ≠ [] ∨ u.types ≠ []) : u.declSpans ≠ [] := by
  simpa [declSpans, or_iff_not_imp_left] using h

theorem declSpans_subset (himports : u.imports ⊆ v.imports) (htypes : u.types ⊆ v.types) :
    u.declSpans ⊆ v.declSpans :=
  List.append_subset.2
    ⟨List.subset_append_of_subset_left _ (List.map_subset _ himports),
      List.subset_append_of_subset_right _ (List.map_subset _ htypes)⟩

theorem declSpans_perm (himports : u.imports.Perm v.imports) (htypes : u.types.Perm v.types) :
    u.declSpans.Perm v.declSpans :=
  (himports.map _).append (htypes.map _)

/-- The span of a unit with a declaration goes from the least start of its imports and type
declarations to their greatest stop.  With more declarations it starts no later and stops
no earlier.  If the spans of the declarations are well-formed, then so is that of the unit,
and it is the smallest span that contains each of them.

A unit without declarations has the span `0..0`.  The order of declarations does not
matter. -/
theorem span_covers_declarations (u : CompilationUnit) :
    (u.imports = [] → u.types = [] → u.span = ⟨0, 0⟩) ∧
    (u.imports ≠ [] ∨ u.types ≠ [] →
      u.span.IsHull u.declSpans ∧
      (∀ v : CompilationUnit, u.imports ⊆ v.imports → u.types ⊆ v.types →
        v.span.start ≤ u.span.start ∧ u.span.stop ≤ v.span.stop) ∧
      ((∀ s ∈ u.declSpans, s.start ≤ s.stop) →
        u.span.start ≤ u.span.stop ∧ (∀ s ∈ u.declSpans, u.span.Contains s) ∧
        ∀ t : Span, (∀ s ∈ u.declSpans, t.Contains s) →
          t.Contains u.span ∧ u.span.length ≤ t.length)) ∧
    (∀ v : CompilationUnit, u.imports.Perm v.imports → u.types.Perm v.types →
      u.span = v.span) := by
  refine ⟨fun himports htypes => ?_, fun h => ?_, fun v himports htypes => ?_⟩
  · show Span.mergeAll (u.imports.map _ ++ u.types.map _) = _
    rw [himports, htypes]
    rfl
  · have hne : u.declSpans ≠ [] := declSpans_ne_nil h
    have hhull : u.span.IsHull u.declSpans := Span.mergeAll_isHull hne
    refine ⟨hhull, fun v himports htypes => ?_, fun hformed =>
      ⟨hhull.start_le_stop hformed, fun s hs => ?_, fun t ht => ?_⟩⟩
    · have hsubset : u.declSpans ⊆ v.declSpans := declSpans_subset himports htypes
      have hne' : v.declSpans ≠ [] := fun hnil => hne (List.subset_nil.1 (hnil ▸ hsubset))
      exact hhull.mono (Span.mergeAll_isHull hne') hsubset
    · exact Span.contains_of_le (hhull.start_le hs) (hhull.le_stop hs)
    · obtain ⟨hstart, hstop⟩ := hhull.le_of_contains hformed ht
      refine ⟨Span.contains_of_le hstart hstop, ?_⟩
      show u.span.stop - u.span.start ≤ t.stop - t.start
      omega
  · exact Span.mergeAll_eq_of_perm (declSpans_perm himports htypes)

/-- Imports that stand apart, and a type between them. -/
def scattered : CompilationUnit :=
  ⟨"A.java", none,
    [⟨⟨false, .parse "a.B", false⟩, ⟨30, 40⟩⟩, ⟨⟨false, .parse "a.C", false⟩, ⟨10, 20⟩⟩],
    [⟨⟨.classType, "A", []⟩, ⟨22, 28⟩⟩]⟩

/-- The same declarations in another order. -/
def reordered : CompilationUnit :=
  { scattered with imports := scattered.imports.reverse }

/-- The same declarations and one more, which has no bytes but reaches further. -/
def enlarged : CompilationUnit :=
  { scattered with types := ⟨⟨.enumType, "E", []⟩, ⟨50, 50⟩⟩ :: scattered.types }

theorem scattered_covered :
    (scattered.imports ≠ [] ∧ scattered.span.IsHull scattered.declSpans) ∧
    ((∀ s ∈ scattered.declSpans, s.start ≤ s.stop) ∧ (⟨10, 40⟩ : Span).Contains scattered.span) ∧
    (scattered.types ⊆ enlarged.types ∧ scattered.span.stop ≤ enlarged.span.stop) ∧
    scattered.imports.Perm reordered.imports ∧ scattered.span = reordered.span := by
  obtain ⟨-, hcovers, horder⟩ := span_covers_declarations scattered
  have hne : scattered.imports ≠ [] := List.cons_ne_nil _ _
  have hformed : ∀ s ∈ scattered.declSpans, s.start ≤ s.stop := by decide
  have hcontains : ∀ s ∈ scattered.declSpans, (⟨10, 40⟩ : Span).Contains s := by
    intro s hs
    have hends : ∀ s ∈ scattered.declSpans, 10 ≤ s.start ∧ s.stop ≤ 40 := by decide
    exact Span.contains_of_le (hends s hs).1 (hends s hs).2
  have htypes : scattered.types ⊆ enlarged.types := List.subset_cons_self _ _
  have hperm : scattered.imports.Perm reordered.imports := (List.reverse_perm _).symm
  obtain ⟨hhull, hmore, hleast⟩ := hcovers (.inl hne)
  exact ⟨⟨hne, hhull⟩, ⟨hformed, ((hleast hformed).2.2 _ hcontains).1⟩,
    ⟨htypes, (hmore enlarged (List.Subset.refl _) htypes).2⟩, hperm,
    horder reordered hperm (.refl _)⟩

/-- Spans that stop before they start have a hull too.  `0..0` takes no part in it. -/
example : Span.mergeAll [⟨30, 20⟩, ⟨25, 10⟩] = ⟨25, 20⟩ ∧ Span.mergeAll [] = ⟨0, 0⟩ := by
  decide

end CompilationUnit

end TreeScan

import Mathlib.Data.List.Perm.Lattice
import TreeScan.Proofs.Scan.Sessions

/-!
# Static imports over a session

The table of static imports is filled unit by unit.  What it holds at any time follows
from the units that were activated so far and nothing else: under a short name stands
the last static import with that name among the imports that count.  All units count,
one after the other, or only the last one, as the settings say.

The law is shown for one insertion (`get?_insert`), for the imports of a unit
(`Follows.enterAll`) and for an activation (`Follows.register`).  No other step of a
scanner touches the table, so it holds after every step of every session
(`Session.imports_follow_activations`).
-/

namespace TreeScan

/-! ## The law -/

/-- The last static import with a short name. -/
def lastStatic? (imports : List (Spanned ImportDecl)) (name : String) :
    Option (Spanned ImportDecl) :=
  imports.reverse.find? fun d => d.node.isStatic && StaticImports.nameOf d == name

/-- The imports that count after some units were activated. -/
def StaticImportPolicy.counted : StaticImportPolicy → List CompilationUnit →
    List (Spanned ImportDecl)
  | .accumulate, units => units.flatMap (·.imports)
  | .resetPerUnit, units => units.getLast?.elim [] (·.imports)

theorem lastStatic?_snoc (imports : List (Spanned ImportDecl)) (d : Spanned ImportDecl)
    (name : String) :
    lastStatic? (imports ++ [d]) name =
      if d.node.isStatic && StaticImports.nameOf d == name then some d
      else lastStatic? imports name := by
  rw [lastStatic?, List.reverse_append, List.reverse_singleton, List.singleton_append,
    List.find?_cons]
  cases d.node.isStatic && StaticImports.nameOf d == name with
  | true => rfl
  | false => rfl

theorem lastStatic?_spec {imports : List (Spanned ImportDecl)} {name : String}
    {d : Spanned ImportDecl} (h : lastStatic? imports name = some d) :
    d ∈ imports ∧ d.node.isStatic = true ∧ StaticImports.nameOf d = name := by
  have hd := List.find?_some h
  have hmem := List.mem_of_find?_eq_some h
  rw [Bool.and_eq_true, beq_iff_eq] at hd
  exact ⟨List.mem_reverse.1 hmem, hd⟩

namespace StaticImports

variable {table : StaticImports} {imports : List (Spanned ImportDecl)}

/-! ## One insertion -/

theorem lookup_cons_eq (key : String) (entry : String × Spanned ImportDecl)
    (entries : List (String × Spanned ImportDecl)) :
    (entry :: entries).lookup key = if entry.1 = key then some entry.2 else entries.lookup key := by
  obtain ⟨name, d⟩ := entry
  rw [List.lookup_cons]
  by_cases hk : name = key
  · simp [hk]
  · simp [hk, beq_false_of_ne (Ne.symm hk)]

theorem lookup_putEntry (name key : String) (d : Spanned ImportDecl)
    (entries : List (String × Spanned ImportDecl)) :
    (putEntry name d entries).lookup key = if name = key then some d else entries.lookup key := by
  induction entries with
  | nil => exact lookup_cons_eq key (name, d) []
  | cons entry entries ih =>
      rw [putEntry]
      split
      · next he =>
          rw [lookup_cons_eq, lookup_cons_eq, he]
          split <;> rfl
      · next he =>
          rw [lookup_cons_eq, lookup_cons_eq, ih]
          by_cases hk : name = key
          · rw [if_neg fun e => he (e.trans hk.symm), if_pos hk, if_pos hk]
          · rw [if_neg hk, if_neg hk]

/-- An insertion changes what stands under one name. -/
theorem get?_insert (table : StaticImports) (name key : String) (d : Spanned ImportDecl) :
    (table.insert name d).get? key = if name = key then some d else table.get? key :=
  lookup_putEntry name key d table.entries

/-! ## Many insertions -/

/-- Under every short name stands the last static import with that name. -/
def Follows (table : StaticImports) (imports : List (Spanned ImportDecl)) : Prop :=
  ∀ name, table.get? name = lastStatic? imports name

theorem empty_follows : empty.Follows [] := fun _ => rfl

namespace Follows

theorem insert (h : table.Follows imports) {d : Spanned ImportDecl} (hd : d.node.isStatic = true) :
    (table.insert (nameOf d) d).Follows (imports ++ [d]) := by
  intro name
  rw [get?_insert, lastStatic?_snoc, hd, h name, Bool.true_and]
  simp only [beq_iff_eq]

theorem skip (h : table.Follows imports) {d : Spanned ImportDecl} (hd : d.node.isStatic = false) :
    table.Follows (imports ++ [d]) := by
  intro name
  rw [lastStatic?_snoc, hd, h name]
  rfl

theorem enterAll (h : table.Follows imports) (more : List (Spanned ImportDecl)) :
    (table.enterAll (more.filter (·.node.isStatic))).1.Follows (imports ++ more) := by
  induction more generalizing table imports with
  | nil =>
      rw [List.append_nil]
      exact h
  | cons d more ih =>
      rw [List.append_cons]
      cases hd : d.node.isStatic with
      | true =>
          rw [List.filter_cons, if_pos hd]
          exact ih (h.insert hd)
      | false =>
          rw [List.filter_cons, if_neg (by simp [hd])]
          exact ih (h.skip hd)

/-- Registering a unit adds it to the units that were activated. -/
theorem register {policy : StaticImportPolicy} {units : List CompilationUnit}
    (h : table.Follows (policy.counted units)) (unit : CompilationUnit) :
    (table.register policy unit).1.Follows (policy.counted (units ++ [unit])) := by
  cases policy with
  | accumulate =>
      have hall := h.enterAll unit.imports
      rw [StaticImportPolicy.counted, List.flatMap_append, List.flatMap_singleton]
      exact hall
  | resetPerUnit =>
      have hlast := empty_follows.enterAll unit.imports
      rw [StaticImportPolicy.counted, List.getLast?_concat]
      exact hlast

end Follows

/-! ## What else there is to see of a table -/

/-- An entry is what stands under its name. -/
theorem mem_entries_iff (table : StaticImports) (name : String) (d : Spanned ImportDecl) :
    (name, d) ∈ table.entries ↔ table.get? name = some d := by
  have hnodup := table.names_nodup
  rw [get?, List.lookup_eq_some_iff]
  constructor
  · intro hmem
    obtain ⟨before, after, hsplit⟩ := List.append_of_mem hmem
    refine ⟨before, after, hsplit, fun entry hentry => ?_⟩
    rw [hsplit, List.map_append, List.map_cons] at hnodup
    have hne := List.disjoint_of_nodup_append hnodup (List.mem_map_of_mem hentry)
    rw [bne_iff_ne]
    rintro rfl
    exact hne List.mem_cons_self
  · rintro ⟨before, after, hsplit, -⟩
    rw [hsplit]
    exact List.mem_append_right _ List.mem_cons_self

theorem mem_names_iff (table : StaticImports) (name : String) :
    name ∈ table.entries.map Prod.fst ↔ (table.get? name).isSome = true := by
  rw [List.mem_map, Option.isSome_iff_exists]
  constructor
  · rintro ⟨⟨_, d⟩, hmem, rfl⟩
    exact ⟨d, (table.mem_entries_iff _ d).1 hmem⟩
  · rintro ⟨d, hd⟩
    exact ⟨(name, d), (table.mem_entries_iff name d).2 hd, rfl⟩

/-- A table that shows some imports, whichever way it is looked at. -/
structure Shows (table : StaticImports) (imports : List (Spanned ImportDecl)) : Prop where
  get_eq : ∀ name, table.get? name = lastStatic? imports name
  contains_eq : ∀ name, table.contains name = (table.get? name).isSome
  mem_iff : ∀ name d, (name, d) ∈ table.entries ↔ table.get? name = some d
  /-- No name is listed twice. -/
  names_nodup : (table.entries.map Prod.fst).Nodup
  /-- There are as many entries as names with something under them. -/
  size_eq : ∀ names : List String, names.Nodup →
    (∀ name, name ∈ names ↔ (table.get? name).isSome = true) → table.size = names.length
  only_static : ∀ entry ∈ table.entries, entry.2 ∈ imports ∧ entry.2.node.isStatic = true ∧
    nameOf entry.2 = entry.1

theorem Follows.shows (h : table.Follows imports) : table.Shows imports where
  get_eq := h
  contains_eq _ := rfl
  mem_iff := table.mem_entries_iff
  names_nodup := table.names_nodup
  size_eq names hnodup hnames := by
    have hperm : (table.entries.map Prod.fst).Perm names :=
      (List.perm_ext_iff_of_nodup table.names_nodup hnodup).2 fun name =>
        (table.mem_names_iff name).trans (hnames name).symm
    rw [size, ← hperm.length_eq, List.length_map]
  only_static entry hentry := by
    have hget := (table.mem_entries_iff entry.1 entry.2).1 hentry
    exact lastStatic?_spec ((h entry.1).symm.trans hget)

end StaticImports

/-! ## Sessions -/

variable {η : Type}

/-- No step but an activation touches the static imports. -/
theorem imports_kept (setup : Setup η) :
    Engine.Kept setup fun cs s =>
      s.imports.Follows (setup.config.staticImports.counted (Change.units cs)) where
  restack _ h := h
  note _ h := h
  report n name problem params h := by
    unfold Scanner.report
    cases setup.handler with
    | none => exact h
    | some handler => exact h
  lines {cs s} h := by
    unfold Scanner.lines
    cases s.unit with
    | none => exact h
    | some unit => exact h
  change {cs s} c h := by
    rw [Change.units_append]
    cases c with
    | activate unit =>
        rw [Change.units_activate]
        cases unit with
        | none =>
            rw [Option.toList_none, List.append_nil]
            exact h
        | some unit => exact h.register unit
    | editFiles edit =>
        rw [Change.units_editFiles, List.append_nil]
        exact h

/-- A run activates its unit before anything else, whatever comes of the run. -/
theorem Engine.runChanges_scanUnit {σ κ : Type} (setup : Setup η) (pass : Pass σ κ)
    (limit tree : Nat) (unit : CompilationUnit) (s : ScanState σ η) :
    runChanges setup pass limit (.scanUnit tree unit) s =
      .activate (some unit) :: runChanges setup pass limit (Visit.scanRoot (.root tree unit))
        (s.on (s.scanner.activate setup (some unit))) := rfl

/-- After every step of a session the static imports are those of the units that were
activated up to then, in this order, and the table shows the same whichever way it is
looked at.  A step counts whether it completed, failed or panicked.  To activate no unit
changes the active unit and nothing else. -/
theorem Session.imports_follow_activations (setup : Setup η) (limit : Nat) (session : Session)
    (files : FileStore) (reports : η) :
    (∀ before last after s,
      session.steps setup limit (.idle files reports) = before ++ last :: after →
      last.scanner? = some s →
      s.imports.Shows
        (setup.config.staticImports.counted ((before ++ [last]).flatMap Step.units))) ∧
    ∀ s : Scanner η, s.activate setup none = { s with unit := none } := by
  refine ⟨fun before last after s hsteps hlast => ?_, fun s => rfl⟩
  have hidle : (Scanner.idle files reports).imports.Follows
      (setup.config.staticImports.counted (Change.units [])) := by
    cases setup.config.staticImports with
    | accumulate => exact StaticImports.empty_follows
    | resetPerUnit => exact StaticImports.empty_follows
  have hkept := steps_keep (imports_kept setup) limit session hidle hsteps hlast
  have hunits : Change.units ((before ++ [last]).flatMap Step.changes) =
      (before ++ [last]).flatMap Step.units := List.filterMap_flatMap ..
  rw [List.nil_append, hunits] at hkept
  exact hkept.shows

/-- A static import of a name. -/
def staticImport (dotted : String) : Spanned ImportDecl := ⟨⟨true, .parse dotted, false⟩, ⟨0, 0⟩⟩

/-- Imports `A.m` and all static members of `A`. -/
def importsOfA : CompilationUnit where
  path := "A.java"
  package := none
  imports := [staticImport "A.m", ⟨⟨true, .parse "A", true⟩, ⟨0, 0⟩⟩]
  types := []

/-- Imports `B.m`, and `B.n` without static members. -/
def importsOfB : CompilationUnit where
  path := "B.java"
  package := none
  imports := [staticImport "B.m", ⟨⟨false, .parse "B.n", false⟩, ⟨0, 0⟩⟩]
  types := []

/-- Panics at every node. -/
def refusing : Pass Unit Empty where
  visit _ := .panic .other
  resume callback _ := callback.elim

/-- Two units are activated by runs that panic, then none is, and then the first is again. -/
def overlapping : Session :=
  .step refusing () (Visit.scanUnit 0 importsOfA) fun _ _ =>
    .step refusing () (Visit.scanUnit 1 importsOfB) fun _ _ =>
      .step refusing () (Visit.activate none) fun _ _ =>
        .step refusing () (Visit.scanUnit 0 importsOfA) fun _ _ => .done

/-- Both units import an `m`.  The one that was activated again comes last. -/
theorem overlapping_imports :
    ∃ before last s,
      overlapping.steps ⟨{ catchPanics := false }, none, spanPositions⟩ 1
        (.idle (.empty []) ()) = before ++ [last] ∧
      before.length = 3 ∧ last.scanner? = some s ∧
      s.imports.get? "m" = some (staticImport "A.m") ∧ s.imports.contains "n" = false ∧
      (s.activate ⟨{ catchPanics := false }, none, spanPositions⟩ none).imports = s.imports := by
  obtain ⟨hshows, hnone⟩ := Session.imports_follow_activations
    ⟨{ catchPanics := false }, none, spanPositions⟩ 1 overlapping (.empty []) ()
  refine ⟨[_, _, _], _, _, rfl, rfl, rfl, ?_, ?_, ?_⟩
  · rw [(hshows [_, _, _] _ [] _ rfl rfl).get_eq]
    decide +kernel
  · rw [(hshows [_, _, _] _ [] _ rfl rfl).contains_eq, (hshows [_, _, _] _ [] _ rfl rfl).get_eq]
    decide +kernel
  · rw [hnone]

end TreeScan

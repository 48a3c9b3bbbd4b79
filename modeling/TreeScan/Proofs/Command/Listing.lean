import Mathlib.Data.List.Induction
import TreeScan.Command.Run
import TreeScan.Proofs.Ast.DottedNames
import TreeScan.Proofs.Command.Loading
import TreeScan.Proofs.Scan.Registry
import TreeScan.Proofs.Text.ByteOrder

/-!
# The listing of static imports

The listing of some files is all or nothing.  A file that cannot be loaded is the end of
it before anything is written.  Otherwise there is one line for each short name that a
static import has among the imports that count, and in the line stands the last import
with that name.

The lines stand in the order of the bytes of the short names.  No short name is listed
twice in a table, so the order is strict and leaves nothing open: the listing does not
depend on the order in which the table happens to hold its entries (`sorted_unique`).
-/

namespace TreeScan

/-! ## Sorting a table -/

namespace StaticImports

/-- The order of entries by short name. -/
def byName (a b : String × Spanned ImportDecl) : Bool := decide (a.1 ≤ b.1)

theorem byName_trans (a b c : String × Spanned ImportDecl) (hab : byName a b = true)
    (hbc : byName b c = true) : byName a c = true :=
  decide_eq_true (le_trans (of_decide_eq_true hab) (of_decide_eq_true hbc))

theorem byName_total (a b : String × Spanned ImportDecl) : (byName a b || byName b a) = true := by
  simpa [byName] using le_total a.1 b.1

/-- The entries of a list of which no two have the same short name, in the order of the
bytes of their names. -/
theorem sorted_strictly {entries : List (String × Spanned ImportDecl)}
    (hnodup : (entries.map Prod.fst).Nodup) :
    (entries.mergeSort byName).Pairwise fun a b => Text.bytes a.1 < Text.bytes b.1 := by
  have hsorted : (entries.mergeSort byName).Pairwise fun a b => byName a b = true :=
    List.pairwise_mergeSort byName_trans byName_total entries
  have hdistinct : (entries.mergeSort byName).Pairwise fun a b => a.1 ≠ b.1 := by
    have hperm := (List.mergeSort_perm entries byName).map Prod.fst
    exact List.pairwise_map.1 (hperm.nodup_iff.2 hnodup)
  refine (hsorted.and hdistinct).imp fun ⟨hle, hne⟩ => ?_
  exact Text.bytes_lt_iff.2 (lt_of_le_of_ne (of_decide_eq_true hle) hne)

/-- Only one list has given entries in the order of the bytes of their names. -/
theorem sorted_unique {entries entries' : List (String × Spanned ImportDecl)}
    (hperm : entries'.Perm entries) (hnodup : (entries.map Prod.fst).Nodup) :
    entries'.mergeSort byName = entries.mergeSort byName := by
  have hnodup' : (entries'.map Prod.fst).Nodup := (hperm.map Prod.fst).nodup_iff.2 hnodup
  have hsame : (entries'.mergeSort byName).Perm (entries.mergeSort byName) :=
    ((List.mergeSort_perm entries' byName).trans hperm).trans
      (List.mergeSort_perm entries byName).symm
  exact hsame.eq_of_pairwise (fun _ _ _ _ h h' => absurd h' (List.lt_asymm h))
    (sorted_strictly hnodup') (sorted_strictly hnodup)

end StaticImports

namespace Command

/-! ## The table of some units -/

theorem importsOf_concat (config : ScanConfig) (units : List CompilationUnit)
    (unit : CompilationUnit) :
    importsOf config (units ++ [unit]) =
      ((importsOf config units).register config.staticImports unit).1 := by
  simp [importsOf]

/-- The table of some units has what a scanner has after it has activated them. -/
theorem importsOf_eq_activated {η : Type} (setup : Setup η) (units : List CompilationUnit)
    (files : FileStore) (reports : η) :
    (units.foldl (fun s unit => s.activate setup (some unit))
      (Scanner.idle files reports)).imports = importsOf setup.config units := by
  induction units using List.reverseRecOn with
  | nil => rfl
  | append_singleton units unit ih =>
      rw [List.foldl_concat, importsOf_concat, ← ih]
      rfl

/-- Under each short name stands the last static import with this name among those that
count. -/
theorem importsOf_follows (config : ScanConfig) (units : List CompilationUnit) :
    (importsOf config units).Follows (config.staticImports.counted units) := by
  induction units using List.reverseRecOn with
  | nil =>
      cases config.staticImports with
      | accumulate => exact StaticImports.empty_follows
      | resetPerUnit => exact StaticImports.empty_follows
  | append_singleton units unit ih =>
      rw [importsOf_concat]
      exact ih.register unit

/-! ## Writing -/

/-- An output that takes everything takes texts one after the other. -/
theorem writeAll_buffer (text : String) (err : Sink) (texts : List String) :
    writeAll ⟨.buffer text, err⟩ texts =
      ⟨.ok 0, ⟨.buffer (text ++ String.join texts), err⟩⟩ := by
  induction texts generalizing text with
  | nil => simp [writeAll]
  | cons more texts ih =>
      have hwrite : (Outputs.mk (.buffer text) err).write more =
        (.ok (), ⟨.buffer (text ++ more), err⟩) := rfl
      rw [writeAll, hwrite]
      simp only [ih, String.join_cons, String.append_assoc]

/-! ## The listing -/

/-- Among some imports, the last static one that has a short name. -/
structure LastStatic (imports : List (Spanned ImportDecl)) (name : String)
    (d : Spanned ImportDecl) : Prop where
  isStatic : d.node.isStatic = true
  named : IsShortName d.node.identifier name
  last : ∃ before after, imports = before ++ d :: after ∧
    ∀ later ∈ after, later.node.isStatic = true → ¬ IsShortName later.node.identifier name

theorem lastStatic?_eq_some_iff {imports : List (Spanned ImportDecl)} {name : String}
    {d : Spanned ImportDecl} : lastStatic? imports name = some d ↔ LastStatic imports name d := by
  have hsatisfies : ∀ e : Spanned ImportDecl,
      (e.node.isStatic && StaticImports.nameOf e == name) = true ↔
        e.node.isStatic = true ∧ IsShortName e.node.identifier name := by
    intro e
    rw [Bool.and_eq_true, beq_iff_eq, StaticImports.nameOf, shortName_eq_iff]
  rw [lastStatic?, List.find?_eq_some_iff_append, hsatisfies]
  constructor
  · rintro ⟨⟨hstatic, hnamed⟩, after, before, hreverse, hafter⟩
    refine ⟨hstatic, hnamed, before.reverse, after.reverse, ?_, fun later hlater hs hn => ?_⟩
    · rw [← List.reverse_reverse imports, hreverse]
      simp
    · have hnot := hafter later (List.mem_reverse.1 hlater)
      rw [(hsatisfies later).2 ⟨hs, hn⟩] at hnot
      cases hnot
  · rintro ⟨hstatic, hnamed, before, after, rfl, hafter⟩
    refine ⟨⟨hstatic, hnamed⟩, after.reverse, before.reverse, by simp, fun later hlater => ?_⟩
    by_contra hsome
    rw [Bool.not_not_eq, hsatisfies] at hsome
    exact hafter later (List.mem_reverse.1 hlater) hsome.1 hsome.2

/-- The listing of some files on an output that takes everything, however the files are read
and decoded.

Either some file is the first that cannot be read or decoded.  Then the listing fails
with the error of this file, and nothing is written.

Or all files are loaded, and the exit code is 0.  There is one line for each short name
that a static import has among the imports that count, which are those of all units or
those of the last one.  It has the last import with this name.  The names come in the
order of their bytes.  In whatever order the table holds its entries, the text is the
same. -/
theorem imports_listed (loader : Loader) (paths : List String) (config : ScanConfig)
    (text : String) (err : Sink) :
    (∃ before file after e, paths = before ++ file :: after ∧
      (∀ p ∈ before, ∃ unit, loader.Yields p unit) ∧ loader.Unloadable file e ∧
      listImportsWith loader paths config ⟨.buffer text, err⟩ =
        ⟨.error e, ⟨.buffer text, err⟩⟩) ∨
    ∃ (units : List CompilationUnit) (entries : List (String × Spanned ImportDecl)),
      List.Forall₂ loader.Yields paths units ∧
      (∀ name d, (name, d) ∈ entries ↔
        LastStatic (config.staticImports.counted units) name d) ∧
      entries.Pairwise (fun a b => Text.bytes a.1 < Text.bytes b.1) ∧
      listImportsWith loader paths config ⟨.buffer text, err⟩ =
        ⟨.ok 0, ⟨.buffer (text ++ String.join (entries.map fun entry =>
          entry.1 ++ " -> " ++ entry.2.node.identifier ++ "\n")), err⟩⟩ ∧
      ∀ held : List (String × Spanned ImportDecl), held.Perm (importsOf config units).entries →
        held.mergeSort (fun a b => decide (a.1 ≤ b.1)) = entries := by
  rcases loader.loadAll_cases paths with
    ⟨before, file, after, e, hpaths, hbefore, hfile, hall⟩ | ⟨units, heach, hall⟩
  · refine .inl ⟨before, file, after, e, hpaths, fun p hp => ?_, Loader.load_error_iff.1 hfile, ?_⟩
    · obtain ⟨unit, hunit⟩ := hbefore p hp
      exact ⟨unit, Loader.load_ok_iff.1 hunit⟩
    · rw [listImportsWith, hall]
  · let table := importsOf config units
    have hfollows : table.Follows (config.staticImports.counted units) :=
      importsOf_follows config units
    refine .inr ⟨units, table.entries.mergeSort StaticImports.byName,
      heach.imp fun _ _ => Loader.load_ok_iff.1, ?_,
      StaticImports.sorted_strictly table.names_nodup, ?_,
      fun _ hperm => StaticImports.sorted_unique hperm table.names_nodup⟩
    · intro name d
      rw [List.mem_mergeSort, table.mem_entries_iff, hfollows name, lastStatic?_eq_some_iff]
    · rw [listImportsWith, hall]
      exact writeAll_buffer text err _

/-- Finds two units in two files, and no other file. -/
def overlappingLoader : Loader where
  read file := if file = "A.json" ∨ file = "B.json" then .ok file else .error .notFound
  decode text := .ok (if text = "A.json" then importsOfA else importsOfB)

/-- Both units import an `m`, and the one of the second unit is listed. -/
theorem overlapping_listed :
    listImportsWith overlappingLoader ["A.json", "B.json"] {} ⟨.buffer "", .buffer ""⟩ =
      ⟨.ok 0, ⟨.buffer "* -> A.*\nm -> B.m\n", .buffer ""⟩⟩ := by
  have hA : overlappingLoader.load "A.json" = .ok (resolvePath "A.json" importsOfA) := rfl
  have hB : overlappingLoader.load "B.json" = .ok (resolvePath "B.json" importsOfB) := rfl
  rcases imports_listed overlappingLoader ["A.json", "B.json"] {} "" (.buffer "") with
    ⟨before, file, after, e, hpaths, -, hunloadable, -⟩ |
    ⟨units, entries, heach, -, -, hfinished, hsorted⟩
  · have hfile : file ∈ ["A.json", "B.json"] := by simp [hpaths]
    have herror := Loader.load_error_iff.2 hunloadable
    rcases List.mem_pair.1 hfile with rfl | rfl
    · rw [hA] at herror
      cases herror
    · rw [hB] at herror
      cases herror
  · obtain ⟨first, _, hfirst, hrest, rfl⟩ := List.forall₂_cons_left_iff.1 heach
    obtain ⟨second, _, hsecond, hnone, rfl⟩ := List.forall₂_cons_left_iff.1 hrest
    obtain rfl := List.forall₂_nil_left_iff.1 hnone
    rw [← Loader.load_ok_iff, hA, Except.ok.injEq] at hfirst
    rw [← Loader.load_ok_iff, hB, Except.ok.injEq] at hsecond
    subst hfirst hsecond
    -- The table holds the `m` first, and the listing has the star first.
    have hheld := hsorted [("*", ⟨⟨true, .parse "A", true⟩, ⟨0, 0⟩⟩), ("m", staticImport "B.m")]
      (.swap _ _ [])
    rw [List.mergeSort_of_pairwise (by decide)] at hheld
    subst hheld
    exact hfinished

end Command

end TreeScan

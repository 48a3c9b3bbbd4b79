import TreeScan.Command.Run
import TreeScan.Proofs.Ast.RoundTrip
import TreeScan.Proofs.Command.Loading
import TreeScan.Proofs.Outline.Runs
import TreeScan.Proofs.Scan.Passive

/-!
# The outline of a file

If the unit in a file can be loaded, then its outline is printed and the exit code is 0,
however deep the unit is and however many of its methods fall back to the expanded style.
There are two ways in which it might be otherwise, and the scan rules out both.

*Failures.*  The scan of the unit would have to end in another way than by completing.  It
draws the unit (`Outline.scanRoot_draws`), so that every rollback lands and no panic comes
out of it.  The only panic that is assumed away is one of the renderer of reports, which may
still fail (`Console.printing_quiet`).

*Errors.*  A diagnostic with the severity of an error would have to be counted.  What the
scan delivers are the warnings that methods fall back, and to count warnings leaves the
number of errors as it was (`Tally.count_warnings`).
-/

namespace TreeScan

/-! ## Counting -/

/-- Warnings are counted as warnings only. -/
theorem Tally.count_warnings {ds : List Diagnostic} (h : ∀ d ∈ ds, d.severity = .warning)
    (t : Tally) :
    ds.foldl (fun t d => t.add d.severity) t = ⟨t.errors, t.warnings + ds.length⟩ := by
  induction ds generalizing t with
  | nil => rfl
  | cons d ds ih =>
      obtain ⟨hd, hds⟩ := List.forall_mem_cons.1 h
      rw [List.foldl_cons, hd, ih hds, List.length_cons, Nat.add_comm ds.length,
        ← Nat.add_assoc]
      rfl

/-- The counts of a handler that counts are those of what it has received. -/
theorem Setup.heard_counting {η : Type} {setup : Setup (Tally × η)} {inner : Handler η}
    (h : setup.handler = some (counting inner)) (files : FileStore) (reports : Tally × η)
    (ds : List Diagnostic) :
    (setup.heard files reports ds).1 = ds.foldl (fun t d => t.add d.severity) reports.1 := by
  unfold heard
  rw [h]
  show (ds.foldl (fun reports d => (counting inner d files reports).state) reports).1 = _
  induction ds generalizing reports with
  | nil => rfl
  | cons d ds ih => exact ih _

namespace Outline

/-- The outline of a unit begins with a line that is not empty. -/
theorem unitLine_ne_empty (u : CompilationUnit) : lineAt 0 (unitLine u) ≠ "" := by
  simp [lineAt, LineBuffer.indented, unitLine]

end Outline

namespace Command

open Outline

/-! ## The scan -/

/-- The scan for an outline of a unit completes in a state.  The text is that of the lines of
the unit.  What is delivered is a warning for each of some methods, and so no error is
counted. -/
structure Outlined (renderer : Renderer) (files : FileStore) (config : ScanConfig)
    (style : OutlineStyle) (err : Sink) (unit : CompilationUnit) (methods : List Node)
    (s : ScanState Outline (Tally × Console)) : Prop where
  scan_eq : scanOutline renderer files config style err unit = .ok (.completed none, s)
  text_eq : s.pass.text = String.join ((unitLines style 0 unit).map (· ++ "\n"))
  reports_eq : s.scanner.reports = (outlineSetup renderer config).heard files (⟨0, 0⟩, .onto err)
    (methods.map (fallbackAt (outlineSetup renderer config) (some unit)))
  tally_eq : s.scanner.reports.1 = ⟨0, methods.length⟩

/-- In the compact style the methods of a unit fall back that overflow, each of them once.  In
the expanded style none does. -/
theorem fallbacks_root (style : OutlineStyle) (unit : CompilationUnit) :
    (∀ m, m ∈ (Outline.empty style).fallbacks [Node.root 0 unit] ↔
      style = .compact ∧ m ∈ (Node.root 0 unit).subtree ∧ overflows m = true) ∧
    ((Outline.empty style).fallbacks [Node.root 0 unit]).Nodup := by
  cases style with
  | expanded => exact ⟨fun m => by simp [fallbacks, Outline.empty], List.nodup_nil⟩
  | compact =>
      have hroots : [Node.root 0 unit].flatMap Node.subtree = (Node.root 0 unit).subtree :=
        List.flatMap_singleton _ _
      show (∀ m, m ∈ firstOverflows [] _ ↔ _) ∧ (firstOverflows [] _).Nodup
      rw [hroots]
      refine ⟨fun m => ?_, (firstOverflows_places [] _).1.of_map _⟩
      rw [mem_firstOverflows_iff (Node.root 0 unit).identified_subtree]
      simp

/-- A scan for an outline does all of this, whatever the unit is. -/
theorem scan_outlines {renderer : Renderer} (quiet : renderer.Quiet) (files : FileStore)
    (config : ScanConfig) (style : OutlineStyle) (err : Sink) (unit : CompilationUnit) :
    ∃ s, Outlined renderer files config style err unit
      ((Outline.empty style).fallbacks [Node.root 0 unit]) s := by
  let setup := outlineSetup renderer config
  let s₀ : Scanner (Tally × Console) :=
    (Scanner.idle files (⟨0, 0⟩, .onto err)).activate setup (some unit)
  have hsetup : setup.Quiet :=
    Setup.quiet_of_handler (counting_quiet (Console.printing_quiet quiet)) rfl
  obtain ⟨s, hrun, hdraws⟩ := scanRoot_draws (n := .root 0 unit) hsetup (Nat.le_refl _) style
    (s := s₀) rfl
  have hlines : s.pass.buffer.lines = unitLines style 0 unit := hdraws.lines_eq
  have hreports := hdraws.hears.reports_eq
  refine ⟨s, (Engine.runVisit_scanUnit setup _ 0 unit _).trans hrun, ?_, hreports, ?_⟩
  · rw [← hlines]
    refine LineBuffer.text_eq_join fun hempty => unitLine_ne_empty unit ?_
    rw [hlines, unitLines_eq] at hempty
    exact List.head_eq_of_cons_eq hempty
  · rw [hreports, Setup.heard_counting rfl, Tally.count_warnings]
    · rw [List.length_map]
      exact congrArg (Tally.mk 0) (Nat.zero_add _)
    · intro d hd
      obtain ⟨m, _, rfl⟩ := List.mem_map.1 hd
      rfl

/-! ## The outline of a file -/

/-- The outline of the unit in a file, on an output that takes everything.  Reports are drawn
by a renderer, of which it is assumed only that it does not panic.

Either the unit cannot be loaded, because the file cannot be read or is not the text of a
unit.  Then the exit code of the failure is 1, and nothing is written.

Or the unit is loaded: it is what stands in the file, with its path taken relative to the
directory of the file, unless the path is absolute.  Then the scan completes, the lines of the
unit are written and the exit code is 0.  Nothing is reported but warnings, one for each
method that overflows and only in the compact style.  They are on the error output, of which
nothing is assumed. -/
theorem outline_printed {renderer : Renderer} (quiet : renderer.Quiet) (files : FileStore)
    (file : String) (config : ScanConfig) (style : OutlineStyle) (text : String) (err : Sink) :
    (∃ e, (Loader.json files).Unloadable file e ∧ e.exitCode = 1 ∧
      outlineFileWith renderer files file config style ⟨.buffer text, err⟩ =
        ⟨.error e, ⟨.buffer text, err⟩⟩) ∨
    ∃ unit source written directory methods s,
      Loads files file unit source written directory ∧
      (Path.isAbsolute written.path = true → unit = written) ∧
      Outlined renderer files config style err unit methods s ∧
      (∀ m, m ∈ methods ↔
        style = .compact ∧ m ∈ (Node.root 0 unit).subtree ∧ overflows m = true) ∧
      methods.Nodup ∧
      outlineFileWith renderer files file config style ⟨.buffer text, err⟩ =
        ⟨.ok 0, ⟨.buffer (text ++ String.join ((unitLines style 0 unit).map (· ++ "\n"))),
          s.scanner.reports.2.sink⟩⟩ := by
  cases hload : load files file with
  | error e =>
      refine .inl ⟨e, Loader.load_error_iff.1 hload, rfl, ?_⟩
      rw [outlineFileWith, hload]
  | ok unit =>
      obtain ⟨source, written, directory, hloads⟩ := loads_of_load hload
      obtain ⟨s, houtlined⟩ := scan_outlines quiet files config style err unit
      obtain ⟨hmethods, honce⟩ := fallbacks_root style unit
      refine .inr ⟨unit, source, written, directory, _, s, hloads, hloads.path_of_absolute,
        houtlined, hmethods, honce, ?_⟩
      have hok : s.scanner.reports.1.hasErrors = false := by
        rw [houtlined.tally_eq]
        rfl
      rw [outlineFileWith, hload]
      simp only [houtlined.scan_eq, failureOf, printOutline, Outputs.write, Sink.write,
        houtlined.text_eq, hok]
      rfl

theorem allFit_naming (name : String) : (Element.stmt (naming name)).AllFit :=
  have hfits : Span.Fits ⟨0, 1⟩ := ⟨by decide, by decide⟩
  .intro hfits (List.forall_mem_singleton.2 (.intro hfits (List.forall_mem_nil _)))

theorem allFit_shapes : (Element.unit shapes).AllFit := by
  have hfits : Span.Fits ⟨0, 1⟩ := ⟨by decide, by decide⟩
  have hwhile : (Element.stmt ⟨.whileLoop ⟨.ident "c", ⟨0, 1⟩⟩ (naming "b"), ⟨0, 1⟩⟩).AllFit :=
    .intro hfits (List.forall_mem_cons.2
      ⟨.intro hfits (List.forall_mem_nil _), List.forall_mem_singleton.2 (allFit_naming "b")⟩)
  have hmethod : ∀ (name : String) (body : List (Spanned Stmt)),
      (∀ s ∈ body, (Element.stmt s).AllFit) →
        (Element.member (methodOf name (some body))).AllFit := by
    intro name body hbody
    refine .intro hfits (List.forall_mem_singleton.2 (.intro hfits ?_))
    exact List.forall_mem_map.2 hbody
  refine .intro trivial (List.forall_mem_singleton.2 (.intro hfits ?_))
  refine List.forall_mem_cons.2 ⟨.intro hfits (List.forall_mem_nil _), ?_⟩
  refine List.forall_mem_cons.2 ⟨hmethod _ _ ?_, List.forall_mem_singleton.2 (hmethod _ _ ?_)⟩
  · exact List.forall_mem_cons.2
      ⟨allFit_naming "a", List.forall_mem_singleton.2 (allFit_naming "b")⟩
  · exact List.forall_mem_cons.2 ⟨allFit_naming "a", List.forall_mem_singleton.2 hwhile⟩

/-- A directory with a unit in JSON and its source file. -/
def shapeFiles : FileStore where
  workingDirectory := []
  entries := [(["src"], .directory), (["src", "shape.json"], .file shapes.encode.text.toUTF8),
    (["src", "Shape.java"], .file "class Shape\n".toUTF8)]

/-- A unit with a method that falls back is loaded from a file and its outline is printed. -/
theorem shapes_printed :
    Renderer.Quiet Frame.renderer ∧
    ∃ err, outlineFile shapeFiles "src/shape.json" {} .compact ⟨.buffer "", .buffer ""⟩ =
      ⟨.ok 0, ⟨.buffer ("unit src/Shape.java\n  class Shape\n    method area()\n" ++
        "    method reset() \x7b a; b; \x7d\n    method grow()\n      a\n      while\n" ++
        "        b\n"), err⟩⟩ := by
  have hread : shapeFiles.read "src/shape.json" = .ok shapes.encode.text :=
    FileStore.read_of_text rfl
  have hdepth : shapes.encode.depth ≤ Json.depthLimit := by decide
  have hdecode : Json.decodeText CompilationUnit.decode shapes.encode.text = .ok shapes :=
    (CompilationUnit.readsBack allFit_shapes).decodeText (Json.trims_refl _) hdepth
  have hload : (Loader.json shapeFiles).load "src/shape.json" =
      .ok (resolvePath "src/shape.json" shapes) :=
    Loader.load_ok_iff.2 (.intro hread hdecode)
  rcases outline_printed Frame.renderer_quiet shapeFiles "src/shape.json" {} .compact ""
    (.buffer "") with ⟨e, hunloadable, -⟩ |
    ⟨unit, source, written, directory, methods, s, hloads, -, -, -, -, hfinished⟩
  · rw [Loader.load_error_iff.2 hunloadable] at hload
    cases hload
  · have hunit : unit = { shapes with path := "src/Shape.java" } := by
      have hsource := hloads.read
      rw [hread, Except.ok.injEq] at hsource
      have hwritten := hloads.decodes
      rw [← hsource, hdecode, Except.ok.injEq] at hwritten
      have hparent : some "src" = some directory := hloads.parent
      have hpath : Path.within "src" shapes.path = "src/Shape.java" := by decide +kernel
      rw [hloads.eq, ← hwritten, ← Option.some.inj hparent, hpath]
    have htext : "" ++ String.join ((unitLines .compact 0
        { shapes with path := "src/Shape.java" }).map (· ++ "\n")) =
        "unit src/Shape.java\n  class Shape\n    method area()\n" ++
          "    method reset() \x7b a; b; \x7d\n    method grow()\n      a\n      while\n" ++
          "        b\n" := by
      decide +kernel
    rw [hunit, htext] at hfinished
    exact ⟨Frame.renderer_quiet, _, hfinished⟩

end Command

end TreeScan

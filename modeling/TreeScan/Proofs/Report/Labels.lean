import TreeScan.Proofs.Scan.Excerpts
import TreeScan.Proofs.Source.History
import TreeScan.Report.Console

/-!
# What the console hands to its renderer

The console hands a diagnostic to its renderer with the source text of its file and a label
in that text.  The text has gone through the source cache of the console, which has taken it
apart into lines, and the label has been cut at the end of it.  What the renderer makes of
them does not matter here: it may be any renderer, and it may fail or panic.  Three
independent pieces.

*The text.*  The lines put together again are the text that was loaded, without the line
break that may end it (`sourceText_sourceLines`).  So offsets in it are offsets in the file.

*The label.*  It lies in the text, and it covers the bytes of the text that are in the span
(`labelOf_covers`).

*The file.*  Which text was loaded is told by the history of the console.  A report with a
position is a request to the source cache, and files may change between two reports
(`after_remembers_lookups`).
-/

namespace TreeScan

/-! ## The text -/

theorem Text.bytes_inj {s t : String} : Text.bytes s = Text.bytes t ↔ s = t := by
  constructor
  · intro h
    have hdata : s.toByteArray.data = t.toByteArray.data := Array.toList_inj.1 h
    exact String.toByteArray_inj.1 (ByteArray.ext hdata)
  · rintro rfl
    rfl

/-- The line break that ends a text, if one does. -/
def finalBreak (text : String) : String := if text.toList.getLast? = some '\n' then "\n" else ""

namespace Console

open Text

theorem broken_eq_sourceText {lines : List String} (h : lines ≠ []) :
    broken lines = bytes (sourceText lines) ++ [lineBreak] := by
  rw [broken_eq_bytes, ← joinStrings_lines h, bytes_append]
  rfl

/-- The source text of the lines of a text is the text without the line break that ends it. -/
theorem sourceText_sourceLines (text : String) :
    sourceText (sourceLines text) ++ finalBreak text = text := by
  have hbroken := broken_sourceLines text
  rw [← bytes_inj, bytes_append, finalBreak]
  by_cases hempty : bytes text = []
  · have htext : text = "" := bytes_inj.1 hempty
    subst htext
    rfl
  · have hlines : sourceLines text ≠ [] := by
      intro hnil
      rw [hnil] at hbroken
      split_ifs at hbroken with h
      · exact hempty hbroken.symm
      · simp [broken] at hbroken
    rw [broken_eq_sourceText hlines] at hbroken
    by_cases hlast : (bytes text).getLast? = some lineBreak
    · rw [if_pos (.inr hlast)] at hbroken
      rw [if_pos (getLast?_bytes_eq_lineBreak.1 hlast)]
      exact hbroken
    · rw [if_neg (by simp [hempty, hlast])] at hbroken
      rw [if_neg (mt getLast?_bytes_eq_lineBreak.2 hlast)]
      exact (List.append_nil _).trans (List.append_cancel_right hbroken)

/-! ## The label -/

/-- The range of a text that a span covers, where taking one offset from another may fail. -/
def labelFrom (text : String) (span : Span) : Except Trace.Slip Label := do
  let size := byteLength text.toList
  let start := min span.start size
  let rest ← Trace.distance start size
  return ⟨start, min span.length rest⟩

theorem labelFrom_eq (text : String) (span : Span) :
    labelFrom text span = .ok (labelOf text span) := by
  have hrest : Trace.distance (min span.start (byteLength text.toList)) (byteLength text.toList) =
      .ok (byteLength text.toList - min span.start (byteLength text.toList)) :=
    if_pos (Nat.min_le_right _ _)
  rw [labelFrom, hrest]
  rfl

theorem labelOf_start (text : String) (span : Span) :
    (labelOf text span).start = min span.start (bytes text).length := by
  rw [length_bytes]
  rfl

theorem labelOf_stop (text : String) (span : Span) :
    (labelOf text span).stop = min (max span.start span.stop) (bytes text).length := by
  rw [length_bytes, lineLength]
  show min span.start (byteLength text.toList) + min (span.stop - span.start)
    (byteLength text.toList - min span.start (byteLength text.toList)) = _
  omega

/-- A label covers the bytes of the text that are in the span. -/
theorem labelOf_covers {text : String} {offset : Nat} (h : offset < (bytes text).length)
    (span : Span) :
    (labelOf text span).start ≤ offset ∧ offset < (labelOf text span).stop ↔
      span.start ≤ offset ∧ offset < span.stop := by
  rw [labelOf_start, labelOf_stop]
  omega

/-- A span of the text is its own label. -/
theorem labelOf_of_inside {text : String} {span : Span} (hformed : span.start ≤ span.stop)
    (hinside : span.stop ≤ (bytes text).length) :
    (labelOf text span).start = span.start ∧ (labelOf text span).stop = span.stop := by
  rw [labelOf_start, labelOf_stop]
  omega

/-- A source text and a label in it show a span of a text that was loaded. -/
structure Shows (text : String) (span : Span) (source : String) (l : Label) : Prop where
  /-- The source text is the loaded one, less the line break that may end it. -/
  source_eq : source ++ finalBreak text = text
  /-- So it has the same bytes at the same offsets. -/
  bytes_eq : ∀ offset < (bytes source).length, (bytes source)[offset]? = (bytes text)[offset]?
  inside : l.start ≤ l.stop ∧ l.stop ≤ (bytes source).length
  /-- Where the label is worked out, no offset is taken from a smaller one. -/
  label_eq : labelFrom source span = .ok l
  covers : ∀ offset < (bytes source).length,
    (l.start ≤ offset ∧ offset < l.stop ↔ span.start ≤ offset ∧ offset < span.stop)
  /-- A span that is well-formed and lies in the source text is its own label. -/
  exact : span.start ≤ span.stop → span.stop ≤ (bytes source).length →
    l.start = span.start ∧ l.stop = span.stop

theorem shows_labelOf (text : String) (span : Span) :
    Shows text span (sourceText (sourceLines text))
      (labelOf (sourceText (sourceLines text)) span) where
  source_eq := sourceText_sourceLines text
  bytes_eq offset h := by
    have htext := congrArg bytes (sourceText_sourceLines text)
    rw [bytes_append] at htext
    rw [← htext, List.getElem?_append_left h]
  inside := ⟨Nat.le_add_right _ _, labelOf_stop _ span ▸ Nat.min_le_right _ _⟩
  label_eq := labelFrom_eq _ span
  covers _ h := labelOf_covers h span
  exact := labelOf_of_inside

end Console

/-! ## The file -/

namespace SourceCache

/-- The text that a request for lines goes by, after some lookups.  It is the one that was
loaded last, if that is of the same path, and else what the file holds now. -/
def text? (past : List Lookup) (files : FileStore) (path : String) : Option String :=
  match lastLoad? past with
  | some earlier =>
    if Path.equal earlier.path path then (earlier.files.read earlier.path).toOption
    else (files.read path).toOption
  | none => (files.read path).toOption

theorem Lookup.Reads.lines_eq {l : Lookup} (h : l.Reads) :
    l.answer.lines = (l.files.read l.path).toOption.map sourceLines := by
  unfold Lookup.Reads at h
  cases hread : l.files.read l.path with
  | ok text =>
      rw [hread] at h
      exact h.1
  | error e =>
      rw [hread] at h
      exact h.1

theorem Lookup.Repeats.lines_eq {l earlier : Lookup} (h : l.Repeats earlier) :
    l.answer.lines = (earlier.files.read earlier.path).toOption.map sourceLines := by
  obtain ⟨text, hread, hanswer⟩ := h
  rw [hread, hanswer]
  rfl

/-- A cache answers with the lines of the text that it goes by. -/
theorem linesAt_eq {cache : SourceCache} {past : List Lookup} (h : cache.Remembers past)
    (files : FileStore) (path : String) :
    (cache.linesAt files path).lines = (text? past files path).map sourceLines := by
  have hfollows := lookup_follows h files path
  unfold Lookup.Follows at hfollows
  unfold text?
  cases hlast : lastLoad? past with
  | none =>
      rw [hlast] at hfollows
      exact hfollows.lines_eq
  | some earlier =>
      rw [hlast] at hfollows
      have hsame : if Path.equal earlier.path path then
          (cache.lookup files path).Repeats earlier else (cache.lookup files path).Reads := hfollows
      by_cases hp : Path.equal earlier.path path = true
      · rw [if_pos hp] at hsame
        simp only [if_pos hp]
        exact hsame.lines_eq
      · rw [if_neg hp] at hsame
        simp only [if_neg hp]
        exact hsame.lines_eq

end SourceCache

namespace Console

/-- What happens while a console is in use. -/
inductive Event where
  /-- The files change. -/
  | edit (change : FileStore → FileStore)
  /-- A diagnostic is printed. -/
  | report (d : Diagnostic)

/-- The files and the console after some events. -/
def after (renderer : Renderer) (files : FileStore) (console : Console) :
    List Event → FileStore × Console
  | [] => (files, console)
  | .edit change :: events => after renderer (change files) console events
  | .report d :: events => after renderer files (printing renderer d files console).state events

/-- What an event is to the source cache.  Only a diagnostic with a position asks for lines. -/
def Event.onCache : Event → Option SourceCache.Event
  | .edit change => some (.edit change)
  | .report d => d.position.map fun position => .linesAt position.file

/-- The requests for lines that a console makes in the course of some events. -/
def lookups (files : FileStore) (events : List Event) : List SourceCache.Lookup :=
  SourceCache.lookups files .empty (events.filterMap Event.onCache)

/-- A console changes its cache by the requests that it makes, whatever its renderer does. -/
theorem after_sources (renderer : Renderer) (files : FileStore) (console : Console)
    (events : List Event) :
    (after renderer files console events).2.sources =
      (SourceCache.after files console.sources (events.filterMap Event.onCache)).2 := by
  induction events generalizing files console with
  | nil => rfl
  | cons event events ih =>
      cases event with
      | edit change => exact ih (change files) console
      | report d =>
          refine (ih files (printing renderer d files console).state).trans ?_
          rw [printing_sources, linesFor, List.filterMap_cons]
          cases hd : d.position with
          | none => simp only [Event.onCache, hd, Option.map_none]
          | some position => simp only [Event.onCache, hd, Option.map_some, SourceCache.after]

/-- After some events the cache of a console remembers the requests made in them. -/
theorem after_remembers_lookups (renderer : Renderer) (files : FileStore) (sink : Sink)
    (events : List Event) :
    (after renderer files (.onto sink) events).2.sources.Remembers (lookups files events) := by
  have hempty : SourceCache.empty.Remembers [] := rfl
  have hremembers :=
    SourceCache.after_remembers hempty files (events.filterMap Event.onCache)
  rw [List.nil_append] at hremembers
  rw [after_sources]
  exact hremembers

/-! ## One diagnostic -/

section

variable {d : Diagnostic} {position : SourcePosition}

theorem plain_of_none (h : d.position = none) :
    plain d = d.severity.name ++ "[" ++ d.problem.code ++ "]: " ++ d.message ++ "\n" := by
  rw [plain, h, String.append_empty]

theorem plain_of_some (h : d.position = some position) :
    plain d = d.severity.name ++ "[" ++ d.problem.code ++ "]: " ++ d.message ++
      " (" ++ position.text ++ ")" ++ "\n" := by
  simp only [plain, h, String.append_assoc]

theorem text_of_some (h : d.position = some position) :
    d.text = d.severity.name ++ ": " ++ d.message ++ " (" ++ position.text ++ ")" := by
  simp only [Diagnostic.text, h, String.append_assoc]

theorem render_none (renderer : Renderer) (d : Diagnostic) :
    render renderer d none = .ok (plain d) := by
  unfold render
  cases d.position <;> rfl

theorem render_some (renderer : Renderer) (h : d.position = some position)
    (lines : List String) :
    render renderer d (some lines) =
      match renderer (exhibit d position lines) with
      | .text text => .ok text
      | .failed => .ok (d.text ++ "\n")
      | .panicked payload => .error payload := by
  obtain ⟨problem, _, message⟩ := d
  cases h
  rfl

/-- What is printed of a diagnostic whose file has lines is up to the renderer. -/
theorem printing_some (renderer : Renderer) (h : d.position = some position)
    {files : FileStore} {console : Console} {lines : List String}
    (hlines : (console.linesFor files d).lines = some lines) :
    match renderer (exhibit d position lines) with
    | .text drawn => console.Took drawn (printing renderer d files console)
    | .failed => console.Took (d.text ++ "\n") (printing renderer d files console)
    | .panicked payload => console.GaveUp payload (printing renderer d files console) := by
  have hrender := render_some renderer h lines
  rw [← hlines] at hrender
  cases hdrawn : renderer (exhibit d position lines) with
  | text drawn => exact printing_of_ok (by rw [hrender, hdrawn])
  | failed => exact printing_of_ok (by rw [hrender, hdrawn])
  | panicked payload => exact printing_of_error (by rw [hrender, hdrawn])

end

/-- What a console prints of a diagnostic, after any events.  Without a position it is one
line, and so it is when no text can be had of the file, then with the position at the end.

Otherwise a source text and a label are handed to the renderer, which show the span in the
text that was loaded.  What the renderer draws of them is printed.  If the renderer fails,
the diagnostic is one line again, and if it panics, nothing is printed. -/
theorem console_prints (renderer : Renderer) (files : FileStore) (sink : Sink)
    (past : List Event) (d : Diagnostic) :
    let now := after renderer files (.onto sink) past
    let handled := printing renderer d now.1 now.2
    (d.position = none →
      now.2.Took (d.severity.name ++ "[" ++ d.problem.code ++ "]: " ++ d.message ++ "\n")
        handled) ∧
    ∀ position, d.position = some position →
      match SourceCache.text? (lookups files past) now.1 position.file with
      | none =>
        now.2.Took (d.severity.name ++ "[" ++ d.problem.code ++ "]: " ++ d.message ++
          " (" ++ position.text ++ ")" ++ "\n") handled
      | some text =>
        let source := sourceText (sourceLines text)
        let label := labelOf source position.span
        let exhibited : Exhibit :=
          { code := d.problem.code
            severity := d.severity
            message := d.message
            file := position.file
            source := source
            label := label
            caption := "here" }
        Shows text position.span source label ∧
        match renderer exhibited with
        | .text drawn => now.2.Took drawn handled
        | .failed =>
          now.2.Took (d.severity.name ++ ": " ++ d.message ++ " (" ++ position.text ++ ")" ++ "\n")
            handled
        | .panicked payload => now.2.GaveUp payload handled := by
  intro now handled
  have hremembers : now.2.sources.Remembers (lookups files past) :=
    after_remembers_lookups renderer files sink past
  refine ⟨fun hd => ?_, fun position hd => ?_⟩
  · have hlines : (now.2.linesFor now.1 d).lines = none := by rw [linesFor, hd]
    rw [← plain_of_none hd]
    exact printing_of_ok (by rw [hlines, render_none])
  · have hlines : (now.2.linesFor now.1 d).lines =
        (SourceCache.text? (lookups files past) now.1 position.file).map sourceLines := by
      rw [linesFor, hd]
      exact SourceCache.linesAt_eq hremembers now.1 position.file
    cases htext : SourceCache.text? (lookups files past) now.1 position.file with
    | none =>
        rw [htext] at hlines
        rw [← plain_of_some hd]
        exact printing_of_ok (by rw [hlines, Option.map_none, render_none])
    | some text =>
        rw [htext, Option.map_some] at hlines
        refine ⟨shows_labelOf text position.span, ?_⟩
        rw [← text_of_some hd]
        exact printing_some renderer hd hlines

/-- A label is cut at the end of the text, and the line break that ends a file is not in it. -/
example :
    let text := sourceText (sourceLines "ab\n\n")
    text = "ab\n" ∧ labelOf text ⟨1, 9⟩ = ⟨1, 2⟩ ∧ labelOf text ⟨7, 2⟩ = ⟨3, 0⟩ := by
  decide

end Console

end TreeScan

import TreeScan.Ast.Tree
import TreeScan.Source.Cache

/-!
# The history of a source cache

A cache is asked for lines while files are written and removed.  A *history* is what
happens to the files and to the cache, one event after the other.  Its *lookups* are the
requests for lines, each with what it found.

A lookup *loads* if it has read its file.  What a lookup answers depends on the past in
one way only: on the last lookup that loaded.

* If that one asked for the same path, its text is the answer once more, whatever has
  become of the file.
* Otherwise the file is read as it is now.  Its lines fill the slot if there are any to
  be had.  If not, the lookup leaves no trace, and the history could do without it.

`lines_follow_history` says this of every request in every history.
-/

namespace TreeScan.SourceCache

/-! ## Histories -/

/-- What happens while a cache is in use. -/
inductive Event where
  /-- The files change. -/
  | edit (change : FileStore → FileStore)
  /-- The lines of a file are asked for. -/
  | linesAt (path : String)

/-- A file is written. -/
def Event.write (path : String) (bytes : ByteArray) : Event :=
  .edit fun files => files.write path bytes

/-- A file is removed. -/
def Event.remove (path : String) : Event := .edit fun files => files.remove path

/-- The lines of the source file of a unit are asked for. -/
def Event.linesFor (unit : CompilationUnit) : Event := .linesAt unit.path

/-- A request for lines with what it found. -/
structure Lookup where
  path : String
  /-- The files at the time of the request. -/
  files : FileStore
  /-- The cache that was asked. -/
  asked : SourceCache
  answer : SourceAnswer

/-- Asks a cache for the lines of a file. -/
def lookup (cache : SourceCache) (files : FileStore) (path : String) : Lookup :=
  ⟨path, files, cache, cache.linesAt files path⟩

/-- The files and the cache at the end of a history. -/
def after (files : FileStore) (cache : SourceCache) : List Event → FileStore × SourceCache
  | [] => (files, cache)
  | .edit change :: events => after (change files) cache events
  | .linesAt path :: events => after files (cache.linesAt files path).cache events

/-- The lookups of a history, oldest first. -/
def lookups (files : FileStore) (cache : SourceCache) : List Event → List Lookup
  | [] => []
  | .edit change :: events => lookups (change files) cache events
  | .linesAt path :: events =>
    cache.lookup files path :: lookups files (cache.linesAt files path).cache events

theorem lookups_append (files : FileStore) (cache : SourceCache) (past later : List Event) :
    lookups files cache (past ++ later) =
      lookups files cache past ++
        lookups (after files cache past).1 (after files cache past).2 later := by
  induction past generalizing files cache with
  | nil => rfl
  | cons event past ih =>
      cases event with
      | edit change => exact ih (change files) cache
      | linesAt path => exact congrArg (cache.lookup files path :: ·) (ih files _)

/-! ## Loads -/

/-- What is noted when a file has been read. -/
def loading (path : String) : LogEvent := ⟨.trace, "loaded source text", [("path", .text path)]⟩

/-- Whether a lookup has read its file. -/
def Lookup.loads (l : Lookup) : Bool := l.answer.events == [loading l.path]

/-- The last of some lookups that has read its file. -/
def lastLoad? (past : List Lookup) : Option Lookup := (past.filter Lookup.loads).getLast?

theorem lastLoad?_append_singleton (past : List Lookup) (l : Lookup) :
    lastLoad? (past ++ [l]) = if l.loads then some l else lastLoad? past := by
  unfold lastLoad?
  rw [List.filter_append]
  cases hl : l.loads with
  | true => simp [hl]
  | false => simp [hl]

/-! ## What a lookup finds -/

/-- A lookup answers with the text that an earlier one has read.  It reads nothing and
leaves the slot alone. -/
def Lookup.Repeats (l earlier : Lookup) : Prop :=
  ∃ text, earlier.files.read earlier.path = .ok text ∧
    l.answer = ⟨some (sourceLines text), l.asked, []⟩

/-- A lookup answers with what its file holds now.  Only a text that could be read gets
into the slot. -/
def Lookup.Reads (l : Lookup) : Prop :=
  match l.files.read l.path with
  | .ok text =>
    l.answer.lines = some (sourceLines text) ∧
      l.answer.cache = ⟨some (l.path, sourceLines text)⟩ ∧ l.loads = true
  | .error _ => l.answer.lines = none ∧ l.answer.cache = l.asked ∧ l.loads = false

/-- A lookup answers as the lookups before it make it answer. -/
def Lookup.Follows (l : Lookup) (past : List Lookup) : Prop :=
  match lastLoad? past with
  | some earlier => if Path.equal earlier.path l.path then l.Repeats earlier else l.Reads
  | none => l.Reads

/-- A cache holds what the last lookup that loaded has read. -/
def Remembers (cache : SourceCache) (past : List Lookup) : Prop :=
  match lastLoad? past with
  | some earlier =>
    ∃ text, earlier.files.read earlier.path = .ok text ∧
      cache.slot = some (earlier.path, sourceLines text)
  | none => cache.slot = none

/-! ## One lookup -/

variable {cache : SourceCache} {past : List Lookup}

theorem linesAt_of_cached {path : String} {lines : List String} (files : FileStore)
    (h : cache.cached? path = some lines) : cache.linesAt files path = ⟨some lines, cache, []⟩ := by
  rw [linesAt, h]

/-- A path that is not in the slot is read. -/
theorem lookup_reads {path : String} (files : FileStore) (h : cache.cached? path = none) :
    (cache.lookup files path).Reads := by
  have hanswer : cache.linesAt files path = cache.load files path := by
    rw [linesAt, h]
  unfold Lookup.Reads Lookup.loads lookup
  rw [hanswer, load]
  cases files.read path with
  | ok text => exact ⟨rfl, rfl, beq_self_eq_true _⟩
  | error e =>
      refine ⟨rfl, rfl, ?_⟩
      simp [loading]

theorem cached?_of_slot {loaded : String} {lines : List String} (path : String)
    (h : cache.slot = some (loaded, lines)) :
    cache.cached? path = if Path.equal loaded path then some lines else none := by
  rw [cached?, h]

/-- What a cache remembers decides what it answers. -/
theorem lookup_follows (h : cache.Remembers past) (files : FileStore) (path : String) :
    (cache.lookup files path).Follows past := by
  unfold Lookup.Follows
  unfold Remembers at h
  split at h
  · next earlier _ =>
      obtain ⟨text, hread, hslot⟩ := h
      have hcached := cached?_of_slot path hslot
      show if Path.equal earlier.path path then _ else _
      split
      · next hp =>
          rw [if_pos hp] at hcached
          exact ⟨text, hread, linesAt_of_cached files hcached⟩
      · next hp =>
          rw [if_neg hp] at hcached
          exact lookup_reads files hcached
  · have hcached : cache.cached? path = none := by
      rw [cached?, h]
    exact lookup_reads files hcached

/-- A lookup that has read nothing leaves the cache as it was. -/
theorem Lookup.Reads.remembers {l : Lookup} (hl : l.Reads) (h : l.asked.Remembers past) :
    l.answer.cache.Remembers (past ++ [l]) := by
  unfold Remembers
  rw [lastLoad?_append_singleton]
  unfold Lookup.Reads at hl
  split at hl
  · next text hread =>
      obtain ⟨_, hcache, hloads⟩ := hl
      rw [hloads, hcache]
      exact ⟨text, hread, rfl⟩
  · obtain ⟨_, hcache, hloads⟩ := hl
    rw [hloads, hcache]
    exact h

theorem Lookup.Repeats.remembers {l earlier : Lookup} (hl : l.Repeats earlier)
    (h : l.asked.Remembers past) : l.answer.cache.Remembers (past ++ [l]) := by
  obtain ⟨text, _, hanswer⟩ := hl
  have hloads : l.loads = false := by
    rw [Lookup.loads, hanswer]
    rfl
  unfold Remembers
  rw [lastLoad?_append_singleton, hloads, hanswer]
  exact h

theorem Lookup.Follows.remembers {l : Lookup} (hl : l.Follows past) (h : l.asked.Remembers past) :
    l.answer.cache.Remembers (past ++ [l]) := by
  unfold Lookup.Follows at hl
  split at hl
  · split at hl
    · exact hl.remembers h
    · exact hl.remembers h
  · exact hl.remembers h

theorem Lookup.Reads.cache_of_lines_eq_none {l : Lookup} (hl : l.Reads)
    (h : l.answer.lines = none) : l.answer.cache = l.asked := by
  unfold Lookup.Reads at hl
  split at hl
  · rw [hl.1] at h
    cases h
  · exact hl.2.1

/-- A lookup that finds no text leaves the cache as it was. -/
theorem Lookup.Follows.cache_of_lines_eq_none {l : Lookup} (hl : l.Follows past)
    (h : l.answer.lines = none) : l.answer.cache = l.asked := by
  unfold Lookup.Follows at hl
  split at hl
  · split at hl
    · obtain ⟨text, _, hanswer⟩ := hl
      rw [hanswer] at h
      cases h
    · exact hl.cache_of_lines_eq_none h
  · exact hl.cache_of_lines_eq_none h

/-! ## Whole histories -/

/-- At the end of a history the cache remembers its lookups. -/
theorem after_remembers (h : cache.Remembers past) (files : FileStore) (events : List Event) :
    (after files cache events).2.Remembers (past ++ lookups files cache events) := by
  induction events generalizing files cache past with
  | nil =>
      rw [lookups, List.append_nil]
      exact h
  | cons event events ih =>
      cases event with
      | edit change => exact ih h (change files)
      | linesAt path =>
          have hstep := (lookup_follows h files path).remembers h
          have hrest := ih hstep files
          rw [List.append_assoc] at hrest
          exact hrest

/-- Every request of a history answers as the requests before it make it answer: with the
text that was loaded last if that is of the same path, and otherwise with what its file
holds at the time.  A request that finds no text leaves the cache as it was, and all
other requests answer as they would without it. -/
theorem lines_follow_history (files : FileStore) (past later : List Event) (path : String) :
    ∃ l rest,
      lookups files .empty (past ++ .linesAt path :: later) =
        lookups files .empty past ++ l :: rest ∧
      l.path = path ∧ l.files = (after files .empty past).1 ∧
      l.asked = (after files .empty past).2 ∧
      l.Follows (lookups files .empty past) ∧
      (l.answer.lines = none →
        lookups files .empty (past ++ later) = lookups files .empty past ++ rest) := by
  let now := after files .empty past
  have hempty : empty.Remembers [] := rfl
  have hremembers : now.2.Remembers (lookups files .empty past) :=
    after_remembers hempty files past
  have hfollows := lookup_follows hremembers now.1 path
  refine ⟨now.2.lookup now.1 path, lookups now.1 (now.2.linesAt now.1 path).cache later,
    lookups_append files .empty past _, rfl, rfl, rfl, hfollows, fun hnone => ?_⟩
  have hcache : (now.2.linesAt now.1 path).cache = now.2 := hfollows.cache_of_lines_eq_none hnone
  rw [hcache]
  exact lookups_append files .empty past later

/-- A stale answer, also under another spelling of the path, until another file takes the
slot.  A file that is missing does not take it. -/
example :
    (lookups (.empty ["home"]) .empty
        [.write "A" ⟨#[65]⟩, .linesAt "A", .write "A" ⟨#[66]⟩, .linesAt "C", .linesAt "A/.",
          .write "B" ⟨#[67]⟩, .linesAt "B", .remove "B", .linesAt "A", .linesAt "B"]).map
      (·.answer.lines) =
        [some ["A"], none, some ["A"], some ["C"], some ["B"], none] := by
  decide +kernel

end TreeScan.SourceCache

import TreeScan.Files.Store
import TreeScan.Log

/-!
# The source cache

A cache of source lines with a single slot.  It keeps the lines of the file that
was loaded last.  A request for that file is answered from the slot, whatever
has happened to the file.  A request for another file reads it and replaces the
slot, unless the file cannot be read.
-/

namespace TreeScan

/-- The lines of a text.  A line break ends a line, so a text that ends with one
has no empty line after it. -/
def sourceLines (text : String) : List String :=
  let lines := Text.splitString '\n' text
  if lines.getLast? = some "" then lines.dropLast else lines

/-- The file that was loaded last, with its lines. -/
structure SourceCache where
  slot : Option (String × List String)
deriving DecidableEq, Repr

/-- The answer to a request for lines. -/
structure SourceAnswer where
  lines : Option (List String)
  cache : SourceCache
  events : List LogEvent
deriving DecidableEq, Repr

namespace SourceCache

/-- A cache that has loaded nothing. -/
def empty : SourceCache := ⟨none⟩

/-- The lines in the slot, if they are those of the path. -/
def cached? (cache : SourceCache) (path : String) : Option (List String) :=
  match cache.slot with
  | some (loaded, lines) => if Path.equal loaded path then some lines else none
  | none => none

/-- Loads a file into the slot. -/
def load (cache : SourceCache) (files : FileStore) (path : String) : SourceAnswer :=
  match files.read path with
  | .ok text =>
    { lines := some (sourceLines text)
      cache := ⟨some (path, sourceLines text)⟩
      events := [⟨.trace, "loaded source text", [("path", .text path)]⟩] }
  | .error e =>
    { lines := none
      cache := cache
      events := [⟨.debug, "source text unavailable",
        [("path", .text path), ("error", .text e.message)]⟩] }

/-- The lines of a file, from the slot if it holds them. -/
def linesAt (cache : SourceCache) (files : FileStore) (path : String) : SourceAnswer :=
  match cache.cached? path with
  | some lines => ⟨some lines, cache, []⟩
  | none => cache.load files path

end SourceCache

example : sourceLines "a\n\nb" = ["a", "", "b"] := by decide
example : sourceLines "a\n" = ["a"] ∧ sourceLines "" = [] := by decide

end TreeScan

import TreeScan.Ast.Tree
import TreeScan.Log
import TreeScan.Scan.Config

/-!
# Static imports

A table from short names to the static imports that bring them in.  The short
name of an import is what comes after the last dot of its identifier, so all
wildcards share the name `*`.

The table is filled unit by unit.  An import replaces an earlier one of the same
short name, and this is noted in the log.  No short name is listed twice.
-/

namespace TreeScan

/-- The static imports by short name, in the order in which the names first
came. -/
structure StaticImports where
  entries : List (String × Spanned ImportDecl)
  names_nodup : (entries.map Prod.fst).Nodup

namespace StaticImports

/-- An empty table. -/
def empty : StaticImports := ⟨[], List.nodup_nil⟩

/-! ## Looking up -/

/-- The import with a short name. -/
def get? (table : StaticImports) (name : String) : Option (Spanned ImportDecl) :=
  table.entries.lookup name

/-- Whether there is an import with a short name. -/
def contains (table : StaticImports) (name : String) : Bool := (table.get? name).isSome

/-- The number of short names. -/
def size (table : StaticImports) : Nat := table.entries.length

/-- Whether the table has no entry. -/
def isEmpty (table : StaticImports) : Bool := table.entries.isEmpty

/-! ## Registering -/

/-- The entries with one more.  It takes the place of an entry with its name. -/
def putEntry (name : String) (decl : Spanned ImportDecl) :
    List (String × Spanned ImportDecl) → List (String × Spanned ImportDecl)
  | [] => [(name, decl)]
  | entry :: entries =>
    if entry.1 = name then (name, decl) :: entries else entry :: putEntry name decl entries

theorem names_putEntry (name : String) (decl : Spanned ImportDecl)
    (entries : List (String × Spanned ImportDecl)) :
    (putEntry name decl entries).map Prod.fst =
      if name ∈ entries.map Prod.fst then entries.map Prod.fst
      else entries.map Prod.fst ++ [name] := by
  induction entries with
  | nil => simp [putEntry]
  | cons entry entries ih =>
    rw [putEntry]
    split
    · next h => simp [h]
    · next h =>
      have h' : ¬ name = entry.1 := fun e => h e.symm
      rw [List.map_cons, ih]
      by_cases hm : name ∈ entries.map Prod.fst <;> simp_all

theorem nodup_putEntry (name : String) (decl : Spanned ImportDecl)
    {entries : List (String × Spanned ImportDecl)} (h : (entries.map Prod.fst).Nodup) :
    ((putEntry name decl entries).map Prod.fst).Nodup := by
  rw [names_putEntry]
  split
  · exact h
  · next hm =>
    rw [List.nodup_append]
    exact ⟨h, by simp, fun a ha b hb e => hm (by simp_all)⟩

/-- The table with an import under a short name. -/
def insert (table : StaticImports) (name : String) (decl : Spanned ImportDecl) : StaticImports :=
  ⟨putEntry name decl table.entries, nodup_putEntry name decl table.names_nodup⟩

/-- What is noted when an import replaces another one. -/
def reassigned (old new : Spanned ImportDecl) : LogEvent :=
  ⟨.trace, "static import short name reassigned",
    [("replaced", .text old.node.identifier), ("by", .text new.node.identifier)]⟩

/-- The short name under which an import is entered. -/
def nameOf (decl : Spanned ImportDecl) : String := shortName decl.node.identifier

/-- Enters imports one after the other. -/
def enterAll (table : StaticImports) :
    List (Spanned ImportDecl) → StaticImports × List LogEvent
  | [] => (table, [])
  | decl :: decls =>
    let noted := (table.get? (nameOf decl)).toList.map fun old => reassigned old decl
    let (table, events) := enterAll (table.insert (nameOf decl) decl) decls
    (table, noted ++ events)

/-- The table with the static imports of a unit, and what was noted. -/
def register (table : StaticImports) (policy : StaticImportPolicy) (unit : CompilationUnit) :
    StaticImports × List LogEvent :=
  let kept := match policy with
    | .accumulate => table
    | .resetPerUnit => empty
  kept.enterAll (unit.imports.filter (·.node.isStatic))

end StaticImports

end TreeScan

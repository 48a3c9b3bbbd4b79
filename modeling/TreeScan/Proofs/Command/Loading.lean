import Mathlib.Data.List.Forall2
import TreeScan.Command.Load

/-!
# Loading units from files

A file is loaded (`Loader.Yields`) or it is not, and then it cannot be read or what is in it
is no unit (`Loader.Unloadable`).  Of several files the first that cannot be loaded decides,
and otherwise each is loaded (`Loader.loadAll_cases`).  This does not depend on how files are
read and decoded.

A unit that is loaded from a JSON file is the one in the file, but for its path (`Loads`).  A
file that can be read stands in a directory: only the empty path and paths that stay at the
root have no directory, and neither is the path of a file (`parent?_of_read`).
-/

namespace TreeScan

/-! ## The directory of a file -/

namespace Path

/-- Only pieces without a name are no components. -/
theorem mem_of_componentsAfter {seen : Nat} {parts : List (List Char)}
    (h : componentsAfter seen parts = []) : ∀ part ∈ parts, part = [] ∨ part = ['.'] := by
  induction parts generalizing seen with
  | nil => exact List.forall_mem_nil _
  | cons part parts ih =>
      rw [componentsAfter] at h
      split at h
      · next hpart =>
          simp only [Bool.or_eq_true, decide_eq_true_eq] at hpart
          exact List.forall_mem_cons.2 ⟨hpart, ih h⟩
      · cases h

theorem name_of_componentsAfter {seen : Nat} {parts : List (List Char)} {c : Component × Nat}
    (h : c ∈ componentsAfter seen parts) : ∃ text, c.1 = .name text := by
  induction parts generalizing seen with
  | nil => cases h
  | cons part parts ih =>
      rw [componentsAfter] at h
      split at h
      · exact ih h
      · rcases List.mem_cons.1 h with rfl | h
        · exact ⟨_, rfl⟩
        · exact ih h

/-- A path with a name in it has a directory. -/
theorem parent?_of_name {path : String}
    (h : componentsAfter 0 (Text.split '/' path.toList) ≠ []) :
    ∃ directory, parent? path = some directory := by
  obtain ⟨first, hends⟩ : ∃ first,
    componentEnds path = first ++ componentsAfter 0 (Text.split '/' path.toList) := ⟨_, rfl⟩
  rcases List.eq_nil_or_concat (componentsAfter 0 (Text.split '/' path.toList)) with
    hnil | ⟨before, last, hlast⟩
  · exact absurd hnil h
  · have hmem : last ∈ componentsAfter 0 (Text.split '/' path.toList) := by
      rw [hlast]
      simp
    obtain ⟨text, hname⟩ := name_of_componentsAfter hmem
    obtain ⟨c, stop⟩ := last
    obtain rfl : c = .name text := hname
    rw [hlast, List.concat_eq_append, ← List.append_assoc] at hends
    unfold parent?
    rw [hends, List.reverse_append, List.reverse_singleton, List.singleton_append]
    cases (first ++ before).reverse with
    | nil => exact ⟨_, rfl⟩
    | cons c rest => exact ⟨_, rfl⟩

/-- A path without a directory is empty, or it begins at the root and has no names. -/
theorem eq_of_parent?_none {path : String} (h : parent? path = none) :
    path = "" ∨ (isAbsolute path = true ∧
      ∀ part ∈ Text.splitString '/' path, part = "" ∨ part = ".") := by
  have hjoin := Text.join_split '/' path.toList
  have hrest : componentsAfter 0 (Text.split '/' path.toList) = [] := by
    by_contra hne
    obtain ⟨directory, hd⟩ := parent?_of_name hne
    rw [h] at hd
    cases hd
  have hparts := mem_of_componentsAfter hrest
  unfold parent? componentEnds at h
  simp only [hrest, List.append_nil] at h
  cases hs : Text.split '/' path.toList with
  | nil => exact absurd hs (Text.split_ne_nil '/' path.toList)
  | cons part parts =>
      rw [hs] at h hjoin hparts
      rcases hparts part List.mem_cons_self with rfl | rfl
      · cases parts with
        | nil => exact .inl (String.toList_eq_nil_iff.1 hjoin.symm)
        | cons next parts =>
            refine .inr ⟨?_, ?_⟩
            · rw [isAbsolute, ← hjoin]
              rfl
            · intro text htext
              rw [Text.splitString, hs] at htext
              obtain ⟨cs, hcs, rfl⟩ := List.mem_map.1 htext
              rcases hparts cs hcs with rfl | rfl
              · exact .inl rfl
              · exact .inr rfl
      · cases h

end Path

namespace FileStore

/-- Parts without a name lead nowhere from the root. -/
theorem follow_root (files : FileStore) {parts : List String}
    (h : ∀ part ∈ parts, part = "" ∨ part = ".") : files.follow [] parts = .ok [] := by
  induction parts with
  | nil => rfl
  | cons part parts ih =>
      obtain ⟨hpart, hparts⟩ := List.forall_mem_cons.1 h
      have hstep : files.step [] part = .ok [] := by
        simp [step, find?, hpart]
      rw [follow, hstep]
      exact ih hparts

theorem read_of_text {files : FileStore} {path text : String}
    (h : files.readBytes path = .ok text.toUTF8) : files.read path = .ok text := by
  have htext : String.fromUTF8? text.toUTF8 = some text := dif_pos text.isValidUTF8
  simp only [read, h, bind, Except.bind, htext]
  rfl

/-- A file that can be read is in a directory. -/
theorem parent?_of_read {files : FileStore} {path text : String}
    (h : files.read path = .ok text) : ∃ directory, Path.parent? path = some directory := by
  cases hp : Path.parent? path with
  | some directory => exact ⟨directory, rfl⟩
  | none =>
      -- There is no file at the empty path, and at the root there is a directory.
      have hbytes : ∃ e, files.readBytes path = .error e := by
        rcases Path.eq_of_parent?_none hp with rfl | ⟨habsolute, hparts⟩
        · exact ⟨.notFound, rfl⟩
        · unfold readBytes
          split
          · exact ⟨.notFound, rfl⟩
          · rw [origin, if_pos habsolute, files.follow_root hparts]
            exact ⟨.isDirectory, by simp [find?, bind, Except.bind]; rfl⟩
      obtain ⟨e, he⟩ := hbytes
      rw [read, he] at h
      cases h

end FileStore

namespace Command

/-! ## One file -/

namespace Loader

variable {l : Loader} {file : String} {e : CommandError}

/-- Why the unit in a file cannot be loaded. -/
inductive Unloadable (l : Loader) (file : String) : CommandError → Prop where
  | unreadable {error : ReadError} :
      l.read file = .error error → Unloadable l file (.unreadable file error)
  | invalid {text : String} {error : Json.DecodeError} :
      l.read file = .ok text → l.decode text = .error error →
      Unloadable l file (.invalid file error)

theorem load_error_iff : l.load file = .error e ↔ l.Unloadable file e := by
  unfold load
  constructor
  · intro h
    cases hr : l.read file with
    | error error =>
        rw [hr] at h
        cases h
        exact .unreadable hr
    | ok text =>
        rw [hr] at h
        cases hd : l.decode text with
        | error error =>
            simp only [hd] at h
            cases h
            exact .invalid hr hd
        | ok unit =>
            simp only [hd] at h
            cases h
  · intro h
    cases h with
    | unreadable hr => rw [hr]
    | invalid hr hd =>
        rw [hr]
        simp only [hd]

/-- A file can be read, and what is in it is a unit, but for its path. -/
inductive Yields (l : Loader) (file : String) : CompilationUnit → Prop where
  | intro {text : String} {written : CompilationUnit} :
      l.read file = .ok text → l.decode text = .ok written →
      Yields l file (resolvePath file written)

theorem load_ok_iff {unit : CompilationUnit} : l.load file = .ok unit ↔ l.Yields file unit := by
  unfold load
  constructor
  · intro h
    cases hr : l.read file with
    | error error =>
        rw [hr] at h
        cases h
    | ok text =>
        rw [hr] at h
        cases hd : l.decode text with
        | error error =>
            simp only [hd] at h
            cases h
        | ok written =>
            simp only [hd, Except.ok.injEq] at h
            subst h
            exact .intro hr hd
  · rintro ⟨hr, hd⟩
    rw [hr]
    simp only [hd]

/-! ## Several files -/

/-- All files are loaded, or one is the first that is not. -/
theorem loadAll_cases (l : Loader) (paths : List String) :
    (∃ before file after e, paths = before ++ file :: after ∧
      (∀ p ∈ before, ∃ unit, l.load p = .ok unit) ∧ l.load file = .error e ∧
      l.loadAll paths = .error e) ∨
    ∃ units, List.Forall₂ (fun p unit => l.load p = .ok unit) paths units ∧
      l.loadAll paths = .ok units := by
  induction paths with
  | nil => exact .inr ⟨[], .nil, rfl⟩
  | cons p paths ih =>
      cases hp : l.load p with
      | error e =>
          refine .inl ⟨[], p, paths, e, rfl, List.forall_mem_nil _, hp, ?_⟩
          rw [loadAll, hp]
          rfl
      | ok unit =>
          rcases ih with ⟨before, file, after, e, rfl, hbefore, hfile, hall⟩ | ⟨units, heach, hall⟩
          · refine .inl ⟨p :: before, file, after, e, rfl,
              List.forall_mem_cons.2 ⟨⟨unit, hp⟩, hbefore⟩, hfile, ?_⟩
            rw [loadAll, hp, hall]
            rfl
          · refine .inr ⟨unit :: units, .cons hp heach, ?_⟩
            rw [loadAll, hp, hall]
            rfl

end Loader

/-! ## JSON files -/

/-- A unit is what stands in a file, with its path taken relative to the directory of the
file. -/
structure Loads (files : FileStore) (file : String) (unit : CompilationUnit) (text : String)
    (written : CompilationUnit) (directory : String) : Prop where
  read : files.read file = .ok text
  decodes : Json.decodeText CompilationUnit.decode text = .ok written
  parent : Path.parent? file = some directory
  eq : unit = { written with path := Path.within directory written.path }

variable {files : FileStore} {file : String} {unit : CompilationUnit}

/-- What is absolute stays as it is. -/
theorem Loads.path_of_absolute {text directory : String} {written : CompilationUnit}
    (h : Loads files file unit text written directory)
    (habsolute : Path.isAbsolute written.path = true) : unit = written := by
  rw [h.eq, Path.within, if_pos habsolute]

/-- A unit is loaded from a file that can be read and decoded, and such a file has a
directory. -/
theorem loads_of_load (h : load files file = .ok unit) :
    ∃ text written directory, Loads files file unit text written directory := by
  obtain ⟨hr, hd⟩ := Loader.load_ok_iff.1 h
  obtain ⟨directory, hp⟩ := FileStore.parent?_of_read hr
  refine ⟨_, _, directory, hr, hd, hp, ?_⟩
  rw [resolvePath, hp]

end Command

end TreeScan

import TreeScan.Text.Split

/-!
# Paths

A path is kept as the text it was given as, and is shown and opened as such.
Two paths are compared by their components: repeated and trailing slashes do not
count, and neither does a dot between two slashes.  A dot at the beginning is a
component.  Dots that lead upwards are never resolved.
-/

namespace TreeScan.Path

/-- A component of a path. -/
inductive Component where
  /-- The slash at the beginning. -/
  | root
  /-- The dot at the beginning. -/
  | current
  /-- Two dots, or a name. -/
  | name (text : String)
deriving DecidableEq, Repr

/-- Whether a path begins at the root. -/
def isAbsolute (path : String) : Bool := path.toList.head? == some '/'

/-- The components of the parts between slashes, each with the number of
characters up to its end.  `seen` characters come before the parts. -/
def componentsAfter (seen : Nat) : List (List Char) → List (Component × Nat)
  | [] => []
  | part :: parts =>
    let rest := componentsAfter (seen + part.length + 1) parts
    if part = [] || part = ['.'] then rest
    else (.name (String.ofList part), seen + part.length) :: rest

/-- The components of a path with the number of characters up to their ends. -/
def componentEnds (path : String) : List (Component × Nat) :=
  let parts := Text.split '/' path.toList
  let first := match parts with
    | [] => []
    | [] :: _ :: _ => [(Component.root, 1)]
    | ['.'] :: _ => [(Component.current, 1)]
    | _ => []
  first ++ componentsAfter 0 parts

/-- The components of a path. -/
def components (path : String) : List Component := (componentEnds path).map (·.1)

/-- Whether two paths have the same components. -/
def equal (p q : String) : Bool := components p == components q

/-- The path of the directory that holds a path: what stands before its last
component.  The empty path and the root have none. -/
def parent? (path : String) : Option String :=
  match (componentEnds path).reverse with
  | [] => none
  | (.root, _) :: _ => none
  | [_] => some ""
  | _ :: (_, stop) :: _ => some (String.ofList (path.toList.take stop))

/-- A path taken relative to a directory.  An absolute path stays as it is. -/
def within (directory path : String) : String :=
  if isAbsolute path then path
  else if directory = "" || directory.toList.getLast? = some '/' then directory ++ path
  else directory ++ "/" ++ path

theorem equal_self (p : String) : equal p p = true := by simp [equal]

theorem equal_iff {p q : String} : equal p q = true ↔ components p = components q := by
  simp [equal]

example : equal "d/A" "d//A" ∧ equal "d/A" "d/./A/" ∧ !equal "./A" "A" ∧ !equal "/A" "A" := by
  decide
example : parent? "d/./u.json" = some "d" ∧ parent? "u.json" = some "" ∧ parent? "/" = none := by
  decide
example : parent? ".//u.json" = some "." ∧ parent? "/u.json" = some "/" := by decide
example : within "d" "" = "d/" ∧ within "" "A" = "A" ∧ within "." "./A" = "././A" := by decide

end TreeScan.Path

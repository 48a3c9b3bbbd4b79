import Mathlib.Data.List.TakeWhile
import TreeScan.Scan.Stack

/-!
# Queries of the stack

All queries of a stack are answered from the same frames.  Here these are listed from the
root (`Stack.fromRoot`).  The last one is the current node, and a search goes back from the
one before it.

*Tests.*  A test may have a memory, so it matters about which nodes it is asked.  A search
asks about one node after the other until the answer is yes, and about nothing else
(`Search.Ends`).  A test without a memory finds the last frame that passes it.

*Starting points.*  A search around a node starts at its innermost frame
(`Stack.exists_innermost_frame`).  The frame itself and those inside it are not asked about.

*Views.*  Views and symbols are decided by the kind of a node.  So a search for what is first
seen at an ancestor comes to the nearest ancestor of some kinds
(`Stack.find?_eq_bind_nearestOfKinds?`).
-/

namespace TreeScan

/-! ## Searches with a test that has a memory -/

namespace Search

variable {σ : Type} {p : Node → StateM σ Bool} {nodes : List Node} {x : σ}

/-- How a search through some nodes ends, for a test with a memory.  The test was asked about
the nodes in their order.  It said yes about the one that was found, and no about those before
it.  If none was found, it said no about every node. -/
def Ends (p : Node → StateM σ Bool) (nodes : List Node) (x : σ) : Option Node × σ → Prop
  | (some n, y) => ∃ before after, nodes = before ++ n :: after ∧
      ((before ++ [n]).mapM p).run x = (before.map (fun _ => false) ++ [true], y)
  | (none, y) => (nodes.mapM p).run x = (nodes.map fun _ => false, y)

/-- Asking about one node more, in front of others. -/
theorem run_mapM_cons (p : Node → StateM σ Bool) (n : Node) (nodes : List Node) (x : σ) :
    ((n :: nodes).mapM p).run x =
      (((p n).run x).1 :: ((nodes.mapM p).run ((p n).run x).2).1,
        ((nodes.mapM p).run ((p n).run x).2).2) := by
  rw [List.mapM_cons]
  rfl

theorem run_findM?_cons (p : Node → StateM σ Bool) (n : Node) (nodes : List Node) (x : σ) :
    ((n :: nodes).findM? p).run x =
      if ((p n).run x).1 then (some n, ((p n).run x).2)
      else (nodes.findM? p).run ((p n).run x).2 := by
  rw [List.findM?, StateT.run_bind]
  show StateT.run _ ((p n).run x).2 = _
  cases ((p n).run x).1 with
  | true => rfl
  | false => rfl

/-- A no to the first node leaves the search to the others. -/
theorem Ends.cons {n : Node} {end' : Option Node × σ} (hno : ((p n).run x).1 = false)
    (h : Ends p nodes ((p n).run x).2 end') : Ends p (n :: nodes) x end' := by
  obtain ⟨found, y⟩ := end'
  cases found with
  | some m =>
      obtain ⟨before, after, rfl, hasked⟩ := h
      refine ⟨n :: before, after, rfl, ?_⟩
      rw [List.cons_append, run_mapM_cons, hasked, hno]
      rfl
  | none =>
      show ((n :: nodes).mapM p).run x = _
      have hasked : (nodes.mapM p).run ((p n).run x).2 = _ := h
      rw [run_mapM_cons, hasked, hno]
      rfl

theorem findM?_ends (p : Node → StateM σ Bool) (nodes : List Node) (x : σ) :
    Ends p nodes x ((nodes.findM? p).run x) := by
  induction nodes generalizing x with
  | nil => rfl
  | cons n nodes ih =>
      rw [run_findM?_cons]
      cases hp : ((p n).run x).1 with
      | true =>
          refine ⟨[], nodes, rfl, ?_⟩
          rw [List.nil_append, run_mapM_cons, hp]
          rfl
      | false => exact (ih _).cons hp

/-- A test without a memory is asked like any other. -/
theorem findM?_pure (p : Node → Bool) (nodes : List Node) (x : σ) :
    (nodes.findM? fun n => (pure (p n) : StateM σ Bool)).run x = (nodes.find? p, x) := by
  induction nodes with
  | nil => rfl
  | cons n nodes ih =>
      rw [run_findM?_cons, List.find?_cons]
      show (if p n then (some n, x) else _) = _
      cases p n with
      | true => rfl
      | false => exact ih

/-- What a search finds first it finds last in the opposite direction. -/
theorem find?_eq_getLast?_filter (p : Node → Bool) (nodes : List Node) :
    nodes.find? p = (nodes.reverse.filter p).getLast? := by
  rw [List.filter_reverse, List.getLast?_reverse, List.head?_filter]

end Search

namespace Stack

variable {s inside outside : Stack} {m n : Node}

/-! ## Frames -/

/-- The ancestors of the current node are the frames before the last, from the last of them
back to the root. -/
theorem ancestors_eq_frames (s : Stack) : s.ancestors = s.fromRoot.dropLast.reverse := by
  rw [fromRoot, List.dropLast_reverse, List.reverse_reverse, ancestors]

/-- The frame that is some frames before the last. -/
def backward? (s : Stack) (k : Nat) : Option Node :=
  if k < s.depth then s.fromRoot[s.depth - 1 - k]? else none

theorem backward?_eq (s : Stack) (k : Nat) : s.backward? k = s[k]? := by
  unfold backward? depth fromRoot
  split
  · next h =>
      rw [List.getElem?_reverse (by omega)]
      congr 1
      omega
  · next h => exact (List.getElem?_eq_none (by omega)).symm

theorem ancestors_getElem? (s : Stack) (k : Nat) : s.ancestors[k]? = s.backward? (k + 1) := by
  rw [backward?_eq, ancestors, List.getElem?_tail]

/-! ## Innermost frames -/

/-- A node that is on the stack has an innermost frame. -/
theorem exists_innermost_frame (h : ∃ m ∈ s, m.same n = true) :
    ∃ inside m outside, s = inside ++ m :: outside ∧ m.same n = true ∧
      ∀ i ∈ inside, i.same n = false := by
  obtain ⟨m, hfind⟩ := Option.isSome_iff_exists.1 (List.find?_isSome.2 h)
  obtain ⟨hm, inside, outside, hs, hinside⟩ := List.find?_eq_some_iff_append.1 hfind
  exact ⟨inside, m, outside, hs, hm, fun i hi => by simpa using hinside i hi⟩

theorem backTo_frame (hm : m.same n = true) (h : ∀ i ∈ inside, i.same n = false) :
    backTo (inside ++ m :: outside) n = m :: outside := by
  have hpassed : ∀ i ∈ inside, (!i.same n) = true := fun i hi => by rw [h i hi]; rfl
  rw [backTo, List.dropWhile_append_of_pos hpassed, List.dropWhile_cons_of_neg (by simp [hm])]

theorem backTo_absent (h : ∀ m ∈ s, m.same n = false) : s.backTo n = [] := by
  rw [backTo, List.dropWhile_eq_nil_iff]
  intro m hm
  rw [h m hm]
  rfl

theorem backTo_current (h : s.current? = some n) : s.backTo n = s := by
  cases s with
  | nil => cases h
  | cons c s =>
      cases h
      exact List.dropWhile_cons_of_neg (by simp)

/-! ## What is first seen at an ancestor -/

/-- If something is seen at the nodes of some kinds and at no others, then it is first seen
at the nearest ancestor of these kinds. -/
theorem find?_eq_bind_nearestOfKinds? {β : Type} {f : Node → Option β} {kinds : List NodeKind}
    (h : ∀ n, (f n).isSome = kinds.contains n.kind) (s : Stack) :
    s.find? f = (s.nearestOfKinds? kinds).bind f := by
  unfold find? nearestOfKinds? nearest?
  induction s.ancestors with
  | nil => rfl
  | cons n nodes ih =>
      rw [List.findSome?_cons, List.find?_cons, ← h n]
      cases hf : f n with
      | some b => exact hf.symm
      | none => exact ih

/-- The symbol that is first found and passes a test is that of the first node whose symbol
passes it. -/
theorem nearestSymbol?_eq_find? {β : Type} (s : Stack) (u : CompilationUnit)
    (resolve : SymbolResolver β) (p : β → Bool) :
    s.nearestSymbol? (some u) resolve p = s.find? fun n => (resolve u n).filter p := by
  show (s.ancestors.filterMap (resolve u)).find? p = s.ancestors.findSome? _
  induction s.ancestors with
  | nil => rfl
  | cons n nodes ih =>
      rw [List.filterMap_cons, List.findSome?_cons]
      cases hn : resolve u n with
      | none => exact ih
      | some b =>
          simp only [List.find?_cons, Option.filter_some]
          cases p b with
          | true => rfl
          | false => exact ih

end Stack

/-! ## Kinds of views and symbols -/

/-- The kinds of type declarations. -/
def typeKinds : List NodeKind := [.classType, .interfaceType, .enumType]

/-- The kinds of all declarations. -/
def declaringKinds : List NodeKind := typeKinds ++ [.field, .method, .parameter, .localVariable]

/-- The kind of a node decides which views it has, and which symbol. -/
structure Node.SeenByKind (n : Node) : Prop where
  typeDecl : n.element.typeDecl?.isSome = typeKinds.contains n.kind
  method : n.element.method?.isSome = [NodeKind.method].contains n.kind
  field : n.element.field?.isSome = [NodeKind.field].contains n.kind
  symbol : n.symbol?.isSome = declaringKinds.contains n.kind
  typeSymbol : n.symbol?.any DeclSymbol.isType = typeKinds.contains n.kind

theorem Node.seenByKind (n : Node) : n.SeenByKind := by
  obtain ⟨place, e⟩ := n
  cases e with
  | typeDecl d =>
      obtain ⟨⟨k, name, members⟩, span⟩ := d
      cases k <;> exact ⟨rfl, rfl, rfl, rfl, rfl⟩
  | member m =>
      obtain ⟨node, span⟩ := m
      cases node with
      | field d => exact ⟨rfl, rfl, rfl, rfl, rfl⟩
      | method d => exact ⟨rfl, rfl, rfl, rfl, rfl⟩
      | type d =>
          obtain ⟨k, name, members⟩ := d
          cases k <;> exact ⟨rfl, rfl, rfl, rfl, rfl⟩
  | stmt s =>
      obtain ⟨node, span⟩ := s
      cases node <;> exact ⟨rfl, rfl, rfl, rfl, rfl⟩
  | expr e =>
      obtain ⟨node, span⟩ := e
      cases node <;> exact ⟨rfl, rfl, rfl, rfl, rfl⟩
  | _ => exact ⟨rfl, rfl, rfl, rfl, rfl⟩

namespace Stack

variable {s : Stack} {n : Node}

theorem kind_of_nearestOfKinds? {kinds : List NodeKind}
    (h : s.nearestOfKinds? kinds = some n) : kinds.contains n.kind = true :=
  List.find?_some (p := fun m : Node => kinds.contains m.kind) h

theorem parentSymbol?_eq (s : Stack) (u : CompilationUnit) :
    s.parentSymbol? (some u) declResolver =
      (s.nearestOfKinds? declaringKinds).bind (declResolver u) := by
  have hall : (fun n => (declResolver u n).filter fun _ => true) = declResolver u := by
    funext n
    cases declResolver u n <;> rfl
  rw [parentSymbol?, nearestSymbol?_eq_find?, hall]
  exact find?_eq_bind_nearestOfKinds? (fun n => n.seenByKind.symbol) s

theorem nearestSymbol?_isType_eq (s : Stack) (u : CompilationUnit) :
    s.nearestSymbol? (some u) declResolver DeclSymbol.isType =
      (s.nearestOfKinds? typeKinds).bind (declResolver u) := by
  have hkind : ∀ n, ((declResolver u n).filter DeclSymbol.isType).isSome =
      typeKinds.contains n.kind := fun n => by
    rw [Option.isSome_filter]
    exact n.seenByKind.typeSymbol
  rw [nearestSymbol?_eq_find?, find?_eq_bind_nearestOfKinds? hkind]
  cases hn : s.nearestOfKinds? typeKinds with
  | none => rfl
  | some n =>
      -- The symbol of a type declaration passes the test.
      have hsome := (hkind n).trans (kind_of_nearestOfKinds? hn)
      show (declResolver u n).filter DeclSymbol.isType = declResolver u n
      cases hu : declResolver u n with
      | none => rfl
      | some d =>
          rw [hu] at hsome
          exact Option.filter_eq_some_iff.2 ⟨rfl, by simpa using hsome⟩

/-! ## One view of the frames -/

/-- A search around a node starts at the last frame of the node.  Only the frames before it
are asked about, from the nearest to the root, and not that frame or those inside it. -/
def SearchesAround (s : Stack) (n : Node) : Prop :=
  ∃ outer m inner,
    s.fromRoot = outer ++ m :: inner ∧ m.same n = true ∧ (∀ i ∈ inner, i.same n = false) ∧
      (∀ {σ : Type} (p : Node → StateM σ Bool) (x : σ),
        Search.Ends p outer.reverse x ((s.nearestFromM? p n).run x)) ∧
      ∀ p, s.nearestFrom? p n = (outer.filter p).getLast?

theorem searchesAround (h : ∃ m ∈ s, m.same n = true) : s.SearchesAround n := by
  obtain ⟨inside, m, outside, rfl, hm, hinside⟩ := exists_innermost_frame h
  have hback : backTo (inside ++ m :: outside) n = m :: outside := backTo_frame hm hinside
  refine ⟨outside.reverse, m, inside.reverse, ?_, hm, fun i hi => ?_, fun p x => ?_, fun p => ?_⟩
  · simp [fromRoot]
  · exact hinside i (List.mem_reverse.1 hi)
  · rw [nearestFromM?, hback, List.reverse_reverse]
    exact Search.findM?_ends p outside x
  · rw [nearestFrom?, hback]
    exact Search.find?_eq_getLast?_filter p outside

/-- All queries of a stack are answered from the frames before the last one, from the nearest
to the root. -/
structure OneView (s : Stack) : Prop where
  /-- A test with a memory is asked about these frames back to the one that is found. -/
  nearest_ends : ∀ {σ : Type} (p : Node → StateM σ Bool) (x : σ),
    Search.Ends p s.fromRoot.dropLast.reverse x ((s.nearestM? p).run x)
  /-- A test without a memory is asked like any other. -/
  memoryless : ∀ {σ : Type} (p : Node → Bool) (x : σ),
    (s.nearestM? fun n => (pure (p n) : StateM σ Bool)).run x = (s.nearest? p, x) ∧
      ∀ n, (s.nearestFromM? (fun m => (pure (p m) : StateM σ Bool)) n).run x =
        (s.nearestFrom? p n, x)
  /-- It finds the last of these frames that passes it. -/
  nearest_eq : ∀ p, s.nearest? p = (s.fromRoot.dropLast.filter p).getLast?
  /-- Around a node on the stack, a search starts at its last frame. -/
  around_present : ∀ n, (∃ m ∈ s, m.same n = true) → s.SearchesAround n
  /-- Around any other node, nothing is asked and nothing is found. -/
  around_absent : ∀ n, (∀ m ∈ s, m.same n = false) →
    (∀ {m : Type → Type} [Monad m] (p : Node → m Bool), s.nearestFromM? p n = pure none) ∧
      ∀ p, s.nearestFrom? p n = none
  /-- Around the current node, the search is the one among its ancestors. -/
  around_current : ∀ n, s.current? = some n →
    (∀ {m : Type → Type} [Monad m] (p : Node → m Bool), s.nearestFromM? p n = s.nearestM? p) ∧
      ∀ p, s.nearestFrom? p n = s.nearest? p
  /-- A search by kinds is a search with the test for them. -/
  kinds_eq : ∀ kinds, s.nearestOfKinds? kinds =
    (s.fromRoot.dropLast.filter fun n => kinds.contains n.kind).getLast?
  /-- What is first seen as a method is the nearest ancestor of its kind. -/
  method_eq : (s.find? fun n => n.element.method?) =
    (s.nearestOfKinds? [.method]).bind fun n => n.element.method?
  field_eq : (s.find? fun n => n.element.field?) =
    (s.nearestOfKinds? [.field]).bind fun n => n.element.field?
  typeDecl_eq : (s.find? fun n => n.element.typeDecl?) =
    (s.nearestOfKinds? typeKinds).bind fun n => n.element.typeDecl?
  /-- The symbol of a type that is found is that of the type declaration that is found. -/
  typeSymbol_eq : ∀ u, s.nearestSymbol? (some u) declResolver DeclSymbol.isType =
    (s.nearestOfKinds? typeKinds).bind (declResolver u)
  /-- The symbol that is found is that of the nearest declaration. -/
  parentSymbol_eq : ∀ u, s.parentSymbol? (some u) declResolver =
    (s.nearestOfKinds? declaringKinds).bind (declResolver u)
  /-- The declarations are the nodes that have a symbol. -/
  symbol_isSome : ∀ u n, (declResolver u n).isSome = declaringKinds.contains n.kind
  /-- There are no symbols without an active unit. -/
  inactive : ∀ {β : Type} (resolve : SymbolResolver β),
    (∀ p, s.nearestSymbol? none resolve p = none) ∧ s.parentSymbol? none resolve = none
  /-- The ancestors are the frames before the last, the nearest first. -/
  ancestors_eq : ∀ k, s.ancestors[k]? = s.backward? (k + 1)
  current_eq : s.current? = s.fromRoot.getLast?
  parent_eq : s.parent? = s.ancestors[0]? ∧ s.parent? = s.backward? 1
  grandparent_eq : s.grandparent? = s.ancestors[1]? ∧ s.grandparent? = s.backward? 2

/-- The queries of a stack agree with each other. -/
theorem queries_agree (s : Stack) : s.OneView where
  nearest_ends p x := by
    rw [← ancestors_eq_frames]
    exact Search.findM?_ends p s.ancestors x
  memoryless p x :=
    ⟨Search.findM?_pure p s.ancestors x, fun n => Search.findM?_pure p (s.backTo n).ancestors x⟩
  nearest_eq p := by
    rw [nearest?, Search.find?_eq_getLast?_filter, ancestors_eq_frames, List.reverse_reverse]
  around_present _ h := searchesAround h
  around_absent n h := by
    have hback : s.backTo n = [] := backTo_absent h
    refine ⟨fun p => ?_, fun p => ?_⟩
    · rw [nearestFromM?, hback]
      rfl
    · rw [nearestFrom?, hback]
      rfl
  around_current n h := by
    have hback : s.backTo n = s := backTo_current h
    exact ⟨fun p => by rw [nearestFromM?, hback], fun p => by rw [nearestFrom?, hback]⟩
  kinds_eq kinds := by
    rw [nearestOfKinds?, nearest?, Search.find?_eq_getLast?_filter, ancestors_eq_frames,
      List.reverse_reverse]
  method_eq := find?_eq_bind_nearestOfKinds? (fun n => n.seenByKind.method) s
  field_eq := find?_eq_bind_nearestOfKinds? (fun n => n.seenByKind.field) s
  typeDecl_eq := find?_eq_bind_nearestOfKinds? (fun n => n.seenByKind.typeDecl) s
  typeSymbol_eq := nearestSymbol?_isType_eq s
  parentSymbol_eq := parentSymbol?_eq s
  symbol_isSome _ n := n.seenByKind.symbol
  inactive _ := ⟨fun _ => rfl, rfl⟩
  ancestors_eq := ancestors_getElem? s
  current_eq := by rw [current?, fromRoot, List.getLast?_reverse]
  parent_eq := ⟨rfl, ancestors_getElem? s 0⟩
  grandparent_eq := ⟨rfl, ancestors_getElem? s 1⟩

/-- A node that is on the stack twice.  The search around it starts at its inner frame and
comes to the outer one. -/
example :
    let n (i : Nat) : Node := ⟨⟨0, [i]⟩, .block ⟨⟨[]⟩, ⟨0, 0⟩⟩⟩
    let asked (m : Node) : StateM (List (List Nat)) Bool := do
      modify (· ++ [m.place.path])
      return m.place.path == [1]
    ((nearestFromM? [n 4, n 1, n 3, n 1, n 0] asked (n 1)).run []).2 = [[3], [1]] := by
  decide

end Stack

end TreeScan

import TreeScan.Proofs.Scan.Deliveries
import TreeScan.Proofs.Scan.Landing
import TreeScan.Proofs.Scan.Pruning

/-!
# What a run visits

A pass may give each node one behaviour, and note each node that it visits.  A run
of such a pass visits the nodes of the survey (`scan_follows`), delivers one
internal error for each visited node that fails, in the order of the visits, and
ends with an error if the survey is left with a rollback.

So the rule of pruning holds of runs.  It is stated here with nothing else in
between (`run_visits_iff`).
-/

namespace TreeScan

/-! ## The pass -/

/-- A rollback without a callback. -/
def plain (target : Node) : Rollback Empty := ⟨target, none⟩

/-- Does at a node what its behaviour says. -/
def Behaviour.visit (n : Node) : Behaviour → Visit (List Node) Empty Unit
  | .walk => Visit.walk n
  | .fault f => .fault f
  | .panic payload => .panic payload
  | .rollback target => .rollback (plain target)

/-- Notes each node that is visited and does there what its behaviour says. -/
def behaving (b : Node → Behaviour) : Pass (List Node) Empty where
  visit n := (Visit.change fun visited => visited ++ [n]).bind fun _ => (b n).visit n
  resume callback _ := callback.elim

/-- The fault that a visit ends with.  A panic is one when it has been caught. -/
def Behaviour.fault? : Behaviour → Option Fault
  | .walk => none
  | .fault f => some f
  | .panic payload => some (.ofPanic payload)
  | .rollback _ => none

/-- The diagnostics of some visits. -/
def diagnoses (unit : CompilationUnit) (b : Node → Behaviour) (visited : List Node) :
    List Diagnostic :=
  visited.filterMap fun n => (b n).fault?.map (internalErrorAt unit n)

theorem diagnoses_append (unit : CompilationUnit) (b : Node → Behaviour)
    (visited visited' : List Node) :
    diagnoses unit b visited ++ diagnoses unit b visited' =
      diagnoses unit b (visited ++ visited') :=
  List.filterMap_append.symm

namespace Engine

variable {η : Type}

/-- From `s` to `s'` some nodes were visited and their failures were delivered. -/
structure Visits (setup : Setup η) (unit : CompilationUnit) (b : Node → Behaviour)
    (visited : List Node) (s s' : ScanState (List Node) η) : Prop where
  pass_eq : s'.pass = s.pass ++ visited
  hears : Hears setup (diagnoses unit b visited) s.scanner s'.scanner

variable {setup : Setup η} {unit : CompilationUnit} {b : Node → Behaviour}
  {visited visited' : List Node} {s s' s'' : ScanState (List Node) η}

theorem Visits.refl (s : ScanState (List Node) η) : Visits setup unit b [] s s where
  pass_eq := (List.append_nil s.pass).symm
  hears := .refl s.scanner

theorem Visits.trans (h : Visits setup unit b visited s s')
    (h' : Visits setup unit b visited' s' s'') :
    Visits setup unit b (visited ++ visited') s s'' where
  pass_eq := by rw [h'.pass_eq, h.pass_eq, List.append_assoc]
  hears := by
    rw [← diagnoses_append]
    exact h.hears.trans h'.hears

/-! ## Scans -/

/-- How a visit ends that a rollback has left, or not. -/
def forwarded : Option Node → Outcome Empty Unit
  | none => .completed ()
  | some t => .interrupted (.rollback (plain t))

/-- The scan of a node visits what its survey says. -/
def Follows (setup : Setup η) (unit : CompilationUnit) (b : Node → Behaviour)
    (nested : Scan (List Node) Empty η) (n : Node) : Prop :=
  ∀ s, s.scanner.unit = some unit →
    ∃ s', nested n s = .ok (.answer ((survey b n).escape.map plain), s') ∧
      Visits setup unit b (survey b n).visited s s'

theorem runVisit_scan (setup : Setup η) (nested : Scan (List Node) Empty η) (n : Node)
    (s : ScanState (List Node) η) {t : Option Node}
    (h : nested n s = .ok (.answer (t.map plain), s')) :
    runVisit setup nested (Visit.scan n) s = .ok (forwarded t, s') := by
  rw [Visit.scan, runVisit_bind]
  have hask : runVisit setup nested (Visit.attempt (some n)) s =
      .ok (.completed (t.map plain), s') := by
    unfold Visit.attempt Visit.ask
    rw [runVisit_request, answer, h]
    rfl
  rw [hask]
  cases t with
  | none => rfl
  | some t => rfl

/-- Nodes that are scanned one after the other. -/
theorem runVisit_scanAll {nested : Scan (List Node) Empty η} {ns : List Node}
    (h : ∀ n ∈ ns, Follows setup unit b nested n) (hunit : s.scanner.unit = some unit) :
    ∃ s', runVisit setup nested (Visit.scanAll ns) s =
        .ok (forwarded (Survey.inTurn (survey b) ns).escape, s') ∧
      Visits setup unit b (Survey.inTurn (survey b) ns).visited s s' := by
  induction ns generalizing s with
  | nil => exact ⟨s, rfl, .refl s⟩
  | cons n ns ih =>
      obtain ⟨s₁, hn, hv⟩ := h n List.mem_cons_self s hunit
      have hscan := runVisit_scan setup nested n s hn
      rw [Visit.scanAll, runVisit_bind, hscan, Survey.inTurn, Survey.andThen]
      cases he : (survey b n).escape with
      | none =>
          obtain ⟨s₂, hns, hvs⟩ := ih (fun m hm => h m (List.mem_cons_of_mem n hm))
            (hv.hears.unit_eq.trans hunit)
          exact ⟨s₂, hns, hv.trans hvs⟩
      | some t =>
          refine ⟨s₁, ?_, hv⟩
          show Except.ok (forwarded (some t), s₁) = .ok (forwarded (survey b n).escape, s₁)
          rw [he]

/-- The frame of a node that begins to be visited. -/
def openFrame (n : Node) (limit : Nat) (s : ScanState (List Node) η) :
    Frame (List Node) Empty η :=
  ⟨n, s, limit, .visiting, s.on (s.scanner.enter n), Visit.forward⟩

/-- The state in which a node has been noted. -/
def noted (n : Node) (s : ScanState (List Node) η) : ScanState (List Node) η :=
  ⟨s.pass ++ [n], s.scanner.enter n⟩

theorem openFrame_ended (setup : Setup η) (b : Node → Behaviour) (n : Node) (limit : Nat)
    (s : ScanState (List Node) η) :
    (openFrame n limit s).ended setup (behaving b) =
      runVisit setup (scan setup (behaving b) limit) ((b n).visit n) (noted n s) := by
  show runVisit setup (scan setup (behaving b) limit)
    ((Visit.change fun visited => visited ++ [n]).bind fun _ => (b n).visit n)
    (s.on (s.scanner.enter n)) = _
  rw [runVisit_bind]
  rfl

theorem visits_restack (s : ScanState (List Node) η) (stack : Stack) :
    Visits setup unit b [] s (s.restack stack) where
  pass_eq := (List.append_nil s.pass).symm
  hears := .of_eq rfl rfl rfl rfl

/-- A visit that does not fail delivers nothing of its own. -/
theorem visits_noted {n : Node} (hb : (b n).fault? = none) (s : ScanState (List Node) η) :
    Visits setup unit b [n] s (noted n s) where
  pass_eq := rfl
  hears := by
    have hnone : diagnoses unit b [n] = [] := by
      simp [diagnoses, hb]
    rw [hnone]
    exact s.scanner.enter_hears setup n

/-- A visit that ends with a rollback. -/
theorem openFrame_scan_of_rollback (unit : CompilationUnit) {n t : Node} {limit : Nat}
    (hended : (openFrame n limit s).ended setup (behaving b) = .ok (forwarded (some t), s')) :
    ∃ s'', (openFrame n limit s).scan setup (behaving b) =
        .ok (.answer (((some t).filter fun t => !t.same n).map plain), s'') ∧
      Visits setup unit b [] s' s'' := by
  have hbegun : (openFrame n limit s).Begun setup (behaving b) := rfl
  cases hsame : t.same n with
  | false =>
      have hc : ¬ (openFrame n limit s).Catches (plain t) := by
        show ¬ t.same n = true
        rw [hsame]
        exact Bool.false_ne_true
      refine ⟨_, ?_, visits_restack s' s.scanner.stack⟩
      rw [hbegun.scan_of_uncaught hended hc]
      simp [Option.filter, hsame]
      rfl
  | true =>
      have hlands := hbegun.lands (r := plain t) hsame hended
      have hscan := hlands.completes _ _ rfl rfl
      refine ⟨((openFrame n limit s).landed s').restack s.scanner.stack, ?_,
        (List.append_nil s'.pass).symm, .of_eq rfl rfl rfl rfl⟩
      rw [hscan]
      simp [Option.filter, hsame]
      rfl

/-- A visit that does not fail. -/
theorem openFrame_follows {n : Node} {limit : Nat} {r : Survey} (hb : (b n).fault? = none)
    (hended : (openFrame n limit s).ended setup (behaving b) = .ok (forwarded r.escape, s'))
    (hv : Visits setup unit b r.visited (noted n s) s') :
    ∃ s'', (openFrame n limit s).scan setup (behaving b) =
        .ok (.answer ((r.under n).escape.map plain), s'') ∧
      Visits setup unit b (r.under n).visited s s'' := by
  have hbegun : (openFrame n limit s).Begun setup (behaving b) := rfl
  have hall : Visits setup unit b (r.under n).visited s s' := (visits_noted hb s).trans hv
  have hdone : (r.under n).visited ++ [] = (r.under n).visited := List.append_nil _
  unfold Survey.under at *
  cases he : r.escape with
  | none =>
      rw [he] at hended
      have hstack : s'.scanner.stack = (openFrame n limit s).stack :=
        (stack_of_completed hended).trans hbegun.stack_eq
      have hscan := hbegun.scan_of_settled rfl (by
        intro q u h
        rw [hended] at h
        cases h)
      rw [hscan, hended]
      refine ⟨_, Frame.finish_of_completed hstack, ?_⟩
      rw [← hdone]
      exact hall.trans (visits_restack s' s.scanner.stack)
  | some t =>
      rw [he] at hended
      obtain ⟨s'', hscan, hv'⟩ := openFrame_scan_of_rollback unit hended
      rw [← hdone]
      exact ⟨s'', hscan, hall.trans hv'⟩

/-- A visit that fails. -/
theorem openFrame_fails (quiet : setup.Quiet) (hpositions : setup.positions = spanPositions)
    (hunit : s.scanner.unit = some unit) {n : Node} {limit : Nat} {f : Fault}
    (hb : (b n).fault? = some f)
    (hscan : (openFrame n limit s).scan setup (behaving b) =
      (openFrame n limit s).finish setup (.ok (.interrupted (.fault f), noted n s))) :
    ∃ s'', (openFrame n limit s).scan setup (behaving b) = .ok (.answer none, s'') ∧
      Visits setup unit b [n] s s'' := by
  have hhears := internalError_hears quiet hpositions (s := (noted n s).scanner) hunit n f
  rw [hscan, Frame.finish_of_fault (internalError_quiet quiet _ n f) rfl]
  refine ⟨_, rfl, rfl, ?_⟩
  have hone : diagnoses unit b [n] = [internalErrorAt unit n f] := by
    simp [diagnoses, hb]
  rw [hone]
  exact ((s.scanner.enter_hears setup n).trans hhears).silent (.of_eq rfl rfl rfl rfl)

/-- A node follows its survey if its children do. -/
theorem follows_of_children (quiet : setup.Quiet) (hpositions : setup.positions = spanPositions)
    {n : Node} {limit : Nat}
    (hcatch : ∀ payload, b n = .panic payload → setup.config.catchPanics = true)
    (h : ∀ c ∈ n.children, Follows setup unit b (scan setup (behaving b) limit) c) :
    Follows setup unit b (scan setup (behaving b) (limit + 1)) n := by
  intro s hunit
  have hbegun : (openFrame n limit s).Begun setup (behaving b) := rfl
  have hended := openFrame_ended setup b n limit s
  rw [survey_eq]
  show ∃ s', (openFrame n limit s).scan setup (behaving b) = _ ∧ _
  cases hb : b n with
  | walk =>
      have hnoted : (noted n s).scanner.unit = some unit := hunit
      obtain ⟨u, hwalk, hv⟩ := runVisit_scanAll h hnoted
      rw [hb] at hended
      exact openFrame_follows (by rw [hb]; rfl) (hended.trans hwalk) hv
  | fault f =>
      rw [hb] at hended
      refine openFrame_fails quiet hpositions hunit (by rw [hb]; rfl) ?_
      rw [hbegun.scan_of_settled rfl (by rw [hended]; exact nofun), hended]
      rfl
  | panic payload =>
      rw [hb] at hended
      refine openFrame_fails quiet hpositions hunit (by rw [hb]; rfl) ?_
      rw [hbegun.scan_of_settled rfl (by rw [hended]; exact nofun), hended]
      -- The panic comes at once, so it leaves nothing on the stack that could be dropped.
      have hcut : (noted n s).on ((noted n s).scanner.cutTo (openFrame n limit s).stack.depth) =
          noted n s :=
        ScanState.restack_self (Stack.cutTo_append [] (openFrame n limit s).stack).symm
      refine (Frame.finish_of_panic (hcatch payload hb) payload).trans ?_
      rw [hcut]
  | rollback t =>
      rw [hb] at hended
      exact openFrame_follows (by rw [hb]; rfl) hended (.refl (noted n s))

/-- Every scan with nesting enough follows the survey. -/
theorem scan_follows (quiet : setup.Quiet) (hpositions : setup.positions = spanPositions)
    (hcatch : ∀ n payload, b n = .panic payload → setup.config.catchPanics = true)
    {limit : Nat} {n : Node} (hlimit : n.height ≤ limit) :
    Follows setup unit b (scan setup (behaving b) limit) n := by
  induction limit generalizing n with
  | zero =>
      unfold Node.height at hlimit
      rw [Element.height_eq] at hlimit
      cases hlimit
  | succ limit ih =>
      refine follows_of_children quiet hpositions (hcatch n) fun c hc => ih ?_
      exact Nat.le_of_lt_succ (Nat.lt_of_lt_of_le (Node.height_lt_of_mem_children hc) hlimit)

/-! ## Runs -/

/-- A run ends as the survey of the root does. -/
theorem run_scanUnit (quiet : setup.Quiet) (hpositions : setup.positions = spanPositions)
    (hcatch : ∀ n payload, b n = .panic payload → setup.config.catchPanics = true)
    {limit tree : Nat} (hlimit : (Node.root tree unit).height ≤ limit)
    (s : ScanState (List Node) η) :
    ∃ s', run setup (behaving b) limit (.scanUnit tree unit) s =
        .ok (.completed ((survey b (.root tree unit)).escape.map fun t => ⟨t.kind, t.span⟩), s') ∧
      Visits setup unit b (survey b (.root tree unit)).visited
        (s.on (s.scanner.activate setup (some unit))) s' := by
  have hactive : (s.scanner.activate setup (some unit)).unit = some unit := rfl
  obtain ⟨s₁, hscan, hv⟩ := scan_follows quiet hpositions hcatch hlimit
    (s.on (s.scanner.activate setup (some unit))) hactive
  have hroot : answer setup (scan setup (behaving b) limit) (.scanRoot (.root tree unit))
      (s.on (s.scanner.activate setup (some unit))) =
        .ok (rootReply s₁ (.answer ((survey b (.root tree unit)).escape.map plain))) := by
    rw [answer_scanRoot, hscan]
    rfl
  -- After the unit has been activated the run is the scan of its root.
  have hrun : run setup (behaving b) limit (.scanUnit tree unit) s =
      runVisit setup (scan setup (behaving b) limit) (Visit.scanRoot (.root tree unit))
        (s.on (s.scanner.activate setup (some unit))) := runVisit_scanUnit setup _ tree unit s
  rw [hrun, Visit.scanRoot, Visit.ask, runVisit_request, hroot]
  cases (survey b (.root tree unit)).escape with
  | none => exact ⟨s₁, rfl, hv⟩
  | some t =>
      refine ⟨_, rfl, hv.pass_eq, hv.hears.silent ?_⟩
      exact s₁.scanner.note_hears setup _

/-- A run, with scans nested as deep as the tree is high, completes.  It visits
nodes in the order of a walk of the whole tree, and none twice.  It visits a node
if and only if

* every node above it is visited and walks,
* no rollback before it lands at a node that it is below, and
* every rollback before it lands.

One internal error is delivered for each visited node that fails, in the order of
the visits, at the span of the node in the file of the unit.  The run answers with
an error if and only if a visited node rolls back to a node that is not itself and
not above it. -/
theorem run_visits_iff (config : ScanConfig) (handler : Option (Handler η))
    (b : Node → Behaviour) (tree : Nat) (unit : CompilationUnit) (limit : Nat)
    (s : ScanState (List Node) η)
    (quiet : ∀ h, handler = some h → ∀ d files reports, (h d files reports).panic = none)
    (hcatch : ∀ n payload, b n = .panic payload → config.catchPanics = true)
    (hlimit : (Node.root tree unit).height ≤ limit) :
    ∃ visited result s',
      run ⟨config, handler, spanPositions⟩ (behaving b) limit (.scanUnit tree unit) s =
        .ok (.completed result, s') ∧
      s'.pass = s.pass ++ visited ∧
      visited.Sublist (Node.root tree unit).subtree ∧ (visited.map Node.place).Nodup ∧
      (∀ m ∈ (Node.root tree unit).subtree, m ∈ visited ↔
        (∀ a ∈ (Node.root tree unit).subtree, m ∈ a.subtree → a ≠ m →
          a ∈ visited ∧ b a = .walk) ∧
        (∀ n ∈ visited, Node.Precedes (Node.root tree unit).subtree n m →
          ∀ t, b n = .rollback t → ∀ a ∈ (Node.root tree unit).subtree, t.same a = true →
            n ∈ a.subtree → m ∉ a.subtree) ∧
        (∀ n ∈ visited, Node.Precedes (Node.root tree unit).subtree n m →
          ∀ t, b n = .rollback t →
            ∃ a ∈ (Node.root tree unit).subtree, t.same a = true ∧ n ∈ a.subtree)) ∧
      s'.scanner.reports = Setup.heard ⟨config, handler, spanPositions⟩ s.scanner.files
        s.scanner.reports (diagnoses unit b visited) ∧
      s'.scanner.unhandled = s.scanner.unhandled ++
        Setup.unheard ⟨config, handler, spanPositions⟩ (diagnoses unit b visited) ∧
      (∀ error, result = some error ↔
        ∃ n ∈ visited, ∃ t, b n = .rollback t ∧
          (∀ a ∈ (Node.root tree unit).subtree, t.same a = true → n ∉ a.subtree) ∧
          error = ⟨t.kind, t.span⟩) := by
  let setup : Setup η := ⟨config, handler, spanPositions⟩
  have hquiet : setup.Quiet := quiet
  obtain ⟨s', hrun, hv⟩ := run_scanUnit hquiet rfl hcatch hlimit s
  have hprunes := survey_prunes b (.root tree unit)
  refine ⟨_, _, s', hrun, hv.pass_eq, hprunes.in_order, ?_, ?_, hv.hears.reports_eq,
    hv.hears.unhandled_eq, ?_⟩
  · exact (hprunes.in_order.map Node.place).nodup (Node.subtree_places_nodup _)
  · intro m hm
    rw [hprunes.visited_iff m hm, spared_subtree_iff]
    rfl
  · intro error
    rw [Option.map_eq_some_iff]
    constructor
    · rintro ⟨t, ht, rfl⟩
      obtain ⟨n, hn, hb, hu⟩ := (hprunes.escape_iff t).1 ht
      exact ⟨n, hn, t, hb, hu, rfl⟩
    · rintro ⟨n, hn, t, hb, hu, rfl⟩
      exact ⟨t, (hprunes.escape_iff t).2 ⟨n, hn, hb, hu⟩, rfl⟩

/-- An empty class. -/
def emptyClass (name : String) : TypeDecl := ⟨.classType, name, []⟩

/-- Classes in a file, the first of which holds two others. -/
def classes : CompilationUnit where
  path := "A.java"
  package := none
  imports := []
  types := [
    ⟨⟨.classType, "A", [⟨.type (emptyClass "X"), ⟨2, 4⟩⟩, ⟨.type (emptyClass "Y"), ⟨5, 7⟩⟩]⟩,
      ⟨0, 9⟩⟩,
    ⟨emptyClass "B", ⟨10, 19⟩⟩,
    ⟨emptyClass "C", ⟨20, 29⟩⟩,
    ⟨emptyClass "D", ⟨30, 39⟩⟩,
    ⟨emptyClass "E", ⟨40, 49⟩⟩]

/-- In the class X a rollback to the class around it, then a fault, a panic, and a
rollback to the root of another tree. -/
def mixed (n : Node) : Behaviour :=
  match n.place.path with
  | [0, 0] => .rollback ⟨⟨0, [0]⟩, n.element⟩
  | [1] => .fault (.message "no")
  | [2] => .panic .other
  | [3] => .rollback (.root 1 classes)
  | _ => .walk

/-- The answer of a run, the places that it visited, and where its diagnostics are. -/
def account :
    Except Halt (Outcome Empty (Option ScanError) × ScanState (List Node) (List Diagnostic)) →
      Option (Option ScanError × List (List Nat) × List (Option SourcePosition))
  | .ok (.completed result, s) =>
    some (result, s.pass.map (·.place.path), s.scanner.reports.map (·.position))
  | _ => none

/-- The rollback in X keeps Y from being visited, and the one in D keeps E. -/
theorem mixed_run : ∃ visited s',
    run ⟨{}, some collecting, spanPositions⟩ (behaving mixed) 3 (.scanUnit 0 classes)
        ⟨[], Scanner.idle (.empty []) []⟩ =
      .ok (.completed (some ⟨.compilationUnit, ⟨0, 49⟩⟩), s') ∧
    visited.map (·.place.path) = [[], [0], [0, 0], [1], [2], [3]] ∧
    s'.scanner.reports.map (·.position) =
      [some ⟨"A.java", ⟨10, 19⟩⟩, some ⟨"A.java", ⟨20, 29⟩⟩] ∧
    s'.scanner.reports = Setup.heard ⟨{}, some collecting, spanPositions⟩ (.empty []) []
      (diagnoses classes mixed visited) ∧
    visited.Sublist (Node.root 0 classes).subtree := by
  have hquiet : ∀ h, some collecting = some h →
      ∀ d files reports, (h d files reports).panic = none := by
    intro h hh
    cases hh
    exact fun _ _ _ => rfl
  have hheight : (Node.root 0 classes).height ≤ 3 := by
    simp [Node.height, Node.root, classes, emptyClass, Element.height_eq, Element.children,
      Element.ofMember]
  obtain ⟨visited, result, s', hrun, hpass, horder, _, _, hreports, _, _⟩ :=
    run_visits_iff {} (some collecting) mixed 0 classes 3 ⟨[], Scanner.idle (.empty []) []⟩
      hquiet (fun _ _ _ => rfl) hheight
  have haccount : account (run ⟨{}, some collecting, spanPositions⟩ (behaving mixed) 3
      (.scanUnit 0 classes) ⟨[], Scanner.idle (.empty []) []⟩) =
        some (some ⟨.compilationUnit, ⟨0, 49⟩⟩, [[], [0], [0, 0], [1], [2], [3]],
          [some ⟨"A.java", ⟨10, 19⟩⟩, some ⟨"A.java", ⟨20, 29⟩⟩]) := by
    decide +kernel
  rw [hrun] at haccount
  obtain ⟨hresult, hpaths, hpositions⟩ : _ ∧ _ ∧ _ := by
    simpa [account] using haccount
  rw [hpass, List.nil_append] at hpaths
  exact ⟨visited, s', hresult ▸ hrun, hpaths, hpositions, hreports, horder⟩

end Engine

end TreeScan

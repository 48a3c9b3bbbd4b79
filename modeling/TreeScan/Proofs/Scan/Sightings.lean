import TreeScan.Proofs.Scan.Landing
import TreeScan.Proofs.Scan.Recording
import TreeScan.Proofs.Scan.Tour

/-!
# What a walk sees

The sightings of a scan are what an observer notes who writes down each visit that begins,
with the stack on which it begins, in order.  A recorded pass writes the same to its log
(`run_recorded`), for it asks the engine for the stack and finds it so.

A pass that leaves every walk as it is may do other things before a walk and after it,
as long as these scan nothing (`Pass.Walks`).  A scan of such a pass makes the tour of
the node (`scan_tours`), by induction on the tree.  The relation `Sees` says what one
visit does and sees.  It composes (`Sees.bind`), so a visit of such a pass is put
together from what is done before the walk, the scans of the children and what is done
after the walk.

So a run visits what stands at each address of the unit, and nothing else.
-/

namespace TreeScan

variable {σ κ η α β : Type}

/-! ## Passes that leave the walks as they are -/

/-- A request that scans no node and is answered. -/
def Request.Aside (setup : Setup η) : Request σ κ → Prop
  | .scan node => node = none
  | .scanRoot _ => False
  | .report .. => setup.Quiet
  | _ => True

/-- A visit that scans no node and completes, whatever it is answered. -/
inductive Visit.Aside (setup : Setup η) : Visit σ κ α → Prop where
  | done (result : α) : Aside setup (.done result)
  | request {r : Request σ κ} {next : r.Answer → Visit σ κ α} :
      r.Aside setup → (∀ a, Aside setup (next a)) → Aside setup (.request r next)

/-- A pass whose visits are the default walks, with something else before and after. -/
def Pass.Walks (setup : Setup η) (pass : Pass σ κ) : Prop :=
  ∀ n, ∃ (α : Type) (before : Visit σ κ α) (after : α → Visit σ κ Unit),
    before.Aside setup ∧ (∀ a, (after a).Aside setup) ∧
      pass.visit n = before.bind fun a => (Visit.walk n).bind fun _ => after a

namespace Engine

/-! ## The sightings of a scan -/

/-- Notes each visit with its stack, and nothing else. -/
def sightingNotes : Notes κ Sighting where
  visit n stack := [⟨n, stack⟩]
  landed _ := []
  resume _ _ := []

/-- The sightings in a scan, with scans nested up to a limit. -/
def sightings (setup : Setup η) (pass : Pass σ κ) (limit : Nat) : Watch σ η Sighting :=
  observed sightingNotes setup pass limit

/-- The sightings in a run, with scans nested up to a limit. -/
def runSightings (setup : Setup η) (pass : Pass σ κ) (limit : Nat) (v : Visit σ κ α)
    (s : ScanState σ η) : List Sighting :=
  runObserved sightingNotes setup pass limit v s

/-! ## What a visit sees -/

variable {setup : Setup η} {pass : Pass σ κ} {nested : Scan σ κ η} {below : Watch σ η Sighting}
  {s t u : ScanState σ η} {ws ws' : List Sighting}

/-- A visit that was begun in the state `s` completes in the state `t`, on the stack that
it began on, and sees `ws`. -/
structure Sees (setup : Setup η) (nested : Scan σ κ η) (below : Watch σ η Sighting)
    (v : Visit σ κ α) (s : ScanState σ η) (ws : List Sighting) (a : α) (t : ScanState σ η) : Prop where
  completes : runVisit setup nested v s = .ok (.completed a, t)
  stack_eq : t.scanner.stack = s.scanner.stack
  seen : observedInVisit setup nested below v s = ws

theorem Sees.done (a : α) (s : ScanState σ η) :
    Sees setup nested below (.done a : Visit σ κ α) s [] a s :=
  ⟨rfl, rfl, rfl⟩

/-- A visit begins with a request. -/
theorem Sees.request {r : Request σ κ} {next : r.Answer → Visit σ κ α} {b : r.Answer} {a : α}
    (ha : answer setup nested r s = .ok (.answer b, t))
    (hstack : t.scanner.stack = s.scanner.stack) (hws : observedByRequest below r s = ws)
    (h : Sees setup nested below (next b) t ws' a u) :
    Sees setup nested below (.request r next) s (ws ++ ws') a u where
  completes := by rw [runVisit_request, ha]; exact h.completes
  stack_eq := h.stack_eq.trans hstack
  seen := by rw [observedInVisit, ha, hws]; exact congrArg (ws ++ ·) h.seen

/-- One visit after the other. -/
theorem Sees.bind {v : Visit σ κ α} {f : α → Visit σ κ β} {a : α} {b : β}
    (h : Sees setup nested below v s ws a t) (h' : Sees setup nested below (f a) t ws' b u) :
    Sees setup nested below (v.bind f) s (ws ++ ws') b u where
  completes := by rw [runVisit_bind, h.completes]; exact h'.completes
  stack_eq := h'.stack_eq.trans h.stack_eq
  seen := by rw [observedInVisit_bind h.completes, h.seen, h'.seen]

/-- An aside request is answered, on the same stack, and nothing is seen. -/
theorem answer_of_aside (nested : Scan σ κ η) (below : Watch σ η Sighting) {r : Request σ κ}
    (h : r.Aside setup) (s : ScanState σ η) :
    ∃ a t, answer setup nested r s = .ok (.answer a, t) ∧
      t.scanner.stack = s.scanner.stack ∧ observedByRequest below r s = [] := by
  cases r with
  | scan node =>
      have hnone : node = none := h
      subst hnone
      exact ⟨none, s, rfl, rfl, rfl⟩
  | scanRoot n => exact h.elim
  | report n name problem params =>
      have hpanic : (s.scanner.report setup n name problem params).1 = none :=
        (Scanner.report_hears h s.scanner n name problem params).1
      rw [answer_report, hpanic]
      exact ⟨(), _, rfl, s.scanner.report_stack setup n name problem params, rfl⟩
  | lines => exact ⟨_, _, rfl, s.scanner.lines_stack, rfl⟩
  | trace => exact ⟨_, _, rfl, s.scanner.trace_stack setup, rfl⟩
  | activate unit => exact ⟨_, _, rfl, s.scanner.activate_stack setup unit, rfl⟩
  | read => exact ⟨_, _, rfl, rfl, rfl⟩
  | write state => exact ⟨_, _, rfl, rfl, rfl⟩
  | stack => exact ⟨_, _, rfl, rfl, rfl⟩
  | unit => exact ⟨_, _, rfl, rfl, rfl⟩
  | imports => exact ⟨_, _, rfl, rfl, rfl⟩
  | config => exact ⟨_, _, rfl, rfl, rfl⟩
  | log event => exact ⟨_, _, rfl, rfl, rfl⟩
  | editFiles edit => exact ⟨_, _, rfl, rfl, rfl⟩

theorem sees_of_aside (nested : Scan σ κ η) (below : Watch σ η Sighting) {v : Visit σ κ α}
    (h : v.Aside setup) (s : ScanState σ η) :
    ∃ a t, Sees setup nested below v s [] a t := by
  induction h generalizing s with
  | done result => exact ⟨result, s, .done result s⟩
  | @request r next hr _ ih =>
      obtain ⟨b, t, ha, hstack, hnone⟩ := answer_of_aside nested below hr s
      obtain ⟨a, u, hsees⟩ := ih b t
      exact ⟨a, u, .request ha hstack hnone hsees⟩

/-! ## Tours -/

/-- The scan of a node makes the tour of the node. -/
def Tours (nested : Scan σ κ η) (below : Watch σ η Sighting) (n : Node) : Prop :=
  ∀ s, ∃ t, nested n s = .ok (.answer none, t) ∧ t.scanner.stack = s.scanner.stack ∧
    below n s = n.tour s.scanner.stack

/-- Nodes that are scanned one after the other. -/
theorem sees_scanAll (setup : Setup η) {ns : List Node} (h : ∀ n ∈ ns, Tours nested below n)
    (s : ScanState σ η) :
    ∃ t, Sees setup nested below (Visit.scanAll ns) s
      (ns.flatMap fun n => n.tour s.scanner.stack) () t := by
  induction ns generalizing s with
  | nil => exact ⟨s, .done () s⟩
  | cons n ns ih =>
      obtain ⟨t, hscan, hstack, hseen⟩ := h n List.mem_cons_self s
      obtain ⟨u, hrest⟩ := ih (fun m hm => h m (List.mem_cons_of_mem n hm)) t
      rw [hstack] at hrest
      refine ⟨u, ?_⟩
      rw [List.flatMap_cons]
      exact .request (r := .scan (some n)) (b := none) hscan hstack hseen hrest

/-- A visit of a pass that walks sees the tours of the children. -/
theorem sees_visit (walks : pass.Walks setup) {n : Node}
    (h : ∀ c ∈ n.children, Tours nested below c) (s : ScanState σ η) :
    ∃ t, Sees setup nested below (pass.visit n) s
      (n.children.flatMap fun c => c.tour s.scanner.stack) () t := by
  obtain ⟨α, before, after, hbefore, hafter, hvisit⟩ := walks n
  obtain ⟨a, s₁, h₁⟩ := sees_of_aside nested below hbefore s
  obtain ⟨s₂, h₂⟩ := sees_scanAll setup h s₁
  obtain ⟨_, s₃, h₃⟩ := sees_of_aside nested below (hafter a) s₂
  rw [h₁.stack_eq] at h₂
  refine ⟨s₃, ?_⟩
  have hall := h₁.bind (f := fun a => (Visit.walk n).bind fun _ => after a) (h₂.bind h₃)
  rw [List.nil_append, List.append_nil] at hall
  rw [hvisit]
  exact hall

/-- A node is toured if its children are. -/
theorem tours_of_children (walks : pass.Walks setup) {n : Node} {limit : Nat}
    (h : ∀ c ∈ n.children,
      Tours (scan setup pass limit) (sightings setup pass limit) c) :
    Tours (scan setup pass (limit + 1)) (sightings setup pass (limit + 1)) n := by
  intro s
  obtain ⟨t, hvisit⟩ := sees_visit walks h (s.on (s.scanner.enter n))
  refine ⟨t.restack s.scanner.stack, scan_of_completed hvisit.completes, rfl, ?_⟩
  rw [sightings, observed, observedInScan, observedAfterVisit_of_completed n hvisit.completes,
    List.append_nil]
  exact (congrArg (_ :: ·) hvisit.seen).trans (n.tour_eq s.scanner.stack).symm

/-- Every scan with nesting enough makes the tour of its node. -/
theorem scan_tours (walks : pass.Walks setup) {limit : Nat} {n : Node}
    (hlimit : n.height ≤ limit) :
    Tours (scan setup pass limit) (sightings setup pass limit) n := by
  induction n using Node.child_induction generalizing limit with
  | step n ih =>
      obtain ⟨k, rfl, hk⟩ := Node.exists_limit hlimit
      exact tours_of_children walks fun c hc => ih c hc (hk c hc)

/-! ## Runs -/

/-- A run sees what the scan of the root sees after the unit has been activated. -/
theorem runSightings_scanUnit (setup : Setup η) (pass : Pass σ κ) (limit tree : Nat)
    (unit : CompilationUnit) (s : ScanState σ η) :
    runSightings setup pass limit (.scanUnit tree unit) s =
      sightings setup pass limit (.root tree unit)
        (s.on (s.scanner.activate setup (some unit))) := by
  simp only [runSightings, runObserved, Visit.scanUnit, Visit.activate, Visit.ask, Visit.bind,
    observedInVisit, observedByRequest, Visit.scanRoot, answer, List.nil_append]
  split <;> exact List.append_nil _

/-- A run of a pass that leaves the walks as they are, on an idle scanner and with scans
nested as deep as the tree is high, completes with an empty stack and makes the tour of
the tree. -/
theorem run_tours (walks : pass.Walks setup) {tree limit : Nat} {unit : CompilationUnit}
    (hlimit : (Node.root tree unit).height ≤ limit) (hidle : s.scanner.stack = []) :
    ∃ s', run setup pass limit (.scanUnit tree unit) s = .ok (.completed none, s') ∧
      s'.scanner.stack = [] ∧
      runSightings setup pass limit (.scanUnit tree unit) s =
        (Node.root tree unit).tour [] := by
  have hactive : (s.scanner.activate setup (some unit)).stack = [] :=
    (s.scanner.activate_stack setup (some unit)).trans hidle
  obtain ⟨s', hscan, hstack, hseen⟩ :=
    scan_tours walks hlimit (s.on (s.scanner.activate setup (some unit)))
  rw [ScanState.on_scanner, hactive] at hstack hseen
  have hrun : run setup pass limit (.scanUnit tree unit) s = .ok (.completed none, s') := by
    rw [run, runVisit_scanUnit, Visit.scanRoot, Visit.ask, runVisit_request, answer_scanRoot,
      hscan]
    rfl
  exact ⟨s', hrun, hstack, (runSightings_scanUnit setup pass limit tree unit s).trans hseen⟩

/-- A run of a pass that leaves the walks as they are, on an idle scanner and with scans
nested as deep as the tree is high, completes with an empty stack.  If the pass writes down
each of its visits and the stack that it then finds, the run ends in the same way, and this is
what has been written.

There is one visit for each address of the unit, of whatever constructor and however deep, in
this order, and no other.  What leads further down than an address comes after it.  A visit is
that of the node which stands at the address.  It begins on the chain of the nodes that lie on
the way to it, so that the parent, the ancestors and the depth are those of the tree. -/
theorem run_visits_every_part (walks : pass.Walks setup) {tree limit : Nat}
    {unit : CompilationUnit} (hlimit : (Node.root tree unit).height ≤ limit)
    (hidle : s.scanner.stack = []) :
    ∃ s' visits, run setup pass limit (.scanUnit tree unit) s = .ok (.completed none, s') ∧
      s'.scanner.stack = [] ∧
      run setup (pass.recorded sightingNotes) limit (.scanUnit tree unit) (s.beside []) =
        .ok (.completed none, s'.beside visits) ∧
      List.Forall₂ (Node.Sighted (.root tree unit)) (Element.unit unit).addresses visits ∧
      (∀ a, a ∈ (Element.unit unit).addresses ↔ ((Element.unit unit).follow? a).isSome) ∧
      (Element.unit unit).addresses.Nodup ∧
      (Element.unit unit).addresses.Pairwise (fun a b => ¬ b <+: a) ∧
      visits.Pairwise fun w w' => w.node.place ≠ w'.node.place := by
  obtain ⟨s', hrun, hstack, htour⟩ := run_tours walks hlimit hidle
  have hrecorded : run setup (pass.recorded sightingNotes) limit (.scanUnit tree unit)
      (s.beside []) = .ok (.completed none, s'.beside ((Node.root tree unit).tour [])) := by
    have hrun' := run_recorded sightingNotes setup pass limit (.scanUnit tree unit) s []
    rw [hrun, List.nil_append] at hrun'
    rw [← htour]
    exact hrun'
  exact ⟨s', _, hrun, hstack, hrecorded, (Node.root tree unit).tour_sighted,
    fun _ => Element.mem_addresses_iff, Element.addresses_nodup _, Element.addresses_ordered _,
    (Node.root tree unit).tour_places []⟩

theorem exists_related_of_mem {R : α → β → Prop} {as : List α} {bs : List β}
    (h : List.Forall₂ R as bs) {a : α} (ha : a ∈ as) : ∃ b ∈ bs, R a b := by
  induction h with
  | nil => cases ha
  | cons hab _ ih =>
      rcases List.mem_cons.1 ha with rfl | ha
      · exact ⟨_, List.mem_cons_self, hab⟩
      · obtain ⟨b, hb, hr⟩ := ih ha
        exact ⟨b, List.mem_cons_of_mem _ hb, hr⟩

/-- Counts the nodes that are visited, and writes a line to the log after each walk. -/
def tallying : Pass Nat Empty where
  visit n := (Visit.change (· + 1)).bind fun _ =>
    (Visit.walk n).bind fun _ => Visit.log ⟨.debug, "walked", []⟩
  resume callback _ := callback.elim

theorem tallying_walks (setup : Setup η) : tallying.Walks setup := fun _ =>
  ⟨Unit, Visit.change (· + 1), fun _ => Visit.log ⟨.debug, "walked", []⟩,
    .request trivial fun _ => .request trivial fun _ => .done (),
    fun _ => .request trivial fun _ => .done (), rfl⟩

/-- A class with a field of type `Map<List<Key>>`, whose value is a function with a block. -/
def table : CompilationUnit :=
  ⟨"Table.java", none, [],
    [⟨⟨.classType, "Table", [⟨.field ⟨false, "find",
      ⟨⟨⟨["Map"]⟩, [⟨⟨⟨["List"]⟩, [⟨.simple "Key", ⟨0, 1⟩⟩]⟩, ⟨0, 1⟩⟩]⟩, ⟨0, 1⟩⟩,
      some ⟨.lambda [⟨⟨"key", ⟨.simple "Key", ⟨0, 1⟩⟩⟩, ⟨0, 1⟩⟩]
        (.block ⟨⟨[⟨.ifThen ⟨.ident "key", ⟨0, 1⟩⟩ ⟨.ret none, ⟨0, 1⟩⟩ none, ⟨0, 1⟩⟩]⟩, ⟨0, 1⟩⟩),
        ⟨0, 1⟩⟩⟩, ⟨0, 1⟩⟩]⟩, ⟨0, 1⟩⟩]⟩

theorem table_height (tree : Nat) : (Node.root tree table).height ≤ 7 := by
  simp [Node.height, Node.root, table, Element.height_eq, Element.children, Element.ofMember,
    Element.ofStmt, Element.ofExpr, Element.ofLambdaBody, TypeRef.simple]

/-- The innermost type argument and the condition in the block are both visited, each on
the way that leads there. -/
theorem table_visited :
    tallying.Walks plainSetup ∧ (Node.root 0 table).height ≤ 7 ∧
    ∃ (s' : ScanState Nat Unit) (visits : List Sighting),
      run plainSetup (tallying.recorded sightingNotes) 7 (.scanUnit 0 table)
        ⟨(0, []), .idle (.empty []) ()⟩ = .ok (.completed none, s'.beside visits) ∧
      ∀ a ∈ ([[⟨.typeDecl, 0⟩, ⟨.member, 0⟩, ⟨.type, 0⟩, ⟨.arg, 0⟩, ⟨.arg, 0⟩],
          [⟨.typeDecl, 0⟩, ⟨.member, 0⟩, ⟨.init, 0⟩, ⟨.body, 0⟩, ⟨.stmt, 0⟩,
            ⟨.condition, 0⟩]] : List Address),
        ∃ w ∈ visits, Node.Sighted (.root 0 table) a w := by
  obtain ⟨s', visits, _, _, hrun, hsighted, hall, _⟩ :=
    run_visits_every_part (tallying_walks plainSetup) (table_height 0)
      (s := ⟨0, .idle (.empty []) ()⟩) rfl
  refine ⟨tallying_walks plainSetup, table_height 0, s', visits, hrun, fun a ha => ?_⟩
  have hlisted : a ∈ (Element.unit table).addresses := by
    rw [hall]
    simp only [List.mem_cons, List.not_mem_nil, or_false] at ha
    rcases ha with rfl | rfl <;> rfl
  exact exists_related_of_mem hsighted hlisted

end Engine

end TreeScan

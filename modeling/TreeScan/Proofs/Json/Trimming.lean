import Mathlib.Data.List.Forall2
import TreeScan.Proofs.Json.Reading

/-!
# Values with defaults left out

A member of an object may be left out if it is one of some optional fields and has the
default value of that field.  `Trims v j` says that `j` is `v` with some such members left
out, at any depth, or none.

A decoder *reads back* a value (`ReadsBack`) if it gives the same result for the value and
for whatever it can be trimmed to, up to a bound on the depth.  Each way to put decoders
together reads back what is put together in the same way: items in an array
(`ReadsBack.list`), fields in an object (`ReadsBack.record`) or in an array
(`ReadsBack.tuple`), and a name with a content (`ReadsBack.content`).  For a field that may
be left out, the decoder has to know the right default (`Fields.ReadBack.defaulted`).
-/

namespace TreeScan.Json

/-! ## Depth -/

mutual

/-- How deep arrays and objects are nested in a value. -/
def depth : Json → Nat
  | .array items => depthItems items + 1
  | .object members => depthMembers members + 1
  | _ => 0

/-- How deep arrays and objects are nested in some items. -/
def depthItems : List Json → Nat
  | [] => 0
  | item :: items => max item.depth (depthItems items)

/-- How deep arrays and objects are nested in some members. -/
def depthMembers : List (String × Json) → Nat
  | [] => 0
  | (_, value) :: members => max value.depth (depthMembers members)

end

/-! ## Trimming -/

/-- The fields that may be left out, with their default values. -/
def optionalFields : List (String × Json) :=
  [("package", .null), ("imports", .array []), ("types", .array []), ("is_static", .bool false),
    ("wildcard", .bool false), ("members", .array []), ("init", .null), ("params", .array []),
    ("return_type", .null), ("body", .null), ("args", .array []), ("ty", .null),
    ("else_branch", .null)]

theorem eq_false_of_optional {name : String} {b : Bool} (h : (name, .bool b) ∈ optionalFields) :
    false = b := by
  simp [optionalFields] at h
  rcases h with ⟨-, rfl⟩ | ⟨-, rfl⟩ <;> rfl

theorem eq_nil_of_optional {name : String} {vs : List Json}
    (h : (name, .array vs) ∈ optionalFields) : vs = [] := by
  simp [optionalFields] at h
  rcases h with ⟨-, rfl⟩ | ⟨-, rfl⟩ | ⟨-, rfl⟩ | ⟨-, rfl⟩ | ⟨-, rfl⟩ <;> rfl

theorem object_not_optional (name : String) (ms : List (String × Json)) :
    (name, .object ms) ∉ optionalFields := by
  simp [optionalFields]

mutual

/-- The second value is the first with some optional fields left out that have their
default value, at any depth. -/
inductive Trims : Json → Json → Prop where
  | null : Trims .null .null
  | bool (value : Bool) : Trims (.bool value) (.bool value)
  | int (value : Int) : Trims (.int value) (.int value)
  | float (value : Float) : Trims (.float value) (.float value)
  | str (value : String) : Trims (.str value) (.str value)
  | array {vs js : List Json} : TrimsItems vs js → Trims (.array vs) (.array js)
  | object {ms ks : List (String × Json)} : TrimsMembers ms ks → Trims (.object ms) (.object ks)

/-- Trims every item. -/
inductive TrimsItems : List Json → List Json → Prop where
  | nil : TrimsItems [] []
  | cons {v j : Json} {vs js : List Json} :
      Trims v j → TrimsItems vs js → TrimsItems (v :: vs) (j :: js)

/-- Trims members, and leaves out some that are optional. -/
inductive TrimsMembers : List (String × Json) → List (String × Json) → Prop where
  | nil : TrimsMembers [] []
  | keep {key : String} {v j : Json} {ms ks : List (String × Json)} :
      Trims v j → TrimsMembers ms ks → TrimsMembers ((key, v) :: ms) ((key, j) :: ks)
  | drop {key : String} {v : Json} {ms ks : List (String × Json)} :
      (key, v) ∈ optionalFields → TrimsMembers ms ks → TrimsMembers ((key, v) :: ms) ks

end

mutual

/-- Nothing needs to be left out. -/
theorem trims_refl (v : Json) : v.Trims v := by
  match v with
  | .null => exact .null
  | .bool value => exact .bool value
  | .int value => exact .int value
  | .float value => exact .float value
  | .str value => exact .str value
  | .array items => exact .array (trimsItems_refl items)
  | .object members => exact .object (trimsMembers_refl members)

theorem trimsItems_refl (items : List Json) : TrimsItems items items := by
  match items with
  | [] => exact .nil
  | item :: items => exact .cons (trims_refl item) (trimsItems_refl items)

theorem trimsMembers_refl (members : List (String × Json)) : TrimsMembers members members := by
  match members with
  | [] => exact .nil
  | (_, value) :: members => exact .keep (trims_refl value) (trimsMembers_refl members)

end

/-- Trimming adds no key. -/
theorem TrimsMembers.keys_subset {ms ks : List (String × Json)} (h : TrimsMembers ms ks) :
    ks.map Prod.fst ⊆ ms.map Prod.fst := by
  induction ms generalizing ks with
  | nil =>
      cases h
      exact List.Subset.refl _
  | cons m ms ih =>
      cases h with
      | keep _ hrest => exact List.cons_subset_cons _ (ih hrest)
      | drop _ hrest => exact List.subset_cons_of_subset _ (ih hrest)

/-! ## Reading back -/

variable {α β parts : Type}

/-- The decoder gives `a` for a value, whatever is left out, unless it is nested deeper than
the bound. -/
def ReadsBack (bound : Nat) (decode : Decoder α) (v : Json) (a : α) : Prop :=
  ∀ j, v.Trims j → j.depth ≤ bound → j.FloatFree ∧ decode j.draft = .ok a

open Decode

namespace ReadsBack

variable {bound : Nat} {decode : Decoder α} {v : Json} {a : α}

theorem map {f : α → β} {b : β} (h : ReadsBack bound decode v a) (hf : f a = b) :
    ReadsBack bound (fun d => (decode d).map f) v b := by
  intro j htrims hdepth
  obtain ⟨hfree, hdecode⟩ := h j htrims hdepth
  refine ⟨hfree, ?_⟩
  show (decode j.draft).map f = _
  rw [hdecode, ← hf]
  rfl

/-! ### Simple values -/

theorem bool (value : Bool) : ReadsBack bound Decode.bool (.bool value) value := by
  intro j htrims _
  cases htrims
  exact ⟨trivial, rfl⟩

theorem textAs (expected value : String) :
    ReadsBack bound (Decode.textAs expected) (.str value) value := by
  intro j htrims _
  cases htrims
  exact ⟨trivial, rfl⟩

theorem string (value : String) : ReadsBack bound Decode.string (.str value) value :=
  textAs "a string" value

theorem char (c : Char) : ReadsBack bound Decode.char (.str (String.singleton c)) c := by
  intro j htrims _
  cases htrims
  refine ⟨trivial, ?_⟩
  simp [draft, Decode.char]

theorem natural {n : Nat} (h : n < 2 ^ 64) : ReadsBack bound Decode.natural (.int n) n := by
  intro j htrims _
  cases htrims
  refine ⟨trivial, ?_⟩
  simp only [draft, Decode.natural, Numeral.value?_ofNat h]

theorem integer {i : Int} (hlow : -2 ^ 63 ≤ i) (hhigh : i < 2 ^ 63) :
    ReadsBack bound Decode.integer (.int i) i := by
  intro j htrims _
  cases htrims
  refine ⟨trivial, ?_⟩
  by_cases hneg : i < 0
  · simp only [draft, Decode.integer, Numeral.value?_of_neg hneg hlow]
  · obtain ⟨n, rfl⟩ := Int.eq_ofNat_of_zero_le (Int.not_lt.1 hneg)
    have hword : n < 2 ^ 64 := by omega
    have hsmall : n < Nat.pow 2 63 := by
      show n < 2 ^ 63
      omega
    simp only [draft, Decode.integer, Numeral.value?_ofNat hword, if_pos hsmall]

theorem optional_none : ReadsBack bound (optional decode) .null none := by
  intro j htrims _
  cases htrims
  exact ⟨trivial, rfl⟩

theorem optional_some {ms : List (String × Json)} (h : ReadsBack bound decode (.object ms) a) :
    ReadsBack bound (optional decode) (.object ms) (some a) := by
  intro j htrims hdepth
  obtain ⟨hfree, hdecode⟩ := h j htrims hdepth
  refine ⟨hfree, ?_⟩
  cases htrims with
  | object hmembers =>
      rw [draft] at hdecode ⊢
      rw [Decode.optional, hdecode]
      · rfl
      · nofun

/-! ### Arrays -/

theorem eachItem {vs : List Json} {as : List α} (h : List.Forall₂ (ReadsBack bound decode) vs as)
    {js : List Json} (htrims : TrimsItems vs js) (hdepth : depthItems js ≤ bound) :
    FloatFreeItems js ∧ Decode.eachItem decode none (draftItems js) = .ok as := by
  induction h generalizing js with
  | nil =>
      cases htrims
      exact ⟨trivial, rfl⟩
  | cons hfirst _ ih =>
      cases htrims with
      | cons hj hjs =>
          obtain ⟨hdepthFirst, hdepthRest⟩ := Nat.max_le.1 hdepth
          obtain ⟨hfree, hdecode⟩ := hfirst _ hj hdepthFirst
          obtain ⟨hfreeRest, hrest⟩ := ih hjs hdepthRest
          refine ⟨⟨hfree, hfreeRest⟩, ?_⟩
          simp only [draftItems, Decode.eachItem, hdecode, hrest]
          rfl

/-- A list is read back item by item. -/
theorem list {decode : (n : Nat) → n < bound → Decoder α} {vs : List Json} {as : List α}
    (h : ∀ n (hn : n < bound), List.Forall₂ (ReadsBack n (decode n hn)) vs as) :
    ReadsBack bound (Decode.list bound decode) (.array vs) as := by
  intro j htrims hdepth
  cases htrims with
  | array hitems =>
      rw [depth] at hdepth
      obtain ⟨n, rfl⟩ : ∃ n, bound = n + 1 := ⟨bound - 1, by omega⟩
      exact eachItem (h n (Nat.lt_succ_self n)) hitems (Nat.le_of_succ_le_succ hdepth)

end ReadsBack

/-! ## Records -/

/-- The fields take some members as the parts of `a`, whatever is left out. -/
def Decode.Fields.ReadBack (bound : Nat) (fields : Fields parts α) (ms : List (String × Json))
    (a : α) : Prop :=
  ∀ ks, TrimsMembers ms ks → depthMembers ks ≤ bound →
    FloatFreeMembers ks ∧ fields.members .none (draftMembers ks) fields.none = .ok a

/-- The fields take some items as the parts of `a`, in their order. -/
def Decode.Fields.ReadBackInOrder (bound : Nat) (fields : Fields parts α) (vs : List Json)
    (a : α) : Prop :=
  ∀ js, TrimsItems vs js → depthItems js ≤ bound →
    FloatFreeItems js ∧ ∀ expected seen, fields.inOrder expected seen .none (draftItems js) = .ok a

namespace Decode.Fields

/-- A field whose member has been seen, or will not come and has a default, adds its part to
what the others make of the members. -/
theorem members_add {field : Field α} {fields : Fields parts β} {known : Option α} {a : α}
    (hknown : known = some a ∨ known = Option.none ∧ field.default = some a)
    (ks : List (String × Json)) (hks : field.name ∉ ks.map Prod.fst) (rest : parts) :
    (fields.add field).members .none (draftMembers ks) (known, rest) =
      (fields.members .none (draftMembers ks) rest).map fun b => (a, b) := by
  induction ks generalizing rest with
  | nil =>
      simp only [draftMembers, members, noMore, add, bind, Except.bind]
      rcases hknown with rfl | ⟨rfl, hdefault⟩
      · cases fields.finish rest with
        | error e => rfl
        | ok b => rfl
      · rw [hdefault]
        cases fields.finish rest with
        | error e => rfl
        | ok b => rfl
  | cons k ks ih =>
      obtain ⟨key, value⟩ := k
      rw [List.map_cons, List.mem_cons, not_or] at hks
      have hkey : ¬ key = field.name := fun e => hks.1 e.symm
      simp only [draftMembers, members, Draft.key, bind, Except.bind]
      simp only [add, if_neg hkey]
      cases hput : fields.put key value.draft rest with
      | none =>
          simp only [Option.map_none]
          cases value.draft.skipFlaw with
          | none => exact ih hks.2 rest
          | some flaw => rfl
      | some result =>
          simp only [Option.map_some]
          cases result with
          | error e => rfl
          | ok rest => exact ih hks.2 rest

theorem members_map {fields : Fields parts α} (f : α → β) (flaw : Option Flaw) (es : List Entry)
    (known : parts) :
    (fields.map f).members flaw es known = (fields.members flaw es known).map f := by
  induction es generalizing known with
  | nil =>
      simp only [members, bind, Except.bind]
      cases noMore flaw known with
      | error e => rfl
      | ok known => rfl
  | cons e es ih =>
      simp only [members, bind, Except.bind]
      cases e.key.key with
      | error e => rfl
      | ok key =>
          simp only [map]
          cases fields.put key e.value known with
          | none =>
              cases e.value.skipFlaw with
              | none => exact ih known
              | some flaw => rfl
          | some result =>
              cases result with
              | error e => rfl
              | ok known => exact ih known

variable {bound : Nat} {field : Field α} {fields : Fields parts β} {v : Json} {a : α} {b : β}
  {name : String} {decode : Decoder α}

namespace ReadBack

variable {ms : List (String × Json)}

theorem noFields : Decode.noFields.ReadBack bound [] () := by
  intro ks htrims _
  cases htrims
  exact ⟨trivial, rfl⟩

theorem map {fields : Fields parts α} {f : α → β} (h : fields.ReadBack bound ms a)
    (hf : f a = b) : (fields.map f).ReadBack bound ms b := by
  intro ks htrims hdepth
  obtain ⟨hfree, hmembers⟩ := h ks htrims hdepth
  refine ⟨hfree, ?_⟩
  rw [members_map]
  show (fields.members .none (draftMembers ks) fields.none).map f = _
  rw [hmembers, ← hf]
  rfl

/-- A member that may be left out only if the field has the right default. -/
theorem add (field : Field α) (hfield : ReadsBack bound field.decode v a)
    (hdefault : (field.name, v) ∈ optionalFields → field.default = some a)
    (hnew : field.name ∉ ms.map Prod.fst) (hrest : fields.ReadBack bound ms b) :
    (fields.add field).ReadBack bound ((field.name, v) :: ms) (a, b) := by
  intro ks htrims hdepth
  cases htrims with
  | keep hj hks =>
      obtain ⟨hdepthFirst, hdepthRest⟩ := Nat.max_le.1 hdepth
      obtain ⟨hfree, hdecode⟩ := hfield _ hj hdepthFirst
      obtain ⟨hfreeRest, hmembers⟩ := hrest _ hks hdepthRest
      refine ⟨⟨hfree, hfreeRest⟩, ?_⟩
      have hstart : (fields.add field).none = (Option.none, fields.none) := rfl
      have hput : ∀ d, (fields.add field).put field.name d (Option.none, fields.none) =
          some ((field.decode d).map fun value => (some value, fields.none)) := by
        intro d
        simp only [Fields.add, if_true]
        rfl
      simp only [draftMembers, members, Draft.key, hstart, hput, hdecode, bind, Except.bind,
        Except.map]
      rw [members_add (.inl rfl) _ (fun h => hnew (hks.keys_subset h)), hmembers]
      rfl
  | drop hoptional hks =>
      obtain ⟨hfree, hmembers⟩ := hrest _ hks hdepth
      refine ⟨hfree, ?_⟩
      show (fields.add field).members .none _ (Option.none, fields.none) = _
      rw [members_add (.inr ⟨rfl, hdefault hoptional⟩) _ (fun h => hnew (hks.keys_subset h)),
        hmembers]
      rfl

theorem required (hfield : ReadsBack bound decode v a) (hrest : fields.ReadBack bound ms b)
    (hkept : (name, v) ∉ optionalFields := by simp [optionalFields])
    (hnew : name ∉ ms.map Prod.fst := by simp) :
    (Decode.required name decode fields).ReadBack bound ((name, v) :: ms) (a, b) :=
  add ⟨name, decode, Option.none⟩ hfield (fun h => absurd h hkept) hnew hrest

theorem defaulted {default : α} (hfield : ReadsBack bound decode v a)
    (hdefault : (name, v) ∈ optionalFields → default = a) (hrest : fields.ReadBack bound ms b)
    (hnew : name ∉ ms.map Prod.fst := by simp) :
    (Decode.defaulted name decode default fields).ReadBack bound ((name, v) :: ms) (a, b) :=
  add ⟨name, decode, some default⟩ hfield (fun h => congrArg some (hdefault h)) hnew hrest

end ReadBack

namespace ReadBackInOrder

variable {vs : List Json}

theorem noFields : Decode.noFields.ReadBackInOrder bound [] () := by
  intro js htrims _
  cases htrims
  exact ⟨trivial, fun _ _ => rfl⟩

theorem map {fields : Fields parts α} {f : α → β} (h : fields.ReadBackInOrder bound vs a)
    (hf : f a = b) : (fields.map f).ReadBackInOrder bound vs b := by
  intro js htrims hdepth
  obtain ⟨hfree, hitems⟩ := h js htrims hdepth
  refine ⟨hfree, fun expected seen => ?_⟩
  show (fields.inOrder expected seen .none (draftItems js)).map f = _
  rw [hitems, ← hf]
  rfl

theorem item (hfield : ReadsBack bound decode v a) (hrest : fields.ReadBackInOrder bound vs b) :
    (Decode.item decode fields).ReadBackInOrder bound (v :: vs) (a, b) := by
  intro js htrims hdepth
  cases htrims with
  | cons hj hjs =>
      obtain ⟨hdepthFirst, hdepthRest⟩ := Nat.max_le.1 hdepth
      obtain ⟨hfree, hdecode⟩ := hfield _ hj hdepthFirst
      obtain ⟨hfreeRest, hitems⟩ := hrest _ hjs hdepthRest
      refine ⟨⟨hfree, hfreeRest⟩, fun expected seen => ?_⟩
      simp only [draftItems, Decode.item, Fields.add, hdecode, hitems]
      rfl

end ReadBackInOrder

end Decode.Fields

namespace ReadsBack

variable {bound : Nat}

/-- A record is read back field by field. -/
theorem record {name : String} {fields : (n : Nat) → n < bound → Fields parts α}
    {ms : List (String × Json)} {a : α} (h : ∀ n hn, (fields n hn).ReadBack n ms a) :
    ReadsBack bound (Decode.record name bound fields) (.object ms) a := by
  intro j htrims hdepth
  cases htrims with
  | object hmembers =>
      rw [depth] at hdepth
      obtain ⟨n, rfl⟩ : ∃ n, bound = n + 1 := ⟨bound - 1, by omega⟩
      exact h n (Nat.lt_succ_self n) _ hmembers (Nat.le_of_succ_le_succ hdepth)

/-- The content of a variant is read back field by field. -/
theorem tuple {name : String} {fields : (n : Nat) → n < bound → Fields parts α} {vs : List Json}
    {a : α} (h : ∀ n hn, (fields n hn).ReadBackInOrder n vs a) :
    ReadsBack bound (Decode.tuple name bound fields) (.array vs) a := by
  intro j htrims hdepth
  cases htrims with
  | array hitems =>
      rw [depth] at hdepth
      obtain ⟨n, rfl⟩ : ∃ n, bound = n + 1 := ⟨bound - 1, by omega⟩
      obtain ⟨hfree, hread⟩ :=
        h n (Nat.lt_succ_self n) _ hitems (Nat.le_of_succ_le_succ hdepth)
      exact ⟨hfree, hread _ 0⟩

/-! ## Choices -/

variable {variants : List (String × Variant bound α)} {name : String} {a : α}

/-- The name of a variant without content is read back. -/
theorem unit (h : variants.lookup name = some (.unit a)) :
    ReadsBack bound (choice bound variants) (.str name) a := by
  intro j htrims _
  cases htrims
  refine ⟨trivial, ?_⟩
  simp only [draft, choice, pick, h]
  rfl

/-- A variant is read back as its content is. -/
theorem content {decode : (n : Nat) → n < bound → Decoder α} {v : Json}
    (hname : variants.lookup name = some (.newtype decode) ∨
      variants.lookup name = some (.tuple decode))
    (h : ∀ n hn, ReadsBack n (decode n hn) v a)
    (hkept : (name, v) ∉ optionalFields := by simp [optionalFields]) :
    ReadsBack bound (choice bound variants) (.object [(name, v)]) a := by
  intro j htrims hdepth
  cases htrims with
  | object hmembers =>
      rw [depth] at hdepth
      obtain ⟨n, rfl⟩ : ∃ n, bound = n + 1 := ⟨bound - 1, by omega⟩
      cases hmembers with
      | drop hoptional _ => exact absurd hoptional hkept
      | keep hj hrest =>
          cases hrest
          have hdepth' := (Nat.max_le.1 (Nat.le_of_succ_le_succ hdepth)).1
          obtain ⟨hfree, hdecode⟩ := h n (Nat.lt_succ_self n) _ hj hdepth'
          refine ⟨⟨hfree, trivial⟩, ?_⟩
          rcases hname with hname | hname
          · simp only [draft, draftMembers, choice, enter, Draft.key, pick, hname, hdecode, noMore,
              bind, Except.bind]
          · simp only [draft, draftMembers, choice, enter, Draft.key, pick, hname, hdecode, noMore,
              bind, Except.bind]

/-! ## Whole texts -/

/-- The text of a value is read back, whatever is left out. -/
theorem decodeText {decode : Nat → Decoder α} {v j : Json} {a : α}
    (h : ReadsBack depthLimit (decode depthLimit) v a) (htrims : v.Trims j)
    (hdepth : j.depth ≤ depthLimit) : Json.decodeText decode j.text = .ok a := by
  obtain ⟨hfree, hdecode⟩ := h j htrims hdepth
  simp only [Json.decodeText, Document.ofText_text hfree, hdecode, bind, Except.bind]
  rfl

end ReadsBack

end TreeScan.Json

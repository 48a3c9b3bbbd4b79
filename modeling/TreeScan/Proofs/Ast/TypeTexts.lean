import TreeScan.Ast.Describe
import TreeScan.Proofs.Ast.DottedNames

/-!
# Texts of types

The text of a type is its name and, between angle brackets, the texts of its arguments.  Types
that are written the same are the same up to spans, if their names are legible: no segment is
empty or has a dot, a bracket or a comma (`TypeRef.text_eq_iff`).  A segment may have spaces,
so a space does not tell where an argument starts.

The text is taken apart from the left.  Where a name ends is told by the first mark
(`TypeRef.name_cut`).  Where an argument ends is not told by any one character, since marks
stand inside it too.  So what is shown of a type is that its text determines it *and* what
follows, whenever nothing follows or else a comma or a closing bracket
(`TypeRef.Determined`).  Then the arguments can be taken off one after the other
(`TypeRef.restText_determined`).
-/

namespace TreeScan

/-- No segment of a name is empty, and none has a character that is written between segments
or around arguments. -/
def QualifiedName.Legible (q : QualifiedName) : Prop :=
  ∀ segment ∈ q.segments, segment ≠ "" ∧ ∀ c ∈ ['.', '<', '>', ','], c ∉ segment.toList

theorem QualifiedName.Legible.plain {q : QualifiedName} (h : q.Legible) : q.Plain :=
  fun segment hmem => ⟨(h segment hmem).1, (h segment hmem).2 '.' (by simp)⟩

namespace TypeRef

/-- The name of a type is legible, and so are those of its arguments at every depth. -/
inductive Legible : TypeRef → Prop where
  | intro {name : QualifiedName} {args : List (Spanned TypeRef)} :
      name.Legible → (∀ arg ∈ args, Legible arg.node) → Legible ⟨name, args⟩

mutual

/-- Two types are the same up to the spans of their arguments. -/
inductive Alike : TypeRef → TypeRef → Prop where
  | intro {name : QualifiedName} {args args' : List (Spanned TypeRef)} :
      AllAlike args args' → Alike ⟨name, args⟩ ⟨name, args'⟩

/-- As many arguments, and the same ones up to spans. -/
inductive AllAlike : List (Spanned TypeRef) → List (Spanned TypeRef) → Prop where
  | nil : AllAlike [] []
  | cons {arg arg' : Spanned TypeRef} {args args' : List (Spanned TypeRef)} :
      Alike arg.node arg'.node → AllAlike args args' → AllAlike (arg :: args) (arg' :: args')

end

/-! ## Spans are not written -/

theorem text_cons (name : QualifiedName) (arg : Spanned TypeRef) (args : List (Spanned TypeRef)) :
    text ⟨name, arg :: args⟩ = name.text ++ "<" ++ arg.node.text ++ restText args ++ ">" := by
  rw [text]

mutual

theorem Alike.text_eq {s t : TypeRef} : s.Alike t → s.text = t.text
  | .intro .nil => rfl
  | .intro (.cons harg hargs) => by
      rw [text_cons, text_cons, harg.text_eq, hargs.restText_eq]

theorem AllAlike.restText_eq {args args' : List (Spanned TypeRef)} :
    AllAlike args args' → restText args = restText args'
  | .nil => rfl
  | .cons harg hargs => by
      rw [restText, restText, harg.text_eq, hargs.restText_eq]

end

/-! ## Where a name ends -/

/-- A character that ends a name. -/
def Mark (c : Char) : Prop := c = '<' ∨ c = ',' ∨ c = '>'

/-- Two texts that are cut before the first mark agree before and after the cut. -/
theorem cut_eq {cs cs' rest rest' : List Char} (hcs : ∀ c ∈ cs, ¬ Mark c)
    (hcs' : ∀ c ∈ cs', ¬ Mark c) (hrest : ∀ c ∈ rest.head?, Mark c)
    (hrest' : ∀ c ∈ rest'.head?, Mark c) (h : cs ++ rest = cs' ++ rest') :
    cs = cs' ∧ rest = rest' := by
  rcases List.append_eq_append_iff.1 h with ⟨more, rfl, rfl⟩ | ⟨more, rfl, rfl⟩
  · cases more with
    | nil => simp
    | cons c more => exact absurd (hrest c rfl) (hcs' c (by simp))
  · cases more with
    | nil => simp
    | cons c more => exact absurd (hrest' c rfl) (hcs c (by simp))

theorem name_unmarked {name : QualifiedName} (h : name.Legible) :
    ∀ c ∈ name.text.toList, ¬ Mark c := by
  intro c hc hmark
  rcases Text.mem_joinStrings hc with hdot | ⟨segment, hsegment, hc⟩
  · have hdot : c = '.' := by simpa using hdot
    subst hdot
    simp [Mark] at hmark
  · have hclean := (h segment hsegment).2 c
    rcases hmark with rfl | rfl | rfl <;> exact hclean (by simp) hc

theorem name_cut {name name' : QualifiedName} (hname : name.Legible) (hname' : name'.Legible)
    {rest rest' : List Char} (hrest : ∀ c ∈ rest.head?, Mark c)
    (hrest' : ∀ c ∈ rest'.head?, Mark c)
    (h : name.text.toList ++ rest = name'.text.toList ++ rest') :
    name = name' ∧ rest = rest' := by
  obtain ⟨htext, hrest⟩ := cut_eq (name_unmarked hname) (name_unmarked hname') hrest hrest' h
  have hread := congrArg QualifiedName.parse (String.toList_inj.1 htext)
  rw [QualifiedName.parse_text hname.plain, QualifiedName.parse_text hname'.plain] at hread
  exact ⟨hread, hrest⟩

/-! ## Where a type ends -/

/-- What can stand after the text of a type: nothing, a comma or a closing bracket. -/
def Ends (rest : List Char) : Prop := ∀ c ∈ rest.head?, c = ',' ∨ c = '>'

/-- The text of a type tells the type and where it ends. -/
def Determined (s : TypeRef) : Prop :=
  ∀ {t : TypeRef} {rest rest' : List Char}, t.Legible → Ends rest → Ends rest' →
    s.text.toList ++ rest = t.text.toList ++ rest' → s.Alike t ∧ rest = rest'

theorem restText_ends (args : List (Spanned TypeRef)) (rest : List Char) :
    Ends ((restText args).toList ++ '>' :: rest) := by
  cases args with
  | nil => simp [Ends, restText]
  | cons arg args => simp [Ends, restText]

/-- The first argument is taken off, and the others are left. -/
theorem first_determined {arg arg' : Spanned TypeRef} {args args' : List (Spanned TypeRef)}
    {rest rest' : List Char} (harg : arg.node.Determined) (harg' : arg'.node.Legible)
    (hmore : (restText args).toList ++ '>' :: rest = (restText args').toList ++ '>' :: rest' →
      AllAlike args args' ∧ rest = rest')
    (h : arg.node.text.toList ++ ((restText args).toList ++ '>' :: rest) =
      arg'.node.text.toList ++ ((restText args').toList ++ '>' :: rest')) :
    AllAlike (arg :: args) (arg' :: args') ∧ rest = rest' := by
  obtain ⟨halike, hafter⟩ := harg harg' (restText_ends args rest) (restText_ends args' rest') h
  obtain ⟨hall, hrest⟩ := hmore hafter
  exact ⟨.cons halike hall, hrest⟩

theorem restText_determined {args args' : List (Spanned TypeRef)} {rest rest' : List Char}
    (hargs : ∀ arg ∈ args, arg.node.Determined) (hargs' : ∀ arg ∈ args', arg.node.Legible)
    (h : (restText args).toList ++ '>' :: rest = (restText args').toList ++ '>' :: rest') :
    AllAlike args args' ∧ rest = rest' := by
  induction args generalizing args' with
  | nil =>
      cases args' with
      | nil => exact ⟨.nil, by simpa [restText] using h⟩
      | cons arg' args' => simp [restText] at h
  | cons arg args ih =>
      cases args' with
      | nil => simp [restText] at h
      | cons arg' args' =>
          obtain ⟨harg, hmore⟩ := List.forall_mem_cons.1 hargs
          obtain ⟨harg', hmore'⟩ := List.forall_mem_cons.1 hargs'
          refine first_determined harg harg' (ih hmore hmore') ?_
          simpa [restText] using h

/-- What is written after the name of a type, and after the type. -/
def afterName : List (Spanned TypeRef) → List Char → List Char
  | [], rest => rest
  | arg :: args, rest => '<' :: (arg.node.text.toList ++ ((restText args).toList ++ '>' :: rest))

theorem text_append (name : QualifiedName) (args : List (Spanned TypeRef)) (rest : List Char) :
    (text ⟨name, args⟩).toList ++ rest = name.text.toList ++ afterName args rest := by
  cases args with
  | nil => rw [text, afterName]
  | cons arg args => simp [text_cons, afterName]

theorem afterName_marked {rest : List Char} (h : Ends rest) (args : List (Spanned TypeRef)) :
    ∀ c ∈ (afterName args rest).head?, Mark c := by
  cases args with
  | nil => exact fun c hc => .inr (h c hc)
  | cons arg args => simp [afterName, Mark]

/-- No arguments are told from some by the opening bracket, which ends no type. -/
theorem afterName_ne {rest : List Char} (h : Ends rest) (arg : Spanned TypeRef)
    (args : List (Spanned TypeRef)) (rest' : List Char) : rest ≠ afterName (arg :: args) rest' := by
  rintro rfl
  simp [Ends, afterName] at h

theorem afterName_determined {args args' : List (Spanned TypeRef)} {rest rest' : List Char}
    (hargs : ∀ arg ∈ args, arg.node.Determined) (hargs' : ∀ arg ∈ args', arg.node.Legible)
    (hrest : Ends rest) (hrest' : Ends rest') (h : afterName args rest = afterName args' rest') :
    AllAlike args args' ∧ rest = rest' := by
  cases args with
  | nil =>
      cases args' with
      | nil => exact ⟨.nil, h⟩
      | cons arg' args' => exact absurd h (afterName_ne hrest arg' args' rest')
  | cons arg args =>
      cases args' with
      | nil => exact absurd h.symm (afterName_ne hrest' arg args rest)
      | cons arg' args' =>
          obtain ⟨harg, hmore⟩ := List.forall_mem_cons.1 hargs
          obtain ⟨harg', hmore'⟩ := List.forall_mem_cons.1 hargs'
          exact first_determined harg harg' (restText_determined hmore hmore')
            (List.tail_eq_of_cons_eq h)

theorem Legible.determined {s : TypeRef} (h : s.Legible) : s.Determined := by
  induction h with
  | @intro name args hname _ ih =>
      intro t rest rest' ht hrest hrest' htexts
      obtain ⟨hname', hargs'⟩ := ht
      rw [text_append, text_append] at htexts
      obtain ⟨rfl, hafter⟩ :=
        name_cut hname hname' (afterName_marked hrest args) (afterName_marked hrest' _) htexts
      obtain ⟨hall, hrest⟩ := afterName_determined ih hargs' hrest hrest' hafter
      exact ⟨.intro hall, hrest⟩

/-! ## Texts of types -/

/-- Two types with legible names are written the same if and only if they are the same up to
spans. -/
theorem text_eq_iff {s t : TypeRef} (hs : s.Legible) (ht : t.Legible) :
    s.text = t.text ↔ s.Alike t := by
  constructor
  · intro htext
    have hends : Ends [] := by simp [Ends]
    exact (hs.determined ht hends hends (by rw [htext])).1
  · exact Alike.text_eq

/-- A type with two arguments, the first with a space before its name. -/
def mapType (span : Span) : TypeRef :=
  ⟨⟨["util", "Map"]⟩, [⟨⟨⟨[" K"]⟩, []⟩, span⟩,
    ⟨⟨⟨["List"]⟩, [⟨⟨⟨["V"]⟩, []⟩, span⟩]⟩, span⟩]⟩

theorem mapType_legible (span : Span) : (mapType span).Legible := by
  have hsimple : ∀ {name : QualifiedName}, name.Legible → Legible ⟨name, []⟩ :=
    fun h => .intro h (by simp)
  have hkey : Legible ⟨⟨[" K"]⟩, []⟩ := hsimple (by simp [QualifiedName.Legible])
  have hvalue : Legible ⟨⟨["V"]⟩, []⟩ := hsimple (by simp [QualifiedName.Legible])
  have hlist : Legible ⟨⟨["List"]⟩, [⟨⟨⟨["V"]⟩, []⟩, span⟩]⟩ :=
    .intro (by simp [QualifiedName.Legible]) (List.forall_mem_singleton.2 hvalue)
  exact .intro (by simp [QualifiedName.Legible])
    (List.forall_mem_cons.2 ⟨hkey, List.forall_mem_singleton.2 hlist⟩)

theorem mapType_alike :
    (mapType ⟨0, 0⟩).text = "util.Map< K, List<V>>" ∧ (mapType ⟨0, 0⟩).Legible ∧
      (mapType ⟨3, 5⟩).Legible ∧ (mapType ⟨0, 0⟩).Alike (mapType ⟨3, 5⟩) :=
  ⟨by decide, mapType_legible _, mapType_legible _,
    (text_eq_iff (mapType_legible _) (mapType_legible _)).1 (by decide)⟩

/-- A segment with a comma is written as two arguments are. -/
example :
    text ⟨⟨["Map"]⟩, [⟨⟨⟨["K, V"]⟩, []⟩, ⟨0, 0⟩⟩]⟩ =
      text ⟨⟨["Map"]⟩, [⟨⟨⟨["K"]⟩, []⟩, ⟨0, 0⟩⟩, ⟨⟨⟨["V"]⟩, []⟩, ⟨0, 0⟩⟩]⟩ := by
  decide

end TypeRef

end TreeScan

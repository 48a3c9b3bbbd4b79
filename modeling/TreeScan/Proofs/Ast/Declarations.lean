import TreeScan.Proofs.Scan.Queries

/-!
# Views of declarations

A declaration is looked at in several ways.  It has a kind, a name, a span and a label, it may
be seen as a type, a method or a field, and the resolver of declarations gives it a symbol.
Each of these is found by cases of its own.  Here they are shown to be in step.

*Forms.*  What is seen as a method or a field is a member.  What is seen as a type is a
declaration of a unit or a member (`Element.form_of_typeDecl?`).  All that is found by looking
at it follows from the declaration and the span, and not from its form
(`Node.views_of_typeDecl?`).

*Symbols.*  A view of a node gives its symbol, and a symbol comes with a view, or else it is
that of a parameter or a local variable (`Node.symbol?_cases`).  So a symbol says of its node
what the views say (`DeclSymbol.Describes`).
-/

namespace TreeScan

/-! ## Forms -/

namespace Element

variable {e : Element}

theorem form_of_typeDecl? {d : TypeDecl} (h : e.typeDecl? = some d) :
    ∃ span, e = .typeDecl ⟨d, span⟩ ∨ e = .member ⟨.type d, span⟩ := by
  cases e with
  | typeDecl decl =>
      cases h
      exact ⟨decl.span, .inl rfl⟩
  | member m =>
      obtain ⟨m, span⟩ := m
      cases m with
      | type d' =>
          cases h
          exact ⟨span, .inr rfl⟩
      | _ => cases h
  | _ => cases h

theorem eq_member_of_method? {d : MethodDecl} (h : e.method? = some d) :
    ∃ span, e = .member ⟨.method d, span⟩ := by
  cases e with
  | member m =>
      obtain ⟨m, span⟩ := m
      cases m with
      | method d' =>
          cases h
          exact ⟨span, rfl⟩
      | _ => cases h
  | _ => cases h

theorem eq_member_of_field? {d : FieldDecl} (h : e.field? = some d) :
    ∃ span, e = .member ⟨.field d, span⟩ := by
  cases e with
  | member m =>
      obtain ⟨m, span⟩ := m
      cases m with
      | field d' =>
          cases h
          exact ⟨span, rfl⟩
      | _ => cases h
  | _ => cases h

end Element

/-! ## Symbols -/

namespace Node

variable {n : Node} {s : DeclSymbol}

theorem views_of_typeDecl? {d : TypeDecl} (h : n.element.typeDecl? = some d) :
    n.symbol? = some ⟨.type d.kind, d.name, n.span⟩ ∧ n.kind = d.kind.nodeKind ∧
      n.name? = some d.name ∧ n.label = d.kind.nodeKind.word ++ " " ++ d.name := by
  obtain ⟨place, e⟩ := n
  obtain ⟨span, rfl | rfl⟩ := Element.form_of_typeDecl? h
  · exact ⟨rfl, rfl, rfl, rfl⟩
  · exact ⟨rfl, rfl, rfl, rfl⟩

theorem symbol?_of_method? {d : MethodDecl} (h : n.element.method? = some d) :
    n.symbol? = some ⟨.method d.isStatic, d.name, n.span⟩ := by
  obtain ⟨place, e⟩ := n
  obtain ⟨span, rfl⟩ := Element.eq_member_of_method? h
  rfl

theorem symbol?_of_field? {d : FieldDecl} (h : n.element.field? = some d) :
    n.symbol? = some ⟨.field d.isStatic, d.name, n.span⟩ := by
  obtain ⟨place, e⟩ := n
  obtain ⟨span, rfl⟩ := Element.eq_member_of_field? h
  rfl

/-- A symbol comes with a view of its node and has its kind, or it is that of a parameter or
of a local variable. -/
theorem symbol?_cases (h : n.symbol? = some s) :
    (∃ d, n.element.typeDecl? = some d ∧ s.kind = .type d.kind) ∨
      (∃ d, n.element.method? = some d ∧ s.kind = .method d.isStatic) ∨
      (∃ d, n.element.field? = some d ∧ s.kind = .field d.isStatic) ∨
      s.kind = .parameter ∨ s.kind = .localVar := by
  obtain ⟨place, e⟩ := n
  cases e with
  | typeDecl d =>
      cases h
      exact .inl ⟨d.node, rfl, rfl⟩
  | member m =>
      obtain ⟨m, span⟩ := m
      cases m with
      | type d =>
          cases h
          exact .inl ⟨d, rfl, rfl⟩
      | method d =>
          cases h
          exact .inr (.inl ⟨d, rfl, rfl⟩)
      | field d =>
          cases h
          exact .inr (.inr (.inl ⟨d, rfl, rfl⟩))
  | param p =>
      cases h
      exact .inr (.inr (.inr (.inl rfl)))
  | stmt s =>
      obtain ⟨s, span⟩ := s
      cases s with
      | localVar name type init =>
          cases h
          exact .inr (.inr (.inr (.inr rfl)))
      | _ => cases h
  | _ => cases h

theorem symbol?_name_span (h : n.symbol? = some s) : n.name? = some s.name ∧ n.span = s.span := by
  obtain ⟨place, e⟩ := n
  cases e with
  | typeDecl d =>
      cases h
      exact ⟨rfl, rfl⟩
  | member m =>
      obtain ⟨m, span⟩ := m
      cases m <;>
      · cases h
        exact ⟨rfl, rfl⟩
  | param p =>
      cases h
      exact ⟨rfl, rfl⟩
  | stmt s =>
      obtain ⟨s, span⟩ := s
      cases s with
      | localVar name type init =>
          cases h
          exact ⟨rfl, rfl⟩
      | _ => cases h
  | _ => cases h

end Node

namespace DeclSymbol

theorem isType_iff_kind {s : DeclSymbol} : s.isType = true ↔ ∃ kind, s.kind = .type kind := by
  obtain ⟨kind, name, span⟩ := s
  cases kind <;> simp [isType]

theorem isStatic_iff_kind {s : DeclSymbol} :
    s.isStatic = true ↔ s.kind = .method true ∨ s.kind = .field true := by
  obtain ⟨kind, name, span⟩ := s
  cases kind <;> simp [isStatic]

/-- A symbol says of a node what is found by looking at the node. -/
structure Describes (s : DeclSymbol) (n : Node) : Prop where
  name_eq : n.name? = some s.name
  span_eq : n.span = s.span
  isType_iff : s.isType = true ↔ ∃ d, n.element.typeDecl? = some d
  type_eq : ∀ d, n.element.typeDecl? = some d → s.kind = .type d.kind ∧ s.name = d.name
  /-- The symbol is that of a method if and only if the node is one, and then both are static
  or both are not. -/
  method_iff : ∀ isStatic, s.kind = .method isStatic ↔
    ∃ d, n.element.method? = some d ∧ d.isStatic = isStatic
  field_iff : ∀ isStatic, s.kind = .field isStatic ↔
    ∃ d, n.element.field? = some d ∧ d.isStatic = isStatic
  isStatic_iff : s.isStatic = true ↔
    (∃ d, n.element.method? = some d ∧ d.isStatic = true) ∨
      ∃ d, n.element.field? = some d ∧ d.isStatic = true

end DeclSymbol

namespace Node

variable {n : Node} {s : DeclSymbol}

theorem symbol?_isType_iff (h : n.symbol? = some s) :
    s.isType = true ↔ ∃ d, n.element.typeDecl? = some d := by
  rw [DeclSymbol.isType_iff_kind]
  constructor
  · rintro ⟨kind, hkind⟩
    rcases symbol?_cases h with ⟨d, hd, _⟩ | ⟨d, _, hs⟩ | ⟨d, _, hs⟩ | hs | hs
    · exact ⟨d, hd⟩
    all_goals cases hkind.symm.trans hs
  · rintro ⟨d, hd⟩
    cases Option.some.inj (h.symm.trans (views_of_typeDecl? hd).1)
    exact ⟨d.kind, rfl⟩

theorem symbol?_method_iff (h : n.symbol? = some s) (isStatic : Bool) :
    s.kind = .method isStatic ↔ ∃ d, n.element.method? = some d ∧ d.isStatic = isStatic := by
  constructor
  · intro hkind
    rcases symbol?_cases h with ⟨d, _, hs⟩ | ⟨d, hd, hs⟩ | ⟨d, _, hs⟩ | hs | hs
    case inr.inl =>
      cases hkind.symm.trans hs
      exact ⟨d, hd, rfl⟩
    all_goals cases hkind.symm.trans hs
  · rintro ⟨d, hd, rfl⟩
    cases Option.some.inj (h.symm.trans (symbol?_of_method? hd))
    rfl

theorem symbol?_field_iff (h : n.symbol? = some s) (isStatic : Bool) :
    s.kind = .field isStatic ↔ ∃ d, n.element.field? = some d ∧ d.isStatic = isStatic := by
  constructor
  · intro hkind
    rcases symbol?_cases h with ⟨d, _, hs⟩ | ⟨d, _, hs⟩ | ⟨d, hd, hs⟩ | hs | hs
    case inr.inr.inl =>
      cases hkind.symm.trans hs
      exact ⟨d, hd, rfl⟩
    all_goals cases hkind.symm.trans hs
  · rintro ⟨d, hd, rfl⟩
    cases Option.some.inj (h.symm.trans (symbol?_of_field? hd))
    rfl

theorem symbol?_describes (h : n.symbol? = some s) : s.Describes n where
  name_eq := (symbol?_name_span h).1
  span_eq := (symbol?_name_span h).2
  isType_iff := symbol?_isType_iff h
  type_eq d hd := by
    cases Option.some.inj (h.symm.trans (views_of_typeDecl? hd).1)
    exact ⟨rfl, rfl⟩
  method_iff := symbol?_method_iff h
  field_iff := symbol?_field_iff h
  isStatic_iff := by
    rw [DeclSymbol.isStatic_iff_kind, symbol?_method_iff h, symbol?_field_iff h]

/-! ## All views -/

/-- A node has a symbol if and only if it is a type, a field, a method, a parameter or a local
variable.  The symbol says of it what the other views say.  Two nodes that are types, with the
same declaration and the same span, look alike, also if one is declared in a unit and the
other in a type. -/
theorem declaration_views_agree (u : CompilationUnit) (n : Node) :
    ((declResolver u n).isSome = true ↔
      n.kind ∈ [.classType, .interfaceType, .enumType, .field, .method, .parameter,
        .localVariable]) ∧
    (∀ s, declResolver u n = some s → s.Describes n) ∧
    (∀ (m : Node) (d : TypeDecl), n.element.typeDecl? = some d → m.element.typeDecl? = some d →
      n.span = m.span →
      declResolver u n = declResolver u m ∧ n.kind = m.kind ∧ n.name? = m.name? ∧
        n.label = m.label) := by
  refine ⟨?_, fun s => symbol?_describes, fun m d hn hm hspan => ?_⟩
  · rw [← List.contains_iff_mem, ← Bool.eq_iff_iff]
    exact n.seenByKind.symbol
  · obtain ⟨hsymbol, hkind, hname, hlabel⟩ := views_of_typeDecl? hn
    obtain ⟨hsymbol', hkind', hname', hlabel'⟩ := views_of_typeDecl? hm
    refine ⟨?_, hkind.trans hkind'.symm, hname.trans hname'.symm, hlabel.trans hlabel'.symm⟩
    show n.symbol? = m.symbol?
    rw [hsymbol, hsymbol', hspan]

/-- A declaration of a type without members. -/
def colorType : TypeDecl := ⟨.enumType, "Color", []⟩

/-- The declaration in a unit, and the same one in a type. -/
def colorInUnit : Node := ⟨⟨0, [0]⟩, .typeDecl ⟨colorType, ⟨4, 17⟩⟩⟩
def colorInType : Node := ⟨⟨1, [2, 0]⟩, .member ⟨.type colorType, ⟨4, 17⟩⟩⟩

theorem colors_look_alike :
    let u : CompilationUnit := ⟨"Color.java", none, [], []⟩
    (∃ s, declResolver u colorInUnit = some s ∧ s.Describes colorInUnit) ∧
      colorInUnit.element.typeDecl? = some colorType ∧
      colorInType.element.typeDecl? = some colorType ∧ colorInUnit.span = colorInType.span ∧
      declResolver u colorInUnit = declResolver u colorInType ∧
      colorInUnit.kind = colorInType.kind ∧ colorInUnit.name? = colorInType.name? ∧
      colorInUnit.label = colorInType.label := by
  intro u
  obtain ⟨_, hdescribes, halike⟩ := declaration_views_agree u colorInUnit
  exact ⟨⟨_, rfl, hdescribes _ rfl⟩, rfl, rfl, rfl, halike colorInType colorType rfl rfl rfl⟩

end Node

end TreeScan

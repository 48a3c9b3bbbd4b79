import TreeScan.Ast.Encode
import TreeScan.Ast.Node
import TreeScan.Proofs.Json.Trimming

/-!
# Trees are read back from their JSON form

A unit is decoded from the text of its JSON form, and from the same text with optional
fields left out that have their default values (`CompilationUnit.decode_encode`).  The
numbers of the unit have to fit into words, as they do in a unit that was decoded, and no
literal may be a floating-point number.

Each decoder is shown to read back the JSON form of its type.  The decoders of types, of
members and of code call each other, but always with a lesser bound, so the induction is on
the bound.  `CodeReadsBack` collects what it carries for the four decoders of code.
-/

namespace TreeScan

open Json
open Json.Decode hiding bool float

/-! ## What fits into words -/

/-- The ends of a span are unsigned words. -/
def Span.Fits (s : Span) : Prop := s.start < 2 ^ 64 ∧ s.stop < 2 ^ 64

/-- An integer is a signed word.  No literal is a floating-point number. -/
def Literal.Fits : Literal → Prop
  | .int value => -2 ^ 63 ≤ value ∧ value < 2 ^ 63
  | .float _ => False
  | _ => True

/-- The numbers that are recorded with an element fit into words.  The span of a unit is
not recorded with it. -/
def Element.Fits : Element → Prop
  | .unit _ => True
  | .expr ⟨.literal value, span⟩ => span.Fits ∧ value.Fits
  | e => e.span.Fits

/-- The numbers fit into words all over a tree. -/
inductive Element.AllFit : Element → Prop where
  | intro {e : Element} : e.Fits → (∀ c ∈ e.children, c.AllFit) → e.AllFit

namespace Element.AllFit

theorem here {e : Element} (h : e.AllFit) : e.Fits := by
  cases h with
  | intro hfits _ => exact hfits

theorem child {c e : Element} (h : e.AllFit) (hc : c ∈ e.children) : c.AllFit := by
  cases h with
  | intro _ hchildren => exact hchildren c hc

theorem expr_span {e : Spanned Expr} (h : (Element.expr e).AllFit) : e.span.Fits := by
  have hfits := h.here
  obtain ⟨node, span⟩ := e
  cases node with
  | literal value => exact hfits.1
  | _ => exact hfits

end Element.AllFit

/-! ## Spans, lists and optional parts -/

variable {α : Type} {bound : Nat}

theorem Span.readsBack {s : Span} (h : s.Fits) :
    ReadsBack bound (Span.decode bound) s.encode s :=
  .record fun _ _ => .map (.required (.natural h.1) (.required (.natural h.2) .noFields)) rfl

/-- Something with its span is read back if it is read back without. -/
theorem Spanned.readsBack {node : (n : Nat) → n < bound → Decoder α} {j : Json} {x : Spanned α}
    (hspan : x.span.Fits) (h : ∀ n hn, ReadsBack n (node n hn) j x.node) :
    ReadsBack bound (Spanned.decode bound node) (Spanned.encode j x.span) x :=
  .record fun n hn =>
    .map (.required (h n hn) (.required (Span.readsBack hspan) .noFields)) rfl

/-- A list is read back if each of its entries is. -/
theorem Spanned.readsBack_list {node : (n : Nat) → n < bound → Decoder α} {encode : α → Json}
    {xs : List (Spanned α)} (hspan : ∀ x ∈ xs, x.span.Fits)
    (h : ∀ x ∈ xs, ∀ n hn, ReadsBack n (node n hn) (encode x.node) x.node) :
    ReadsBack bound (Spanned.decodeList bound node)
      (.array (xs.map fun x => Spanned.encode (encode x.node) x.span)) xs := by
  refine .list fun n hn => ?_
  rw [List.forall₂_map_left_iff, List.forall₂_same]
  intro x hx
  exact Spanned.readsBack (hspan x hx) fun m hm => h x hx m (Nat.lt_trans hm hn)

theorem Spanned.readsBack_option {node : (n : Nat) → n < bound → Decoder α} {encode : α → Json}
    {x : Option (Spanned α)} (hspan : ∀ y ∈ x, y.span.Fits)
    (h : ∀ y ∈ x, ∀ n hn, ReadsBack n (node n hn) (encode y.node) y.node) :
    ReadsBack bound (optional (Spanned.decode bound node))
      (.ofOption (fun x => Spanned.encode (encode x.node) x.span) x) x := by
  cases x with
  | none => exact .optional_none
  | some x => exact .optional_some (Spanned.readsBack (hspan x rfl) (h x rfl))

/-- A part that may be left out is missing, if it would be an object otherwise. -/
theorem none_of_optional {name : String} {encode : α → Json} {x : Option α}
    (hencode : ∀ y, (name, encode y) ∉ optionalFields)
    (h : (name, Json.ofOption encode x) ∈ optionalFields) : none = x := by
  cases x with
  | none => rfl
  | some y => exact absurd h (hencode y)

theorem Spanned.none_of_optional {name : String} {encode : α → Json} {x : Option (Spanned α)}
    (h : (name, Json.ofOption (fun x => Spanned.encode (encode x.node) x.span) x) ∈
      optionalFields) : none = x :=
  TreeScan.none_of_optional (fun _ => object_not_optional name _) h

theorem Spanned.nil_of_optional {name : String} {encode : α → Json} {xs : List (Spanned α)}
    (h : (name, Json.array (xs.map fun x => Spanned.encode (encode x.node) x.span)) ∈
      optionalFields) : [] = xs :=
  (List.map_eq_nil_iff.1 (eq_nil_of_optional h)).symm

/-! ## Names and imports -/

theorem QualifiedName.readsBack (q : QualifiedName) :
    ReadsBack bound (QualifiedName.decode bound) q.encode q := by
  have hsegments : ∀ n, ReadsBack n (list n fun _ _ => Decode.string)
      (.array (q.segments.map .str)) q.segments := by
    intro n
    refine .list fun m _ => ?_
    rw [List.forall₂_map_left_iff, List.forall₂_same]
    exact fun s _ => .string s
  exact .record fun n _ => .map (.required (hsegments n) .noFields) rfl

theorem QualifiedName.readsBack_option (q : Option QualifiedName) :
    ReadsBack bound (optional (QualifiedName.decode bound)) (.ofOption QualifiedName.encode q)
      q := by
  cases q with
  | none => exact .optional_none
  | some q => exact .optional_some q.readsBack

theorem ImportDecl.readsBack (d : ImportDecl) :
    ReadsBack bound (ImportDecl.decode bound) d.encode d :=
  .record fun n _ => .map
    (.defaulted (.bool d.isStatic) eq_false_of_optional <|
      .required (QualifiedName.readsBack d.name) <|
        .defaulted (.bool d.wildcard) eq_false_of_optional .noFields) rfl

/-! ## Types, parameters, literals and operators -/

theorem TypeRef.encodeList_eq_map (args : List (Spanned TypeRef)) :
    TypeRef.encodeList args = args.map TypeRef.encodeSpanned := by
  induction args with
  | nil => rfl
  | cons arg args ih => rw [TypeRef.encodeList, ih, List.map_cons]; rfl

theorem TypeRef.readsBack {t : Spanned TypeRef} (h : (Element.typeRef t).AllFit) :
    ReadsBack bound (TypeRef.decode bound) t.node.encode t.node := by
  induction bound using Nat.strongRecOn generalizing t with
  | ind bound ih =>
      obtain ⟨⟨name, args⟩, span⟩ := t
      have hargs : ∀ arg ∈ args, (Element.typeRef arg).AllFit :=
        fun arg harg => h.child (List.mem_map_of_mem harg)
      rw [TypeRef.encode, TypeRef.decode, TypeRef.encodeList_eq_map]
      exact .record fun n hn => .map
        (.required (QualifiedName.readsBack name) <|
          .defaulted (Spanned.readsBack_list (fun arg harg => (hargs arg harg).here)
            fun arg harg m hm => ih m (Nat.lt_trans hm hn) (hargs arg harg))
            Spanned.nil_of_optional .noFields) rfl

theorem TypeRef.readsBack_spanned {t : Spanned TypeRef} (h : (Element.typeRef t).AllFit) :
    ReadsBack bound (Spanned.decode bound fun n _ => TypeRef.decode n) (TypeRef.encodeSpanned t)
      t :=
  Spanned.readsBack h.here fun _ _ => TypeRef.readsBack h

theorem TypeRef.readsBack_option {t : Option (Spanned TypeRef)}
    (h : ∀ x ∈ t, (Element.typeRef x).AllFit) :
    ReadsBack bound (optional (Spanned.decode bound fun n _ => TypeRef.decode n))
      (.ofOption TypeRef.encodeSpanned t) t :=
  Spanned.readsBack_option (fun x hx => (h x hx).here) fun x hx _ _ => TypeRef.readsBack (h x hx)

theorem Param.readsBack {p : Spanned Param} (h : (Element.param p).AllFit) :
    ReadsBack bound (Param.decode bound) p.node.encode p.node := by
  have htype : (Element.typeRef p.node.type).AllFit := h.child List.mem_cons_self
  exact .record fun n _ => .map (.required (.string p.node.name)
    (.required (TypeRef.readsBack_spanned htype) .noFields (object_not_optional "ty" _))) rfl

theorem Param.readsBack_list {ps : List (Spanned Param)}
    (h : ∀ p ∈ ps, (Element.param p).AllFit) :
    ReadsBack bound (Spanned.decodeList bound fun n _ => Param.decode n)
      (.array (ps.map Param.encodeSpanned)) ps :=
  Spanned.readsBack_list (fun p hp => (h p hp).here) fun p hp _ _ => Param.readsBack (h p hp)

theorem Literal.readsBack {l : Literal} (h : l.Fits) :
    ReadsBack bound (Literal.decode bound) l.encode l := by
  cases l with
  | int value => exact .content (.inl rfl) fun _ _ => .map (.integer h.1 h.2) rfl
  | float value => exact h.elim
  | str value => exact .content (.inl rfl) fun _ _ => .map (.string value) rfl
  | char value => exact .content (.inl rfl) fun _ _ => .map (.char value) rfl
  | bool value => exact .content (.inl rfl) fun _ _ => .map (.bool value) rfl
  | null => exact .unit rfl

theorem BinaryOp.readsBack (op : BinaryOp) :
    ReadsBack bound (BinaryOp.decode bound) op.encode op := by
  cases op <;> exact .unit rfl

theorem UnaryOp.readsBack (op : UnaryOp) :
    ReadsBack bound (UnaryOp.decode bound) op.encode op := by
  cases op <;> exact .unit rfl

theorem TypeKind.readsBack (kind : TypeKind) :
    ReadsBack bound (TypeKind.decode bound) (.str (nameIn TypeKind.names kind)) kind := by
  cases kind <;> exact .unit rfl

/-! ## Expressions and statements -/

theorem Expr.encodeList_eq_map (es : List (Spanned Expr)) :
    Expr.encodeList es = es.map fun e => Spanned.encode e.node.encode e.span := by
  induction es with
  | nil => rfl
  | cons e es ih => rw [Expr.encodeList, ih, List.map_cons]

theorem Stmt.encodeList_eq_map (ss : List (Spanned Stmt)) :
    Stmt.encodeList ss = ss.map fun s => Spanned.encode s.node.encode s.span := by
  induction ss with
  | nil => rfl
  | cons s ss ih => rw [Stmt.encodeList, ih, List.map_cons]

theorem Expr.encodeOption_eq_ofOption (e : Option (Spanned Expr)) :
    Expr.encodeOption e = .ofOption (fun e => Spanned.encode e.node.encode e.span) e := by
  cases e with
  | none => rfl
  | some e => rfl

theorem Stmt.encodeOption_eq_ofOption (s : Option (Spanned Stmt)) :
    Stmt.encodeOption s = .ofOption (fun s => Spanned.encode s.node.encode s.span) s := by
  cases s with
  | none => rfl
  | some s => rfl

/-- Code is read back up to a bound. -/
structure CodeReadsBack (bound : Nat) : Prop where
  expr : ∀ {e : Spanned Expr}, (Element.expr e).AllFit →
    ReadsBack bound (Expr.decode bound) e.node.encode e.node
  lambdaBody : ∀ {b : LambdaBody}, (Element.ofLambdaBody b).AllFit →
    ReadsBack bound (LambdaBody.decode bound) b.encode b
  block : ∀ {b : Block}, (∀ s ∈ b.stmts, (Element.stmt s).AllFit) →
    ReadsBack bound (Block.decode bound) b.encode b
  stmt : ∀ {s : Spanned Stmt}, (Element.stmt s).AllFit →
    ReadsBack bound (Stmt.decode bound) s.node.encode s.node

namespace CodeReadsBack

/-! ### One level up -/

section Parts

variable (below : ∀ n < bound, CodeReadsBack n)
include below

theorem spannedExpr {e : Spanned Expr} (h : (Element.expr e).AllFit) :
    ReadsBack bound (Spanned.decode bound fun n _ => Expr.decode n)
      (Spanned.encode e.node.encode e.span) e :=
  Spanned.readsBack h.expr_span fun n hn => (below n hn).expr h

theorem spannedStmt {s : Spanned Stmt} (h : (Element.stmt s).AllFit) :
    ReadsBack bound (Spanned.decode bound fun n _ => Stmt.decode n)
      (Spanned.encode s.node.encode s.span) s :=
  Spanned.readsBack h.here fun n hn => (below n hn).stmt h

theorem spannedBlock {b : Spanned Block} (h : (Element.block b).AllFit) :
    ReadsBack bound (Spanned.decode bound fun n _ => Block.decode n)
      (Spanned.encode b.node.encode b.span) b :=
  Spanned.readsBack h.here fun n hn =>
    (below n hn).block fun _ hs => h.child (List.mem_map_of_mem hs)

theorem exprs {es : List (Spanned Expr)} (h : ∀ e ∈ es, (Element.expr e).AllFit) :
    ReadsBack bound (Spanned.decodeList bound fun n _ => Expr.decode n)
      (.array (Expr.encodeList es)) es := by
  rw [Expr.encodeList_eq_map]
  exact Spanned.readsBack_list (fun e he => (h e he).expr_span) fun e he n hn =>
    (below n hn).expr (h e he)

theorem stmts {ss : List (Spanned Stmt)} (h : ∀ s ∈ ss, (Element.stmt s).AllFit) :
    ReadsBack bound (Spanned.decodeList bound fun n _ => Stmt.decode n)
      (.array (Stmt.encodeList ss)) ss := by
  rw [Stmt.encodeList_eq_map]
  exact Spanned.readsBack_list (fun s hs => (h s hs).here) fun s hs n hn =>
    (below n hn).stmt (h s hs)

theorem optionalExpr {e : Option (Spanned Expr)} (h : ∀ x ∈ e, (Element.expr x).AllFit) :
    ReadsBack bound (optional (Spanned.decode bound fun n _ => Expr.decode n))
      (.ofOption (fun e => Spanned.encode e.node.encode e.span) e) e :=
  Spanned.readsBack_option (fun x hx => (h x hx).expr_span) fun x hx n hn =>
    (below n hn).expr (h x hx)

theorem optionalStmt {s : Option (Spanned Stmt)} (h : ∀ x ∈ s, (Element.stmt x).AllFit) :
    ReadsBack bound (optional (Spanned.decode bound fun n _ => Stmt.decode n))
      (.ofOption (fun s => Spanned.encode s.node.encode s.span) s) s :=
  Spanned.readsBack_option (fun x hx => (h x hx).here) fun x hx n hn =>
    (below n hn).stmt (h x hx)

end Parts

/-! ### One case for each variant -/

section Step

variable (below : ∀ n < bound, CodeReadsBack n)
include below

theorem below_of_lt {n : Nat} (hn : n < bound) : ∀ k < n, CodeReadsBack k :=
  fun k hk => below k (Nat.lt_trans hk hn)

theorem below_trans {n m : Nat} (hn : n < bound) (hm : m < n) : ∀ k < m, CodeReadsBack k :=
  below_of_lt below (Nat.lt_trans hm hn)

theorem expr_step {e : Spanned Expr} (h : (Element.expr e).AllFit) :
    ReadsBack bound (Expr.decode bound) e.node.encode e.node := by
  obtain ⟨node, span⟩ := e
  rw [Expr.decode]
  cases node with
  | ident name => exact .content (.inl rfl) fun _ _ => .map (.string name) rfl
  | literal value => exact .content (.inl rfl) fun _ _ => .map (Literal.readsBack h.here.2) rfl
  | field target name =>
      have htarget : (Element.expr target).AllFit := h.child List.mem_cons_self
      obtain ⟨_, _⟩ := target
      exact .content (.inr rfl) fun n hn => .tuple fun m hm =>
        .map (.item (spannedExpr (below_trans below hn hm) htarget)
          (.item (.string name) .noFields)) rfl
  | call callee args =>
      have hcallee : (Element.expr callee).AllFit := h.child List.mem_cons_self
      have hargs : ∀ arg ∈ args, (Element.expr arg).AllFit := fun arg harg =>
        h.child (List.mem_cons_of_mem _ (List.mem_map_of_mem harg))
      obtain ⟨_, _⟩ := callee
      exact .content (.inr rfl) fun n hn => .tuple fun m hm =>
        .map (.item (spannedExpr (below_trans below hn hm) hcallee)
          (.item (exprs (below_trans below hn hm) hargs) .noFields)) rfl
  | new type args =>
      have htype : (Element.typeRef type).AllFit := h.child List.mem_cons_self
      have hargs : ∀ arg ∈ args, (Element.expr arg).AllFit := fun arg harg =>
        h.child (List.mem_cons_of_mem _ (List.mem_map_of_mem harg))
      exact .content (.inr rfl) fun n hn => .tuple fun m hm =>
        .map (.item (TypeRef.readsBack_spanned htype)
          (.item (exprs (below_trans below hn hm) hargs) .noFields)) rfl
  | binary left op right =>
      have hleft : (Element.expr left).AllFit := h.child List.mem_cons_self
      have hright : (Element.expr right).AllFit :=
        h.child (List.mem_cons_of_mem _ List.mem_cons_self)
      obtain ⟨_, _⟩ := left
      obtain ⟨_, _⟩ := right
      exact .content (.inr rfl) fun n hn => .tuple fun m hm =>
        .map (.item (spannedExpr (below_trans below hn hm) hleft) (.item (BinaryOp.readsBack op)
          (.item (spannedExpr (below_trans below hn hm) hright) .noFields))) rfl
  | unary op operand =>
      have hoperand : (Element.expr operand).AllFit := h.child List.mem_cons_self
      obtain ⟨_, _⟩ := operand
      exact .content (.inr rfl) fun n hn => .tuple fun m hm =>
        .map (.item (UnaryOp.readsBack op)
          (.item (spannedExpr (below_trans below hn hm) hoperand) .noFields)) rfl
  | assign target value =>
      have htarget : (Element.expr target).AllFit := h.child List.mem_cons_self
      have hvalue : (Element.expr value).AllFit :=
        h.child (List.mem_cons_of_mem _ List.mem_cons_self)
      obtain ⟨_, _⟩ := target
      obtain ⟨_, _⟩ := value
      exact .content (.inr rfl) fun n hn => .tuple fun m hm =>
        .map (.item (spannedExpr (below_trans below hn hm) htarget)
          (.item (spannedExpr (below_trans below hn hm) hvalue) .noFields)) rfl
  | lambda params body =>
      have hparams : ∀ p ∈ params, (Element.param p).AllFit := fun p hp =>
        h.child (List.mem_append_left _ (List.mem_map_of_mem hp))
      have hbody : (Element.ofLambdaBody body).AllFit :=
        h.child (List.mem_append_right _ (List.mem_singleton_self _))
      exact .content (.inr rfl) fun n hn => .tuple fun m hm =>
        .map (.item (Param.readsBack_list hparams)
          (.item ((below m (Nat.lt_trans hm hn)).lambdaBody hbody) .noFields)) rfl
  | conditional condition whenTrue whenFalse =>
      have hcondition : (Element.expr condition).AllFit := h.child List.mem_cons_self
      have htrue : (Element.expr whenTrue).AllFit :=
        h.child (List.mem_cons_of_mem _ List.mem_cons_self)
      have hfalse : (Element.expr whenFalse).AllFit :=
        h.child (List.mem_cons_of_mem _ (List.mem_cons_of_mem _ List.mem_cons_self))
      obtain ⟨_, _⟩ := condition
      obtain ⟨_, _⟩ := whenTrue
      obtain ⟨_, _⟩ := whenFalse
      exact .content (.inr rfl) fun n hn => .tuple fun m hm =>
        .map (.item (spannedExpr (below_trans below hn hm) hcondition)
          (.item (spannedExpr (below_trans below hn hm) htrue)
            (.item (spannedExpr (below_trans below hn hm) hfalse) .noFields))) rfl

theorem lambdaBody_step {b : LambdaBody} (h : (Element.ofLambdaBody b).AllFit) :
    ReadsBack bound (LambdaBody.decode bound) b.encode b := by
  rw [LambdaBody.decode]
  cases b with
  | expr value =>
      obtain ⟨_, _⟩ := value
      exact .content (.inl rfl) fun n hn =>
        .map (spannedExpr (below_of_lt below hn) h) rfl
  | block b =>
      obtain ⟨_, _⟩ := b
      exact .content (.inl rfl) fun n hn =>
        .map (spannedBlock (below_of_lt below hn) h) rfl

theorem block_step {b : Block} (h : ∀ s ∈ b.stmts, (Element.stmt s).AllFit) :
    ReadsBack bound (Block.decode bound) b.encode b := by
  obtain ⟨ss⟩ := b
  rw [Block.decode]
  exact .record fun n hn =>
    .map (.required (stmts (below_of_lt below hn) h) .noFields) rfl

theorem stmt_step {s : Spanned Stmt} (h : (Element.stmt s).AllFit) :
    ReadsBack bound (Stmt.decode bound) s.node.encode s.node := by
  obtain ⟨node, span⟩ := s
  rw [Stmt.decode]
  cases node with
  | localVar name type init =>
      have htype : ∀ t ∈ type, (Element.typeRef t).AllFit := fun t ht =>
        h.child (List.mem_append_left _ (List.mem_map_of_mem (Option.mem_toList.2 ht)))
      have hinit : ∀ e ∈ init, (Element.expr e).AllFit := fun e he =>
        h.child (List.mem_append_right _ (List.mem_map_of_mem (Option.mem_toList.2 he)))
      rw [Stmt.encode, Expr.encodeOption_eq_ofOption]
      exact .content (.inl rfl) fun n hn => .record fun m hm =>
        .map (.required (.string name)
          (.defaulted (TypeRef.readsBack_option htype) Spanned.none_of_optional
            (.defaulted (optionalExpr (below_trans below hn hm) hinit) Spanned.none_of_optional
              .noFields))) rfl
  | expr value =>
      have hvalue : (Element.expr value).AllFit := h.child List.mem_cons_self
      obtain ⟨_, _⟩ := value
      exact .content (.inl rfl) fun n hn =>
        .map (spannedExpr (below_of_lt below hn) hvalue) rfl
  | ret value =>
      have hvalue : ∀ e ∈ value, (Element.expr e).AllFit := fun e he =>
        h.child (List.mem_map_of_mem (Option.mem_toList.2 he))
      rw [Stmt.encode, Expr.encodeOption_eq_ofOption]
      exact .content (.inl rfl) fun n hn =>
        .map (optionalExpr (below_of_lt below hn) hvalue) rfl
  | ifThen condition thenBranch elseBranch =>
      have hcondition : (Element.expr condition).AllFit := h.child List.mem_cons_self
      have hthen : (Element.stmt thenBranch).AllFit :=
        h.child (List.mem_cons_of_mem _ List.mem_cons_self)
      have helse : ∀ s ∈ elseBranch, (Element.stmt s).AllFit := fun s hs =>
        h.child (List.mem_cons_of_mem _ (List.mem_cons_of_mem _
          (List.mem_map_of_mem (Option.mem_toList.2 hs))))
      obtain ⟨_, _⟩ := condition
      obtain ⟨_, _⟩ := thenBranch
      rw [Stmt.encode, Stmt.encodeOption_eq_ofOption]
      exact .content (.inl rfl) fun n hn => .record fun m hm =>
        .map (.required (spannedExpr (below_trans below hn hm) hcondition)
          (.required (spannedStmt (below_trans below hn hm) hthen)
            (.defaulted (optionalStmt (below_trans below hn hm) helse) Spanned.none_of_optional
              .noFields))) rfl
  | whileLoop condition body =>
      have hcondition : (Element.expr condition).AllFit := h.child List.mem_cons_self
      have hbody : (Element.stmt body).AllFit :=
        h.child (List.mem_cons_of_mem _ List.mem_cons_self)
      obtain ⟨_, _⟩ := condition
      obtain ⟨_, _⟩ := body
      exact .content (.inl rfl) fun n hn => .record fun m hm =>
        .map (.required (spannedExpr (below_trans below hn hm) hcondition)
          (.required (spannedStmt (below_trans below hn hm) hbody) .noFields
            (object_not_optional "body" _))) rfl
  | block b =>
      have hstmts : ∀ s ∈ b.stmts, (Element.stmt s).AllFit := fun s hs =>
        h.child (List.mem_map_of_mem hs)
      exact .content (.inl rfl) fun n hn => .map ((below n hn).block hstmts) rfl

end Step

/-- Code is read back up to every bound. -/
theorem all (bound : Nat) : CodeReadsBack bound := by
  induction bound using Nat.strongRecOn with
  | ind bound below =>
      exact ⟨expr_step below, lambdaBody_step below, block_step below, stmt_step below⟩

theorem optionalBlock {b : Option (Spanned Block)} (h : ∀ x ∈ b, (Element.block x).AllFit) :
    ReadsBack bound (optional (Spanned.decode bound fun n _ => Block.decode n))
      (.ofOption Block.encodeSpanned b) b :=
  Spanned.readsBack_option (fun x hx => (h x hx).here) fun x hx n _ =>
    (all n).block fun _ hs => (h x hx).child (List.mem_map_of_mem hs)

end CodeReadsBack

/-! ## Declarations -/

theorem FieldDecl.readsBack {d : FieldDecl} {span : Span}
    (h : (Element.member ⟨.field d, span⟩).AllFit) :
    ReadsBack bound (FieldDecl.decode bound) d.encode d := by
  have htype : (Element.typeRef d.type).AllFit := h.child List.mem_cons_self
  have hinit : ∀ e ∈ d.init, (Element.expr e).AllFit := fun e he =>
    h.child (List.mem_cons_of_mem _ (List.mem_map_of_mem (Option.mem_toList.2 he)))
  rw [FieldDecl.encode, Expr.encodeOption_eq_ofOption]
  exact .record fun n _ => .map
    (.defaulted (.bool d.isStatic) eq_false_of_optional <|
      .required (.string d.name) <|
        .required (TypeRef.readsBack_spanned htype)
          (.defaulted (CodeReadsBack.optionalExpr (fun m _ => .all m) hinit)
            Spanned.none_of_optional .noFields)
          (object_not_optional "ty" _)) rfl

theorem MethodDecl.readsBack {d : MethodDecl} {span : Span}
    (h : (Element.member ⟨.method d, span⟩).AllFit) :
    ReadsBack bound (MethodDecl.decode bound) d.encode d := by
  have hparams : ∀ p ∈ d.params, (Element.param p).AllFit := fun p hp =>
    h.child (List.mem_append_left _ (List.mem_append_left _ (List.mem_map_of_mem hp)))
  have hreturn : ∀ t ∈ d.returnType, (Element.typeRef t).AllFit := fun t ht =>
    h.child (List.mem_append_left _ (List.mem_append_right _
      (List.mem_map_of_mem (Option.mem_toList.2 ht))))
  have hbody : ∀ b ∈ d.body, (Element.block b).AllFit := fun b hb =>
    h.child (List.mem_append_right _ (List.mem_map_of_mem (Option.mem_toList.2 hb)))
  exact .record fun n _ => .map
    (.defaulted (.bool d.isStatic) eq_false_of_optional <|
      .required (.string d.name) <|
        .defaulted (Param.readsBack_list hparams) Spanned.nil_of_optional <|
          .defaulted (TypeRef.readsBack_option hreturn) Spanned.none_of_optional <|
            .defaulted (CodeReadsBack.optionalBlock hbody) Spanned.none_of_optional .noFields) rfl

theorem Member.encodeList_eq_map (ms : List (Spanned Member)) :
    Member.encodeList ms = ms.map fun m => Spanned.encode m.node.encode m.span := by
  induction ms with
  | nil => rfl
  | cons m ms ih => rw [Member.encodeList, ih, List.map_cons]

/-- The members of a type are read back if members are one level below. -/
theorem TypeDecl.readsBack_step {d : TypeDecl}
    (below : ∀ n < bound, ∀ m ∈ d.members, ReadsBack n (Member.decode n) m.node.encode m.node)
    (h : ∀ m ∈ d.members, (Element.member m).AllFit) :
    ReadsBack bound (TypeDecl.decode bound) d.encode d := by
  obtain ⟨kind, name, members⟩ := d
  rw [TypeDecl.decode, TypeDecl.encode, Member.encodeList_eq_map]
  exact .record fun n hn => .map
    (.required (TypeKind.readsBack kind) <|
      .required (.string name) <|
        .defaulted (Spanned.readsBack_list (fun m hm => (h m hm).here) fun m hm k hk =>
          below k (Nat.lt_trans hk hn) m hm) Spanned.nil_of_optional .noFields) rfl

theorem Member.readsBack {m : Spanned Member} (h : (Element.member m).AllFit) :
    ReadsBack bound (Member.decode bound) m.node.encode m.node := by
  induction bound using Nat.strongRecOn generalizing m with
  | ind bound ih =>
      obtain ⟨node, span⟩ := m
      rw [Member.decode]
      cases node with
      | field d => exact .content (.inl rfl) fun _ _ => .map (FieldDecl.readsBack h) rfl
      | method d => exact .content (.inl rfl) fun _ _ => .map (MethodDecl.readsBack h) rfl
      | type d =>
          have hmembers : ∀ m ∈ d.members, (Element.member m).AllFit := fun m hm =>
            h.child (List.mem_map_of_mem hm)
          exact .content (.inl rfl) fun n hn => .map (TypeDecl.readsBack_step
            (fun k hk m hm => ih k (Nat.lt_trans hk hn) (hmembers m hm)) hmembers) rfl

theorem TypeDecl.readsBack {d : Spanned TypeDecl} (h : (Element.typeDecl d).AllFit) :
    ReadsBack bound (TypeDecl.decode bound) d.node.encode d.node := by
  have hmembers : ∀ m ∈ d.node.members, (Element.member m).AllFit := fun m hm =>
    h.child (List.mem_map_of_mem hm)
  exact TypeDecl.readsBack_step (fun n _ m hm => Member.readsBack (hmembers m hm)) hmembers

/-! ## Units -/

namespace CompilationUnit

theorem readsBack {u : CompilationUnit} (h : (Element.unit u).AllFit) :
    ReadsBack bound (CompilationUnit.decode bound) u.encode u := by
  have himports : ∀ d ∈ u.imports, (Element.importDecl d).AllFit := fun d hd =>
    h.child (List.mem_append_left _ (List.mem_map_of_mem hd))
  have htypes : ∀ d ∈ u.types, (Element.typeDecl d).AllFit := fun d hd =>
    h.child (List.mem_append_right _ (List.mem_map_of_mem hd))
  exact .record fun n _ => .map
    (.required (.textAs "path string" u.path) <|
      .defaulted (QualifiedName.readsBack_option u.package)
          (none_of_optional fun _ => object_not_optional _ _) <|
        .defaulted (Spanned.readsBack_list (fun d hd => (himports d hd).here) fun d _ _ _ =>
            ImportDecl.readsBack d.node) Spanned.nil_of_optional <|
          .defaulted (Spanned.readsBack_list (fun d hd => (htypes d hd).here) fun d hd _ _ =>
              TypeDecl.readsBack (htypes d hd)) Spanned.nil_of_optional .noFields) rfl

/-- A unit is read back from its text, and from the text of its JSON form with any optional
fields left out that have their default values. -/
theorem decode_encode {u : CompilationUnit} (h : (Element.unit u).AllFit) :
    (u.encode.depth ≤ depthLimit → decodeText CompilationUnit.decode u.encode.text = .ok u) ∧
      ∀ j, u.encode.Trims j → j.depth ≤ depthLimit →
        decodeText CompilationUnit.decode j.text = .ok u :=
  ⟨fun hdepth => (readsBack h).decodeText (trims_refl u.encode) hdepth,
    fun _ htrims hdepth => (readsBack h).decodeText htrims hdepth⟩

/-- An import and a class with a constructor, which declares a local variable. -/
def sample : CompilationUnit where
  path := "A.src"
  package := none
  imports := [⟨⟨false, ⟨["lib", "List"]⟩, true⟩, ⟨0, 18⟩⟩]
  types := [⟨⟨.classType, "A", [⟨.method ⟨false, "A", [], none,
    some ⟨⟨[⟨.localVar "x" none (some ⟨.literal (.int (-5)), ⟨42, 44⟩⟩), ⟨34, 45⟩⟩]⟩, ⟨32, 47⟩⟩⟩,
    ⟨28, 47⟩⟩]⟩, ⟨19, 49⟩⟩]

theorem allFit_sample : (Element.unit sample).AllFit := by
  have hspan : ∀ {start stop : Nat}, start < 100 → stop < 100 → Span.Fits ⟨start, stop⟩ :=
    fun h g => ⟨Nat.lt_trans h (by decide), Nat.lt_trans g (by decide)⟩
  refine .intro trivial (List.forall_mem_cons.2 ⟨?_, List.forall_mem_singleton.2 ?_⟩)
  · exact .intro (hspan (by decide) (by decide)) (List.forall_mem_nil _)
  · refine .intro (hspan (by decide) (by decide)) (List.forall_mem_singleton.2 ?_)
    refine .intro (hspan (by decide) (by decide)) (List.forall_mem_singleton.2 ?_)
    refine .intro (hspan (by decide) (by decide)) (List.forall_mem_singleton.2 ?_)
    refine .intro (hspan (by decide) (by decide)) (List.forall_mem_singleton.2 ?_)
    exact .intro ⟨hspan (by decide) (by decide), by decide, by decide⟩ (List.forall_mem_nil _)

/-- The JSON form of the sample with as little written out as can be. -/
def sampleTrimmed : Json :=
  .object [("path", .str "A.src"),
    ("imports", .array [Spanned.encode (.object
      [("name", QualifiedName.encode ⟨["lib", "List"]⟩), ("wildcard", .bool true)]) ⟨0, 18⟩]),
    ("types", .array [Spanned.encode (.object
      [("kind", .str "Class"), ("name", .str "A"),
        ("members", .array [Spanned.encode (.variant "Method" (.object
          [("name", .str "A"), ("body", Spanned.encode (.object
            [("stmts", .array [Spanned.encode (.variant "Local" (.object
              [("name", .str "x"),
                ("init", Spanned.encode (Expr.literal (.int (-5))).encode ⟨42, 44⟩)]))
              ⟨34, 45⟩])]) ⟨32, 47⟩)])) ⟨28, 47⟩])]) ⟨19, 49⟩])]

theorem trims_sample : sample.encode.Trims sampleTrimmed := by
  have hspanned : ∀ {v j : Json} {span : Span},
      v.Trims j → (Spanned.encode v span).Trims (Spanned.encode j span) :=
    fun h => .object (.keep h (.keep (trims_refl _) .nil))
  have hvariant : ∀ {name : String} {v j : Json},
      v.Trims j → (Json.variant name v).Trims (.variant name j) :=
    fun h => .object (.keep h .nil)
  have hlocal : ((Stmt.localVar "x" none
      (some ⟨.literal (.int (-5)), ⟨42, 44⟩⟩)).encode).Trims (.variant "Local" (.object
        [("name", .str "x"),
          ("init", Spanned.encode (Expr.literal (.int (-5))).encode ⟨42, 44⟩)])) :=
    hvariant (.object (.keep (.str "x") (.drop (by simp [optionalFields, Json.ofOption])
      (trimsMembers_refl _))))
  refine .object (.keep (.str "A.src") (.drop (by simp [sample, optionalFields, Json.ofOption]) ?_))
  refine .keep (.array (.cons (hspanned (.object ?_)) .nil)) ?_
  · exact .drop (by simp [optionalFields]) (trimsMembers_refl _)
  · refine .keep (.array (.cons (hspanned (.object ?_)) .nil)) .nil
    refine .keep (.str "Class") (.keep (.str "A") (.keep (.array (.cons (hspanned ?_) .nil)) .nil))
    refine hvariant (.object (.drop (by simp [optionalFields]) (.keep (.str "A") ?_)))
    refine .drop (by simp [optionalFields]) (.drop (by simp [optionalFields, Json.ofOption]) ?_)
    refine .keep (hspanned (.object (.keep (.array ?_) .nil))) .nil
    exact .cons (hspanned hlocal) .nil

/-- The sample is read back from the least text. -/
theorem sample_reads_back : (Element.unit sample).AllFit ∧ sample.encode.Trims sampleTrimmed ∧
    sample.encode.depth ≤ depthLimit ∧ sampleTrimmed.depth ≤ depthLimit ∧
    decodeText CompilationUnit.decode sample.encode.text = .ok sample ∧
    decodeText CompilationUnit.decode sampleTrimmed.text = .ok sample := by
  have hdepth : sample.encode.depth ≤ depthLimit := by decide
  have hdepth' : sampleTrimmed.depth ≤ depthLimit := by decide
  obtain ⟨hfull, htrimmed⟩ := decode_encode allFit_sample
  exact ⟨allFit_sample, trims_sample, hdepth, hdepth', hfull hdepth,
    htrimmed sampleTrimmed trims_sample hdepth'⟩

end CompilationUnit

end TreeScan

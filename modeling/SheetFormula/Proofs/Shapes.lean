import SheetFormula.Proofs.Precedence
/-!
The shapes of parsed trees, checked node by node by a computable test: chains, empty items,
unions, sheet and table references and truth values stand only where the grammar puts them.
-/

namespace SheetFormula

namespace Expr

def stepsShaped : List (StepKind × Expr) → Bool
  | [(.subtract, _)] | [(.percent, _)] => true
  | (.start, _) :: (k, _) :: steps =>
    k.level?.isSome && steps.all fun s => s.1.level? == k.level?
  | _ => false

def standsAlone : Expr → Bool
  | .empty | .union _ => false
  | _ => true

def admitsEmpty : Expr → Bool
  | .bracketed _ | .structured _ | .union _ => true
  | .call _ args => decide (2 ≤ args.length)
  | _ => false

def admits (n c : Expr) : Bool :=
  match c with
  | .empty => n.admitsEmpty
  | .union _ => (n matches .structured _)
  | _ => true

def ownShaped : Expr → Bool
  | .chain steps => stepsShaped steps
  | .union es => decide (2 ≤ es.length)
  | .sheetRef s _ => (s matches .cell _)
  | .tableRef _ r => (r matches .structured _)
  | .cell name => name != "TRUE" && name != "FALSE"
  | _ => true

def shaped (n : Expr) : Bool :=
  n.ownShaped && n.children.all n.admits

/-- Every node of the tree has a shape that the parser builds. -/
def Shaped (e : Expr) : Prop :=
  ∀ n ∈ e.walk, n.shaped

example : (chain [(.start, cell "A1"), (.add, cell "B1"), (.subtract, number ⟨false, .finite 1 0⟩)]).shaped ∧
    !(chain [(.start, cell "A1"), (.add, cell "B1"), (.multiply, cell "C1")]).shaped ∧
    (call "SUM" [empty, empty]).shaped ∧ !(call "SUM" [empty]).shaped ∧
    !(bracketed (union [cell "A1", cell "B1"])).shaped := by decide

lemma admits_of_standsAlone (n : Expr) {c : Expr} (h : c.standsAlone) : n.admits c := by
  cases c <;> simp_all [standsAlone, admits]

lemma shaped_iff {e : Expr} : e.Shaped ↔ e.shaped ∧ ∀ c ∈ e.children, c.Shaped :=
  forall_mem_walk_iff

lemma shaped_node {n : Expr} (hown : n.ownShaped) (hc : ∀ c ∈ n.children, c.Shaped ∧ c.standsAlone) :
    n.Shaped := by
  refine shaped_iff.2 ⟨?_, fun c h => (hc c h).1⟩
  simp only [shaped, hown, Bool.true_and, List.all_eq_true]
  exact fun c h => admits_of_standsAlone n (hc c h).2

lemma shaped_of_children_nil {n : Expr} (hown : n.ownShaped) (hnil : n.children = []) :
    n.Shaped :=
  shaped_node hown (by simp [hnil])

lemma admits_of_item {n c : Expr} (hn : n.admitsEmpty) (hc : c = .empty ∨ c.standsAlone) :
    n.admits c := by
  rcases hc with rfl | hc
  · exact hn
  · exact admits_of_standsAlone n hc

lemma empty_shaped : empty.Shaped :=
  shaped_of_children_nil rfl rfl

lemma stepsShaped_start {p : Nat} (x : Expr) {steps : List (StepKind × Expr)} (hne : steps ≠ [])
    (hl : ∀ s ∈ steps, s.1.level? = some p) : stepsShaped ((.start, x) :: steps) := by
  obtain ⟨⟨k, y⟩, steps, rfl⟩ := List.exists_cons_of_ne_nil hne
  have hk : k.level? = some p := hl _ List.mem_cons_self
  simp only [stepsShaped, hk, Option.isSome_some, Bool.true_and, List.all_eq_true, beq_iff_eq]
  exact fun s hs => hl s (List.mem_cons_of_mem _ hs)

lemma shaped_nameValue (n : String) :
    (Parse.nameValue n).Shaped ∧ (Parse.nameValue n).standsAlone := by
  unfold Parse.nameValue
  split
  · exact ⟨shaped_of_children_nil rfl rfl, rfl⟩
  · split
    · exact ⟨shaped_of_children_nil rfl rfl, rfl⟩
    · refine ⟨shaped_of_children_nil ?_ rfl, rfl⟩
      simp_all [ownShaped]

lemma shaped_bracketed {x : Expr} (hx : x.Shaped) (hi : x = .empty ∨ x.standsAlone) :
    (bracketed x).Shaped :=
  shaped_iff.2 ⟨by simp [shaped, ownShaped, children, admits_of_item (n := bracketed x) rfl hi],
    by simp [children, hx]⟩

lemma shaped_call {n : String} {args : List Expr}
    (ha : ∀ e ∈ args, e.Shaped ∧ (e = .empty ∨ e.standsAlone))
    (h1 : ∀ x, args = [x] → x.standsAlone) : (call n args).Shaped := by
  refine shaped_iff.2 ⟨?_, fun c hc => (ha c hc).1⟩
  simp only [shaped, ownShaped, children, Bool.true_and, List.all_eq_true]
  intro e he
  rcases (ha e he).2 with rfl | hs
  · simp only [admits, admitsEmpty, decide_eq_true_eq]
    match args, he with
    | [_], he =>
      rw [List.mem_singleton] at he
      subst he
      cases h1 _ rfl
    | _ :: _ :: _, _ => simp
  · exact admits_of_standsAlone _ hs

lemma structuredOf_eq (es : List Expr) : ∃ i, Parse.structuredOf es = .structured i := by
  unfold Parse.structuredOf
  split <;> exact ⟨_, rfl⟩

lemma shaped_structuredOf {es : List Expr}
    (ha : ∀ e ∈ es, e.Shaped ∧ (e = .empty ∨ e.standsAlone)) :
    (Parse.structuredOf es).Shaped ∧ (Parse.structuredOf es).standsAlone := by
  obtain ⟨i, hi⟩ := structuredOf_eq es
  refine ⟨?_, by rw [hi]; rfl⟩
  match es, ha with
  | [], _ => exact shaped_iff.2 ⟨rfl, by simp [Parse.structuredOf, children, empty_shaped]⟩
  | [e], ha =>
    have he := ha e List.mem_cons_self
    exact shaped_iff.2 ⟨by simp [Parse.structuredOf, shaped, ownShaped, children,
      admits_of_item (n := structured e) rfl he.2], by simp [Parse.structuredOf, children, he.1]⟩
  | e :: e' :: es, ha =>
    have hu : (union (e :: e' :: es)).Shaped := by
      refine shaped_iff.2 ⟨?_, fun c hc => (ha c hc).1⟩
      simp only [shaped, ownShaped, children, List.length_cons, Nat.le_add_left, decide_true,
        Bool.true_and, List.all_eq_true]
      exact fun c hc => admits_of_item (n := union (e :: e' :: es)) rfl (ha c hc).2
    exact shaped_iff.2 ⟨by simp [Parse.structuredOf, shaped, ownShaped, children, admits],
      by simp [Parse.structuredOf, children, hu]⟩

lemma shaped_fold {pending : List (Joint × Expr)} {y : Expr}
    (hp : ∀ q ∈ pending, q.2.Shaped ∧ q.2.standsAlone) (hy : y.Shaped ∧ y.standsAlone) :
    (Joint.fold pending y).Shaped ∧ (Joint.fold pending y).standsAlone := by
  induction pending generalizing y with
  | nil => exact hy
  | cons q pending ih =>
    obtain ⟨j, e⟩ := q
    rw [Joint.fold, List.foldl_cons, ← Joint.fold]
    refine ih (fun q hq => hp q (List.mem_cons_of_mem _ hq)) ?_
    have he := hp _ List.mem_cons_self
    cases j <;> exact ⟨shaped_node rfl (by simp [Joint.build, children, he, hy]), rfl⟩

structure ShapedSteps (p : Nat) (steps : List (StepKind × Expr)) : Prop where
  first : ∃ x later, steps = later ++ [(.start, x)] ∧ ∀ s ∈ later, s.1.level? = some p
  operands : ∀ s ∈ steps, s.2.Shaped ∧ s.2.standsAlone

lemma ShapedSteps.cons {p : Nat} {steps : List (StepKind × Expr)} (hs : ShapedSteps p steps)
    {k : StepKind} {z : Expr} (hk : k.level? = some p) (hz : z.Shaped ∧ z.standsAlone) :
    ShapedSteps p ((k, z) :: steps) := by
  obtain ⟨x, later, rfl, hl⟩ := hs.first
  refine ⟨⟨x, (k, z) :: later, rfl, ?_⟩, ?_⟩
  · simpa [hk] using hl
  · simpa [hz] using hs.operands

lemma ShapedSteps.close {p : Nat} {steps : List (StepKind × Expr)} (hs : ShapedSteps p steps)
    {k : StepKind} {z : Expr} (hk : k.level? = some p) (hz : z.Shaped ∧ z.standsAlone) :
    (chain ((k, z) :: steps).reverse).Shaped ∧ (chain ((k, z) :: steps).reverse).standsAlone := by
  have ho := (hs.cons hk hz).operands
  obtain ⟨x, later, rfl, hl⟩ := hs.first
  have hrev : ((k, z) :: (later ++ [(.start, x)])).reverse =
      (.start, x) :: (later.reverse ++ [(k, z)]) := by simp
  refine ⟨shaped_node ?_ ?_, rfl⟩
  · rw [hrev]
    refine stepsShaped_start (p := p) x (by simp) fun s hs' => ?_
    simp only [List.mem_append, List.mem_reverse, List.mem_singleton] at hs'
    rcases hs' with hs' | rfl
    · exact hl s hs'
    · exact hk
  · intro c hc
    simp only [children, List.map_reverse, List.mem_reverse, List.mem_map] at hc
    obtain ⟨s, hs', rfl⟩ := hc
    exact ho s hs'

end Expr

lemma Parse.listItems_eq_singleton {filled : Bool} {acc : List Expr} {x : Expr}
    (h : Parse.listItems filled acc = [x]) : filled = true ∧ acc = [x] := by
  unfold Parse.listItems at h
  split at h
  · cases h
  · cases filled
    · rename_i hne
      cases acc with
      | nil => exact absurd rfl hne
      | cons a acc =>
        have := congrArg List.length h
        simp at this
    · simpa using h

namespace Grammar

open SheetFormula.Expr

mutual

lemma Primary.shaped {ts : List Token} {x : Expr} {rest : List Token} (h : Primary ts x rest) :
    x.Shaped ∧ x.standsAlone :=
  match h with
  | .name _ ha => ha.shaped
  | .string _ | .error _ | .number _ | .negative _ _ => ⟨shaped_of_children_nil rfl rfl, rfl⟩
  | .paren _ hx => ⟨shaped_bracketed hx.shaped.1 hx.shaped.2, rfl⟩
  | .bracket _ hi => shaped_structuredOf (hi.shaped (by simp) (by simp)).1

lemma Operand.shaped {ts : List Token} {x : Expr} {rest : List Token} (h : Operand ts x rest) :
    x.Shaped ∧ x.standsAlone :=
  match h with
  | .primary hp => hp.shaped
  | .negation _ _ hx => ⟨shaped_node rfl (by simp [children, hx.shaped]), rfl⟩

lemma Terms.shaped {ts : List Token} {x : Expr} {rest : List Token} (h : Terms ts x rest) :
    x.Shaped ∧ x.standsAlone :=
  match h with
  | .mk hx hafter => hafter.shaped (by simp) hx.shaped

lemma TermsAfter.shaped {pending : List (Joint × Expr)} {x : Expr} {ts : List Token} {y : Expr}
    {rest : List Token} (h : TermsAfter pending x ts y rest)
    (hp : ∀ q ∈ pending, q.2.Shaped ∧ q.2.standsAlone) (hx : x.Shaped ∧ x.standsAlone) :
    y.Shaped ∧ y.standsAlone :=
  match h, hp, hx with
  | .last hj _ _, hp, hx => shaped_fold hp (hj.shaped hx)
  | .concat hj _ hz hv, hp, hx =>
    hv.shaped (List.forall_mem_cons.2 ⟨hj.shaped hx, hp⟩) hz.shaped
  | .intersection hj _ hz hv, hp, hx =>
    hv.shaped (List.forall_mem_cons.2 ⟨hj.shaped hx, hp⟩) hz.shaped

lemma AfterName.shaped {n : String} {ts : List Token} {x : Expr} {rest : List Token}
    (h : AfterName n ts x rest) : x.Shaped ∧ x.standsAlone :=
  match h with
  | .call _ hi =>
    have hi := hi.shaped (by simp) (by simp)
    ⟨shaped_call hi.1 hi.2, rfl⟩
  | .sheet hT hF _ hx =>
    have hc : (cell n).Shaped := shaped_of_children_nil (by simp [ownShaped, hT, hF]) rfl
    ⟨shaped_node rfl (List.forall_mem_cons.2 ⟨⟨hc, rfl⟩, List.forall_mem_singleton.2 hx.shaped⟩), rfl⟩
  | .table _ _ _ hi =>
    have hs := shaped_structuredOf (hi.shaped (by simp) (by simp)).1
    ⟨shaped_node (by obtain ⟨i, hi⟩ := structuredOf_eq ‹_›; simp [ownShaped, hi])
      (by simp [children, hs]), rfl⟩
  | .value _ => shaped_nameValue n

lemma Parens.shaped {ts : List Token} {x : Expr} {rest : List Token} (h : Parens ts x rest) :
    x.Shaped ∧ (x = .empty ∨ x.standsAlone) :=
  match h with
  | .empty _ => ⟨empty_shaped, .inl rfl⟩
  | .inner hx _ => ⟨hx.shaped.1, .inr hx.shaped.2⟩

lemma Items.shaped {close : Symbol} {filled : Bool} {acc : List Expr} {ts : List Token}
    {es : List Expr} {rest : List Token} (h : Items close filled acc ts es rest)
    (hacc : ∀ e ∈ acc, e.Shaped ∧ (e = .empty ∨ e.standsAlone))
    (hfill : filled = true → ∀ x ∈ acc.head?, x.standsAlone) :
    (∀ e ∈ es, e.Shaped ∧ (e = .empty ∨ e.standsAlone)) ∧ ∀ x, es = [x] → x.standsAlone :=
  match h, hacc, hfill with
  | .comma _ hi, hacc, _ => hi.shaped (by
      split
      · exact hacc
      · exact List.forall_mem_cons.2 ⟨⟨empty_shaped, .inl rfl⟩, hacc⟩) (by simp)
  | .close _ _, hacc, hfill => by
    refine ⟨fun e he => ?_, fun x hx => ?_⟩
    · rcases Parse.mem_listItems he with he | rfl
      · exact hacc e he
      · exact ⟨empty_shaped, .inl rfl⟩
    · obtain ⟨hf, rfl⟩ := Parse.listItems_eq_singleton hx
      exact hfill hf x rfl
  | .item _ _ hx hi, hacc, _ =>
    hi.shaped (List.forall_mem_cons.2 ⟨⟨hx.shaped.1, .inr hx.shaped.2⟩, hacc⟩)
      fun _ => by simp [hx.shaped.2]

lemma Joins.shaped {takes : Join → Bool} {x : Expr} {ts : List Token} {y : Expr}
    {rest : List Token} (h : Joins takes x ts y rest) (hx : x.Shaped ∧ x.standsAlone) :
    y.Shaped ∧ y.standsAlone :=
  match h, hx with
  | .stop _, hx => hx
  | .step _ _ he hz, hx => hz.shaped (he.shaped hx)

lemma Extend.shaped {x : Expr} {j : Join} {ts : List Token} {y : Expr} {rest : List Token}
    (h : Extend x j ts y rest) (hx : x.Shaped ∧ x.standsAlone) : y.Shaped ∧ y.standsAlone :=
  match h, hx with
  | .range hy, hx => ⟨shaped_node rfl (by simp [children, hx, hy.shaped]), rfl⟩
  | .arith ha, hx => ha.shaped ⟨⟨_, [], rfl, by simp⟩, by simp [hx]⟩
  | .concat hy, hx => ⟨shaped_node rfl (by simp [children, hx, hy.shaped]), rfl⟩
  | .percent, hx => ⟨shaped_node rfl (by simp [children, hx]), rfl⟩
  | .compare hy hz, hx =>
    have hz := hz.shaped hy.shaped
    ⟨shaped_node rfl (by simp [children, hx, hz]), rfl⟩

lemma Arith.shaped {steps : List (StepKind × Expr)} {op : ArithOp} {ts : List Token} {y : Expr}
    {rest : List Token} (h : Arith steps op ts y rest) (hs : ShapedSteps op.precedence steps) :
    y.Shaped ∧ y.standsAlone :=
  match h, hs with
  | .last hy hz _, hs => hs.close (ArithOp.level?_step op) (hz.shaped hy.shaped)
  | .more hy hz _ hprec hv, hs => hv.shaped (by
      rw [hprec]
      exact hs.cons (ArithOp.level?_step op) (hz.shaped hy.shaped))

end

end Grammar

theorem shaped_of_parse {s : TokenStream} {e : Expr} (h : s.parse = .ok (some e)) :
    e.standsAlone ∧ ∀ n ∈ e.walk, n.shaped :=
  have he := (Grammar.derives_of_parse h).shaped
  ⟨he.2, he.1⟩

theorem shaped_of_parse_call :
    (TokenStream.ofList [⟨.name "SUM", 0, 3⟩, ⟨.symbol .openParen, 3, 4⟩, ⟨.name "A1", 4, 6⟩,
        ⟨.symbol .comma, 6, 7⟩, ⟨.symbol .closeParen, 7, 8⟩]).parse =
        .ok (some (.call "SUM" [.cell "A1", .empty])) ∧
      (Expr.call "SUM" [.cell "A1", .empty]).standsAlone ∧
      ∀ n ∈ (Expr.call "SUM" [.cell "A1", .empty]).walk, n.shaped := by
  have h : (TokenStream.ofList [⟨.name "SUM", 0, 3⟩, ⟨.symbol .openParen, 3, 4⟩,
      ⟨.name "A1", 4, 6⟩, ⟨.symbol .comma, 6, 7⟩, ⟨.symbol .closeParen, 7, 8⟩]).parse =
      .ok (some (.call "SUM" [.cell "A1", .empty])) := by
    cbv
  exact ⟨h, shaped_of_parse h⟩

end SheetFormula

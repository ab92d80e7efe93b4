import SheetFormula.Proofs.Grammar
import SheetFormula.Proofs.Traversal
/-!
Parsed trees respect the precedence table: the operands of a binary chain are tight or bind
strictly tighter, and the operands of percent, negation, ranges and sheet references are of the
kinds the grammar allows there.
-/

namespace SheetFormula

def StepKind.level? : StepKind → Option Nat
  | .add | .subtract => some 10
  | .multiply | .divide => some 20
  | .power => some 30
  | .start | .percent => none

lemma ArithOp.level?_step (op : ArithOp) : op.step.level? = some op.precedence := by
  cases op <;> rfl

lemma StepKind.level?_le {k : StepKind} {p : Nat} (h : k.level? = some p) : 10 ≤ p ∧ p ≤ 30 := by
  cases k <;> simp_all [StepKind.level?] <;> omega

namespace Expr

def binaryLevel? : Expr → Option Nat
  | .chain ((.start, _) :: (k, _) :: steps) =>
    match k.level? with
    | some p => if steps.all (·.1.level? = some p) then some p else none
    | none => none
  | _ => none

def isTight (e : Expr) : Bool :=
  e.binaryLevel?.isNone && match e with
    | .compare .. | .concat .. | .intersection .. => false
    | _ => true

def isPrimary : Expr → Bool
  | .string _ | .error _ | .number _ | .bool _ | .cell _ | .call .. | .sheetRef .. | .tableRef ..
  | .bracketed _ | .structured _ => true
  | _ => false

def isNegation : Expr → Bool
  | .chain [(.subtract, _)] => true
  | _ => false

/-- A node holds no operand that binds more loosely than its own operator. -/
structure RespectsPrecedence (n : Expr) : Prop where
  start : ∀ x steps, n = .chain ((.start, x) :: steps) → n.binaryLevel?.isSome
  binary : ∀ p, n.binaryLevel? = some p →
    ∀ o ∈ n.children, o.isTight ∨ ∃ q, o.binaryLevel? = some q ∧ p < q
  percent : ∀ x, n = .chain [(.percent, x)] → x.isTight
  range : ∀ l r, n = .range l r → l.isTight ∧ r.isPrimary
  sheet : ∀ s r, n = .sheetRef s r → r.isPrimary
  negation : ∀ x, n = .chain [(.subtract, x)] → x.isPrimary ∨ x.isNegation

lemma binaryLevel?_le {e : Expr} {p : Nat} (h : e.binaryLevel? = some p) : 10 ≤ p ∧ p ≤ 30 := by
  unfold binaryLevel? at h
  split at h
  · split at h
    · split at h
      · cases h
        exact StepKind.level?_le ‹_›
      · cases h
    · cases h
  · cases h

lemma binaryLevel?_chain {x : Expr} {steps : List (StepKind × Expr)} {p : Nat} (hne : steps ≠ [])
    (hl : ∀ s ∈ steps, s.1.level? = some p) : (chain ((.start, x) :: steps)).binaryLevel? = some p := by
  obtain ⟨⟨k, y⟩, steps, rfl⟩ := List.exists_cons_of_ne_nil hne
  have hk : k.level? = some p := hl _ List.mem_cons_self
  simp only [binaryLevel?, hk, List.all_eq_true, decide_eq_true_eq]
  rw [if_pos fun s hs => hl s (List.mem_cons_of_mem _ hs)]

lemma binaryLevel?_eq_none_of_not_chain {e : Expr} (h : ∀ steps, e ≠ .chain steps) :
    e.binaryLevel? = none := by
  unfold binaryLevel?
  split
  · exact absurd rfl (h _)
  · rfl

lemma isTight_of_isPrimary {e : Expr} (h : e.isPrimary) : e.isTight := by
  cases e <;> simp_all [isPrimary, isTight, binaryLevel?]

lemma isTight_of_isNegation {e : Expr} (h : e.isNegation) : e.isTight := by
  unfold isNegation at h
  split at h
  · simp [isTight, binaryLevel?]
  · cases h

def strength (e : Expr) : Nat :=
  match e.binaryLevel? with
  | some p => p
  | none =>
    match e with
    | .compare .. | .intersection .. => 0
    | .concat .. => 1
    | _ => 1000

lemma strength_of_isTight {e : Expr} (h : e.isTight) : e.strength = 1000 := by
  unfold isTight at h
  unfold strength
  rw [Bool.and_eq_true, Option.isNone_iff_eq_none] at h
  rw [h.1]
  split at h <;> simp_all

lemma strength_of_binaryLevel? {e : Expr} {p : Nat} (h : e.binaryLevel? = some p) :
    e.strength = p := by
  simp [strength, h]

lemma tight_or_binary_of_lt_strength {e : Expr} {p : Nat} (hp : 10 ≤ p) (h : p < e.strength) :
    e.isTight ∨ ∃ q, e.binaryLevel? = some q ∧ p < q := by
  cases hb : e.binaryLevel? with
  | some q => exact .inr ⟨q, rfl, by rwa [strength_of_binaryLevel? hb] at h⟩
  | none =>
    left
    simp only [strength, hb] at h
    simp only [isTight, hb, Option.isNone_none, Bool.true_and]
    split at h
    case h_1 | h_2 | h_3 => omega
    case h_4 => split <;> simp_all

lemma isTight_of_lt_strength {e : Expr} (h : 30 < e.strength) : e.isTight := by
  rcases tight_or_binary_of_lt_strength (by omega) h with ht | ⟨q, hq, _⟩
  · exact ht
  · have := binaryLevel?_le hq
    rw [strength_of_binaryLevel? hq] at h
    omega

lemma RespectsPrecedence.of_plain {n : Expr} (hc : ∀ steps, n ≠ .chain steps)
    (hr : ∀ l r, n ≠ .range l r) (hs : ∀ s r, n ≠ .sheetRef s r) : n.RespectsPrecedence where
  start x steps h := absurd h (hc _)
  binary p h := by rw [binaryLevel?_eq_none_of_not_chain hc] at h; cases h
  percent x h := absurd h (hc _)
  range l r h := absurd h (hr l r)
  sheet s r h := absurd h (hs s r)
  negation x h := absurd h (hc _)

/-- Every node of the tree respects precedence. -/
def Ordered (e : Expr) : Prop :=
  ∀ n ∈ e.walk, n.RespectsPrecedence

lemma walk_eq_cons (e : Expr) : e.walk = e :: e.children.flatMap walk := by
  have h : walk = Branching.all.preorder := funext fun c => by
    simp [walk, Branching.depthFirst_eq_flatMap]
  rw [h, Branching.preorder]
  rfl

lemma forall_mem_walk_iff {P : Expr → Prop} {e : Expr} :
    (∀ n ∈ e.walk, P n) ↔ P e ∧ ∀ c ∈ e.children, ∀ n ∈ c.walk, P n := by
  rw [walk_eq_cons]
  simp only [List.mem_cons, List.mem_flatMap, forall_eq_or_imp]
  exact and_congr_right fun _ =>
    ⟨fun h c hc n hn => h n ⟨c, hc, hn⟩, fun h n ⟨c, hc, hn⟩ => h c hc n hn⟩

lemma ordered_iff {e : Expr} : e.Ordered ↔ e.RespectsPrecedence ∧ ∀ c ∈ e.children, c.Ordered :=
  forall_mem_walk_iff

lemma Ordered.intro {e : Expr} (hr : e.RespectsPrecedence) (hc : ∀ c ∈ e.children, c.Ordered) :
    e.Ordered :=
  ordered_iff.2 ⟨hr, hc⟩

lemma Ordered.of_plain {e : Expr} (hc : ∀ steps, e ≠ .chain steps) (hr : ∀ l r, e ≠ .range l r)
    (hs : ∀ s r, e ≠ .sheetRef s r) (hch : ∀ c ∈ e.children, c.Ordered) : e.Ordered :=
  .intro (.of_plain hc hr hs) hch

lemma ordered_of_children_nil {e : Expr} (hc : ∀ steps, e ≠ .chain steps)
    (hr : ∀ l r, e ≠ .range l r) (hs : ∀ s r, e ≠ .sheetRef s r) (hnil : e.children = []) :
    e.Ordered :=
  .of_plain hc hr hs (by simp [hnil])

lemma ordered_range {l r : Expr} (hl : l.Ordered) (hr : r.Ordered) (ht : l.isTight)
    (hp : r.isPrimary) : (range l r).Ordered := by
  refine .intro ⟨?_, ?_, ?_, ?_, ?_, ?_⟩ ?_
  · simp
  · simp [binaryLevel?]
  · simp
  · intro l' r' h
    cases h
    exact ⟨ht, hp⟩
  · simp
  · simp
  · simp [children, hl, hr]

lemma ordered_sheetRef {s r : Expr} (hs : s.Ordered) (hr : r.Ordered) (hp : r.isPrimary) :
    (sheetRef s r).Ordered := by
  refine .intro ⟨?_, ?_, ?_, ?_, ?_, ?_⟩ ?_
  · simp
  · simp [binaryLevel?]
  · simp
  · simp
  · intro s' r' h
    cases h
    exact hp
  · simp
  · simp [children, hs, hr]

lemma ordered_percent {x : Expr} (hx : x.Ordered) (ht : x.isTight) :
    (chain [(.percent, x)]).Ordered := by
  refine .intro ⟨?_, ?_, ?_, ?_, ?_, ?_⟩ ?_
  · simp
  · simp [binaryLevel?]
  · intro x' h
    cases h
    exact ht
  · simp
  · simp
  · simp
  · simp [children, hx]

lemma ordered_negation {x : Expr} (hx : x.Ordered) (h : x.isPrimary ∨ x.isNegation) :
    (chain [(.subtract, x)]).Ordered := by
  refine .intro ⟨?_, ?_, ?_, ?_, ?_, ?_⟩ ?_
  · simp
  · simp [binaryLevel?]
  · simp
  · simp
  · simp
  · intro x' h'
    cases h'
    exact h
  · simp [children, hx]

lemma ordered_chain {p : Nat} {x : Expr} {steps : List (StepKind × Expr)} (hp : 10 ≤ p)
    (hne : steps ≠ []) (hl : ∀ s ∈ steps, s.1.level? = some p)
    (hops : ∀ o ∈ x :: steps.map Prod.snd, o.Ordered ∧ p < o.strength) :
    (chain ((.start, x) :: steps)).Ordered ∧ (chain ((.start, x) :: steps)).strength = p := by
  have hb := binaryLevel?_chain (x := x) hne hl
  refine ⟨.intro ⟨?_, ?_, ?_, ?_, ?_, ?_⟩ ?_, strength_of_binaryLevel? hb⟩
  · simp [hb]
  · intro q hq o ho
    rw [hb] at hq
    cases hq
    exact tight_or_binary_of_lt_strength hp (hops o (by simpa [children] using ho)).2
  · simp
  · simp
  · simp
  · simp
  · intro o ho
    exact (hops o (by simpa [children] using ho)).1

lemma ordered_fold {pending : List (Joint × Expr)} {y : Expr} (hp : ∀ q ∈ pending, q.2.Ordered)
    (hy : y.Ordered) : (Joint.fold pending y).Ordered := by
  induction pending generalizing y with
  | nil => exact hy
  | cons q pending ih =>
    obtain ⟨j, e⟩ := q
    rw [Joint.fold, List.foldl_cons, ← Joint.fold]
    refine ih (fun q hq => hp q (List.mem_cons_of_mem _ hq)) ?_
    have he : e.Ordered := hp _ List.mem_cons_self
    cases j <;> exact .of_plain (by simp [Joint.build]) (by simp [Joint.build])
      (by simp [Joint.build]) (by simp [Joint.build, children, he, hy])

end Expr

lemma Parse.mem_listItems {filled : Bool} {acc : List Expr} {e : Expr}
    (h : e ∈ Parse.listItems filled acc) : e ∈ acc ∨ e = .empty := by
  unfold Parse.listItems at h
  split at h
  · simp at h
  · split at h <;> simp only [List.mem_reverse, List.mem_cons] at h
    · exact .inl h
    · exact h.symm

lemma Join.precedence_le (j : Join) : j.precedence ≤ 400 := by
  cases j with
  | arith op => cases op <;> simp [Join.precedence, ArithOp.precedence]
  | _ => simp [Join.precedence]

namespace Expr

lemma isTight_of_operand {x : Expr} (h : x.isPrimary ∨ x.isNegation) : x.isTight :=
  h.elim isTight_of_isPrimary isTight_of_isNegation

lemma ordered_nameValue (n : String) :
    (Parse.nameValue n).Ordered ∧ (Parse.nameValue n).isPrimary := by
  unfold Parse.nameValue
  split
  · exact ⟨ordered_of_children_nil (by simp) (by simp) (by simp) rfl, rfl⟩
  · split <;> exact ⟨ordered_of_children_nil (by simp) (by simp) (by simp) rfl, rfl⟩

lemma ordered_structuredOf {es : List Expr} (h : ∀ e ∈ es, e.Ordered) :
    (Parse.structuredOf es).Ordered ∧ (Parse.structuredOf es).isPrimary := by
  have hempty : Expr.empty.Ordered := ordered_of_children_nil (by simp) (by simp) (by simp) rfl
  refine ⟨?_, by unfold Parse.structuredOf; split <;> rfl⟩
  unfold Parse.structuredOf
  split
  · exact .of_plain (by simp) (by simp) (by simp) (by simp [children, hempty])
  · exact .of_plain (by simp) (by simp) (by simp) (by simp_all [children])
  · refine .of_plain (by simp) (by simp) (by simp) ?_
    simp only [children, List.mem_cons, List.not_mem_nil, or_false, forall_eq]
    exact .of_plain (by simp) (by simp) (by simp) (by simpa [children] using h)

end Expr

namespace Grammar

open SheetFormula.Expr

def LeftOK (x : Expr) (j : Join) : Prop :=
  j.precedence < x.strength ∨ j.precedence ≤ 1

def Follows (x : Expr) (ts : List Token) : Prop :=
  ∀ t ∈ ts.head?, ∀ j, t.join? = some j → LeftOK x j

lemma follows_of_isTight {x : Expr} {ts : List Token} (h : x.isTight) : Follows x ts :=
  fun _ _ j _ => .inl (by rw [strength_of_isTight h]; have := j.precedence_le; omega)

lemma follows_of_chain_end {y : Expr} {p : Nat} {rest : List Token} (hp : p ≤ 30)
    (hy : y.strength = p) (hend : JoinsEnd (absorbs p) rest)
    (hnext : ∀ u ∈ rest.head?, ∀ next, u.lexeme = .symbol (.arith next) → next.precedence ≠ p) :
    Follows y rest := by
  intro t ht j hj
  have hle : j.precedence ≤ p := by simpa [absorbs] using hend t ht j hj
  unfold LeftOK
  rw [hy]
  cases j with
  | arith op =>
    have hne := hnext t ht op (by simpa [Join.symbol] using Token.lexeme_of_join? hj)
    simp only [Join.precedence] at hle ⊢
    omega
  | range => simp only [Join.precedence] at hle; omega
  | percent => simp only [Join.precedence] at hle; omega
  | concat => exact .inr (by simp [Join.precedence])
  | compare => exact .inr (by simp [Join.precedence])

lemma lt_strength_of_joined {p : Nat} {y z : Expr} (hp : p ≤ 30) (hy : y.isTight)
    (h : z = y ∨ ∃ j, absorbs p j = true ∧ j.precedence ≤ z.strength) : p < z.strength := by
  rcases h with rfl | ⟨j, hj, hle⟩
  · rw [strength_of_isTight hy]
    omega
  · simp only [absorbs, decide_eq_true_eq] at hj
    omega

structure ChainSoFar (p : Nat) (steps : List (StepKind × Expr)) : Prop where
  first : ∃ x later, steps = later ++ [(.start, x)] ∧ ∀ s ∈ later, s.1.level? = some p
  operands : ∀ s ∈ steps, s.2.Ordered ∧ p < s.2.strength

lemma ChainSoFar.cons {p : Nat} {steps : List (StepKind × Expr)} (hs : ChainSoFar p steps)
    {k : StepKind} {z : Expr} (hk : k.level? = some p) (hz : z.Ordered ∧ p < z.strength) :
    ChainSoFar p ((k, z) :: steps) := by
  obtain ⟨x, later, rfl, hl⟩ := hs.first
  refine ⟨⟨x, (k, z) :: later, rfl, ?_⟩, ?_⟩
  · simpa [hk] using hl
  · simpa [hz] using hs.operands

lemma ChainSoFar.close {p : Nat} {steps : List (StepKind × Expr)} (hs : ChainSoFar p steps)
    (hp : 10 ≤ p) {k : StepKind} {z : Expr} (hk : k.level? = some p) (hz : z.Ordered ∧ p < z.strength) :
    (chain ((k, z) :: steps).reverse).Ordered ∧ (chain ((k, z) :: steps).reverse).strength = p := by
  obtain ⟨x, later, rfl, hl⟩ := hs.first
  have hrev : ((k, z) :: (later ++ [(.start, x)])).reverse =
      (.start, x) :: (later.reverse ++ [(k, z)]) := by simp
  rw [hrev]
  refine ordered_chain hp (by simp) ?_ ?_
  · intro s hs'
    simp only [List.mem_append, List.mem_reverse, List.mem_singleton] at hs'
    rcases hs' with hs' | rfl
    · exact hl s hs'
    · exact hk
  · intro o ho
    simp only [List.map_append, List.map_reverse, List.map_cons, List.map_nil, List.mem_cons,
      List.mem_append, List.mem_reverse, List.mem_map, List.not_mem_nil, or_false] at ho
    rcases ho with rfl | ⟨s, hs', rfl⟩ | rfl
    · exact hs.operands (.start, _) (by simp)
    · exact hs.operands s (by simp [hs'])
    · exact hz

mutual

lemma Primary.ordered {ts : List Token} {x : Expr} {rest : List Token} (h : Primary ts x rest) :
    x.Ordered ∧ x.isPrimary :=
  match h with
  | .name _ ha => ha.ordered
  | .string _ | .error _ | .number _ | .negative _ _ =>
    ⟨ordered_of_children_nil (by simp) (by simp) (by simp) rfl, rfl⟩
  | .paren _ hx => ⟨.of_plain (by simp) (by simp) (by simp) (by simp [children, hx.ordered]), rfl⟩
  | .bracket _ hi => ordered_structuredOf (hi.ordered (by simp))

lemma Operand.ordered {ts : List Token} {x : Expr} {rest : List Token} (h : Operand ts x rest) :
    x.Ordered ∧ (x.isPrimary ∨ x.isNegation) :=
  match h with
  | .primary hp => ⟨hp.ordered.1, .inl hp.ordered.2⟩
  | .negation _ _ hx => ⟨ordered_negation hx.ordered.1 hx.ordered.2, .inr rfl⟩

lemma Terms.ordered {ts : List Token} {x : Expr} {rest : List Token} (h : Terms ts x rest) :
    x.Ordered :=
  match h with
  | .mk hx hafter => hafter.ordered (by simp) hx.ordered.1 (isTight_of_operand hx.ordered.2)

lemma TermsAfter.ordered {pending : List (Joint × Expr)} {x : Expr} {ts : List Token} {y : Expr}
    {rest : List Token} (h : TermsAfter pending x ts y rest) (hp : ∀ q ∈ pending, q.2.Ordered)
    (hx : x.Ordered) (ht : x.isTight) : y.Ordered :=
  match h, hp, hx, ht with
  | .last hj _ _, hp, hx, ht => ordered_fold hp (hj.ordered hx (follows_of_isTight ht)).1
  | .concat hj _ hz hv, hp, hx, ht =>
    hv.ordered (by simpa [(hj.ordered hx (follows_of_isTight ht)).1] using hp) hz.ordered.1
      (isTight_of_operand hz.ordered.2)
  | .intersection hj _ hz hv, hp, hx, ht =>
    hv.ordered (by simpa [(hj.ordered hx (follows_of_isTight ht)).1] using hp) hz.ordered.1
      (isTight_of_operand hz.ordered.2)

lemma AfterName.ordered {n : String} {ts : List Token} {x : Expr} {rest : List Token}
    (h : AfterName n ts x rest) : x.Ordered ∧ x.isPrimary :=
  match h with
  | .call _ hi => ⟨.of_plain (by simp) (by simp) (by simp) (by simpa [children] using hi.ordered (by simp)), rfl⟩
  | .sheet _ _ _ hx =>
    ⟨ordered_sheetRef (ordered_of_children_nil (by simp) (by simp) (by simp) rfl) hx.ordered.1
      hx.ordered.2, rfl⟩
  | .table _ _ _ hi =>
    ⟨.of_plain (by simp) (by simp) (by simp)
      (by simpa [children] using (ordered_structuredOf (hi.ordered (by simp))).1), rfl⟩
  | .value _ => ordered_nameValue n

lemma Parens.ordered {ts : List Token} {x : Expr} {rest : List Token} (h : Parens ts x rest) :
    x.Ordered :=
  match h with
  | .empty _ => ordered_of_children_nil (by simp) (by simp) (by simp) rfl
  | .inner hx _ => hx.ordered

lemma Items.ordered {close : Symbol} {filled : Bool} {acc : List Expr} {ts : List Token}
    {es : List Expr} {rest : List Token} (h : Items close filled acc ts es rest)
    (ha : ∀ e ∈ acc, e.Ordered) : ∀ e ∈ es, e.Ordered :=
  match h, ha with
  | .comma _ hi, ha => hi.ordered (by
      have hempty : Expr.empty.Ordered := ordered_of_children_nil (by simp) (by simp) (by simp) rfl
      split <;> simp_all)
  | .close _ _, ha => fun e he => (Parse.mem_listItems he).elim (ha e)
      fun h => h ▸ ordered_of_children_nil (by simp) (by simp) (by simp) rfl
  | .item _ _ hx hi, ha => hi.ordered (List.forall_mem_cons.2 ⟨hx.ordered, ha⟩)

lemma Joins.ordered {takes : Join → Bool} {x : Expr} {ts : List Token} {y : Expr}
    {rest : List Token} (h : Joins takes x ts y rest) (hx : x.Ordered) (hf : Follows x ts) :
    y.Ordered ∧ Follows y rest ∧ (y = x ∨ ∃ j, takes j = true ∧ j.precedence ≤ y.strength) :=
  match h, hx, hf with
  | .stop _, hx, hf => ⟨hx, hf, .inl rfl⟩
  | .step hj htakes he hz, hx, hf =>
    have he' := he.ordered hx (hf _ rfl _ hj)
    have hz' := hz.ordered he'.1 he'.2.1
    ⟨hz'.1, hz'.2.1, .inr (hz'.2.2.elim (fun h => ⟨_, htakes, h ▸ he'.2.2⟩) id)⟩

lemma Extend.ordered {x : Expr} {j : Join} {ts : List Token} {y : Expr} {rest : List Token}
    (h : Extend x j ts y rest) (hx : x.Ordered) (hl : LeftOK x j) :
    y.Ordered ∧ Follows y rest ∧ j.precedence ≤ y.strength :=
  match h, hx, hl with
  | .range hy, hx, hl => by
    have ht : x.isTight := isTight_of_lt_strength (by simp [LeftOK, Join.precedence] at hl; omega)
    refine ⟨ordered_range hx hy.ordered.1 ht hy.ordered.2, follows_of_isTight ?_, ?_⟩
    · simp [isTight, binaryLevel?]
    · simp [strength, binaryLevel?, Join.precedence]
  | .arith ha, hx, hl => by
    have hp : _ := hl.resolve_right (by cases ‹ArithOp› <;> simp [Join.precedence, ArithOp.precedence])
    have hs : ChainSoFar _ [(.start, x)] :=
      ⟨⟨x, [], rfl, by simp⟩, by simpa [Join.precedence] using ⟨hx, hp⟩⟩
    have := ha.ordered hs
    exact ⟨this.1, this.2.1, by simp [Join.precedence, this.2.2]⟩
  | .concat hy, hx, hl => by
    refine ⟨.of_plain (by simp) (by simp) (by simp) (by simp [children, hx, hy.ordered]), ?_, ?_⟩
    · intro t ht j hj
      rw [hy.noJoin t ht] at hj
      cases hj
    · simp [strength, binaryLevel?, Join.precedence]
  | .percent, hx, hl => by
    have ht : x.isTight := isTight_of_lt_strength (by simp [LeftOK, Join.precedence] at hl; omega)
    refine ⟨ordered_percent hx ht, follows_of_isTight ?_, ?_⟩
    · simp [isTight, binaryLevel?]
    · simp [strength, binaryLevel?, Join.precedence]
  | .compare hy hz, hx, hl => by
    have hy' := hy.ordered
    have hz' := hz.ordered hy'.1 (follows_of_isTight (isTight_of_operand hy'.2))
    refine ⟨.of_plain (by simp) (by simp) (by simp) (by simp [children, hx, hz'.1]), ?_, ?_⟩
    · intro t ht j hj
      have hend := hz.joinsEnd t ht j hj
      exact .inr (by simp [absorbs] at hend; omega)
    · simp [Join.precedence]

lemma Arith.ordered {steps : List (StepKind × Expr)} {op : ArithOp} {ts : List Token} {y : Expr}
    {rest : List Token} (h : Arith steps op ts y rest) (hs : ChainSoFar op.precedence steps) :
    y.Ordered ∧ Follows y rest ∧ y.strength = op.precedence :=
  match h, hs with
  | .last hy hz hnext, hs => by
    have hy' := hy.ordered
    have hz' := hz.ordered hy'.1 (follows_of_isTight (isTight_of_operand hy'.2))
    have hlevel := ArithOp.level?_step op
    have hbounds := StepKind.level?_le hlevel
    have hzs := lt_strength_of_joined hbounds.2 (isTight_of_operand hy'.2) hz'.2.2
    have hc := hs.close hbounds.1 hlevel ⟨hz'.1, hzs⟩
    exact ⟨hc.1, follows_of_chain_end hbounds.2 hc.2 hz.joinsEnd hnext, hc.2⟩
  | .more hy hz _ hprec hv, hs => by
    have hy' := hy.ordered
    have hz' := hz.ordered hy'.1 (follows_of_isTight (isTight_of_operand hy'.2))
    have hlevel := ArithOp.level?_step op
    have hzs := lt_strength_of_joined (StepKind.level?_le hlevel).2 (isTight_of_operand hy'.2)
      hz'.2.2
    have := hv.ordered (by rw [hprec]; exact hs.cons hlevel ⟨hz'.1, hzs⟩)
    rw [hprec] at this
    exact this

end

end Grammar

open Grammar in
theorem respects_precedence_of_parse {s : TokenStream} {e : Expr}
    (h : s.parse = .ok (some e)) : ∀ n ∈ e.walk, n.RespectsPrecedence :=
  (derives_of_parse h).ordered

theorem respects_precedence_of_parse_sum_of_product :
    (TokenStream.ofList [⟨.number ⟨false, .finite 1 0⟩, 0, 1⟩, ⟨.symbol (.arith .add), 1, 2⟩,
        ⟨.number ⟨false, .finite 2 0⟩, 2, 3⟩, ⟨.symbol (.arith .multiply), 3, 4⟩,
        ⟨.number ⟨false, .finite 3 0⟩, 4, 5⟩]).parse =
        .ok (some (.chain [(.start, .number ⟨false, .finite 1 0⟩), (.add, .chain
          [(.start, .number ⟨false, .finite 2 0⟩), (.multiply, .number ⟨false, .finite 3 0⟩)])])) ∧
      ∀ n ∈ (Expr.chain [(.start, .number ⟨false, .finite 1 0⟩), (.add, .chain
          [(.start, .number ⟨false, .finite 2 0⟩), (.multiply, .number ⟨false, .finite 3 0⟩)])]).walk,
        n.RespectsPrecedence := by
  have h : (TokenStream.ofList [⟨.number ⟨false, .finite 1 0⟩, 0, 1⟩,
      ⟨.symbol (.arith .add), 1, 2⟩, ⟨.number ⟨false, .finite 2 0⟩, 2, 3⟩,
      ⟨.symbol (.arith .multiply), 3, 4⟩, ⟨.number ⟨false, .finite 3 0⟩, 4, 5⟩]).parse =
      .ok (some (.chain [(.start, .number ⟨false, .finite 1 0⟩), (.add, .chain
        [(.start, .number ⟨false, .finite 2 0⟩), (.multiply, .number ⟨false, .finite 3 0⟩)])])) := by
    cbv
  exact ⟨h, respects_precedence_of_parse h⟩

end SheetFormula

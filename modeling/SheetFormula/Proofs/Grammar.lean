import SheetFormula.Expr.Parse
import Mathlib.Tactic.Lemma
/-!
The grammar of formulas, read off the parser: one rule for each way a parsing function succeeds,
with the tokens it reads and the tokens it leaves. Every premise of a rule is a condition that the
parser tests on that path, so a derivation records why the parse took each branch. Main statement:
whatever the parser returns is derived by these rules (`derives_of_ok`), so facts about parses are
proved by recursion over derivations.
-/

namespace SheetFormula

lemma Except.bind_eq_ok {ε α β : Type} {x : Except ε α} {f : α → Except ε β} {b : β} :
    x >>= f = .ok b ↔ ∃ a, x = .ok a ∧ f a = .ok b := by
  cases x <;> simp [bind, Except.bind]

namespace Token

def startsOperand (t : Token) : Bool :=
  match t.lexeme with
  | .symbol (.arith .subtract) | .symbol .openParen | .symbol .openBracket => true
  | .symbol _ => false
  | _ => true

def isNumber (t : Token) : Bool :=
  match t.lexeme with
  | .number _ => true
  | _ => false

lemma symbol?_eq_some {t : Token} {s : Symbol} : t.symbol? = some s ↔ t.lexeme = .symbol s := by
  unfold Token.symbol?
  split <;> simp_all

lemma startsOperand_eq_false {t : Token} :
    t.startsOperand = false ↔ ∃ s, t.lexeme = .symbol s ∧ s ≠ .arith .subtract ∧
      s ≠ .openParen ∧ s ≠ .openBracket := by
  unfold Token.startsOperand
  split <;> simp_all

end Token

def Join.symbol : Join → Symbol
  | .range => .colon
  | .arith op => .arith op
  | .concat => .ampersand
  | .percent => .percent
  | .compare op => .compare op

lemma Token.lexeme_of_join? {t : Token} {j : Join} (h : t.join? = some j) :
    t.lexeme = .symbol j.symbol := by
  unfold Token.join? at h
  obtain ⟨s, hs, hj⟩ := Option.bind_eq_some_iff.1 h
  rw [Token.symbol?_eq_some.1 hs]
  cases s <;> simp only [Symbol.join?, Option.some.injEq, reduceCtorEq] at hj <;> subst hj <;> rfl

namespace Grammar

def NoOperand (ts : List Token) : Prop :=
  ∀ t ∈ ts.head?, t.startsOperand = false

def NoPrimary : List Token → Prop
  | [] => True
  | t :: tail => t.startsOperand = false ∨
      (t.lexeme = .symbol (.arith .subtract) ∧ ∀ u ∈ tail.head?, u.isNumber = false)

def absorbs (prec : Nat) (j : Join) : Bool :=
  decide (prec < j.precedence)

def JoinsEnd (takes : Join → Bool) (ts : List Token) : Prop :=
  ∀ t ∈ ts.head?, ∀ j, t.join? = some j → takes j = false

mutual

/-- The tokens begin with a primary that reads as `x` and leaves `rest`. -/
inductive Primary : List Token → Expr → List Token → Prop
  | name {t tail n x rest} : t.lexeme = .name n → AfterName n tail x rest →
      Primary (t :: tail) x rest
  | string {t tail s} : t.lexeme = .string s → Primary (t :: tail) (.string s) tail
  | error {t tail e} : t.lexeme = .error e → Primary (t :: tail) (.error e) tail
  | number {t tail d} : t.lexeme = .number d → Primary (t :: tail) (.number d) tail
  | negative {t u tail d} : t.lexeme = .symbol (.arith .subtract) → u.lexeme = .number d →
      Primary (t :: u :: tail) (.number d.negate) tail
  | paren {t tail x rest} : t.lexeme = .symbol .openParen → Parens tail x rest →
      Primary (t :: tail) (.bracketed x) rest
  | bracket {t tail es rest} : t.lexeme = .symbol .openBracket →
      Items .closeBracket false [] tail es rest → Primary (t :: tail) (Parse.structuredOf es) rest

inductive Operand : List Token → Expr → List Token → Prop
  | primary {ts x rest} : Primary ts x rest → Operand ts x rest
  | negation {t tail x rest} : t.lexeme = .symbol (.arith .subtract) →
      (∀ u ∈ tail.head?, u.isNumber = false) → Operand tail x rest →
      Operand (t :: tail) (.chain [(.subtract, x)]) rest

inductive Terms : List Token → Expr → List Token → Prop
  | mk {ts x r y rest} : Operand ts x r → TermsAfter [] x r y rest → Terms ts y rest

inductive TermsAfter : List (Joint × Expr) → Expr → List Token → Expr → List Token → Prop
  | last {pending x ts y rest} : Joins Join.isEager x ts y rest →
      (∀ t ∈ rest.head?, t.lexeme ≠ .symbol .ampersand) → NoOperand rest →
      TermsAfter pending x ts (Joint.fold pending y) rest
  | concat {pending x ts y t tail z r v rest} : Joins Join.isEager x ts y (t :: tail) →
      t.lexeme = .symbol .ampersand → Operand tail z r →
      TermsAfter ((.concat, y) :: pending) z r v rest → TermsAfter pending x ts v rest
  | intersection {pending x ts y t tail z r v rest} : Joins Join.isEager x ts y (t :: tail) →
      t.lexeme ≠ .symbol .ampersand → Operand (t :: tail) z r →
      TermsAfter ((.intersection, y) :: pending) z r v rest → TermsAfter pending x ts v rest

inductive AfterName : String → List Token → Expr → List Token → Prop
  | call {n t tail args rest} : t.lexeme = .symbol .openParen →
      Items .closeParen false [] tail args rest → AfterName n (t :: tail) (.call n args) rest
  | sheet {n t tail x rest} : n ≠ "TRUE" → n ≠ "FALSE" → t.lexeme = .symbol .bang →
      Primary tail x rest → AfterName n (t :: tail) (.sheetRef (.cell n) x) rest
  | table {n t tail es rest} : n ≠ "TRUE" → n ≠ "FALSE" → t.lexeme = .symbol .openBracket →
      Items .closeBracket false [] tail es rest →
      AfterName n (t :: tail) (.tableRef n (Parse.structuredOf es)) rest
  | value {n ts} : (∀ t ∈ ts.head?, t.lexeme ≠ .symbol .openParen ∧
        (n ≠ "TRUE" → n ≠ "FALSE" →
          t.lexeme ≠ .symbol .bang ∧ t.lexeme ≠ .symbol .openBracket)) →
      AfterName n ts (Parse.nameValue n) ts

inductive Parens : List Token → Expr → List Token → Prop
  | empty {u rest} : u.lexeme = .symbol .closeParen → Parens (u :: rest) .empty rest
  | inner {ts x u rest} : Terms ts x (u :: rest) → u.lexeme = .symbol .closeParen →
      Parens ts x rest

inductive Items : Symbol → Bool → List Expr → List Token → List Expr → List Token → Prop
  | comma {close filled acc t tail es rest} : t.lexeme = .symbol .comma →
      Items close false (if filled then acc else .empty :: acc) tail es rest →
      Items close filled acc (t :: tail) es rest
  | close {close filled acc t tail} : t.lexeme ≠ .symbol .comma → t.lexeme = .symbol close →
      Items close filled acc (t :: tail) (Parse.listItems filled acc) tail
  | item {close filled acc t tail x r es rest} : t.lexeme ≠ .symbol .comma →
      t.lexeme ≠ .symbol close → Terms (t :: tail) x r → Items close true (x :: acc) r es rest →
      Items close filled acc (t :: tail) es rest

inductive Joins : (Join → Bool) → Expr → List Token → Expr → List Token → Prop
  | stop {takes x ts} : JoinsEnd takes ts → Joins takes x ts x ts
  | step {takes x t tail j y r z rest} : t.join? = some j → takes j = true →
      Extend x j tail y r → Joins takes y r z rest → Joins takes x (t :: tail) z rest

inductive Extend : Expr → Join → List Token → Expr → List Token → Prop
  | range {x ts y rest} : Primary ts y rest → Extend x .range ts (.range x y) rest
  | arith {x op ts y rest} : Arith [(.start, x)] op ts y rest → Extend x (.arith op) ts y rest
  | concat {x ts y rest} : Terms ts y rest → Extend x .concat ts (.concat x y) rest
  | percent {x ts} : Extend x .percent ts (.chain [(.percent, x)]) ts
  | compare {x op ts y r z rest} : Operand ts y r → Joins (absorbs 0) y r z rest →
      Extend x (.compare op) ts (.compare op x z) rest

inductive Arith : List (StepKind × Expr) → ArithOp → List Token → Expr → List Token → Prop
  | last {steps op ts y r z rest} : Operand ts y r → Joins (absorbs op.precedence) y r z rest →
      (∀ u ∈ rest.head?, ∀ next, u.lexeme = .symbol (.arith next) →
        next.precedence ≠ op.precedence) →
      Arith steps op ts (.chain ((op.step, z) :: steps).reverse) rest
  | more {steps op ts y r z u after next v rest} : Operand ts y r →
      Joins (absorbs op.precedence) y r z (u :: after) → u.lexeme = .symbol (.arith next) →
      next.precedence = op.precedence → Arith ((op.step, z) :: steps) next after v rest →
      Arith steps op ts v rest

end

lemma noOperand_of_noPrimary {ts : List Token} (hp : NoPrimary ts)
    (hn : ∀ t ∈ ts.head?, t.lexeme ≠ .symbol (.arith .subtract)) : NoOperand ts := by
  cases ts with
  | nil => simp [NoOperand]
  | cons t tail =>
    simp only [NoOperand, List.head?_cons, Option.mem_def, Option.some.injEq, forall_eq'] at hn ⊢
    rcases hp with hp | ⟨hm, -⟩
    · exact hp
    · exact absurd hm hn

lemma noPrimary_minus {t : Token} {tail : List Token} (hp : NoPrimary (t :: tail))
    (hm : t.lexeme = .symbol (.arith .subtract)) : ∀ u ∈ tail.head?, u.isNumber = false := by
  rcases hp with hp | ⟨-, hu⟩
  · simp [Token.startsOperand, hm] at hp
  · exact hu

lemma nameValue_of_ne {n : String} (ht : ¬(n = "TRUE" ∨ n = "FALSE")) :
    Parse.nameValue n = .cell n := by
  simp only [not_or] at ht
  simp [Parse.nameValue, ht.1, ht.2]

lemma Primary.startsOperand {t : Token} {tail : List Token} {x : Expr} {rest : List Token}
    (h : Primary (t :: tail) x rest) : t.startsOperand = true := by
  cases h <;> simp_all [Token.startsOperand]

lemma Operand.startsOperand {t : Token} {tail : List Token} {x : Expr} {rest : List Token}
    (h : Operand (t :: tail) x rest) : t.startsOperand = true := by
  cases h with
  | primary hp => exact hp.startsOperand
  | negation hm _ _ => simp [Token.startsOperand, hm]

lemma TermsAfter.noOperand {pending : List (Joint × Expr)} {x : Expr} {ts : List Token} {y : Expr}
    {rest : List Token} : TermsAfter pending x ts y rest → NoOperand rest
  | .last _ _ hno => hno
  | .concat _ _ _ hv => hv.noOperand
  | .intersection _ _ _ hv => hv.noOperand

lemma Terms.noOperand {ts : List Token} {x : Expr} {rest : List Token} (h : Terms ts x rest) :
    NoOperand rest := by
  cases h with
  | mk _ hafter => exact hafter.noOperand

lemma Terms.startsOperand {t : Token} {tail : List Token} {x : Expr} {rest : List Token}
    (h : Terms (t :: tail) x rest) : t.startsOperand = true := by
  cases h with
  | mk hx _ => exact hx.startsOperand

lemma Joins.joinsEnd {takes : Join → Bool} {x : Expr} {ts : List Token} {y : Expr}
    {rest : List Token} : Joins takes x ts y rest → JoinsEnd takes rest
  | .stop hend => hend
  | .step _ _ _ hz => hz.joinsEnd

lemma TermsAfter.ends {pending : List (Joint × Expr)} {x : Expr} {ts : List Token} {y : Expr}
    {rest : List Token} : TermsAfter pending x ts y rest →
      JoinsEnd Join.isEager rest ∧ ∀ t ∈ rest.head?, t.lexeme ≠ .symbol .ampersand
  | .last hj hamp _ => ⟨hj.joinsEnd, hamp⟩
  | .concat _ _ _ hv => hv.ends
  | .intersection _ _ _ hv => hv.ends

lemma TermsAfter.noJoin {pending : List (Joint × Expr)} {x : Expr} {ts : List Token} {y : Expr}
    {rest : List Token} (h : TermsAfter pending x ts y rest) :
    ∀ t ∈ rest.head?, t.join? = none := by
  intro t ht
  obtain ⟨hend, hamp⟩ := h.ends
  cases hjt : t.join? with
  | none => rfl
  | some j =>
    have heager := hend t ht j hjt
    cases j with
    | concat => exact absurd (Token.lexeme_of_join? hjt) (hamp t ht)
    | _ => cases heager

lemma Terms.noJoin {ts : List Token} {x : Expr} {rest : List Token} (h : Terms ts x rest) :
    ∀ t ∈ rest.head?, t.join? = none := by
  cases h with
  | mk _ hafter => exact hafter.noJoin

variable {fault : Option ScanFault}

lemma closeParen_ok {opener : Token} {inner : Expr} {ts : List Token}
    {p : Parsed Expr (ts.length + 1)} (h : Parse.closeParen fault opener inner ts = .ok p) :
    ∃ u, ts = u :: p.rest ∧ u.lexeme = .symbol .closeParen ∧ p.value = .bracketed inner := by
  cases ts with
  | nil =>
    obtain ⟨⟨⟩, -, h⟩ := Except.bind_eq_ok.1 h
    cases h
  | cons u rest =>
    rw [Parse.closeParen] at h
    split at h
    · cases h
      exact ⟨u, rfl, Token.symbol?_eq_some.1 ‹_›, rfl⟩
    · cases h

variable (fault)

theorem derives_of_ok :
    (∀ ts r, Parse.terms? fault ts = .ok r →
      r.elim (NoOperand ts) fun p => Terms ts p.value p.rest) ∧
    (∀ pending x ts p, Parse.termsAfter fault pending x ts = .ok p →
      TermsAfter pending x ts p.value p.rest) ∧
    (∀ ts r, Parse.operand? fault ts = .ok r →
      r.elim (NoOperand ts) fun p => Operand ts p.value p.rest) ∧
    (∀ ts r, Parse.negation? fault ts = .ok r →
      r.elim (∀ t ∈ ts.head?, t.lexeme ≠ .symbol (.arith .subtract)) fun p =>
        ∃ t tail x, ts = t :: tail ∧ t.lexeme = .symbol (.arith .subtract) ∧
          Operand tail x p.rest ∧ p.value = .chain [(.subtract, x)]) ∧
    (∀ ts r, Parse.primary? fault ts = .ok r →
      r.elim (NoPrimary ts) fun p => Primary ts p.value p.rest) ∧
    (∀ opener ts p, Parse.structured fault opener ts = .ok p →
      ∃ es, Items .closeBracket false [] ts es p.rest ∧ p.value = Parse.structuredOf es) ∧
    (∀ close opener filled acc ts p, Parse.items fault close opener filled acc ts = .ok p →
      Items close filled acc ts p.value p.rest) ∧
    (∀ opener ts p, Parse.bracketed fault opener ts = .ok p →
      ∃ x, Parens ts x p.rest ∧ p.value = .bracketed x) ∧
    (∀ n ts p, Parse.afterName fault n ts = .ok p → AfterName n ts p.value p.rest) ∧
    (∀ x ts p, Parse.eagerJoins fault x ts = .ok p → Joins Join.isEager x ts p.value p.rest) ∧
    (∀ x j t ts p, Parse.extend fault x j t ts = .ok p → Extend x j ts p.value p.rest) ∧
    (∀ x prec ts p, Parse.absorb fault x prec ts = .ok p →
      Joins (absorbs prec) x ts p.value p.rest) ∧
    (∀ steps op t ts p, Parse.arith fault steps op t ts = .ok p →
      Arith steps op ts p.value p.rest) := by
  apply Parse.terms?.mutual_induct
  case case1 =>
    intro ts hop hafter r h
    rw [Parse.terms?] at h
    obtain ⟨a, ha, h⟩ := Except.bind_eq_ok.1 h
    rcases a with _ | ⟨x, rest, hlt⟩
    · cases h
      exact hop none ha
    · obtain ⟨⟨y, rest2, hlt2⟩, hb, h⟩ := Except.bind_eq_ok.1 h
      cases h
      exact .mk (hop _ ha) (hafter x rest hlt _ hb)
  case case2 =>
    intro pending x ts hjoins hneg hconcat hop hinter p h
    rw [Parse.termsAfter] at h
    obtain ⟨⟨y, rest, hlt⟩, hj, h⟩ := Except.bind_eq_ok.1 h
    have hy := hjoins _ hj
    dsimp only at h hy
    split at h
    · obtain ⟨⟨⟩, -, h⟩ := Except.bind_eq_ok.1 h
      cases h
      exact .last hy (by simp) (by simp [NoOperand])
    · rename_i t tail
      split at h
      · rename_i hamp
        obtain ⟨a, ha, h⟩ := Except.bind_eq_ok.1 h
        rcases a with _ | ⟨z, rest2, hlt2⟩
        · cases h
        · obtain ⟨⟨v, rest3, hlt3⟩, hb, h⟩ := Except.bind_eq_ok.1 h
          cases h
          exact .concat hy (Token.symbol?_eq_some.1 hamp) (hneg _ hlt t tail rfl _ ha)
            (hconcat y _ hlt t tail rfl z rest2 hlt2 _ hb)
      · rename_i hamp
        obtain ⟨a, ha, h⟩ := Except.bind_eq_ok.1 h
        rcases a with _ | ⟨z, rest2, hlt2⟩
        · cases h
          exact .last hy (by simpa [Token.symbol?_eq_some] using hamp) (hop _ hlt t tail rfl none ha)
        · obtain ⟨⟨v, rest3, hlt3⟩, hb, h⟩ := Except.bind_eq_ok.1 h
          cases h
          exact .intersection hy (mt Token.symbol?_eq_some.2 hamp) (hop _ hlt t tail rfl _ ha)
            (hinter y _ hlt t tail rfl z rest2 hlt2 _ hb)
  case case3 =>
    intro ts hprim hneg r h
    rw [Parse.operand?] at h
    obtain ⟨a, ha, h⟩ := Except.bind_eq_ok.1 h
    rcases a with _ | q
    · have hnp : NoPrimary ts := hprim none ha
      rcases r with _ | p
      · exact noOperand_of_noPrimary hnp (hneg none h)
      · obtain ⟨t, tail, x, rfl, hminus, hx, hv⟩ := hneg (some p) h
        simp only [Option.elim, hv]
        exact .negation hminus (noPrimary_minus hnp hminus) hx
    · cases h
      exact .primary (hprim _ ha)
  case case4 =>
    intro r h
    rw [Parse.negation?] at h
    obtain ⟨⟨⟩, -, h⟩ := Except.bind_eq_ok.1 h
    cases h
    simp
  case case5 =>
    intro t tail hsub hop r h
    rw [Parse.negation?, if_pos hsub] at h
    obtain ⟨a, ha, h⟩ := Except.bind_eq_ok.1 h
    rcases a with _ | ⟨x, rest, hlt⟩
    · cases h
    · cases h
      exact ⟨t, tail, x, rfl, Token.symbol?_eq_some.1 hsub, hop _ ha, rfl⟩
  case case6 =>
    intro t tail hsub r h
    rw [Parse.negation?, if_neg hsub] at h
    cases h
    simpa [Token.symbol?_eq_some] using hsub
  case case7 =>
    intro r h
    rw [Parse.primary?] at h
    obtain ⟨⟨⟩, -, h⟩ := Except.bind_eq_ok.1 h
    cases h
    trivial
  case case8 =>
    intro t tail n hname hafter r h
    simp only [Parse.primary?.eq_def, hname] at h
    obtain ⟨⟨x, rest, hlt⟩, hb, h⟩ := Except.bind_eq_ok.1 h
    cases h
    exact .name hname (hafter _ hb)
  case case9 =>
    intro t tail s hs r h
    simp only [Parse.primary?.eq_def, hs] at h
    cases h
    exact .string hs
  case case10 =>
    intro t tail e he r h
    simp only [Parse.primary?.eq_def, he] at h
    cases h
    exact .error he
  case case11 =>
    intro t tail d hd r h
    simp only [Parse.primary?.eq_def, hd] at h
    cases h
    exact .number hd
  case case12 =>
    intro t hm r h
    simp only [Parse.primary?.eq_def, hm] at h
    obtain ⟨⟨⟩, -, h⟩ := Except.bind_eq_ok.1 h
    cases h
    exact .inr ⟨hm, by simp⟩
  case case13 =>
    intro t hm u tail d hd r h
    simp only [Parse.primary?.eq_def, hm, hd] at h
    cases h
    exact .negative hm hd
  case case14 =>
    intro t hm u tail hnd r h
    simp only [Parse.primary?.eq_def, hm] at h
    cases h
    refine .inr ⟨hm, ?_⟩
    simp only [List.head?_cons, Option.mem_def, Option.some.injEq, forall_eq', Token.isNumber]
  case case15 =>
    intro t tail hp hbr r h
    simp only [Parse.primary?.eq_def, hp] at h
    obtain ⟨⟨x, rest, hlt⟩, hb, h⟩ := Except.bind_eq_ok.1 h
    cases h
    obtain ⟨y, hy, hv⟩ := hbr _ hb
    cases hv
    exact .paren hp hy
  case case16 =>
    intro t tail hb hstr r h
    simp only [Parse.primary?.eq_def, hb] at h
    obtain ⟨⟨x, rest, hlt⟩, hs, h⟩ := Except.bind_eq_ok.1 h
    cases h
    obtain ⟨es, hes, hv⟩ := hstr _ hs
    cases hv
    exact .bracket hb hes
  case case17 =>
    intro t tail s h1 h2 h3 hs r h
    have hno : NoPrimary (t :: tail) := .inl (Token.startsOperand_eq_false.2 ⟨s, hs, h1, h2, h3⟩)
    rw [Parse.primary?.eq_def] at h
    dsimp only at h
    split at h
    case h_8 =>
      cases h
      exact hno
    all_goals simp_all
  case case18 =>
    intro opener ts hitems p h
    rw [Parse.structured] at h
    obtain ⟨⟨es, rest, hlt⟩, hb, h⟩ := Except.bind_eq_ok.1 h
    cases h
    exact ⟨es, hitems _ hb, rfl⟩
  case case19 =>
    intro close opener filled acc p h
    rw [Parse.items] at h
    obtain ⟨⟨⟩, -, h⟩ := Except.bind_eq_ok.1 h
    cases h
  case case20 =>
    intro close opener filled acc t tail hc ih p h
    rw [Parse.items, if_pos hc] at h
    obtain ⟨⟨es, rest, hlt⟩, hb, h⟩ := Except.bind_eq_ok.1 h
    cases h
    exact .comma (Token.symbol?_eq_some.1 hc) (ih _ hb)
  case case21 =>
    intro close opener filled acc t tail hnc hcl p h
    rw [Parse.items, if_neg hnc, if_pos hcl] at h
    cases h
    exact .close (mt Token.symbol?_eq_some.2 hnc) (Token.symbol?_eq_some.1 hcl)
  case case22 =>
    intro close opener filled acc t tail hnc hncl hterms hitems p h
    rw [Parse.items, if_neg hnc, if_neg hncl] at h
    obtain ⟨a, ha, h⟩ := Except.bind_eq_ok.1 h
    rcases a with _ | ⟨x, rest, hlt⟩
    · cases h
    · obtain ⟨⟨es, rest2, hlt2⟩, hb, h⟩ := Except.bind_eq_ok.1 h
      cases h
      exact .item (mt Token.symbol?_eq_some.2 hnc) (mt Token.symbol?_eq_some.2 hncl)
        (hterms _ ha) (hitems x rest hlt _ hb)
  case case23 =>
    intro opener ts hterms p h
    rw [Parse.bracketed] at h
    obtain ⟨a, ha, h⟩ := Except.bind_eq_ok.1 h
    rcases a with _ | ⟨x, rest, hlt⟩
    · obtain ⟨u, hts, hu, hv⟩ := closeParen_ok h
      have hp : Parens (u :: p.rest) .empty p.rest := .empty hu
      rw [← hts] at hp
      exact ⟨.empty, hp, hv⟩
    · obtain ⟨⟨y, rest2, hlt2⟩, hc, h⟩ := Except.bind_eq_ok.1 h
      cases h
      obtain ⟨u, hr, hu, hv⟩ := closeParen_ok hc
      have hx : Terms ts x rest := hterms _ ha
      dsimp only at hr hv ⊢
      subst hr
      exact ⟨x, .inner hx hu, hv⟩
  case case24 =>
    intro n p h
    rw [Parse.afterName] at h
    obtain ⟨⟨⟩, -, h⟩ := Except.bind_eq_ok.1 h
    cases h
    exact .value (by simp)
  case case25 =>
    intro n t tail hp hitems p h
    rw [Parse.afterName, if_pos hp] at h
    obtain ⟨⟨args, rest, hlt⟩, hb, h⟩ := Except.bind_eq_ok.1 h
    cases h
    exact .call (Token.symbol?_eq_some.1 hp) (hitems _ hb)
  case case26 =>
    intro n t tail hnp htf p h
    rw [Parse.afterName, if_neg hnp, if_pos htf] at h
    cases h
    refine .value ?_
    simp only [List.head?_cons, Option.mem_def, Option.some.injEq, forall_eq']
    exact ⟨mt Token.symbol?_eq_some.2 hnp, fun h1 h2 => absurd htf (by simp [h1, h2])⟩
  case case27 =>
    intro n t tail hnp htf hbang hprim p h
    rw [Parse.afterName, if_neg hnp, if_neg htf, if_pos hbang] at h
    obtain ⟨a, ha, h⟩ := Except.bind_eq_ok.1 h
    rcases a with _ | ⟨x, rest, hlt⟩
    · cases h
    · cases h
      simp only [not_or] at htf
      exact .sheet htf.1 htf.2 (Token.symbol?_eq_some.1 hbang) (hprim _ ha)
  case case28 =>
    intro n t tail hnp htf hnb hb hstr p h
    rw [Parse.afterName, if_neg hnp, if_neg htf, if_neg hnb, if_pos hb] at h
    obtain ⟨⟨x, rest, hlt⟩, hs, h⟩ := Except.bind_eq_ok.1 h
    cases h
    obtain ⟨es, hes, hv⟩ := hstr _ hs
    cases hv
    simp only [not_or] at htf
    exact .table htf.1 htf.2 (Token.symbol?_eq_some.1 hb) hes
  case case29 =>
    intro n t tail hnp htf hnb hnbr p h
    rw [Parse.afterName, if_neg hnp, if_neg htf, if_neg hnb, if_neg hnbr] at h
    cases h
    rw [← nameValue_of_ne htf]
    refine .value ?_
    simp only [List.head?_cons, Option.mem_def, Option.some.injEq, forall_eq']
    exact ⟨mt Token.symbol?_eq_some.2 hnp,
      fun _ _ => ⟨mt Token.symbol?_eq_some.2 hnb, mt Token.symbol?_eq_some.2 hnbr⟩⟩
  case case30 =>
    intro x p h
    rw [Parse.eagerJoins] at h
    obtain ⟨⟨⟩, -, h⟩ := Except.bind_eq_ok.1 h
    cases h
    exact .stop (by simp [JoinsEnd])
  case case31 =>
    intro x t tail j hj heager hext hjoins p h
    rw [Parse.eagerJoins] at h
    simp only [hj, heager, if_true] at h
    obtain ⟨⟨y, rest, hlt⟩, hb, h⟩ := Except.bind_eq_ok.1 h
    obtain ⟨⟨z, rest2, hlt2⟩, hc, h⟩ := Except.bind_eq_ok.1 h
    cases h
    exact .step hj heager (hext _ hb) (hjoins y rest hlt _ hc)
  case case32 =>
    intro x t tail j hj heager p h
    rw [Parse.eagerJoins] at h
    simp only [hj, heager] at h
    cases h
    exact .stop (by simp_all [JoinsEnd])
  case case33 =>
    intro x t tail hj p h
    rw [Parse.eagerJoins] at h
    simp only [hj] at h
    cases h
    exact .stop (by simp [JoinsEnd, hj])
  case case34 =>
    intro x t ts hprim p h
    rw [Parse.extend] at h
    obtain ⟨a, ha, h⟩ := Except.bind_eq_ok.1 h
    rcases a with _ | ⟨y, rest, hlt⟩
    · cases h
    · cases h
      exact .range (hprim _ ha)
  case case35 =>
    intro x t ts op harith p h
    rw [Parse.extend] at h
    exact .arith (harith p h)
  case case36 =>
    intro x t ts hterms p h
    rw [Parse.extend] at h
    obtain ⟨a, ha, h⟩ := Except.bind_eq_ok.1 h
    rcases a with _ | ⟨y, rest, hlt⟩
    · cases h
    · cases h
      exact .concat (hterms _ ha)
  case case37 =>
    intro x t ts p h
    rw [Parse.extend] at h
    cases h
    exact .percent
  case case38 =>
    intro x t ts op hop habsorb p h
    rw [Parse.extend] at h
    obtain ⟨a, ha, h⟩ := Except.bind_eq_ok.1 h
    rcases a with _ | ⟨y, rest, hlt⟩
    · cases h
    · obtain ⟨⟨z, rest2, hlt2⟩, hb, h⟩ := Except.bind_eq_ok.1 h
      cases h
      exact .compare (hop _ ha) (habsorb y rest hlt _ hb)
  case case39 =>
    intro x prec p h
    rw [Parse.absorb] at h
    obtain ⟨⟨⟩, -, h⟩ := Except.bind_eq_ok.1 h
    cases h
    exact .stop (by simp [JoinsEnd])
  case case40 =>
    intro x prec t tail j hj hlt hext habsorb p h
    rw [Parse.absorb] at h
    simp only [hj, hlt, if_true] at h
    obtain ⟨⟨y, rest, hlt1⟩, hb, h⟩ := Except.bind_eq_ok.1 h
    obtain ⟨⟨z, rest2, hlt2⟩, hc, h⟩ := Except.bind_eq_ok.1 h
    cases h
    exact .step hj (by simp [absorbs, hlt]) (hext _ hb) (habsorb y rest hlt1 _ hc)
  case case41 =>
    intro x prec t tail j hj hlt p h
    rw [Parse.absorb] at h
    simp only [hj, hlt, if_false] at h
    cases h
    exact .stop (by simp_all [JoinsEnd, absorbs])
  case case42 =>
    intro x prec t tail hj p h
    rw [Parse.absorb] at h
    simp only [hj] at h
    cases h
    exact .stop (by simp [JoinsEnd, hj])
  case case43 =>
    intro steps op t ts hop habsorb hmore p h
    rw [Parse.arith] at h
    obtain ⟨a, ha, h⟩ := Except.bind_eq_ok.1 h
    rcases a with _ | ⟨y, rest, hlt⟩
    · cases h
    obtain ⟨⟨z, rest2, hlt2⟩, hb, h⟩ := Except.bind_eq_ok.1 h
    have hy : Operand ts y rest := hop _ ha
    have hz : Joins (absorbs op.precedence) y rest z rest2 := habsorb y rest hlt _ hb
    dsimp only at h
    rcases rest2 with _ | ⟨u, after⟩
    · obtain ⟨⟨⟩, -, h⟩ := Except.bind_eq_ok.1 h
      cases h
      exact .last hy hz (by simp)
    · dsimp only at h
      split at h
      · rename_i next hnext
        split at h
        · rename_i hprec
          obtain ⟨⟨v, rest3, hlt3⟩, hc, h⟩ := Except.bind_eq_ok.1 h
          cases h
          exact .more hy hz (Token.symbol?_eq_some.1 hnext) hprec
            (hmore rest hlt z (u :: after) hlt2 u after rfl next _ hc)
        · rename_i hprec
          cases h
          refine .last hy hz ?_
          simp only [List.head?_cons, Option.mem_def, Option.some.injEq, forall_eq']
          intro next' hnext'
          rw [← Token.symbol?_eq_some, hnext] at hnext'
          cases hnext'
          exact hprec
      · rename_i hnot
        cases h
        refine .last hy hz ?_
        simp only [List.head?_cons, Option.mem_def, Option.some.injEq, forall_eq']
        intro next' hnext'
        exact absurd (Token.symbol?_eq_some.2 hnext') (hnot next')

theorem derives_of_parse {s : TokenStream} {e : Expr} (h : s.parse = .ok (some e)) :
    Terms s.tokens e [] := by
  unfold TokenStream.parse at h
  split at h
  · obtain ⟨⟨⟩, -, h⟩ := Except.bind_eq_ok.1 h
    cases h
  · rename_i t tail hs
    rw [hs]
    obtain ⟨a, ha, h⟩ := Except.bind_eq_ok.1 h
    rcases a with _ | ⟨x, rest, hlt⟩
    · cases h
    · have hx : Terms (t :: tail) x rest := (derives_of_ok s.fault).1 _ _ ha
      dsimp only at h
      split at h
      · obtain ⟨⟨⟩, -, h⟩ := Except.bind_eq_ok.1 h
        cases h
        exact hx
      · cases h

end Grammar

end SheetFormula

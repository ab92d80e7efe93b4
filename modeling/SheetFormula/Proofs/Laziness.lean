import SheetFormula.Formula
import SheetFormula.Proofs.Grammar
import Mathlib
/-!
A parse is decided by the tokens before a scan fault. A stream that ends in the fault `L`
parses either to `L` itself, when the parse looks past its last token, or to a syntax fault
that the same tokens raise again with any tokens after them: the scan fault surfaces exactly
when the tokens before it run out.
-/

namespace SheetFormula

/-- What a parse of tokens that end in the scan fault `L` says of the same tokens followed by
more: `L` itself, the same syntax fault, or results related by `R`. -/
def Foretells {α β : Type} (L : ScanFault) (R : α → β → Prop) :
    Except FormulaFault α → Except FormulaFault β → Prop
  | .error (.scan f), _ => f = L
  | .error (.parse e), r' => r' = .error (.parse e)
  | .ok a, .ok b => R a b
  | .ok _, .error _ => False

namespace Foretells

variable {α β γ δ : Type} {L : ScanFault} {R : α → β → Prop}

lemma bind {S : γ → δ → Prop} {r : Except FormulaFault α} {r' : Except FormulaFault β}
    {f : α → Except FormulaFault γ} {g : β → Except FormulaFault δ} (h : Foretells L R r r')
    (hfg : ∀ a b, R a b → Foretells L S (f a) (g b)) : Foretells L S (r >>= f) (r' >>= g) := by
  cases r with
  | error e =>
    cases e with
    | scan f => exact h
    | parse e =>
      have h' : r' = .error (.parse e) := h
      subst h'
      rfl
  | ok a =>
    cases r' with
    | error _ => exact h.elim
    | ok b => exact hfg a b h

lemma pure {a : α} {b : β} (h : R a b) : Foretells L R (pure a) (pure b) := h

lemma throw_parse (e : SyntaxFault) :
    Foretells L R (throw (.parse e)) (throw (.parse e)) := rfl

lemma atEnd_bind {f : Unit → Except FormulaFault α} {r' : Except FormulaFault β} :
    Foretells L R (Parse.atEnd (some L) >>= f) r' := rfl

lemma scan_or_parse {r : Except FormulaFault α} {r' : Except FormulaFault β}
    (h : Foretells L (fun _ _ => False) r r') :
    r = .error (.scan L) ∨ ∃ e, r = .error (.parse e) ∧ r' = .error (.parse e) := by
  cases r with
  | error e =>
    cases e with
    | scan f =>
      subst h
      exact .inl rfl
    | parse e => exact .inr ⟨e, rfl, h⟩
  | ok a => cases r' <;> exact h.elim

lemma needed {what : Operand} {t : Token} {ts : List Token} {φ : Option ScanFault}
    {u : List Token} :
    Foretells L R (throw (Parse.needed (some L) what t ts))
      (throw (Parse.needed φ what t (ts ++ u))) := by
  cases ts with
  | nil => rfl
  | cons t' ts => rfl

end Foretells

/-- The longer read has the same value and leaves `u` more unread. -/
def Parsed.Extends {α : Type} {n m : Nat} (u : List Token) (p : Parsed α n) (q : Parsed α m) :
    Prop :=
  q.value = p.value ∧ q.rest = p.rest ++ u

namespace Foretells

variable {α γ δ : Type} {L : ScanFault} {u : List Token} {n m : Nat}

lemma bind_parsed {S : γ → δ → Prop} {r : Except FormulaFault (Parsed α n)}
    {r' : Except FormulaFault (Parsed α m)} {f : Parsed α n → Except FormulaFault γ}
    {g : Parsed α m → Except FormulaFault δ} (h : Foretells L (Parsed.Extends u) r r')
    (hfg : ∀ x rest h h', Foretells L S (f ⟨x, rest, h⟩) (g ⟨x, rest ++ u, h'⟩)) :
    Foretells L S (r >>= f) (r' >>= g) := by
  refine h.bind fun p q hpq => ?_
  obtain ⟨x, rest, h⟩ := p
  obtain ⟨x', rest', h'⟩ := q
  obtain ⟨hx, hr⟩ := hpq
  dsimp only at hx hr
  subst hx hr
  exact hfg _ _ _ _

lemma bind_option {S : γ → δ → Prop} {r : Except FormulaFault (Option (Parsed α n))}
    {r' : Except FormulaFault (Option (Parsed α m))}
    {f : Option (Parsed α n) → Except FormulaFault γ} {g : Option (Parsed α m) → Except FormulaFault δ}
    (h : Foretells L (Option.Rel (Parsed.Extends u)) r r') (hnone : Foretells L S (f none) (g none))
    (hsome : ∀ x rest h h', Foretells L S (f (some ⟨x, rest, h⟩)) (g (some ⟨x, rest ++ u, h'⟩))) :
    Foretells L S (r >>= f) (r' >>= g) := by
  refine h.bind fun p q hpq => ?_
  cases hpq with
  | none => exact hnone
  | some hpq =>
    rename_i p q
    obtain ⟨x, rest, h⟩ := p
    obtain ⟨x', rest', h'⟩ := q
    obtain ⟨hx, hr⟩ := hpq
    dsimp only at hx hr
    subst hx hr
    exact hsome _ _ _ _

end Foretells

namespace Parse

variable (L : ScanFault) (φ : Option ScanFault) (u : List Token)

lemma foretells_closeParen (opener : Token) (x : Expr) (ts : List Token) :
    Foretells L (Parsed.Extends u) (closeParen (some L) opener x ts)
      (closeParen φ opener x (ts ++ u)) := by
  cases ts with
  | nil => rw [closeParen.eq_1]; exact Foretells.atEnd_bind
  | cons t tail =>
    rw [List.cons_append, closeParen, closeParen]
    by_cases hc : t.symbol? = some .closeParen
    · rw [if_pos hc, if_pos hc]
      exact .pure ⟨rfl, rfl⟩
    · rw [if_neg hc, if_neg hc]
      exact .throw_parse _

theorem foretells :
    (∀ ts, Foretells L (Option.Rel (Parsed.Extends u)) (terms? (some L) ts)
      (terms? φ (ts ++ u))) ∧
    (∀ pending x ts, Foretells L (Parsed.Extends u) (termsAfter (some L) pending x ts)
      (termsAfter φ pending x (ts ++ u))) ∧
    (∀ ts, Foretells L (Option.Rel (Parsed.Extends u)) (operand? (some L) ts)
      (operand? φ (ts ++ u))) ∧
    (∀ ts, Foretells L (Option.Rel (Parsed.Extends u)) (negation? (some L) ts)
      (negation? φ (ts ++ u))) ∧
    (∀ ts, Foretells L (Option.Rel (Parsed.Extends u)) (primary? (some L) ts)
      (primary? φ (ts ++ u))) ∧
    (∀ opener ts, Foretells L (Parsed.Extends u) (structured (some L) opener ts)
      (structured φ opener (ts ++ u))) ∧
    (∀ close opener filled acc ts, Foretells L (Parsed.Extends u)
      (items (some L) close opener filled acc ts) (items φ close opener filled acc (ts ++ u))) ∧
    (∀ opener ts, Foretells L (Parsed.Extends u) (bracketed (some L) opener ts)
      (bracketed φ opener (ts ++ u))) ∧
    (∀ n ts, Foretells L (Parsed.Extends u) (afterName (some L) n ts)
      (afterName φ n (ts ++ u))) ∧
    (∀ x ts, Foretells L (Parsed.Extends u) (eagerJoins (some L) x ts)
      (eagerJoins φ x (ts ++ u))) ∧
    (∀ x j t ts, Foretells L (Parsed.Extends u) (extend (some L) x j t ts)
      (extend φ x j t (ts ++ u))) ∧
    (∀ x prec ts, Foretells L (Parsed.Extends u) (absorb (some L) x prec ts)
      (absorb φ x prec (ts ++ u))) ∧
    (∀ steps op t ts, Foretells L (Parsed.Extends u) (arith (some L) steps op t ts)
      (arith φ steps op t (ts ++ u))) := by
  apply Parse.terms?.mutual_induct
  case case1 =>
    intro ts hop hafter
    rw [terms?, terms?]
    refine hop.bind_option (.pure .none) fun x rest h h' => ?_
    refine (hafter x rest h).bind_parsed fun y rest2 h2 h2' => ?_
    exact .pure (.some ⟨rfl, rfl⟩)
  case case2 =>
    intro pending x ts hjoins hneg hconcat hop hinter
    rw [termsAfter, termsAfter]
    refine hjoins.bind_parsed fun y rest h h' => ?_
    cases rest with
    | nil => exact Foretells.atEnd_bind
    | cons t tail =>
      dsimp only [List.cons_append]
      by_cases hamp : t.symbol? = some .ampersand
      · simp only [hamp, if_true]
        refine (hneg _ h t tail rfl).bind_option Foretells.needed fun z rest2 h2 h2' => ?_
        refine (hconcat y _ h t tail rfl z rest2 h2).bind_parsed fun v rest3 h3 h3' => ?_
        exact .pure ⟨rfl, rfl⟩
      · simp only [hamp, if_false]
        refine (hop _ h t tail rfl).bind_option (.pure ⟨rfl, rfl⟩) fun z rest2 h2 h2' => ?_
        refine (hinter y _ h t tail rfl z rest2 h2).bind_parsed fun v rest3 h3 h3' => ?_
        exact .pure ⟨rfl, rfl⟩
  case case3 =>
    intro ts hprim hneg
    rw [operand?, operand?]
    exact hprim.bind_option hneg fun x rest h h' => .pure (.some ⟨rfl, rfl⟩)
  case case4 =>
    rw [negation?.eq_1]
    exact Foretells.atEnd_bind
  case case5 =>
    intro t tail hsub hop
    rw [List.cons_append, negation?, negation?, if_pos hsub, if_pos hsub]
    exact hop.bind_option Foretells.needed fun x rest h h' => .pure (.some ⟨rfl, rfl⟩)
  case case6 =>
    intro t tail hsub
    rw [List.cons_append, negation?, negation?, if_neg hsub, if_neg hsub]
    exact .pure .none
  case case7 =>
    rw [primary?.eq_1]
    exact Foretells.atEnd_bind
  case case8 =>
    intro t tail n hname hafter
    rw [List.cons_append, primary?.eq_def, primary?.eq_def]
    simp only [hname]
    exact hafter.bind_parsed fun x rest h h' => .pure (.some ⟨rfl, rfl⟩)
  case case9 =>
    intro t tail s hs
    rw [List.cons_append, primary?.eq_def, primary?.eq_def]
    simp only [hs]
    exact .pure (.some ⟨rfl, rfl⟩)
  case case10 =>
    intro t tail e he
    rw [List.cons_append, primary?.eq_def, primary?.eq_def]
    simp only [he]
    exact .pure (.some ⟨rfl, rfl⟩)
  case case11 =>
    intro t tail d hd
    rw [List.cons_append, primary?.eq_def, primary?.eq_def]
    simp only [hd]
    exact .pure (.some ⟨rfl, rfl⟩)
  case case12 =>
    intro t hm
    rw [List.cons_append, primary?]
    simp only [hm]
    exact Foretells.atEnd_bind
  case case13 =>
    intro t hm t1 tail d hd
    rw [List.cons_append, List.cons_append, primary?, primary?]
    simp only [hm, hd]
    exact .pure (.some ⟨rfl, rfl⟩)
  case case14 =>
    intro t hm t1 tail hnd
    rw [List.cons_append, List.cons_append, primary?, primary?]
    simp only [hm]
    exact .pure .none
  case case15 =>
    intro t tail hp hbr
    rw [List.cons_append, primary?.eq_def, primary?.eq_def]
    simp only [hp]
    exact hbr.bind_parsed fun x rest h h' => .pure (.some ⟨rfl, rfl⟩)
  case case16 =>
    intro t tail hb hstr
    rw [List.cons_append, primary?.eq_def, primary?.eq_def]
    simp only [hb]
    exact hstr.bind_parsed fun x rest h h' => .pure (.some ⟨rfl, rfl⟩)
  case case17 =>
    intro t tail s h1 h2 h3 hs
    rw [List.cons_append, primary?.eq_def, primary?.eq_def]
    simp only [hs]
    exact .pure .none
  case case18 =>
    intro opener ts hitems
    rw [structured, structured]
    exact hitems.bind_parsed fun es rest h h' => .pure ⟨rfl, rfl⟩
  case case19 =>
    intro close opener filled acc
    rw [items.eq_1]
    exact Foretells.atEnd_bind
  case case20 =>
    intro close opener filled acc t tail hc hitems
    rw [List.cons_append, items, items, if_pos hc, if_pos hc]
    exact hitems.bind_parsed fun es rest h h' => .pure ⟨rfl, rfl⟩
  case case21 =>
    intro close opener filled acc t tail hnc hcl
    rw [List.cons_append, items, items, if_neg hnc, if_neg hnc, if_pos hcl, if_pos hcl]
    exact .pure ⟨rfl, rfl⟩
  case case22 =>
    intro close opener filled acc t tail hnc hncl hterms hitems
    rw [List.cons_append, items, items, if_neg hnc, if_neg hnc, if_neg hncl, if_neg hncl]
    refine hterms.bind_option (.throw_parse _) fun x rest h h' => ?_
    exact (hitems x rest h).bind_parsed fun es rest2 h2 h2' => .pure ⟨rfl, rfl⟩
  case case23 =>
    intro opener ts hterms
    rw [bracketed, bracketed]
    refine hterms.bind_option (foretells_closeParen L φ u opener _ ts) fun x rest h h' => ?_
    exact (foretells_closeParen L φ u opener x rest).bind_parsed fun y rest2 h2 h2' =>
      .pure ⟨rfl, rfl⟩
  case case24 =>
    intro n
    rw [afterName.eq_1]
    exact Foretells.atEnd_bind
  case case25 =>
    intro n t tail hp hitems
    rw [List.cons_append, afterName, afterName, if_pos hp, if_pos hp]
    exact hitems.bind_parsed fun es rest h h' => .pure ⟨rfl, rfl⟩
  case case26 =>
    intro n t tail hnp htf
    rw [List.cons_append, afterName, afterName, if_neg hnp, if_neg hnp, if_pos htf, if_pos htf]
    exact .pure ⟨rfl, rfl⟩
  case case27 =>
    intro n t tail hnp htf hbang hprim
    rw [List.cons_append, afterName, afterName, if_neg hnp, if_neg hnp, if_neg htf, if_neg htf,
      if_pos hbang, if_pos hbang]
    exact hprim.bind_option Foretells.needed fun x rest h h' => .pure ⟨rfl, rfl⟩
  case case28 =>
    intro n t tail hnp htf hnb hb hstr
    rw [List.cons_append, afterName, afterName, if_neg hnp, if_neg hnp, if_neg htf, if_neg htf,
      if_neg hnb, if_neg hnb, if_pos hb, if_pos hb]
    exact hstr.bind_parsed fun x rest h h' => .pure ⟨rfl, rfl⟩
  case case29 =>
    intro n t tail hnp htf hnb hnbr
    rw [List.cons_append, afterName, afterName, if_neg hnp, if_neg hnp, if_neg htf, if_neg htf,
      if_neg hnb, if_neg hnb, if_neg hnbr, if_neg hnbr]
    exact .pure ⟨rfl, rfl⟩
  case case30 =>
    intro x
    rw [eagerJoins.eq_1]
    exact Foretells.atEnd_bind
  case case31 =>
    intro x t tail j hj heager hext hjoins
    rw [List.cons_append, eagerJoins, eagerJoins]
    simp only [hj, heager, if_true]
    refine hext.bind_parsed fun y rest h h' => ?_
    exact (hjoins y rest h).bind_parsed fun z rest2 h2 h2' => .pure ⟨rfl, rfl⟩
  case case32 =>
    intro x t tail j hj heager
    rw [List.cons_append, eagerJoins, eagerJoins]
    simp only [hj, heager]
    exact .pure ⟨rfl, rfl⟩
  case case33 =>
    intro x t tail hj
    rw [List.cons_append, eagerJoins, eagerJoins]
    simp only [hj]
    exact .pure ⟨rfl, rfl⟩
  case case34 =>
    intro x t ts hprim
    rw [extend, extend]
    exact hprim.bind_option Foretells.needed fun y rest h h' => .pure ⟨rfl, rfl⟩
  case case35 =>
    intro x t ts op harith
    rw [extend, extend]
    exact harith
  case case36 =>
    intro x t ts hterms
    rw [extend, extend]
    exact hterms.bind_option Foretells.needed fun y rest h h' => .pure ⟨rfl, rfl⟩
  case case37 =>
    intro x t ts
    rw [extend, extend]
    exact .pure ⟨rfl, rfl⟩
  case case38 =>
    intro x t ts op hop habsorb
    rw [extend, extend]
    refine hop.bind_option Foretells.needed fun y rest h h' => ?_
    exact (habsorb y rest h).bind_parsed fun z rest2 h2 h2' => .pure ⟨rfl, rfl⟩
  case case39 =>
    intro x prec
    rw [absorb.eq_1]
    exact Foretells.atEnd_bind
  case case40 =>
    intro x prec t tail j hj hlt hext habsorb
    rw [List.cons_append, absorb, absorb]
    simp only [hj, hlt, if_true]
    refine hext.bind_parsed fun y rest h h' => ?_
    exact (habsorb y rest h).bind_parsed fun z rest2 h2 h2' => .pure ⟨rfl, rfl⟩
  case case41 =>
    intro x prec t tail j hj hlt
    rw [List.cons_append, absorb, absorb]
    simp only [hj, hlt, if_false]
    exact .pure ⟨rfl, rfl⟩
  case case42 =>
    intro x prec t tail hj
    rw [List.cons_append, absorb, absorb]
    simp only [hj]
    exact .pure ⟨rfl, rfl⟩
  case case43 =>
    intro steps op t ts hop habsorb hmore
    rw [arith, arith]
    refine hop.bind_option Foretells.needed fun y rest h h' => ?_
    refine (habsorb y rest h).bind_parsed fun z rest2 h2 h2' => ?_
    cases rest2 with
    | nil => exact Foretells.atEnd_bind
    | cons v after =>
      dsimp only [List.cons_append]
      split
      · next next hv =>
        split
        · next hprec =>
          exact (hmore rest h z (v :: after) h2 v after rfl next).bind_parsed
            fun w rest3 h3 h3' => .pure ⟨rfl, rfl⟩
        · exact .pure ⟨rfl, rfl⟩
      · exact .pure ⟨rfl, rfl⟩
end Parse

theorem TokenStream.parse_of_fault (L : ScanFault) (ts : List Token) :
    (⟨ts, some L⟩ : TokenStream).parse = .error (.scan L) ∨
      ∃ e, (⟨ts, some L⟩ : TokenStream).parse = .error (.parse e) ∧
        ∀ u φ, (⟨ts ++ u, φ⟩ : TokenStream).parse = .error (.parse e) := by
  have hfore : ∀ u φ, Foretells L (fun _ _ => False) (⟨ts, some L⟩ : TokenStream).parse
      (⟨ts ++ u, φ⟩ : TokenStream).parse := by
    intro u φ
    cases ts with
    | nil => exact Foretells.atEnd_bind
    | cons t tail =>
      refine ((Parse.foretells L φ u).1 (t :: tail)).bind_option (.throw_parse _)
        fun x rest h h' => ?_
      cases rest with
      | nil => exact Foretells.atEnd_bind
      | cons v after => exact .throw_parse _
  rcases (hfore [] none).scan_or_parse with h | ⟨e, h, -⟩
  · exact .inl h
  · refine .inr ⟨e, h, fun u φ => ?_⟩
    have := hfore u φ
    rw [h] at this
    exact this

theorem Formula.parse_agrees_with_tokens (s : String) :
    ((TokenStream.scan s).fault = none →
      Formula.parse s = (TokenStream.ofList (TokenStream.scan s).tokens).parse) ∧
    ∀ L, (TokenStream.scan s).fault = some L →
      Formula.parse s = .error (.scan L) ∨
        ∃ e, Formula.parse s = .error (.parse e) ∧
          ∀ u, (TokenStream.ofList ((TokenStream.scan s).tokens ++ u)).parse = .error (.parse e) := by
  rw [Formula.parse]
  generalize TokenStream.scan s = st
  obtain ⟨ts, f⟩ := st
  constructor
  · rintro (rfl : f = none)
    rfl
  · rintro L (rfl : f = some L)
    rcases TokenStream.parse_of_fault L ts with h | ⟨e, h, hu⟩
    · exact .inl h
    · exact .inr ⟨e, h, fun u => hu u none⟩

set_option maxRecDepth 8192 in
theorem Formula.parse_agrees_with_tokens_stray :
    Formula.parse "A1&B1" = (TokenStream.ofList (TokenStream.scan "A1&B1").tokens).parse ∧
    (Formula.parse ") ~" = .error (.scan (.strayChar '~' 2)) ∨
      ∃ e, Formula.parse ") ~" = .error (.parse e) ∧
        ∀ u, (TokenStream.ofList ((TokenStream.scan ") ~").tokens ++ u)).parse =
          .error (.parse e)) :=
  ⟨(Formula.parse_agrees_with_tokens "A1&B1").1 (by cbv),
    (Formula.parse_agrees_with_tokens ") ~").2 (.strayChar '~' 2) (by cbv)⟩

end SheetFormula

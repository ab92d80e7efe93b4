import SheetFormula.Formula
import SheetFormula.Proofs.Grammar
import SheetFormula.Proofs.ScanSpans
import Mathlib
/-!
Where parse faults point. Every parsing function blames only tokens it was given: the token
before a missing operand is the last of them, a bracket left open is an opening bracket among
them, and any other blamed token is one of them. With the spans of scanned tokens, the fault of
any formula spans a non-empty run that starts in the text or right after it, so that its marker
shows at least one caret.
-/

namespace SheetFormula

namespace SyntaxFault

/-- Each token a syntax fault names stands in `ts`; an unclosed bracket names an opener. -/
def Within (ts : List Token) : SyntaxFault → Prop
  | .missing _ after => ts.getLast? = some after
  | .blocked _ t | .stray t _ => t ∈ ts
  | .unclosedBrackets o => o ∈ ts ∧ o.symbol? = some .openParen
  | .unclosedList o => o ∈ ts ∧ (o.symbol? = some .openParen ∨ o.symbol? = some .openBracket)

theorem Within.mono {ts ts' : List Token} {e : SyntaxFault} (h : e.Within ts') (hs : ts' <:+ ts) :
    e.Within ts := by
  cases e with
  | missing what after =>
    obtain ⟨pre, rfl⟩ := hs
    simp only [Within] at *
    rw [List.getLast?_append, h]
    rfl
  | blocked what t => exact hs.subset h
  | stray t place => exact hs.subset h
  | unclosedBrackets o => exact ⟨hs.subset h.1, h.2⟩
  | unclosedList o => exact ⟨hs.subset h.1, h.2⟩

end SyntaxFault

/-- A parse leaves a suffix of `ts` unread. -/
def Parsed.Leaves {α : Type} {n : Nat} (ts : List Token) (p : Parsed α n) : Prop :=
  p.rest <:+ ts

namespace Parse

variable (φ : Option ScanFault)

/-- A result whose syntax fault stands in `ts` or is `also`, and whose scan fault is the
stream's own. -/
def Confined {β : Type} (ts : List Token) (also : Option SyntaxFault) (P : β → Prop) :
    Except FormulaFault β → Prop
  | .ok b => P b
  | .error (.parse e) => e.Within ts ∨ also = some e
  | .error (.scan f) => φ = some f

namespace Confined

variable {φ} {β γ : Type} {ts : List Token} {a : Option SyntaxFault} {P : β → Prop}

lemma bind {Q : γ → Prop} {r : Except FormulaFault β} {f : β → Except FormulaFault γ}
    (h : Confined φ ts a P r) (hf : ∀ b, P b → Confined φ ts a Q (f b)) :
    Confined φ ts a Q (r >>= f) := by
  cases r with
  | error e => cases e <;> exact h
  | ok b => exact hf b h

lemma pure {b : β} (h : P b) : Confined φ ts a P (pure b) := h

lemma throw_within {e : SyntaxFault} (h : e.Within ts) : Confined φ ts a P (throw (.parse e)) :=
  .inl h

lemma throw_also {e : SyntaxFault} : Confined φ ts (some e) P (throw (.parse e)) := .inr rfl

lemma atEnd_bind {f : Unit → Except FormulaFault β} (h : Confined φ ts a P (f ())) :
    Confined φ ts a P (atEnd φ >>= f) := by
  cases φ with
  | none => exact h
  | some _ => rfl

lemma needed {what : Operand} {t : Token} {rest : List Token} :
    Confined φ (t :: rest) a P (throw (Parse.needed φ what t rest)) := by
  cases rest with
  | nil =>
    cases φ with
    | none => exact .inl rfl
    | some _ => rfl
  | cons v _ => exact .inl (List.mem_cons_of_mem _ List.mem_cons_self)

lemma mono {ts' : List Token} {a' : Option SyntaxFault} {P' : β → Prop} {r : Except FormulaFault β}
    (h : Confined φ ts' a' P r) (hs : ts' <:+ ts) (ha : ∀ e, a' = some e → e.Within ts ∨ a = some e)
    (hP : ∀ b, P b → P' b) : Confined φ ts a P' r := by
  cases r with
  | ok b => exact hP b h
  | error e =>
    cases e with
    | scan f => exact h
    | parse e => exact h.elim (fun h => .inl (h.mono hs)) (ha e)

lemma lift {ts' : List Token} {r : Except FormulaFault β} (h : Confined φ ts' none P r)
    (hs : ts' <:+ ts) : Confined φ ts a P r :=
  h.mono hs (fun _ h => (nomatch h)) fun _ => id

lemma widen {ts' : List Token} {r : Except FormulaFault β} (h : Confined φ ts' a P r)
    (hs : ts' <:+ ts) : Confined φ ts a P r :=
  h.mono hs (fun _ h => .inr h) fun _ => id

lemma settle {ts' : List Token} {e : SyntaxFault} {r : Except FormulaFault β}
    (h : Confined φ ts' (some e) P r) (hs : ts' <:+ ts) (he : e.Within ts) : Confined φ ts a P r :=
  h.mono hs (fun _ h => by cases h; exact .inl he) fun _ => id

variable {α : Type} {n : Nat} {ts' : List Token}

lemma bind_parsed {Q : γ → Prop} {r : Except FormulaFault (Parsed α n)}
    {f : Parsed α n → Except FormulaFault γ} (h : Confined φ ts a (Parsed.Leaves ts') r)
    (hf : ∀ x rest h, rest <:+ ts' → Confined φ ts a Q (f ⟨x, rest, h⟩)) :
    Confined φ ts a Q (r >>= f) :=
  h.bind fun ⟨x, rest, h⟩ hr => hf x rest h hr

lemma bind_option {Q : γ → Prop} {r : Except FormulaFault (Option (Parsed α n))}
    {f : Option (Parsed α n) → Except FormulaFault γ}
    (h : Confined φ ts a (fun o => ∀ p ∈ o, Parsed.Leaves ts' p) r)
    (hnone : Confined φ ts a Q (f none))
    (hsome : ∀ x rest h, rest <:+ ts' → Confined φ ts a Q (f (some ⟨x, rest, h⟩))) :
    Confined φ ts a Q (r >>= f) := by
  refine h.bind fun o ho => ?_
  cases o with
  | none => exact hnone
  | some p => exact hsome p.value p.rest p.shorter (ho p rfl)

end Confined

lemma none_leaves {α : Type} {n : Nat} {ts : List Token} :
    ∀ p ∈ (none : Option (Parsed α n)), p.Leaves ts :=
  nofun

lemma leaves_some {α : Type} {n : Nat} {ts : List Token} {x : α} {rest : List Token}
    {h : rest.length < n} (hs : rest <:+ ts) : ∀ p ∈ some (⟨x, rest, h⟩ : Parsed α n), p.Leaves ts := by
  rintro p ⟨⟩
  exact hs

lemma closeParen_confined (opener : Token) (x : Expr) (ts : List Token) :
    Confined φ ts (some (.unclosedBrackets opener)) (Parsed.Leaves ts)
      (closeParen φ opener x ts) := by
  cases ts with
  | nil =>
    rw [closeParen.eq_1]
    exact .atEnd_bind .throw_also
  | cons t tail =>
    rw [closeParen]
    split
    · exact .pure (List.suffix_cons _ _)
    · exact .throw_also

theorem confined :
    (∀ ts, Confined φ ts none (fun o => ∀ p ∈ o, p.Leaves ts) (terms? φ ts)) ∧
    (∀ pending x ts, Confined φ ts none (Parsed.Leaves ts) (termsAfter φ pending x ts)) ∧
    (∀ ts, Confined φ ts none (fun o => ∀ p ∈ o, p.Leaves ts) (operand? φ ts)) ∧
    (∀ ts, Confined φ ts none (fun o => ∀ p ∈ o, p.Leaves ts) (negation? φ ts)) ∧
    (∀ ts, Confined φ ts none (fun o => ∀ p ∈ o, p.Leaves ts) (primary? φ ts)) ∧
    (∀ opener ts, Confined φ ts (some (.unclosedList opener)) (Parsed.Leaves ts)
      (structured φ opener ts)) ∧
    (∀ close opener filled acc ts, Confined φ ts (some (.unclosedList opener)) (Parsed.Leaves ts)
      (items φ close opener filled acc ts)) ∧
    (∀ opener ts, Confined φ ts (some (.unclosedBrackets opener)) (Parsed.Leaves ts)
      (bracketed φ opener ts)) ∧
    (∀ n ts, Confined φ ts none (Parsed.Leaves ts) (afterName φ n ts)) ∧
    (∀ x ts, Confined φ ts none (Parsed.Leaves ts) (eagerJoins φ x ts)) ∧
    (∀ x j t ts, Confined φ (t :: ts) none (Parsed.Leaves ts) (extend φ x j t ts)) ∧
    (∀ x prec ts, Confined φ ts none (Parsed.Leaves ts) (absorb φ x prec ts)) ∧
    (∀ steps op t ts, Confined φ (t :: ts) none (Parsed.Leaves ts) (arith φ steps op t ts)) := by
  apply Parse.terms?.mutual_induct
  case case1 =>
    intro ts hop hafter
    rw [terms?]
    refine hop.bind_option (.pure none_leaves) fun x rest h hs => ?_
    refine ((hafter x rest h).lift hs).bind_parsed fun y rest2 h2 hs2 => ?_
    exact .pure (leaves_some (hs2.trans hs))
  case case2 =>
    intro pending x ts hjoins hneg hconcat hop hinter
    rw [termsAfter]
    refine hjoins.bind_parsed fun y rest h hs => ?_
    cases rest with
    | nil => exact .atEnd_bind (.pure List.nil_suffix)
    | cons t tail =>
      dsimp only
      split
      · have htail : tail <:+ ts := (List.suffix_cons t tail).trans hs
        refine ((hneg _ h t tail rfl).lift htail).bind_option (Confined.needed.lift hs)
          fun z rest2 h2 hs2 => ?_
        refine ((hconcat y _ h t tail rfl z rest2 h2).lift (hs2.trans htail)).bind_parsed
          fun v rest3 h3 hs3 => ?_
        exact .pure (hs3.trans (hs2.trans htail))
      · refine ((hop _ h t tail rfl).lift hs).bind_option (.pure hs) fun z rest2 h2 hs2 => ?_
        refine ((hinter y _ h t tail rfl z rest2 h2).lift (hs2.trans hs)).bind_parsed
          fun v rest3 h3 hs3 => ?_
        exact .pure (hs3.trans (hs2.trans hs))
  case case3 =>
    intro ts hprim hneg
    rw [operand?]
    exact hprim.bind_option hneg fun x rest h hs => .pure (leaves_some hs)
  case case4 =>
    rw [negation?.eq_1]
    exact .atEnd_bind (.pure none_leaves)
  case case5 =>
    intro t tail hsub hop
    rw [negation?, if_pos hsub]
    exact (hop.lift (List.suffix_cons t tail)).bind_option .needed fun x rest h hs =>
      .pure (leaves_some (hs.trans (List.suffix_cons t tail)))
  case case6 =>
    intro t tail hsub
    rw [negation?, if_neg hsub]
    exact .pure none_leaves
  case case7 =>
    rw [primary?.eq_1]
    exact .atEnd_bind (.pure none_leaves)
  case case8 =>
    intro t tail n hname hafter
    rw [primary?.eq_def]
    simp only [hname]
    exact (hafter.lift (List.suffix_cons t tail)).bind_parsed fun x rest h hs =>
      .pure (leaves_some (hs.trans (List.suffix_cons t tail)))
  case case9 =>
    intro t tail s hs
    rw [primary?.eq_def]
    simp only [hs]
    exact .pure (leaves_some (List.suffix_cons t tail))
  case case10 =>
    intro t tail e he
    rw [primary?.eq_def]
    simp only [he]
    exact .pure (leaves_some (List.suffix_cons t tail))
  case case11 =>
    intro t tail d hd
    rw [primary?.eq_def]
    simp only [hd]
    exact .pure (leaves_some (List.suffix_cons t tail))
  case case12 =>
    intro t hm
    rw [primary?]
    simp only [hm]
    exact .atEnd_bind (.pure none_leaves)
  case case13 =>
    intro t hm t1 tail d hd
    rw [primary?]
    simp only [hm, hd]
    exact .pure (leaves_some ((List.suffix_cons t1 tail).trans (List.suffix_cons t _)))
  case case14 =>
    intro t hm t1 tail hnd
    rw [primary?]
    simp only [hm]
    exact .pure none_leaves
  case case15 =>
    intro t tail hp hbr
    rw [primary?.eq_def]
    simp only [hp]
    have hopen : (SyntaxFault.unclosedBrackets t).Within (t :: tail) :=
      ⟨List.mem_cons_self, Token.symbol?_eq_some.2 hp⟩
    exact (hbr.settle (List.suffix_cons t tail) hopen).bind_parsed
      fun x rest h hs => .pure (leaves_some (hs.trans (List.suffix_cons t tail)))
  case case16 =>
    intro t tail hb hstr
    rw [primary?.eq_def]
    simp only [hb]
    have hopen : (SyntaxFault.unclosedList t).Within (t :: tail) :=
      ⟨List.mem_cons_self, .inr (Token.symbol?_eq_some.2 hb)⟩
    exact (hstr.settle (List.suffix_cons t tail) hopen).bind_parsed
      fun x rest h hs => .pure (leaves_some (hs.trans (List.suffix_cons t tail)))
  case case17 =>
    intro t tail s h1 h2 h3 hs
    rw [primary?.eq_def]
    simp only [hs]
    exact .pure none_leaves
  case case18 =>
    intro opener ts hitems
    rw [structured]
    exact hitems.bind_parsed fun es rest h hs => .pure hs
  case case19 =>
    intro close opener filled acc
    rw [items.eq_1]
    exact .atEnd_bind .throw_also
  case case20 =>
    intro close opener filled acc t tail hc hitems
    rw [items, if_pos hc]
    exact (hitems.widen (List.suffix_cons t tail)).bind_parsed
      fun es rest h hs => .pure (hs.trans (List.suffix_cons t tail))
  case case21 =>
    intro close opener filled acc t tail hnc hcl
    rw [items, if_neg hnc, if_pos hcl]
    exact .pure (List.suffix_cons t tail)
  case case22 =>
    intro close opener filled acc t tail hnc hncl hterms hitems
    rw [items, if_neg hnc, if_neg hncl]
    refine (hterms.lift (List.suffix_refl _)).bind_option (.throw_within List.mem_cons_self)
      fun x rest h hs => ?_
    exact ((hitems x rest h).widen hs).bind_parsed fun es rest2 h2 hs2 => .pure (hs2.trans hs)
  case case23 =>
    intro opener ts hterms
    rw [bracketed]
    refine (hterms.lift (List.suffix_refl _)).bind_option (closeParen_confined φ opener _ ts)
      fun x rest h hs => ?_
    exact ((closeParen_confined φ opener x rest).widen hs).bind_parsed
      fun y rest2 h2 hs2 => .pure (hs2.trans hs)
  case case24 =>
    intro n
    rw [afterName.eq_1]
    exact .atEnd_bind (.pure List.nil_suffix)
  case case25 =>
    intro n t tail hp hitems
    rw [afterName, if_pos hp]
    have hopen : (SyntaxFault.unclosedList t).Within (t :: tail) := ⟨List.mem_cons_self, .inl hp⟩
    exact (hitems.settle (List.suffix_cons t tail) hopen).bind_parsed
      fun es rest h hs => .pure (hs.trans (List.suffix_cons t tail))
  case case26 =>
    intro n t tail hnp htf
    rw [afterName, if_neg hnp, if_pos htf]
    exact .pure (List.suffix_refl _)
  case case27 =>
    intro n t tail hnp htf hbang hprim
    rw [afterName, if_neg hnp, if_neg htf, if_pos hbang]
    exact (hprim.lift (List.suffix_cons t tail)).bind_option .needed fun x rest h hs =>
      .pure (hs.trans (List.suffix_cons t tail))
  case case28 =>
    intro n t tail hnp htf hnb hb hstr
    rw [afterName, if_neg hnp, if_neg htf, if_neg hnb, if_pos hb]
    have hopen : (SyntaxFault.unclosedList t).Within (t :: tail) := ⟨List.mem_cons_self, .inr hb⟩
    exact (hstr.settle (List.suffix_cons t tail) hopen).bind_parsed
      fun es rest h hs => .pure (hs.trans (List.suffix_cons t tail))
  case case29 =>
    intro n t tail hnp htf hnb hnbr
    rw [afterName, if_neg hnp, if_neg htf, if_neg hnb, if_neg hnbr]
    exact .pure (List.suffix_refl _)
  case case30 =>
    intro x
    rw [eagerJoins.eq_1]
    exact .atEnd_bind (.pure List.nil_suffix)
  case case31 =>
    intro x t tail j hj heager hext hjoins
    rw [eagerJoins]
    simp only [hj, heager, if_true]
    refine hext.bind_parsed fun y rest h hs => ?_
    have hrest : rest <:+ t :: tail := hs.trans (List.suffix_cons t tail)
    exact ((hjoins y rest h).lift hrest).bind_parsed fun z rest2 h2 hs2 => .pure (hs2.trans hrest)
  case case32 =>
    intro x t tail j hj heager
    rw [eagerJoins]
    simp only [hj, heager]
    exact .pure (List.suffix_refl _)
  case case33 =>
    intro x t tail hj
    rw [eagerJoins]
    simp only [hj]
    exact .pure (List.suffix_refl _)
  case case34 =>
    intro x t ts hprim
    rw [extend]
    exact (hprim.lift (List.suffix_cons t ts)).bind_option .needed fun y rest h hs => .pure hs
  case case35 =>
    intro x t ts op harith
    rw [extend]
    exact harith
  case case36 =>
    intro x t ts hterms
    rw [extend]
    exact (hterms.lift (List.suffix_cons t ts)).bind_option .needed fun y rest h hs => .pure hs
  case case37 =>
    intro x t ts
    rw [extend]
    exact .pure (List.suffix_refl _)
  case case38 =>
    intro x t ts op hop habsorb
    rw [extend]
    refine (hop.lift (List.suffix_cons t ts)).bind_option .needed fun y rest h hs => ?_
    exact ((habsorb y rest h).lift (hs.trans (List.suffix_cons t ts))).bind_parsed
      fun z rest2 h2 hs2 => .pure (hs2.trans hs)
  case case39 =>
    intro x prec
    rw [absorb.eq_1]
    exact .atEnd_bind (.pure List.nil_suffix)
  case case40 =>
    intro x prec t tail j hj hlt hext habsorb
    rw [absorb]
    simp only [hj, hlt, if_true]
    refine hext.bind_parsed fun y rest h hs => ?_
    have hrest : rest <:+ t :: tail := hs.trans (List.suffix_cons t tail)
    exact ((habsorb y rest h).lift hrest).bind_parsed fun z rest2 h2 hs2 => .pure (hs2.trans hrest)
  case case41 =>
    intro x prec t tail j hj hlt
    rw [absorb]
    simp only [hj, hlt, if_false]
    exact .pure (List.suffix_refl _)
  case case42 =>
    intro x prec t tail hj
    rw [absorb]
    simp only [hj]
    exact .pure (List.suffix_refl _)
  case case43 =>
    intro steps op t ts hop habsorb hmore
    rw [arith]
    refine (hop.lift (List.suffix_cons t ts)).bind_option .needed fun y rest h hs => ?_
    refine ((habsorb y rest h).lift (hs.trans (List.suffix_cons t ts))).bind_parsed
      fun z rest2 h2 hs2 => ?_
    have hrest : rest2 <:+ ts := hs2.trans hs
    cases rest2 with
    | nil => exact .atEnd_bind (.pure List.nil_suffix)
    | cons v after =>
      dsimp only
      split
      · next next hv =>
        split
        · have hafter : v :: after <:+ t :: ts := hrest.trans (List.suffix_cons t ts)
          exact ((hmore rest h z (v :: after) h2 v after rfl next).lift hafter).bind_parsed
            fun w rest3 h3 hs3 => .pure (hs3.trans ((List.suffix_cons v after).trans hrest))
        · exact .pure hrest
      · exact .pure hrest

end Parse

namespace SyntaxFault

variable {ts : List Token} {e : SyntaxFault}

theorem Within.bounds {len : Nat} (h : e.Within ts) (hts : ∀ t ∈ ts, t.Inside 0 len) :
    0 ≤ e.start ∧ e.start < e.stop ∧ e.stop ≤ len + 1 ∧ e.start ≤ len := by
  have hspan : ∀ t ∈ ts, e.start = t.start → e.stop = t.stop →
      0 ≤ e.start ∧ e.start < e.stop ∧ e.stop ≤ len + 1 ∧ e.start ≤ len := by
    intro t ht h1 h2
    have := hts t ht
    simp only [Token.Inside] at this
    omega
  cases e with
  | missing what after =>
    have := hts after (List.mem_of_getLast? h)
    simp only [Token.Inside, start, stop] at *
    omega
  | blocked what t => exact hspan t h rfl rfl
  | unclosedBrackets o => exact hspan o h.1 rfl rfl
  | unclosedList o => exact hspan o h.1 rfl rfl
  | stray t place => exact hspan t h rfl rfl

end SyntaxFault

end SheetFormula

import SheetFormula.Proofs.Grammar
/-!
The parser reads every derivation of the grammar: a complete token list parses to a tree exactly
when the grammar derives the tree from all of its tokens.
-/

namespace SheetFormula

namespace Grammar

lemma primary?_of_noPrimary {ts : List Token} (h : NoPrimary ts) :
    Parse.primary? none ts = .ok none := by
  match ts, h with
  | [], _ => rw [Parse.primary?]; rfl
  | t :: tail, .inl hs =>
    obtain ⟨s, hs, h1, h2, h3⟩ := Token.startsOperand_eq_false.1 hs
    rw [Parse.primary?.eq_def]
    simp only [hs]
    rfl
  | t :: tail, .inr ⟨hm, hu⟩ =>
    rw [Parse.primary?.eq_def]
    simp only [hm]
    cases tail with
    | nil => rfl
    | cons u rest =>
      simp only [List.head?_cons, Option.mem_def, Option.some.injEq, forall_eq'] at hu
      simp only
      split
      · simp_all [Token.isNumber]
      · rfl

lemma operand?_of_noOperand {ts : List Token} (h : NoOperand ts) :
    Parse.operand? none ts = .ok none := by
  have hp : NoPrimary ts := by
    cases ts with
    | nil => trivial
    | cons t tail => exact .inl (h t rfl)
  rw [Parse.operand?, primary?_of_noPrimary hp]
  show Parse.negation? none ts = .ok none
  cases ts with
  | nil => rw [Parse.negation?]; rfl
  | cons t tail =>
    rw [Parse.negation?, if_neg]
    · rfl
    · intro hm
      have := h t rfl
      simp [Token.startsOperand, Token.symbol?_eq_some.1 hm] at this

lemma terms?_of_noOperand {ts : List Token} (h : NoOperand ts) :
    Parse.terms? none ts = .ok none := by
  rw [Parse.terms?, operand?_of_noOperand h]
  rfl

mutual

theorem Primary.complete {ts : List Token} {x : Expr} {rest : List Token} :
    Primary ts x rest → ∃ p, Parse.primary? none ts = .ok (some p) ∧ p.value = x ∧ p.rest = rest
  | .name hn ha => by
    obtain ⟨p, ea, rfl, rfl⟩ := ha.complete
    simp only [Parse.primary?.eq_def, hn, bind, Except.bind, ea]
    exact ⟨_, rfl, rfl, rfl⟩
  | .string hs => by simp only [Parse.primary?.eq_def, hs]; exact ⟨_, rfl, rfl, rfl⟩
  | .error he => by simp only [Parse.primary?.eq_def, he]; exact ⟨_, rfl, rfl, rfl⟩
  | .number hd => by simp only [Parse.primary?.eq_def, hd]; exact ⟨_, rfl, rfl, rfl⟩
  | .negative hm hd => by simp only [Parse.primary?.eq_def, hm, hd]; exact ⟨_, rfl, rfl, rfl⟩
  | .paren (t := t) hp hx => by
    obtain ⟨p, ex, hv, rfl⟩ := hx.complete t
    simp only [Parse.primary?.eq_def, hp, bind, Except.bind, ex]
    exact ⟨_, rfl, hv, rfl⟩
  | .bracket (t := t) hb hi => by
    obtain ⟨p, ei, rfl, rfl⟩ := hi.complete t
    simp only [Parse.primary?.eq_def, hb, Parse.structured, bind, Except.bind, ei]
    exact ⟨_, rfl, rfl, rfl⟩

theorem Operand.complete {ts : List Token} {x : Expr} {rest : List Token} :
    Operand ts x rest → ∃ p, Parse.operand? none ts = .ok (some p) ∧ p.value = x ∧ p.rest = rest
  | .primary hp => by
    obtain ⟨p, ep, rfl, rfl⟩ := hp.complete
    exact ⟨p, by rw [Parse.operand?, ep]; rfl, rfl, rfl⟩
  | .negation (t := t) hm hu hx => by
    obtain ⟨p, ex, rfl, rfl⟩ := hx.complete
    have hnp : NoPrimary (t :: _) := Or.inr ⟨hm, hu⟩
    rw [Parse.operand?, primary?_of_noPrimary hnp]
    simp only [bind, Except.bind]
    rw [Parse.negation?, if_pos (Token.symbol?_eq_some.2 hm)]
    simp only [bind, Except.bind, ex]
    exact ⟨_, rfl, rfl, rfl⟩

theorem Terms.complete {ts : List Token} {y : Expr} {rest : List Token} :
    Terms ts y rest → ∃ p, Parse.terms? none ts = .ok (some p) ∧ p.value = y ∧ p.rest = rest
  | .mk hx ha => by
    -- each sub-derivation is used before `rfl` substitutes into the indices of the others,
    -- which would hide them from the structural recursion
    have cx := hx.complete
    have ca := ha.complete
    obtain ⟨p, ex, rfl, rfl⟩ := cx
    obtain ⟨q, ea, rfl, rfl⟩ := ca
    rw [Parse.terms?, ex]
    simp only [bind, Except.bind, ea]
    exact ⟨_, rfl, rfl, rfl⟩

theorem TermsAfter.complete {pending : List (Joint × Expr)} {x : Expr} {ts : List Token}
    {y : Expr} {rest : List Token} :
    TermsAfter pending x ts y rest →
      ∃ p, Parse.termsAfter none pending x ts = .ok p ∧ p.value = y ∧ p.rest = rest
  | .last hj hamp hno => by
    obtain ⟨⟨y, rest, h⟩, ej, rfl, rfl⟩ := hj.complete.1 rfl
    rw [Parse.termsAfter, ej]
    cases rest with
    | nil => exact ⟨_, rfl, rfl, rfl⟩
    | cons t tail =>
      have hna : ¬t.symbol? = some .ampersand := mt Token.symbol?_eq_some.1 (hamp t rfl)
      simp only [bind, Except.bind, hna, if_false, operand?_of_noOperand hno]
      exact ⟨_, rfl, rfl, rfl⟩
  | .concat hj hamp hz hv => by
    have cj := hj.complete.1 rfl
    have cz := hz.complete
    have cv := hv.complete
    obtain ⟨p, ej, rfl, hr⟩ := cj
    obtain ⟨q, ez, rfl, rfl⟩ := cz
    obtain ⟨r, ev, rfl, rfl⟩ := cv
    rcases p with ⟨y, _, h⟩
    cases hr
    rw [Parse.termsAfter, ej]
    simp only [bind, Except.bind, Token.symbol?_eq_some.2 hamp, if_true, ez, ev]
    exact ⟨_, rfl, rfl, rfl⟩
  | .intersection hj hamp hz hv => by
    have cj := hj.complete.1 rfl
    have cz := hz.complete
    have cv := hv.complete
    obtain ⟨p, ej, rfl, hr⟩ := cj
    obtain ⟨q, ez, rfl, rfl⟩ := cz
    obtain ⟨r, ev, rfl, rfl⟩ := cv
    rcases p with ⟨y, _, h⟩
    cases hr
    rw [Parse.termsAfter, ej]
    simp only [bind, Except.bind, mt Token.symbol?_eq_some.1 hamp, if_false, ez, ev]
    exact ⟨_, rfl, rfl, rfl⟩

theorem AfterName.complete {n : String} {ts : List Token} {x : Expr} {rest : List Token} :
    AfterName n ts x rest → ∃ p, Parse.afterName none n ts = .ok p ∧ p.value = x ∧ p.rest = rest
  | .call (t := t) hp hi => by
    obtain ⟨p, ei, rfl, rfl⟩ := hi.complete t
    rw [Parse.afterName, if_pos (Token.symbol?_eq_some.2 hp)]
    simp only [bind, Except.bind, ei]
    exact ⟨_, rfl, rfl, rfl⟩
  | .sheet hT hF hb hx => by
    obtain ⟨p, ex, rfl, rfl⟩ := hx.complete
    rw [Parse.afterName, if_neg (by simp [Token.symbol?, hb]), if_neg (by simp [hT, hF]),
      if_pos (Token.symbol?_eq_some.2 hb)]
    simp only [bind, Except.bind, ex]
    exact ⟨_, rfl, rfl, rfl⟩
  | .table (t := t) hT hF hb hi => by
    obtain ⟨p, ei, rfl, rfl⟩ := hi.complete t
    rw [Parse.afterName, if_neg (by simp [Token.symbol?, hb]), if_neg (by simp [hT, hF]),
      if_neg (by simp [Token.symbol?, hb]), if_pos (Token.symbol?_eq_some.2 hb)]
    simp only [bind, Except.bind, Parse.structured, ei]
    exact ⟨_, rfl, rfl, rfl⟩
  | @AfterName.value _ ts hv => by
    cases ts with
    | nil => rw [Parse.afterName]; exact ⟨_, rfl, rfl, rfl⟩
    | cons t tail =>
      obtain ⟨hp, hqual⟩ := hv t rfl
      rw [Parse.afterName, if_neg (mt Token.symbol?_eq_some.1 hp)]
      by_cases htf : n = "TRUE" ∨ n = "FALSE"
      · rw [if_pos htf]
        exact ⟨_, rfl, rfl, rfl⟩
      · have hq := hqual (fun h => htf (.inl h)) (fun h => htf (.inr h))
        rw [if_neg htf, if_neg (mt Token.symbol?_eq_some.1 hq.1),
          if_neg (mt Token.symbol?_eq_some.1 hq.2), nameValue_of_ne htf]
        exact ⟨_, rfl, rfl, rfl⟩

theorem Parens.complete {ts : List Token} {x : Expr} {rest : List Token} (opener : Token) :
    Parens ts x rest →
      ∃ p, Parse.bracketed none opener ts = .ok p ∧ p.value = .bracketed x ∧ p.rest = rest
  | .empty hc => by
    rw [Parse.bracketed, terms?_of_noOperand (by simp [NoOperand, Token.startsOperand, hc])]
    simp only [bind, Except.bind]
    rw [Parse.closeParen, if_pos (Token.symbol?_eq_some.2 hc)]
    exact ⟨_, rfl, rfl, rfl⟩
  | .inner hx hc => by
    obtain ⟨p, ex, rfl, hr⟩ := hx.complete
    rcases p with ⟨x, _, h⟩
    cases hr
    rw [Parse.bracketed, ex]
    simp only [bind, Except.bind]
    rw [Parse.closeParen, if_pos (Token.symbol?_eq_some.2 hc)]
    exact ⟨_, rfl, rfl, rfl⟩

theorem Items.complete {close : Symbol} {filled : Bool} {acc : List Expr} {ts : List Token}
    {es : List Expr} {rest : List Token} (opener : Token) :
    Items close filled acc ts es rest →
      ∃ p, Parse.items none close opener filled acc ts = .ok p ∧ p.value = es ∧ p.rest = rest
  | .comma hc hi => by
    obtain ⟨p, ei, rfl, rfl⟩ := hi.complete opener
    rw [Parse.items, if_pos (Token.symbol?_eq_some.2 hc)]
    simp only [bind, Except.bind, ei]
    exact ⟨_, rfl, rfl, rfl⟩
  | .close hnc hcl => by
    rw [Parse.items, if_neg (mt Token.symbol?_eq_some.1 hnc), if_pos (Token.symbol?_eq_some.2 hcl)]
    exact ⟨_, rfl, rfl, rfl⟩
  | .item hnc hncl hx hi => by
    have cx := hx.complete
    have ci := hi.complete opener
    obtain ⟨p, ex, rfl, rfl⟩ := cx
    obtain ⟨q, ei, rfl, rfl⟩ := ci
    rw [Parse.items, if_neg (mt Token.symbol?_eq_some.1 hnc),
      if_neg (mt Token.symbol?_eq_some.1 hncl)]
    simp only [bind, Except.bind, ex, ei]
    exact ⟨_, rfl, rfl, rfl⟩

theorem Joins.complete {takes : Join → Bool} {x : Expr} {ts : List Token} {y : Expr}
    {rest : List Token} : Joins takes x ts y rest →
      (takes = Join.isEager →
        ∃ p, Parse.eagerJoins none x ts = .ok p ∧ p.value = y ∧ p.rest = rest) ∧
      (∀ prec, takes = absorbs prec →
        ∃ p, Parse.absorb none x prec ts = .ok p ∧ p.value = y ∧ p.rest = rest)
  | @Joins.stop _ _ ts hend => by
    refine ⟨fun htakes => ?_, fun prec htakes => ?_⟩
    · subst htakes
      cases ts with
      | nil => rw [Parse.eagerJoins]; exact ⟨_, rfl, rfl, rfl⟩
      | cons t tail =>
        rw [Parse.eagerJoins]
        cases hj : t.join? with
        | none => exact ⟨_, rfl, rfl, rfl⟩
        | some j =>
          simp only [hend t rfl j hj, Bool.false_eq_true, if_false]
          exact ⟨_, rfl, rfl, rfl⟩
    · subst htakes
      cases ts with
      | nil => rw [Parse.absorb]; exact ⟨_, rfl, rfl, rfl⟩
      | cons t tail =>
        rw [Parse.absorb]
        cases hj : t.join? with
        | none => exact ⟨_, rfl, rfl, rfl⟩
        | some j =>
          have := hend t rfl j hj
          simp only [absorbs, decide_eq_false_iff_not] at this
          simp only [this, if_false]
          exact ⟨_, rfl, rfl, rfl⟩
  | .step (t := t) hj htakes he hz => by
    have ce := he.complete t
    have cz := hz.complete
    obtain ⟨p, ee, rfl, rfl⟩ := ce
    refine ⟨fun htk => ?_, fun prec htk => ?_⟩
    · subst htk
      obtain ⟨q, ez, rfl, rfl⟩ := cz.1 rfl
      rw [Parse.eagerJoins]
      simp only [hj, htakes, if_true, bind, Except.bind, ee, ez]
      exact ⟨_, rfl, rfl, rfl⟩
    · subst htk
      obtain ⟨q, ez, rfl, rfl⟩ := cz.2 prec rfl
      simp only [absorbs, decide_eq_true_eq] at htakes
      rw [Parse.absorb]
      simp only [hj, htakes, if_true, bind, Except.bind, ee, ez]
      exact ⟨_, rfl, rfl, rfl⟩

theorem Extend.complete {x : Expr} {j : Join} {ts : List Token} {y : Expr} {rest : List Token}
    (t : Token) :
    Extend x j ts y rest → ∃ p, Parse.extend none x j t ts = .ok p ∧ p.value = y ∧ p.rest = rest
  | .range hy => by
    obtain ⟨p, ey, rfl, rfl⟩ := hy.complete
    rw [Parse.extend]
    simp only [bind, Except.bind, ey]
    exact ⟨_, rfl, rfl, rfl⟩
  | .arith ha => by
    obtain ⟨p, ea, rfl, rfl⟩ := ha.complete t
    exact ⟨p, by rw [Parse.extend]; exact ea, rfl, rfl⟩
  | .concat hy => by
    obtain ⟨p, ey, rfl, rfl⟩ := hy.complete
    rw [Parse.extend]
    simp only [bind, Except.bind, ey]
    exact ⟨_, rfl, rfl, rfl⟩
  | .percent => by rw [Parse.extend]; exact ⟨_, rfl, rfl, rfl⟩
  | .compare hy hz => by
    have cy := hy.complete
    have cz := hz.complete.2 0 rfl
    obtain ⟨p, ey, rfl, rfl⟩ := cy
    obtain ⟨q, ez, rfl, rfl⟩ := cz
    rw [Parse.extend]
    simp only [bind, Except.bind, ey, ez]
    exact ⟨_, rfl, rfl, rfl⟩

theorem Arith.complete {steps : List (StepKind × Expr)} {op : ArithOp} {ts : List Token}
    {y : Expr} {rest : List Token} (t : Token) :
    Arith steps op ts y rest →
      ∃ p, Parse.arith none steps op t ts = .ok p ∧ p.value = y ∧ p.rest = rest
  | .last hy hz hnext => by
    have cy := hy.complete
    have cz := hz.complete.2 _ rfl
    obtain ⟨p, ey, rfl, rfl⟩ := cy
    obtain ⟨⟨z, rest, h⟩, ez, rfl, rfl⟩ := cz
    rw [Parse.arith]
    simp only [bind, Except.bind, ey, ez]
    cases rest with
    | nil => exact ⟨_, rfl, rfl, rfl⟩
    | cons u after =>
      simp only
      split
      · rename_i next hnu
        rw [if_neg (hnext u rfl next (Token.symbol?_eq_some.1 hnu))]
        exact ⟨_, rfl, rfl, rfl⟩
      · exact ⟨_, rfl, rfl, rfl⟩
  | .more (u := u) hy hz hu hprec hv => by
    have cy := hy.complete
    have cz := hz.complete.2 _ rfl
    have cv := hv.complete u
    obtain ⟨p, ey, rfl, rfl⟩ := cy
    obtain ⟨q, ez, rfl, hr⟩ := cz
    obtain ⟨r, ev, rfl, rfl⟩ := cv
    rcases q with ⟨z, _, h⟩
    cases hr
    rw [Parse.arith]
    simp only [bind, Except.bind, ey, ez, Token.symbol?_eq_some.2 hu, hprec, if_true, ev]
    exact ⟨_, rfl, rfl, rfl⟩

end

theorem parse_eq_some_iff {ts : List Token} {e : Expr} :
    (TokenStream.ofList ts).parse = .ok (some e) ↔ Terms ts e [] := by
  refine ⟨derives_of_parse, fun h => ?_⟩
  obtain ⟨p, hp, rfl, hr⟩ := h.complete
  cases ts with
  | nil => rw [terms?_of_noOperand (by simp [NoOperand])] at hp; cases hp
  | cons t tail =>
    rcases p with ⟨x, _, hlt⟩
    cases hr
    simp only [TokenStream.parse, TokenStream.ofList, hp, bind, Except.bind]
    rfl

end Grammar

end SheetFormula

import SheetFormula.Proofs.Completeness
import SheetFormula.Proofs.FaultSpans
/-!
How the parser consumes its tokens: every parsing function returns a suffix of its tokens, an
operand parser that finds nothing consumes nothing, and the loops consume nothing only when they
stop at once. These facts carry the recursion of the parser.
-/

namespace SheetFormula

namespace Parse

open Grammar

/-- A parse that leaves `rest` took at least one token of `ts`. -/
def Consumed (ts rest : List Token) : Prop :=
  ∃ taken, taken ≠ [] ∧ ts = taken ++ rest

theorem consumed_of_suffix {ts rest : List Token} (hs : rest <:+ ts)
    (hl : rest.length < ts.length) : Consumed ts rest := by
  obtain ⟨taken, rfl⟩ := hs
  refine ⟨taken, ?_, rfl⟩
  rintro rfl
  simp at hl

theorem consumed_cons {t : Token} {ts rest : List Token} (hs : rest <:+ ts) :
    Consumed (t :: ts) rest :=
  consumed_of_suffix (hs.trans (List.suffix_cons t ts))
    (Nat.lt_of_le_of_lt hs.length_le (by simp))

variable (φ : Option ScanFault)

theorem Confined.leaves {α : Type} {n : Nat} {ts ts' : List Token} {a : Option SyntaxFault}
    {r : Except FormulaFault (Parsed α n)} {p : Parsed α n}
    (h : Confined φ ts' a (Parsed.Leaves ts) r) (hr : r = .ok p) : p.rest <:+ ts := by
  subst hr
  exact h

theorem Confined.leaves_some {α : Type} {n : Nat} {ts : List Token}
    {r : Except FormulaFault (Option (Parsed α n))} {p : Parsed α n}
    (h : Confined φ ts none (fun o => ∀ p ∈ o, Parsed.Leaves ts p) r) (hr : r = .ok (some p)) :
    p.rest <:+ ts := by
  subst hr
  exact h p rfl

theorem negation?_eq_ok_none_iff (ts : List Token) :
    negation? φ ts = .ok none ↔
      (∀ t ∈ ts.head?, t.lexeme ≠ .symbol (.arith .subtract)) ∧ (ts = [] → φ = none) := by
  cases ts with
  | nil =>
    cases φ with
    | none => exact ⟨fun _ => ⟨nofun, fun _ => rfl⟩, fun _ => by rw [negation?]; rfl⟩
    | some f =>
      refine ⟨fun h => ?_, fun h => nomatch h.2 rfl⟩
      rw [negation?] at h
      cases h
  | cons t tail =>
    simp only [List.head?_cons, Option.mem_def, Option.some.injEq, forall_eq', reduceCtorEq,
      false_implies, and_true]
    rw [negation?]
    by_cases hm : t.symbol? = some (.arith .subtract)
    · rw [if_pos hm]
      refine ⟨fun h => ?_, fun h => absurd (Token.symbol?_eq_some.1 hm) h⟩
      obtain ⟨a, -, h⟩ := Except.bind_eq_ok.1 h
      rcases a with _ | ⟨x, rest, hlt⟩ <;> cases h
    · rw [if_neg hm]
      exact ⟨fun _ hsub => hm (Token.symbol?_eq_some.2 hsub), fun _ => rfl⟩

theorem primary?_eq_ok_none_iff (ts : List Token) :
    primary? φ ts = .ok none ↔ NoPrimary ts ∧ (ts = [] → φ = none) ∧
      (∀ t, ts = [t] → t.lexeme = .symbol (.arith .subtract) → φ = none) := by
  constructor
  · intro h
    refine ⟨(derives_of_ok φ).2.2.2.2.1 ts none h, ?_, ?_⟩
    · rintro rfl
      cases φ with
      | none => rfl
      | some f =>
        rw [primary?] at h
        cases h
    · rintro t rfl hm
      cases φ with
      | none => rfl
      | some f =>
        rw [primary?.eq_def] at h
        simp only [hm] at h
        cases h
  · rintro ⟨hno, hend, hminus⟩
    cases ts with
    | nil =>
      rw [hend rfl]
      exact primary?_of_noPrimary hno
    | cons t tail =>
      rw [primary?.eq_def]
      rcases hno with hs | ⟨hm, hu⟩
      · obtain ⟨s, hlex, hm, hp, hb⟩ := Token.startsOperand_eq_false.1 hs
        simp only [hlex]
        rfl
      · simp only [hm]
        cases tail with
        | nil =>
          rw [hminus t rfl hm]
          rfl
        | cons u rest =>
          simp only [List.head?_cons, Option.mem_def, Option.some.injEq, forall_eq'] at hu
          simp only
          split
          · simp_all [Token.isNumber]
          · rfl

theorem operand?_eq_ok_none_iff_both (ts : List Token) :
    operand? φ ts = .ok none ↔ primary? φ ts = .ok none ∧ negation? φ ts = .ok none := by
  rw [operand?]
  rcases primary? φ ts with e | _ | p
  · exact ⟨nofun, fun h => nomatch h.1⟩
  · exact ⟨fun h => ⟨rfl, h⟩, fun h => h.2⟩
  · exact ⟨nofun, fun h => nomatch h.1⟩

theorem operand?_eq_ok_none_iff (ts : List Token) :
    operand? φ ts = .ok none ↔ NoOperand ts ∧ (ts = [] → φ = none) := by
  rw [operand?_eq_ok_none_iff_both, primary?_eq_ok_none_iff, negation?_eq_ok_none_iff]
  cases ts with
  | nil => simp [NoPrimary, NoOperand]
  | cons t tail =>
    constructor
    · rintro ⟨⟨hp, -, -⟩, hm, -⟩
      exact ⟨noOperand_of_noPrimary hp hm, fun h => absurd h (List.cons_ne_nil t tail)⟩
    · rintro ⟨hno, -⟩
      obtain ⟨s, hlex, hm, -, -⟩ := Token.startsOperand_eq_false.1 (hno t rfl)
      have hnm : t.lexeme ≠ .symbol (.arith .subtract) := fun h =>
        hm (Lexeme.symbol.inj (hlex.symm.trans h))
      have hne (h : t :: tail = []) : φ = none := absurd h (List.cons_ne_nil t tail)
      refine ⟨⟨.inl (hno t rfl), hne, ?_⟩, ?_, hne⟩
      · rintro u ⟨⟩ hu
        exact absurd hu hnm
      · rintro u ⟨⟩
        exact hnm

theorem terms?_eq_ok_none_iff (ts : List Token) :
    terms? φ ts = .ok none ↔ operand? φ ts = .ok none := by
  rw [terms?]
  constructor
  · intro h
    obtain ⟨a, ha, h⟩ := Except.bind_eq_ok.1 h
    rcases a with _ | ⟨x, rest, hlt⟩
    · exact ha
    · obtain ⟨⟨y, rest2, hlt2⟩, -, h⟩ := Except.bind_eq_ok.1 h
      cases h
  · intro h
    rw [h]
    rfl

theorem parse_eq_ok_none_iff (s : TokenStream) :
    s.parse = .ok none ↔ s.tokens = [] ∧ s.fault = none := by
  obtain ⟨ts, f⟩ := s
  cases ts with
  | nil =>
    cases f with
    | none => exact ⟨fun _ => ⟨rfl, rfl⟩, fun _ => rfl⟩
    | some f => exact ⟨nofun, fun h => nomatch h.2⟩
  | cons t tail =>
    refine ⟨fun h => ?_, fun h => nomatch h.1⟩
    unfold TokenStream.parse at h
    obtain ⟨a, -, h⟩ := Except.bind_eq_ok.1 h
    rcases a with _ | ⟨x, rest, hlt⟩
    · cases h
    · dsimp only at h
      split at h
      · obtain ⟨⟨⟩, -, h⟩ := Except.bind_eq_ok.1 h
        cases h
      · cases h

theorem items_shortens {close : Symbol} {opener : Token} {filled : Bool} {acc : List Expr}
    {ts : List Token} {p : Parsed (List Expr) (ts.length + 1)}
    (h : items φ close opener filled acc ts = .ok p) : p.rest.length < ts.length := by
  cases ts with
  | nil =>
    rw [items] at h
    obtain ⟨⟨⟩, -, h⟩ := Except.bind_eq_ok.1 h
    cases h
  | cons t tail =>
    rw [items] at h
    split at h
    · obtain ⟨⟨es, rest, hlt⟩, -, h⟩ := Except.bind_eq_ok.1 h
      cases h
      simp only [List.length_cons]
      omega
    · split at h
      · cases h
        simp
      · obtain ⟨a, ha, h⟩ := Except.bind_eq_ok.1 h
        rcases a with _ | ⟨x, rest, hlt⟩
        · cases h
        · obtain ⟨⟨es, rest2, hlt2⟩, -, h⟩ := Except.bind_eq_ok.1 h
          cases h
          simp only [List.length_cons] at hlt ⊢
          omega

theorem arith_shortens {steps : List (StepKind × Expr)} {op : ArithOp} {t : Token}
    {ts : List Token} {p : Parsed Expr (ts.length + 1)}
    (h : arith φ steps op t ts = .ok p) : p.rest.length < ts.length := by
  rw [arith] at h
  obtain ⟨a, -, h⟩ := Except.bind_eq_ok.1 h
  rcases a with _ | ⟨y, rest, hlt⟩
  · cases h
  obtain ⟨⟨z, rest2, hlt2⟩, -, h⟩ := Except.bind_eq_ok.1 h
  dsimp only at h
  rcases rest2 with _ | ⟨u, after⟩
  · obtain ⟨⟨⟩, -, h⟩ := Except.bind_eq_ok.1 h
    cases h
    simp only [List.length_nil]
    omega
  · dsimp only at h
    simp only [List.length_cons] at hlt2
    split at h
    · split at h
      · obtain ⟨⟨v, rest3, hlt3⟩, -, h⟩ := Except.bind_eq_ok.1 h
        cases h
        dsimp only
        omega
      · cases h
        simp only [List.length_cons]
        omega
    · cases h
      simp only [List.length_cons]
      omega

theorem bracketed_shortens {opener : Token} {ts : List Token} {p : Parsed Expr (ts.length + 1)}
    (h : bracketed φ opener ts = .ok p) : p.rest.length < ts.length := by
  rw [bracketed] at h
  obtain ⟨a, -, h⟩ := Except.bind_eq_ok.1 h
  rcases a with _ | ⟨x, rest, hlt⟩
  · obtain ⟨u, hts, -, -⟩ := closeParen_ok h
    have := congrArg List.length hts
    simp only [List.length_cons] at this
    omega
  · obtain ⟨⟨y, rest2, hlt2⟩, hc, h⟩ := Except.bind_eq_ok.1 h
    cases h
    obtain ⟨u, hrest, -, -⟩ := closeParen_ok hc
    have := congrArg List.length hrest
    simp only [List.length_cons] at this
    dsimp only
    omega

theorem structured_shortens {opener : Token} {ts : List Token} {p : Parsed Expr (ts.length + 1)}
    (h : structured φ opener ts = .ok p) : p.rest.length < ts.length := by
  rw [structured] at h
  obtain ⟨⟨es, rest, hlt⟩, hi, h⟩ := Except.bind_eq_ok.1 h
  cases h
  exact items_shortens φ hi

theorem eagerJoins_rest_eq {x : Expr} {ts : List Token} {p : Parsed Expr (ts.length + 1)}
    (h : eagerJoins φ x ts = .ok p) (hrest : p.rest = ts) : p.value = x := by
  cases ts with
  | nil =>
    rw [eagerJoins] at h
    obtain ⟨⟨⟩, -, h⟩ := Except.bind_eq_ok.1 h
    cases h
    rfl
  | cons t tail =>
    rw [eagerJoins] at h
    split at h
    · split at h
      · obtain ⟨⟨y, rest, hlt⟩, -, h⟩ := Except.bind_eq_ok.1 h
        obtain ⟨⟨z, rest2, hlt2⟩, -, h⟩ := Except.bind_eq_ok.1 h
        cases h
        have := congrArg List.length hrest
        simp only [List.length_cons] at this
        omega
      · cases h
        rfl
    · cases h
      rfl

theorem absorb_rest_eq {x : Expr} {prec : Nat} {ts : List Token} {p : Parsed Expr (ts.length + 1)}
    (h : absorb φ x prec ts = .ok p) (hrest : p.rest = ts) : p.value = x := by
  cases ts with
  | nil =>
    rw [absorb] at h
    obtain ⟨⟨⟩, -, h⟩ := Except.bind_eq_ok.1 h
    cases h
    rfl
  | cons t tail =>
    rw [absorb] at h
    split at h
    · split at h
      · obtain ⟨⟨y, rest, hlt⟩, -, h⟩ := Except.bind_eq_ok.1 h
        obtain ⟨⟨z, rest2, hlt2⟩, -, h⟩ := Except.bind_eq_ok.1 h
        cases h
        have := congrArg List.length hrest
        simp only [List.length_cons] at this
        omega
      · cases h
        rfl
    · cases h
      rfl

theorem termsAfter_rest_eq {pending : List (Joint × Expr)} {x : Expr} {ts : List Token}
    {p : Parsed Expr (ts.length + 1)} (h : termsAfter φ pending x ts = .ok p)
    (hrest : p.rest = ts) : p.value = Joint.fold pending x := by
  rw [termsAfter] at h
  obtain ⟨⟨y, rest, hlt⟩, hj, h⟩ := Except.bind_eq_ok.1 h
  have hs : rest <:+ ts := Confined.leaves φ ((confined φ).2.2.2.2.2.2.2.2.2.1 x ts) hj
  have hy (he : rest = ts) : y = x := eagerJoins_rest_eq φ hj he
  dsimp only at h
  split at h
  · obtain ⟨⟨⟩, -, h⟩ := Except.bind_eq_ok.1 h
    cases h
    rw [hy hrest]
  · have hlen := hs.length_le
    simp only [List.length_cons] at hlen
    split at h
    · obtain ⟨a, -, h⟩ := Except.bind_eq_ok.1 h
      rcases a with _ | ⟨z, rest2, hlt2⟩
      · cases h
      · obtain ⟨⟨v, rest3, hlt3⟩, -, h⟩ := Except.bind_eq_ok.1 h
        cases h
        have := congrArg List.length hrest
        dsimp only at this
        omega
    · obtain ⟨a, -, h⟩ := Except.bind_eq_ok.1 h
      rcases a with _ | ⟨z, rest2, hlt2⟩
      · cases h
        rw [hy hrest]
      · obtain ⟨⟨v, rest3, hlt3⟩, -, h⟩ := Except.bind_eq_ok.1 h
        cases h
        have := congrArg List.length hrest
        dsimp only at this
        simp only [List.length_cons] at hlt2
        omega

theorem afterName_rest_eq {n : String} {ts : List Token} {p : Parsed Expr (ts.length + 1)}
    (h : afterName φ n ts = .ok p) (hrest : p.rest = ts) : p.value = nameValue n := by
  cases ts with
  | nil =>
    rw [afterName] at h
    obtain ⟨⟨⟩, -, h⟩ := Except.bind_eq_ok.1 h
    cases h
    rfl
  | cons t tail =>
    rw [afterName] at h
    have hlen := congrArg List.length hrest
    simp only [List.length_cons] at hlen
    split at h
    · obtain ⟨⟨args, rest, hlt⟩, -, h⟩ := Except.bind_eq_ok.1 h
      cases h
      dsimp only at hlen
      omega
    · split at h
      · cases h
        rfl
      · rename_i htf
        split at h
        · obtain ⟨a, -, h⟩ := Except.bind_eq_ok.1 h
          rcases a with _ | ⟨x, rest, hlt⟩
          · cases h
          · cases h
            dsimp only at hlen
            omega
        · split at h
          · obtain ⟨⟨x, rest, hlt⟩, -, h⟩ := Except.bind_eq_ok.1 h
            cases h
            dsimp only at hlen
            omega
          · cases h
            exact (nameValue_of_ne htf).symm

theorem parsing_consumes_tokens (φ : Option ScanFault) :
    (∀ s : TokenStream, s.parse = .ok none ↔ s.tokens = [] ∧ s.fault = none) ∧
    (∀ ts, terms? φ ts = .ok none ↔ NoOperand ts ∧ (ts = [] → φ = none)) ∧
    (∀ ts, operand? φ ts = .ok none ↔ NoOperand ts ∧ (ts = [] → φ = none)) ∧
    (∀ ts, negation? φ ts = .ok none ↔
      (∀ t ∈ ts.head?, t.lexeme ≠ .symbol (.arith .subtract)) ∧ (ts = [] → φ = none)) ∧
    (∀ ts, primary? φ ts = .ok none ↔ NoPrimary ts ∧ (ts = [] → φ = none) ∧
      (∀ t, ts = [t] → t.lexeme = .symbol (.arith .subtract) → φ = none)) ∧
    (∀ ts p, terms? φ ts = .ok (some p) → Consumed ts p.rest) ∧
    (∀ ts p, operand? φ ts = .ok (some p) → Consumed ts p.rest) ∧
    (∀ ts p, negation? φ ts = .ok (some p) → Consumed ts p.rest) ∧
    (∀ ts p, primary? φ ts = .ok (some p) → Consumed ts p.rest) ∧
    (∀ close opener filled acc ts p,
      items φ close opener filled acc ts = .ok p → Consumed ts p.rest) ∧
    (∀ opener ts p, bracketed φ opener ts = .ok p → Consumed ts p.rest) ∧
    (∀ opener ts p, structured φ opener ts = .ok p → Consumed ts p.rest) ∧
    (∀ steps op t ts p, arith φ steps op t ts = .ok p → Consumed ts p.rest) ∧
    (∀ x j t ts p, extend φ x j t ts = .ok p → Consumed (t :: ts) p.rest) ∧
    (∀ x ts p, eagerJoins φ x ts = .ok p → p.rest <:+ ts ∧ (p.rest = ts → p.value = x)) ∧
    (∀ x prec ts p, absorb φ x prec ts = .ok p → p.rest <:+ ts ∧ (p.rest = ts → p.value = x)) ∧
    (∀ pending x ts p, termsAfter φ pending x ts = .ok p →
      p.rest <:+ ts ∧ (p.rest = ts → p.value = Joint.fold pending x)) ∧
    (∀ n ts p, afterName φ n ts = .ok p →
      p.rest <:+ ts ∧ (p.rest = ts → p.value = nameValue n)) := by
  obtain ⟨hterms, hafter, hop, hneg, hprim, hstr, hitems, hbr, hname, hjoins, hext, habs, harith⟩ :=
    confined φ
  refine ⟨parse_eq_ok_none_iff,
    fun ts => (terms?_eq_ok_none_iff φ ts).trans (operand?_eq_ok_none_iff φ ts),
    operand?_eq_ok_none_iff φ, negation?_eq_ok_none_iff φ, primary?_eq_ok_none_iff φ,
    ?_, ?_, ?_, ?_, ?_, ?_, ?_, ?_, ?_, ?_, ?_, ?_, ?_⟩
  · exact fun ts p h => consumed_of_suffix (Confined.leaves_some φ (hterms ts) h) p.shorter
  · exact fun ts p h => consumed_of_suffix (Confined.leaves_some φ (hop ts) h) p.shorter
  · exact fun ts p h => consumed_of_suffix (Confined.leaves_some φ (hneg ts) h) p.shorter
  · exact fun ts p h => consumed_of_suffix (Confined.leaves_some φ (hprim ts) h) p.shorter
  · exact fun close opener filled acc ts p h => consumed_of_suffix
      (Confined.leaves φ (hitems close opener filled acc ts) h) (items_shortens φ h)
  · exact fun opener ts p h => consumed_of_suffix (Confined.leaves φ (hbr opener ts) h)
      (bracketed_shortens φ h)
  · exact fun opener ts p h => consumed_of_suffix (Confined.leaves φ (hstr opener ts) h)
      (structured_shortens φ h)
  · exact fun steps op t ts p h => consumed_of_suffix (Confined.leaves φ (harith steps op t ts) h)
      (arith_shortens φ h)
  · exact fun x j t ts p h => consumed_cons (Confined.leaves φ (hext x j t ts) h)
  · exact fun x ts p h => ⟨Confined.leaves φ (hjoins x ts) h, eagerJoins_rest_eq φ h⟩
  · exact fun x prec ts p h => ⟨Confined.leaves φ (habs x prec ts) h, absorb_rest_eq φ h⟩
  · exact fun pending x ts p h =>
      ⟨Confined.leaves φ (hafter pending x ts) h, termsAfter_rest_eq φ h⟩
  · exact fun n ts p h => ⟨Confined.leaves φ (hname n ts) h, afterName_rest_eq φ h⟩

end Parse

end SheetFormula

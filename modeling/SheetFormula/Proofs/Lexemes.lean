import SheetFormula.Proofs.Grammar
/-!
The lexemes that write an expression tree: each node with its symbols around the lexemes of its
children, a negative number as a minus sign before the number. Main statement: a parse loses,
doubles and reorders no token, so writing out the tree gives back the lexemes of the tokens,
provided no number token is negative.
-/

namespace SheetFormula

def StepKind.around : StepKind → List Lexeme → List Lexeme
  | .start, ls => ls
  | .add, ls => .symbol (.arith .add) :: ls
  | .subtract, ls => .symbol (.arith .subtract) :: ls
  | .multiply, ls => .symbol (.arith .multiply) :: ls
  | .divide, ls => .symbol (.arith .divide) :: ls
  | .power, ls => .symbol (.arith .power) :: ls
  | .percent, ls => ls ++ [.symbol .percent]

lemma ArithOp.around_step (op : ArithOp) (ls : List Lexeme) :
    op.step.around ls = .symbol (.arith op) :: ls := by
  cases op <;> rfl

namespace Expr

mutual

def lexemes : Expr → List Lexeme
  | .empty => []
  | .string s => [.string s]
  | .error c => [.error c]
  | .number d => if d.negative then [.symbol (.arith .subtract), .number d.negate] else [.number d]
  | .bool b => [.name (if b then "TRUE" else "FALSE")]
  | .cell n => [.name n]
  | .bracketed e => .symbol .openParen :: e.lexemes ++ [.symbol .closeParen]
  | .call n args => .name n :: .symbol .openParen :: listLexemes args ++ [.symbol .closeParen]
  | .compare op l r => l.lexemes ++ .symbol (.compare op) :: r.lexemes
  | .chain steps => stepsLexemes steps
  | .intersection l r => l.lexemes ++ r.lexemes
  | .union es => listLexemes es
  | .concat l r => l.lexemes ++ .symbol .ampersand :: r.lexemes
  | .range l r => l.lexemes ++ .symbol .colon :: r.lexemes
  | .sheetRef s r => s.lexemes ++ .symbol .bang :: r.lexemes
  | .structured e => .symbol .openBracket :: e.lexemes ++ [.symbol .closeBracket]
  | .tableRef n r => .name n :: r.lexemes

def listLexemes : List Expr → List Lexeme
  | [] => []
  | [e] => e.lexemes
  | e :: es => e.lexemes ++ .symbol .comma :: listLexemes es

def stepsLexemes : List (StepKind × Expr) → List Lexeme
  | [] => []
  | (k, e) :: steps => k.around e.lexemes ++ stepsLexemes steps

end

lemma listLexemes_cons {e : Expr} {es : List Expr} (h : es ≠ []) :
    listLexemes (e :: es) = e.lexemes ++ .symbol .comma :: listLexemes es := by
  cases es with
  | nil => exact absurd rfl h
  | cons _ _ => rfl

lemma listLexemes_append_singleton (l : List Expr) (e : Expr) :
    listLexemes (l ++ [e]) = (if l = [] then [] else listLexemes l ++ [.symbol .comma]) ++ e.lexemes := by
  induction l with
  | nil => rfl
  | cons a l ih =>
    rw [List.cons_append, listLexemes_cons (by simp), ih]
    cases l with
    | nil => simp [listLexemes]
    | cons b l => simp [listLexemes_cons]

lemma stepsLexemes_append (l₁ l₂ : List (StepKind × Expr)) :
    stepsLexemes (l₁ ++ l₂) = stepsLexemes l₁ ++ stepsLexemes l₂ := by
  induction l₁ with
  | nil => rfl
  | cons p l ih =>
    obtain ⟨k, e⟩ := p
    simp [stepsLexemes, ih]

end Expr

def Joint.lexemes : Joint → List Lexeme
  | .concat => [.symbol .ampersand]
  | .intersection => []

def Joint.pendingLexemes (pending : List (Joint × Expr)) : List Lexeme :=
  pending.reverse.flatMap fun p => p.2.lexemes ++ p.1.lexemes

lemma Joint.lexemes_fold (pending : List (Joint × Expr)) (y : Expr) :
    (Joint.fold pending y).lexemes = Joint.pendingLexemes pending ++ y.lexemes := by
  induction pending generalizing y with
  | nil => rfl
  | cons p pending ih =>
    obtain ⟨j, e⟩ := p
    rw [Joint.fold, List.foldl_cons, ← Joint.fold, ih]
    cases j <;> simp [Joint.build, Joint.pendingLexemes, Joint.lexemes, Expr.lexemes]

def Lexeme.unsigned : Lexeme → Bool
  | .number d => !d.negative
  | _ => true

lemma all_unsigned_of_eq {a b l l' : List Lexeme} (h : a ++ l = b ++ l')
    (ha : a.all Lexeme.unsigned) (hl : l.all Lexeme.unsigned) : l'.all Lexeme.unsigned := by
  have hal : (a ++ l).all Lexeme.unsigned := by rw [List.all_append, ha, hl]; rfl
  rw [h, List.all_append, Bool.and_eq_true] at hal
  exact hal.2

mutual

lemma Expr.unsigned_lexemes : (e : Expr) → e.lexemes.all Lexeme.unsigned
  | .empty | .string _ | .error _ | .bool _ | .cell _ => by simp [Expr.lexemes, Lexeme.unsigned]
  | .number d => by cases hd : d.negative <;> simp [Expr.lexemes, Lexeme.unsigned, hd]
  | .bracketed e | .structured e | .tableRef _ e => by
    simp [Expr.lexemes, Lexeme.unsigned, e.unsigned_lexemes]
  | .call _ args => by simp [Expr.lexemes, Lexeme.unsigned, Expr.unsigned_listLexemes args]
  | .compare _ l r | .concat l r | .range l r | .sheetRef l r | .intersection l r => by
    simp [Expr.lexemes, Lexeme.unsigned, l.unsigned_lexemes, r.unsigned_lexemes]
  | .chain steps => by simpa [Expr.lexemes] using Expr.unsigned_stepsLexemes steps
  | .union es => by simpa [Expr.lexemes] using Expr.unsigned_listLexemes es

lemma Expr.unsigned_listLexemes : (es : List Expr) → (Expr.listLexemes es).all Lexeme.unsigned
  | [] => rfl
  | [e] => by simpa [Expr.listLexemes] using e.unsigned_lexemes
  | e :: e' :: es => by
    rw [Expr.listLexemes_cons (by simp)]
    simp [Lexeme.unsigned, e.unsigned_lexemes, Expr.unsigned_listLexemes (e' :: es)]

lemma Expr.unsigned_stepsLexemes : (steps : List (StepKind × Expr)) →
    (Expr.stepsLexemes steps).all Lexeme.unsigned
  | [] => rfl
  | (k, e) :: steps => by
    have he := e.unsigned_lexemes
    have hs := Expr.unsigned_stepsLexemes steps
    cases k <;> simp [Expr.stepsLexemes, StepKind.around, Lexeme.unsigned, he, hs]

end

namespace Parse

lemma lexemes_nameValue (n : String) : (nameValue n).lexemes = [.name n] := by
  unfold nameValue
  split
  · simp_all [Expr.lexemes]
  · split <;> simp_all [Expr.lexemes]

lemma lexemes_structuredOf (es : List Expr) :
    (structuredOf es).lexemes = .symbol .openBracket :: Expr.listLexemes es ++ [.symbol .closeBracket] := by
  match es with
  | [] | [_] => rfl
  | _ :: _ :: _ => rfl

end Parse

namespace Grammar

def openLexemes (filled : Bool) (acc : List Expr) : List Lexeme :=
  Expr.listLexemes (if filled then acc else .empty :: acc).reverse

lemma listLexemes_listItems (filled : Bool) (acc : List Expr) :
    Expr.listLexemes (Parse.listItems filled acc) = openLexemes filled acc := by
  cases acc with
  | nil => cases filled <;> rfl
  | cons _ _ => rfl

lemma openLexemes_comma {filled : Bool} {acc : List Expr} (h : filled = true → acc ≠ []) :
    openLexemes false (if filled then acc else .empty :: acc) =
      openLexemes filled acc ++ [.symbol .comma] := by
  have hne : (if filled then acc else .empty :: acc) ≠ [] := by
    cases filled <;> simp_all
  simp only [openLexemes, Bool.false_eq_true, if_false, List.reverse_cons,
    Expr.listLexemes_append_singleton, List.reverse_eq_nil_iff, hne, if_false]
  simp [Expr.lexemes]

lemma openLexemes_item (acc : List Expr) (x : Expr) :
    openLexemes false acc ++ x.lexemes = openLexemes true (x :: acc) := by
  simp [openLexemes, Expr.listLexemes_append_singleton, Expr.lexemes]

lemma all_unsigned_suffix {l a l' : List Lexeme} (h : l = a ++ l') (hl : l.all Lexeme.unsigned) :
    l'.all Lexeme.unsigned := by
  rw [h, List.all_append, Bool.and_eq_true] at hl
  exact hl.2

mutual

lemma Primary.lexemes_eq {ts : List Token} {x : Expr} {rest : List Token} (h : Primary ts x rest)
    (hu : (ts.map Token.lexeme).all Lexeme.unsigned) :
    ts.map Token.lexeme = x.lexemes ++ rest.map Token.lexeme :=
  match h, hu with
  | .name hn ha, hu => by
    simp only [List.map_cons, hn] at hu ⊢
    exact ha.lexemes_eq (by simp_all)
  | .string hs, hu => by simp [hs, Expr.lexemes]
  | .error he, hu => by simp [he, Expr.lexemes]
  | .number hd, hu => by
    simp only [List.map_cons, hd, List.all_cons, Lexeme.unsigned, Bool.and_eq_true,
      Bool.not_eq_true'] at hu
    simp [hd, Expr.lexemes, hu.1]
  | .negative hm hd, hu => by
    simp only [List.map_cons, hd, hm, List.all_cons, Lexeme.unsigned, Bool.and_eq_true,
      Bool.not_eq_true', true_and] at hu
    simp [hm, hd, Expr.lexemes, hu.1]
  | .paren hp hx, hu => by
    simp only [List.map_cons, hp, List.all_cons, Lexeme.unsigned, Bool.true_and] at hu ⊢
    simp [hx.lexemes_eq hu, Expr.lexemes]
  | .bracket hb hi, hu => by
    simp only [List.map_cons, hb, List.all_cons, Lexeme.unsigned, Bool.true_and] at hu ⊢
    have := hi.lexemes_eq hu (by simp)
    simp only [openLexemes, if_false, Bool.false_eq_true, List.reverse_cons, List.reverse_nil,
      List.nil_append, Expr.listLexemes, Expr.lexemes, List.nil_append] at this
    simp [this, Parse.lexemes_structuredOf]

lemma Operand.lexemes_eq {ts : List Token} {x : Expr} {rest : List Token} (h : Operand ts x rest)
    (hu : (ts.map Token.lexeme).all Lexeme.unsigned) :
    ts.map Token.lexeme = x.lexemes ++ rest.map Token.lexeme :=
  match h, hu with
  | .primary hp, hu => by exact hp.lexemes_eq hu
  | .negation hm _ hx, hu => by
    simp only [List.map_cons, hm, List.all_cons, Lexeme.unsigned, Bool.true_and] at hu ⊢
    simp [hx.lexemes_eq hu, Expr.lexemes, Expr.stepsLexemes, StepKind.around]

lemma Terms.lexemes_eq {ts : List Token} {x : Expr} {rest : List Token} (h : Terms ts x rest)
    (hu : (ts.map Token.lexeme).all Lexeme.unsigned) :
    ts.map Token.lexeme = x.lexemes ++ rest.map Token.lexeme :=
  match h, hu with
  | .mk hx hafter, hu => by
    have hx' := hx.lexemes_eq hu
    have := hafter.lexemes_eq (all_unsigned_suffix hx' hu)
    simp only [Joint.pendingLexemes, List.reverse_nil, List.flatMap_nil, List.nil_append] at this
    rw [hx', this]

lemma TermsAfter.lexemes_eq {pending : List (Joint × Expr)} {x : Expr} {ts : List Token} {y : Expr}
    {rest : List Token} (h : TermsAfter pending x ts y rest)
    (hu : (ts.map Token.lexeme).all Lexeme.unsigned) :
    Joint.pendingLexemes pending ++ x.lexemes ++ ts.map Token.lexeme =
      y.lexemes ++ rest.map Token.lexeme :=
  match h, hu with
  | .last hj _ _, hu => by
    rw [Joint.lexemes_fold, List.append_assoc, List.append_assoc, hj.lexemes_eq hu]
  | .concat hj hamp hz hv, hu => by
    have hj' := hj.lexemes_eq hu
    simp only [List.map_cons, hamp] at hj'
    have hut := all_unsigned_of_eq hj' x.unsigned_lexemes hu
    simp only [List.all_cons, Lexeme.unsigned, Bool.true_and] at hut
    have hz' := hz.lexemes_eq hut
    have hv' := hv.lexemes_eq (all_unsigned_suffix hz' hut)
    rw [← hv', List.append_assoc, hj', hz']
    simp [Joint.pendingLexemes, Joint.lexemes]
  | .intersection hj _ hz hv, hu => by
    have hj' := hj.lexemes_eq hu
    have hut := all_unsigned_of_eq hj' x.unsigned_lexemes hu
    have hz' := hz.lexemes_eq hut
    have hv' := hv.lexemes_eq (all_unsigned_suffix hz' hut)
    rw [← hv', List.append_assoc, hj', hz']
    simp [Joint.pendingLexemes, Joint.lexemes]

lemma AfterName.lexemes_eq {n : String} {ts : List Token} {x : Expr} {rest : List Token}
    (h : AfterName n ts x rest) (hu : (ts.map Token.lexeme).all Lexeme.unsigned) :
    .name n :: ts.map Token.lexeme = x.lexemes ++ rest.map Token.lexeme :=
  match h, hu with
  | .call hp hi, hu => by
    simp only [List.map_cons, hp, List.all_cons, Lexeme.unsigned, Bool.true_and] at hu ⊢
    have := hi.lexemes_eq hu (by simp)
    simp only [openLexemes, if_false, Bool.false_eq_true, List.reverse_cons, List.reverse_nil,
      List.nil_append, Expr.listLexemes, Expr.lexemes, List.nil_append] at this
    simp [this, Expr.lexemes]
  | .sheet _ _ hb hx, hu => by
    simp only [List.map_cons, hb, List.all_cons, Lexeme.unsigned, Bool.true_and] at hu ⊢
    simp [hx.lexemes_eq hu, Expr.lexemes]
  | .table _ _ hb hi, hu => by
    simp only [List.map_cons, hb, List.all_cons, Lexeme.unsigned, Bool.true_and] at hu ⊢
    have := hi.lexemes_eq hu (by simp)
    simp only [openLexemes, if_false, Bool.false_eq_true, List.reverse_cons, List.reverse_nil,
      List.nil_append, Expr.listLexemes, Expr.lexemes, List.nil_append] at this
    simp [this, Expr.lexemes, Parse.lexemes_structuredOf]
  | .value _, hu => by simp [Parse.lexemes_nameValue]

lemma Parens.lexemes_eq {ts : List Token} {x : Expr} {rest : List Token} (h : Parens ts x rest)
    (hu : (ts.map Token.lexeme).all Lexeme.unsigned) :
    ts.map Token.lexeme = x.lexemes ++ .symbol .closeParen :: rest.map Token.lexeme :=
  match h, hu with
  | .empty hc, hu => by simp [hc, Expr.lexemes]
  | .inner hx hc, hu => by simp [hx.lexemes_eq hu, hc]

lemma Items.lexemes_eq {close : Symbol} {filled : Bool} {acc : List Expr} {ts : List Token}
    {es : List Expr} {rest : List Token} (h : Items close filled acc ts es rest)
    (hu : (ts.map Token.lexeme).all Lexeme.unsigned)
    (hf : filled = true → acc ≠ [] ∧ NoOperand ts) :
    openLexemes filled acc ++ ts.map Token.lexeme =
      Expr.listLexemes es ++ .symbol close :: rest.map Token.lexeme :=
  match h, hu, hf with
  | .comma hc hi, hu, hf => by
    simp only [List.map_cons, hc, List.all_cons, Lexeme.unsigned, Bool.true_and] at hu ⊢
    rw [← hi.lexemes_eq hu (by simp), openLexemes_comma fun h => (hf h).1]
    simp
  | .close _ hcl, hu, hf => by
    simp [hcl, listLexemes_listItems]
  | .item _ _ hx hi, hu, hf => by
    cases filled with
    | true => simpa [NoOperand, hx.startsOperand] using (hf rfl).2
    | false =>
      have hx' := hx.lexemes_eq hu
      rw [hx', ← List.append_assoc, openLexemes_item]
      exact hi.lexemes_eq (all_unsigned_suffix hx' hu) fun _ => ⟨by simp, hx.noOperand⟩

lemma Joins.lexemes_eq {takes : Join → Bool} {x : Expr} {ts : List Token} {y : Expr}
    {rest : List Token} (h : Joins takes x ts y rest)
    (hu : (ts.map Token.lexeme).all Lexeme.unsigned) :
    x.lexemes ++ ts.map Token.lexeme = y.lexemes ++ rest.map Token.lexeme :=
  match h, hu with
  | .stop _, hu => by rfl
  | .step hj _ he hz, hu => by
    simp only [List.map_cons, Token.lexeme_of_join? hj, List.all_cons, Bool.and_eq_true] at hu ⊢
    have he' := he.lexemes_eq hu.2
    have hur := all_unsigned_of_eq he' x.unsigned_lexemes (by simp [Lexeme.unsigned, hu.2])
    rw [he', hz.lexemes_eq hur]

lemma Extend.lexemes_eq {x : Expr} {j : Join} {ts : List Token} {y : Expr} {rest : List Token}
    (h : Extend x j ts y rest) (hu : (ts.map Token.lexeme).all Lexeme.unsigned) :
    x.lexemes ++ .symbol j.symbol :: ts.map Token.lexeme = y.lexemes ++ rest.map Token.lexeme :=
  match h, hu with
  | .range hy, hu => by simp [hy.lexemes_eq hu, Expr.lexemes, Join.symbol]
  | .arith ha, hu => by
    simpa [Expr.stepsLexemes, StepKind.around, Join.symbol] using ha.lexemes_eq hu
  | .concat hy, hu => by simp [hy.lexemes_eq hu, Expr.lexemes, Join.symbol]
  | .percent, hu => by simp [Expr.lexemes, Expr.stepsLexemes, StepKind.around, Join.symbol]
  | .compare hy hz, hu => by
    have hy' := hy.lexemes_eq hu
    rw [hy', hz.lexemes_eq (all_unsigned_suffix hy' hu)]
    simp [Expr.lexemes, Join.symbol]

lemma Arith.lexemes_eq {steps : List (StepKind × Expr)} {op : ArithOp} {ts : List Token} {y : Expr}
    {rest : List Token} (h : Arith steps op ts y rest)
    (hu : (ts.map Token.lexeme).all Lexeme.unsigned) :
    Expr.stepsLexemes steps.reverse ++ .symbol (.arith op) :: ts.map Token.lexeme =
      y.lexemes ++ rest.map Token.lexeme :=
  match h, hu with
  | .last hy hz _, hu => by
    have hy' := hy.lexemes_eq hu
    rw [hy', hz.lexemes_eq (all_unsigned_suffix hy' hu)]
    simp [Expr.lexemes, Expr.stepsLexemes_append, Expr.stepsLexemes, ArithOp.around_step]
  | .more hy hz hnext _ hv, hu => by
    have hy' := hy.lexemes_eq hu
    have hz' := hz.lexemes_eq (all_unsigned_suffix hy' hu)
    simp only [List.map_cons, hnext] at hz'
    have hua := all_unsigned_of_eq hz' (Expr.unsigned_lexemes _) (all_unsigned_suffix hy' hu)
    simp only [List.all_cons, Lexeme.unsigned, Bool.true_and] at hua
    rw [← hv.lexemes_eq hua, hy', hz']
    simp [Expr.stepsLexemes_append, Expr.stepsLexemes, ArithOp.around_step]

end

end Grammar

theorem lexemes_eq_of_parse {ts : List Token} {e : Expr}
    (hpos : ∀ t ∈ ts, ∀ d, t.lexeme = .number d → d.negative = false)
    (h : (TokenStream.ofList ts).parse = .ok (some e)) :
    e.lexemes = ts.map Token.lexeme := by
  have hu : (ts.map Token.lexeme).all Lexeme.unsigned := by
    simp only [List.all_map, List.all_eq_true, Function.comp_apply]
    intro t ht
    cases hl : t.lexeme with
    | number d => simp [Lexeme.unsigned, hpos t ht d hl]
    | _ => rfl
  simpa [TokenStream.ofList] using ((Grammar.derives_of_parse h).lexemes_eq hu).symm

theorem lexemes_eq_of_parse_negative_sum :
    (∀ t ∈ ([⟨.symbol (.arith .subtract), 0, 1⟩, ⟨.number ⟨false, .finite 1 0⟩, 1, 2⟩,
        ⟨.symbol (.arith .add), 2, 3⟩, ⟨.name "A1", 3, 5⟩] : List Token),
        ∀ d, t.lexeme = .number d → d.negative = false) ∧
      (TokenStream.ofList [⟨.symbol (.arith .subtract), 0, 1⟩, ⟨.number ⟨false, .finite 1 0⟩, 1, 2⟩,
        ⟨.symbol (.arith .add), 2, 3⟩, ⟨.name "A1", 3, 5⟩]).parse =
        .ok (some (.chain [(.start, .number ⟨true, .finite 1 0⟩), (.add, .cell "A1")])) ∧
      (Expr.chain [(.start, .number ⟨true, .finite 1 0⟩), (.add, .cell "A1")]).lexemes =
        ([⟨.symbol (.arith .subtract), 0, 1⟩, ⟨.number ⟨false, .finite 1 0⟩, 1, 2⟩,
          ⟨.symbol (.arith .add), 2, 3⟩, ⟨.name "A1", 3, 5⟩] : List Token).map Token.lexeme := by
  have hpos : ∀ t ∈ ([⟨.symbol (.arith .subtract), 0, 1⟩, ⟨.number ⟨false, .finite 1 0⟩, 1, 2⟩,
      ⟨.symbol (.arith .add), 2, 3⟩, ⟨.name "A1", 3, 5⟩] : List Token),
      ∀ d, t.lexeme = .number d → d.negative = false := by
    simp
  have h : (TokenStream.ofList [⟨.symbol (.arith .subtract), 0, 1⟩,
      ⟨.number ⟨false, .finite 1 0⟩, 1, 2⟩, ⟨.symbol (.arith .add), 2, 3⟩,
      ⟨.name "A1", 3, 5⟩]).parse =
      .ok (some (.chain [(.start, .number ⟨true, .finite 1 0⟩), (.add, .cell "A1")])) := by
    cbv
  exact ⟨hpos, h, lexemes_eq_of_parse hpos h⟩

end SheetFormula

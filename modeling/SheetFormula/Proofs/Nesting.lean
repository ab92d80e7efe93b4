import SheetFormula.Proofs.Completeness
import Mathlib.Data.List.Forall2
/-!
Sub-formulas read the same inside brackets. A derivation that ends with its tokens goes on unchanged
when a comma or a closing bracket follows: no rule reads such a token, so every test made at the
end of the tokens is also passed there. A list is read item by item, an empty item standing for
`Expr.empty`. Main statement: a call, a bracketed expression, a structured reference and a table
reference parse to the trees of their items, each item parsed on its own (`parse_nested`).
-/

namespace SheetFormula

namespace Token

def EndsItem (t : Token) : Prop :=
  t.lexeme = .symbol .comma ∨ t.lexeme = .symbol .closeParen ∨ t.lexeme = .symbol .closeBracket

def listed (first : List Token) (more : List (Token × List Token)) : List Token :=
  first ++ more.flatMap fun p => p.1 :: p.2

lemma listed_cons (u : List Token) (sep : Token) (v : List Token)
    (more : List (Token × List Token)) :
    listed u ((sep, v) :: more) = u ++ sep :: listed v more := by
  simp [listed]

namespace EndsItem

variable {t : Token} (h : t.EndsItem)
include h

lemma startsOperand : t.startsOperand = false := by
  rcases h with h | h | h <;> simp [Token.startsOperand, h]

lemma join? : t.join? = none := by
  rcases h with h | h | h <;> simp [Token.join?, Token.symbol?, h, Symbol.join?]

lemma isNumber : t.isNumber = false := by
  rcases h with h | h | h <;> simp [Token.isNumber, h]

lemma ne_symbol {s : Symbol} (hs : s ≠ .comma ∧ s ≠ .closeParen ∧ s ≠ .closeBracket) :
    t.lexeme ≠ .symbol s := by
  rcases h with h | h | h <;> simp [h, Ne.symm hs.1, Ne.symm hs.2.1, Ne.symm hs.2.2]

end EndsItem

lemma lexeme_ne_of_startsOperand {t : Token} (h : t.startsOperand = true) {s : Symbol}
    (hs : s ≠ .arith .subtract ∧ s ≠ .openParen ∧ s ≠ .openBracket) : t.lexeme ≠ .symbol s := by
  intro ht
  have := startsOperand_eq_false.2 ⟨s, ht, hs⟩
  rw [h] at this
  cases this

end Token

namespace Grammar

lemma head?_append {P : Token → Prop} {l s : List Token} (hl : ∀ t ∈ l.head?, P t)
    (hs : ∀ t ∈ s.head?, P t) : ∀ t ∈ (l ++ s).head?, P t := by
  cases l with
  | nil => simpa using hs
  | cons x l => simpa using hl

variable {s : List Token}

mutual

theorem Primary.append (hs : ∀ c ∈ s.head?, c.EndsItem) {ts : List Token} {x : Expr}
    {rest : List Token} : Primary ts x rest → Primary (ts ++ s) x (rest ++ s)
  | .name hn ha => .name hn (ha.append hs)
  | .string h => .string h
  | .error h => .error h
  | .number h => .number h
  | .negative hm hd => .negative hm hd
  | .paren hp hx => .paren hp (hx.append hs)
  | .bracket hb hi => .bracket hb (hi.append hs)

theorem Operand.append (hs : ∀ c ∈ s.head?, c.EndsItem) {ts : List Token} {x : Expr}
    {rest : List Token} : Operand ts x rest → Operand (ts ++ s) x (rest ++ s)
  | .primary hp => .primary (hp.append hs)
  | .negation hm hu hx =>
    .negation hm (head?_append hu fun c hc => (hs c hc).isNumber) (hx.append hs)

theorem Terms.append (hs : ∀ c ∈ s.head?, c.EndsItem) {ts : List Token} {x : Expr}
    {rest : List Token} : Terms ts x rest → Terms (ts ++ s) x (rest ++ s)
  | .mk hx ha => .mk (hx.append hs) (ha.append hs)

theorem TermsAfter.append (hs : ∀ c ∈ s.head?, c.EndsItem) {pending : List (Joint × Expr)}
    {x : Expr} {ts : List Token} {y : Expr} {rest : List Token} :
    TermsAfter pending x ts y rest → TermsAfter pending x (ts ++ s) y (rest ++ s)
  | .last hj hamp hno =>
    .last (hj.append hs) (head?_append hamp fun c hc => (hs c hc).ne_symbol (by simp))
      (head?_append hno fun c hc => (hs c hc).startsOperand)
  | .concat hj hamp hz hv => .concat (hj.append hs) hamp (hz.append hs) (hv.append hs)
  | .intersection hj hamp hz hv =>
    .intersection (hj.append hs) hamp (hz.append hs) (hv.append hs)

theorem AfterName.append (hs : ∀ c ∈ s.head?, c.EndsItem) {n : String} {ts : List Token}
    {x : Expr} {rest : List Token} : AfterName n ts x rest → AfterName n (ts ++ s) x (rest ++ s)
  | .call hp hi => .call hp (hi.append hs)
  | .sheet hT hF hb hx => .sheet hT hF hb (hx.append hs)
  | .table hT hF hb hi => .table hT hF hb (hi.append hs)
  | .value hv => .value (head?_append hv fun c hc =>
      ⟨(hs c hc).ne_symbol (by simp), fun _ _ =>
        ⟨(hs c hc).ne_symbol (by simp), (hs c hc).ne_symbol (by simp)⟩⟩)

theorem Parens.append (hs : ∀ c ∈ s.head?, c.EndsItem) {ts : List Token} {x : Expr}
    {rest : List Token} : Parens ts x rest → Parens (ts ++ s) x (rest ++ s)
  | .empty hc => .empty hc
  | .inner hx hc => .inner (hx.append hs) hc

theorem Items.append (hs : ∀ c ∈ s.head?, c.EndsItem) {close : Symbol} {filled : Bool}
    {acc : List Expr} {ts : List Token} {es : List Expr} {rest : List Token} :
    Items close filled acc ts es rest → Items close filled acc (ts ++ s) es (rest ++ s)
  | .comma hc hi => .comma hc (hi.append hs)
  | .close hnc hcl => .close hnc hcl
  | .item hnc hncl hx hi => .item hnc hncl (hx.append hs) (hi.append hs)

theorem Joins.append (hs : ∀ c ∈ s.head?, c.EndsItem) {takes : Join → Bool} {x : Expr}
    {ts : List Token} {y : Expr} {rest : List Token} :
    Joins takes x ts y rest → Joins takes x (ts ++ s) y (rest ++ s)
  | .stop hend => .stop (head?_append hend fun c hc j hj => by
      rw [(hs c hc).join?] at hj
      cases hj)
  | .step hj htakes he hz => .step hj htakes (he.append hs) (hz.append hs)

theorem Extend.append (hs : ∀ c ∈ s.head?, c.EndsItem) {x : Expr} {j : Join} {ts : List Token}
    {y : Expr} {rest : List Token} : Extend x j ts y rest → Extend x j (ts ++ s) y (rest ++ s)
  | .range hy => .range (hy.append hs)
  | .arith ha => .arith (ha.append hs)
  | .concat hy => .concat (hy.append hs)
  | .percent => .percent
  | .compare hy hz => .compare (hy.append hs) (hz.append hs)

theorem Arith.append (hs : ∀ c ∈ s.head?, c.EndsItem) {steps : List (StepKind × Expr)}
    {op : ArithOp} {ts : List Token} {y : Expr} {rest : List Token} :
    Arith steps op ts y rest → Arith steps op (ts ++ s) y (rest ++ s)
  | .last hy hz hnext =>
    .last (hy.append hs) (hz.append hs) (head?_append hnext fun c hc next h =>
      absurd h ((hs c hc).ne_symbol (s := .arith next) (by simp)))
  | .more hy hz hu hprec hv => .more (hy.append hs) (hz.append hs) hu hprec (hv.append hs)

end

def Item (u : List Token) (e : Expr) : Prop :=
  u = [] ∧ e = .empty ∨ (TokenStream.ofList u).parse = .ok (some e)

lemma terms_of_primary {ts : List Token} {x : Expr} (h : Primary ts x []) : Terms ts x [] :=
  .mk (.primary h) (.last (.stop (by simp [JoinsEnd])) (by simp) (by simp [NoOperand]))

lemma Item.terms {u : List Token} {e : Expr} (hu : Item u e) (hne : u ≠ []) {c : Token}
    (hc : c.EndsItem) (rest : List Token) : Terms (u ++ c :: rest) e (c :: rest) := by
  rcases hu with ⟨rfl, -⟩ | hu
  · exact absurd rfl hne
  · exact (parse_eq_some_iff.1 hu).append (s := c :: rest) (by simpa using hc)

lemma Item.eq_empty {e : Expr} (h : Item [] e) : e = .empty := by
  rcases h with ⟨-, rfl⟩ | h
  · rfl
  · cases h

section Lists

variable {close : Symbol} (hclose : close = .closeParen ∨ close = .closeBracket)
include hclose

lemma Item.items_comma {u : List Token} {e : Expr} (hu : Item u e) {sep : Token}
    (hsep : sep.lexeme = .symbol .comma) {acc : List Expr} {tail : List Token} {es : List Expr}
    {rest : List Token} (hi : Items close false (e :: acc) tail es rest) :
    Items close false acc (u ++ sep :: tail) es rest := by
  by_cases hne : u = []
  · subst hne
    obtain rfl := hu.eq_empty
    exact .comma hsep hi
  · obtain ⟨t, tail', rfl⟩ := List.exists_cons_of_ne_nil hne
    have hx := hu.terms hne (.inl hsep) tail
    have ht := hx.startsOperand
    exact .item (Token.lexeme_ne_of_startsOperand ht (by simp))
      (Token.lexeme_ne_of_startsOperand ht (by rcases hclose with rfl | rfl <;> simp)) hx
      (.comma hsep hi)

lemma Item.items_close {u : List Token} {e : Expr} (hu : Item u e) {c : Token}
    (hc : c.lexeme = .symbol close) (acc : List Expr) (rest : List Token) :
    Items close false acc (u ++ c :: rest) (if acc = [] ∧ u = [] then [] else (e :: acc).reverse)
      rest := by
  have hnc : c.lexeme ≠ .symbol .comma := by rcases hclose with rfl | rfl <;> simp [hc]
  have hend : c.EndsItem := by rcases hclose with rfl | rfl <;> simp [Token.EndsItem, hc]
  by_cases hne : u = []
  · subst hne
    obtain rfl := hu.eq_empty
    have := @Items.close close false acc c rest hnc hc
    cases acc <;> simpa [Parse.listItems] using this
  · obtain ⟨t, tail', rfl⟩ := List.exists_cons_of_ne_nil hne
    have hx := hu.terms hne hend rest
    have ht := hx.startsOperand
    have : Items close false acc (t :: tail' ++ c :: rest) (Parse.listItems true (e :: acc)) rest :=
      .item (Token.lexeme_ne_of_startsOperand ht (by simp))
        (Token.lexeme_ne_of_startsOperand ht (by rcases hclose with rfl | rfl <;> simp)) hx
        (.close hnc hc)
    simpa [Parse.listItems] using this

lemma items_listed {u : List Token} {e : Expr} (hu : Item u e) :
    ∀ {more : List (Token × List Token)} {es : List Expr},
      (∀ p ∈ more, p.1.lexeme = .symbol .comma) → List.Forall₂ (fun p x => Item p.2 x) more es →
      ∀ {c : Token}, c.lexeme = .symbol close → ∀ (acc : List Expr) (rest : List Token),
      Items close false acc (Token.listed u more ++ c :: rest)
        (if acc = [] ∧ u = [] ∧ more = [] then [] else acc.reverse ++ e :: es) rest
  | [], [], _, .nil, c, hc, acc, rest => by
    simpa [Token.listed] using hu.items_close hclose hc acc rest
  | (sep, v) :: more, x :: es, hsep, .cons hv hmore, c, hc, acc, rest => by
    have hi := items_listed hv (fun p hp => hsep p (List.mem_cons_of_mem _ hp)) hmore hc
      (e :: acc) rest
    simp only [List.cons_ne_nil, and_false, false_and, if_false] at hi ⊢
    rw [Token.listed_cons, List.append_assoc, List.cons_append]
    simpa using hu.items_comma hclose (hsep _ List.mem_cons_self) hi

end Lists

lemma items_call {u : List Token} {e : Expr} {more : List (Token × List Token)}
    {es : List Expr} (hsep : ∀ p ∈ more, p.1.lexeme = .symbol .comma) (hu : Item u e)
    (hmore : List.Forall₂ (fun p x => Item p.2 x) more es) {c : Token}
    (hc : c.lexeme = .symbol .closeParen) :
    Items .closeParen false [] (Token.listed u more ++ [c])
      (if u = [] ∧ more = [] then [] else e :: es) [] := by
  simpa using items_listed (.inl rfl) hu hsep hmore hc [] []

lemma items_structured {u : List Token} {e : Expr} {more : List (Token × List Token)}
    {es : List Expr} (hsep : ∀ p ∈ more, p.1.lexeme = .symbol .comma) (hu : Item u e)
    (hmore : List.Forall₂ (fun p x => Item p.2 x) more es) {c : Token}
    (hc : c.lexeme = .symbol .closeBracket) :
    ∃ es', Items .closeBracket false [] (Token.listed u more ++ [c]) es' [] ∧
      Parse.structuredOf es' = if more = [] then .structured e else .structured (.union (e :: es)) := by
  refine ⟨_, by simpa using items_listed (.inr rfl) hu hsep hmore hc [] [], ?_⟩
  cases hmore with
  | nil =>
    by_cases hne : u = []
    · subst hne
      simp [hu.eq_empty, Parse.structuredOf]
    · simp [hne, Parse.structuredOf]
  | cons _ hrest => simp [Parse.structuredOf]

end Grammar

open Grammar in
theorem parse_nested {f o c : Token} {n : String} {u : List Token} {e : Expr}
    {more : List (Token × List Token)} {es : List Expr} (hf : f.lexeme = .name n)
    (hsep : ∀ p ∈ more, p.1.lexeme = .symbol .comma) (hu : Item u e)
    (hmore : List.Forall₂ (fun p x => Item p.2 x) more es) :
    (o.lexeme = .symbol .openParen → c.lexeme = .symbol .closeParen →
      (TokenStream.ofList (f :: o :: Token.listed u more ++ [c])).parse =
        .ok (some (.call n (if u = [] ∧ more = [] then [] else e :: es))) ∧
      (TokenStream.ofList (o :: u ++ [c])).parse = .ok (some (.bracketed e))) ∧
    (o.lexeme = .symbol .openBracket → c.lexeme = .symbol .closeBracket →
      (TokenStream.ofList (o :: Token.listed u more ++ [c])).parse =
        .ok (some (if more = [] then .structured e else .structured (.union (e :: es)))) ∧
      (n ≠ "TRUE" → n ≠ "FALSE" →
        (TokenStream.ofList (f :: o :: Token.listed u more ++ [c])).parse =
          .ok (some (.tableRef n
            (if more = [] then .structured e else .structured (.union (e :: es))))))) := by
  refine ⟨fun ho hc => ⟨?_, ?_⟩, fun ho hc => ?_⟩
  · exact parse_eq_some_iff.2 (terms_of_primary (.name hf (.call ho (items_call hsep hu hmore hc))))
  · refine parse_eq_some_iff.2 (terms_of_primary (.paren ho ?_))
    by_cases hne : u = []
    · subst hne
      rw [hu.eq_empty]
      exact .empty hc
    · exact .inner (hu.terms hne (.inr (.inl hc)) []) hc
  · obtain ⟨es', hi, hs⟩ := items_structured hsep hu hmore hc
    refine ⟨?_, fun hT hF => ?_⟩
    · rw [← hs]
      exact parse_eq_some_iff.2 (terms_of_primary (.bracket ho hi))
    · rw [← hs]
      exact parse_eq_some_iff.2 (terms_of_primary (.name hf (.table hT hF ho hi)))

theorem parse_nested_call_and_table :
    Grammar.Item [⟨.name "A1", 4, 6⟩] (.cell "A1") ∧
    (TokenStream.ofList [⟨.name "SUM", 0, 3⟩, ⟨.symbol .openParen, 3, 4⟩, ⟨.name "A1", 4, 6⟩,
        ⟨.symbol .comma, 6, 7⟩, ⟨.symbol .closeParen, 7, 8⟩]).parse =
      .ok (some (.call "SUM" [.cell "A1", .empty])) ∧
    (TokenStream.ofList [⟨.name "T", 0, 1⟩, ⟨.symbol .openBracket, 1, 2⟩, ⟨.name "A1", 4, 6⟩,
        ⟨.symbol .comma, 6, 7⟩, ⟨.symbol .closeBracket, 7, 8⟩]).parse =
      .ok (some (.tableRef "T" (.structured (.union [.cell "A1", .empty])))) := by
  have hu : Grammar.Item [⟨.name "A1", 4, 6⟩] (.cell "A1") := .inr (by cbv)
  have hmore : List.Forall₂ (fun p x => Grammar.Item p.2 x)
      [((⟨.symbol .comma, 6, 7⟩ : Token), ([] : List Token))] [.empty] :=
    .cons (.inl ⟨rfl, rfl⟩) .nil
  refine ⟨hu, ?_, ?_⟩
  · exact ((@parse_nested ⟨.name "SUM", 0, 3⟩ ⟨.symbol .openParen, 3, 4⟩
      ⟨.symbol .closeParen, 7, 8⟩ "SUM" _ _ _ _ rfl (by simp) hu hmore).1 rfl rfl).1
  · exact ((@parse_nested ⟨.name "T", 0, 1⟩ ⟨.symbol .openBracket, 1, 2⟩
      ⟨.symbol .closeBracket, 7, 8⟩ "T" _ _ _ _ rfl (by simp) hu hmore).2 rfl rfl).2
      (by decide) (by decide)

end SheetFormula

import SheetFormula.Proofs.Grammar
import SheetFormula.Proofs.Traversal
/-!
The cell references of a parsed tree, read off its tokens. A name token stands for a cell
reference unless it is `TRUE` or `FALSE`, the next token makes it a function, sheet or table name
(`(`, `!`, `[`), or it stands inside square brackets, where names are columns. Main statement:
the references of the tree that a parse returns are exactly those names, in token order. The
proof follows the derivation of the parse; the depth of square brackets is all the reading keeps.
-/

namespace SheetFormula

def Symbol.depthAfter : Symbol → Nat → Nat
  | .openBracket, d => d + 1
  | .closeBracket, d => d - 1
  | _, d => d

lemma Join.depthAfter_symbol (j : Join) (d : Nat) : j.symbol.depthAfter d = d := by
  cases j <;> rfl

namespace Token

def qualifiesName (t : Token) : Bool :=
  t.lexeme == .symbol .openParen || t.lexeme == .symbol .bang ||
    t.lexeme == .symbol .openBracket

def depthAfter (t : Token) (d : Nat) : Nat :=
  match t.lexeme with
  | .symbol s => s.depthAfter d
  | _ => d

def cellName? (t : Token) (d : Nat) (next : Option Token) : Option String :=
  match t.lexeme with
  | .name n =>
    if d = 0 ∧ n ≠ "TRUE" ∧ n ≠ "FALSE" ∧ next.all (!·.qualifiesName) then some n else none
  | _ => none

def cellNames : Nat → List Token → List String
  | _, [] => []
  | d, t :: ts => (t.cellName? d ts.head?).toList ++ cellNames (t.depthAfter d) ts

lemma cellNames_symbol {t : Token} {s : Symbol} (h : t.lexeme = .symbol s) (d : Nat)
    (ts : List Token) : cellNames d (t :: ts) = cellNames (s.depthAfter d) ts := by
  simp [cellNames, cellName?, depthAfter, h]

lemma cellNames_name {t : Token} {n : String} (h : t.lexeme = .name n) (d : Nat)
    (ts : List Token) : cellNames d (t :: ts) = (t.cellName? d ts.head?).toList ++ cellNames d ts := by
  simp [cellNames, depthAfter, h]

lemma cellNames_skip {t : Token} {s : Symbol} {d : Nat} (h : t.lexeme = .symbol s)
    (hs : s.depthAfter d = d) (ts : List Token) : cellNames d (t :: ts) = cellNames d ts := by
  rw [cellNames_symbol h, hs]

lemma cellNames_join {t : Token} {j : Join} (h : t.join? = some j) (d : Nat) (ts : List Token) :
    cellNames d (t :: ts) = cellNames d ts := by
  rw [cellNames_symbol (lexeme_of_join? h), Join.depthAfter_symbol]

lemma cellNames_qualified {t u : Token} {n : String} (ht : t.lexeme = .name n)
    (hu : u.qualifiesName) (d : Nat) (ts : List Token) :
    cellNames d (t :: u :: ts) = cellNames d (u :: ts) := by
  simp [cellNames, cellName?, depthAfter, ht, hu]

end Token

def visibleAt (d : Nat) (names : List String) : List String :=
  if d = 0 then names else []

@[simp]
lemma visibleAt_append (d : Nat) (a b : List String) :
    visibleAt d (a ++ b) = visibleAt d a ++ visibleAt d b := by
  unfold visibleAt
  split <;> simp

@[simp]
lemma visibleAt_nil (d : Nat) : visibleAt d [] = [] := by
  simp [visibleAt]

@[simp]
lemma visibleAt_succ (d : Nat) (names : List String) : visibleAt (d + 1) names = [] := rfl

namespace Expr

lemma references_eq (e : Expr) :
    e.references = e.cellName?.toList ++ e.referenceChildren.flatMap references := by
  have h : references = fun e => (Branching.references.preorder e).filterMap cellName? :=
    funext fun e => by simp [references, Branching.depthFirst_eq_flatMap]
  rw [h]
  dsimp only
  rw [Branching.preorder, List.filterMap_cons, List.filterMap_flatMap]
  cases e.cellName? <;> rfl

@[simp]
lemma references_empty : (empty).references = [] := by
  simp [references_eq (empty), cellName?, referenceChildren, children]

@[simp]
lemma references_string (s : String) : (string s).references = [] := by
  simp [references_eq (string s), cellName?, referenceChildren, children]

@[simp]
lemma references_error (c : ErrorCode) : (error c).references = [] := by
  simp [references_eq (error c), cellName?, referenceChildren, children]

@[simp]
lemma references_number (d : Decimal) : (number d).references = [] := by
  simp [references_eq (number d), cellName?, referenceChildren, children]

@[simp]
lemma references_bool (b : Bool) : (bool b).references = [] := by
  simp [references_eq (bool b), cellName?, referenceChildren, children]

@[simp]
lemma references_cell (n : String) : (cell n).references = [n] := by
  simp [references_eq (cell n), cellName?, referenceChildren, children]

@[simp]
lemma references_bracketed (x : Expr) : (bracketed x).references = x.references := by
  simp [references_eq (bracketed x), cellName?, referenceChildren, children]

@[simp]
lemma references_call (n : String) (args : List Expr) : (call n args).references = args.flatMap references := by
  simp [references_eq (call n args), cellName?, referenceChildren, children]

@[simp]
lemma references_compare (op : CompareOp) (l r : Expr) : (compare op l r).references = l.references ++ r.references := by
  simp [references_eq (compare op l r), cellName?, referenceChildren, children]

@[simp]
lemma references_intersection (l r : Expr) : (intersection l r).references = l.references ++ r.references := by
  simp [references_eq (intersection l r), cellName?, referenceChildren, children]

@[simp]
lemma references_concat (l r : Expr) : (concat l r).references = l.references ++ r.references := by
  simp [references_eq (concat l r), cellName?, referenceChildren, children]

@[simp]
lemma references_range (l r : Expr) : (range l r).references = l.references ++ r.references := by
  simp [references_eq (range l r), cellName?, referenceChildren, children]

@[simp]
lemma references_sheetRef (s r : Expr) : (sheetRef s r).references = r.references := by
  simp [references_eq (sheetRef s r), cellName?, referenceChildren]

@[simp]
lemma references_structured (x : Expr) : (structured x).references = [] := by
  simp [references_eq (structured x), cellName?, referenceChildren]

@[simp]
lemma references_tableRef (n : String) (x : Expr) : (tableRef n x).references = x.references := by
  simp [references_eq (tableRef n x), cellName?, referenceChildren, children]

@[simp]
lemma references_chain (steps : List (StepKind × Expr)) :
    (chain steps).references = steps.flatMap fun s => s.2.references := by
  simp [references_eq (chain steps), cellName?, referenceChildren, children, List.flatMap_map]

end Expr

open SheetFormula.Expr

lemma Parse.references_nameValue (n : String) :
    (Parse.nameValue n).references = if n = "TRUE" ∨ n = "FALSE" then [] else [n] := by
  unfold Parse.nameValue
  split
  · simp_all
  · split <;> simp_all

@[simp]
lemma Parse.references_structuredOf (es : List Expr) : (Parse.structuredOf es).references = [] := by
  unfold Parse.structuredOf
  split <;> simp

lemma Parse.references_listItems (filled : Bool) (acc : List Expr) :
    (Parse.listItems filled acc).flatMap references = acc.reverse.flatMap references := by
  unfold Parse.listItems
  split
  · simp_all
  · split <;> simp

lemma references_fold (pending : List (Joint × Expr)) (y : Expr) :
    (Joint.fold pending y).references =
      pending.reverse.flatMap (fun p => p.2.references) ++ y.references := by
  induction pending generalizing y with
  | nil => rfl
  | cons q pending ih =>
    obtain ⟨j, e⟩ := q
    rw [Joint.fold, List.foldl_cons, ← Joint.fold, ih]
    cases j <;> simp [Joint.build]

namespace Grammar

open Token

lemma cellName?_of_value {t : Token} {n : String} {ts : List Token} (ht : t.lexeme = .name n)
    (hnext : ∀ u ∈ ts.head?, u.lexeme ≠ .symbol .openParen ∧
      (n ≠ "TRUE" → n ≠ "FALSE" → u.lexeme ≠ .symbol .bang ∧ u.lexeme ≠ .symbol .openBracket))
    (d : Nat) : (t.cellName? d ts.head?).toList = visibleAt d (Parse.nameValue n).references := by
  rw [Parse.references_nameValue]
  by_cases hb : n = "TRUE" ∨ n = "FALSE"
  · rcases hb with hb | hb <;> simp [Token.cellName?, ht, hb]
  · obtain ⟨hT, hF⟩ := not_or.1 hb
    have hq : ts.head?.all (!·.qualifiesName) = true := by
      cases ts with
      | nil => rfl
      | cons u rest =>
        obtain ⟨hp, hk⟩ := hnext u rfl
        obtain ⟨hb', hk'⟩ := hk hT hF
        simp [qualifiesName, hp, hb', hk']
    unfold visibleAt
    split <;> simp_all [Token.cellName?]

mutual

lemma Primary.cellNames_eq {ts : List Token} {x : Expr} {rest : List Token}
    (h : Primary ts x rest) (d : Nat) :
    cellNames d ts = visibleAt d x.references ++ cellNames d rest :=
  match h with
  | .name ht ha => ha.cellNames_eq ht d
  | .string ht | .error ht | .number ht => by simp [cellNames, Token.cellName?, depthAfter, ht]
  | .negative ht hu => by
    rw [cellNames_skip ht rfl]
    simp [cellNames, Token.cellName?, depthAfter, hu]
  | .paren ht hx => by rw [cellNames_skip ht rfl, references_bracketed]; exact hx.cellNames_eq d
  | .bracket ht hi => by
    rw [cellNames_symbol ht]
    simpa [Symbol.depthAfter] using hi.cellNames_eq (d + 1)

lemma Operand.cellNames_eq {ts : List Token} {x : Expr} {rest : List Token}
    (h : Operand ts x rest) (d : Nat) :
    cellNames d ts = visibleAt d x.references ++ cellNames d rest :=
  match h with
  | .primary hp => hp.cellNames_eq d
  | .negation ht _ hx => by rw [cellNames_skip ht rfl]; simpa using hx.cellNames_eq d

lemma Terms.cellNames_eq {ts : List Token} {x : Expr} {rest : List Token}
    (h : Terms ts x rest) (d : Nat) :
    cellNames d ts = visibleAt d x.references ++ cellNames d rest :=
  match h with
  | .mk hx ha => by rw [hx.cellNames_eq d]; simpa using ha.cellNames_eq d

lemma TermsAfter.cellNames_eq {pending : List (Joint × Expr)} {x : Expr} {ts : List Token}
    {y : Expr} {rest : List Token} (h : TermsAfter pending x ts y rest) (d : Nat) :
    visibleAt d (pending.reverse.flatMap (fun p => p.2.references) ++ x.references) ++
      cellNames d ts = visibleAt d y.references ++ cellNames d rest :=
  match h with
  | .last hj _ _ => by
    rw [references_fold, visibleAt_append, visibleAt_append, List.append_assoc,
      List.append_assoc, hj.cellNames_eq d]
  | .concat hj ht hz hv => by
    rw [visibleAt_append, List.append_assoc, hj.cellNames_eq d, cellNames_skip ht rfl,
      hz.cellNames_eq d]
    simpa using hv.cellNames_eq d
  | .intersection hj _ hz hv => by
    rw [visibleAt_append, List.append_assoc, hj.cellNames_eq d, hz.cellNames_eq d]
    simpa using hv.cellNames_eq d

lemma AfterName.cellNames_eq {n : String} {ts : List Token} {x : Expr} {rest : List Token}
    (h : AfterName n ts x rest) {t : Token} (ht : t.lexeme = .name n) (d : Nat) :
    cellNames d (t :: ts) = visibleAt d x.references ++ cellNames d rest :=
  match h with
  | .call hu hi => by
    rw [cellNames_qualified ht (by simp [qualifiesName, hu]), cellNames_skip hu rfl]
    simpa [Symbol.depthAfter] using hi.cellNames_eq d
  | .sheet _ _ hu hx => by
    rw [cellNames_qualified ht (by simp [qualifiesName, hu]), cellNames_skip hu rfl,
      references_sheetRef]
    exact hx.cellNames_eq d
  | .table _ _ hu hi => by
    rw [cellNames_qualified ht (by simp [qualifiesName, hu]), cellNames_symbol hu]
    simpa [Symbol.depthAfter] using hi.cellNames_eq (d + 1)
  | .value hnext => by rw [cellNames_name ht, cellName?_of_value ht hnext d]

lemma Parens.cellNames_eq {ts : List Token} {x : Expr} {rest : List Token}
    (h : Parens ts x rest) (d : Nat) :
    cellNames d ts = visibleAt d x.references ++ cellNames d rest :=
  match h with
  | .empty hu => by rw [cellNames_skip hu rfl]; simp
  | .inner hx hu => by rw [hx.cellNames_eq d, cellNames_skip hu rfl]

lemma Items.cellNames_eq {close : Symbol} {filled : Bool} {acc : List Expr} {ts : List Token}
    {es : List Expr} {rest : List Token} (h : Items close filled acc ts es rest) (d : Nat) :
    visibleAt d (acc.reverse.flatMap references) ++ cellNames d ts =
      visibleAt d (es.flatMap references) ++ cellNames (close.depthAfter d) rest :=
  match h with
  | .comma ht hi => by
    rw [cellNames_skip ht rfl, ← hi.cellNames_eq d]
    split <;> simp
  | .close _ ht => by rw [cellNames_symbol ht, Parse.references_listItems]
  | .item _ _ hx hi => by
    rw [hx.cellNames_eq d, ← hi.cellNames_eq d]
    simp

lemma Joins.cellNames_eq {takes : Join → Bool} {x : Expr} {ts : List Token} {y : Expr}
    {rest : List Token} (h : Joins takes x ts y rest) (d : Nat) :
    visibleAt d x.references ++ cellNames d ts = visibleAt d y.references ++ cellNames d rest :=
  match h with
  | .stop _ => rfl
  | .step hj _ he hz => by rw [cellNames_join hj, he.cellNames_eq d, hz.cellNames_eq d]

lemma Extend.cellNames_eq {x : Expr} {j : Join} {ts : List Token} {y : Expr} {rest : List Token}
    (h : Extend x j ts y rest) (d : Nat) :
    visibleAt d x.references ++ cellNames d ts = visibleAt d y.references ++ cellNames d rest :=
  match h with
  | .range hy => by rw [hy.cellNames_eq d]; simp
  | .arith ha => by simpa using ha.cellNames_eq d
  | .concat hy => by rw [hy.cellNames_eq d]; simp
  | .percent => by simp
  | .compare hy hz => by rw [hy.cellNames_eq d, hz.cellNames_eq d]; simp

lemma Arith.cellNames_eq {steps : List (StepKind × Expr)} {op : ArithOp} {ts : List Token}
    {y : Expr} {rest : List Token} (h : Arith steps op ts y rest) (d : Nat) :
    visibleAt d (steps.reverse.flatMap fun s => s.2.references) ++ cellNames d ts =
      visibleAt d y.references ++ cellNames d rest :=
  match h with
  | .last hy hz _ => by rw [hy.cellNames_eq d, hz.cellNames_eq d]; simp
  | .more hy hz hu _ hv => by
    rw [hy.cellNames_eq d, hz.cellNames_eq d, cellNames_skip hu rfl]
    simpa using hv.cellNames_eq d

end

end Grammar

open Grammar in
theorem references_eq_cellNames {s : TokenStream} {e : Expr} (h : s.parse = .ok (some e)) :
    e.references = Token.cellNames 0 s.tokens := by
  have h0 := (derives_of_parse h).cellNames_eq 0
  simpa [visibleAt, Token.cellNames] using h0.symm

theorem references_eq_cellNames_call :
    (TokenStream.ofList [⟨.name "SUM", 0, 3⟩, ⟨.symbol .openParen, 3, 4⟩,
        ⟨.name "Sheet1", 4, 10⟩, ⟨.symbol .bang, 10, 11⟩, ⟨.name "A1", 11, 13⟩,
        ⟨.symbol .comma, 13, 14⟩, ⟨.name "B2", 14, 16⟩, ⟨.symbol .closeParen, 16, 17⟩]).parse =
        .ok (some (.call "SUM" [.sheetRef (.cell "Sheet1") (.cell "A1"), .cell "B2"])) ∧
      (Expr.call "SUM" [.sheetRef (.cell "Sheet1") (.cell "A1"), .cell "B2"]).references =
        Token.cellNames 0 [⟨.name "SUM", 0, 3⟩, ⟨.symbol .openParen, 3, 4⟩,
          ⟨.name "Sheet1", 4, 10⟩, ⟨.symbol .bang, 10, 11⟩, ⟨.name "A1", 11, 13⟩,
          ⟨.symbol .comma, 13, 14⟩, ⟨.name "B2", 14, 16⟩, ⟨.symbol .closeParen, 16, 17⟩] := by
  have h : (TokenStream.ofList [⟨.name "SUM", 0, 3⟩, ⟨.symbol .openParen, 3, 4⟩,
      ⟨.name "Sheet1", 4, 10⟩, ⟨.symbol .bang, 10, 11⟩, ⟨.name "A1", 11, 13⟩,
      ⟨.symbol .comma, 13, 14⟩, ⟨.name "B2", 14, 16⟩, ⟨.symbol .closeParen, 16, 17⟩]).parse =
      .ok (some (.call "SUM" [.sheetRef (.cell "Sheet1") (.cell "A1"), .cell "B2"])) := by
    cbv
  exact ⟨h, references_eq_cellNames h⟩

example : Token.cellNames 0 [⟨.name "SUM", 0, 3⟩, ⟨.symbol .openParen, 3, 4⟩,
    ⟨.name "Sheet1", 4, 10⟩, ⟨.symbol .bang, 10, 11⟩, ⟨.name "A1", 11, 13⟩,
    ⟨.symbol .comma, 13, 14⟩, ⟨.name "B2", 14, 16⟩, ⟨.symbol .closeParen, 16, 17⟩] =
    ["A1", "B2"] := by
  decide

end SheetFormula

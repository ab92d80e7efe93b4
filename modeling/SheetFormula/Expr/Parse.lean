import SheetFormula.Expr
import SheetFormula.Expr.Fault
import SheetFormula.Token.Scan
/-!
Parsing tokens into an expression tree: operands joined by `&` or side by side (an
intersection), each operand followed by its eager joins (arithmetic, comparisons, ranges and
percent). A scan fault after the tokens surfaces only when the parse looks past them. Every
parsing function returns the tokens after its value with a proof that they are fewer.
-/

namespace SheetFormula

structure Parsed (α : Type) (n : Nat) where
  value : α
  rest : List Token
  shorter : rest.length < n

inductive Join where
  | range
  | arith (op : ArithOp)
  | concat
  | percent
  | compare (op : CompareOp)
  deriving DecidableEq, Repr

def Symbol.join? : Symbol → Option Join
  | .colon => some .range
  | .arith op => some (.arith op)
  | .ampersand => some .concat
  | .percent => some .percent
  | .compare op => some (.compare op)
  | _ => none

namespace Join

def precedence : Join → Nat
  | .range => 400
  | .percent => 100
  | .arith op => op.precedence
  | .concat => 1
  | .compare _ => 0

def isEager : Join → Bool
  | .concat => false
  | _ => true

end Join

def Token.join? (t : Token) : Option Join :=
  t.symbol?.bind Symbol.join?

inductive Joint where
  | concat | intersection
  deriving DecidableEq, Repr

def Joint.build : Joint → Expr → Expr → Expr
  | .concat => .concat
  | .intersection => .intersection

def Joint.fold (pending : List (Joint × Expr)) (last : Expr) : Expr :=
  pending.foldl (fun acc p => p.1.build p.2 acc) last

namespace Parse

variable (fault : Option ScanFault)

def atEnd : Except FormulaFault Unit :=
  match fault with
  | some f => .error (.scan f)
  | none => .ok ()

def needed (what : Operand) (after : Token) : List Token → FormulaFault
  | t :: _ => .parse (.blocked what t)
  | [] =>
    match fault with
    | some f => .scan f
    | none => .parse (.missing what after)

def nameValue (name : String) : Expr :=
  if name = "TRUE" then .bool true
  else if name = "FALSE" then .bool false
  else .cell name

def closeParen (opener : Token) (inner : Expr) :
    (ts : List Token) → Except FormulaFault (Parsed Expr (ts.length + 1))
  | [] => do
    atEnd fault
    throw (.parse (.unclosedBrackets opener))
  | t :: tail =>
    if t.symbol? = some .closeParen then return ⟨.bracketed inner, tail, by simp only [List.length_cons] at *; omega⟩
    else throw (.parse (.unclosedBrackets opener))

def structuredOf : List Expr → Expr
  | [] => .structured .empty
  | [e] => .structured e
  | es => .structured (.union es)

def listItems (filled : Bool) (acc : List Expr) : List Expr :=
  if acc.isEmpty then [] else (if filled then acc else .empty :: acc).reverse

set_option linter.unusedSimpArgs false in
mutual

def terms? (ts : List Token) : Except FormulaFault (Option (Parsed Expr ts.length)) := do
  match ← operand? ts with
  | none => return none
  | some ⟨x, rest, h⟩ =>
    let ⟨y, rest2, h2⟩ ← termsAfter [] x rest
    return some ⟨y, rest2, by omega⟩
termination_by (ts.length, 9)

def termsAfter (pending : List (Joint × Expr)) (x : Expr) (ts : List Token) :
    Except FormulaFault (Parsed Expr (ts.length + 1)) := do
  let ⟨y, rest, h⟩ ← eagerJoins x ts
  match hr : rest with
  | [] => do
    atEnd fault
    return ⟨Joint.fold pending y, [], Nat.zero_lt_succ _⟩
  | t :: tail =>
    if t.symbol? = some .ampersand then
      match ← operand? tail with
      | none => throw (needed fault .joined t tail)
      | some ⟨z, rest2, h2⟩ =>
        let ⟨v, rest3, h3⟩ ← termsAfter ((.concat, y) :: pending) z rest2
        return ⟨v, rest3, by subst hr; simp only [List.length_cons] at h; omega⟩
    else
      match ← operand? (t :: tail) with
      | none => return ⟨Joint.fold pending y, t :: tail, by subst hr; exact h⟩
      | some ⟨z, rest2, h2⟩ =>
        let ⟨v, rest3, h3⟩ ← termsAfter ((.intersection, y) :: pending) z rest2
        return ⟨v, rest3, by subst hr; simp only [List.length_cons] at h h2; omega⟩
termination_by (ts.length, 8)
decreasing_by
  all_goals
    subst_vars
    simp only [Prod.lex_def, List.length_cons, true_and] at *
    omega

def operand? (ts : List Token) : Except FormulaFault (Option (Parsed Expr ts.length)) := do
  match ← primary? ts with
  | some p => return some p
  | none => negation? ts
termination_by (ts.length, 7)

def negation? : (ts : List Token) → Except FormulaFault (Option (Parsed Expr ts.length))
  | [] => do
    atEnd fault
    return none
  | t :: tail => do
    if t.symbol? = some (.arith .subtract) then
      match ← operand? tail with
      | none => throw (needed fault .negated t tail)
      | some ⟨x, rest, h⟩ => return some ⟨.chain [(.subtract, x)], rest, by simp only [List.length_cons] at *; omega⟩
    else return none
termination_by ts => (ts.length, 6)

def primary? : (ts : List Token) → Except FormulaFault (Option (Parsed Expr ts.length))
  | [] => do
    atEnd fault
    return none
  | t :: tail =>
    match t.lexeme with
    | .name n => do
      let ⟨x, rest, h⟩ ← afterName n tail
      return some ⟨x, rest, by simp only [List.length_cons] at *; omega⟩
    | .string s => return some ⟨.string s, tail, by simp only [List.length_cons] at *; omega⟩
    | .error e => return some ⟨.error e, tail, by simp only [List.length_cons] at *; omega⟩
    | .number d => return some ⟨.number d, tail, by simp only [List.length_cons] at *; omega⟩
    | .symbol (.arith .subtract) =>
      match tail with
      | [] => do
        atEnd fault
        return none
      | u :: rest =>
        match u.lexeme with
        | .number d => return some ⟨.number d.negate, rest, by simp only [List.length_cons] at *; omega⟩
        | _ => return none
    | .symbol .openParen => do
      let ⟨x, rest, h⟩ ← bracketed t tail
      return some ⟨x, rest, by simp only [List.length_cons] at *; omega⟩
    | .symbol .openBracket => do
      let ⟨x, rest, h⟩ ← structured t tail
      return some ⟨x, rest, by simp only [List.length_cons] at *; omega⟩
    | .symbol _ => return none
termination_by ts => (ts.length, 6)

def afterName (name : String) : (ts : List Token) → Except FormulaFault (Parsed Expr (ts.length + 1))
  | [] => do
    atEnd fault
    return ⟨nameValue name, [], Nat.zero_lt_succ _⟩
  | t :: tail =>
    if t.symbol? = some .openParen then do
      let ⟨args, rest, h⟩ ← items .closeParen t false [] tail
      return ⟨.call name args, rest, by simp only [List.length_cons] at *; omega⟩
    else if name = "TRUE" ∨ name = "FALSE" then
      return ⟨nameValue name, t :: tail, by simp only [List.length_cons] at *; omega⟩
    else if t.symbol? = some .bang then do
      match ← primary? tail with
      | none => throw (needed fault .sheetTarget t tail)
      | some ⟨x, rest, h⟩ => return ⟨.sheetRef (.cell name) x, rest, by simp only [List.length_cons] at *; omega⟩
    else if t.symbol? = some .openBracket then do
      let ⟨x, rest, h⟩ ← structured t tail
      return ⟨.tableRef name x, rest, by simp only [List.length_cons] at *; omega⟩
    else return ⟨.cell name, t :: tail, by simp only [List.length_cons] at *; omega⟩
termination_by ts => (ts.length + 1, 5)

def bracketed (opener : Token) (ts : List Token) :
    Except FormulaFault (Parsed Expr (ts.length + 1)) := do
  match ← terms? ts with
  | none => closeParen fault opener .empty ts
  | some ⟨x, rest, h⟩ =>
    let ⟨y, rest2, h2⟩ ← closeParen fault opener x rest
    return ⟨y, rest2, by omega⟩
termination_by (ts.length + 1, 5)

def structured (opener : Token) (ts : List Token) :
    Except FormulaFault (Parsed Expr (ts.length + 1)) := do
  let ⟨es, rest, h⟩ ← items .closeBracket opener false [] ts
  return ⟨structuredOf es, rest, h⟩
termination_by (ts.length + 1, 5)

def items (close : Symbol) (opener : Token) (filled : Bool) (acc : List Expr) :
    (ts : List Token) → Except FormulaFault (Parsed (List Expr) (ts.length + 1))
  | [] => do
    atEnd fault
    throw (.parse (.unclosedList opener))
  | t :: tail =>
    if t.symbol? = some .comma then do
      let ⟨es, rest, h⟩ ← items close opener false (if filled then acc else .empty :: acc) tail
      return ⟨es, rest, by simp only [List.length_cons] at *; omega⟩
    else if t.symbol? = some close then
      return ⟨listItems filled acc, tail, by simp only [List.length_cons] at *; omega⟩
    else do
      match ← terms? (t :: tail) with
      | none => throw (.parse (.stray t (.inList opener)))
      | some ⟨x, rest, h⟩ =>
        let ⟨es, rest2, h2⟩ ← items close opener true (x :: acc) rest
        return ⟨es, rest2, by simp only [List.length_cons] at *; omega⟩
termination_by ts => (ts.length + 1, 4)
decreasing_by
  all_goals
    simp only [Prod.lex_def, List.length_cons] at *
    omega

def eagerJoins (x : Expr) : (ts : List Token) → Except FormulaFault (Parsed Expr (ts.length + 1))
  | [] => do
    atEnd fault
    return ⟨x, [], Nat.zero_lt_succ _⟩
  | t :: tail =>
    match t.join? with
    | some j =>
      if j.isEager then do
        let ⟨y, rest, h⟩ ← extend x j t tail
        let ⟨z, rest2, h2⟩ ← eagerJoins y rest
        return ⟨z, rest2, by simp only [List.length_cons] at *; omega⟩
      else return ⟨x, t :: tail, by simp only [List.length_cons] at *; omega⟩
    | none => return ⟨x, t :: tail, by simp only [List.length_cons] at *; omega⟩
termination_by ts => (ts.length, 7)

def absorb (x : Expr) (prec : Nat) : (ts : List Token) → Except FormulaFault (Parsed Expr (ts.length + 1))
  | [] => do
    atEnd fault
    return ⟨x, [], Nat.zero_lt_succ _⟩
  | t :: tail =>
    match t.join? with
    | some j =>
      if prec < j.precedence then do
        let ⟨y, rest, h⟩ ← extend x j t tail
        let ⟨z, rest2, h2⟩ ← absorb y prec rest
        return ⟨z, rest2, by simp only [List.length_cons] at *; omega⟩
      else return ⟨x, t :: tail, by simp only [List.length_cons] at *; omega⟩
    | none => return ⟨x, t :: tail, by simp only [List.length_cons] at *; omega⟩
termination_by ts => (ts.length, 7)

def extend (x : Expr) (j : Join) (t : Token) (ts : List Token) :
    Except FormulaFault (Parsed Expr (ts.length + 1)) :=
  match j with
  | .range => do
    match ← primary? ts with
    | none => throw (needed fault .rangeEnd t ts)
    | some ⟨y, rest, h⟩ => return ⟨.range x y, rest, by omega⟩
  | .arith op => arith [(.start, x)] op t ts
  | .concat => do
    match ← terms? ts with
    | none => throw (needed fault .joined t ts)
    | some ⟨y, rest, h⟩ => return ⟨.concat x y, rest, by omega⟩
  | .percent => return ⟨.chain [(.percent, x)], ts, by omega⟩
  | .compare op => do
    match ← operand? ts with
    | none => throw (needed fault (.rightSide t) t ts)
    | some ⟨y, rest, h⟩ =>
      let ⟨z, rest2, h2⟩ ← absorb y 0 rest
      return ⟨.compare op x z, rest2, by omega⟩
termination_by (ts.length + 1, 3)

def arith (steps : List (StepKind × Expr)) (op : ArithOp) (t : Token) (ts : List Token) :
    Except FormulaFault (Parsed Expr (ts.length + 1)) := do
  match ← operand? ts with
  | none => throw (needed fault (.rightSide t) t ts)
  | some ⟨y, rest, h⟩ =>
    let ⟨z, rest2, h2⟩ ← absorb y op.precedence rest
    let steps := (op.step, z) :: steps
    match hr : rest2 with
    | [] => do
      atEnd fault
      return ⟨.chain steps.reverse, [], Nat.zero_lt_succ _⟩
    | u :: after =>
      have hu : (u :: after).length < ts.length + 1 := hr ▸ Nat.lt_trans h2 (Nat.succ_lt_succ h)
      match u.symbol? with
      | some (.arith next) =>
        if next.precedence = op.precedence then do
          let ⟨v, rest3, h3⟩ ← arith steps next u after
          return ⟨v, rest3, Nat.lt_trans h3 hu⟩
        else return ⟨.chain steps.reverse, u :: after, hu⟩
      | _ => return ⟨.chain steps.reverse, u :: after, hu⟩
termination_by (ts.length + 1, 2)

end

end Parse

def TokenStream.parse (s : TokenStream) : Except FormulaFault (Option Expr) :=
  match s.tokens with
  | [] => do
    Parse.atEnd s.fault
    return none
  | t :: tail => do
    match ← Parse.terms? s.fault (t :: tail) with
    | none => throw (.parse (.stray t .afterEnd))
    | some ⟨x, rest, _⟩ =>
      match rest with
      | [] => do
        Parse.atEnd s.fault
        return some x
      | u :: _ => throw (.parse (.stray u .afterEnd))

end SheetFormula

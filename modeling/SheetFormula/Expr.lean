import SheetFormula.Token
/-!
Expression trees of formulas, and their two views: the nodes in depth-first order and the cell
references, both from one traversal of a stack of trees.
-/

namespace SheetFormula

inductive StepKind where
  | start | add | subtract | multiply | divide | power | percent
  deriving DecidableEq, Repr

def ArithOp.step : ArithOp → StepKind
  | .add => .add | .subtract => .subtract | .multiply => .multiply | .divide => .divide
  | .power => .power

def StepKind.text : StepKind → String
  | .start => "start" | .add => "add" | .subtract => "subtract" | .multiply => "multiply"
  | .divide => "divide" | .power => "power" | .percent => "percent"

inductive Expr where
  | empty
  | string (value : String)
  | error (code : ErrorCode)
  | number (value : Decimal)
  | bool (value : Bool)
  | cell (name : String)
  | bracketed (inner : Expr)
  | call (name : String) (args : List Expr)
  | compare (op : CompareOp) (left right : Expr)
  | chain (steps : List (StepKind × Expr))
  | intersection (left right : Expr)
  | union (elements : List Expr)
  | concat (left right : Expr)
  | range (left right : Expr)
  | sheetRef (sheet ref : Expr)
  | structured (inner : Expr)
  | tableRef (table : String) (ref : Expr)
  deriving Repr

namespace Expr

def kindName : Expr → String
  | .empty => "Empty" | .string _ => "StringValue" | .error _ => "ErrorValue"
  | .number _ => "NumberValue" | .bool _ => "BooleanValue" | .cell _ => "CellRef"
  | .bracketed _ => "Bracketed" | .call .. => "FunctionCall" | .compare .. => "Comparison"
  | .chain _ => "MathsChain" | .intersection .. => "Intersection" | .union _ => "Union"
  | .concat .. => "TextJoin" | .range .. => "Range" | .sheetRef .. => "SheetRef"
  | .structured _ => "StructuredRef" | .tableRef .. => "TableRef"

def children : Expr → List Expr
  | .bracketed e | .structured e | .tableRef _ e => [e]
  | .call _ args => args
  | .compare _ l r | .intersection l r | .concat l r | .range l r | .sheetRef l r => [l, r]
  | .chain steps => steps.map Prod.snd
  | .union es => es
  | _ => []

def referenceChildren : Expr → List Expr
  | .sheetRef _ r => [r]
  | .structured _ => []
  | e => e.children

mutual
def nodeCount : Expr → Nat
  | .bracketed e | .structured e | .tableRef _ e => e.nodeCount + 1
  | .call _ args => listNodeCount args + 1
  | .compare _ l r | .intersection l r | .concat l r | .range l r | .sheetRef l r =>
    l.nodeCount + r.nodeCount + 1
  | .chain steps => stepsNodeCount steps + 1
  | .union es => listNodeCount es + 1
  | .empty | .string _ | .error _ | .number _ | .bool _ | .cell _ => 1

def listNodeCount : List Expr → Nat
  | [] => 0
  | e :: es => e.nodeCount + listNodeCount es

def stepsNodeCount : List (StepKind × Expr) → Nat
  | [] => 0
  | (_, e) :: steps => e.nodeCount + stepsNodeCount steps
end

@[simp]
theorem listNodeCount_append (l₁ l₂ : List Expr) :
    listNodeCount (l₁ ++ l₂) = listNodeCount l₁ + listNodeCount l₂ := by
  induction l₁ with
  | nil => simp only [List.nil_append, listNodeCount, Nat.zero_add]
  | cons e es ih => simp only [List.cons_append, listNodeCount, ih, Nat.add_assoc]

theorem stepsNodeCount_eq (steps : List (StepKind × Expr)) :
    stepsNodeCount steps = listNodeCount (steps.map Prod.snd) := by
  induction steps with
  | nil => rfl
  | cons p steps ih => obtain ⟨k, e⟩ := p; simp only [stepsNodeCount, List.map_cons, listNodeCount, ih]

theorem nodeCount_eq_children (e : Expr) : e.nodeCount = listNodeCount e.children + 1 := by
  cases e <;>
    simp only [nodeCount, children, listNodeCount, stepsNodeCount_eq, Nat.add_zero]

theorem nodeCount_le_of_mem : ∀ {l : List Expr} {c : Expr}, c ∈ l → c.nodeCount ≤ listNodeCount l
  | _ :: _, _, .head _ => by simp only [listNodeCount]; omega
  | _ :: _, _, .tail _ h => by
    have := nodeCount_le_of_mem h
    simp only [listNodeCount]
    omega

theorem listNodeCount_referenceChildren_lt (e : Expr) :
    listNodeCount e.referenceChildren < e.nodeCount := by
  have h := nodeCount_eq_children e
  cases e <;> simp only [referenceChildren, children, listNodeCount, nodeCount] at h ⊢ <;> omega

end Expr

structure Branching where
  pick : Expr → List Expr
  fewer : ∀ e, Expr.listNodeCount (pick e) < e.nodeCount

namespace Branching

def all : Branching :=
  ⟨Expr.children, fun e => by have := Expr.nodeCount_eq_children e; omega⟩

def references : Branching :=
  ⟨Expr.referenceChildren, Expr.listNodeCount_referenceChildren_lt⟩

def depthFirst (b : Branching) : List Expr → List Expr
  | [] => []
  | e :: stack => e :: b.depthFirst (b.pick e ++ stack)
termination_by stack => Expr.listNodeCount stack
decreasing_by
  have := b.fewer e
  simp only [Expr.listNodeCount_append, Expr.listNodeCount]
  omega

def preorder (b : Branching) (e : Expr) : List Expr :=
  e :: (b.pick e).flatMap fun c => b.preorder c
termination_by e.nodeCount
decreasing_by
  have := b.fewer e
  have := Expr.nodeCount_le_of_mem (by assumption)
  omega

end Branching

namespace Expr

def cellName? : Expr → Option String
  | .cell name => some name
  | _ => none

def walk (e : Expr) : List Expr :=
  Branching.all.depthFirst [e]

def references (e : Expr) : List String :=
  (Branching.references.depthFirst [e]).filterMap cellName?

end Expr

end SheetFormula

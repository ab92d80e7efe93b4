import SheetFormula.Expr.Parse
import Mathlib.Tactic.Lemma
/-!
Text joins and intersections read by plain recursion: `termsAfter`, which keeps the expressions
that wait for a right side on a stack, reads every token list as `joined?` does.
-/

namespace SheetFormula

def Parsed.map {α β : Type} {n : Nat} (f : α → β) (p : Parsed α n) : Parsed β n :=
  ⟨f p.value, p.rest, p.shorter⟩

namespace Parse

variable (fault : Option ScanFault)

mutual

def joined? (ts : List Token) : Except FormulaFault (Option (Parsed Expr ts.length)) := do
  let some p ← operand? fault ts | return none
  let q ← joinedAfter p.value p.rest
  return some ⟨q.value, q.rest, Nat.lt_of_lt_of_le q.shorter p.shorter⟩
termination_by (ts.length, 1)
decreasing_by
  have := p.shorter
  simp only [Prod.lex_def]
  omega

def joinedAfter (x : Expr) (ts : List Token) :
    Except FormulaFault (Parsed Expr (ts.length + 1)) := do
  let p ← eagerJoins fault x ts
  match hr : p.rest with
  | t :: tail =>
    have hp : tail.length < ts.length := by
      have := p.shorter
      rw [hr, List.length_cons] at this
      omega
    if t.symbol? = some .ampersand then
      let some q ← joined? tail | throw (needed fault .joined t tail)
      return ⟨.concat p.value q.value, q.rest, by have := q.shorter; omega⟩
    else
      let some q ← joined? (t :: tail) | return ⟨p.value, t :: tail, hr ▸ p.shorter⟩
      return ⟨.intersection p.value q.value, q.rest, by
        have : q.rest.length < tail.length + 1 := q.shorter
        omega⟩
  | [] => do
    atEnd fault
    return ⟨p.value, [], Nat.zero_lt_succ _⟩
termination_by (ts.length + 1, 0)
decreasing_by
  all_goals
    simp only [Prod.lex_def, List.length_cons]
    omega

end

lemma termsAfter_eq_map_joinedAfter (pending : List (Joint × Expr)) (x : Expr) (ts : List Token) :
    termsAfter fault pending x ts = Parsed.map (Joint.fold pending) <$> joinedAfter fault x ts := by
  -- recursion on the tokens left: the right side of `&` or of an intersection is read from
  -- fewer tokens, with one more expression on the stack
  rw [termsAfter, joinedAfter]
  cases he : eagerJoins fault x ts with
  | error e => rfl
  | ok p =>
    obtain ⟨y, rest, hy⟩ := p
    rcases rest with _ | ⟨t, tail⟩
    · cases atEnd fault <;> rfl
    · dsimp only [bind, Except.bind]
      by_cases hamp : t.symbol? = some .ampersand
      · simp only [hamp, if_true]
        rw [joined?]
        cases ho : operand? fault tail with
        | error e => rfl
        | ok r =>
          rcases r with _ | ⟨z, rest2, h2⟩
          · rfl
          · have hlt : rest2.length < ts.length := by simp only [List.length_cons] at hy; omega
            dsimp only [bind, Except.bind]
            rw [termsAfter_eq_map_joinedAfter _ z rest2]
            cases joinedAfter fault z rest2 <;> rfl
      · simp only [hamp, if_false]
        rw [joined?]
        cases ho : operand? fault (t :: tail) with
        | error e => rfl
        | ok r =>
          rcases r with _ | ⟨z, rest2, h2⟩
          · rfl
          · have hlt : rest2.length < ts.length := by
              simp only [List.length_cons] at hy h2
              omega
            dsimp only [bind, Except.bind]
            rw [termsAfter_eq_map_joinedAfter _ z rest2]
            cases joinedAfter fault z rest2 <;> rfl
termination_by ts.length
decreasing_by all_goals assumption

theorem terms?_eq_joined? (ts : List Token) : terms? fault ts = joined? fault ts := by
  rw [terms?, joined?]
  cases operand? fault ts with
  | error e => rfl
  | ok r =>
    rcases r with _ | ⟨x, rest, h⟩
    · rfl
    · dsimp only [bind, Except.bind]
      rw [termsAfter_eq_map_joinedAfter fault [] x rest]
      cases joinedAfter fault x rest <;> rfl

end Parse

end SheetFormula

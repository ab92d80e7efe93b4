import SheetFormula.Proofs.FaultSpans
/-!
Reads that go past the tokens they were given. A fault raised there stands on the first token
after them, on a minus sign read past at their end, or at the end of the tokens, and a read of at
most one token settles so whatever it reads.
-/

namespace SheetFormula

namespace Parse

variable (φ : Option ScanFault)

/-- A minus sign read past to see whether a number follows in `u`, where none does. -/
def MinusPeek (m : Token) (u : List Token) : Prop :=
  m.lexeme = .symbol (.arith .subtract) ∧ (∀ v ∈ u.head?, ∀ d, v.lexeme ≠ .number d) ∧
    (u = [] → φ = none)

/-- A syntax fault raised once `ts` is read past into `u`: it stands on the head of `u`, on a
minus sign ending `ts`, or at the end of the tokens. -/
def Fresh (ts u : List Token) (opener : Option Token) : SyntaxFault → Prop
  | .blocked _ t => t ∈ u.head? ∨ ts.getLast? = some t ∧ MinusPeek φ t u
  | .stray t _ => t ∈ u.head?
  | .missing .. | .unclosedList _ => φ = none
  | .unclosedBrackets o =>
    φ = none ∨ ∃ v ∈ u.head?, v.symbol? ≠ some .closeParen ∧ (o ∈ ts ∨ opener = some o)

/-- A result of reading past `ts` into `u`: its syntax fault is fresh, its scan fault the
stream's own. -/
def Settles (ts u : List Token) (opener : Option Token) {β : Type} (P : β → Prop) :
    Except FormulaFault β → Prop
  | .ok b => P b
  | .error (.scan f) => φ = some f
  | .error (.parse e) => Fresh φ ts u opener e

/-- An optional parse that leaves a suffix of `u`, and finds nothing only when `N` holds. -/
def Lands {α : Type} {n : Nat} (u : List Token) (N : Prop) (r : Option (Parsed α n)) : Prop :=
  (∀ p ∈ r, p.Leaves u) ∧ (r = none → N)

namespace Fresh

variable {φ} {ts ts' u : List Token} {o o' : Option Token} {e : SyntaxFault}

lemma lift (h : Fresh φ ts' u o' e) (hts : ts' <:+ ts)
    (ho : ∀ t, o' = some t → t ∈ ts ∨ o = some t) : Fresh φ ts u o e := by
  cases e with
  | blocked what t =>
    refine h.imp id fun ⟨hlast, hm⟩ => ⟨?_, hm⟩
    obtain ⟨pre, rfl⟩ := hts
    rw [List.getLast?_append, hlast]
    rfl
  | stray t place => exact h
  | missing what after => exact h
  | unclosedList t => exact h
  | unclosedBrackets t =>
    refine h.imp id fun ⟨v, hv, hc, ht⟩ => ⟨v, hv, hc, ?_⟩
    rcases ht with ht | ht
    · exact .inl (hts.subset ht)
    · exact ho t ht

end Fresh

namespace Settles

variable {φ} {β γ : Type} {ts u : List Token} {o : Option Token} {P : β → Prop}

lemma lift {ts' : List Token} {o' : Option Token} {Q : β → Prop} {r : Except FormulaFault β}
    (h : Settles φ ts' u o' P r) (hts : ts' <:+ ts) (ho : ∀ t, o' = some t → t ∈ ts ∨ o = some t)
    (hP : ∀ b, P b → Q b) : Settles φ ts u o Q r := by
  cases r with
  | ok b => exact hP b h
  | error e =>
    cases e with
    | scan f => exact h
    | parse e => exact Fresh.lift h hts ho

lemma bind {Q : γ → Prop} {r : Except FormulaFault β} {f : β → Except FormulaFault γ}
    (h : Settles φ ts u o P r) (hf : ∀ b, P b → Settles φ ts u o Q (f b)) :
    Settles φ ts u o Q (r >>= f) := by
  cases r with
  | error e => cases e <;> exact h
  | ok b => exact hf b h

lemma pure {b : β} (h : P b) : Settles φ ts u o P (pure b) := h

lemma atEnd_bind {f : Unit → Except FormulaFault β} (h : φ = none → Settles φ ts u o P (f ())) :
    Settles φ ts u o P (atEnd φ >>= f) := by
  cases φ with
  | none => exact h rfl
  | some _ => rfl

lemma needed {what : Operand} {t : Token} {w : List Token} (hw : ∀ v ∈ w.head?, v ∈ u.head?) :
    Settles φ ts u o P (throw (Parse.needed φ what t w)) := by
  cases w with
  | nil =>
    cases φ with
    | none => rfl
    | some _ => rfl
  | cons v _ => exact .inl (hw v rfl)

variable {α : Type} {n : Nat} {w : List Token}

lemma bind_parsed {Q : γ → Prop} {r : Except FormulaFault (Parsed α n)}
    {f : Parsed α n → Except FormulaFault γ} (h : Settles φ ts u o (Parsed.Leaves w) r)
    (hf : ∀ x rest h, rest <:+ w → Settles φ ts u o Q (f ⟨x, rest, h⟩)) :
    Settles φ ts u o Q (r >>= f) := by
  refine h.bind fun p hp => ?_
  obtain ⟨x, rest, hx⟩ := p
  exact hf x rest hx hp

lemma bind_option {N : Prop} {Q : γ → Prop} {r : Except FormulaFault (Option (Parsed α n))}
    {f : Option (Parsed α n) → Except FormulaFault γ} (h : Settles φ ts u o (Lands w N) r)
    (hnone : N → Settles φ ts u o Q (f none))
    (hsome : ∀ x rest h, rest <:+ w → Settles φ ts u o Q (f (some ⟨x, rest, h⟩))) :
    Settles φ ts u o Q (r >>= f) := by
  refine h.bind fun r hr => ?_
  cases r with
  | none => exact hnone (hr.2 rfl)
  | some p => exact hsome p.value p.rest p.shorter (hr.1 p rfl)

end Settles

end Parse

end SheetFormula

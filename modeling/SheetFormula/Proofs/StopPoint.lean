import SheetFormula.Proofs.Settling
import SheetFormula.Proofs.Laziness
/-!
Where a parse stops. The tokens a parse reads before it raises a syntax fault are the longest
prefix whose parse still reads past its end. The fault stands on the next token, or on a minus
sign just before it that the parse read past to see whether a number follows, or at the end of
the tokens; a bracket left open was read before the token that stands where it should close.
-/

namespace SheetFormula

namespace Parse

variable (φ : Option ScanFault) (L : ScanFault)

/-- Where the parse of `ts` reads past its end, the parse of `ts ++ u` settles. -/
def Grows (ts u : List Token) (o : Option Token) {α β : Type} (P : β → Prop)
    (r : Except FormulaFault α) (r' : Except FormulaFault β) : Prop :=
  r = .error (.scan L) → Settles φ ts u o P r'

namespace Grows

variable {φ L} {α β γ δ : Type} {ts u : List Token} {o : Option Token}

lemma lift {ts' : List Token} {o' : Option Token} {P : β → Prop} {r : Except FormulaFault α}
    {r' : Except FormulaFault β} (h : Grows φ L ts' u o' P r r') (hts : ts' <:+ ts)
    (ho : ∀ t, o' = some t → t ∈ ts ∨ o = some t) : Grows φ L ts u o P r r' :=
  fun hr => (h hr).lift hts ho fun _ => id

lemma widen {ts' : List Token} {P : β → Prop} {r : Except FormulaFault α}
    {r' : Except FormulaFault β} (h : Grows φ L ts' u o P r r') (hts : ts' <:+ ts) :
    Grows φ L ts u o P r r' :=
  h.lift hts fun _ => .inr

lemma pure {a : α} {P : β → Prop} {r' : Except FormulaFault β} :
    Grows φ L ts u o P (pure a) r' := by
  intro h
  cases h

lemma throw_parse {e : SyntaxFault} {P : β → Prop} {r' : Except FormulaFault β} :
    Grows φ L ts u o P (throw (.parse e) : Except FormulaFault α) r' := by
  intro h
  cases h

lemma needed {what : Operand} {t : Token} {rest : List Token} {P : β → Prop} :
    Grows φ L ts u o P (throw (Parse.needed (some L) what t rest) : Except FormulaFault α)
      (throw (Parse.needed φ what t (rest ++ u))) := by
  intro h
  cases rest with
  | nil => exact Settles.needed fun _ => id
  | cons v rest => cases h

variable {n m : Nat} {w ts₀ : List Token} {a : Option SyntaxFault}

lemma bind_parsed {Q : δ → Prop} {r : Except FormulaFault (Parsed α n)}
    {r' : Except FormulaFault (Parsed α m)} {f : Parsed α n → Except FormulaFault γ}
    {g : Parsed α m → Except FormulaFault δ} (hC : Confined (some L) ts₀ a (Parsed.Leaves w) r)
    (hF : Foretells L (Parsed.Extends u) r r') (hG : Grows φ L ts u o (Parsed.Leaves u) r r')
    (hcont : ∀ x v rest h h', v :: rest <:+ w →
      Grows φ L ts u o Q (f ⟨x, v :: rest, h⟩) (g ⟨x, v :: rest ++ u, h'⟩))
    (hfresh : ∀ x rest h', rest <:+ u → Settles φ ts u o Q (g ⟨x, rest, h'⟩)) :
    Grows φ L ts u o Q (r >>= f) (r' >>= g) := by
  intro hr
  cases r with
  | error e =>
    cases e with
    | scan f' =>
      cases hr
      exact (hG rfl).bind_parsed hfresh
    | parse e => cases hr
  | ok p =>
    cases r' with
    | error e' => exact hF.elim
    | ok q =>
      obtain ⟨x, rest, h⟩ := p
      obtain ⟨x', rest', h'⟩ := q
      obtain ⟨hx, hq⟩ := hF
      dsimp only at hx hq
      subst hx hq
      cases rest with
      | nil => exact hfresh _ u _ (List.suffix_refl u)
      | cons v rest => exact hcont _ v rest h _ hC hr

lemma bind_option {N : Prop} {Q : δ → Prop} {r : Except FormulaFault (Option (Parsed α n))}
    {r' : Except FormulaFault (Option (Parsed α m))}
    {f : Option (Parsed α n) → Except FormulaFault γ}
    {g : Option (Parsed α m) → Except FormulaFault δ}
    (hC : Confined (some L) ts₀ a (fun o => ∀ p ∈ o, p.Leaves w) r)
    (hF : Foretells L (Option.Rel (Parsed.Extends u)) r r') (hG : Grows φ L ts u o (Lands u N) r r')
    (hnone : Grows φ L ts u o Q (f none) (g none))
    (hsome : ∀ x v rest h h', v :: rest <:+ w →
      Grows φ L ts u o Q (f (some ⟨x, v :: rest, h⟩)) (g (some ⟨x, v :: rest ++ u, h'⟩)))
    (hfresh_none : N → Settles φ ts u o Q (g none))
    (hfresh : ∀ x rest h', rest <:+ u → Settles φ ts u o Q (g (some ⟨x, rest, h'⟩))) :
    Grows φ L ts u o Q (r >>= f) (r' >>= g) := by
  intro hr
  cases r with
  | error e =>
    cases e with
    | scan f' =>
      cases hr
      exact (hG rfl).bind_option hfresh_none hfresh
    | parse e => cases hr
  | ok p =>
    cases r' with
    | error e' => exact hF.elim
    | ok q =>
      have hpq : Option.Rel (Parsed.Extends u) p q := hF
      cases hpq with
      | none => exact hnone hr
      | some hpq =>
        rename_i p q
        obtain ⟨x, rest, h⟩ := p
        obtain ⟨x', rest', h'⟩ := q
        obtain ⟨hx, hq⟩ := hpq
        dsimp only at hx hq
        subst hx hq
        cases rest with
        | nil => exact hfresh _ u _ (List.suffix_refl u)
        | cons v rest => exact hsome _ v rest h _ (hC _ rfl) hr

end Grows

end Parse

namespace TokenStream

/-- The parse of `ts` reads past its last token, whatever scan fault follows it. -/
def ReadsPast (ts : List Token) : Prop :=
  ∀ L, (⟨ts, some L⟩ : TokenStream).parse = .error (.scan L)

/-- The parse reads past the first `k` tokens and raises `e` once it is given one more. -/
def StopsAt (ts : List Token) (k : Nat) (e : SyntaxFault) : Prop :=
  k ≤ ts.length ∧ ReadsPast (ts.take k) ∧
    (k < ts.length → ∀ u φ, (⟨ts.take (k + 1) ++ u, φ⟩ : TokenStream).parse = .error (.parse e))

theorem StopsAt.unique {ts : List Token} {k k' : Nat} {e e' : SyntaxFault} (h : StopsAt ts k e)
    (h' : StopsAt ts k' e') : k = k' := by
  have before : ∀ {k k' e e'}, StopsAt ts k e → StopsAt ts k' e' → ¬ k < k' := by
    intro k k' e e' h h' hlt
    have htake : ts.take (k + 1) ++ (ts.take k').drop (k + 1) = ts.take k' := by
      conv_rhs => rw [← List.take_append_drop (k + 1) (ts.take k')]
      rw [List.take_take, Nat.min_eq_left hlt]
    have hfault := h.2.2 (Nat.lt_of_lt_of_le hlt h'.1) ((ts.take k').drop (k + 1))
      (some (.strayChar ' ' 0))
    rw [htake, h'.2.1] at hfault
    cases hfault
  exact Nat.le_antisymm (Nat.not_lt.1 (before h' h)) (Nat.not_lt.1 (before h h'))

end TokenStream

namespace SyntaxFault

variable {ts : List Token} {e : SyntaxFault}

end SyntaxFault

end SheetFormula

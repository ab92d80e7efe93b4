import SheetFormula.Token.Scan
import Mathlib.Algebra.Ring.Parity
/-!
Quoted strings and names: a text written between two quotes with its quotes doubled scans back
to the text, and a quote is never closed exactly when every run of quotes after it is even.
-/

namespace SheetFormula.Token

variable {q : Char}

def doubleQuotes (q : Char) (v : List Char) : List Char :=
  v.flatMap fun c => if c = q then [q, q] else [c]

@[simp]
theorem doubleQuotes_nil : doubleQuotes q [] = [] := rfl

theorem doubleQuotes_cons (c : Char) (v : List Char) :
    doubleQuotes q (c :: v) = (if c = q then [q, q] else [c]) ++ doubleQuotes q v := by
  simp [doubleQuotes]

@[simp]
theorem doubleQuotes_append (v w : List Char) :
    doubleQuotes q (v ++ w) = doubleQuotes q v ++ doubleQuotes q w := by
  simp [doubleQuotes]

@[simp]
theorem doubleQuotes_replicate (n : Nat) :
    doubleQuotes q (List.replicate n q) = List.replicate (2 * n) q := by
  induction n with
  | zero => rfl
  | succ n ih =>
    rw [List.replicate_succ, doubleQuotes_cons, if_pos rfl, ih,
      show 2 * (n + 1) = 2 * n + 1 + 1 by omega]
    rfl

theorem eq_replicate_of_doubleQuotes {v : List Char} {k : Nat}
    (h : doubleQuotes q v = List.replicate k q) : ∃ n, v = List.replicate n q ∧ k = 2 * n := by
  induction v generalizing k with
  | nil =>
    refine ⟨0, rfl, ?_⟩
    have := congrArg List.length h
    simp only [doubleQuotes_nil, List.length_nil, List.length_replicate] at this
    omega
  | cons c v ih =>
    rw [doubleQuotes_cons] at h
    by_cases hc : c = q
    · subst c
      obtain ⟨k, rfl⟩ : ∃ m, k = m + 2 := ⟨k - 2, by
        have := congrArg List.length h
        simp only [if_pos, List.length_append, List.length_cons, List.length_replicate] at this
        omega⟩
      simp only [if_pos, List.cons_append, List.nil_append, List.replicate_succ,
        List.cons.injEq, true_and] at h
      obtain ⟨n, rfl, rfl⟩ := ih h
      exact ⟨n + 1, rfl, by omega⟩
    · simp only [if_neg hc, List.singleton_append] at h
      have := List.eq_of_mem_replicate (h ▸ List.mem_cons_self : c ∈ List.replicate k q)
      exact absurd this hc

theorem getLast?_doubleQuotes {v : List Char} (h : v.getLast? ≠ some q) :
    (doubleQuotes q v).getLast? ≠ some q := by
  rcases List.eq_nil_or_concat v with rfl | ⟨w, c, rfl⟩
  · simp
  · have hc : c ≠ q := by simpa using h
    simp [doubleQuotes_append, doubleQuotes_cons, hc]

theorem getLast?_ne_of_cons {x : Char} {l : List Char} (h : (x :: l).getLast? ≠ some q) :
    l.getLast? ≠ some q := by
  cases l with
  | nil => simp
  | cons y l => simpa using h

theorem exists_eq_append_replicate (v : List Char) :
    ∃ v₀ j, v = v₀ ++ List.replicate j q ∧ v₀.getLast? ≠ some q := by
  induction v with
  | nil => exact ⟨[], 0, rfl, by simp⟩
  | cons c v ih =>
    obtain ⟨v₀, j, rfl, hv₀⟩ := ih
    cases v₀ with
    | nil =>
      by_cases hc : c = q
      · exact ⟨[], j + 1, by simp [hc, List.replicate_succ], by simp⟩
      · exact ⟨[c], j, rfl, by simpa using hc⟩
    | cons d v₀ => exact ⟨c :: d :: v₀, j, rfl, by simpa using hv₀⟩

theorem readQuoted_quote_quote (r : List Char) :
    readQuoted q (q :: q :: r) = (readQuoted q r).map fun p => (q :: p.1, p.2) := by
  simp [readQuoted]

theorem readQuoted_cons_of_ne {c : Char} (r : List Char) (hc : c ≠ q) :
    readQuoted q (c :: r) = (readQuoted q r).map fun p => (c :: p.1, p.2) := by
  rw [readQuoted.eq_def]
  dsimp only
  rw [if_neg hc]

theorem readQuoted_doubleQuotes_append (v : List Char) {rest : List Char}
    (hr : rest.head? ≠ some q) :
    readQuoted q (doubleQuotes q v ++ q :: rest) = some (v, rest) := by
  induction v with
  | nil =>
    cases rest with
    | nil => simp [readQuoted]
    | cons d rest =>
      have hd : d ≠ q := by simpa using hr
      simp [readQuoted, hd]
  | cons c v ih =>
    by_cases hc : c = q
    · subst c
      simp [doubleQuotes_cons, readQuoted_quote_quote, ih]
    · simp [doubleQuotes_cons, readQuoted_cons_of_ne _ hc, hc, ih]

theorem readQuoted_doubleQuotes (v : List Char) : readQuoted q (doubleQuotes q v) = none := by
  induction v with
  | nil => rfl
  | cons c v ih =>
    by_cases hc : c = q
    · subst c
      simp [doubleQuotes_cons, readQuoted_quote_quote, ih]
    · simp [doubleQuotes_cons, readQuoted_cons_of_ne _ hc, hc, ih]

theorem eq_of_readQuoted_eq_some :
    ∀ {r v rest : List Char}, readQuoted q r = some (v, rest) →
      r = doubleQuotes q v ++ q :: rest ∧ rest.head? ≠ some q
  | [], _, _, h => by simp [readQuoted] at h
  | c :: r, v, rest, h => by
    unfold readQuoted at h
    split at h
    · rename_i hc
      subst c
      split at h
      · rename_i d r₁
        split at h
        · rename_i hd
          subst d
          obtain ⟨p, hp, hq⟩ := Option.map_eq_some_iff.1 h
          cases hq
          obtain ⟨rfl, hrest⟩ := eq_of_readQuoted_eq_some hp
          exact ⟨by simp [doubleQuotes_cons], hrest⟩
        · rename_i hd
          cases h
          exact ⟨rfl, by simpa using hd⟩
      · cases h
        exact ⟨rfl, by simp⟩
    · rename_i hc
      obtain ⟨p, hp, hq⟩ := Option.map_eq_some_iff.1 h
      cases hq
      obtain ⟨rfl, hrest⟩ := eq_of_readQuoted_eq_some hp
      exact ⟨by simp [doubleQuotes_cons, hc], hrest⟩

theorem exists_eq_of_readQuoted_eq_none :
    ∀ {r : List Char}, readQuoted q r = none → ∃ v, r = doubleQuotes q v
  | [], _ => ⟨[], rfl⟩
  | c :: r, h => by
    unfold readQuoted at h
    split at h
    · rename_i hc
      subst c
      split at h
      · rename_i d r₁
        split at h
        · rename_i hd
          subst d
          obtain ⟨v, rfl⟩ := exists_eq_of_readQuoted_eq_none (Option.map_eq_none_iff.1 h)
          exact ⟨q :: v, by simp [doubleQuotes_cons]⟩
        · cases h
      · cases h
    · rename_i hc
      obtain ⟨v, rfl⟩ := exists_eq_of_readQuoted_eq_none (Option.map_eq_none_iff.1 h)
      exact ⟨c :: v, by simp [doubleQuotes_cons, hc]⟩

theorem readQuoted_eq_none_iff {r : List Char} :
    readQuoted q r = none ↔ ∃ v, r = doubleQuotes q v :=
  ⟨exists_eq_of_readQuoted_eq_none, fun ⟨v, hv⟩ => hv ▸ readQuoted_doubleQuotes v⟩

/-- A run of exactly `k` quote characters in `cs`, between `u` and `w`. -/
structure QuoteRun (q : Char) (cs u : List Char) (k : Nat) (w : List Char) : Prop where
  split : cs = u ++ List.replicate k q ++ w
  pos : 0 < k
  before : u.getLast? ≠ some q
  after : w.head? ≠ some q

theorem doubleQuotes_eq_append {v a b : List Char} (h : doubleQuotes q v = a ++ b)
    (hcut : a.getLast? ≠ some q ∨ b.head? ≠ some q) :
    ∃ v₁ v₂, v = v₁ ++ v₂ ∧ a = doubleQuotes q v₁ ∧ b = doubleQuotes q v₂ := by
  induction v generalizing a with
  | nil =>
    obtain ⟨rfl, rfl⟩ := List.append_eq_nil_iff.1 h.symm
    exact ⟨[], [], rfl, rfl, rfl⟩
  | cons c v ih =>
    cases a with
    | nil => exact ⟨[], c :: v, rfl, rfl, by simpa using h.symm⟩
    | cons x a =>
      rw [doubleQuotes_cons] at h
      by_cases hc : c = q
      · subst c
        simp only [if_pos, List.cons_append, List.nil_append, List.cons.injEq] at h
        obtain ⟨rfl, h⟩ := h
        cases a with
        | nil =>
          simp only [List.nil_append] at h
          simp [← h] at hcut
        | cons y a =>
          simp only [List.cons_append, List.cons.injEq] at h
          obtain ⟨rfl, h⟩ := h
          obtain ⟨v₁, v₂, rfl, rfl, rfl⟩ :=
            ih h (hcut.imp_left fun h' => getLast?_ne_of_cons (getLast?_ne_of_cons h'))
          exact ⟨q :: v₁, v₂, rfl, by simp [doubleQuotes_cons], rfl⟩
      · simp only [if_neg hc, List.cons_append, List.cons.injEq] at h
        obtain ⟨rfl, h⟩ := h
        obtain ⟨v₁, v₂, rfl, rfl, rfl⟩ := ih h (hcut.imp_left getLast?_ne_of_cons)
        exact ⟨c :: v₁, v₂, rfl, by simp [doubleQuotes_cons, hc], rfl⟩

theorem QuoteRun.even_of_doubleQuotes {v u w : List Char} {k : Nat}
    (h : QuoteRun q (doubleQuotes q v) u k w) : Even k := by
  obtain ⟨v₁, v₂, -, -, h₂⟩ :=
    doubleQuotes_eq_append (h.split.trans (List.append_assoc _ _ _)) (.inl h.before)
  obtain ⟨v₃, v₄, -, h₃, -⟩ := doubleQuotes_eq_append h₂.symm (.inr h.after)
  obtain ⟨n, -, rfl⟩ := eq_replicate_of_doubleQuotes h₃.symm
  exact ⟨n, by omega⟩

theorem getLast?_of_append_eq_replicate {a c u : List Char} {k : Nat}
    (h : a ++ c = u ++ List.replicate k q) (hu : u.length < a.length) : a.getLast? = some q := by
  rcases List.append_eq_append_iff.1 h.symm with ⟨x, rfl, hx⟩ | ⟨y, rfl, -⟩
  · have hx0 : x ≠ [] := by
      rintro rfl
      simp at hu
    have hmem : x.getLast hx0 ∈ List.replicate k q :=
      hx ▸ List.mem_append_left _ (List.getLast_mem hx0)
    rw [List.getLast?_append, List.getLast?_eq_some_getLast hx0, List.eq_of_mem_replicate hmem]
    rfl
  · simp only [List.length_append] at hu
    omega

theorem QuoteRun.of_append {a b u w : List Char} {k : Nat} (h : QuoteRun q (a ++ b) u k w)
    (ha : a.getLast? ≠ some q) (hu : u.length < a.length) : ∃ w', QuoteRun q a u k w' := by
  rcases List.append_eq_append_iff.1 h.split with ⟨a', ha', -⟩ | ⟨c', rfl, hw⟩
  · exact absurd (getLast?_of_append_eq_replicate ha'.symm hu) ha
  · cases c' with
    | nil =>
      simp only [List.append_nil] at ha
      rw [List.getLast?_append, List.getLast?_replicate, if_neg (by have := h.pos; omega)] at ha
      exact absurd rfl ha
    | cons x c' =>
      refine ⟨x :: c', ⟨rfl, h.pos, h.before, ?_⟩⟩
      have := h.after
      rw [hw] at this
      simpa using this

theorem exists_first_odd_run (v : List Char) {rest : List Char} (hr : rest.head? ≠ some q) :
    ∃ u k, QuoteRun q (doubleQuotes q v ++ q :: rest) u k rest ∧ Odd k ∧
      u.length + k = (doubleQuotes q v).length + 1 ∧
      ∀ u' k' w', QuoteRun q (doubleQuotes q v ++ q :: rest) u' k' w' → Odd k' →
        u.length ≤ u'.length := by
  obtain ⟨v₀, j, rfl, hv₀⟩ := exists_eq_append_replicate (q := q) v
  have hform : doubleQuotes q (v₀ ++ List.replicate j q) ++ q :: rest =
      doubleQuotes q v₀ ++ (List.replicate (2 * j + 1) q ++ rest) := by
    simp [List.replicate_succ']
  refine ⟨doubleQuotes q v₀, 2 * j + 1, ⟨by rw [hform, List.append_assoc], by omega,
    getLast?_doubleQuotes hv₀, hr⟩, ⟨j, rfl⟩, by simp; omega, fun u' k' w' h' hodd => ?_⟩
  by_contra hlt
  rw [hform] at h'
  obtain ⟨w'', hrun⟩ := h'.of_append (getLast?_doubleQuotes hv₀) (by omega)
  exact (Nat.not_even_iff_odd.2 hodd) hrun.even_of_doubleQuotes

theorem readQuoted_eq_none_iff_even {r : List Char} :
    readQuoted q r = none ↔ ∀ u k w, QuoteRun q r u k w → Even k := by
  constructor
  · intro h u k w hrun
    obtain ⟨v, rfl⟩ := exists_eq_of_readQuoted_eq_none h
    exact hrun.even_of_doubleQuotes
  · intro heven
    cases hread : readQuoted q r with
    | none => rfl
    | some p =>
      obtain ⟨hr, hrest⟩ := eq_of_readQuoted_eq_some hread
      obtain ⟨u, k, hrun, hodd, -⟩ := exists_first_odd_run p.1 hrest
      rw [← hr] at hrun
      exact absurd (heven u k _ hrun) (Nat.not_even_iff_odd.2 hodd)

theorem tokenAt_quote {pos : Nat} {r : List Char} (hq : q = '"' ∨ q = '\'') :
    tokenAt .formula pos q r = lexQuoted pos q r := by
  have hhash : q ≠ '#' := by rcases hq with rfl | rfl <;> decide
  simp [tokenAt, hhash, hq]

theorem isBlank_quote (hq : q = '"' ∨ q = '\'') : Text.isBlank q = false := by
  rcases hq with rfl | rfl <;> decide

theorem quoted_texts_read_back (hq : q = '"' ∨ q = '\'') (v r : String)
    (hr : r.toList.head? ≠ some q) (s : String) (p : Nat) (hp : s.toList[p]? = some q) :
    (TokenStream.scan (String.ofList (q :: doubleQuotes q v.toList ++ q :: r.toList))).tokens.head? =
        some ⟨if q = '"' then .string v else .name v, 0, (doubleQuotes q v.toList).length + 2⟩ ∧
      (tokenAt .formula p q (s.toList.drop (p + 1)) = .error (.unclosedString q p s.length) ↔
        ∀ u k w, QuoteRun q (s.toList.drop (p + 1)) u k w → Even k) ∧
      (¬(∀ u k w, QuoteRun q (s.toList.drop (p + 1)) u k w → Even k) →
        ∃ t u k, QuoteRun q (s.toList.drop (p + 1)) u k (s.toList.drop (p + 1 + u.length + k)) ∧
          Odd k ∧
          (∀ u' k' w', QuoteRun q (s.toList.drop (p + 1)) u' k' w' → Odd k' →
            u.length ≤ u'.length) ∧
          tokenAt .formula p q (s.toList.drop (p + 1)) =
            .ok (if q = '"' then .string (String.ofList t) else .name (String.ofList t),
              s.toList.drop (p + 1 + u.length + k)) ∧
          (s.toList.drop p).take (u.length + k + 1) = q :: doubleQuotes q t ++ [q]) := by
  have hlen : s.length = p + 1 + (s.toList.drop (p + 1)).length := by
    have := (List.getElem?_eq_some_iff.1 hp).1
    simp only [List.length_drop, String.length_toList] at *
    omega
  have hdrop : s.toList.drop p = q :: s.toList.drop (p + 1) := by
    rw [List.drop_eq_getElem_cons (List.getElem?_eq_some_iff.1 hp).1,
      (List.getElem?_eq_some_iff.1 hp).2]
  refine ⟨?_, ?_, fun hodd => ?_⟩
  · have hread := readQuoted_doubleQuotes_append v.toList hr
    have htoken : tokenAt .formula 0 q (doubleQuotes q v.toList ++ q :: r.toList) =
        .ok (if q = '"' then .string v else .name v, r.toList) := by
      simp [tokenAt_quote hq, lexQuoted, hread, String.ofList_toList]
    simp only [TokenStream.scan, String.toList_ofList, List.cons_append]
    rw [scanFrom_token (isBlank_quote hq) htoken]
    simp only [TokenStream.cons, List.head?_cons, Option.some.injEq, Token.mk.injEq, true_and]
    simp only [List.length_append, List.length_cons]
    omega
  · rw [tokenAt_quote hq, ← readQuoted_eq_none_iff_even, hlen]
    unfold lexQuoted
    split <;> simp_all
  · have hsome : readQuoted q (s.toList.drop (p + 1)) ≠ none :=
      fun h => hodd (readQuoted_eq_none_iff_even.1 h)
    obtain ⟨⟨t, rest⟩, hread⟩ := Option.ne_none_iff_exists'.1 hsome
    obtain ⟨hr', hrest⟩ := eq_of_readQuoted_eq_some hread
    obtain ⟨u, k, hrun, hk, hend, hfirst⟩ := exists_first_odd_run t hrest
    rw [← hr'] at hrun hfirst
    have hrest' : s.toList.drop (p + 1 + u.length + k) = rest := by
      rw [Nat.add_assoc, ← List.drop_drop, hr', hend]
      simp
    refine ⟨t, u, k, hrest' ▸ hrun, hk, hfirst, ?_, ?_⟩
    · rw [hrest', tokenAt_quote hq]
      simp [lexQuoted, hread]
    · rw [hdrop, hr', hend, List.take_succ_cons, List.take_length_add_append]
      simp

theorem quoted_texts_read_back_doubled :
    ('"' = '"' ∨ '"' = '\'') ∧ "&c".toList.head? ≠ some '"' ∧
      "=\"a\"\"b\"&c".toList[1]? = some '"' ∧
      ((TokenStream.scan (String.ofList ('"' :: doubleQuotes '"' "a\"b".toList ++
          '"' :: "&c".toList))).tokens.head? =
        some ⟨if '"' = '"' then .string "a\"b" else .name "a\"b", 0,
          (doubleQuotes '"' "a\"b".toList).length + 2⟩ ∧
      (tokenAt .formula 1 '"' ("=\"a\"\"b\"&c".toList.drop (1 + 1)) =
          .error (.unclosedString '"' 1 "=\"a\"\"b\"&c".length) ↔
        ∀ u k w, QuoteRun '"' ("=\"a\"\"b\"&c".toList.drop (1 + 1)) u k w → Even k) ∧
      (¬(∀ u k w, QuoteRun '"' ("=\"a\"\"b\"&c".toList.drop (1 + 1)) u k w → Even k) →
        ∃ t u k, QuoteRun '"' ("=\"a\"\"b\"&c".toList.drop (1 + 1)) u k
            ("=\"a\"\"b\"&c".toList.drop (1 + 1 + u.length + k)) ∧
          Odd k ∧
          (∀ u' k' w', QuoteRun '"' ("=\"a\"\"b\"&c".toList.drop (1 + 1)) u' k' w' → Odd k' →
            u.length ≤ u'.length) ∧
          tokenAt .formula 1 '"' ("=\"a\"\"b\"&c".toList.drop (1 + 1)) =
            .ok (if '"' = '"' then .string (String.ofList t) else .name (String.ofList t),
              "=\"a\"\"b\"&c".toList.drop (1 + 1 + u.length + k)) ∧
          ("=\"a\"\"b\"&c".toList.drop 1).take (u.length + k + 1) =
            '"' :: doubleQuotes '"' t ++ ['"'])) :=
  ⟨Or.inl rfl, by decide, by decide,
    quoted_texts_read_back (Or.inl rfl) "a\"b" "&c" (by decide) "=\"a\"\"b\"&c" 1 (by decide)⟩

end SheetFormula.Token

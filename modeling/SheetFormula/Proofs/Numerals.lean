import SheetFormula.Proofs.ScanSpans
import Mathlib.Data.List.TakeDrop
import Mathlib.Data.List.TakeWhile
import Mathlib.Data.List.Induction
import Mathlib.Data.Nat.Digits.Defs
/-!
Numbers in formulas: the longest run of the form `D+ ('.' D*)? ([eE] [+-]? D*)?` is a number
token whose decimal is exact, or a bad number when its exponent has no digit or its value is out
of range.
-/

namespace SheetFormula.Token

def digitsNumber (ds : List Char) : Nat :=
  Nat.ofDigits 10 (ds.reverse.map fun d => d.toNat - '0'.toNat)

structure Numeral where
  whole : List Char
  point : Option (List Char)
  mark : Option (Char × List Char × List Char)
  deriving DecidableEq, Repr

namespace Numeral

/-- A numeral with digits wherever the number grammar asks for them. -/
structure Valid (n : Numeral) : Prop where
  whole_ne_nil : n.whole ≠ []
  whole_digits : ∀ d ∈ n.whole, d.isDigit
  point_digits : ∀ ds ∈ n.point, ∀ d ∈ ds, d.isDigit
  mark_valid : ∀ m ∈ n.mark, (m.1 = 'e' ∨ m.1 = 'E') ∧
    (m.2.1 = [] ∨ m.2.1 = ['+'] ∨ m.2.1 = ['-']) ∧ ∀ d ∈ m.2.2, d.isDigit

def pointText (n : Numeral) : List Char :=
  n.point.elim [] ('.' :: ·)

def markText (n : Numeral) : List Char :=
  n.mark.elim [] fun m => m.1 :: m.2.1 ++ m.2.2

def text (n : Numeral) : List Char :=
  n.whole ++ n.pointText ++ n.markText

def fraction (n : Numeral) : List Char :=
  n.point.getD []

def danglingMark (n : Numeral) : Bool :=
  n.mark.any fun m => m.2.2.isEmpty

def markValue (n : Numeral) : Int :=
  n.mark.elim 0 fun m => if m.2.1 = ['-'] then -(digitsNumber m.2.2 : Int) else digitsNumber m.2.2

def coefficient (n : Numeral) : Nat :=
  digitsNumber (n.whole ++ n.fraction)

def exponent (n : Numeral) : Int :=
  n.markValue - n.fraction.length

end Numeral

theorem toNat_of_isDigit {x : Char} (h : x.isDigit) : 48 ≤ x.toNat ∧ x.toNat ≤ 57 := by
  simp only [Char.isDigit, Bool.and_eq_true, decide_eq_true_eq, UInt32.le_iff_toNat_le] at h
  exact ⟨by simpa using h.1, by simpa using h.2⟩

theorem ne_of_isDigit {x y : Char} (h : x.isDigit) (hy : y.isDigit = false) : x ≠ y := by
  rintro rfl
  simp [h] at hy

theorem digitsValue_eq_digitsNumber (ds : List Char) :
    Decimal.digitsValue ds = digitsNumber ds := by
  induction ds using List.reverseRecOn with
  | nil => rfl
  | append_singleton ds d ih =>
    simp only [Decimal.digitsValue, List.foldl_append, List.foldl_cons, List.foldl_nil] at ih ⊢
    rw [ih]
    simp only [digitsNumber, List.reverse_append, List.reverse_cons, List.reverse_nil,
      List.nil_append, List.singleton_append, List.map_cons, Nat.ofDigits_cons]
    omega

theorem numeral_char {x : Char}
    (h : x.isDigit ∨ x = '.' ∨ x = 'e' ∨ x = 'E' ∨ x = '+' ∨ x = '-') :
    Text.isBlank x = false ∧ x ≠ '_' ∧ Decimal.asciiChar? x = some x := by
  rcases h with h | rfl | rfl | rfl | rfl | rfl
  · have hx := toNat_of_isDigit h
    refine ⟨?_, ne_of_isDigit h (by decide), ?_⟩
    · simp [Text.isBlank, Text.blankRanges, Text.CodeRanges.contains]
      omega
    · simp only [Decimal.asciiChar?]
      rw [if_pos (by omega)]
  all_goals decide

theorem dropWhile_of_forall {p : Char → Bool} {cs : List Char} (h : ∀ x ∈ cs, p x = false) :
    cs.dropWhile p = cs := by
  cases cs with
  | nil => rfl
  | cons x cs => simp [h x List.mem_cons_self]

theorem mapM_eq_some_self {f : Char → Option Char} :
    ∀ {cs : List Char}, (∀ x ∈ cs, f x = some x) → cs.mapM f = some cs
  | [], _ => rfl
  | x :: cs, h => by
    simp [List.mapM_cons, h x List.mem_cons_self,
      mapM_eq_some_self fun y hy => h y (List.mem_cons_of_mem x hy)]

theorem takeWhile_digits_append {ds r : List Char} (hd : ∀ d ∈ ds, d.isDigit)
    (hr : ∀ x ∈ r.head?, x.isDigit = false) :
    (ds ++ r).takeWhile Char.isDigit = ds ∧ (ds ++ r).dropWhile Char.isDigit = r := by
  rw [List.takeWhile_append_of_pos hd, List.dropWhile_append_of_pos hd]
  cases r with
  | nil => simp
  | cons x r => simp [hr x rfl]

namespace Numeral

variable {n : Numeral}

theorem Valid.mem_text (hn : n.Valid) {x : Char} (hx : x ∈ n.text) :
    x.isDigit ∨ x = '.' ∨ x = 'e' ∨ x = 'E' ∨ x = '+' ∨ x = '-' := by
  simp only [text, pointText, markText, List.mem_append] at hx
  rcases hx with (hx | hx) | hx
  · exact .inl (hn.whole_digits x hx)
  · cases hp : n.point with
    | none => simp [hp] at hx
    | some ds =>
      simp only [hp, Option.elim_some, List.mem_cons] at hx
      rcases hx with rfl | hx
      · exact .inr (.inl rfl)
      · exact .inl (hn.point_digits ds hp x hx)
  · cases hm : n.mark with
    | none => simp [hm] at hx
    | some m =>
      obtain ⟨he, hs, hds⟩ := hn.mark_valid m hm
      simp only [hm, Option.elim_some, List.mem_cons, List.mem_append] at hx
      rcases hx with (rfl | hx) | hx
      · rcases he with h | h <;> simp [h]
      · rcases hs with h | h | h <;> simp_all
      · exact .inl (hds x hx)

theorem Valid.head_markText (hn : n.Valid) : ∀ x ∈ n.markText.head?, x = 'e' ∨ x = 'E' := by
  intro x hx
  cases hk : n.mark with
  | none => simp [markText, hk] at hx
  | some k =>
    simp only [markText, hk, Option.elim_some, List.cons_append, List.head?_cons, Option.mem_def,
      Option.some.injEq] at hx
    exact hx ▸ (hn.mark_valid k hk).1

theorem Valid.head_markText_isDigit (hn : n.Valid) :
    ∀ x ∈ n.markText.head?, x.isDigit = false := by
  intro x hx
  rcases hn.head_markText x hx with rfl | rfl <;> rfl

theorem Valid.head_after_whole (hn : n.Valid) :
    ∀ x ∈ (n.pointText ++ n.markText).head?, x.isDigit = false := by
  cases hp : n.point with
  | some ds =>
    intro x hx
    simp only [pointText, hp, Option.elim_some, List.cons_append, List.head?_cons, Option.mem_def,
      Option.some.injEq] at hx
    subst hx
    rfl
  | none => simpa [pointText, hp] using hn.head_markText_isDigit

end Numeral

theorem toLower_of_isDigit {d : Char} (hd : d.isDigit) : d.toLower = d := by
  have hx := toNat_of_isDigit hd
  unfold Char.toLower
  rw [dif_neg]
  rintro ⟨h1, -⟩
  have := UInt32.le_iff_toNat_le.1 h1
  simp at this
  omega

theorem readSign_of_isDigit {d : Char} (hd : d.isDigit) (t : List Char) :
    Decimal.readSign (d :: t) = (false, d :: t) := by
  simp [Decimal.readSign, ne_of_isDigit hd (y := '+') rfl, ne_of_isDigit hd (y := '-') rfl]

theorem readMagnitude_of_isDigit {d : Char} (hd : d.isDigit) (t : List Char) :
    Decimal.readMagnitude (d :: t) = Decimal.readFinite (d :: t) := by
  simp [Decimal.readMagnitude, toLower_of_isDigit hd, ne_of_isDigit hd (y := 'i') rfl,
    ne_of_isDigit hd (y := 'n') rfl, ne_of_isDigit hd (y := 's') rfl]

theorem readDigits_eq {ds : List Char} (hds : ∀ d ∈ ds, d.isDigit) :
    Decimal.readDigits ds = if ds.isEmpty then none else some (digitsNumber ds) := by
  cases ds with
  | nil => rfl
  | cons d ds =>
    simp only [Decimal.readDigits, List.isEmpty_cons, Bool.false_eq_true, if_false,
      digitsValue_eq_digitsNumber]
    rw [if_pos ⟨List.cons_ne_nil d ds, List.all_eq_true.2 hds⟩]

namespace Numeral

variable {n : Numeral}

theorem readExponent_markText (hn : n.Valid) :
    Decimal.readExponent n.markText = if n.danglingMark then none else some n.markValue := by
  cases hm : n.mark with
  | none => simp [markText, danglingMark, markValue, hm, Decimal.readExponent]
  | some m =>
    obtain ⟨e, sign, ds⟩ := m
    obtain ⟨he, hs, hds⟩ := hn.mark_valid _ hm
    dsimp only at he hs hds
    simp only [markText, danglingMark, markValue, hm, Option.elim_some, Option.any_some,
      List.cons_append, Decimal.readExponent, if_pos he]
    rcases hs with rfl | rfl | rfl
    · cases ds with
      | nil => rfl
      | cons d ds =>
        simp [readSign_of_isDigit (hds d List.mem_cons_self), readDigits_eq hds]
    · cases ds <;> simp [Decimal.readSign, readDigits_eq hds]
    · cases ds <;> simp [Decimal.readSign, readDigits_eq hds]

theorem readFinite_text (hn : n.Valid) :
    Decimal.readFinite n.text =
      if n.danglingMark then none else some (.finite n.coefficient n.exponent) := by
  obtain ⟨hW, hA⟩ := takeWhile_digits_append hn.whole_digits hn.head_after_whole
  have htext : n.text = n.whole ++ (n.pointText ++ n.markText) := List.append_assoc _ _ _
  have hwhole : n.whole.isEmpty = false := List.isEmpty_eq_false_iff.2 hn.whole_ne_nil
  unfold Decimal.readFinite
  rw [List.span_eq_takeWhile_dropWhile, htext, hW, hA]
  dsimp only
  cases hp : n.point with
  | some ds =>
    have hds := hn.point_digits ds hp
    obtain ⟨hF, hX⟩ := takeWhile_digits_append hds hn.head_markText_isDigit
    simp only [pointText, hp, Option.elim_some, List.cons_append, List.span_eq_takeWhile_dropWhile,
      hF, hX, hwhole, Bool.false_eq_true, false_and, if_false, readExponent_markText hn,
      coefficient, exponent, fraction, Option.getD_some, digitsValue_eq_digitsNumber]
    split <;> simp
  | none =>
    have hmark : ∀ rest, n.markText ≠ '.' :: rest := by
      intro rest h
      rcases hn.head_markText '.' (by simp [h]) with h' | h' <;> simp at h'
    simp only [pointText, hp, Option.elim_none, List.nil_append]
    split
    · rename_i h
      simp [hwhole] at h
    · simp only [readExponent_markText hn, coefficient, exponent, fraction, hp, Option.getD_none,
        List.append_nil, List.length_nil, digitsValue_eq_digitsNumber]
      split <;> simp

theorem Valid.exists_digit_head (hn : n.Valid) : ∃ d t, n.text = d :: t ∧ d.isDigit := by
  obtain ⟨d, w, hw⟩ := List.exists_cons_of_ne_nil hn.whole_ne_nil
  exact ⟨d, w ++ n.pointText ++ n.markText, by simp [text, hw],
    hn.whole_digits d (by simp [hw])⟩

theorem ofString?_text (hn : n.Valid) :
    Decimal.ofString? (String.ofList n.text) =
      if n.danglingMark || !(Decimal.Magnitude.finite n.coefficient n.exponent).fits then none
      else some ⟨false, .finite n.coefficient n.exponent⟩ := by
  have hchars := fun x (hx : x ∈ n.text) => numeral_char (hn.mem_text hx)
  have htrim : Text.trimBlanks n.text = n.text := by
    unfold Text.trimBlanks
    rw [dropWhile_of_forall fun x hx => (hchars x hx).1,
      dropWhile_of_forall fun x hx => (hchars x (List.mem_reverse.1 hx)).1, List.reverse_reverse]
  have hfilter : n.text.filter (· ≠ '_') = n.text :=
    List.filter_eq_self.2 fun x hx => by simpa using (hchars x hx).2.1
  have hascii : n.text.mapM Decimal.asciiChar? = some n.text :=
    mapM_eq_some_self fun x hx => (hchars x hx).2.2
  obtain ⟨d, t, hdt, hd⟩ := hn.exists_digit_head
  have hfinite := readFinite_text hn
  rw [hdt] at htrim hfilter hascii hfinite
  simp only [Decimal.ofString?, String.toList_ofList, hdt, htrim, hfilter, hascii,
    Option.bind_eq_bind, Option.bind_some, readSign_of_isDigit hd, readMagnitude_of_isDigit hd,
    hfinite]
  cases n.danglingMark <;>
    cases hfits : (Decimal.Magnitude.finite n.coefficient n.exponent).fits <;> simp [hfits]

end Numeral

theorem digits_prefix {ds u s : List Char} (hd : ∀ d ∈ ds, d.isDigit)
    (hu : ∀ x ∈ u.head?, x.isDigit = false) (h : ds ++ u <+: s) :
    (s.takeWhile Char.isDigit = ds ∧ u <+: s.dropWhile Char.isDigit) ∨
      (u = [] ∧ ds.length ≤ (s.takeWhile Char.isDigit).length) := by
  obtain ⟨v, rfl⟩ := h
  rw [List.append_assoc]
  cases u with
  | nil =>
    right
    rw [List.takeWhile_append_of_pos hd]
    simp
  | cons x u =>
    left
    obtain ⟨hW, hR⟩ := takeWhile_digits_append hd (r := x :: u ++ v) (by simpa using hu x rfl)
    exact ⟨hW, by rw [hR]; exact List.prefix_append _ _⟩

theorem length_le_takeWhile_digits {ds s : List Char} (hd : ∀ d ∈ ds, d.isDigit)
    (h : ds <+: s) :
    ds.length ≤ (s.takeWhile Char.isDigit).length := by
  rcases digits_prefix hd (u := []) (by simp) (by simpa using h) with ⟨hW, -⟩ | ⟨-, hle⟩
  · rw [hW]
  · exact hle

theorem length_le_exponentSign {sign ds s : List Char}
    (hs : sign = [] ∨ sign = ['+'] ∨ sign = ['-']) (hds : ∀ d ∈ ds, d.isDigit)
    (h : sign ++ ds <+: s) :
    sign.length + ds.length ≤
      (exponentSign s).1.length + ((exponentSign s).2.takeWhile Char.isDigit).length := by
  obtain ⟨v, rfl⟩ := h
  rcases hs with rfl | hsign
  · cases ds with
    | nil => simp
    | cons d ds =>
      have hd := hds d List.mem_cons_self
      simp only [List.nil_append, List.cons_append, exponentSign,
        if_neg (show ¬(d = '+' ∨ d = '-') by rintro (rfl | rfl) <;> simp at hd)]
      simpa using length_le_takeWhile_digits hds (s := d :: (ds ++ v)) ⟨v, rfl⟩
  · obtain ⟨x, hx, rfl⟩ : ∃ x, (x = '+' ∨ x = '-') ∧ sign = [x] := by
      rcases hsign with rfl | rfl <;> simp
    simp only [List.cons_append, exponentSign, if_pos hx]
    simpa using length_le_takeWhile_digits hds (s := ds ++ v) ⟨v, rfl⟩

theorem fractionPart_of_head {s : List Char} (h : ∀ x ∈ s.head?, x ≠ '.') :
    fractionPart s = ([], s) := by
  unfold fractionPart
  split
  · simp at h
  · rfl

theorem exists_point_fractionPart (s : List Char) :
    ∃ point : Option (List Char), (∀ ds ∈ point, ∀ d ∈ ds, d.isDigit) ∧
      (fractionPart s).1 = point.elim [] ('.' :: ·) := by
  unfold fractionPart
  split
  · rename_i r
    exact ⟨some (r.takeWhile Char.isDigit), fun ds hds d hd => by
      simp only [Option.mem_def, Option.some.injEq] at hds
      exact List.mem_takeWhile_imp (hds ▸ hd), rfl⟩
  · exact ⟨none, by simp, rfl⟩

theorem exponentSign_fst (s : List Char) :
    (exponentSign s).1 = [] ∨ (exponentSign s).1 = ['+'] ∨ (exponentSign s).1 = ['-'] := by
  unfold exponentSign
  split
  · split
    · rename_i h
      rcases h with rfl | rfl <;> simp
    · exact .inl rfl
  · exact .inl rfl

theorem exists_mark_exponentPart (s : List Char) :
    ∃ mark : Option (Char × List Char × List Char),
      (∀ m ∈ mark, (m.1 = 'e' ∨ m.1 = 'E') ∧
        (m.2.1 = [] ∨ m.2.1 = ['+'] ∨ m.2.1 = ['-']) ∧ ∀ d ∈ m.2.2, d.isDigit) ∧
      (exponentPart s).1 = mark.elim [] fun m => m.1 :: m.2.1 ++ m.2.2 := by
  unfold exponentPart
  split
  · rename_i e r
    split
    · rename_i he
      refine ⟨some (e, (exponentSign r).1, (exponentSign r).2.takeWhile Char.isDigit), ?_, rfl⟩
      intro m hm
      simp only [Option.mem_def, Option.some.injEq] at hm
      subst hm
      exact ⟨he, exponentSign_fst r, fun d hd => List.mem_takeWhile_imp hd⟩
    · exact ⟨none, by simp, rfl⟩
  · exact ⟨none, by simp, rfl⟩

theorem readNumberText_fst {c : Char} {r : List Char} (hc : c.isDigit) :
    (readNumberText c r).1 = (c :: r).takeWhile Char.isDigit ++
      (fractionPart ((c :: r).dropWhile Char.isDigit)).1 ++
      (exponentPart (fractionPart ((c :: r).dropWhile Char.isDigit)).2).1 := by
  simp [readNumberText, hc]

theorem exists_numeral_readNumberText {c : Char} {r : List Char} (hc : c.isDigit) :
    ∃ n : Numeral, n.Valid ∧ n.text = (readNumberText c r).1 := by
  obtain ⟨point, hpoint, hF⟩ := exists_point_fractionPart (r.dropWhile Char.isDigit)
  obtain ⟨mark, hmark, hE⟩ :=
    exists_mark_exponentPart (fractionPart (r.dropWhile Char.isDigit)).2
  refine ⟨⟨c :: r.takeWhile Char.isDigit, point, mark⟩,
    ⟨List.cons_ne_nil _ _, ?_, hpoint, hmark⟩, ?_⟩
  · intro d hd
    rcases List.mem_cons.1 hd with rfl | hd
    · exact hc
    · exact List.mem_takeWhile_imp hd
  · simp only [readNumberText, hF, hE, Numeral.text, Numeral.pointText, Numeral.markText]

namespace Numeral

variable {m : Numeral}

theorem fractionPart_prefix {s : List Char} (hm : m.Valid) (h : m.pointText ++ m.markText <+: s) :
    ((fractionPart s).1 = m.pointText ∧ m.markText <+: (fractionPart s).2) ∨
      (m.markText = [] ∧ m.pointText.length ≤ (fractionPart s).1.length) := by
  cases hp : m.point with
  | some ds =>
    obtain ⟨v, rfl⟩ := h
    simp only [pointText, hp, Option.elim_some, List.cons_append, fractionPart]
    rcases digits_prefix (hm.point_digits ds hp) (u := m.markText) (s := ds ++ m.markText ++ v)
      hm.head_markText_isDigit ⟨v, rfl⟩ with
      ⟨hW, hR⟩ | ⟨hnil, hle⟩
    · exact .inl ⟨by rw [hW], hR⟩
    · exact .inr ⟨hnil, by simpa using hle⟩
  | none =>
    simp only [pointText, hp, Option.elim_none, List.nil_append, List.length_nil, Nat.zero_le,
      and_true] at h ⊢
    by_cases hs : ∀ x ∈ s.head?, x ≠ '.'
    · exact .inl ⟨by rw [fractionPart_of_head hs], by rw [fractionPart_of_head hs]; exact h⟩
    · right
      cases hk : m.markText with
      | nil => rfl
      | cons y t =>
        obtain ⟨v, rfl⟩ := h
        rw [hk] at hs
        rcases hm.head_markText y (by simp [hk]) with rfl | rfl <;> simp at hs

theorem markText_length_le {s : List Char} (hm : m.Valid) (h : m.markText <+: s) :
    m.markText.length ≤ (exponentPart s).1.length := by
  cases hk : m.mark with
  | none => simp [markText, hk]
  | some k =>
    obtain ⟨e, sign, ds⟩ := k
    obtain ⟨he, hs, hds⟩ := hm.mark_valid _ hk
    dsimp only at he hs hds
    simp only [markText, hk, Option.elim_some, List.cons_append] at h ⊢
    obtain ⟨v, rfl⟩ := h
    simp only [List.cons_append, exponentPart, if_pos he, List.length_cons, List.length_append]
    have := length_le_exponentSign hs hds (s := sign ++ ds ++ v) ⟨v, rfl⟩
    omega

end Numeral

theorem length_le_readNumberText {c : Char} {r : List Char} {m : Numeral} (hc : c.isDigit)
    (hm : m.Valid) (h : m.text <+: c :: r) : m.text.length ≤ (readNumberText c r).1.length := by
  have htext : m.text = m.whole ++ (m.pointText ++ m.markText) := List.append_assoc _ _ _
  rw [htext] at h ⊢
  rw [readNumberText_fst hc]
  simp only [List.length_append]
  rcases digits_prefix hm.whole_digits hm.head_after_whole h with ⟨hW, hR⟩ | ⟨hnil, hle⟩
  · rw [hW]
    rcases Numeral.fractionPart_prefix hm hR with ⟨hF, hX⟩ | ⟨hnil, hle⟩
    · have := Numeral.markText_length_le hm hX
      rw [hF]
      omega
    · rw [hnil]
      simp only [List.length_nil]
      omega
  · simp only [List.append_eq_nil_iff] at hnil
    rw [hnil.1, hnil.2]
    simp only [List.length_nil]
    omega

theorem tokenAt_digit {pos : Nat} {c : Char} {r : List Char} (hc : c.isDigit) :
    tokenAt .formula pos c r = lexNumber pos c r := by
  rw [tokenAt, if_neg (ne_of_isDigit hc (y := '#') rfl), if_neg, if_pos hc]
  rintro (h | h)
  · exact ne_of_isDigit hc (y := '"') rfl h
  · exact ne_of_isDigit hc (y := '\'') rfl h

theorem lexNumber_of_text {pos : Nat} {c : Char} {r : List Char} {n : Numeral} (hn : n.Valid)
    (h : n.text = (readNumberText c r).1) :
    lexNumber pos c r =
      if n.danglingMark || !(Decimal.Magnitude.finite n.coefficient n.exponent).fits then
        .error (.badNumber (String.ofList n.text) pos (pos + n.text.length))
      else .ok (.number ⟨false, .finite n.coefficient n.exponent⟩, (readNumberText c r).2) := by
  unfold lexNumber
  dsimp only
  rw [← h, Numeral.ofString?_text hn]
  split_ifs <;> rfl

theorem scanFrom_numeral {p : Nat} {c : Char} {r : List Char} (hc : c.isDigit) :
    ∃ n : Numeral, n.Valid ∧ n.text <+: c :: r ∧
      (∀ m : Numeral, m.Valid → m.text <+: c :: r → m.text.length ≤ n.text.length) ∧
      scanFrom .formula p (c :: r) =
        if n.danglingMark || !(Decimal.Magnitude.finite n.coefficient n.exponent).fits then
          ⟨[], some (.badNumber (String.ofList n.text) p (p + n.text.length))⟩
        else
          (scanFrom .formula (p + n.text.length) ((c :: r).drop n.text.length)).cons
            ⟨.number ⟨false, .finite n.coefficient n.exponent⟩, p,
              ((p + n.text.length : Nat) : Int)⟩ := by
  obtain ⟨n, hn, htext⟩ := exists_numeral_readNumberText (r := r) hc
  have happ := readNumberText_append c r
  have hb := (numeral_char (.inl hc)).1
  refine ⟨n, hn, ⟨_, htext ▸ happ⟩,
    fun m hm h => htext ▸ length_le_readNumberText hc hm h, ?_⟩
  have hrest : (readNumberText c r).2 = (c :: r).drop n.text.length := by
    rw [← happ, htext, List.drop_left]
  have hlen : r.length + 1 - (readNumberText c r).2.length = n.text.length := by
    have := congrArg List.length happ
    rw [List.length_append, List.length_cons, ← htext] at this
    omega
  split
  · rename_i hbad
    rw [scanFrom_fault hb (by rw [tokenAt_digit hc, lexNumber_of_text hn htext, if_pos hbad])]
  · rename_i hgood
    rw [scanFrom_token hb (by rw [tokenAt_digit hc, lexNumber_of_text hn htext, if_neg hgood]),
      hlen, hrest]
    rfl

theorem scanFrom_numeral_fraction :
    '1'.isDigit = true ∧
    ∃ n : Numeral, n.Valid ∧ n.text <+: '1' :: "2.50e-3x".toList ∧
      (∀ m : Numeral, m.Valid → m.text <+: '1' :: "2.50e-3x".toList →
        m.text.length ≤ n.text.length) ∧
      scanFrom .formula 0 ('1' :: "2.50e-3x".toList) =
        if n.danglingMark || !(Decimal.Magnitude.finite n.coefficient n.exponent).fits then
          ⟨[], some (.badNumber (String.ofList n.text) 0 (0 + n.text.length))⟩
        else
          (scanFrom .formula (0 + n.text.length)
              (('1' :: "2.50e-3x".toList).drop n.text.length)).cons
            ⟨.number ⟨false, .finite n.coefficient n.exponent⟩, 0,
              ((0 + n.text.length : Nat) : Int)⟩ :=
  ⟨by decide, scanFrom_numeral (by decide)⟩

example : scanFrom .formula 0 "1E+".toList = ⟨[], some (.badNumber "1E+" 0 3)⟩ := by
  decide +kernel

example : (scanFrom .formula 0 "1.e5x".toList).tokens.head? =
    some ⟨.number ⟨false, .finite 1 5⟩, 0, 4⟩ := by
  decide +kernel

end SheetFormula.Token

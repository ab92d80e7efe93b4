import SheetFormula.Token.Scan
/-!
Column names inside square brackets: a bare name is a run of escape pairs, letters, numerals and
spaces, read without its escape marks and its trailing spaces; a name in a further pair of
brackets is read as written up to its closing bracket. Both readers decode exactly these rules.
-/

namespace SheetFormula.Token

inductive ColumnUnit where
  | escape (c : Char)
  | char (c : Char)
  | space
  deriving DecidableEq

namespace ColumnUnit

def text : ColumnUnit → List Char
  | .escape c => ['\'', c]
  | .char c => [c]
  | .space => [' ']

def value : ColumnUnit → List Char
  | .escape c | .char c => [c]
  | .space => [' ']

def Inner : ColumnUnit → Prop
  | .char c => Text.isAlphanumeric c = true
  | _ => True

theorem text_ne_nil (u : ColumnUnit) : u.text ≠ [] := by
  cases u <;> simp [text]

theorem flatMap_text_eq_nil {us : List ColumnUnit} : us.flatMap text = [] ↔ us = [] := by
  cases us with
  | nil => simp
  | cons u us => simp [text_ne_nil]

theorem inner_space : ColumnUnit.space.Inner := trivial

end ColumnUnit

open ColumnUnit

def ColumnUnits : List ColumnUnit → Prop
  | [] => True
  | u :: us => (u = .char '#' ∨ u.Inner) ∧ ∀ v ∈ us, v.Inner

def EndsColumn (tail : List Char) : Prop :=
  ∀ x ∈ tail.head?, x ≠ '\'' ∧ Text.isAlphanumeric x = false ∧ x ≠ ' '

theorem char_first_unit {c : Char} (hc : Text.isAlphanumeric c = true ∨ c = '\'' ∨ c = '#')
    (hq : c ≠ '\'') : ColumnUnit.char c = .char '#' ∨ (ColumnUnit.char c).Inner := by
  rcases hc with ha | hq' | hh
  · exact .inr ha
  · exact absurd hq' hq
  · exact .inl (by rw [hh])

theorem columnUnits_cons_append_replicate {u : ColumnUnit} {core : List ColumnUnit} (n : Nat)
    (hfirst : u = .char '#' ∨ u.Inner) (hin : ∀ v ∈ core, v.Inner) :
    ColumnUnits (u :: core ++ List.replicate n ColumnUnit.space) := by
  refine ⟨hfirst, fun v hv => ?_⟩
  rcases List.mem_append.1 hv with hv | hv
  · exact hin v hv
  · rw [List.eq_of_mem_replicate hv]
    exact inner_space

theorem isAlphanumeric_space : Text.isAlphanumeric ' ' = false := by decide +kernel

theorem isAlphanumeric_escape : Text.isAlphanumeric '\'' = false := by decide +kernel

theorem columnBody_escape (d : Char) (r : List Char) :
    columnBody ('\'' :: d :: r) = (columnBody r).map fun p => (d :: p.1, p.2 + 2) := rfl

theorem columnBody_char {c : Char} (r : List Char) (hq : c ≠ '\'')
    (ha : Text.isAlphanumeric c = true) :
    columnBody (c :: r) = (columnBody r).map fun p => (c :: p.1, p.2 + 1) := by
  rw [columnBody.eq_def]
  dsimp only
  rw [if_neg hq, if_pos ha]

theorem columnBody_space (r : List Char) :
    columnBody (' ' :: r) =
      (columnBody r).map fun p => if p.2 = 0 then ([], 0) else (' ' :: p.1, p.2 + 1) := by
  rw [columnBody.eq_def]
  dsimp only
  rw [if_neg (by decide), if_neg (by simp [isAlphanumeric_space]), if_pos rfl]

theorem getLast?_cons_ne_space {u : ColumnUnit} {us : List ColumnUnit} (hu : u ≠ .space)
    (hus : us.getLast? ≠ some .space) : (u :: us).getLast? ≠ some .space := by
  rw [List.getLast?_cons]
  cases h : us.getLast? with
  | none => simpa using hu
  | some v => simpa [h] using hus

theorem getLast?_space_cons {us : List ColumnUnit} (hus : us ≠ []) :
    (ColumnUnit.space :: us).getLast? = us.getLast? := by
  obtain ⟨v, vs, rfl⟩ := List.exists_cons_of_ne_nil hus
  simp [List.getLast?_cons]

theorem columnBody_eq_none_iff {r : List Char} :
    columnBody r = none ↔ ∃ us : List ColumnUnit, (∀ u ∈ us, u.Inner) ∧
      r = us.flatMap text ++ ['\''] := by
  constructor
  · intro h
    fun_induction columnBody r with
    | case1 => cases h
    | case2 => exact ⟨[], by simp, rfl⟩
    | case3 c r ih =>
      obtain ⟨us, hin, rfl⟩ := ih (Option.map_eq_none_iff.1 h)
      exact ⟨.escape c :: us, by simpa [ColumnUnit.Inner] using hin, by simp [text]⟩
    | case4 c r _ ha ih =>
      obtain ⟨us, hin, rfl⟩ := ih (Option.map_eq_none_iff.1 h)
      exact ⟨.char c :: us, by simpa [ColumnUnit.Inner, ha] using hin, by simp [text]⟩
    | case5 r _ _ ih =>
      obtain ⟨us, hin, rfl⟩ := ih (Option.map_eq_none_iff.1 h)
      exact ⟨.space :: us, by simpa [ColumnUnit.Inner] using hin, by simp [text]⟩
    | case6 => cases h
  · rintro ⟨us, hin, rfl⟩
    induction us with
    | nil => rfl
    | cons u us ih =>
      have hrest := ih fun v hv => hin v (List.mem_cons_of_mem u hv)
      cases u with
      | escape c => simp [text, columnBody_escape, hrest]
      | char c =>
        have ha : Text.isAlphanumeric c = true := hin _ List.mem_cons_self
        have hq : c ≠ '\'' := by
          rintro rfl
          simp [isAlphanumeric_escape] at ha
        simp [text, columnBody_char _ hq ha, hrest]
      | space => simp [text, columnBody_space, hrest]

theorem columnBody_eq_some (r : List Char) : ∀ {w : List Char} {k : Nat},
    columnBody r = some (w, k) →
      ∃ core n tail, (∀ u ∈ core, u.Inner) ∧ core.getLast? ≠ some .space ∧
        r = (core ++ List.replicate n ColumnUnit.space).flatMap text ++ tail ∧ EndsColumn tail ∧
        w = core.flatMap value ∧ k = (core.flatMap text).length := by
  fun_induction columnBody r with
  | case1 =>
    rintro w k ⟨⟩
    exact ⟨[], 0, [], by simp, by simp, rfl, by simp [EndsColumn], rfl, rfl⟩
  | case2 => rintro w k ⟨⟩
  | case3 c r ih =>
    intro w k h
    obtain ⟨⟨w', k'⟩, h', hq⟩ := Option.map_eq_some_iff.1 h
    cases hq
    obtain ⟨core, n, tail, hin, hlast, rfl, htail, rfl, rfl⟩ := ih h'
    refine ⟨.escape c :: core, n, tail, by simpa [ColumnUnit.Inner] using hin,
      getLast?_cons_ne_space (by simp) hlast, by simp [text], htail, by simp [value], ?_⟩
    simp [text]
  | case4 c r _ ha ih =>
    intro w k h
    obtain ⟨⟨w', k'⟩, h', hq⟩ := Option.map_eq_some_iff.1 h
    cases hq
    obtain ⟨core, n, tail, hin, hlast, rfl, htail, rfl, rfl⟩ := ih h'
    refine ⟨.char c :: core, n, tail, by simpa [ColumnUnit.Inner, ha] using hin,
      getLast?_cons_ne_space (by simp) hlast, by simp [text], htail, by simp [value], ?_⟩
    simp [text]
  | case5 r _ _ ih =>
    intro w k h
    obtain ⟨⟨w', k'⟩, h', hq⟩ := Option.map_eq_some_iff.1 h
    obtain ⟨core, n, tail, hin, hlast, rfl, htail, rfl, rfl⟩ := ih h'
    by_cases h0 : (core.flatMap text).length = 0
    · have hcore : core = [] := flatMap_text_eq_nil.1 (List.length_eq_zero_iff.1 h0)
      subst hcore
      simp only [h0, if_true, Prod.mk.injEq] at hq
      obtain ⟨rfl, rfl⟩ := hq
      exact ⟨[], n + 1, tail, by simp, by simp, by simp [text, List.replicate_succ], htail,
        rfl, rfl⟩
    · have hcore : core ≠ [] := fun h => h0 (by simp [h])
      simp only [h0, if_false, Prod.mk.injEq] at hq
      obtain ⟨rfl, rfl⟩ := hq
      refine ⟨.space :: core, n, tail, by simpa [ColumnUnit.Inner] using hin,
        by rwa [getLast?_space_cons hcore], by simp [text], htail, by simp [value], ?_⟩
      simp [text]
  | case6 c r hq ha hs =>
    rintro w k ⟨⟩
    exact ⟨[], 0, c :: r, by simp, by simp, rfl,
      by simpa [EndsColumn] using ⟨hq, Bool.eq_false_iff.2 ha, hs⟩, rfl, rfl⟩

theorem readColumnWord_eq_none_iff {c : Char} {r : List Char}
    (hc : Text.isAlphanumeric c = true ∨ c = '\'' ∨ c = '#') :
    readColumnWord c r = none ↔
      ∃ us, ColumnUnits us ∧ c :: r = us.flatMap text ++ ['\''] := by
  by_cases hq : c = '\''
  · subst hq
    cases r with
    | nil => exact ⟨fun _ => ⟨[], trivial, rfl⟩, fun _ => rfl⟩
    | cons d rest =>
      rw [readColumnWord.eq_def, if_pos rfl]
      simp only [Option.map_eq_none_iff, columnBody_eq_none_iff]
      constructor
      · rintro ⟨us, hin, rfl⟩
        exact ⟨.escape d :: us, ⟨.inr trivial, hin⟩, by simp [text]⟩
      · rintro ⟨_ | ⟨u, us⟩, hunits, heq⟩
        · simp at heq
        · cases u with
          | escape e =>
            simp only [text, List.flatMap_cons, List.cons_append, List.nil_append,
              List.cons.injEq, true_and] at heq
            obtain ⟨rfl, rfl⟩ := heq
            exact ⟨us, hunits.2, rfl⟩
          | char x =>
            simp only [text, List.flatMap_cons, List.cons_append, List.nil_append,
              List.cons.injEq] at heq
            obtain ⟨rfl, -⟩ := heq
            exact absurd hunits.1 (by simp [ColumnUnit.Inner, isAlphanumeric_escape])
          | space => simp [text] at heq
  · rw [readColumnWord.eq_def, if_neg hq]
    simp only [Option.map_eq_none_iff, columnBody_eq_none_iff]
    constructor
    · rintro ⟨us, hin, rfl⟩
      exact ⟨.char c :: us, ⟨char_first_unit hc hq, hin⟩, by simp [text]⟩
    · rintro ⟨_ | ⟨u, us⟩, hunits, heq⟩
      · simp only [List.flatMap_nil, List.nil_append, List.cons.injEq] at heq
        exact absurd heq.1 hq
      · cases u with
        | escape e =>
          simp only [text, List.flatMap_cons, List.cons_append, List.cons.injEq] at heq
          exact absurd heq.1 hq
        | char x =>
          simp only [text, List.flatMap_cons, List.cons_append, List.nil_append,
            List.cons.injEq] at heq
          obtain ⟨rfl, rfl⟩ := heq
          exact ⟨us, hunits.2, rfl⟩
        | space =>
          simp only [text, List.flatMap_cons, List.cons_append, List.nil_append,
            List.cons.injEq] at heq
          obtain ⟨rfl, -⟩ := heq
          rcases hc with ha | hq' | hh
          · simp [isAlphanumeric_space] at ha
          · exact absurd hq' hq
          · exact absurd hh (by decide)

theorem readColumnWord_eq_some {c : Char} {r w rest : List Char}
    (hc : Text.isAlphanumeric c = true ∨ c = '\'' ∨ c = '#')
    (h : readColumnWord c r = some (w, rest)) :
    ∃ core n tail, ColumnUnits (core ++ List.replicate n ColumnUnit.space) ∧ core ≠ [] ∧
      core.getLast? ≠ some .space ∧
      c :: r = (core ++ List.replicate n ColumnUnit.space).flatMap text ++ tail ∧
      EndsColumn tail ∧
      w = core.flatMap value ∧ rest = (c :: r).drop (core.flatMap text).length := by
  by_cases hq : c = '\''
  · subst hq
    cases r with
    | nil => cases h
    | cons d r =>
      rw [readColumnWord.eq_def, if_pos rfl] at h
      obtain ⟨⟨w', k⟩, hb, heq⟩ := Option.map_eq_some_iff.1 h
      cases heq
      obtain ⟨core, n, tail, hin, hlast, rfl, htail, rfl, rfl⟩ := columnBody_eq_some r hb
      refine ⟨.escape d :: core, n, tail, columnUnits_cons_append_replicate n (.inr trivial) hin, by simp,
        getLast?_cons_ne_space (by simp) hlast, by simp [text], htail, by simp [value], ?_⟩
      simp [text]
  · rw [readColumnWord.eq_def, if_neg hq] at h
    obtain ⟨⟨w', k⟩, hb, heq⟩ := Option.map_eq_some_iff.1 h
    cases heq
    obtain ⟨core, n, tail, hin, hlast, rfl, htail, rfl, rfl⟩ := columnBody_eq_some r hb
    refine ⟨.char c :: core, n, tail,
      columnUnits_cons_append_replicate n (char_first_unit hc hq) hin, by simp,
      getLast?_cons_ne_space (by simp) hlast, by simp [text], htail, by simp [value], ?_⟩
    simp [text]

inductive BracketedName : List Char → Prop
  | nil : BracketedName []
  | escape {w : List Char} (d : Char) : BracketedName w → BracketedName ('\'' :: d :: w)
  | char {w : List Char} {c : Char} : c ≠ '\'' → c ≠ ']' → BracketedName w →
      BracketedName (c :: w)

theorem readBracketedColumn_escape (d : Char) (r : List Char) :
    readBracketedColumn ('\'' :: d :: r) =
      (readBracketedColumn r).map fun p => ('\'' :: d :: p.1, p.2) := rfl

theorem readBracketedColumn_close (r : List Char) :
    readBracketedColumn (']' :: r) = some ([], r) := by
  rw [readBracketedColumn.eq_def]
  dsimp only
  rw [if_neg (by decide), if_pos rfl]

theorem readBracketedColumn_cons {c : Char} (r : List Char) (hq : c ≠ '\'') (hb : c ≠ ']') :
    readBracketedColumn (c :: r) = (readBracketedColumn r).map fun p => (c :: p.1, p.2) := by
  rw [readBracketedColumn.eq_def]
  dsimp only
  rw [if_neg hq, if_neg hb]

theorem readBracketedColumn_eq_some_iff {r w rest : List Char} :
    readBracketedColumn r = some (w, rest) ↔ BracketedName w ∧ r = w ++ ']' :: rest := by
  constructor
  · intro h
    induction r using readBracketedColumn.induct generalizing w with
    | case1 => cases h
    | case2 => cases h
    | case3 d r ih =>
      rw [readBracketedColumn_escape] at h
      obtain ⟨⟨w', rest'⟩, h', heq⟩ := Option.map_eq_some_iff.1 h
      cases heq
      obtain ⟨hw, rfl⟩ := ih h'
      exact ⟨.escape d hw, rfl⟩
    | case4 r =>
      rw [readBracketedColumn_close] at h
      cases h
      exact ⟨.nil, rfl⟩
    | case5 c r hq hb ih =>
      rw [readBracketedColumn_cons r hq hb] at h
      obtain ⟨⟨w', rest'⟩, h', heq⟩ := Option.map_eq_some_iff.1 h
      cases heq
      obtain ⟨hw, rfl⟩ := ih h'
      exact ⟨.char hq hb hw, rfl⟩
  · rintro ⟨hw, rfl⟩
    induction hw with
    | nil => exact readBracketedColumn_close rest
    | escape d _ ih => simp [readBracketedColumn_escape, ih]
    | char hq hb _ ih => simp [readBracketedColumn_cons _ hq hb, ih]

theorem readBracketedColumn_eq_none_iff {r : List Char} :
    readBracketedColumn r = none ↔ ∃ w, BracketedName w ∧ (r = w ∨ r = w ++ ['\'']) := by
  constructor
  · intro h
    induction r using readBracketedColumn.induct with
    | case1 => exact ⟨[], .nil, .inl rfl⟩
    | case2 => exact ⟨[], .nil, .inr rfl⟩
    | case3 d r ih =>
      rw [readBracketedColumn_escape] at h
      obtain ⟨w, hw, hr⟩ := ih (Option.map_eq_none_iff.1 h)
      refine ⟨'\'' :: d :: w, .escape d hw, ?_⟩
      rcases hr with rfl | rfl
      · exact .inl rfl
      · exact .inr rfl
    | case4 r => simp [readBracketedColumn_close] at h
    | case5 c r hq hb ih =>
      rw [readBracketedColumn_cons r hq hb] at h
      obtain ⟨w, hw, hr⟩ := ih (Option.map_eq_none_iff.1 h)
      refine ⟨c :: w, .char hq hb hw, ?_⟩
      rcases hr with rfl | rfl
      · exact .inl rfl
      · exact .inr rfl
  · rintro ⟨w, hw, hr⟩
    induction hw generalizing r with
    | nil => rcases hr with rfl | rfl <;> rfl
    | escape d _ ih =>
      rcases hr with rfl | rfl
      · simp [readBracketedColumn_escape, ih (.inl rfl)]
      · simp [readBracketedColumn_escape, ih (.inr rfl)]
    | char hq hb _ ih =>
      rcases hr with rfl | rfl
      · simp [readBracketedColumn_cons _ hq hb, ih (.inl rfl)]
      · simp [readBracketedColumn_cons _ hq hb, ih (.inr rfl)]

theorem tokenAt_table_bracket {pos : Nat} {r : List Char} :
    tokenAt .table pos '[' r = lexBracketedColumn pos r := by
  simp [tokenAt]

theorem tokenAt_table_word {pos : Nat} {c : Char} {r : List Char}
    (hc : Text.isAlphanumeric c = true ∨ c = '\'' ∨ c = '#') :
    tokenAt .table pos c r = lexColumnWord pos c r := by
  have hb : c ≠ '[' := by
    rintro rfl
    rcases hc with h | h | h
    · exact absurd h (by decide +kernel)
    · exact absurd h (by decide)
    · exact absurd h (by decide)
  simp [tokenAt, hb, hc]

theorem column_names_read (s : String) (p : Nat) (c : Char) (hp : s.toList[p]? = some c) :
    ((Text.isAlphanumeric c = true ∨ c = '\'' ∨ c = '#') →
      (tokenAt .table p c (s.toList.drop (p + 1)) =
          .error (.danglingEscape (s.length - 1)) ↔
        ∃ us, ColumnUnits us ∧ s.toList.drop p = us.flatMap text ++ ['\'']) ∧
      (¬(∃ us, ColumnUnits us ∧ s.toList.drop p = us.flatMap text ++ ['\'']) →
        ∃ core n tail, ColumnUnits (core ++ List.replicate n ColumnUnit.space) ∧ core ≠ [] ∧
          core.getLast? ≠ some .space ∧
          s.toList.drop p = (core ++ List.replicate n ColumnUnit.space).flatMap text ++ tail ∧
          EndsColumn tail ∧
          tokenAt .table p c (s.toList.drop (p + 1)) =
            .ok (.name (String.ofList (core.flatMap value)),
              s.toList.drop (p + (core.flatMap text).length)))) ∧
    (c = '[' →
      (tokenAt .table p c (s.toList.drop (p + 1)) = .error (.unclosedColumn p s.length) ↔
        ∃ w, BracketedName w ∧
          (s.toList.drop (p + 1) = w ∨ s.toList.drop (p + 1) = w ++ ['\''])) ∧
      (¬(∃ w, BracketedName w ∧
          (s.toList.drop (p + 1) = w ∨ s.toList.drop (p + 1) = w ++ ['\''])) →
        ∃ w rest, BracketedName w ∧ s.toList.drop (p + 1) = w ++ ']' :: rest ∧
          tokenAt .table p c (s.toList.drop (p + 1)) =
            .ok (.name (String.ofList w), s.toList.drop (p + 1 + w.length + 1)))) := by
  have hlt := (List.getElem?_eq_some_iff.1 hp).1
  have hlen : (s.toList.drop (p + 1)).length = s.length - (p + 1) := by
    rw [List.length_drop, String.length_toList]
  have hdrop : s.toList.drop p = c :: s.toList.drop (p + 1) := by
    rw [List.drop_eq_getElem_cons hlt, (List.getElem?_eq_some_iff.1 hp).2]
  simp only [String.length_toList] at hlt
  refine ⟨fun hc => ⟨?_, fun hend => ?_⟩, fun hb => ?_⟩
  · rw [tokenAt_table_word hc, hdrop, ← readColumnWord_eq_none_iff hc, lexColumnWord]
    split
    · rename_i q hq
      simp [hq]
    · rename_i hq
      simp only [hq, Except.error.injEq, ScanFault.danglingEscape.injEq, iff_true, hlen]
      omega
  · rw [hdrop, ← readColumnWord_eq_none_iff hc] at hend
    obtain ⟨⟨w, rest⟩, hread⟩ := Option.ne_none_iff_exists'.1 hend
    obtain ⟨core, n, tail, hunits, hne, hlast, heq, htail, rfl, rfl⟩ :=
      readColumnWord_eq_some hc hread
    refine ⟨core, n, tail, hunits, hne, hlast, hdrop ▸ heq, htail, ?_⟩
    rw [tokenAt_table_word hc, lexColumnWord, hread, ← hdrop, List.drop_drop]
  · subst hb
    rw [tokenAt_table_bracket, lexBracketedColumn]
    constructor
    · rw [← readBracketedColumn_eq_none_iff]
      split
      · rename_i q hq
        simp [hq]
      · rename_i hq
        simp only [hq, Except.error.injEq, ScanFault.unclosedColumn.injEq, true_and, iff_true,
          hlen]
        omega
    · intro hend
      rw [← readBracketedColumn_eq_none_iff] at hend
      obtain ⟨⟨w, rest⟩, hread⟩ := Option.ne_none_iff_exists'.1 hend
      obtain ⟨hw, heq⟩ := readBracketedColumn_eq_some_iff.1 hread
      refine ⟨w, rest, hw, heq, ?_⟩
      have hrest : s.toList.drop (p + 1 + w.length + 1) = rest := by
        rw [show p + 1 + w.length + 1 = (p + 1) + (w.length + 1) by omega, ← List.drop_drop, heq]
        simp
      rw [hread, hrest]

theorem column_names_read_word :
    "T[Q1 x ]".toList[2]? = some 'Q' ∧
      ((Text.isAlphanumeric 'Q' = true ∨ 'Q' = '\'' ∨ 'Q' = '#') →
        (tokenAt .table 2 'Q' ("T[Q1 x ]".toList.drop (2 + 1)) =
            .error (.danglingEscape ("T[Q1 x ]".length - 1)) ↔
          ∃ us, ColumnUnits us ∧ "T[Q1 x ]".toList.drop 2 = us.flatMap text ++ ['\'']) ∧
        (¬(∃ us, ColumnUnits us ∧ "T[Q1 x ]".toList.drop 2 = us.flatMap text ++ ['\'']) →
          ∃ core n tail, ColumnUnits (core ++ List.replicate n ColumnUnit.space) ∧
            core ≠ [] ∧ core.getLast? ≠ some .space ∧
            "T[Q1 x ]".toList.drop 2 =
              (core ++ List.replicate n ColumnUnit.space).flatMap text ++ tail ∧
            EndsColumn tail ∧
            tokenAt .table 2 'Q' ("T[Q1 x ]".toList.drop (2 + 1)) =
              .ok (.name (String.ofList (core.flatMap value)),
                "T[Q1 x ]".toList.drop (2 + (core.flatMap text).length)))) ∧
      ('Q' = '[' →
        (tokenAt .table 2 'Q' ("T[Q1 x ]".toList.drop (2 + 1)) =
            .error (.unclosedColumn 2 "T[Q1 x ]".length) ↔
          ∃ w, BracketedName w ∧
            ("T[Q1 x ]".toList.drop (2 + 1) = w ∨
              "T[Q1 x ]".toList.drop (2 + 1) = w ++ ['\''])) ∧
        (¬(∃ w, BracketedName w ∧
            ("T[Q1 x ]".toList.drop (2 + 1) = w ∨
              "T[Q1 x ]".toList.drop (2 + 1) = w ++ ['\''])) →
          ∃ w rest, BracketedName w ∧ "T[Q1 x ]".toList.drop (2 + 1) = w ++ ']' :: rest ∧
            tokenAt .table 2 'Q' ("T[Q1 x ]".toList.drop (2 + 1)) =
              .ok (.name (String.ofList w), "T[Q1 x ]".toList.drop (2 + 1 + w.length + 1)))) :=
  ⟨by decide, column_names_read "T[Q1 x ]" 2 'Q' (by decide)⟩

end SheetFormula.Token

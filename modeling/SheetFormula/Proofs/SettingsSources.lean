import SheetFormula.Settings
/-!
Where settings come from: of the lines that set a key the last one gives its value, an entry of
the environment overrides the text, and loading fails, naming every field that cannot be read,
exactly when a chosen value cannot be read.
-/

namespace SheetFormula.Settings

def breakLines : List Char → List (List Char)
  | [] => [[]]
  | '\r' :: '\n' :: r => [] :: breakLines r
  | c :: r =>
    if c = '\n' ∨ c = '\r' then [] :: breakLines r else (breakLines r).modifyHead (c :: ·)

theorem entry?_nil : entry? [] = none := rfl

theorem lines_cons (c : Char) (r : List Char) :
    lines (c :: r) =
      if c = '\n' ∨ c = '\r' then [] :: lines r else (lines r).modifyHead (c :: ·) := by
  unfold lines
  rw [List.splitOn_cons_eq_if_modifyHead]
  by_cases hn : c = '\n'
  · simp [hn]
  obtain ⟨l, t, hsplit⟩ := List.exists_cons_of_ne_nil (List.splitOn_ne_nil '\n' r)
  obtain ⟨a, b, hl⟩ := List.exists_cons_of_ne_nil (List.splitOn_ne_nil '\r' l)
  rw [hsplit, if_neg (by simpa using hn), List.modifyHead_cons, List.flatMap_cons,
    List.flatMap_cons, List.splitOn_cons_eq_if_modifyHead, hl]
  by_cases hr : c = '\r'
  · simp [hr]
  · simp [hn, hr]

theorem entries_eq_breakLines (text : String) :
    entries text = (breakLines text.toList).filterMap entry? := by
  suffices h : ∀ cs : List Char, ∃ l t t', lines cs = l :: t ∧ breakLines cs = l :: t' ∧
      t.filterMap entry? = t'.filterMap entry? by
    obtain ⟨l, t, t', h1, h2, h3⟩ := h text.toList
    rw [entries, h1, h2, List.filterMap_cons, List.filterMap_cons, h3]
  intro cs
  fun_induction breakLines cs with
  | case1 => exact ⟨[], [], [], rfl, rfl, rfl⟩
  | case2 r ih =>
    obtain ⟨l, t, t', h1, h2, h3⟩ := ih
    refine ⟨[], [] :: l :: t, l :: t', by simp [lines_cons, h1], by rw [h2], ?_⟩
    simp [List.filterMap_cons, h3, entry?_nil]
  | case3 c r _ hc ih =>
    obtain ⟨l, t, t', h1, h2, h3⟩ := ih
    refine ⟨[], l :: t, l :: t', by rw [lines_cons, if_pos hc, h1], by rw [h2], ?_⟩
    simp [List.filterMap_cons, h3]
  | case4 c r _ hc ih =>
    obtain ⟨l, t, t', h1, h2, h3⟩ := ih
    exact ⟨c :: l, t, t', by rw [lines_cons, if_neg hc, h1]; rfl, by rw [h2]; rfl, h3⟩

example : breakLines "a\r\nb\rc\n".toList = [['a'], ['b'], ['c'], []] := by decide

def SetsKey (key : String) (line : List Char) (value : String) : Prop :=
  (Text.trimBlanks line).head? ≠ some '#' ∧
    ∃ k w, Text.trimBlanks line = k ++ '=' :: w ∧ '=' ∉ k ∧
      Text.trimBlanks k = key.toList ∧
      value = String.ofList (Text.trimBlanks w)

theorem exists_eq_append_first {cs : List Char} {x : Char} (h : x ∈ cs) :
    ∃ k w, cs = k ++ x :: w ∧ x ∉ k := by
  induction cs with
  | nil => simp at h
  | cons c cs ih =>
    by_cases hc : c = x
    · exact ⟨[], cs, by rw [hc]; rfl, by simp⟩
    · obtain ⟨k, w, rfl, hk⟩ := ih (by simpa [Ne.symm hc] using h)
      exact ⟨c :: k, w, rfl, by simp [Ne.symm hc, hk]⟩

theorem entry?_eq_none_of_head {line : List Char} (h : (Text.trimBlanks line).head? = some '#') :
    entry? line = none := by
  obtain ⟨rest, hrest⟩ := List.head?_eq_some_iff.1 h
  simp [ entry?, hrest]

theorem entry?_eq_none_of_not_mem {line : List Char} (h : '=' ∉ Text.trimBlanks line) :
    entry? line = none := by
  unfold entry?
  split
  · rfl
  · rfl
  · rw [if_neg h]

theorem entry?_of_eq_append {line k w : List Char}
    (hline : Text.trimBlanks line = k ++ '=' :: w) (hk : '=' ∉ k)
    (hhash : (Text.trimBlanks line).head? ≠ some '#') :
    entry? line =
      some (String.ofList (Text.trimBlanks k), String.ofList (Text.trimBlanks w)) := by
  have hpos : ∀ a ∈ k, (!decide (a = '=')) = true := fun a ha => by
    simp only [Bool.not_eq_eq_eq_not, Bool.not_true, decide_eq_false_iff_not]
    rintro rfl
    exact hk ha
  unfold entry?
  split
  · rename_i h
    simp [h] at hline
  · rename_i rest h
    simp [h] at hhash
  · rw [hline, if_pos (by simp)]
    simp [List.takeWhile_append_of_pos hpos, List.dropWhile_append_of_pos hpos]

theorem entry?_eq_some_iff {line : List Char} {key value : String} :
    entry? line = some (key, value) ↔ SetsKey key line value := by
  constructor
  · intro h
    have hhash : (Text.trimBlanks line).head? ≠ some '#' := fun hh => by
      rw [entry?_eq_none_of_head hh] at h
      cases h
    have heq : '=' ∈ Text.trimBlanks line := by
      by_cases hn : '=' ∈ Text.trimBlanks line
      · exact hn
      · rw [entry?_eq_none_of_not_mem hn] at h
        cases h
    obtain ⟨k, w, hline, hk⟩ := exists_eq_append_first heq
    rw [entry?_of_eq_append hline hk hhash] at h
    simp only [Option.some.injEq, Prod.mk.injEq] at h
    obtain ⟨rfl, rfl⟩ := h
    exact ⟨hhash, k, w, hline, hk, by simp, rfl⟩
  · rintro ⟨hhash, k, w, hline, hk, hkey, rfl⟩
    rw [entry?_of_eq_append hline hk hhash, hkey, String.ofList_toList]

section Lookup

variable {key value : String}

theorem lookup_eq_some_iff {es : List (String × String)} :
    lookup es key = some value ↔
      ∃ pre post, es = pre ++ (key, value) :: post ∧ ∀ p ∈ post, p.1 ≠ key := by
  simp only [lookup, Option.map_eq_some_iff, List.find?_eq_some_iff_append, decide_eq_true_eq,
    Bool.not_eq_eq_eq_not, Bool.not_true, decide_eq_false_iff_not]
  constructor
  · rintro ⟨⟨k, v⟩, ⟨rfl, as, bs, hrev, has⟩, rfl⟩
    refine ⟨bs.reverse, as.reverse, ?_, fun p hp => has p (List.mem_reverse.1 hp)⟩
    rw [← List.reverse_reverse es, hrev]
    simp
  · rintro ⟨pre, post, rfl, hpost⟩
    exact ⟨(key, value), ⟨rfl, post.reverse, pre.reverse, by simp,
      fun p hp => hpost p (List.mem_reverse.1 hp)⟩, rfl⟩

theorem lookup_eq_none_iff {es : List (String × String)} :
    lookup es key = none ↔ ∀ p ∈ es, p.1 ≠ key := by
  simp [lookup, List.find?_eq_none]

theorem lookup_append (es es' : List (String × String)) :
    lookup (es ++ es') key = (lookup es' key).or (lookup es key) := by
  simp [lookup, List.find?_append, Option.map_or]

variable {α : Type} {f : α → Option (String × String)}

theorem lookup_filterMap_eq_some_iff {xs : List α} :
    lookup (xs.filterMap f) key = some value ↔
      ∃ pre x post, xs = pre ++ x :: post ∧ f x = some (key, value) ∧
        ∀ y ∈ post, ∀ v, f y ≠ some (key, v) := by
  rw [lookup_eq_some_iff]
  constructor
  · rintro ⟨pre, post, hxs, hpost⟩
    obtain ⟨l₁, l₂, rfl, -, h₂⟩ := List.filterMap_eq_append_iff.1 hxs
    obtain ⟨l₃, x, l₄, rfl, hnone, hx, h₄⟩ := List.filterMap_eq_cons_iff.1 h₂
    refine ⟨l₁ ++ l₃, x, l₄, by simp, hx, fun y hy v hv => ?_⟩
    have : (key, v) ∈ post := h₄ ▸ List.mem_filterMap.2 ⟨y, hy, hv⟩
    exact hpost _ this rfl
  · rintro ⟨pre, x, post, rfl, hx, hpost⟩
    refine ⟨pre.filterMap f, post.filterMap f, by simp [hx], fun p hp hkey => ?_⟩
    obtain ⟨y, hy, hfy⟩ := List.mem_filterMap.1 hp
    exact hpost y hy p.2 (by rw [hfy, ← hkey])

theorem lookup_filterMap_eq_none_iff {xs : List α} :
    lookup (xs.filterMap f) key = none ↔ ∀ y ∈ xs, ∀ v, f y ≠ some (key, v) := by
  rw [lookup_eq_none_iff]
  constructor
  · intro h y hy v hv
    exact h _ (List.mem_filterMap.2 ⟨y, hy, hv⟩) rfl
  · intro h p hp hkey
    obtain ⟨y, hy, hfy⟩ := List.mem_filterMap.1 hp
    exact h y hy p.2 (by rw [hfy, ← hkey])

end Lookup

def EnvBinds (env : List (String × String)) (key value : String) : Prop :=
  ∃ pre post, env = pre ++ (key, value) :: post ∧ ∀ p ∈ post, p.1 ≠ key

def LastSets (text key value : String) : Prop :=
  ∃ pre line post, breakLines text.toList = pre ++ line :: post ∧ SetsKey key line value ∧
    ∀ l ∈ post, ∀ v, ¬SetsKey key l v

/-- The value a setting takes: the environment first, then the last line of the file. -/
inductive Chosen (config : Option String) (env : List (String × String)) (key : String) :
    Option String → Prop
  | environment {value : String} : EnvBinds env key value → Chosen config env key (some value)
  | file {text value : String} : (∀ v, ¬EnvBinds env key v) → config = some text →
      LastSets text key value → Chosen config env key (some value)
  | unset : (∀ v, ¬EnvBinds env key v) →
      (∀ text, config = some text →
        ∀ line ∈ breakLines text.toList, ∀ v, ¬SetsKey key line v) →
      Chosen config env key none

theorem lookup_entries_eq_some_iff {text key value : String} :
    lookup (entries text) key = some value ↔ LastSets text key value := by
  simp only [entries_eq_breakLines, lookup_filterMap_eq_some_iff, ne_eq, entry?_eq_some_iff,
    LastSets]

theorem lookup_entries_eq_none_iff {text key : String} :
    lookup (entries text) key = none ↔
      ∀ line ∈ breakLines text.toList, ∀ v, ¬SetsKey key line v := by
  simp only [entries_eq_breakLines, lookup_filterMap_eq_none_iff, ne_eq, entry?_eq_some_iff]

theorem lookup_eq_none_iff_unbound {env : List (String × String)} {key : String} :
    lookup env key = none ↔ ∀ v, ¬EnvBinds env key v := by
  constructor
  · intro h v hv
    rw [lookup_eq_some_iff.2 hv] at h
    cases h
  · intro h
    cases hl : lookup env key with
    | none => rfl
    | some v => exact absurd (lookup_eq_some_iff.1 hl) (h v)

theorem chosen_lookup (config : Option String) (env : List (String × String)) (key : String) :
    Chosen config env key (lookup ((config.map entries).getD [] ++ env) key) := by
  rw [lookup_append]
  cases henv : lookup env key with
  | some v => exact .environment (lookup_eq_some_iff.1 henv)
  | none =>
    have hunbound := lookup_eq_none_iff_unbound.1 henv
    rw [Option.none_or]
    cases config with
    | none => exact .unset hunbound (by simp)
    | some text =>
      show Chosen (some text) env key (lookup (entries text) key)
      cases hfile : lookup (entries text) key with
      | some v => exact .file hunbound rfl (lookup_entries_eq_some_iff.1 hfile)
      | none =>
        refine .unset hunbound fun t ht => ?_
        cases ht
        exact lookup_entries_eq_none_iff.1 hfile

theorem Chosen.eq_lookup {config : Option String} {env : List (String × String)} {key : String}
    {value : Option String} (h : Chosen config env key value) :
    value = lookup ((config.map entries).getD [] ++ env) key := by
  rw [lookup_append]
  cases h with
  | environment hv => rw [lookup_eq_some_iff.2 hv]; rfl
  | file hunbound hconfig hlast =>
    subst hconfig
    rw [lookup_eq_none_iff_unbound.2 hunbound, Option.none_or]
    exact (lookup_entries_eq_some_iff.2 hlast).symm
  | unset hunbound hlines =>
    rw [lookup_eq_none_iff_unbound.2 hunbound, Option.none_or]
    cases config with
    | none => rfl
    | some text => exact (lookup_entries_eq_none_iff.2 (hlines text rfl)).symm

theorem Chosen.unique {config : Option String} {env : List (String × String)} {key : String}
    {value value' : Option String} (h : Chosen config env key value)
    (h' : Chosen config env key value') : value = value' :=
  h.eq_lookup.trans h'.eq_lookup.symm

theorem load_merges_sources (config : Option String) (env : List (String × String)) :
    ∃ level markers, Chosen config env logLevelKey level ∧
      Chosen config env showMarkersKey markers ∧
      (∀ s : Settings, load config env = .ok s ↔
        field level readLogLevel default.logLevel = some s.logLevel ∧
          field markers readFlag default.showMarkers = some s.showMarkers) ∧
      (∀ faults, load config env = .error faults ↔
        (field level readLogLevel default.logLevel = none ∨
            field markers readFlag default.showMarkers = none) ∧
          faults =
            (if field level readLogLevel default.logLevel = none then [.logLevel] else []) ++
              (if field markers readFlag default.showMarkers = none then [.showMarkers]
                else [])) := by
  refine ⟨_, _, chosen_lookup config env logLevelKey,
    chosen_lookup config env showMarkersKey, ?_⟩
  dsimp only [load]
  generalize field _ readLogLevel default.logLevel = levelRead
  generalize field _ readFlag default.showMarkers = markersRead
  constructor
  · rintro ⟨l, m⟩
    cases levelRead <;> cases markersRead <;> simp [eq_comm]
  · intro faults
    cases levelRead <;> cases markersRead <;> simp [eq_comm]

end SheetFormula.Settings

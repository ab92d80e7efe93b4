import SheetFormula.Proofs.ScanSpans
/-!
The tokens of a scan tile the formula. They stand in order, each covers a non-empty span that
starts at a character that is not blank, and every character outside their spans is blank, up
to the end of the formula when the scan finishes and up to the place of its fault when it stops
early. The fault blames characters after the last token, so there are never more tokens than
characters.
-/

namespace SheetFormula

namespace Token

/-- The tokens cover the characters of `cs` from `lo` to `hi` in order, with blanks between. -/
def Tiles (cs : List Char) (lo hi : Int) : List Token → Prop
  | [] => lo ≤ hi ∧ ∀ i : Nat, lo ≤ i → i < hi → cs[i]?.any Text.isBlank
  | t :: ts => lo ≤ t.start ∧ t.start < t.stop ∧
      (∀ i : Nat, lo ≤ i → i < t.start → cs[i]?.any Text.isBlank) ∧
      cs[t.start.toNat]?.any (!Text.isBlank ·) ∧ Tiles cs t.stop hi ts

namespace Tiles

variable {cs : List Char} {lo hi : Int} {ts : List Token}

theorem of_blank {lo : Nat} (h : Tiles cs (lo + 1) hi ts) (hb : cs[lo]?.any Text.isBlank) :
    Tiles cs lo hi ts := by
  cases ts with
  | nil =>
    obtain ⟨hle, hgap⟩ := h
    refine ⟨by omega, fun i h1 h2 => ?_⟩
    by_cases hi : i = lo
    · rw [hi]; exact hb
    · exact hgap i (by omega) h2
  | cons t ts =>
    obtain ⟨hle, hlt, hgap, hstart, hrest⟩ := h
    refine ⟨by omega, hlt, fun i h1 h2 => ?_, hstart, hrest⟩
    by_cases hi : i = lo
    · rw [hi]; exact hb
    · exact hgap i (by omega) h2

theorem le (h : Tiles cs lo hi ts) : lo ≤ hi := by
  induction ts generalizing lo with
  | nil => exact h.1
  | cons t ts ih =>
    have := ih h.2.2.2.2
    have := h.1
    have := h.2.1
    omega

theorem bounds (h : Tiles cs lo hi ts) {t : Token} (ht : t ∈ ts) :
    lo ≤ t.start ∧ t.start < t.stop ∧ t.stop ≤ hi := by
  induction ts generalizing lo with
  | nil => cases ht
  | cons u ts ih =>
    obtain ⟨hle, hlt, -, -, hrest⟩ := h
    rcases List.mem_cons.1 ht with rfl | ht
    · exact ⟨hle, hlt, hrest.le⟩
    · have := ih hrest ht
      omega

theorem pairwise (h : Tiles cs lo hi ts) : ts.Pairwise fun a b => a.stop ≤ b.start := by
  induction ts generalizing lo with
  | nil => exact List.Pairwise.nil
  | cons t ts ih =>
    obtain ⟨-, -, -, -, hrest⟩ := h
    exact List.Pairwise.cons (fun u hu => (hrest.bounds hu).1) (ih hrest)

theorem start_not_blank (h : Tiles cs lo hi ts) {t : Token} (ht : t ∈ ts) :
    cs[t.start.toNat]?.any (!Text.isBlank ·) := by
  induction ts generalizing lo with
  | nil => cases ht
  | cons u ts ih =>
    obtain ⟨-, -, -, hstart, hrest⟩ := h
    rcases List.mem_cons.1 ht with rfl | ht
    · exact hstart
    · exact ih hrest ht

theorem blank_of_uncovered (h : Tiles cs lo hi ts) {i : Nat} (hlo : lo ≤ i) (hhi : i < hi)
    (hout : ∀ t ∈ ts, ¬(t.start ≤ i ∧ i < t.stop)) : cs[i]?.any Text.isBlank := by
  induction ts generalizing lo with
  | nil => exact h.2 i hlo hhi
  | cons t ts ih =>
    obtain ⟨-, -, hgap, -, hrest⟩ := h
    by_cases hbefore : i < t.start
    · exact hgap i hlo hbefore
    · have hafter : t.stop ≤ i := by
        have := hout t List.mem_cons_self
        omega
      exact ih hrest hafter fun u hu => hout u (List.mem_cons_of_mem t hu)

theorem length_le (h : Tiles cs lo hi ts) : (ts.length : Int) ≤ hi - lo := by
  induction ts generalizing lo with
  | nil => simpa using h.le
  | cons t ts ih =>
    obtain ⟨hle, hlt, -, -, hrest⟩ := h
    have := ih hrest
    simp only [List.length_cons]
    omega

end Tiles

theorem drop_stop_of_suffix {full r rest : List Char} {pos : Nat} {c : Char}
    (hcs : full.drop pos = c :: r) (hs : rest <:+ r) :
    full.drop (pos + (r.length + 1 - rest.length)) = rest := by
  obtain ⟨pre, rfl⟩ := hs
  have hk : pre.length + rest.length + 1 - rest.length = pre.length + 1 := by omega
  rw [← List.drop_drop, hcs, List.length_append, hk]
  simp

theorem scanFrom_tiles {full : List Char} (sc : Scope) (pos : Nat) (cs : List Char)
    (hcs : full.drop pos = cs) :
    ∃ hi : Nat, Tiles full pos hi (scanFrom sc pos cs).tokens ∧
      ((scanFrom sc pos cs).fault = none → hi = pos + cs.length) ∧
      ∀ f, (scanFrom sc pos cs).fault = some f →
        hi ≤ f.start ∧ f.Inside pos (pos + cs.length) := by
  fun_induction scanFrom sc pos cs with
  | case1 sc pos =>
    refine ⟨pos, ⟨Int.le_refl _, fun i h1 h2 => by omega⟩, fun _ => by simp, fun f hf => ?_⟩
    cases hf
  | case2 sc pos c r hblank ih =>
    have hc : full[pos]? = some c := by rw [← List.head?_drop, hcs, List.head?_cons]
    obtain ⟨hi, htiles, hdone, hfault⟩ := ih (by rw [← List.tail_drop, hcs]; rfl)
    refine ⟨hi, ?_, fun h => ?_, fun f hf => ?_⟩
    · exact htiles.of_blank (by simp [hc, hblank])
    · simp only [hdone h, List.length_cons]
      omega
    · obtain ⟨hle, hin⟩ := hfault f hf
      exact ⟨hle, hin.mono (by omega) (by simp only [List.length_cons]; omega)⟩
  | case3 sc pos c r hblank f h =>
    refine ⟨pos, ⟨Int.le_refl _, fun i h1 h2 => by omega⟩, fun h => by simp at h,
      fun g hg => ?_⟩
    cases hg
    have hin := tokenAt_inside h
    exact ⟨hin.1, hin.mono (Nat.le_refl _) (by simp only [List.length_cons]; omega)⟩
  | case4 sc pos c r hblank lx rest h stop ih =>
    have hs := tokenAt_suffix h
    have hle := hs.length_le
    have hc : full[pos]? = some c := by rw [← List.head?_drop, hcs, List.head?_cons]
    obtain ⟨hi, htiles, hdone, hfault⟩ := ih (drop_stop_of_suffix hcs hs)
    have hstop : stop = pos + (r.length + 1 - rest.length) := rfl
    refine ⟨hi, ⟨Int.le_refl _, by dsimp only; omega,
      fun i h1 h2 => by dsimp only at h2; omega, ?_, htiles⟩, fun hf => ?_, fun f hf => ?_⟩
    · simp [hc, hblank]
    · simp only [hdone hf, List.length_cons]
      omega
    · obtain ⟨hle', hin⟩ := hfault f hf
      exact ⟨hle', hin.mono (by omega) (by simp only [List.length_cons]; omega)⟩

end Token

theorem TokenStream.scan_tiles (s : String) :
    (TokenStream.scan s).tokens.Pairwise (fun a b => a.stop ≤ b.start) ∧
    (∀ t ∈ (TokenStream.scan s).tokens, 0 ≤ t.start ∧ t.start < t.stop ∧ t.stop ≤ s.length ∧
      s.toList[t.start.toNat]?.any (!Text.isBlank ·)) ∧
    (∀ i : Nat, i < s.length →
      ((TokenStream.scan s).fault = none ∨ ∃ t ∈ (TokenStream.scan s).tokens, i < t.stop) →
      (∀ t ∈ (TokenStream.scan s).tokens, ¬(t.start ≤ i ∧ i < t.stop)) →
      s.toList[i]?.any Text.isBlank) ∧
    (TokenStream.scan s).tokens.length ≤ s.length ∧
    ∀ f, (TokenStream.scan s).fault = some f →
      (∀ t ∈ (TokenStream.scan s).tokens, t.stop ≤ f.start) ∧ f.start < f.stop ∧
        f.stop ≤ s.length := by
  obtain ⟨hi, htiles, hdone, hfault⟩ : ∃ hi : Nat, Token.Tiles s.toList 0 hi (scan s).tokens ∧
      ((scan s).fault = none → hi = s.length) ∧
      ∀ f, (scan s).fault = some f → hi ≤ f.start ∧ f.Inside 0 s.length := by
    simpa [TokenStream.scan, String.length_toList] using
      @Token.scanFrom_tiles s.toList .formula 0 s.toList rfl
  have hhi : hi ≤ s.length := by
    cases hf : (TokenStream.scan s).fault with
    | none => exact Nat.le_of_eq (hdone hf)
    | some f =>
      obtain ⟨hle, -, hlt, hstop⟩ := hfault f hf
      omega
  refine ⟨htiles.pairwise, fun t ht => ?_, fun i hi' hbefore hout => ?_, ?_, fun f hf => ?_⟩
  · obtain ⟨h1, h2, h3⟩ := htiles.bounds ht
    exact ⟨h1, h2, by omega, htiles.start_not_blank ht⟩
  · refine htiles.blank_of_uncovered (by omega) ?_ hout
    rcases hbefore with hf | ⟨t, ht, hlt⟩
    · rw [hdone hf]
      exact_mod_cast hi'
    · have := (htiles.bounds ht).2.2
      omega
  · have := htiles.length_le
    omega
  · obtain ⟨hle, -, hlt, hstop⟩ := hfault f hf
    refine ⟨fun t ht => ?_, hlt, hstop⟩
    have := (htiles.bounds ht).2.2
    omega

end SheetFormula

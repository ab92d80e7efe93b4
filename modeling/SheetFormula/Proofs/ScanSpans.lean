import SheetFormula.Token.Scan
/-!
Spans of a scan. Every token of a text covers a non-empty run of its characters, and a fault
that stops the scan blames a non-empty run of them too: the character where a token should
start, up to at most the end of the text.
-/

namespace SheetFormula

def ScanFault.Inside (lo hi : Nat) (f : ScanFault) : Prop :=
  lo ≤ f.start ∧ f.start < f.stop ∧ f.stop ≤ hi

def Token.Inside (lo hi : Int) (t : Token) : Prop :=
  lo ≤ t.start ∧ t.start < t.stop ∧ t.stop ≤ hi

theorem Token.Inside.mono {lo hi lo' hi' : Int} {t : Token} (h : t.Inside lo hi) (hlo : lo' ≤ lo)
    (hhi : hi ≤ hi') : t.Inside lo' hi' := by
  simp only [Token.Inside] at *
  omega

theorem ScanFault.Inside.mono {lo hi lo' hi' : Nat} {f : ScanFault} (h : f.Inside lo hi)
    (hlo : lo' ≤ lo) (hhi : hi ≤ hi') : f.Inside lo' hi' := by
  simp only [ScanFault.Inside] at *
  omega

namespace Token

theorem fractionPart_append (cs : List Char) : (fractionPart cs).1 ++ (fractionPart cs).2 = cs := by
  unfold fractionPart
  split
  · simp only [List.cons_append, List.takeWhile_append_dropWhile]
  · rfl

theorem exponentSign_append (cs : List Char) :
    (exponentSign cs).1 ++ (exponentSign cs).2 = cs := by
  unfold exponentSign
  split
  · split <;> rfl
  · rfl

theorem exponentPart_append (cs : List Char) :
    (exponentPart cs).1 ++ (exponentPart cs).2 = cs := by
  unfold exponentPart
  split
  · split
    · simp only [List.cons_append, List.append_assoc, List.takeWhile_append_dropWhile,
        exponentSign_append]
    · rfl
  · rfl

theorem readNumberText_append (c : Char) (r : List Char) :
    (readNumberText c r).1 ++ (readNumberText c r).2 = c :: r := by
  simp only [readNumberText, List.cons_append, List.append_assoc, exponentPart_append,
    fractionPart_append, List.takeWhile_append_dropWhile]

section Faults

variable {pos : Nat} {c : Char} {r : List Char} {f : ScanFault}

theorem lexErrorCode_inside (h : lexErrorCode pos r = .error f) :
    f.Inside pos (pos + r.length + 1) := by
  unfold lexErrorCode at h
  split at h
  · cases h
  · cases h
    have := (List.takeWhile_prefix ErrorCode.isCodeChar (l := r)).length_le
    simp only [ScanFault.Inside, ScanFault.start, ScanFault.stop]
    omega

theorem lexQuoted_inside (h : lexQuoted pos c r = .error f) : f.Inside pos (pos + r.length + 1) := by
  unfold lexQuoted at h
  split at h
  · cases h
  · cases h
    simp only [ScanFault.Inside, ScanFault.start, ScanFault.stop]
    omega

theorem lexNumber_inside (h : lexNumber pos c r = .error f) : f.Inside pos (pos + r.length + 1) := by
  unfold lexNumber at h
  dsimp only at h
  split at h
  · cases h
  · cases h
    have hlen := congrArg List.length (readNumberText_append c r)
    simp only [List.length_append, List.length_cons] at hlen
    have hpos : 0 < (readNumberText c r).1.length := by
      simp only [readNumberText, List.cons_append, List.length_cons]
      omega
    simp only [ScanFault.Inside, ScanFault.start, ScanFault.stop]
    omega

theorem lexSymbol_error {stray : ScanFault} (h : lexSymbol stray c r = .error f) : f = stray := by
  unfold lexSymbol at h
  split at h
  · cases h
  · cases h
    rfl

theorem lexBracketedColumn_inside (h : lexBracketedColumn pos r = .error f) :
    f.Inside pos (pos + r.length + 1) := by
  unfold lexBracketedColumn at h
  split at h
  · cases h
  · cases h
    simp only [ScanFault.Inside, ScanFault.start, ScanFault.stop]
    omega

theorem lexColumnWord_inside (h : lexColumnWord pos c r = .error f) :
    f.Inside pos (pos + r.length + 1) := by
  unfold lexColumnWord at h
  split at h
  · cases h
  · cases h
    simp only [ScanFault.Inside, ScanFault.start, ScanFault.stop]
    omega

theorem tokenAt_inside {sc : Scope} (h : tokenAt sc pos c r = .error f) :
    f.Inside pos (pos + r.length + 1) := by
  have hstray : ∀ {g : ScanFault}, g.start = pos → g.stop = pos + 1 →
      g.Inside pos (pos + r.length + 1) := by
    intro g h1 h2
    simp only [ScanFault.Inside]
    omega
  cases sc
  · simp only [tokenAt] at h
    split at h
    · exact lexErrorCode_inside h
    split at h
    · exact lexQuoted_inside h
    split at h
    · exact lexNumber_inside h
    split at h
    · rw [lexSymbol_error h]
      exact hstray rfl rfl
    split at h
    · cases h
    · cases h
      exact hstray rfl rfl
  · simp only [tokenAt] at h
    split at h
    · exact lexBracketedColumn_inside h
    split at h
    · exact lexColumnWord_inside h
    · rw [lexSymbol_error h]
      exact hstray rfl rfl

end Faults

end Token

end SheetFormula

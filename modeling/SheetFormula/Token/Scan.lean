import SheetFormula.Token
import SheetFormula.Token.Fault
import SheetFormula.Decimal.Reading
import SheetFormula.Text.Alphanumeric
import SheetFormula.Text.Blank
/-!
Scanning a formula into tokens: error codes, quoted strings and names, numbers, symbols and
names, and inside square brackets the column names of a table. The scan ends at the first fault,
and the tokens before it stand.
-/

namespace SheetFormula

structure TokenStream where
  tokens : List Token
  fault : Option ScanFault
  deriving DecidableEq, Repr

def TokenStream.cons (t : Token) (s : TokenStream) : TokenStream :=
  { s with tokens := t :: s.tokens }

def TokenStream.ofList (ts : List Token) : TokenStream :=
  ⟨ts, none⟩

namespace Token

inductive Scope where
  | formula | table
  deriving DecidableEq, Repr

def Scope.after (sc : Scope) : Lexeme → Scope
  | .symbol .openBracket => .table
  | .symbol .closeBracket => .formula
  | _ => sc

def isNameStart (c : Char) : Bool :=
  Text.isAlphanumeric c || c == '_' || c == '$'

def isNameChar (c : Char) : Bool :=
  Text.isAlphanumeric c || c == '_' || c == '.' || c == '$'

def readName (c : Char) (r : List Char) : Lexeme × List Char :=
  (.name (String.ofList (c :: r.takeWhile isNameChar)), r.dropWhile isNameChar)

def readSymbol : Char → List Char → Option (Symbol × List Char)
  | '<', '>' :: rest => some (.compare .ne, rest)
  | '<', '=' :: rest => some (.compare .le, rest)
  | '>', '=' :: rest => some (.compare .ge, rest)
  | c, rest => (Symbol.ofChar? c).map fun s => (s, rest)

def readErrorCode (r : List Char) : Option (ErrorCode × List Char) :=
  ErrorCode.all.findSome? fun e =>
    let body := e.text.toList.drop 1
    if body.isPrefixOf r then some (e, r.drop body.length) else none

def readQuoted (q : Char) : List Char → Option (List Char × List Char)
  | [] => none
  | c :: r =>
    if c = q then
      match r with
      | d :: rest =>
        if d = q then (readQuoted q rest).map fun p => (q :: p.1, p.2) else some ([], r)
      | [] => some ([], [])
    else (readQuoted q r).map fun p => (c :: p.1, p.2)

def fractionPart : List Char → List Char × List Char
  | '.' :: r => ('.' :: r.takeWhile Char.isDigit, r.dropWhile Char.isDigit)
  | cs => ([], cs)

def exponentSign : List Char → List Char × List Char
  | s :: r => if s = '+' ∨ s = '-' then ([s], r) else ([], s :: r)
  | [] => ([], [])

def exponentPart : List Char → List Char × List Char
  | e :: r =>
    if e = 'e' ∨ e = 'E' then
      let sign := exponentSign r
      (e :: sign.1 ++ sign.2.takeWhile Char.isDigit, sign.2.dropWhile Char.isDigit)
    else ([], e :: r)
  | [] => ([], [])

def readNumberText (c : Char) (r : List Char) : List Char × List Char :=
  let whole := r.takeWhile Char.isDigit
  let fraction := fractionPart (r.dropWhile Char.isDigit)
  let exponent := exponentPart fraction.2
  (c :: whole ++ fraction.1 ++ exponent.1, exponent.2)

def columnBody : List Char → Option (List Char × Nat)
  | [] => some ([], 0)
  | c :: r =>
    if c = '\'' then
      match r with
      | [] => none
      | d :: rest => (columnBody rest).map fun p => (d :: p.1, p.2 + 2)
    else if Text.isAlphanumeric c then (columnBody r).map fun p => (c :: p.1, p.2 + 1)
    else if c = ' ' then
      (columnBody r).map fun p => if p.2 = 0 then ([], 0) else (' ' :: p.1, p.2 + 1)
    else some ([], 0)

def readColumnWord (c : Char) (r : List Char) : Option (List Char × List Char) :=
  if c = '\'' then
    match r with
    | [] => none
    | d :: rest => (columnBody rest).map fun p => (d :: p.1, rest.drop p.2)
  else (columnBody r).map fun p => (c :: p.1, r.drop p.2)

def readBracketedColumn : List Char → Option (List Char × List Char)
  | [] => none
  | c :: r =>
    if c = '\'' then
      match r with
      | [] => none
      | d :: rest => (readBracketedColumn rest).map fun p => (c :: d :: p.1, p.2)
    else if c = ']' then some ([], r)
    else (readBracketedColumn r).map fun p => (c :: p.1, p.2)

def lexErrorCode (pos : Nat) (r : List Char) : Except ScanFault (Lexeme × List Char) :=
  match readErrorCode r with
  | some p => .ok (.error p.1, p.2)
  | none =>
    let run := r.takeWhile ErrorCode.isCodeChar
    .error (.unknownErrorCode (String.ofList ('#' :: run)) pos (pos + 1 + run.length))

def lexQuoted (pos : Nat) (q : Char) (r : List Char) : Except ScanFault (Lexeme × List Char) :=
  match readQuoted q r with
  | some p =>
    .ok (if q = '"' then .string (String.ofList p.1) else .name (String.ofList p.1), p.2)
  | none => .error (.unclosedString q pos (pos + 1 + r.length))

def lexNumber (pos : Nat) (c : Char) (r : List Char) : Except ScanFault (Lexeme × List Char) :=
  let p := readNumberText c r
  match Decimal.ofString? (String.ofList p.1) with
  | some d => .ok (.number d, p.2)
  | none => .error (.badNumber (String.ofList p.1) pos (pos + p.1.length))

def lexSymbol (stray : ScanFault) (c : Char) (r : List Char) :
    Except ScanFault (Lexeme × List Char) :=
  match readSymbol c r with
  | some p => .ok (.symbol p.1, p.2)
  | none => .error stray

def lexBracketedColumn (pos : Nat) (r : List Char) : Except ScanFault (Lexeme × List Char) :=
  match readBracketedColumn r with
  | some p => .ok (.name (String.ofList p.1), p.2)
  | none => .error (.unclosedColumn pos (pos + 1 + r.length))

def lexColumnWord (pos : Nat) (c : Char) (r : List Char) : Except ScanFault (Lexeme × List Char) :=
  match readColumnWord c r with
  | some p => .ok (.name (String.ofList p.1), p.2)
  | none => .error (.danglingEscape (pos + r.length))

def tokenAt : Scope → Nat → Char → List Char → Except ScanFault (Lexeme × List Char)
  | .formula, pos, c, r =>
    if c = '#' then lexErrorCode pos r
    else if c = '"' ∨ c = '\'' then lexQuoted pos c r
    else if c.isDigit then lexNumber pos c r
    else if (Symbol.ofChar? c).isSome then lexSymbol (.strayChar c pos) c r
    else if isNameStart c then .ok (readName c r)
    else .error (.strayChar c pos)
  | .table, pos, c, r =>
    if c = '[' then lexBracketedColumn pos r
    else if Text.isAlphanumeric c ∨ c = '\'' ∨ c = '#' then lexColumnWord pos c r
    else lexSymbol (.strayColumnChar c pos) c r

theorem readSymbol_suffix {c : Char} {r rest : List Char} {s : Symbol}
    (h : readSymbol c r = some (s, rest)) : rest <:+ r := by
  unfold readSymbol at h
  split at h
  · cases h; exact List.suffix_cons _ _
  · cases h; exact List.suffix_cons _ _
  · cases h; exact List.suffix_cons _ _
  · obtain ⟨_, _, hq⟩ := Option.map_eq_some_iff.1 h
    cases hq
    exact List.suffix_refl _

theorem readErrorCode_suffix {r rest : List Char} {e : ErrorCode}
    (h : readErrorCode r = some (e, rest)) : rest <:+ r := by
  obtain ⟨e', _, h⟩ := List.exists_of_findSome?_eq_some h
  dsimp only at h
  split at h
  · cases h
    exact List.drop_suffix _ _
  · cases h

theorem readQuoted_suffix {q : Char} :
    ∀ {r t rest : List Char}, readQuoted q r = some (t, rest) → rest <:+ r
  | [], _, _, h => by simp [readQuoted] at h
  | c :: r, t, rest, h => by
    unfold readQuoted at h
    split at h
    · split at h
      · rename_i d r1
        split at h
        · obtain ⟨p, hp, hq⟩ := Option.map_eq_some_iff.1 h
          cases hq
          exact ((readQuoted_suffix hp).trans (List.suffix_cons _ _)).trans
            (List.suffix_cons _ _)
        · cases h
          exact List.suffix_cons _ _
      · cases h
        exact List.suffix_cons _ _
    · obtain ⟨p, hp, hq⟩ := Option.map_eq_some_iff.1 h
      cases hq
      exact (readQuoted_suffix hp).trans (List.suffix_cons _ _)

theorem fractionPart_suffix (cs : List Char) : (fractionPart cs).2 <:+ cs := by
  unfold fractionPart
  split
  · exact (List.dropWhile_suffix _).trans (List.suffix_cons _ _)
  · exact List.suffix_refl _

theorem exponentSign_suffix (cs : List Char) : (exponentSign cs).2 <:+ cs := by
  unfold exponentSign
  split
  · split
    · exact List.suffix_cons _ _
    · exact List.suffix_refl _
  · exact List.suffix_refl _

theorem exponentPart_suffix (cs : List Char) : (exponentPart cs).2 <:+ cs := by
  unfold exponentPart
  split
  · split
    · exact ((List.dropWhile_suffix _).trans (exponentSign_suffix _)).trans
        (List.suffix_cons _ _)
    · exact List.suffix_refl _
  · exact List.suffix_refl _

theorem readNumberText_suffix (c : Char) (r : List Char) : (readNumberText c r).2 <:+ r :=
  ((exponentPart_suffix _).trans (fractionPart_suffix _)).trans (List.dropWhile_suffix _)

theorem columnBody_le : ∀ {r w : List Char} {k : Nat}, columnBody r = some (w, k) → k ≤ r.length
  | [], _, _, h => by simp [columnBody] at h; omega
  | c :: r, w, k, h => by
    unfold columnBody at h
    split at h
    · split at h
      · cases h
      · rename_i d r1
        obtain ⟨p, hp, hq⟩ := Option.map_eq_some_iff.1 h
        cases hq
        have := columnBody_le (r := r1) (w := p.1) (k := p.2) hp
        simp only [List.length_cons]
        omega
    · split at h
      · obtain ⟨p, hp, hq⟩ := Option.map_eq_some_iff.1 h
        cases hq
        have := columnBody_le (r := r) (w := p.1) (k := p.2) hp
        simp only [List.length_cons]
        omega
      · split at h
        · obtain ⟨p, hp, hq⟩ := Option.map_eq_some_iff.1 h
          have := columnBody_le (r := r) (w := p.1) (k := p.2) hp
          split at hq
          · cases hq
            omega
          · cases hq
            simp only [List.length_cons]
            omega
        · cases h
          omega

theorem readColumnWord_suffix {c : Char} {r w rest : List Char}
    (h : readColumnWord c r = some (w, rest)) : rest <:+ r := by
  unfold readColumnWord at h
  split at h
  · split at h
    · cases h
    · obtain ⟨p, _, hq⟩ := Option.map_eq_some_iff.1 h
      cases hq
      exact (List.drop_suffix _ _).trans (List.suffix_cons _ _)
  · obtain ⟨p, _, hq⟩ := Option.map_eq_some_iff.1 h
    cases hq
    exact List.drop_suffix _ _

theorem readBracketedColumn_suffix :
    ∀ {r t rest : List Char}, readBracketedColumn r = some (t, rest) → rest <:+ r
  | [], _, _, h => by simp [readBracketedColumn] at h
  | c :: r, t, rest, h => by
    unfold readBracketedColumn at h
    split at h
    · split at h
      · cases h
      · rename_i d r1
        obtain ⟨p, hp, hq⟩ := Option.map_eq_some_iff.1 h
        cases hq
        exact ((readBracketedColumn_suffix hp).trans (List.suffix_cons _ _)).trans
          (List.suffix_cons _ _)
    · split at h
      · cases h
        exact List.suffix_cons _ _
      · obtain ⟨p, hp, hq⟩ := Option.map_eq_some_iff.1 h
        cases hq
        exact (readBracketedColumn_suffix hp).trans (List.suffix_cons _ _)

theorem lexErrorCode_suffix {pos : Nat} {r rest : List Char} {lx : Lexeme}
    (h : lexErrorCode pos r = .ok (lx, rest)) : rest <:+ r := by
  unfold lexErrorCode at h
  split at h
  · cases h; exact readErrorCode_suffix (by assumption)
  · cases h

theorem lexQuoted_suffix {pos : Nat} {q : Char} {r rest : List Char} {lx : Lexeme}
    (h : lexQuoted pos q r = .ok (lx, rest)) : rest <:+ r := by
  unfold lexQuoted at h
  split at h
  · cases h; exact readQuoted_suffix (by assumption)
  · cases h

theorem lexNumber_suffix {pos : Nat} {c : Char} {r rest : List Char} {lx : Lexeme}
    (h : lexNumber pos c r = .ok (lx, rest)) : rest <:+ r := by
  unfold lexNumber at h
  dsimp only at h
  split at h
  · cases h; exact readNumberText_suffix c r
  · cases h

theorem lexSymbol_suffix {stray : ScanFault} {c : Char} {r rest : List Char} {lx : Lexeme}
    (h : lexSymbol stray c r = .ok (lx, rest)) : rest <:+ r := by
  unfold lexSymbol at h
  split at h
  · cases h; exact readSymbol_suffix (by assumption)
  · cases h

theorem lexBracketedColumn_suffix {pos : Nat} {r rest : List Char} {lx : Lexeme}
    (h : lexBracketedColumn pos r = .ok (lx, rest)) : rest <:+ r := by
  unfold lexBracketedColumn at h
  split at h
  · cases h; exact readBracketedColumn_suffix (by assumption)
  · cases h

theorem lexColumnWord_suffix {pos : Nat} {c : Char} {r rest : List Char} {lx : Lexeme}
    (h : lexColumnWord pos c r = .ok (lx, rest)) : rest <:+ r := by
  unfold lexColumnWord at h
  split at h
  · cases h; exact readColumnWord_suffix (by assumption)
  · cases h

theorem tokenAt_suffix {sc : Scope} {pos : Nat} {c : Char} {r rest : List Char} {lx : Lexeme}
    (h : tokenAt sc pos c r = .ok (lx, rest)) : rest <:+ r := by
  cases sc
  · simp only [tokenAt] at h
    split at h
    · exact lexErrorCode_suffix h
    split at h
    · exact lexQuoted_suffix h
    split at h
    · exact lexNumber_suffix h
    split at h
    · exact lexSymbol_suffix h
    split at h
    · cases h; exact List.dropWhile_suffix _
    · cases h
  · simp only [tokenAt] at h
    split at h
    · exact lexBracketedColumn_suffix h
    split at h
    · exact lexColumnWord_suffix h
    · exact lexSymbol_suffix h

def scanFrom (sc : Scope) (pos : Nat) : List Char → TokenStream
  | [] => ⟨[], none⟩
  | c :: r =>
    if Text.isBlank c then scanFrom sc (pos + 1) r
    else
      match h : tokenAt sc pos c r with
      | .error f => ⟨[], some f⟩
      | .ok (lx, rest) =>
        let stop := pos + (r.length + 1 - rest.length)
        (scanFrom (sc.after lx) stop rest).cons ⟨lx, pos, stop⟩
termination_by cs => cs.length
decreasing_by
  · simp
  · have := (tokenAt_suffix h).length_le
    simp only [List.length_cons]
    omega

section Steps

variable {sc : Scope} {pos : Nat} {c : Char} {r : List Char}

theorem scanFrom_blank (hb : Text.isBlank c = true) :
    scanFrom sc pos (c :: r) = scanFrom sc (pos + 1) r := by
  rw [scanFrom, if_pos hb]

theorem scanFrom_token {lx : Lexeme} {rest : List Char} (hb : Text.isBlank c = false)
    (h : tokenAt sc pos c r = .ok (lx, rest)) :
    scanFrom sc pos (c :: r) =
      (scanFrom (sc.after lx) (pos + (r.length + 1 - rest.length)) rest).cons
        ⟨lx, pos, ((pos + (r.length + 1 - rest.length) : Nat) : Int)⟩ := by
  rw [scanFrom, if_neg (by simp [hb])]
  split
  · rename_i f hf
    rw [h] at hf
    cases hf
  · rename_i lx' rest' hf
    rw [h] at hf
    cases hf
    rfl

theorem scanFrom_fault {f : ScanFault} (hb : Text.isBlank c = false)
    (h : tokenAt sc pos c r = .error f) : scanFrom sc pos (c :: r) = ⟨[], some f⟩ := by
  rw [scanFrom, if_neg (by simp [hb])]
  split
  · rename_i f' hf
    rw [h] at hf
    cases hf
    rfl
  · rename_i lx' rest' hf
    rw [h] at hf
    cases hf

end Steps

end Token

def TokenStream.scan (formula : String) : TokenStream :=
  Token.scanFrom .formula 0 formula.toList

end SheetFormula

import SheetFormula.Decimal.Basic
import SheetFormula.Text.Blank
import SheetFormula.Text.DecimalDigit
/-!
Reading decimal text: a signed decimal with an optional exponent, or an infinity or a NaN, with
blanks and underscores ignored and the digits of any script; the value is kept exactly.
-/

namespace SheetFormula.Decimal

def maxExponent : Int := 999999999999999999

def minExponent : Int := -1999999999999999997

def digitsValue (ds : List Char) : Nat :=
  ds.foldl (fun n d => 10 * n + (d.toNat - '0'.toNat)) 0

def readSign : List Char → Bool × List Char
  | '+' :: rest => (false, rest)
  | '-' :: rest => (true, rest)
  | cs => (false, cs)

def readDigits (cs : List Char) : Option Nat :=
  if cs ≠ [] ∧ cs.all Char.isDigit then some (digitsValue cs) else none

def readExponent : List Char → Option Int
  | [] => some 0
  | e :: rest =>
    if e = 'e' ∨ e = 'E' then
      let (minus, ds) := readSign rest
      (readDigits ds).map fun n => if minus then -(n : Int) else n
    else none

def readPayload (cs : List Char) : Option Nat :=
  if cs.all Char.isDigit then some (digitsValue cs) else none

def readFinite (cs : List Char) : Option Magnitude :=
  let (whole, afterWhole) := cs.span Char.isDigit
  let (fraction, afterFraction) := match afterWhole with
    | '.' :: rest => rest.span Char.isDigit
    | rest => ([], rest)
  if whole.isEmpty ∧ fraction.isEmpty then none
  else (readExponent afterFraction).map fun e =>
    .finite (digitsValue (whole ++ fraction)) (e - fraction.length)

def readMagnitude (cs : List Char) : Option Magnitude :=
  match cs.map Char.toLower with
  | ['i', 'n', 'f'] | ['i', 'n', 'f', 'i', 'n', 'i', 't', 'y'] => some .infinity
  | 'n' :: 'a' :: 'n' :: payload => (readPayload payload).map .nan
  | 's' :: 'n' :: 'a' :: 'n' :: payload => (readPayload payload).map .signalingNan
  | _ => readFinite cs

def Magnitude.fits : Magnitude → Bool
  | .finite c e => decide (e + ((Nat.toDigits 10 c).length - 1 : Nat) ≤ maxExponent) &&
      decide (minExponent ≤ e)
  | _ => true

def asciiChar? (c : Char) : Option Char :=
  if c.toNat < 128 ∧ c.toNat ≠ 0 then some c
  else if Text.isBlank c then some ' '
  else (Text.decimalDigitValue? c).map fun d => Char.ofNat ('0'.toNat + d)

def ofString? (s : String) : Option Decimal := do
  let cs ← ((Text.trimBlanks s.toList).filter (· ≠ '_')).mapM asciiChar?
  let (negative, body) := readSign cs
  let m ← readMagnitude body
  if m.fits then some ⟨negative, m⟩ else none

example : ofString? "1.50" = some ⟨false, .finite 150 (-2)⟩ := by decide +kernel
example : ofString? " -٣_0e-2 " = some ⟨true, .finite 30 (-2)⟩ := by decide +kernel
example : ofString? "1." = some ⟨false, .finite 1 0⟩ ∧ ofString? "." = none ∧
    ofString? "1e" = none ∧ ofString? "-inf" = some ⟨true, .infinity⟩ ∧
    ofString? "NaN0012" = some ⟨false, .nan 12⟩ ∧ ofString? "1 2" = none := by decide +kernel
example : ofString? "1e999999999999999999" ≠ none ∧ ofString? "12e999999999999999999" = none ∧
    ofString? "0e-1999999999999999998" = none := by decide +kernel

end SheetFormula.Decimal

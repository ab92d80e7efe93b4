import SheetFormula.Decimal.Basic
/-!
The text of a decimal number. The digits of the coefficient are written as they are held; the
point goes where the exponent puts it while the exponent is at most zero and the adjusted
exponent (the exponent of the leading digit) is at least -6, and otherwise one digit stands before
the point and the adjusted exponent follows as `E+n` or `E-n`. Negative values, zero included,
start with `-`; the specials are `Infinity`, `NaN` and `sNaN`, a nonzero payload after a NaN.
-/

namespace SheetFormula.Decimal

def digitsOf (n : Nat) : List Char :=
  Nat.toDigits 10 n

def signedExponent (e : Int) : List Char :=
  (if e < 0 then '-' else '+') :: digitsOf e.natAbs

def finiteText (coefficient : Nat) (exponent : Int) : List Char :=
  let ds := digitsOf coefficient
  let leading : Int := exponent + ds.length
  if exponent ≤ 0 ∧ -6 < leading then
    if leading ≤ 0 then
      '0' :: '.' :: List.replicate leading.natAbs '0' ++ ds
    else
      let k := leading.toNat
      if ds.length ≤ k then ds
      else ds.take k ++ '.' :: ds.drop k
  else
    let adjusted := leading - 1
    let mantissa := match ds with
      | d :: rest@(_ :: _) => d :: '.' :: rest
      | _ => ds
    if adjusted = 0 then mantissa else mantissa ++ 'E' :: signedExponent adjusted

def Magnitude.text : Magnitude → List Char
  | .finite c e => finiteText c e
  | .infinity => "Infinity".toList
  | .nan p => "NaN".toList ++ (if p = 0 then [] else digitsOf p)
  | .signalingNan p => "sNaN".toList ++ (if p = 0 then [] else digitsOf p)

def toText (d : Decimal) : String :=
  String.ofList ((if d.negative then ['-'] else []) ++ d.magnitude.text)

example : toText ⟨false, .finite 110 (-2)⟩ = "1.10" ∧ toText ⟨false, .finite 1 5⟩ = "1E+5" ∧
    toText ⟨false, .finite 1 (-7)⟩ = "1E-7" ∧ toText ⟨true, .finite 0 0⟩ = "-0" ∧
    toText ⟨false, .finite 0 (-9)⟩ = "0E-9" ∧ toText ⟨false, .finite 123 (-5)⟩ = "0.00123" ∧
    toText ⟨false, .finite 12 3⟩ = "1.2E+4" ∧ toText ⟨true, .nan 12⟩ = "-NaN12" := by
  decide +kernel

end SheetFormula.Decimal

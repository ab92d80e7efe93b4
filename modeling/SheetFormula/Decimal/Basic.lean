/-!
Decimal numbers as formulas hold them: exact, with the digits kept as written (`1.50` keeps its
last zero), a sign on every value (zero included), and the special values infinity, NaN and
signalling NaN. Two decimals are equal when sign, digits and exponent agree, so `1.5` and `1.50`
differ.
-/

namespace SheetFormula

inductive Decimal.Magnitude where
  | finite (coefficient : Nat) (exponent : Int)
  | infinity
  | nan (payload : Nat)
  | signalingNan (payload : Nat)
  deriving DecidableEq, Repr

structure Decimal where
  negative : Bool
  magnitude : Decimal.Magnitude
  deriving DecidableEq, Repr

namespace Decimal

def negate (d : Decimal) : Decimal :=
  { d with negative := !d.negative }

@[simp]
theorem negate_negate (d : Decimal) : d.negate.negate = d := by
  simp [negate]

@[simp]
theorem magnitude_negate (d : Decimal) : d.negate.magnitude = d.magnitude := rfl

@[simp]
theorem negative_negate (d : Decimal) : d.negate.negative = !d.negative := rfl

end Decimal

end SheetFormula

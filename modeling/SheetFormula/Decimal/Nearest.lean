import SheetFormula.Decimal.Basic
/-!
The binary64 number nearest to a decimal, as its bits: the ratio scaled to a 53-bit significand,
or to the subnormal scale below the normal range, rounded to nearest with ties to even; decimals
far outside the range are settled from their digit count alone.
-/

namespace SheetFormula.Decimal

def digitCount (n : Nat) : Nat :=
  (Nat.toDigits 10 n).length

def signBit (negative : Bool) : UInt64 :=
  if negative then 0x8000000000000000 else 0

def binaryExponent (n d : Nat) : Int :=
  let t : Int := (n.log2 : Int) - d.log2
  let below := if 0 ≤ t then n < d * Nat.pow 2 t.toNat else n * Nat.pow 2 t.natAbs < d
  if below then t - 1 else t

def roundHalfEven (n d : Nat) : Nat :=
  let q := n / d
  let twice := 2 * (n % d)
  if d < twice ∨ (twice = d ∧ q % 2 = 1) then q + 1 else q

def encodeBits (negative : Bool) (mant : Nat) (q : Int) : UInt64 :=
  let (mant, q) := if mant = Nat.pow 2 53 then (Nat.pow 2 52, q + 1) else (mant, q)
  if 971 < q then signBit negative ||| 0x7FF0000000000000
  else if mant < Nat.pow 2 52 then signBit negative ||| mant.toUInt64
  else signBit negative ||| ((q + 1075).toNat.toUInt64 <<< 52) ||| (mant - Nat.pow 2 52).toUInt64

def nearestRatio (negative : Bool) (n d : Nat) : UInt64 :=
  if n = 0 ∨ d = 0 then signBit negative else
  let t := binaryExponent n d
  if 1023 < t then signBit negative ||| 0x7FF0000000000000 else
  let q := max (t - 52) (-1074)
  let mant :=
    if 0 ≤ q then roundHalfEven n (d * Nat.pow 2 q.toNat)
    else roundHalfEven (n * Nat.pow 2 q.natAbs) d
  encodeBits negative mant q

def nearestBits (negative : Bool) (coefficient : Nat) (exponent : Int) : UInt64 :=
  if coefficient = 0 then signBit negative else
  let adjusted := exponent + digitCount coefficient - 1
  if 310 ≤ adjusted then signBit negative ||| 0x7FF0000000000000
  else if adjusted < -330 then signBit negative
  else if 0 ≤ exponent then
    nearestRatio negative (coefficient * Nat.pow 10 exponent.toNat) 1
  else nearestRatio negative coefficient (Nat.pow 10 exponent.natAbs)

def toFloatBits (d : Decimal) : UInt64 :=
  match d.magnitude with
  | .finite c e => nearestBits d.negative c e
  | .infinity => signBit d.negative ||| 0x7FF0000000000000
  | _ => signBit d.negative ||| 0x7FF8000000000000

example : nearestBits false 15 (-1) = 0x3FF8000000000000 := by decide
example : nearestBits false 1 (-1) = 0x3FB999999999999A := by decide +kernel
example : nearestBits true 0 0 = 0x8000000000000000 := by decide
example : nearestBits false 5 (-324) = 1 := by decide +kernel
example : nearestBits false 17976931348623159 292 = 0x7FF0000000000000 := by decide +kernel

end SheetFormula.Decimal

import SheetFormula.Decimal.Basic
/-!
Decimals of binary numbers. A binary number `m * 2 ^ q` has an exact decimal: its integer value
when it is whole, else `m' * 5 ^ k` with exponent `-k`, where `m' * 2 ^ (-k)` is the number with
`m'` odd.
-/

namespace SheetFormula.Decimal

def reduceBinary (m : Nat) (q : Int) (fuel : Nat) : Nat × Int :=
  match fuel with
  | 0 => (m, q)
  | fuel + 1 => if q < 0 ∧ m % 2 = 0 ∧ m ≠ 0 then reduceBinary (m / 2) (q + 1) fuel else (m, q)

def ofBinary (negative : Bool) (m : Nat) (q : Int) : Decimal :=
  let (m, q) := reduceBinary m q q.natAbs
  if m = 0 then ⟨negative, .finite 0 0⟩
  else if 0 ≤ q then ⟨negative, .finite (m * Nat.pow 2 q.toNat) 0⟩
  else ⟨negative, .finite (m * Nat.pow 5 q.natAbs) q⟩

def ofFloatBits (bits : UInt64) : Decimal :=
  let negative := bits >>> 63 = 1
  let e := ((bits >>> 52) &&& 0x7FF).toNat
  let f := (bits &&& 0xFFFFFFFFFFFFF).toNat
  if e = 0x7FF then ⟨negative, if f = 0 then .infinity else .nan 0⟩
  else if e = 0 then ofBinary negative f (-1074)
  else ofBinary negative (f + Nat.pow 2 52) (e - 1075)

example : ofFloatBits 0x3FF8000000000000 = ⟨false, .finite 15 (-1)⟩ := by decide

example : ofBinary false 3 (-1) = ⟨false, .finite 15 (-1)⟩ := by decide
example : ofBinary true 12 (-2) = ⟨true, .finite 3 0⟩ := by decide

end SheetFormula.Decimal

import SheetFormula.Decimal.Nearest
/-!
The shortest decimal of a binary64 number, and its text: the fewest significant digits whose
decimal reads back to the number, the closer of the two candidates (ties to even) when both do,
written with a point between `10 ^ -4` and `10 ^ 16` and with an exponent otherwise.
-/

namespace SheetFormula.Decimal

def leadingExponent (n d : Nat) : Int :=
  if d ≤ n then (digitCount (n / d) : Int) - 1
  else
    let l := digitCount (d / n) - 1
    if d ≤ n * Nat.pow 10 l then -(l : Int) else -((l : Int) + 1)

def floatRatio (bits : UInt64) : Nat × Nat :=
  let e := ((bits >>> 52) &&& 0x7FF).toNat
  let f := (bits &&& 0xFFFFFFFFFFFFF).toNat
  let (m, q) : Nat × Int := if e = 0 then (f, -1074) else (f + Nat.pow 2 52, (e : Int) - 1075)
  if 0 ≤ q then (m * Nat.pow 2 q.toNat, 1) else (m, Nat.pow 2 q.natAbs)

def shortestFrom (bits : UInt64) (n d : Nat) (t : Int) : Nat → Nat → Nat × Int
  | 0, _ => (0, 0)
  | fuel + 1, k =>
    let p := t - k + 1
    let (num, den) := if 0 ≤ p then (n, d * Nat.pow 10 p.toNat) else (n * Nat.pow 10 p.natAbs, d)
    let c := num / den
    let r := num % den
    let down := nearestBits false c p = bits
    let up := nearestBits false (c + 1) p = bits
    if down ∧ up then
      if 2 * r < den ∨ (2 * r = den ∧ c % 2 = 0) then (c, p) else (c + 1, p)
    else if down then (c, p)
    else if up then (c + 1, p)
    else shortestFrom bits n d t fuel (k + 1)

def shortest (bits : UInt64) : Nat × Int :=
  let (n, d) := floatRatio bits
  shortestFrom bits n d (leadingExponent n d) 17 1

def dropTrailingZeros (ds : List Char) : List Char :=
  match (ds.reverse.dropWhile (· = '0')).reverse with
  | [] => ['0']
  | ds => ds

def exponentText (e : Int) : List Char :=
  let ds := (toString e.natAbs).toList
  (if e < 0 then '-' else '+') :: (if ds.length < 2 then '0' :: ds else ds)

def pointText (ds : List Char) (point : Int) : List Char :=
  if point ≤ -4 ∨ 16 < point then
    let rest := ds.drop 1
    ds.take 1 ++ (if rest = [] then [] else '.' :: rest) ++ 'e' :: exponentText (point - 1)
  else if point ≤ 0 then
    '0' :: '.' :: List.replicate point.natAbs '0' ++ ds
  else if ds.length ≤ point.toNat then
    ds ++ List.replicate (point.toNat - ds.length) '0' ++ ['.', '0']
  else ds.take point.toNat ++ '.' :: ds.drop point.toNat

def floatText (bits : UInt64) : String :=
  let negative := bits >>> 63 = 1
  let sign := if negative then "-" else ""
  let e := (bits >>> 52) &&& 0x7FF
  let f := bits &&& 0xFFFFFFFFFFFFF
  if e = 0x7FF then (if f = 0 then sign ++ "inf" else "nan")
  else if e = 0 ∧ f = 0 then sign ++ "0.0"
  else
    let (c, p) := shortest (bits &&& 0x7FFFFFFFFFFFFFFF)
    let ds := (toString c).toList
    sign ++ String.ofList (pointText (dropTrailingZeros ds) (ds.length + p))

example : floatText 0x3FB999999999999A = "0.1" := by decide +kernel
example : floatText (nearestBits false 1 16) = "1e+16" := by decide +kernel
example : floatText (nearestBits false 1 15) = "1000000000000000.0" := by decide +kernel
example : floatText (nearestBits false 1 (-5)) = "1e-05" := by decide +kernel
example : floatText (nearestBits true 375 (-2)) = "-3.75" := by decide +kernel
example : floatText 1 = "5e-324" := by decide +kernel

end SheetFormula.Decimal

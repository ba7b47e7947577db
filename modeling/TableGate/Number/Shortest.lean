/-
# Shortest decimal text

A floating-point number is written with the fewest digits that read back as the
same number, and of those with the nearest ones. The search walks the decimal
grids from one digit on and tests the two neighbours of the value on each, in
exact arithmetic.

Between 10⁻⁴ and 10¹⁶ the digits are written out, an integral value with `.0`;
elsewhere a signed exponent of at least two digits follows.

Key definitions: `Double.readsBack`, `Double.shortestDigits`, `Double.text`.
-/
import TableGate.Number.Double

namespace TableGate
namespace Double

/-- Compares `a * 10 ^ i` with `n * 2 ^ j`. -/
def compareScaled (a : Nat) (i : Int) (n : Nat) (j : Int) : Ordering :=
  compare (a * Nat.pow 10 i.toNat * Nat.pow 2 (-j).toNat)
    (n * Nat.pow 2 j.toNat * Nat.pow 10 (-i).toNat)

/-- The gap below the number is half the gap above it. -/
def isNarrowBelow (x : Double) : Bool := x.fractionField = 0 && x.exponentField > 1

/-- The decimal `digits * 10 ^ scale` lies among the reals that round to the
size of `x`. -/
def readsBack (x : Double) (digits : Nat) (scale : Int) : Bool :=
  let low := 4 * x.mantissa - (if x.isNarrowBelow then 1 else 2)
  let high := 4 * x.mantissa + 2
  let closed := x.mantissa % 2 = 0
  let atLow := compareScaled digits scale low (x.exponent - 2)
  let atHigh := compareScaled digits scale high (x.exponent - 2)
  (atLow == .gt || (closed && atLow == .eq)) && (atHigh == .lt || (closed && atHigh == .eq))

/-- The value in units of `10 ^ scale`, rounded down. -/
def floorAt (x : Double) (scale : Int) : Nat :=
  x.mantissa * Nat.pow 2 x.exponent.toNat * Nat.pow 10 (-scale).toNat /
    (Nat.pow 2 (-x.exponent).toNat * Nat.pow 10 scale.toNat)

/-- The neighbour of the value on a decimal grid that reads back, the nearer of
two; a tie goes to the even one. -/
def onGrid (x : Double) (scale : Int) : Option Nat :=
  let d := x.floorAt scale
  match x.readsBack d scale, x.readsBack (d + 1) scale with
  | true, false => some d
  | false, true => some (d + 1)
  | false, false => none
  | true, true =>
    match compareScaled (2 * d + 1) scale (2 * x.mantissa) x.exponent with
    | .gt => some d
    | .lt => some (d + 1)
    | .eq => some (if d % 2 = 0 then d else d + 1)

/-- The least `k` from `k` on, within `fuel` steps, with the value below
`10 ^ k`. -/
def leadingScale (x : Double) : Nat → Int → Int
  | 0, k => k
  | fuel + 1, k =>
    if compareScaled 1 k x.mantissa x.exponent == .gt then k else leadingScale x fuel (k + 1)

/-- The first of the grids of 1, 2, … digits, `fuel` of them, with a hit. -/
def searchGrids (x : Double) (k : Int) : Nat → Nat → Nat × Int
  | 0, n => (x.floorAt (k - n), k - n)
  | fuel + 1, n =>
    match x.onGrid (k - n) with
    | some d => (d, k - n)
    | none => searchGrids x k fuel (n + 1)

/-- Moves trailing zeros of the digits into the scale. -/
def stripZeros : Nat → Nat → Int → Nat × Int
  | 0, d, scale => (d, scale)
  | fuel + 1, d, scale =>
    if d ≠ 0 ∧ d % 10 = 0 then stripZeros fuel (d / 10) (scale + 1) else (d, scale)

/-- The fewest digits that read back, and the power of ten of the last one. -/
def shortestDigits (x : Double) : Nat × Int :=
  if x.mantissa = 0 then (0, 0)
  else
    let binary : Int := x.mantissa.log2 + x.exponent
    let start : Int := binary * 30103 / 100000 - 1
    let k := x.leadingScale 4 start
    let r := x.searchGrids k 17 1
    stripZeros 20 r.1 r.2

/-- The digits of a natural number. -/
def digitText (n : Nat) : List Char := Nat.toDigits 10 n

/-- The exponent with its sign and at least two digits. -/
def exponentText (e : Int) : List Char :=
  let digits := digitText e.natAbs
  (if e < 0 then '-' else '+') :: (if digits.length < 2 then '0' :: digits else digits)

/-- Lays out digits with the point after the first `point` of them. -/
def layOut (digits : List Char) (point : Int) : List Char :=
  let exponent := point - 1
  if -4 ≤ exponent ∧ exponent < 16 then
    if point ≤ 0 then '0' :: '.' :: List.replicate (-point).toNat '0' ++ digits
    else if digits.length ≤ point.toNat then
      digits ++ List.replicate (point.toNat - digits.length) '0' ++ ['.', '0']
    else digits.take point.toNat ++ '.' :: digits.drop point.toNat
  else
    match digits with
    | [] => []
    | [d] => d :: 'e' :: exponentText exponent
    | d :: rest => d :: '.' :: rest ++ 'e' :: exponentText exponent

def text (x : Double) : String :=
  if x.isNaN then "nan"
  else
    let sign := if x.isNegative then "-" else ""
    if x.isInfinite then sign ++ "inf"
    else
      let r := x.shortestDigits
      let digits := digitText r.1
      let point := if r.1 = 0 then 1 else digits.length + r.2
      sign ++ String.ofList (layOut digits point)

end Double
end TableGate

/-
# Binary floating point

A 64-bit floating-point number as its bits: sign, eleven bits of exponent,
fifty-two of fraction. Values are made from exact quotients, rounded once to
the nearest number, a tie to the even one; nothing here depends on the
machine's arithmetic.

Key definitions: `Double`, `Double.ofQuotient`, `Double.ofScaled`,
`Double.truncate?`.
-/
namespace TableGate

/-- A floating-point number by its bits. -/
structure Double where
  bits : UInt64
deriving DecidableEq, Repr, Inhabited

namespace Double

/-- The sign bit is set. -/
def isNegative (x : Double) : Bool := x.bits.toNat / Nat.pow 2 63 = 1

/-- The eleven exponent bits. -/
def exponentField (x : Double) : Nat := x.bits.toNat / Nat.pow 2 52 % Nat.pow 2 11

/-- The fifty-two fraction bits. -/
def fractionField (x : Double) : Nat := x.bits.toNat % Nat.pow 2 52

def isNaN (x : Double) : Bool := x.exponentField = 2047 && x.fractionField ≠ 0

/-- One of the two infinities. -/
def isInfinite (x : Double) : Bool := x.exponentField = 2047 && x.fractionField = 0

/-- A number, neither infinite nor NaN. -/
def isFinite (x : Double) : Bool := x.exponentField ≠ 2047

/-- One of the two zeros. -/
def isZero (x : Double) : Bool := x.exponentField = 0 && x.fractionField = 0

/-- A finite number is its mantissa times a power of two. -/
def mantissa (x : Double) : Nat :=
  if x.exponentField = 0 then x.fractionField else Nat.pow 2 52 + x.fractionField

/-- The power of two of a finite number. -/
def exponent (x : Double) : Int :=
  (if x.exponentField = 0 then 1 else (x.exponentField : Int)) - 1075

/-- The size of a finite number as a quotient. -/
def quotient (x : Double) : Nat × Nat :=
  (x.mantissa * Nat.pow 2 x.exponent.toNat, Nat.pow 2 (-x.exponent).toNat)

/-- The number with these fields. -/
def ofFields (negative : Bool) (magnitude : Nat) : Double :=
  ⟨UInt64.ofNat ((if negative then Nat.pow 2 63 else 0) + magnitude)⟩

/-- Positive or negative infinity. -/
def infinity (negative : Bool) : Double := ofFields negative (2047 * Nat.pow 2 52)

/-- The one NaN that is written. -/
def nan : Double := ofFields false (2047 * Nat.pow 2 52 + Nat.pow 2 51)

/-- The quotient rounded to the nearest natural number, a tie to the even one. -/
def roundQuotient (num den : Nat) : Nat :=
  let q := num / den
  let r := num % den
  if 2 * r < den then q
  else if 2 * r > den then q + 1
  else if q % 2 = 0 then q else q + 1

/-- `num / den` divided by `2 ^ q`, rounded. -/
def roundAt (num den : Nat) (q : Int) : Nat :=
  roundQuotient (num * Nat.pow 2 (-q).toNat) (den * Nat.pow 2 q.toNat)

/-- The bits of `m * 2 ^ q`, where `m` has 53 bits, or fewer and `q` is the
least exponent; too large a number is infinite. -/
def pack (negative : Bool) (m : Nat) (q : Int) : Double :=
  if m < Nat.pow 2 52 then ofFields negative m
  else
    let magnitude := (q + 1075).toNat * Nat.pow 2 52 + (m - Nat.pow 2 52)
    if magnitude ≥ 2047 * Nat.pow 2 52 then infinity negative else ofFields negative magnitude

/-- The number nearest to `num / den`. -/
def ofQuotient (negative : Bool) (num den : Nat) : Double :=
  if num = 0 then ofFields negative 0
  else
    let estimate : Int := max ((num.log2 : Int) - den.log2 - 53) (-1074)
    let floor := num * Nat.pow 2 (-estimate).toNat / (den * Nat.pow 2 estimate.toNat)
    let q := if floor ≥ Nat.pow 2 53 then estimate + 1 else estimate
    pack negative (roundAt num den q) q

/-- The number nearest to `coefficient * 10 ^ scale`. Far beyond the range the
power of ten is not computed. -/
def ofScaled (negative : Bool) (coefficient : Nat) (scale : Int) : Double :=
  if coefficient = 0 then ofFields negative 0
  else if scale > 400 then infinity negative
  else if scale < -(400 + (coefficient.log2 : Int)) then ofFields negative 0
  else ofQuotient negative (coefficient * Nat.pow 10 scale.toNat) (Nat.pow 10 (-scale).toNat)

/-- The number nearest to an integer. -/
def ofInt (n : Int) : Double := ofQuotient (n < 0) n.natAbs 1

/-- The integer part of a finite number. -/
def truncate? (x : Double) : Option Int :=
  if x.isFinite then
    let size : Nat := x.quotient.1 / x.quotient.2
    some (if x.isNegative then -(size : Int) else size)
  else none

def isIntegral (x : Double) : Bool :=
  x.isFinite && x.quotient.1 % x.quotient.2 = 0

def isPositive (x : Double) : Bool := !x.isNaN && !x.isZero && !x.isNegative

end Double
end TableGate

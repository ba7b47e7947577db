/-
# Decimal numbers

Decimals of any precision: a sign, a coefficient and a power of ten, which keeps
`1.5` and `1.50` apart; and the special values.

A decimal is read from text in any script's digits, with underscores anywhere
and blanks around it. It is written positionally unless its exponent is positive
or more than six zeros would follow the point.

Key definitions: `Decimal`, `Decimal.read?`, `Decimal.text`, `Decimal.truncate?`,
`Decimal.toDouble?`.
-/
import TableGate.Number.Double
import TableGate.Text.Blank
import TableGate.Text.Case
import TableGate.Text.Digit

namespace TableGate

/-- A decimal number, or one of the special values. A NaN may carry digits, and
a signalling one may not take part in arithmetic. -/
inductive Decimal where
  | finite (negative : Bool) (coefficient : Nat) (exponent : Int)
  | infinite (negative : Bool)
  | nan (negative signalling : Bool) (payload : Nat)
deriving DecidableEq, Repr, Inhabited

namespace Decimal

/-- The values of a row of decimal digits. -/
def digitValues? (cs : List Char) : Option (List Nat) := cs.mapM Text.digitValue?

/-- The number that a row of digit values stands for. -/
def ofDigitValues (ds : List Nat) : Nat := ds.foldl (fun n d => n * 10 + d) 0

/-- The number that a row of decimal digits stands for, zero if there is none. -/
def natural? (cs : List Char) : Option Nat := (digitValues? cs).map ofDigitValues

/-- The largest size of an exponent. -/
def maxExponent : Int := 999999999999999999

/-- The smallest exponent of the last digit. -/
def minLastExponent : Int := -1999999999999999997

/-- Reads the exponent after its mark. -/
def readExponent? : List Char → Option Int
  | '+' :: ds => if ds.isEmpty then none else (natural? ds).map Int.ofNat
  | '-' :: ds => if ds.isEmpty then none else (natural? ds).map fun n => -(n : Int)
  | ds => if ds.isEmpty then none else (natural? ds).map Int.ofNat

/-- Reads digits with an optional point and an optional exponent. -/
def readFinite? (negative : Bool) (cs : List Char) : Option Decimal := do
  let isMark (c : Char) := c == 'e' || c == 'E'
  let number := cs.takeWhile fun c => !isMark c
  let exponent ← match cs.dropWhile fun c => !isMark c with
    | [] => some 0
    | _ :: rest => readExponent? rest
  let whole := number.takeWhile (· != '.')
  let fraction := (number.dropWhile (· != '.')).drop 1
  if whole.isEmpty && fraction.isEmpty then none
  else
    let coefficient ← natural? (whole ++ fraction)
    let last := exponent - fraction.length
    let digits : Int := (Nat.toDigits 10 coefficient).length
    if last + digits - 1 > maxExponent ∨ last < minLastExponent then none
    else some (.finite negative coefficient last)

/-- Reads a special value or a number, without sign and blanks. -/
def readUnsigned? (negative : Bool) (cs : List Char) : Option Decimal :=
  let lowered := cs.map Char.toLower
  if lowered == "inf".toList || lowered == "infinity".toList then some (.infinite negative)
  else if "nan".toList.isPrefixOf lowered then
    (natural? (cs.drop 3)).map fun n => .nan negative false n
  else if "snan".toList.isPrefixOf lowered then
    (natural? (cs.drop 4)).map fun n => .nan negative true n
  else readFinite? negative cs

def read? (s : String) : Option Decimal :=
  match (Text.trimChars s.toList).filter (· != '_') with
  | '-' :: cs => readUnsigned? true cs
  | '+' :: cs => readUnsigned? false cs
  | cs => readUnsigned? false cs

/-- The digits with the point after the first `point` of them, or before them
all with zeros between. -/
def layOut (digits : List Char) (point : Int) : List Char :=
  if point ≤ 0 then '0' :: '.' :: List.replicate (-point).toNat '0' ++ digits
  else if point.toNat ≥ digits.length then
    digits ++ List.replicate (point.toNat - digits.length) '0'
  else digits.take point.toNat ++ '.' :: digits.drop point.toNat

def text : Decimal → String
  | .infinite negative => (if negative then "-" else "") ++ "Infinity"
  | .nan negative signalling payload =>
    (if negative then "-" else "") ++ (if signalling then "sNaN" else "NaN") ++
      (if payload = 0 then "" else toString payload)
  | .finite negative coefficient exponent =>
    let digits := Nat.toDigits 10 coefficient
    let left : Int := exponent + digits.length
    let point := if exponent ≤ 0 ∧ left > -6 then left else 1
    let mark :=
      if left = point then ""
      else if left - point < 0 then "E" ++ toString (left - point)
      else "E+" ++ toString (left - point)
    (if negative then "-" else "") ++ String.ofList (layOut digits point) ++ mark

/-- The integer part of a finite decimal. -/
def truncate? : Decimal → Option Int
  | .finite negative coefficient exponent =>
    let size : Nat := coefficient * Nat.pow 10 exponent.toNat / Nat.pow 10 (-exponent).toNat
    some (if negative then -(size : Int) else size)
  | _ => none

def isIntegral : Decimal → Bool
  | .finite _ coefficient exponent => coefficient % Nat.pow 10 (-exponent).toNat = 0
  | _ => false

/-- Zero, whatever its sign and exponent. -/
def isZero : Decimal → Bool
  | .finite _ coefficient _ => coefficient = 0
  | _ => false

/-- The nearest floating-point number; a signalling NaN has none. -/
def toDouble? : Decimal → Option Double
  | .finite negative coefficient exponent => some (.ofScaled negative coefficient exponent)
  | .infinite negative => some (.infinity negative)
  | .nan _ signalling _ => if signalling then none else some .nan

end Decimal
end TableGate

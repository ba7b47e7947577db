/-
# Numbers read from text

Integers and floating-point numbers in the digits of any script, with blanks
around them (the information separators do not count as blanks here), an
optional sign, and single underscores between digits. Integers of more than 4300
digits are refused.

Key definitions: `Number.readInt?`, `Number.readDouble?`.
-/
import TableGate.Number.Decimal

namespace TableGate
namespace Number

/-- The most digits an integer may have when it is read from or written to text. -/
def maxDigits : Nat := 4300

/-- A blank that may stand around a number. -/
def isMargin (c : Char) : Bool := Text.isBlank c && !(0x1C ≤ c.toNat && c.toNat ≤ 0x1F)

/-- The characters of a text without the blanks around them. -/
def inner (s : String) : List Char := Text.dropEndWhile isMargin (s.toList.dropWhile isMargin)

/-- The digits of a row in which single underscores may stand between two
digits. -/
def groupedDigits? : List Char → Option (List Nat)
  | [] => none
  | [c] => (Text.digitValue? c).map fun d => [d]
  | c :: '_' :: rest => do
    let d ← Text.digitValue? c
    let ds ← groupedDigits? rest
    pure (d :: ds)
  | c :: rest => do
    let d ← Text.digitValue? c
    let ds ← groupedDigits? rest
    pure (d :: ds)

/-- Reads an integer without sign and blanks. -/
def readNatural? (cs : List Char) : Option Nat := do
  let ds ← groupedDigits? cs
  if ds.length > maxDigits then none else some (Decimal.ofDigitValues ds)

def readInt? (s : String) : Option Int :=
  match inner s with
  | '-' :: cs => (readNatural? cs).map fun n => -(n : Int)
  | '+' :: cs => (readNatural? cs).map Int.ofNat
  | cs => (readNatural? cs).map Int.ofNat

/-- Grouped digits, or none at all. -/
def optionalDigits? (cs : List Char) : Option (List Nat) :=
  if cs.isEmpty then some [] else groupedDigits? cs

/-- Reads the exponent after its mark. -/
def readExponent? : List Char → Option Int
  | '-' :: cs => (groupedDigits? cs).map fun ds => -(Decimal.ofDigitValues ds : Int)
  | '+' :: cs => (groupedDigits? cs).map fun ds => Int.ofNat (Decimal.ofDigitValues ds)
  | cs => (groupedDigits? cs).map fun ds => Int.ofNat (Decimal.ofDigitValues ds)

/-- Reads a floating-point number without sign and blanks. -/
def readUnsignedDouble? (negative : Bool) (cs : List Char) : Option Double := do
  let lowered := cs.map Char.toLower
  if lowered == "inf".toList || lowered == "infinity".toList then some (.infinity negative)
  else if lowered == "nan".toList then some .nan
  else
    let isMark (c : Char) := c == 'e' || c == 'E'
    let number := cs.takeWhile fun c => !isMark c
    let exponent ← match cs.dropWhile fun c => !isMark c with
      | [] => some 0
      | _ :: rest => readExponent? rest
    let whole ← optionalDigits? (number.takeWhile (· != '.'))
    let fraction ← optionalDigits? ((number.dropWhile (· != '.')).drop 1)
    if whole.isEmpty && fraction.isEmpty then none
    else
      some (.ofScaled negative (Decimal.ofDigitValues (whole ++ fraction))
        (exponent - fraction.length))

/-- Reads a floating-point number. -/
def readDouble? (s : String) : Option Double :=
  match inner s with
  | '-' :: cs => readUnsignedDouble? true cs
  | '+' :: cs => readUnsignedDouble? false cs
  | cs => readUnsignedDouble? false cs

end Number
end TableGate

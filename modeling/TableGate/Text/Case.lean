/-
# Letter case

Full case conversion: a character may become several, and a capital sigma at
the end of a word takes its final form.

Key definitions: `Text.lower`, `Text.upper`.
-/
import TableGate.Text.CaseTable

namespace TableGate
namespace Text

def isCased (c : Char) : Bool :=
  if c.toNat < 128 then c.isAlpha else inRanges casedRanges c.toNat

/-- Skipped when the neighbours of a capital sigma are looked up. -/
def isCaseIgnorable (c : Char) : Bool := inRanges caseIgnorableRanges c.toNat

/-- The nearest character that counts has a case. -/
def casedNeighbour (cs : List Char) : Bool :=
  match cs.dropWhile isCaseIgnorable with
  | [] => false
  | c :: _ => isCased c

/-- The lower case of a character other than the capital sigma. -/
def lowerChar (c : Char) : List Char :=
  if c.toNat < 128 then [c.toLower]
  else if c.toNat = 0x130 then ['i', Char.ofNat 0x307]
  else match Run.find? lowerRuns c.toNat with
    | some n => [Char.ofNat n]
    | none => [c]

/-- The lower case of the characters, given those before them, nearest first. -/
def lowerFrom (before : List Char) : List Char → List Char
  | [] => []
  | c :: cs =>
    if c.toNat = 0x3A3 then
      let last := casedNeighbour before && !casedNeighbour cs
      Char.ofNat (if last then 0x3C2 else 0x3C3) :: lowerFrom (c :: before) cs
    else lowerChar c ++ lowerFrom (c :: before) cs

/-- The text in lower case. -/
def lower (s : String) : String := String.ofList (lowerFrom [] s.toList)

/-- The upper case of a character. -/
def upperChar (c : Char) : List Char :=
  if c.toNat < 128 then [c.toUpper]
  else match longUpper.find? fun p => p.1 == c.toNat with
    | some p => p.2.map Char.ofNat
    | none => match Run.find? upperRuns c.toNat with
      | some n => [Char.ofNat n]
      | none => [c]

/-- The text in upper case. -/
def upper (s : String) : String := String.ofList (s.toList.flatMap upperChar)

end Text
end TableGate

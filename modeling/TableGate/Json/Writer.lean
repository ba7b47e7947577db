/-
# Values as JSON texts

Two layouts of one grammar: the one that parameters are bound in, with blanks
after separators and nothing but ASCII, and the one that responses are written
in, without blanks and with all characters as they are. Only what JSON has can
be written: null, booleans, numbers, texts, lists and mappings.

Key definitions: `Json.Layout`, `Json.write`, `Json.parameterLayout`,
`Json.responseLayout`.
-/
import TableGate.Error.Fault

namespace TableGate
namespace Json

/-- How a JSON text is laid out. -/
structure Layout where
  itemGap : String
  keyGap : String
  asciiOnly : Bool
  /-- Numbers that are none, and infinite ones, may be written. -/
  allowsNonFinite : Bool

/-- Parameters: blanks after separators, ASCII only. -/
def parameterLayout : Layout := ⟨", ", ": ", true, true⟩

/-- Responses: no blanks, all characters as they are, finite numbers only. -/
def responseLayout : Layout := ⟨",", ":", false, false⟩

/-- A code unit as an escape of four digits. -/
def unitEscape (n : Nat) : List Char := '\\' :: 'u' :: Text.hexFixed 4 n

/-- A character as one escape, or as one for each of its halves. -/
def unicodeEscape (c : Char) : List Char :=
  let n := c.toNat
  if n < 0x10000 then unitEscape n
  else
    unitEscape (0xD800 + (n - 0x10000) / 0x400) ++ unitEscape (0xDC00 + (n - 0x10000) % 0x400)

/-- A character inside a string. -/
def writtenChar (asciiOnly : Bool) (c : Char) : List Char :=
  if c = '"' ∨ c = '\\' then ['\\', c]
  else if c = '\n' then ['\\', 'n']
  else if c = '\r' then ['\\', 'r']
  else if c = '\t' then ['\\', 't']
  else if c = '\x08' then ['\\', 'b']
  else if c = '\x0c' then ['\\', 'f']
  else if c.toNat < 0x20 then unitEscape c.toNat
  else if asciiOnly ∧ c.toNat > 0x7E then unicodeEscape c
  else [c]

def writeString (asciiOnly : Bool) (s : String) : String :=
  String.ofList ('"' :: s.toList.flatMap (writtenChar asciiOnly) ++ ['"'])

/-- A floating-point number. -/
def writeDouble (layout : Layout) (x : Double) : Except Fault String :=
  if x.isFinite then .ok x.text
  else if !layout.allowsNonFinite then .error (.refused .unreadable)
  else if x.isNaN then .ok "NaN"
  else .ok (if x.isNegative then "-Infinity" else "Infinity")

mutual

/-- The JSON text of a value. -/
def write (layout : Layout) : Value → Except Fault String
  | .null => .ok "null"
  | .bool b => .ok (if b then "true" else "false")
  | .int n =>
    if (Value.int n).isTooLong then .error (.refused .unreadable) else .ok (toString n)
  | .float x => writeDouble layout x
  | .text s => .ok (writeString layout.asciiOnly s)
  | .list items | .tuple items => do
    pure ("[" ++ Text.join layout.itemGap (← writeItems layout items) ++ "]")
  | .mapping entries => do
    pure ("\x7b" ++ Text.join layout.itemGap (← writeEntries layout entries) ++ "\x7d")
  | _ => .error .wrongType

/-- The texts of the items of a list. -/
def writeItems (layout : Layout) : List Value → Except Fault (List String)
  | [] => .ok []
  | v :: vs => do
    let s ← write layout v
    let rest ← writeItems layout vs
    pure (s :: rest)

/-- The texts of the entries of a mapping. -/
def writeEntries (layout : Layout) : List (String × Value) → Except Fault (List String)
  | [] => .ok []
  | (name, v) :: es => do
    let s ← write layout v
    let rest ← writeEntries layout es
    pure ((writeString layout.asciiOnly name ++ layout.keyGap ++ s) :: rest)

end

end Json
end TableGate

/-
# JSON texts read

A JSON text as a value: objects keep the order of their keys, the last value of
a repeated key counts, integers are exact, and `NaN` and the infinities are let
through. The first thing that is wrong with a text is named.

Bytes are read as UTF-8, UTF-16 or UTF-32, told apart by the byte order mark or by
where the first bytes are zero.

Key definitions: `Json.readString`, `Json.readNumber`, `Json.readValue`,
`Json.read`, `Json.readBytes`.
-/
import TableGate.Error.Fault

namespace TableGate
namespace Json

/-- A fault in a JSON text. -/
def bad {α : Type} (why : JsonIssue) : Except Fault α := .error (.malformedJson why)

/-- A blank between the parts of a text. -/
def isGap (c : Char) : Bool := c == ' ' || c == '\t' || c == '\n' || c == '\r'

/-- The text without blanks in front. -/
def skipGap (cs : List Char) : List Char := cs.dropWhile isGap

/-- The character that an escape of one letter stands for. -/
def plainEscape? (c : Char) : Option Char :=
  if c = '"' ∨ c = '\\' ∨ c = '/' then some c
  else if c = 'b' then some '\x08'
  else if c = 'f' then some '\x0c'
  else if c = 'n' then some '\n'
  else if c = 'r' then some '\r'
  else if c = 't' then some '\t'
  else none

/-- The number in four hexadecimal digits with more text behind them. -/
def readUnit? : List Char → Option (Nat × List Char)
  | a :: b :: c :: d :: e :: rest => do
    let n ← Text.hexNumber? [a, b, c, d]
    pure (n, e :: rest)
  | _ => none

/-- A code unit that stands for the first half of a character. -/
def isHighHalf (n : Nat) : Bool := 0xD800 ≤ n && n ≤ 0xDBFF

/-- A code unit that stands for the second half of a character. -/
def isLowHalf (n : Nat) : Bool := 0xDC00 ≤ n && n ≤ 0xDFFF

/-- Reads the digits of an escape and, behind a first half, the second one; a
half alone becomes U+FFFD. -/
def readUnicodeEscape (cs : List Char) : Except Fault (Char × List Char) :=
  match readUnit? cs with
  | none => bad .unicodeEscape
  | some (n, rest) =>
    let alone := (if isHighHalf n || isLowHalf n then Char.ofNat 0xFFFD else Char.ofNat n, rest)
    if isHighHalf n then
      match rest with
      | '\\' :: 'u' :: more =>
        if more.length < 5 then .ok alone
        else match readUnit? more with
          | none => bad .unicodeEscape
          | some (m, rest) =>
            if isLowHalf m then
              .ok (Char.ofNat (0x10000 + (n - 0xD800) * 0x400 + (m - 0xDC00)), rest)
            else .ok alone
      | _ => .ok alone
    else .ok alone

/-- Reads a string after its opening quote; `fuel` bounds the number of its
characters. -/
def readString : Nat → List Char → Except Fault (List Char × List Char)
  | 0, _ => bad .unterminated
  | _ + 1, [] => bad .unterminated
  | fuel + 1, c :: cs =>
    if c = '"' then .ok ([], cs)
    else if c = '\\' then
      match cs with
      | [] => bad .unterminated
      | 'u' :: digits => do
        let (x, rest) ← readUnicodeEscape digits
        let (text, rest) ← readString fuel rest
        pure (x :: text, rest)
      | e :: rest =>
        match plainEscape? e with
        | none => bad .escape
        | some x => do
          let (text, rest) ← readString fuel rest
          pure (x :: text, rest)
    else if c.toNat < 0x20 then bad .controlCharacter
    else do
      let (text, rest) ← readString fuel cs
      pure (c :: text, rest)

/-- The fraction at the front, with its point. -/
def fractionAt (cs : List Char) : List Char × List Char :=
  match cs with
  | '.' :: rest =>
    let digits := rest.takeWhile Text.isAsciiDigit
    if digits.isEmpty then ([], cs) else ('.' :: digits, rest.dropWhile Text.isAsciiDigit)
  | _ => ([], cs)

/-- The exponent at the front, with its mark and sign. -/
def exponentAt (cs : List Char) : List Char × List Char :=
  match cs with
  | mark :: rest =>
    if mark = 'e' ∨ mark = 'E' then
      let sign := (rest.take 1).filter fun c => c == '+' || c == '-'
      let after := rest.drop sign.length
      let digits := after.takeWhile Text.isAsciiDigit
      if digits.isEmpty then ([], cs)
      else (mark :: sign ++ digits, after.dropWhile Text.isAsciiDigit)
    else ([], cs)
  | [] => ([], cs)

/-- Reads a number: an integer, unless it has a fraction or an exponent. -/
def readNumber (cs : List Char) : Except Fault (Value × List Char) :=
  let sign := (cs.take 1).filter (· == '-')
  let body := cs.drop sign.length
  let whole := match body with
    | '0' :: _ => ['0']
    | _ => body.takeWhile Text.isAsciiDigit
  if whole.isEmpty then bad .value
  else
    let (fraction, rest) := fractionAt (body.drop whole.length)
    let (exponent, rest) := exponentAt rest
    let text := String.ofList (sign ++ whole ++ fraction ++ exponent)
    if fraction.isEmpty && exponent.isEmpty then
      match Number.readInt? text with
      | some n => .ok (.int n, rest)
      | none => .error (.refused .unreadable)
    else .ok (.float ((Number.readDouble? text).getD .nan), rest)

def words : List (String × Value) :=
  [("null", .null), ("true", .bool true), ("false", .bool false), ("NaN", .float .nan),
   ("Infinity", .float (.infinity false)), ("-Infinity", .float (.infinity true))]

/-- The word at the front, if it is a value. -/
def wordAt? (cs : List Char) : Option (Value × List Char) :=
  (words.find? fun w => w.1.toList.isPrefixOf cs).map fun w => (w.2, cs.drop w.1.length)

mutual

/-- Reads the value at the front, without blanks before it. -/
def readValue : Nat → List Char → Except Fault (Value × List Char)
  | 0, _ => bad .value
  | fuel + 1, cs =>
    match cs with
    | '"' :: rest => do
      let (text, rest) ← readString (rest.length + 1) rest
      pure (.text (String.ofList text), rest)
    | '\x7b' :: rest =>
      match skipGap rest with
      | '\x7d' :: rest => .ok (.mapping [], rest)
      | rest => do
        let (entries, rest) ← readEntries fuel [] rest
        pure (.mapping entries, rest)
    | '[' :: rest =>
      match skipGap rest with
      | ']' :: rest => .ok (.list [], rest)
      | rest => do
        let (items, rest) ← readItems fuel rest
        pure (.list items, rest)
    | cs =>
      match wordAt? cs with
      | some r => .ok r
      | none => readNumber cs

/-- Reads the items of an array up to its closing bracket. -/
def readItems : Nat → List Char → Except Fault (List Value × List Char)
  | 0, _ => bad .value
  | fuel + 1, cs => do
    let (item, rest) ← readValue fuel cs
    match skipGap rest with
    | ']' :: rest => pure ([item], rest)
    | ',' :: rest => do
      let (items, rest) ← readItems fuel (skipGap rest)
      pure (item :: items, rest)
    | _ => bad .comma

/-- Reads the entries of an object up to its closing brace, behind the ones that
are read. -/
def readEntries : Nat → List (String × Value) → List Char →
    Except Fault (List (String × Value) × List Char)
  | 0, _, _ => bad .value
  | fuel + 1, before, cs =>
    match cs with
    | '"' :: rest => do
      let (name, rest) ← readString (rest.length + 1) rest
      match skipGap rest with
      | ':' :: rest => do
        let (value, rest) ← readValue fuel (skipGap rest)
        let entries := Value.insert before (String.ofList name) value
        match skipGap rest with
        | '\x7d' :: rest => pure (entries, rest)
        | ',' :: rest => readEntries fuel entries (skipGap rest)
        | _ => bad .comma
      | _ => bad .colon
    | _ => bad .propertyName

end

/-- Reads a whole text. -/
def readChars (cs : List Char) : Except Fault Value := do
  let (value, rest) ← readValue (cs.length + 1) (skipGap cs)
  if (skipGap rest).isEmpty then pure value else bad .extraData

/-- Reads a text, which must not begin with a byte order mark. -/
def read (s : String) : Except Fault Value :=
  if s.toList.head? = some (Char.ofNat 0xFEFF) then bad .byteOrderMark else readChars s.toList

/-- The text that the bytes of a JSON text are. -/
def decode? (bytes : List UInt8) : Option String :=
  let isZero (i : Nat) : Bool := (bytes[i]?).any (· == 0)
  let begins (mark : List UInt8) : Bool := mark.isPrefixOf bytes
  if begins [0, 0, 0xFE, 0xFF] then Text.decodeUtf32? true (bytes.drop 4)
  else if begins [0xFF, 0xFE, 0, 0] then Text.decodeUtf32? false (bytes.drop 4)
  else if begins [0xFE, 0xFF] then Text.decodeUtf16? true (bytes.drop 2)
  else if begins [0xFF, 0xFE] then Text.decodeUtf16? false (bytes.drop 2)
  else if begins [0xEF, 0xBB, 0xBF] then Text.decodeUtf8? (bytes.drop 3)
  else if bytes.length ≥ 4 ∧ isZero 0 then
    if isZero 1 then Text.decodeUtf32? true bytes else Text.decodeUtf16? true bytes
  else if bytes.length ≥ 4 ∧ isZero 1 then
    if isZero 2 && isZero 3 then Text.decodeUtf32? false bytes else Text.decodeUtf16? false bytes
  else if bytes.length = 2 ∧ isZero 0 then Text.decodeUtf16? true bytes
  else if bytes.length = 2 ∧ isZero 1 then Text.decodeUtf16? false bytes
  else Text.decodeUtf8? bytes

/-- Reads the bytes of a text. -/
def readBytes (bytes : List UInt8) : Except Fault Value :=
  match decode? bytes with
  | some s => readChars s.toList
  | none => .error .undecodable

end Json
end TableGate

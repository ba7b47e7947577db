/-
# Bytes as text

UTF-8 in two readings: one that refuses bytes that are no text, and one that
puts U+FFFD in place of each piece that cannot be read. UTF-16 and UTF-32 are
read for request bodies.

Key definitions: `Text.encodeUtf8`, `Text.decodeUtf8?`, `Text.decodeUtf8Lossy`,
`Text.decodeUtf16?`, `Text.decodeUtf32?`.
-/
namespace TableGate
namespace Text

/-- The UTF-8 bytes of a text. -/
def encodeUtf8 (s : String) : List UInt8 := s.toUTF8.toList

/-- What stands at the front of a row of bytes: a character and the bytes after
it, or a piece that cannot be read and the bytes after that. -/
inductive Front where
  | char (c : Char) (rest : List UInt8)
  | broken (rest : List UInt8)

/-- The bounds of the second byte after a lead byte, which rule out overlong
forms, surrogates and code points beyond the last. -/
def secondBounds (lead : Nat) : Nat × Nat :=
  if lead = 0xE0 then (0xA0, 0xBF)
  else if lead = 0xED then (0x80, 0x9F)
  else if lead = 0xF0 then (0x90, 0xBF)
  else if lead = 0xF4 then (0x80, 0x8F)
  else (0x80, 0xBF)

/-- Reads `more` continuation bytes after the value `n`. -/
def continuation (n : Nat) : Nat → List UInt8 → Front
  | 0, rest => .char (Char.ofNat n) rest
  | _ + 1, [] => .broken []
  | more + 1, b :: rest =>
    if 0x80 ≤ b.toNat ∧ b.toNat ≤ 0xBF then continuation (n * 64 + (b.toNat - 0x80)) more rest
    else .broken (b :: rest)

/-- Reads the second byte of a character of `more + 1` further bytes. -/
def secondByte (lead n more : Nat) : List UInt8 → Front
  | [] => .broken []
  | b :: rest =>
    let bounds := secondBounds lead
    if bounds.1 ≤ b.toNat ∧ b.toNat ≤ bounds.2 then
      continuation (n * 64 + (b.toNat - 0x80)) more rest
    else .broken (b :: rest)

/-- Reads the character at the front after its lead byte. -/
def frontAfter (lead : UInt8) (rest : List UInt8) : Front :=
  let b := lead.toNat
  if b < 0x80 then .char (Char.ofNat b) rest
  else if b < 0xC2 then .broken rest
  else if b < 0xE0 then secondByte b (b - 0xC0) 0 rest
  else if b < 0xF0 then secondByte b (b - 0xE0) 1 rest
  else if b < 0xF5 then secondByte b (b - 0xF0) 2 rest
  else .broken rest

/-- Reads bytes as text, with U+FFFD for what cannot be read; the flag tells
whether there was such a piece. `fuel` bounds the number of pieces. -/
def decodePieces : Nat → List UInt8 → List Char × Bool
  | 0, _ => ([], false)
  | _ + 1, [] => ([], false)
  | fuel + 1, b :: bs =>
    match frontAfter b bs with
    | .char c rest => let r := decodePieces fuel rest; (c :: r.1, r.2)
    | .broken rest => ((Char.ofNat 0xFFFD) :: (decodePieces fuel rest).1, true)

/-- The text that the bytes are, if they are text. -/
def decodeUtf8? (bytes : List UInt8) : Option String :=
  let r := decodePieces bytes.length bytes
  if r.2 then none else some (String.ofList r.1)

/-- The text that the bytes are, with U+FFFD for each piece that is none. -/
def decodeUtf8Lossy (bytes : List UInt8) : String :=
  String.ofList (decodePieces bytes.length bytes).1

/-- The numbers that pairs of bytes stand for. -/
def pairUnits (bigEndian : Bool) : List UInt8 → Option (List Nat)
  | [] => some []
  | [_] => none
  | a :: b :: rest =>
    (pairUnits bigEndian rest).map fun us =>
      (if bigEndian then a.toNat * 256 + b.toNat else b.toNat * 256 + a.toNat) :: us

/-- The characters of a row of 16-bit units; a lone surrogate becomes U+FFFD. -/
def charsOfUnits : List Nat → List Char
  | [] => []
  | [u] => [if 0xD800 ≤ u ∧ u ≤ 0xDFFF then Char.ofNat 0xFFFD else Char.ofNat u]
  | u :: v :: rest =>
    if 0xD800 ≤ u ∧ u ≤ 0xDBFF ∧ 0xDC00 ≤ v ∧ v ≤ 0xDFFF then
      Char.ofNat (0x10000 + (u - 0xD800) * 0x400 + (v - 0xDC00)) :: charsOfUnits rest
    else
      (if 0xD800 ≤ u ∧ u ≤ 0xDFFF then Char.ofNat 0xFFFD else Char.ofNat u) ::
        charsOfUnits (v :: rest)

/-- Reads UTF-16 bytes. -/
def decodeUtf16? (bigEndian : Bool) (bytes : List UInt8) : Option String :=
  (pairUnits bigEndian bytes).map fun us => String.ofList (charsOfUnits us)

/-- Reads UTF-32 bytes, four a character. -/
def decodeUtf32Chars? (bigEndian : Bool) : List UInt8 → Option (List Char)
  | [] => some []
  | a :: b :: c :: d :: rest =>
    let n := if bigEndian then ((a.toNat * 256 + b.toNat) * 256 + c.toNat) * 256 + d.toNat
      else ((d.toNat * 256 + c.toNat) * 256 + b.toNat) * 256 + a.toNat
    if n < 0x110000 then
      (decodeUtf32Chars? bigEndian rest).map fun cs =>
        (if 0xD800 ≤ n ∧ n ≤ 0xDFFF then Char.ofNat 0xFFFD else Char.ofNat n) :: cs
    else none
  | _ => none

/-- Reads UTF-32 bytes. -/
def decodeUtf32? (bigEndian : Bool) (bytes : List UInt8) : Option String :=
  (decodeUtf32Chars? bigEndian bytes).map String.ofList

end Text
end TableGate

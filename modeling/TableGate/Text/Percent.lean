/-
# Percent-encoding

Escapes of two hexadecimal digits in paths and query strings. An escape that is
not well formed stays as it is.

Key definitions: `Text.unescapePercent`, `Text.escapePercent`, `Text.queryPairs`.
-/
import TableGate.Text.Cut
import TableGate.Text.Hex
import TableGate.Text.Utf8

namespace TableGate
namespace Text

/-- The bytes of a text with its escapes undone. -/
def unescapeBytes : List Char → List UInt8
  | [] => []
  | '%' :: a :: b :: rest =>
    match hexValue? a, hexValue? b with
    | some high, some low => UInt8.ofNat (high * 16 + low) :: unescapeBytes rest
    | _, _ => UInt8.ofNat 37 :: unescapeBytes (a :: b :: rest)
  | c :: rest => encodeUtf8 (String.singleton c) ++ unescapeBytes rest

/-- The text with its escapes undone, with U+FFFD for bytes that are no text. -/
def unescapePercent (s : String) : String := decodeUtf8Lossy (unescapeBytes s.toList)

/-- The text with every byte escaped whose character is not in `safe`. -/
def escapePercent (safe : Char → Bool) (s : String) : String :=
  String.ofList <| (encodeUtf8 s).flatMap fun b =>
    let c := Char.ofNat b.toNat
    if b.toNat < 128 && safe c then [c] else '%' :: (hexFixed 2 b.toNat).map Char.toUpper

/-- One component of a query string: a plus is a space, escapes are undone. -/
def queryText (cs : List Char) : String :=
  unescapePercent (String.ofList (cs.map fun c => if c = '+' then ' ' else c))

/-- The pairs of a query string: pieces between ampersands, empty ones dropped,
each cut at its first equals sign. -/
def queryPairs (query : String) : List (String × String) :=
  ((splitChars '&' query.toList).filter fun piece => !piece.isEmpty).map fun piece =>
    match cutFirstChars? '=' piece with
    | some (name, value) => (queryText name, queryText value)
    | none => (queryText piece, "")

end Text
end TableGate

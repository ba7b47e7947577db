/-
# Quoted text

How a text or a row of bytes is shown inside a message: in single quotes, or in
double quotes if it holds a single quote and no double quote, with what cannot
be printed escaped.

Key definitions: `Text.quoted`, `Text.quotedBytes`.
-/
import TableGate.Text.Hex
import TableGate.Text.Printable

namespace TableGate
namespace Text

/-- The quote that is used around text with these characters. -/
def quoteFor (cs : List Char) : Char :=
  if cs.contains '\'' && !cs.contains '"' then '"' else '\''

/-- A character as it stands between `quote` marks. -/
def quotedChar (quote c : Char) : List Char :=
  if c == quote || c == '\\' then ['\\', c]
  else if c == '\n' then ['\\', 'n']
  else if c == '\r' then ['\\', 'r']
  else if c == '\t' then ['\\', 't']
  else if isPrintable c then [c]
  else if c.toNat < 0x100 then '\\' :: 'x' :: hexFixed 2 c.toNat
  else if c.toNat < 0x10000 then '\\' :: 'u' :: hexFixed 4 c.toNat
  else '\\' :: 'U' :: hexFixed 8 c.toNat

def quoted (s : String) : String :=
  let q := quoteFor s.toList
  String.ofList (q :: s.toList.flatMap (quotedChar q) ++ [q])

/-- The bytes in quotes after a `b`; bytes beyond ASCII are escaped. -/
def quotedBytes (bytes : List UInt8) : String :=
  let cs := bytes.map fun b => Char.ofNat b.toNat
  let q := quoteFor cs
  let shown (c : Char) :=
    if c.toNat < 128 then quotedChar q c else '\\' :: 'x' :: hexFixed 2 c.toNat
  String.ofList ('b' :: q :: cs.flatMap shown ++ [q])

end Text
end TableGate

/-
# Cutting and searching text

Splitting at a character, the piece before the first or the last copy of it,
and the search for a piece of text.

Key definitions: `Text.splitAt`, `Text.cutFirst?`, `Text.cutLast?`,
`Text.contains`, `Text.double`.
-/
namespace TableGate
namespace Text

/-- The pieces between the copies of `c`; there is one more than copies. -/
def splitChars (c : Char) : List Char → List (List Char)
  | [] => [[]]
  | x :: xs =>
    if x = c then [] :: splitChars c xs
    else match splitChars c xs with
      | [] => [[x]]
      | p :: ps => (x :: p) :: ps

/-- The pieces of a text between the copies of `c`. -/
def splitAt (c : Char) (s : String) : List String := (splitChars c s.toList).map String.ofList

/-- The text before the first `c` and the text after it. -/
def cutFirstChars? (c : Char) : List Char → Option (List Char × List Char)
  | [] => none
  | x :: xs =>
    if x = c then some ([], xs)
    else (cutFirstChars? c xs).map fun p => (x :: p.1, p.2)

/-- The text before the last `c` and the text after it. -/
def cutLastChars? (c : Char) : List Char → Option (List Char × List Char)
  | [] => none
  | x :: xs =>
    match cutLastChars? c xs with
    | some p => some (x :: p.1, p.2)
    | none => if x = c then some ([], xs) else none

/-- The text before the first `c` and the text after it. -/
def cutFirst? (c : Char) (s : String) : Option (String × String) :=
  (cutFirstChars? c s.toList).map fun p => (String.ofList p.1, String.ofList p.2)

/-- The text before the last `c` and the text after it. -/
def cutLast? (c : Char) (s : String) : Option (String × String) :=
  (cutLastChars? c s.toList).map fun p => (String.ofList p.1, String.ofList p.2)

/-- The characters `piece` stand somewhere in the text. -/
def containsChars (piece : List Char) : List Char → Bool
  | [] => piece.isEmpty
  | x :: xs => piece.isPrefixOf (x :: xs) || containsChars piece xs

/-- `piece` stands somewhere in `s`. -/
def contains (s piece : String) : Bool := containsChars piece.toList s.toList

/-- `s` begins with `piece`. -/
def startsWith (s piece : String) : Bool := piece.toList.isPrefixOf s.toList

def endsWith (s piece : String) : Bool := piece.toList.isSuffixOf s.toList

/-- The characters with every `c` written twice. -/
def doubleChars (c : Char) : List Char → List Char
  | [] => []
  | x :: xs => if x = c then c :: c :: doubleChars c xs else x :: doubleChars c xs

/-- The text with every `c` written twice. -/
def double (c : Char) (s : String) : String := String.ofList (doubleChars c s.toList)

/-- The texts one after another with `between` in the gaps. -/
def join (between : String) : List String → String
  | [] => ""
  | [s] => s
  | s :: t :: rest => s ++ between ++ join between (t :: rest)

end Text
end TableGate

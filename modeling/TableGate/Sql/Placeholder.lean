/-
# Positional parameters

A driver that binds parameters by position takes `%s` in place of `@param0`,
`@param1`, …, and then reads every other percent sign as the start of a mark, so
these are doubled.

A placeholder is `@param` and the longest row of digits after it, where the row
ends at the edge of a word. Its number says which parameter is bound there; one
parameter may be bound several times, but no number below the highest may be
missing.

Key definitions: `Sql.Lexeme`, `Sql.lexPlaceholders`, `Sql.bindByPosition`.
-/
import TableGate.Error.Fault
import TableGate.Text.WordChar

namespace TableGate
namespace Sql

/-- A character of a statement, or a placeholder with the digits of its
number. -/
inductive Lexeme where
  | char (c : Char)
  | slot (digits : List Char)
deriving DecidableEq, Repr

/-- What stands before the number of a placeholder. -/
def placeholderMark : List Char := ['@', 'p', 'a', 'r', 'a', 'm']

/-- The placeholder at the front: its digits and the text after it. -/
def placeholderAt? (cs : List Char) : Option (List Char × List Char) :=
  if placeholderMark.isPrefixOf cs then
    let rest := cs.drop 6
    let digits := rest.takeWhile Text.isDigit
    let after := rest.dropWhile Text.isDigit
    if digits.isEmpty || (after.head?.any Text.isWordChar) then none else some (digits, after)
  else none

/-- Reads a statement from the left; `fuel` is at least its length. -/
def lexFrom : Nat → List Char → List Lexeme
  | 0, _ => []
  | _ + 1, [] => []
  | fuel + 1, c :: cs =>
    match placeholderAt? (c :: cs) with
    | some (digits, after) => .slot digits :: lexFrom fuel after
    | none => .char c :: lexFrom fuel cs

/-- The characters and placeholders of a statement, from the left. -/
def lexPlaceholders (cs : List Char) : List Lexeme := lexFrom cs.length cs

/-- A character or a placeholder as the driver takes it. -/
def Lexeme.positional : Lexeme → List Char
  | .char c => if c = '%' then ['%', '%'] else [c]
  | .slot _ => ['%', 's']

/-- The digits of the placeholders, in order. -/
def slotDigits : List Lexeme → List (List Char)
  | [] => []
  | .char _ :: rest => slotDigits rest
  | .slot digits :: rest => digits :: slotDigits rest

/-- The statement and the values bound in it, by position. Without placeholders
and parameters the text stays as it is and nothing is bound. -/
def bindByPosition (sql : String) (params : List Value) :
    Except Fault (String × Option (List Value)) :=
  let lexemes := lexPlaceholders sql.toList
  let digits := slotDigits lexemes
  if digits.isEmpty then
    if params.isEmpty then .ok (sql, none) else .error (.refused .noPlaceholders)
  else
    match digits.mapM Number.readNatural? with
    | none => .error (.refused .unreadable)
    | some indices =>
      let highest := indices.foldl max 0
      let seen := indices.eraseDups.mergeSort
      if seen.length ≠ highest + 1 then .error (.refused (.placeholderGap highest seen))
      else if highest ≥ params.length then
        .error (.refused (.tooFewParameters (highest + 1) params.length))
      else
        .ok (String.ofList (lexemes.flatMap Lexeme.positional),
          some (indices.map fun i => params.getD i .null))

end Sql
end TableGate

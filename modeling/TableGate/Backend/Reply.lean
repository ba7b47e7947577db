/-
# What drivers reply

A server tells in a few words which command ran and how many rows it touched; a
cursor describes its columns and gives its rows as lists; a document may come as
text. Here these become results, rows and mappings.

Key definitions: `Reply.rowCount`, `Reply.commandOfStatus`, `Reply.commandWord`,
`Reply.ofFetched`, `Reply.ofCursor`, `Reply.document`.
-/
import TableGate.Backend.Session
import TableGate.Json.Reader

namespace TableGate
namespace Reply

/-- The digits at the end of a text, behind which blanks may stand. -/
def trailingDigits (s : String) : List Char :=
  let cs := (Text.dropEndWhile Text.isBlank s.toList).reverse
  (cs.takeWhile Text.isDigit).reverse

/-- The number of rows that a status tells of, or else `fallback`. -/
def rowCount (status : Option String) (fallback : Int) : Except Fault Int :=
  let digits := trailingDigits (status.getD "")
  if digits.isEmpty then .ok fallback
  else match Number.readNatural? digits with
    | some n => .ok n
    | none => .error (.refused .unreadable)

/-- The first word of a status. -/
def commandOfStatus (status : Option String) : Except Fault (Option String) :=
  match status with
  | none => .ok none
  | some s =>
    if s.isEmpty then .ok none
    else match Text.words s with
      | word :: _ => .ok (some word)
      | [] => .error .missingItem

/-- The first word of a statement, in capitals. -/
def commandWord (sql : String) : Option String := (Text.words sql).head?.map Text.upper

/-- The result of a prepared statement. -/
def ofFetched (fields : List ResultField) (f : Fetched) : Except Fault QueryResult := do
  let command ← commandOfStatus f.status
  let count ← rowCount f.status f.rows.length
  pure ⟨f.rows, count, fields, command⟩

/-- The first item of an entry of a cursor description. -/
def columnOf : Value → Except Fault Value
  | .list (name :: _) | .tuple (name :: _) => .ok name
  | .list [] | .tuple [] => .error .missingItem
  | .text s =>
    match s.toList with
    | c :: _ => .ok (.text (String.ofList [c]))
    | [] => .error .missingItem
  | .bytes (b :: _) => .ok (.int b.toNat)
  | .bytes [] => .error .missingItem
  | .mapping _ => .error .missingKey
  | _ => .error .wrongType

/-- A value as the key of a row. -/
def keyText (v : Value) : Except Fault String :=
  if v.isKey then .ok v.shown else .error .wrongType

/-- A row from its columns and values, as far as both reach. -/
def rowOf (columns : List Value) (values : List Value) : Except Fault Row := do
  let entries ← (columns.zip values).mapM fun (column, v) => do pure (← keyText column, v)
  pure (Value.mergeKeys entries)

/-- The result of a statement that ran through a cursor. -/
def ofCursor (sql : String) (c : CursorState) : Except Fault QueryResult :=
  if c.description.isEmpty then .ok { rowCount := max c.rowCount 0, command := commandWord sql }
  else do
    let columns ← c.description.mapM columnOf
    let rows ← c.rows.mapM (rowOf columns)
    pure ⟨rows, rows.length, c.description.map ResultField.ofDescription, commandWord sql⟩

/-- A pair of a key and a value, from a value of two items. -/
def pairOf : Value → Except Fault (String × Value)
  | .list [k, v] | .tuple [k, v] => do pure (← keyText k, v)
  | .list _ | .tuple _ => .error (.refused .unreadable)
  | .text s =>
    match s.toList with
    | [k, v] => .ok (String.ofList [k], .text (String.ofList [v]))
    | _ => .error (.refused .unreadable)
  | .bytes [k, v] => .ok (toString k.toNat, .int v.toNat)
  | .bytes _ => .error (.refused .unreadable)
  | .mapping [(k, _), (v, _)] => .ok (k, .text v)
  | .mapping _ => .error (.refused .unreadable)
  | _ => .error .wrongType

/-- The entries of a mapping, or of a list of pairs. -/
def entriesOf : Value → Except Fault (List (String × Value))
  | .mapping entries => .ok entries
  | .list items | .tuple items => do pure (Value.mergeKeys (← items.mapM pairOf))
  | .text s => if s.isEmpty then .ok [] else .error (.refused .unreadable)
  | .bytes bs => if bs.isEmpty then .ok [] else .error .wrongType
  | _ => .error .wrongType

/-- A document: read if it comes as text or bytes, null, or a mapping. -/
def document (v : Value) : Except Fault Value :=
  match v with
  | .null => .ok .null
  | .text s => Json.read s
  | .bytes bs => Json.readBytes bs
  | v => do pure (.mapping (← entriesOf v))

end Reply
end TableGate

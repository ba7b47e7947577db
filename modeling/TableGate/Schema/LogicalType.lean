/-
# Logical types

A small vocabulary for the types of result columns, found from the name of a
backend type, from a type number of PostgreSQL, or from an entry of a cursor
description.

Key definitions: `LogicalType`, `LogicalType.ofTypeName`, `LogicalType.ofOid`,
`LogicalType.ofDescription`.
-/
import TableGate.Value.Number

namespace TableGate

inductive LogicalType where
  | boolean
  | binary
  | integer
  | float
  | numeric
  | date
  | time
  | timestamp
  | json
  | uuid
  | string
  | unknown
deriving DecidableEq, Repr, Inhabited

namespace LogicalType

def text : LogicalType → String
  | .boolean => "boolean"
  | .binary => "binary"
  | .integer => "integer"
  | .float => "float"
  | .numeric => "numeric"
  | .date => "date"
  | .time => "time"
  | .timestamp => "timestamp"
  | .json => "json"
  | .uuid => "uuid"
  | .string => "string"
  | .unknown => "unknown"

/-- The pieces of names that tell a type, the telling ones first: names of times
hold pieces of other names. -/
def namePieces : List (LogicalType × List String) :=
  [(.string, ["interval"]), (.timestamp, ["timestamp", "datetime", "smalldatetime"]),
   (.date, ["date"]), (.time, ["time"]), (.boolean, ["bool", "bit"]),
   (.uuid, ["uuid", "uniqueidentifier"]), (.json, ["json"]),
   (.numeric, ["numeric", "decimal", "money"]), (.float, ["double", "float", "real"]),
   (.integer, ["int", "serial"]), (.binary, ["binary", "bytea", "image", "rowversion"]),
   (.string, ["char", "text", "string", "xml", "sysname"])]

/-- The name may be of this type at all: pieces of the names of days, times and
booleans stand in other names too. -/
def admits (type : LogicalType) (name : String) : Bool :=
  match type with
  | .date => name == "date" || Text.endsWith name " date"
  | .time => Text.startsWith name "time"
  | .boolean => name == "bit" || Text.contains name "bool"
  | _ => true

/-- The type that a name of a backend type stands for. -/
def ofTypeName (name : String) : LogicalType :=
  let name := Text.lower (Text.trim name)
  let fits (rule : LogicalType × List String) : Bool :=
    rule.1.admits name && rule.2.any fun piece => Text.contains name piece
  ((namePieces.find? fits).map Prod.fst).getD .unknown

/-- The type that a name stands for, if it is a text. -/
def ofName : Value → LogicalType
  | .text s => ofTypeName s
  | _ => .unknown

/-- The type numbers of PostgreSQL. -/
def oids : List (LogicalType × List Int) :=
  [(.boolean, [16]), (.binary, [17]), (.integer, [20, 21, 23]), (.float, [700, 701]),
   (.numeric, [1700]), (.date, [1082]), (.time, [1083, 1266]), (.timestamp, [1114, 1184]),
   (.json, [114, 3802]), (.uuid, [2950]), (.string, [18, 25, 1042, 1043])]

/-- The type with a number of PostgreSQL. -/
def ofOid (oid : Value) : Except Fault LogicalType := do
  let n ← oid.toInt
  pure (((oids.find? fun e => e.2.contains n).map Prod.fst).getD .unknown)

/-- The type with a number in a cursor description. -/
def ofCode (n : Int) : LogicalType :=
  if n = 1 then .string
  else if n = 2 then .binary
  else if n = 3 ∨ n = 5 then .numeric
  else if n = 4 then .timestamp
  else .unknown

/-- The type with a number or a name in a cursor description. -/
def ofTypeCode : Value → LogicalType
  | .text s => ofTypeName s
  | .int n => ofCode n
  | .bool b => ofCode (if b then 1 else 0)
  | _ => .unknown

/-- The type in an entry of a cursor description: its second item, or its
attribute. -/
def ofDescription : Value → LogicalType
  | .record attributes =>
    match Value.lookup? attributes "type_code" with
    | some code => ofTypeCode code
    | none => .unknown
  | .list (_ :: code :: _) | .tuple (_ :: code :: _) => ofTypeCode code
  | _ => .unknown

end LogicalType
end TableGate

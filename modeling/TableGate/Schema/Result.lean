/-
# Results of statements

The rows of a statement, the number of rows it touched, its columns, and the
word of the command.

Key definitions: `ResultField`, `ResultField.ofAttribute`,
`ResultField.ofDescription`, `QueryResult`, `QueryResult.first?`.
-/
import TableGate.Schema.LogicalType
import TableGate.Schema.Table

namespace TableGate

/-- A column of a result. -/
structure ResultField where
  name : String
  dataType : LogicalType := .unknown
  nullable : Bool := true
deriving DecidableEq, Repr, Inhabited

namespace ResultField

/-- A column of a result as its fields. -/
def toValue (f : ResultField) : Value :=
  .record [("name", .text f.name), ("data_type", .text f.dataType.text),
    ("nullable", .bool f.nullable)]

/-- An attribute of a value that has attributes, else null. -/
def attributeOf (v : Value) (name : String) : Value :=
  match v with
  | .record attributes => Value.lookup attributes name
  | _ => .null

/-- The column that an attribute of a prepared statement describes. Whether it
may be null is not known, so it may. -/
def ofAttribute (v : Value) : Except Fault ResultField := do
  let type := attributeOf v "type"
  let oid := attributeOf type "oid"
  let dataType ← if oid.isNull then pure (LogicalType.ofName (attributeOf type "name"))
    else LogicalType.ofOid oid
  let name := attributeOf v "name"
  pure { name := if name.isTruthy then name.shown else v.shown, dataType := dataType }

/-- The name in an entry of a cursor description. -/
def nameInDescription : Value → Value
  | .list (name :: _) | .tuple (name :: _) => name
  | v => attributeOf v "name"

/-- The column that an entry of a cursor description describes; its seventh item
tells whether it may be null. -/
def ofDescription (v : Value) : ResultField :=
  let name := nameInDescription v
  let items := match v with
    | .list items | .tuple items => items
    | _ => []
  let known := (items[6]?).getD .null
  { name := if name.isTruthy then name.shown else ""
    dataType := LogicalType.ofDescription v
    nullable := known.isNull || known.isTruthy }

end ResultField

/-- What a statement gave. -/
structure QueryResult where
  rows : List Row := []
  rowCount : Int := 0
  fields : List ResultField := []
  command : Option String := none
deriving Repr, Inhabited

namespace QueryResult

def first? (r : QueryResult) : Option Row := r.rows.head?

def toValue (r : QueryResult) : Value :=
  .record [("rows", .list (r.rows.map .mapping)), ("row_count", .int r.rowCount),
    ("fields", .list (r.fields.map ResultField.toValue)),
    ("command", optionValue .text r.command)]

end QueryResult
end TableGate

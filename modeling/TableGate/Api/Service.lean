/-
# The routes of a table

What each route of the interface does, whatever protocol carries it: rows are
listed, read, inserted, changed and removed, by conditions or by the primary key,
and the interface describes itself.

A request is compiled before anything is sent for it, and a list of rows to insert
is inserted one by one, outside a transaction: a row that fails leaves the ones
before it inserted.

Key definitions: `Service`, `Service.make`, `Service.listRows`, `Service.getRow`,
`Service.insert`, `Service.update`, `Service.replace`, `Service.delete`,
`Service.deleteRow`, `Service.openApi`, `Service.health`.
-/
import TableGate.Api.OpenApi
import TableGate.Backend.Health
import TableGate.Query.Compile

namespace TableGate

/-- The routes of one schema of a backend. -/
structure Service (σ : Type) where
  adapter : Adapter σ
  schema : String
  maxRows : Int
  maxRows_pos : 0 < maxRows
  /-- Stands in front of every route in the description of the interface. -/
  basePath : String

namespace Service

variable {σ : Type}

/-- A service of an adapter whose settings are known or not yet; without a schema
it serves the configured one. -/
def make (a : Adapter σ) (settings : Option ConnectionSettings) (schema : Option String)
    (maxRows : Int) (basePath : String) : Except Fault (Service σ) :=
  if h : 0 < maxRows then .ok ⟨a, schemaOr a.dialect settings schema, maxRows, h, basePath⟩
  else .error (.refused (.rowCeiling maxRows))

def conditionPairs (pairs : List (String × Value)) : List (String × Value) :=
  pairs.filter fun pair => !Query.reservedKeys.contains pair.1

/-- The total in the row of a count; without a row, zero. -/
def totalOf (row : Option Row) : Except Fault Int :=
  match row with
  | none | some [] => .ok 0
  | some row =>
    match Value.lookup? row "total" with
    | some v => v.toInt
    | none => .error .missingKey

def rowValue (row : Option Row) : Value := optionValue .mapping row

/-- The columns to set, from a body that has to name some. -/
def objectOf (body : Value) : Except Fault Row :=
  match body with
  | .mapping (e :: es) => .ok (e :: es)
  | _ => .error (.api (.validation .objectBody))

/-- The answer with one row. -/
def rowEnvelope (row : Value) : Value := .mapping [("data", row)]

/-- The answer with a number of rows. -/
def countEnvelope (n : Int) : Value := .mapping [("count", .int n)]

variable (s : Service σ)

/-- The compiler for the dialect of the backend. -/
def compiler : Compiler := ⟨s.adapter.dialect, s.maxRows, s.maxRows_pos⟩

def send (statement : Except Fault Statement) : Action σ QueryResult := do
  s.adapter.send ((← Action.ofExcept statement).command s.adapter.dialect)

/-- Sends a statement and gives its first row. -/
def sendFirst (statement : Except Fault Statement) : Action σ (Option Row) := do
  pure (← s.send statement).first?

/-- The first column of the primary key of a table. -/
def primaryKey (table : String) : Action σ String := do
  match ← s.adapter.primaryKeys table (some s.schema) with
  | [] => throw (.api (.missingPrimaryKey table))
  | .text key :: _ => pure key
  | _ => throw .wrongType

/-- The row that was found, or the error that there is none. -/
def foundRow (table column key : String) (row : Option Row) : Action σ Value :=
  match row with
  | some row => pure (rowEnvelope (.mapping row))
  | none =>
    throw (.api (.notFound ("No row in '" ++ table ++ "' with " ++ column ++ " = " ++ key) []))

/-- A page of rows and the number of all that satisfy the conditions. Both
statements are compiled before the first is sent, and the second is sent only if
the first succeeded. -/
def listRows (table : String) (params : List (String × Value)) : Action σ Value := do
  let filter ← Action.ofExcept (Query.read params)
  let page ← Action.ofExcept (s.compiler.select table filter (some s.schema))
  let count ← Action.ofExcept (s.compiler.count table filter (some s.schema))
  let result ← s.send (.ok page)
  let total ← Action.ofExcept (totalOf (← s.sendFirst (.ok count)))
  pure (.mapping [("data", .list (result.rows.map .mapping)), ("count", .int result.rows.length),
    ("total", .int total)])

def getRow (table key : String) : Action σ Value := do
  let column ← s.primaryKey table
  let operand ← Action.ofExcept (Query.readOperand key)
  let row ← s.sendFirst (.ok (Compiler.selectByKey table column operand (some s.schema)))
  foundRow table column key row

/-- Inserts one row and gives it back as it was inserted. -/
def insertRow (table : String) (row : Row) : Action σ Value := do
  pure (rowValue (← s.sendFirst (s.compiler.insert table row (some s.schema))))

/-- Inserts rows one after another, up to the first that fails. -/
def insertRows (table : String) : List Row → Action σ (List Value)
  | [] => pure []
  | row :: rest => do
    let inserted ← s.insertRow table row
    pure (inserted :: (← insertRows table rest))

/-- The rows of a list, if all its items are rows. -/
def rowsOf : List Value → Except Fault (List Row)
  | [] => .ok []
  | .mapping row :: rest => do pure (row :: (← rowsOf rest))
  | _ :: _ => .error (.api (.validation .bulkElement))

/-- Inserts one row or a list of rows. -/
def insert (table : String) (body : Value) : Action σ Value := do
  match body with
  | .mapping row => do pure (rowEnvelope (← s.insertRow table row))
  | .list items => do
    let inserted ← s.insertRows table (← Action.ofExcept (rowsOf items))
    pure (.mapping [("data", .list inserted), ("count", .int inserted.length)])
  | _ => throw (.api (.validation .insertBody))

/-- Changes the rows that satisfy the conditions. -/
def update (table : String) (params : List (String × Value)) (body : Value) : Action σ Value := do
  let values ← Action.ofExcept (objectOf body)
  let filter ← Action.ofExcept (Query.read (conditionPairs params))
  let result ← s.send (s.compiler.update table values filter.conditions (some s.schema))
  pure (countEnvelope result.rowCount)

/-- Changes one row by its key. -/
def replace (table key : String) (body : Value) : Action σ Value := do
  let values ← Action.ofExcept (objectOf body)
  let column ← s.primaryKey table
  let operand ← Action.ofExcept (Query.readOperand key)
  let row ← s.sendFirst (s.compiler.updateByKey table values column operand (some s.schema))
  foundRow table column key row

/-- Removes the rows that satisfy the conditions. -/
def delete (table : String) (params : List (String × Value)) : Action σ Value := do
  let filter ← Action.ofExcept (Query.read (conditionPairs params))
  let result ← s.send (s.compiler.delete table filter.conditions (some s.schema))
  pure (countEnvelope result.rowCount)

/-- Removes one row by its key. -/
def deleteRow (table key : String) : Action σ Value := do
  let column ← s.primaryKey table
  let operand ← Action.ofExcept (Query.readOperand key)
  let row ← s.sendFirst (.ok (s.compiler.deleteByKey table column operand (some s.schema)))
  foundRow table column key row

/-- The description of the interface. -/
def openApi : Action σ Value := do
  let tables ← s.adapter.tables (some s.schema)
  pure (OpenApi.document tables s.adapter.dialect.name s.basePath)

/-- Whether the backend is healthy, and the answer that says so. -/
def health : Action σ (Bool × Value) := do
  let healthy ← s.adapter.isHealthy
  pure (healthy, .mapping [("status", .text (if healthy then "ok" else "unhealthy")),
    ("dialect", .text s.adapter.dialect.name)])

end Service
end TableGate

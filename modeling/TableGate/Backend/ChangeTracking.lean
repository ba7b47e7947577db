/-
# Recording and fetching changes

PostgreSQL records changes by a trigger in a table of its own and numbers them;
SQL Server captures them by itself and tells where each stands by a pair of byte
strings. The number or the pair is the cursor to go on from.

Key definitions: `Adapter.enableChangeTracking`, `Adapter.disableChangeTracking`,
`Adapter.fetchChanges`.
-/
import TableGate.Backend.Introspection
import TableGate.Backend.Transaction
import TableGate.Schema.Change

namespace TableGate

namespace ChangeEvent

def ofRecorded (table schema : String) (row : Row) : Except Fault ChangeEvent := do
  let kind ← match ← Catalog.cell row "operation" with
    | .text s =>
      match ChangeKind.ofText? s with
      | some kind => pure kind
      | none => .error (.refused .unreadable)
    | _ => .error (.refused .unreadable)
  let newRow ← Reply.document (Value.lookup row "new_data")
  let oldRow ← Reply.document (Value.lookup row "old_data")
  let position ← Catalog.cell row "id"
  (ChangeEvent.read
    [("table", .text table), ("schema", .text schema), ("operation", .text kind.text),
     ("new_row", newRow), ("old_row", oldRow), ("timestamp", Value.lookup row "changed_at"),
     ("position", position)]).toExcept

/-- What a captured operation did; a value before an update is none of its own. -/
def capturedKind? (operation : Int) : Option ChangeKind :=
  if operation = 1 then some .delete
  else if operation = 2 then some .insert
  else if operation = 4 then some .update
  else none

/-- The entries of a captured row that are columns of the table. -/
def capturedData (row : Row) : Row := row.filter fun e => !Text.startsWith e.1 "__$"

/-- A change from its captured row, if it is one of its own. -/
def ofCaptured (table schema : String) (row : Row) : Except Fault (Option ChangeEvent) := do
  let operation ← (← Catalog.cell row "__$operation").toInt
  match capturedKind? operation with
  | none => pure none
  | some kind => do
    let first ← Catalog.cell row "__$start_lsn"
    let second ← Catalog.cell row "__$seqval"
    let data := capturedData row
    pure (some {
      table := table
      schema := schema
      kind := kind
      newRow := if kind = .delete then none else some data
      oldRow := if kind = .delete then some data else none
      position := .tuple [first, second] })

end ChangeEvent

/-- The position before every captured change. -/
def firstCapture : Value × Value :=
  let zeros := Value.bytes (List.replicate 10 0)
  (zeros, zeros)

/-- The pair of values in a cursor; without one, the position before every
change. -/
def capturePosition (cursor : Value) : Except Fault (Value × Value) :=
  let pair : List Value → Except Fault (Value × Value)
    | [first, second] => .ok (first, second)
    | _ => .error (.refused .unreadable)
  if !cursor.isTruthy then .ok firstCapture
  else match cursor with
    | .list items | .tuple items => pair items
    | .mapping entries => pair (entries.map fun e => .text e.1)
    | .text s => pair (s.toList.map fun c => .text (String.ofList [c]))
    | .bytes bs => pair (bs.map fun b => .int b.toNat)
    | _ => .error .wrongType

namespace Adapter

variable {σ : Type} (a : Adapter σ)

/-- The table that the changes of a schema are recorded in. -/
def changeLog (schema : String) : String :=
  a.dialect.quoteQualified (schema ++ "_changes") (some schema)

/-- The trigger that records the changes of a table. -/
def changeTrigger (table : String) : String := a.dialect.quote (table ++ "_change_capture")

/-- The statement that drops the trigger of a table. -/
def dropTrigger (table schema : String) : String :=
  "DROP TRIGGER IF EXISTS " ++ a.changeTrigger table ++ " ON " ++
    a.dialect.quoteQualified table (some schema)

def recordingStatements (table schema : String) : List String :=
  let function := a.dialect.quoteQualified "record_row_change" (some schema)
  let log := ("log_table", a.changeLog schema)
  [Catalog.Postgres.changeLogTable.fill [log],
   Catalog.Postgres.changeFunction.fill [("function", function), log],
   a.dropTrigger table schema,
   Catalog.Postgres.changeTrigger.fill
    [("trigger", a.changeTrigger table),
     ("table", a.dialect.quoteQualified table (some schema)), ("function", function)]]

/-- Has the changes of a table recorded. -/
def enableChangeTracking (table : String) (schema : Option String) : Action σ Unit := do
  let schema ← a.resolveSchema schema
  match a.dialect with
  | .postgres => a.runAll (a.recordingStatements table schema)
  | .sqlServer => do
    let _ ← a.query Catalog.SqlServer.enableCapture [.text schema, .text table]

/-- Stops recording the changes of a table; what is recorded stays. -/
def disableChangeTracking (table : String) (schema : Option String) : Action σ Unit := do
  let schema ← a.resolveSchema schema
  match a.dialect with
  | .postgres => do
    let _ ← a.query (a.dropTrigger table schema) []
  | .sqlServer => do
    let _ ← a.query Catalog.SqlServer.disableCapture [.text schema, .text table]

/-- The recorded changes of a table after a number, at most a hundred. -/
def fetchRecorded (table schema : String) (cursor : Value) : Action σ (List ChangeEvent) := do
  let sql := Catalog.Postgres.recordedChanges.fill [("log_table", a.changeLog schema)]
  let after ← Action.ofExcept (if cursor.isTruthy then cursor.toInt else .ok 0)
  let result ← a.query sql [.text table, .int after]
  Action.ofExcept (result.rows.mapM (ChangeEvent.ofRecorded table schema))

/-- The captured changes of a table after a position. -/
def fetchCaptured (table schema : String) (cursor : Value) : Action σ (List ChangeEvent) := do
  let (first, second) ← Action.ofExcept (capturePosition cursor)
  let changes := a.dialect.quoteQualified (schema ++ "_" ++ table ++ "_CT") (some "cdc")
  let sql := Catalog.SqlServer.capturedChanges.fill [("change_table", changes)]
  let result ← a.query sql [first, second]
  let events ← Action.ofExcept (result.rows.mapM (ChangeEvent.ofCaptured table schema))
  pure (events.filterMap id)

/-- The changes of a table after a cursor; null stands before all of them. -/
def fetchChanges (table schema : String) (cursor : Value) : Action σ (List ChangeEvent) :=
  match a.dialect with
  | .postgres => a.fetchRecorded table schema cursor
  | .sqlServer => a.fetchCaptured table schema cursor

end Adapter
end TableGate

/-
# Counters and health

Key definitions: `DatabaseStats`, `Adapter.stats`, `Adapter.isHealthy`.
-/
import TableGate.Backend.Introspection

namespace TableGate

/-- Counters of a server at one time. -/
structure DatabaseStats where
  connections : Int
  activeQueries : Int
  databaseSize : Int
  tableCount : Int
deriving DecidableEq, Repr

namespace DatabaseStats

/-- The counter under a key of a row; without one, zero. -/
def counter (row : Row) (key : String) : Except Fault Int :=
  let v := Value.lookup row key
  if v.isTruthy then v.toInt else .ok 0

def ofRow (row : Row) : Except Fault DatabaseStats := do
  let connections ← counter row "connections"
  let activeQueries ← counter row "active_queries"
  let databaseSize ← counter row "database_size"
  let tableCount ← counter row "table_count"
  pure { connections, activeQueries, databaseSize, tableCount }

/-- Counters as their fields. -/
def toValue (s : DatabaseStats) : Value :=
  .record [("connections", .int s.connections), ("active_queries", .int s.activeQueries),
    ("database_size_bytes", .int s.databaseSize), ("table_count", .int s.tableCount)]

end DatabaseStats

namespace Adapter

variable {σ : Type} (a : Adapter σ)

/-- The counters of the server. -/
def stats : Action σ DatabaseStats := do
  let params ← match a.dialect with
    | .postgres => do pure [.text (← a.resolveSchema none)]
    | .sqlServer => pure []
  let row ← a.queryFirst (CatalogQuery.stats.sql a.dialect) params
  Action.ofExcept (DatabaseStats.ofRow (row.getD []))

/-- A trivial statement succeeds. An error that is answered means that it does not;
any other failure is passed on. -/
def isHealthy : Action σ Bool := do
  match ← (a.query pingStatement []).outcome with
  | .ok _ => pure true
  | .error (.api _) => pure false
  | .error e => throw e

end Adapter
end TableGate

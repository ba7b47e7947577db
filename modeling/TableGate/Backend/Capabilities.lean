/-
# Capabilities of backends

What a backend can do, for callers that branch on it.

Key definitions: `Capabilities`, `Capabilities.ofProvider`,
`Capabilities.hasExtensions`.
-/
import TableGate.Sql.Dialect

namespace TableGate

/-- Whether a driver waits by itself or needs a thread to wait in. -/
inductive ExecutionModel where
  | async
  | sync
deriving DecidableEq, Repr

/-- The word for an execution model. -/
def ExecutionModel.text : ExecutionModel → String
  | .async => "async"
  | .sync => "sync"

/-- The execution model of the driver for a dialect. -/
def Dialect.executionModel : Dialect → ExecutionModel
  | .postgres => .async
  | .sqlServer => .sync

/-- What a backend can do. -/
structure Capabilities where
  provider : String := "unspecified"
  executionModel : ExecutionModel := .async
  rowSecurity : Bool := false
  logicalReplication : Bool := false
  binaryDocuments : Bool := false
  publishSubscribe : Bool := false
  vectorSearch : Bool := false
  extensions : List String := []
  fullTextSearch : Bool := false
  storedProcedures : Bool := false
  transactions : Bool := true
  maxConnections : Nat := 100
deriving DecidableEq, Repr

namespace Capabilities

/-- The capabilities of the backend for a dialect. -/
def ofDialect : Dialect → Capabilities
  | .postgres =>
    { provider := Dialect.postgres.name, executionModel := .async, rowSecurity := true
      logicalReplication := true, binaryDocuments := true, publishSubscribe := true
      extensions := ["postgis", "pg_stat_statements", "pgvector", "uuid-ossp"]
      fullTextSearch := true, storedProcedures := true }
  | .sqlServer =>
    { provider := Dialect.sqlServer.name, executionModel := .sync, rowSecurity := true
      fullTextSearch := true, storedProcedures := true }

/-- The capabilities of a provider; of an unknown one nothing is assumed. -/
def ofProvider (provider : String) : Capabilities :=
  match Dialect.ofProvider? provider with
  | some d => ofDialect d
  | none =>
    let name := normalizeProvider provider
    if name.isEmpty then {} else { provider := name }

/-- The backend can be extended at all. -/
def hasExtensions (c : Capabilities) : Bool := !c.extensions.isEmpty

def toValue (c : Capabilities) : Value :=
  .record [("provider_name", .text c.provider), ("execution_model", .text c.executionModel.text),
    ("has_native_rls", .bool c.rowSecurity),
    ("has_logical_replication", .bool c.logicalReplication),
    ("has_jsonb", .bool c.binaryDocuments), ("has_pubsub", .bool c.publishSubscribe),
    ("has_vector_search", .bool c.vectorSearch),
    ("supported_extensions", .list (c.extensions.map .text)),
    ("has_full_text_search", .bool c.fullTextSearch),
    ("has_stored_procedures", .bool c.storedProcedures),
    ("supports_transactions", .bool c.transactions),
    ("max_connections", .int c.maxConnections)]

end Capabilities
end TableGate

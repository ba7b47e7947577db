/-
# Row-level security

Policies are applied, removed, listed, and switched on and off with the means of
each backend. PostgreSQL has policies of its own; a policy that a table already has
is left as it is. SQL Server binds a predicate function to the table by a security
policy; each of the two is created unless there is an object of its name.

Key definitions: `Policy.createStatement`, `Policy.predicateStatement`,
`Policy.bindingStatement`, `Adapter.applyPolicy`, `Adapter.removePolicy`,
`Adapter.policies`, `Adapter.enableSecurity`, `Adapter.disableSecurity`.
-/
import TableGate.Backend.Introspection
import TableGate.Schema.Policy
import TableGate.Sql.Literal

namespace TableGate

namespace Policy

/-- A text that is there and not empty. -/
def present? (s : Option String) : Option String := s.filter fun t => !t.isEmpty

def createStatement (p : Policy) (schema : String) : String :=
  let d := Dialect.postgres
  let clause (before after : String) (s : Option String) : List String :=
    ((present? s).map fun t => before ++ t ++ after).toList
  Text.join " "
    (["CREATE POLICY " ++ d.quote p.name ++ " ON " ++ d.quoteQualified p.table (some schema),
      "FOR " ++ p.operation.text] ++
      clause "TO " "" p.role ++ clause "USING (" ")" p.using? ++
      clause "WITH CHECK (" ")" p.withCheck)

/-- The name of the predicate function of a policy of SQL Server. -/
def predicateName (name schema : String) : String :=
  Dialect.sqlServer.quoteQualified ("fn_" ++ name ++ "_predicate") (some schema)

/-- Creates the predicate function of a policy; without a predicate every row
passes. -/
def predicateDefinition (p : Policy) (schema : String) : String :=
  "\n    CREATE FUNCTION " ++ predicateName p.name schema ++
    "()\n    RETURNS TABLE\n    WITH SCHEMABINDING\n    AS\n    RETURN SELECT 1 AS result WHERE " ++
    (present? p.using?).getD "1=1" ++ "\n"

/-- Runs a definition unless there is an object with a name. -/
def unlessThere (object definition : String) : String :=
  "IF OBJECT_ID(" ++ textLiteral object ++ ") IS NULL EXEC(" ++ textLiteral definition ++ ")"

/-- Creates the predicate function unless it is there. -/
def predicateStatement (p : Policy) (schema : String) : String :=
  unlessThere (predicateName p.name schema) (p.predicateDefinition schema)

/-- Rows are filtered when they are read, and blocked when they are written. -/
def predicateKind (o : PolicyOperation) : String :=
  match o with
  | .select | .all => "FILTER"
  | _ => "BLOCK"

/-- Binds the predicate function to the table. -/
def bindingDefinition (p : Policy) (schema : String) : String :=
  let d := Dialect.sqlServer
  "CREATE SECURITY POLICY " ++ d.quoteQualified p.name (some schema) ++ " ADD " ++
    predicateKind p.operation ++ " PREDICATE " ++ predicateName p.name schema ++ "() ON " ++
    d.quoteQualified p.table (some schema) ++ " WITH (STATE = ON)"

/-- Binds the predicate function to the table unless the policy is there. -/
def bindingStatement (p : Policy) (schema : String) : String :=
  unlessThere (Dialect.sqlServer.quoteQualified p.name (some schema)) (p.bindingDefinition schema)

def ofPostgresRow (row : Row) : Except Fault Policy := do
  let name ← Catalog.cell row "name"
  let table ← Catalog.cell row "table_name"
  let schema ← Catalog.cell row "schema_name"
  match ← Catalog.cell row "operation" with
  | .text operation =>
    if (PolicyOperation.ofText? operation).isNone then .error (.refused .unreadable)
    else
      (Policy.read
        [("name", name), ("table", table), ("schema", schema), ("operation", .text operation),
         ("using", Value.lookup row "using_expression"),
         ("with_check", Value.lookup row "check_expression"),
         ("role", Value.lookup row "role_name")]).toExcept
  | _ => .error (.refused .unreadable)

/-- A policy from its row in the catalog of SQL Server, where a filter is for
reading and anything else for everything. -/
def ofSqlServerRow (row : Row) : Except Fault Policy := do
  let name ← Catalog.cell row "name"
  let table ← Catalog.cell row "table_name"
  let schema ← Catalog.cell row "schema_name"
  let operation : PolicyOperation :=
    match Value.lookup row "predicate_type" with
    | .text "FILTER" => .select
    | _ => .all
  (Policy.read
    [("name", name), ("table", table), ("schema", schema), ("operation", .text operation.text),
     ("using", Value.lookup row "predicate_definition")]).toExcept

/-- A policy from its row in a catalog. -/
def ofRow (d : Dialect) (row : Row) : Except Fault Policy :=
  match d with
  | .postgres => ofPostgresRow row
  | .sqlServer => ofSqlServerRow row

end Policy

namespace Adapter

variable {σ : Type} (a : Adapter σ)

/-- Sends a statement without parameters. -/
def sendText (sql : String) : Action σ Unit := do
  let _ ← a.query sql []

/-- Applies a policy unless it is there. -/
def applyPolicy (p : Policy) : Action σ Unit := do
  let schema ← a.resolveSchema p.schema
  match a.dialect with
  | .postgres => do
    let known ← a.queryFirst Catalog.Postgres.policyExists
      [.text schema, .text p.table, .text p.name]
    if known.isSome then pure () else a.sendText (p.createStatement schema)
  | .sqlServer => do
    a.sendText (p.predicateStatement schema)
    a.sendText (p.bindingStatement schema)

def removePolicy (name table : String) (schema : Option String) : Action σ Unit := do
  let schema ← a.resolveSchema schema
  let d := a.dialect
  match d with
  | .postgres =>
    a.sendText ("DROP POLICY IF EXISTS " ++ d.quote name ++ " ON " ++
      d.quoteQualified table (some schema))
  | .sqlServer => do
    a.sendText ("DROP SECURITY POLICY IF EXISTS " ++ d.quoteQualified name (some schema))
    a.sendText ("DROP FUNCTION IF EXISTS " ++ Policy.predicateName name schema)

/-- The policies of a table, or of all tables of a schema. -/
def policies (table : Option String) (schema : Option String) : Action σ (List Policy) := do
  let schema ← a.resolveSchema schema
  let rows ← a.ask .policies [.text schema, optionValue .text table]
  Action.ofExcept (rows.mapM (Policy.ofRow a.dialect))

/-- Switches a policy of SQL Server on or off. -/
def switchPolicy (state : String) (row : Row) : Action σ Unit := do
  let name ← Action.ofExcept (Catalog.cell row "name")
  let schema ← Action.ofExcept (Catalog.cell row "policy_schema")
  match name, schema with
  | .text name, .text schema =>
    a.sendText ("ALTER SECURITY POLICY " ++ a.dialect.quoteQualified name (some schema) ++
      " WITH (STATE = " ++ state ++ ")")
  | .text name, .null =>
    a.sendText ("ALTER SECURITY POLICY " ++ a.dialect.quote name ++
      " WITH (STATE = " ++ state ++ ")")
  | _, _ => throw .wrongType

/-- Switches policies on or off, one after another. -/
def switchPolicies (state : String) : List Row → Action σ Unit
  | [] => pure ()
  | row :: rest => do
    a.switchPolicy state row
    switchPolicies state rest

/-- Switches row-level security of a table on or off. -/
def setSecurity (table : String) (schema : Option String) (on : Bool) : Action σ Unit := do
  let schema ← a.resolveSchema schema
  match a.dialect with
  | .postgres =>
    a.sendText ("ALTER TABLE " ++ a.dialect.quoteQualified table (some schema) ++
      (if on then " ENABLE" else " DISABLE") ++ " ROW LEVEL SECURITY")
  | .sqlServer => do
    let result ← a.query Catalog.SqlServer.tablePolicyNames [.text schema, .text table]
    a.switchPolicies (if on then "ON" else "OFF") result.rows

/-- Switches row-level security of a table on. -/
def enableSecurity (table : String) (schema : Option String) : Action σ Unit :=
  a.setSecurity table schema true

/-- Switches row-level security of a table off. -/
def disableSecurity (table : String) (schema : Option String) : Action σ Unit :=
  a.setSecurity table schema false

end Adapter
end TableGate

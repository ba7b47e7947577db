/-
# The questions put to a catalog

Every catalog is asked the same questions, each in the words of its dialect, and
answers them with the same row keys.

Key definitions: `CatalogQuery`, `CatalogQuery.sql`.
-/
import TableGate.Catalog.Postgres
import TableGate.Catalog.SqlServer
import TableGate.Sql.Dialect

namespace TableGate

/-- A question to a catalog. -/
inductive CatalogQuery where
  | tables
  | columns
  | primaryKeys
  | foreignKeys
  | indexes
  | routines
  | parameters
  | views
  | viewColumns
  | policies
  | stats
deriving DecidableEq, Repr

def CatalogQuery.sql (d : Dialect) (q : CatalogQuery) : String :=
  match d, q with
  | .postgres, .tables => Catalog.Postgres.tables
  | .postgres, .columns => Catalog.Postgres.columns
  | .postgres, .primaryKeys => Catalog.Postgres.primaryKeys
  | .postgres, .foreignKeys => Catalog.Postgres.foreignKeys
  | .postgres, .indexes => Catalog.Postgres.indexes
  | .postgres, .routines => Catalog.Postgres.routines
  | .postgres, .parameters => Catalog.Postgres.parameters
  | .postgres, .views => Catalog.Postgres.views
  | .postgres, .viewColumns => Catalog.Postgres.viewColumns
  | .postgres, .policies => Catalog.Postgres.policies
  | .postgres, .stats => Catalog.Postgres.stats
  | .sqlServer, .tables => Catalog.SqlServer.tables
  | .sqlServer, .columns => Catalog.SqlServer.columns
  | .sqlServer, .primaryKeys => Catalog.SqlServer.primaryKeys
  | .sqlServer, .foreignKeys => Catalog.SqlServer.foreignKeys
  | .sqlServer, .indexes => Catalog.SqlServer.indexes
  | .sqlServer, .routines => Catalog.SqlServer.routines
  | .sqlServer, .parameters => Catalog.SqlServer.parameters
  | .sqlServer, .views => Catalog.SqlServer.views
  | .sqlServer, .viewColumns => Catalog.SqlServer.viewColumns
  | .sqlServer, .policies => Catalog.SqlServer.policies
  | .sqlServer, .stats => Catalog.SqlServer.stats

end TableGate

/-
# What a schema holds

The catalog is asked for the tables, views and functions of a schema, and its rows
are folded into their descriptions.

A table is read in four facets, one query each. All four are fetched even if one
fails, and the first failure in their order counts, unless it says that the table
vanished.

Key definitions: `Adapter.catalog`, `Adapter.tables`, `Adapter.table?`, `Adapter.primaryKeys`,
`Adapter.columns`, `Adapter.routines`, `Adapter.views`, `Adapter.schemaListing`.
-/
import TableGate.Backend.Pool
import TableGate.Catalog.Queries
import TableGate.Catalog.Source

namespace TableGate
namespace Adapter

variable {σ : Type} (a : Adapter σ)

/-- The rows that the catalog answers a question with. -/
def ask (q : CatalogQuery) (params : List Value) : Action σ (List Row) := do
  pure (← a.query (q.sql a.dialect) params).rows

def facet (q : CatalogQuery) (table : Value) (schema : String) : Action σ (List Row) :=
  a.ask q [.text schema, table]

/-- The names of the tables of a schema, as they come. -/
def tableNames (schema : String) : Action σ (List Value) := do
  let rows ← a.ask .tables [.text schema]
  Action.ofExcept (rows.mapM fun row => Catalog.cell row "table_name")

/-- The facets of a table, fetched one after another. -/
def facets (table : Value) (schema : String) : Action σ Catalog.Facets := do
  let columns ← (a.facet .columns table schema).outcome
  let primaryKeys ← (a.facet .primaryKeys table schema).outcome
  let foreignKeys ← (a.facet .foreignKeys table schema).outcome
  let indexes ← (a.facet .indexes table schema).outcome
  pure { columns, primaryKeys, foreignKeys, indexes }

def catalog : Catalog.Source (Action σ) := ⟨a.tableNames, a.facets⟩

/-- The tables of a schema, in the order of their names. -/
def tables (schema : Option String) : Action σ (List Table) := do
  let schema ← a.resolveSchema schema
  a.traced .introspection none (a.catalog.tables schema)

def table? (name : String) (schema : Option String) : Action σ (Option Table) := do
  let schema ← a.resolveSchema schema
  a.traced .introspection none (a.catalog.table? (.text name) schema)

/-- The columns of the primary key of a table, in their order. -/
def primaryKeys (table : String) (schema : Option String) : Action σ (List Value) := do
  let rows ← a.facet .primaryKeys (.text table) (← a.resolveSchema schema)
  Action.ofExcept (Catalog.primaryKeys rows)

/-- The columns of a table, in their order. -/
def columns (table : String) (schema : Option String) : Action σ (List Column) := do
  let rows ← a.facet .columns (.text table) (← a.resolveSchema schema)
  Action.ofExcept (rows.mapM Catalog.column)

def routines (schema : Option String) : Action σ (List Routine) := do
  let schema ← a.resolveSchema schema
  let rows ← a.ask .routines [.text schema]
  let parameterRows ← a.ask .parameters [.text schema]
  Action.ofExcept (Catalog.routines rows parameterRows)

def views (schema : Option String) : Action σ (List View) := do
  let schema ← a.resolveSchema schema
  let rows ← a.ask .views [.text schema]
  let columnRows ← a.ask .viewColumns [.text schema]
  Action.ofExcept (Catalog.views rows columnRows)

/-- The tables, views and functions of a schema. -/
def schemaListing (schema : Option String) : Action σ SchemaListing := do
  let schema ← a.resolveSchema schema
  let tables ← a.tables (some schema)
  let views ← a.views (some schema)
  let routines ← a.routines (some schema)
  pure ⟨[schema], tables, views, routines⟩

end Adapter
end TableGate

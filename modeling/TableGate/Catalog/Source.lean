/-
# Sources of catalog rows

Whatever can list the tables of a schema and fetch the facets of one can have its
tables described. The names may come in any order; a table that vanished after it
was listed is left out.

Key definitions: `Catalog.Source`, `Catalog.Source.table?`, `Catalog.Source.tables`.
-/
import TableGate.Catalog.Rows

namespace TableGate
namespace Catalog

/-- A source of catalog rows, whose answers come in a monad. -/
structure Source (m : Type → Type) where
  /-- The names of the tables of a schema. -/
  names : String → m (List Value)
  /-- The facets of a table of a schema. -/
  facets : Value → String → m Facets

namespace Source

variable {m : Type → Type} [Monad m] [MonadExceptOf Fault m]

/-- An outcome in the monad of a source. -/
def ofExcept {α : Type} : Except Fault α → m α
  | .ok a => pure a
  | .error e => throw e

variable (source : Source m)

def table? (name : Value) (schema : String) : m (Option Table) := do
  ofExcept (Catalog.table? (.text schema) name (← source.facets name schema))

/-- The tables with the given names that are there. -/
def tablesNamed (schema : String) : List Value → m (List Table)
  | [] => pure []
  | name :: names => do
    let table ← source.table? name schema
    let rest ← tablesNamed schema names
    pure (table.toList ++ rest)

/-- The tables of a schema, in the order of their names. -/
def tables (schema : String) : m (List Table) := do
  let names ← source.names schema
  source.tablesNamed schema (← ofExcept (Value.sortBy? id names))

end Source
end Catalog
end TableGate

/-
# Changing what a schema holds

Tables are created, changed and dropped, and a schema is written out as a script
and read in again. What takes several statements runs in one transaction, so it is
done as a whole or not at all.

Key definitions: `Adapter.createTable`, `Adapter.alterTable`, `Adapter.dropTable`,
`Adapter.createIndex`, `Adapter.exportSchema`, `Adapter.importSchema`.
-/
import TableGate.Backend.Introspection
import TableGate.Backend.Transaction
import TableGate.Schema.Ddl
import TableGate.Sql.Script

namespace TableGate

namespace Ddl

/-- The statements that create a table with its foreign keys and indexes. -/
def tableStatements (d : Dialect) (t : Table) : List Statement :=
  createTable d t :: t.foreignKeys.map (addForeignKey t.name (some t.schema)) ++
    (t.indexes.filter fun i => !i.isPrimary).map (createIndex t.name (some t.schema))

end Ddl

namespace Adapter

variable {σ : Type} (a : Adapter σ)

/-- Creates a table with its foreign keys and indexes. -/
def createTable (t : Table) : Action σ Unit :=
  a.runAll ((Ddl.tableStatements a.dialect t).map (Statement.text a.dialect))

/-- Changes the columns of a table. -/
def alterTable (name : String) (changes : Alteration) (schema : Option String) : Action σ Unit := do
  if changes.isEmpty then throw (.api (.validation (.noChanges name)))
  else
    let schema ← a.resolveSchema schema
    let statements := Ddl.alterTable a.dialect name (some schema) changes
    a.runAll (statements.map (Statement.text a.dialect))

def dropTable (name : String) (schema : Option String) (cascade : Bool) : Action σ Unit := do
  let schema ← a.resolveSchema schema
  let _ ← a.send ((Ddl.dropTable a.dialect name (some schema) cascade).command a.dialect)

def createIndex (table : String) (index : Index) (schema : Option String) : Action σ Unit := do
  let schema ← a.resolveSchema schema
  let _ ← a.send ((Ddl.createIndex table (some schema) index).command a.dialect)

/-- The script of a schema, made at the time `generated`. -/
def exportSchema (schema : Option String) (generated : String) : Action σ String := do
  let listing ← a.schemaListing schema
  pure (Ddl.schemaScript a.dialect (listing.schemas.headD "") generated listing.tables listing.views
    listing.routines)

/-- The statements of a script, or the rejection of one that cannot be read. -/
def scriptStatements (script : String) : Except Fault (List String) :=
  match Sql.splitScript a.dialect.lexicon script with
  | .error (.refused .unreadableScript) => .error (.api (.validation .unreadableScript))
  | r => r

/-- Runs the statements of a script in one transaction and counts them. -/
def importSchema (script : String) : Action σ Nat := do
  let statements ← Action.ofExcept (a.scriptStatements script)
  a.runAll statements
  pure statements.length

end Adapter
end TableGate

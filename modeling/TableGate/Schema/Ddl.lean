/-
# Definitions of tables, views and schemas

The statements that create, change and drop tables and what belongs to them, and
the script of a whole schema: tables first, then foreign keys, then indexes, so
the tables may stand in any order, then views and functions as the catalog keeps
them.

Types, default expressions and view definitions are text of the backend and pass
as they are; every name is quoted.

Key definitions: `Ddl.columnType`, `Ddl.columnDefinition`, `Ddl.createTable`,
`Ddl.addForeignKey`, `Ddl.createIndex`, `Ddl.dropTable`, `Ddl.alterTable`,
`Ddl.createView?`, `Ddl.schemaScript`.
-/
import TableGate.Schema.Listing
import TableGate.Sql.Statement

namespace TableGate
namespace Ddl

/-- The types that take a length. -/
def lengthTypes : List String :=
  ["character varying", "varchar", "character", "char", "nvarchar", "nchar", "varbinary", "binary",
   "bit varying"]

/-- The types that take a precision and a scale. -/
def precisionTypes : List String := ["numeric", "decimal"]

/-- The length behind a type, if it has one that is written. -/
def lengthSuffix? (d : Dialect) (c : Column) : Option String :=
  match c.maxLength with
  | none => none
  | some n =>
    if n < 0 ∧ d = .sqlServer then some "(max)"
    else if n > 0 then some ("(" ++ toString n ++ ")")
    else none

/-- The precision and scale behind a type, if it has them. -/
def precisionSuffix? (c : Column) : Option String :=
  match c.precision, c.scale with
  | none, _ => none
  | some p, none => some ("(" ++ toString p ++ ")")
  | some p, some s => some ("(" ++ toString p ++ "," ++ toString s ++ ")")

/-- The type of a column with its length or precision; a type that has a
parenthesis already is left as it is. -/
def columnType (d : Dialect) (c : Column) : String :=
  let word := Text.lower c.dataType
  if c.dataType.toList.contains '(' then c.dataType
  else if lengthTypes.contains word then c.dataType ++ (lengthSuffix? d c).getD ""
  else if precisionTypes.contains word then c.dataType ++ (precisionSuffix? c).getD ""
  else c.dataType

/-- The words for a column that numbers its rows. -/
def identityWords : Dialect → String
  | .postgres => " GENERATED BY DEFAULT AS IDENTITY"
  | .sqlServer => " IDENTITY(1,1)"

/-- The default of a column; one that numbers its rows has none. -/
def defaultClause (c : Column) : String :=
  match c.default with
  | some expression => if c.isIdentity then "" else " DEFAULT " ++ expression
  | none => ""

/-- A column with its type and what else is said of it. -/
def columnDefinition (d : Dialect) (c : Column) : Statement :=
  [.name c.name,
   .text (" " ++ columnType d c ++ (if c.isIdentity then identityWords d else "") ++
    (if c.nullable then "" else " NOT NULL") ++ defaultClause c)]

def primaryKeyClause (keys : List String) : List Statement :=
  if keys.isEmpty then [] else [.text "PRIMARY KEY (" :: nameList keys ++ [.text ")"]]

/-- Creates a table with its primary key. -/
def createTable (d : Dialect) (t : Table) : Statement :=
  let lines := t.columns.map (columnDefinition d) ++ primaryKeyClause t.primaryKeys
  .text "CREATE TABLE " :: qualifiedName t.name (some t.schema) ++ .text " (\n  " ::
    joinPieces ",\n  " lines ++ [.text "\n)"]

/-- The schema of the table that a foreign key refers to, where `schema` is that
of its own table. -/
def targetSchema (k : ForeignKey) (schema : Option String) : Option String :=
  match k.referencedSchema with
  | some s => if s.isEmpty then schema else some s
  | none => schema

def addForeignKey (table : String) (schema : Option String) (k : ForeignKey) : Statement :=
  .text "ALTER TABLE " :: qualifiedName table schema ++ .text " ADD CONSTRAINT " :: .name k.name ::
    .text " FOREIGN KEY (" :: nameList k.columns ++ .text ") REFERENCES " ::
    qualifiedName k.referencedTable (targetSchema k schema) ++ .text " (" ::
    nameList k.referencedColumns ++
    [.text (") ON DELETE " ++ k.onDelete.text ++ " ON UPDATE " ++ k.onUpdate.text)]

def createIndex (table : String) (schema : Option String) (i : Index) : Statement :=
  .text (if i.isUnique then "CREATE UNIQUE INDEX " else "CREATE INDEX ") :: .name i.name ::
    .text " ON " :: qualifiedName table schema ++ .text " (" :: nameList i.columns ++ [.text ")"]

/-- Drops a table if it is there; only PostgreSQL can drop what depends on it. -/
def dropTable (d : Dialect) (table : String) (schema : Option String) (cascade : Bool) :
    Statement :=
  .text "DROP TABLE IF EXISTS " :: qualifiedName table schema ++
    (if cascade ∧ d = .postgres then [.text " CASCADE"] else [])

/-- A change of a column's type and of whether it may be null, as clauses. -/
def modifyClauses (d : Dialect) (c : Column) : List Statement :=
  [[.text "ALTER COLUMN ", .name c.name, .text (" TYPE " ++ columnType d c)],
   [.text "ALTER COLUMN ", .name c.name,
    .text (if c.nullable then " DROP NOT NULL" else " SET NOT NULL")]]

/-- Changes the columns of a table: all at once in PostgreSQL, one change a
statement in T-SQL. -/
def alterTable (d : Dialect) (table : String) (schema : Option String) (a : Alteration) :
    List Statement :=
  let target := .text "ALTER TABLE " :: qualifiedName table schema
  match d with
  | .sqlServer =>
    (a.add.map fun c => target ++ .text " ADD " :: columnDefinition d c) ++
      (a.drop.map fun name => target ++ [.text " DROP COLUMN ", .name name]) ++
      (a.modify.map fun c => target ++ [.text " ALTER COLUMN ", .name c.name,
        .text (" " ++ columnType d c ++ (if c.nullable then " NULL" else " NOT NULL"))])
  | .postgres =>
    let clauses := (a.add.map fun c => .text "ADD COLUMN " :: columnDefinition d c) ++
      (a.drop.map fun name => [.text "DROP COLUMN ", .name name]) ++
      a.modify.flatMap (modifyClauses d)
    if clauses.isEmpty then [] else [target ++ .text " " :: joinPieces ", " clauses]

/-- A definition without blanks around it and semicolons behind it. -/
def bareDefinition (definition : String) : String := Text.dropEndChar ';' (Text.trim definition)

/-- Creates a view, if its definition is known; one that is a whole statement is
left as it is. -/
def createView? (v : View) : Option Statement :=
  match v.definition with
  | none => none
  | some definition =>
    if definition.isEmpty then none
    else
      let bare := bareDefinition definition
      if Text.startsWith (Text.upper bare) "CREATE" then some [.text bare]
      else
        some (.text "CREATE VIEW " :: qualifiedName v.name (some v.schema) ++
          [.text (" AS\n" ++ bare)])

/-- Creates a function, if its definition is known. -/
def createRoutine? (r : Routine) : Option Statement :=
  match r.definition with
  | none => none
  | some definition => if definition.isEmpty then none else some [.text (bareDefinition definition)]

/-- The statements of a schema, in the order in which they can be run. -/
def schemaStatements (d : Dialect) (tables : List Table) (views : List View)
    (routines : List Routine) : List String :=
  let written : List Statement :=
    tables.map (createTable d) ++
      tables.flatMap (fun t => t.foreignKeys.map (addForeignKey t.name (some t.schema))) ++
      tables.flatMap (fun t =>
        (t.indexes.filter fun i => !i.isPrimary).map (createIndex t.name (some t.schema))) ++
      (views.filterMap createView?).filter (fun s => !(s.text d).isEmpty) ++
      routines.filterMap createRoutine?
  written.map (Statement.text d)

/-- The script of a schema, made at the time `generated`. -/
def schemaScript (d : Dialect) (schema generated : String) (tables : List Table)
    (views : List View) (routines : List Routine) : String :=
  let header := "-- Schema export for " ++ schema ++ "\n-- Generated: " ++ generated
  Text.join "\n\n" (header :: (schemaStatements d tables views routines).map (· ++ ";")) ++ "\n"

end Ddl
end TableGate

/-
# Tables from catalog rows

A catalog tells of a table in four facets, each a list of rows: its columns, its
primary key, its foreign keys and its indexes, one row per column of a key. The
rows of a foreign key or an index are gathered by its name and put in the order
of their ordinals, whatever the order in which they came; the keys are in the
order of their names.

A facet that fails because the table vanished counts as empty, and a table
without columns is no table. Rows of a primary key that name columns which are
not there are passed over.

Key definitions: `Catalog.action`, `Catalog.flag`, `Catalog.column`,
`Catalog.primaryKeys`, `Catalog.foreignKeys`, `Catalog.indexes`, `Catalog.table?`,
`Catalog.routines`, `Catalog.views`.
-/
import TableGate.Schema.Listing
import TableGate.Value.Number

namespace TableGate
namespace Catalog

/-- The value that a row has to have under a key. -/
def cell (row : Row) (key : String) : Except Fault Value :=
  match Value.lookup? row key with
  | some v => .ok v
  | none => .error .missingKey

/-- The referential action for a spelling in any case, with blanks or
underscores between the words; an unknown one is no action. -/
def action (spelling : Value) : ReferentialAction :=
  if spelling.isTruthy then
    let spaced := spelling.shown.toList.map fun c => if c = '_' then ' ' else c
    let words := Text.words (Text.upper (String.ofList spaced))
    (ReferentialAction.ofText? (Text.join " " words)).getD .noAction
  else .noAction

/-- A flag, which may be a boolean, a bit or a word. -/
def flag : Value → Bool
  | .text s => ["YES", "Y", "TRUE", "T", "1"].contains (Text.upper (Text.trim s))
  | v => v.isTruthy

/-- An integer that may be missing. -/
def optionalInt (v : Value) : Except Fault Value :=
  if v.isNull then .ok .null else v.toInt.map .int

/-- The place of a row within its key. -/
def ordinal (row : Row) : Except Fault Int :=
  let v := Value.lookup row "ordinal_position"
  if v.isNull then .ok 0 else v.toInt

/-- Rows in the order of their ordinals; equal ones stay as they came. -/
def inOrdinalOrder (rows : List Row) : Except Fault (List Row) := do
  let keyed ← rows.mapM fun row => do pure (← ordinal row, row)
  pure ((keyed.mergeSort fun a b => decide (a.1 ≤ b.1)).map Prod.snd)

def column (row : Row) : Except Fault Column := do
  let name ← cell row "column_name"
  let dataType ← cell row "data_type"
  let maxLength ← optionalInt (Value.lookup row "character_maximum_length")
  let precision ← optionalInt (Value.lookup row "numeric_precision")
  let scale ← optionalInt (Value.lookup row "numeric_scale")
  (Column.read
    [("name", name), ("data_type", dataType),
     ("nullable", .bool (flag ((Value.lookup? row "is_nullable").getD (.bool true)))),
     ("default_value", Value.lookup row "column_default"),
     ("is_identity", .bool (flag (Value.lookup row "is_identity"))),
     ("max_length", maxLength), ("precision", precision), ("scale", scale)]).toExcept

/-- The columns of a primary key, in their order. -/
def primaryKeys (rows : List Row) : Except Fault (List Value) := do
  (← inOrdinalOrder rows).mapM fun row => cell row "column_name"

/-- Adds a row to the group with a name; a new group goes to the end. -/
def addToGroup (name : Value) (row : Row) :
    List (Value × List Row) → List (Value × List Row)
  | [] => [(name, [row])]
  | g :: gs => if g.1.isSameKey name then (g.1, g.2 ++ [row]) :: gs else g :: addToGroup name row gs

/-- Rows gathered by the value under a key. -/
def groupRows (key : String) (rows : List Row) : Except Fault (List (Value × List Row)) :=
  rows.foldlM (fun groups row => do
    let name ← cell row key
    if name.isKey then pure (addToGroup name row groups) else .error .wrongType) []

/-- The groups in the order of their names, each with its rows in the order of
their ordinals, made into a list of `α`. -/
def foldGroups {α : Type} (key : String) (make : Value → List Row → Except Fault α)
    (rows : List Row) : Except Fault (List α) := do
  let groups ← Value.sortBy? Prod.fst (← groupRows key rows)
  groups.mapM fun g => do make g.1 (← inOrdinalOrder g.2)

/-- A foreign key from its rows, in order. -/
def foreignKey (name : Value) (rows : List Row) : Except Fault ForeignKey := do
  let head := rows.headD []
  let columns ← rows.mapM fun row => cell row "column_name"
  let table ← cell head "foreign_table_name"
  let referenced ← rows.mapM fun row => cell row "foreign_column_name"
  (ForeignKey.read
    [("name", name), ("columns", .list columns),
     ("referenced_schema", Value.lookup head "foreign_table_schema"), ("referenced_table", table),
     ("referenced_columns", .list referenced),
     ("on_delete", .text (action (Value.lookup head "delete_rule")).text),
     ("on_update", .text (action (Value.lookup head "update_rule")).text)]).toExcept

/-- The foreign keys of a table. -/
def foreignKeys (rows : List Row) : Except Fault (List ForeignKey) :=
  foldGroups "constraint_name" foreignKey rows

/-- An index from its rows, in order. -/
def index (name : Value) (rows : List Row) : Except Fault Index := do
  let head := rows.headD []
  let columns ← rows.mapM fun row => cell row "column_name"
  (Index.read
    [("name", name), ("columns", .list columns),
     ("is_unique", .bool (flag (Value.lookup head "is_unique"))),
     ("is_primary", .bool (flag (Value.lookup head "is_primary")))]).toExcept

def indexes (rows : List Row) : Except Fault (List Index) := foldGroups "index_name" index rows

/-- The rows of a facet; one that failed because its table vanished is empty. -/
def facetRows : Except Fault (List Row) → Except Fault (List Row)
  | .error (.api (.query message sql category)) =>
    if category = some "undefined_object" then .ok []
    else .error (.api (.query message sql category))
  | r => r

/-- The columns of a primary key that are columns of the table. -/
def presentKeys (names : List String) (keys : List Value) : Except Fault (List Value) :=
  if keys.all Value.isKey then
    .ok (keys.filter fun
      | .text s => names.contains s
      | _ => false)
  else .error .wrongType

/-- The four facets of a table, as they were fetched. -/
structure Facets where
  columns : Except Fault (List Row)
  primaryKeys : Except Fault (List Row)
  foreignKeys : Except Fault (List Row)
  indexes : Except Fault (List Row)

/-- A table from its facets; none if it has no columns. -/
def table? (schema table : Value) (facets : Facets) : Except Fault (Option Table) := do
  let columnRows ← facetRows facets.columns
  let keyRows ← facetRows facets.primaryKeys
  let foreignKeyRows ← facetRows facets.foreignKeys
  let indexRows ← facetRows facets.indexes
  if columnRows.isEmpty then pure none
  else do
    let columns ← columnRows.mapM column
    let keys ← presentKeys (columns.map Column.name) (← primaryKeys keyRows)
    let foreignKeys ← foreignKeys foreignKeyRows
    let indexes ← indexes indexRows
    let checked := Checked.thenCheck
      ((fun schema name keys => Table.make schema name columns keys foreignKeys indexes) <$>
        Reader.required [("schema", schema)] "schema" Reader.text <*>
        Reader.required [("name", table)] "name" Reader.text <*>
        Reader.required [("primary_keys", .list keys)] "primary_keys" (Reader.list Reader.text)) id
    pure (some (← checked.toExcept))

/-- A parameter from its row; without a mode it is an input. -/
def parameter (row : Row) : Except Fault Parameter := do
  let orElse (v : Value) (default : Value) : Value := if v.isTruthy then v else default
  let name := orElse (Value.lookup row "parameter_name") (.text "")
  let dataType ← cell row "data_type"
  match orElse (Value.lookup row "parameter_mode") (.text "IN") with
  | .text mode =>
    (Parameter.read
      [("name", name), ("data_type", dataType), ("mode", .text (Text.upper mode)),
       ("default_value", Value.lookup row "parameter_default")]).toExcept
  | _ => .error .wrongType

/-- Functions from their rows and the rows of their parameters. -/
def routines (rows parameterRows : List Row) : Except Fault (List Routine) := do
  let groups ← groupRows "specific_name" parameterRows
  rows.mapM fun row => do
    let key ← cell row "specific_name"
    if !key.isKey then .error .wrongType
    else do
      let own := ((groups.find? fun g => g.1.isSameKey key).map Prod.snd).getD []
      let members ← inOrdinalOrder own
      let schema ← cell row "schema_name"
      let name ← cell row "function_name"
      let parameters ← members.mapM parameter
      let r ← (Routine.read
        [("schema", schema), ("name", name), ("return_type", Value.lookup row "return_type"),
         ("language", Value.lookup row "language"),
         ("definition", Value.lookup row "definition")]).toExcept
      pure { r with parameters := parameters }

def views (rows columnRows : List Row) : Except Fault (List View) := do
  let columns ← columnRows.foldlM (fun (columns : List (Value × List Row)) row => do
    let table ← cell row "table_name"
    if !table.isKey then .error .wrongType
    else do
      let name ← cell row "column_name"
      pure (addToGroup table [("column_name", name)] columns)) []
  rows.mapM fun row => do
    let schema ← cell row "table_schema"
    let name ← cell row "table_name"
    if !name.isKey then .error .wrongType
    else do
      let own := ((columns.find? fun g => g.1.isSameKey name).map Prod.snd).getD []
      (View.read
        [("schema", schema), ("name", name), ("definition", Value.lookup row "view_definition"),
         ("columns", .list (own.map fun r => Value.lookup r "column_name"))]).toExcept

end Catalog
end TableGate

/-
# Tables

A table with its columns, primary key, foreign keys and indexes, as read from a
catalog or given by a caller. A foreign key pairs each of its columns with one
of the referenced table, and a primary key names columns that the table has;
both are part of the types.

Key definitions: `ReferentialAction`, `Column`, `ForeignKey`, `Index`, `Table`,
`Alteration`, and `read` and `toValue` of each.
-/
import TableGate.Schema.Reader

namespace TableGate

open Reader

/-- What happens to a row when the row it refers to is changed or removed. -/
inductive ReferentialAction where
  | cascade
  | setNull
  | setDefault
  | restrict
  | noAction
deriving DecidableEq, Repr

namespace ReferentialAction

def all : List ReferentialAction := [.cascade, .setNull, .setDefault, .restrict, .noAction]

/-- The action as it is written in SQL. -/
def text : ReferentialAction → String
  | .cascade => "CASCADE"
  | .setNull => "SET NULL"
  | .setDefault => "SET DEFAULT"
  | .restrict => "RESTRICT"
  | .noAction => "NO ACTION"

def ofText? (s : String) : Option ReferentialAction := all.find? fun a => a.text == s

theorem ofText?_text (a : ReferentialAction) : ofText? a.text = some a := by
  cases a <;> decide

end ReferentialAction

structure Column where
  name : String
  /-- The name of the type, as the catalog has it. -/
  dataType : String
  nullable : Bool := true
  /-- An expression, as the catalog has it. -/
  default : Option String := none
  isIdentity : Bool := false
  maxLength : Option Int := none
  precision : Option Int := none
  scale : Option Int := none
deriving DecidableEq, Repr, Inhabited

namespace Column

def read (es : Entries) : Checked Column :=
  Column.mk <$> required es "name" text <*> required es "data_type" text <*>
    defaulted es "nullable" true bool <*> defaulted es "default_value" none (orNull text) <*>
    defaulted es "is_identity" false bool <*> defaulted es "max_length" none (orNull int) <*>
    defaulted es "precision" none (orNull int) <*> defaulted es "scale" none (orNull int)

def toValue (c : Column) : Value :=
  .record [("name", .text c.name), ("data_type", .text c.dataType), ("nullable", .bool c.nullable),
    ("default_value", optionValue .text c.default), ("is_identity", .bool c.isIdentity),
    ("max_length", optionValue .int c.maxLength), ("precision", optionValue .int c.precision),
    ("scale", optionValue .int c.scale)]

end Column

/-- A foreign key, of one column or several. -/
structure ForeignKey where
  name : String
  columns : List String
  /-- The schema of the referenced table; none is the schema of the table itself. -/
  referencedSchema : Option String
  referencedTable : String
  referencedColumns : List String
  onDelete : ReferentialAction
  onUpdate : ReferentialAction
  paired : columns.length = referencedColumns.length
deriving DecidableEq, Repr

namespace ForeignKey

/-- A foreign key, if its columns can be paired. -/
def make (name : String) (columns : List String) (referencedSchema : Option String)
    (referencedTable : String) (referencedColumns : List String)
    (onDelete onUpdate : ReferentialAction) : Checked ForeignKey :=
  if h : columns.length = referencedColumns.length then
    .fits ⟨name, columns, referencedSchema, referencedTable, referencedColumns, onDelete,
      onUpdate, h⟩
  else .misfit (.refused (.columnPairs name columns.length referencedColumns.length))

def read (es : Entries) : Checked ForeignKey :=
  let action := choice ReferentialAction.ofText?
  Checked.thenCheck
    (make <$> required es "name" text <*> required es "columns" (list text) <*>
      defaulted es "referenced_schema" none (orNull text) <*>
      required es "referenced_table" text <*> required es "referenced_columns" (list text) <*>
      defaulted es "on_delete" .noAction action <*> defaulted es "on_update" .noAction action)
    id

/-- A foreign key as its fields. -/
def toValue (k : ForeignKey) : Value :=
  .record [("name", .text k.name), ("columns", textsValue k.columns),
    ("referenced_schema", optionValue .text k.referencedSchema),
    ("referenced_table", .text k.referencedTable),
    ("referenced_columns", textsValue k.referencedColumns), ("on_delete", .text k.onDelete.text),
    ("on_update", .text k.onUpdate.text)]

end ForeignKey

structure Index where
  name : String
  columns : List String
  isUnique : Bool := false
  isPrimary : Bool := false
deriving DecidableEq, Repr, Inhabited

namespace Index

def read (es : Entries) : Checked Index :=
  Index.mk <$> required es "name" text <*> required es "columns" (list text) <*>
    defaulted es "is_unique" false bool <*> defaulted es "is_primary" false bool

def toValue (i : Index) : Value :=
  .record [("name", .text i.name), ("columns", textsValue i.columns),
    ("is_unique", .bool i.isUnique), ("is_primary", .bool i.isPrimary)]

end Index

structure Table where
  schema : String
  name : String
  columns : List Column
  primaryKeys : List String
  foreignKeys : List ForeignKey
  indexes : List Index
  keyed : ∀ k ∈ primaryKeys, k ∈ columns.map Column.name
deriving Repr

namespace Table

/-- A table, if it has the columns of its primary key. -/
def make (schema name : String) (columns : List Column) (primaryKeys : List String)
    (foreignKeys : List ForeignKey) (indexes : List Index) : Checked Table :=
  if h : ∀ k ∈ primaryKeys, k ∈ columns.map Column.name then
    .fits ⟨schema, name, columns, primaryKeys, foreignKeys, indexes, h⟩
  else
    let isMissing (key : String) : Bool := !(columns.map Column.name).contains key
    .misfit (.refused (.keyColumns (primaryKeys.filter isMissing) name))

def read (es : Entries) : Checked Table :=
  Checked.thenCheck
    (make <$> required es (schemaField es) text <*> required es "name" text <*>
      defaulted es "columns" [] (list (model Column.read)) <*>
      defaulted es "primary_keys" [] (list text) <*>
      defaulted es "foreign_keys" [] (list (model ForeignKey.read)) <*>
      defaulted es "indexes" [] (list (model Index.read)))
    id

def toValue (t : Table) : Value :=
  .record [("schema_name", .text t.schema), ("name", .text t.name),
    ("columns", .list (t.columns.map Column.toValue)), ("primary_keys", textsValue t.primaryKeys),
    ("foreign_keys", .list (t.foreignKeys.map ForeignKey.toValue)),
    ("indexes", .list (t.indexes.map Index.toValue))]

/-- The first column with a name. -/
def column? (t : Table) (name : String) : Option Column := t.columns.find? fun c => c.name == name

end Table

/-- Changes to the columns of a table. -/
structure Alteration where
  add : List Column
  drop : List String
  modify : List Column
deriving DecidableEq, Repr, Inhabited

namespace Alteration

def read (es : Entries) : Checked Alteration :=
  Alteration.mk <$> defaulted es "add_columns" [] (list (model Column.read)) <*>
    defaulted es "drop_columns" [] (list text) <*>
    defaulted es "modify_columns" [] (list (model Column.read))

def toValue (a : Alteration) : Value :=
  .record [("add_columns", .list (a.add.map Column.toValue)), ("drop_columns", textsValue a.drop),
    ("modify_columns", .list (a.modify.map Column.toValue))]

/-- Nothing is changed. -/
def isEmpty (a : Alteration) : Bool := a.add.isEmpty && a.drop.isEmpty && a.modify.isEmpty

end Alteration
end TableGate

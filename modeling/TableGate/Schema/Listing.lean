/-
# What a catalog holds beside tables

Views, stored functions with their parameters, and the listing of a whole
schema.

Key definitions: `Parameter`, `Routine`, `View`, `SchemaListing`.
-/
import TableGate.Schema.Table

namespace TableGate

open Reader

/-- A parameter of a stored function. -/
structure Parameter where
  name : String
  dataType : String
  mode : String := "IN"
  default : Option String := none
deriving DecidableEq, Repr, Inhabited

namespace Parameter

def read (es : Entries) : Checked Parameter :=
  Parameter.mk <$> required es "name" text <*> required es "data_type" text <*>
    defaulted es "mode" "IN" text <*> defaulted es "default_value" none (orNull text)

def toValue (p : Parameter) : Value :=
  .record [("name", .text p.name), ("data_type", .text p.dataType), ("mode", .text p.mode),
    ("default_value", optionValue .text p.default)]

end Parameter

/-- A stored function or procedure. -/
structure Routine where
  schema : String
  name : String
  returnType : Option String := none
  language : Option String := none
  definition : Option String := none
  parameters : List Parameter := []
deriving DecidableEq, Repr, Inhabited

namespace Routine

def read (es : Entries) : Checked Routine :=
  Routine.mk <$> required es (schemaField es) text <*> required es "name" text <*>
    defaulted es "return_type" none (orNull text) <*>
    defaulted es "language" none (orNull text) <*>
    defaulted es "definition" none (orNull text) <*>
    defaulted es "parameters" [] (list (model Parameter.read))

/-- A function as its fields. -/
def toValue (r : Routine) : Value :=
  .record [("schema_name", .text r.schema), ("name", .text r.name),
    ("return_type", optionValue .text r.returnType), ("language", optionValue .text r.language),
    ("definition", optionValue .text r.definition),
    ("parameters", .list (r.parameters.map Parameter.toValue))]

end Routine

/-- A view and the query that defines it. -/
structure View where
  schema : String
  name : String
  definition : Option String := none
  columns : List String := []
deriving DecidableEq, Repr, Inhabited

namespace View

def read (es : Entries) : Checked View :=
  View.mk <$> required es (schemaField es) text <*> required es "name" text <*>
    defaulted es "definition" none (orNull text) <*> defaulted es "columns" [] (list text)

def toValue (v : View) : Value :=
  .record [("schema_name", .text v.schema), ("name", .text v.name),
    ("definition", optionValue .text v.definition), ("columns", textsValue v.columns)]

end View

/-- The names of the schemas, and what one of them holds. -/
structure SchemaListing where
  schemas : List String
  tables : List Table
  views : List View
  routines : List Routine
deriving Repr

namespace SchemaListing

def read (es : Entries) : Checked SchemaListing :=
  SchemaListing.mk <$> defaulted es "schemas" [] (list text) <*>
    defaulted es "tables" [] (list (model Table.read)) <*>
    defaulted es "views" [] (list (model View.read)) <*>
    defaulted es "functions" [] (list (model Routine.read))

def toValue (l : SchemaListing) : Value :=
  .record [("schemas", textsValue l.schemas), ("tables", .list (l.tables.map Table.toValue)),
    ("views", .list (l.views.map View.toValue)),
    ("functions", .list (l.routines.map Routine.toValue))]

end SchemaListing
end TableGate

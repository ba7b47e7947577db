/-
# Row-level security policies

A policy says which rows of a table a statement may see or write. Its predicates
are SQL expressions of the caller, which nothing here looks into.

Key definitions: `PolicyOperation`, `Policy`.
-/
import TableGate.Schema.Table

namespace TableGate

open Reader

/-- The statements that a policy is for. -/
inductive PolicyOperation where
  | select
  | insert
  | update
  | delete
  | all
deriving DecidableEq, Repr

namespace PolicyOperation

def text : PolicyOperation → String
  | .select => "SELECT"
  | .insert => "INSERT"
  | .update => "UPDATE"
  | .delete => "DELETE"
  | .all => "ALL"

def ofText? (s : String) : Option PolicyOperation :=
  [PolicyOperation.select, .insert, .update, .delete, .all].find? fun o => o.text == s

end PolicyOperation

/-- A row-level security policy. -/
structure Policy where
  name : String
  table : String
  schema : Option String := none
  operation : PolicyOperation := .all
  /-- Which rows are seen. -/
  using? : Option String := none
  /-- Which rows may be written. -/
  withCheck : Option String := none
  role : Option String := none
deriving DecidableEq, Repr

namespace Policy

def read (es : Entries) : Checked Policy :=
  Policy.mk <$> required es "name" text <*> required es "table" text <*>
    defaulted es (schemaField es) none (orNull text) <*>
    defaulted es "operation" .all (choice PolicyOperation.ofText?) <*>
    defaulted es "using" none (orNull text) <*> defaulted es "with_check" none (orNull text) <*>
    defaulted es "role" none (orNull text)

def toValue (p : Policy) : Value :=
  .record [("name", .text p.name), ("table", .text p.table),
    ("schema_name", optionValue .text p.schema), ("operation", .text p.operation.text),
    ("using", optionValue .text p.using?), ("with_check", optionValue .text p.withCheck),
    ("role", optionValue .text p.role)]

end Policy
end TableGate

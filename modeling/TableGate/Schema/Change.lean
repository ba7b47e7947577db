/-
# Changes of rows

One change of one row, as a change feed tells of it. Its position is the value
that the feed goes on from once the change is delivered.

Key definitions: `ChangeKind`, `ChangeEvent`.
-/
import TableGate.Schema.Table

namespace TableGate

open Reader

/-- What happened to a row. -/
inductive ChangeKind where
  | insert
  | update
  | delete
deriving DecidableEq, Repr

namespace ChangeKind

def text : ChangeKind → String
  | .insert => "INSERT"
  | .update => "UPDATE"
  | .delete => "DELETE"

def ofText? (s : String) : Option ChangeKind :=
  [ChangeKind.insert, .update, .delete].find? fun k => k.text == s

end ChangeKind

/-- One change of one row. -/
structure ChangeEvent where
  table : String
  schema : String
  kind : ChangeKind
  newRow : Option Row := none
  oldRow : Option Row := none
  timestamp : Option DateTime := none
  position : Value := .null
deriving Repr

namespace ChangeEvent

def read (es : Entries) : Checked ChangeEvent :=
  ChangeEvent.mk <$> required es "table" text <*> required es (schemaField es) text <*>
    required es "operation" (choice ChangeKind.ofText?) <*>
    defaulted es "new_row" none (orNull mapping) <*>
    defaulted es "old_row" none (orNull mapping) <*>
    defaulted es "timestamp" none (orNull dateTime) <*> defaulted es "position" .null any

def toValue (e : ChangeEvent) : Value :=
  .record [("table", .text e.table), ("schema_name", .text e.schema),
    ("operation", .text e.kind.text), ("new_row", optionValue .mapping e.newRow),
    ("old_row", optionValue .mapping e.oldRow), ("timestamp", optionValue .dateTime e.timestamp),
    ("position", e.position)]

end ChangeEvent
end TableGate

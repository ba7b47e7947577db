/-
# Parameters in the form of their declared type

A server that takes parameters in binary declares a type for each, and wants
the value in the form of that type: days and times as such, documents as JSON
texts, texts as texts. Callers hold what JSON can carry, so a text is read as the
declared type, and any value is written out where a text or a document is
declared.

Key definitions: `Sql.coerce`, `Sql.coerceAll`.
-/
import TableGate.Json.Writer
import TableGate.Value.Number

namespace TableGate
namespace Sql

/-- A value, or the refusal of a text that is none. -/
def readAs {α : Type} (make : α → Value) (r : Option α) : Except Fault Value :=
  match r with
  | some a => .ok (make a)
  | none => .error (.refused .unreadable)

/-- A day and time of day; `Z` stands for universal time in either case. -/
def readTimestamp? (s : String) : Option DateTime :=
  let text := Text.trim s
  match text.toList.getLast? with
  | some c =>
    if c = 'Z' ∨ c = 'z' then DateTime.read? (String.ofList text.toList.dropLast ++ "+00:00")
    else DateTime.read? text
  | none => DateTime.read? text

/-- A day, also from a text with a time of day. -/
def readDay? (s : String) : Option CalendarDate :=
  let text := Text.trim s
  if text.toList.any fun c => c == 'T' || c == ' ' then (readTimestamp? text).map DateTime.date
  else CalendarDate.read? text

/-- A text as the declared type; texts of other types stay texts. -/
def coerceText (type s : String) : Except Fault Value :=
  if type = "date" then readAs .date (readDay? s)
  else if type = "timestamp" ∨ type = "timestamptz" then readAs .dateTime (readTimestamp? s)
  else if type = "time" ∨ type = "timetz" then readAs .time (ClockTime.read? (Text.trim s))
  else if type = "numeric" then
    match Decimal.read? (Text.trim s) with
    | some d => .ok (.decimal d)
    | none => .error (.refused (.numericLiteral (Text.quoted s)))
  else if type = "int2" ∨ type = "int4" ∨ type = "int8" then readAs .int (Number.readInt? s)
  else if type = "float4" ∨ type = "float8" then readAs .float (Number.readDouble? s)
  else .ok (.text s)

def documentTypes : List String := ["json", "jsonb"]

def textTypes : List String := ["text", "varchar", "bpchar", "name", "citext"]

/-- A value in the form of a type; null stays null, and a type that is not known
takes any value. -/
def coerce (type : String) (v : Value) : Except Fault Value :=
  match v with
  | .null => .ok .null
  | .text s =>
    if documentTypes.contains type || textTypes.contains type then .ok (.text s)
    else coerceText type s
  | .bool b =>
    if documentTypes.contains type || textTypes.contains type then
      .ok (.text (if b then "true" else "false"))
    else .ok v
  | v =>
    if documentTypes.contains type then (Json.write Json.parameterLayout v).map .text
    else if textTypes.contains type then
      if v.isTooLong then .error (.refused .unreadable) else .ok (.text v.shown)
    else match v with
      | .float x =>
        if type = "numeric" then readAs .decimal (Decimal.read? x.text) else .ok v
      | v => .ok v

/-- The error for a parameter that cannot be read as its type, counted from
one. -/
def badParameter (position : Nat) (type : String) (v : Value) : Fault :=
  if v.isTooLong then .refused .unreadable
  else .api (.validation (.parameter position type v.quoted))

/-- Values in the form of the declared types, from the one at `index` on; values
beyond the types stay as they are. A type without a name takes any value. -/
def coerceFrom (index : Nat) : List (Option String) → List Value → Except Fault (List Value)
  | _, [] => .ok []
  | [], vs => .ok vs
  | type :: types, v :: vs =>
    let name := type.getD ""
    match coerce name v with
    | .ok w => do pure (w :: (← coerceFrom (index + 1) types vs))
    | .error fault =>
      .error (if fault.isUnreadable then badParameter (index + 1) name v else fault)

/-- Values in the form of the declared types. -/
def coerceAll (types : List (Option String)) (vs : List Value) : Except Fault (List Value) :=
  coerceFrom 0 types vs

end Sql
end TableGate

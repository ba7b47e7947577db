/-
# Values

What a row, a request body or a parameter list holds. The kinds are kept apart
as a database driver keeps them: an integer is not a floating-point number, a
date is not a text, and a boolean counts as the integer 0 or 1 where a number is
asked for.

A value is shown in two ways: `Value.shown`, as it stands in running text, and
`Value.quoted`, as it stands inside a list or in a message about it.

Key definitions: `Value`, `Value.isTruthy`, `Value.shown`, `Value.quoted`,
`Row`.
-/
import TableGate.Calendar.Iso
import TableGate.Number.Read
import TableGate.Number.Shortest
import TableGate.Text.Cut
import TableGate.Text.Quoted

namespace TableGate

/-- A value of any kind. A `record` is an object that has attributes only; a
`mapping` keeps the order of its keys. -/
inductive Value where
  | null
  | bool (b : Bool)
  | int (n : Int)
  | float (x : Double)
  | decimal (d : Decimal)
  | text (s : String)
  | bytes (bs : List UInt8)
  | dateTime (t : DateTime)
  | date (d : CalendarDate)
  | time (t : ClockTime)
  | uuid (s : String)
  | list (items : List Value)
  | tuple (items : List Value)
  | mapping (entries : List (String × Value))
  | record (attributes : List (String × Value))
deriving Repr, Inhabited

/-- A row keeps the column order of its result set. -/
abbrev Row := List (String × Value)

namespace Value

/-- The value under a key, if the key is there. -/
def lookup? (entries : List (String × Value)) (key : String) : Option Value :=
  (entries.find? fun e => e.1 == key).map Prod.snd

/-- The value under a key, null if the key is not there. -/
def lookup (entries : List (String × Value)) (key : String) : Value :=
  (lookup? entries key).getD .null

/-- Writes a key: a new key goes to the end, a present one keeps its place. -/
def insert (entries : List (String × Value)) (key : String) (value : Value) :
    List (String × Value) :=
  match entries with
  | [] => [(key, value)]
  | e :: rest => if e.1 == key then (key, value) :: rest else e :: insert rest key value

/-- The entries with repeated keys merged: the last value at the first place. -/
def mergeKeys (entries : List (String × Value)) : List (String × Value) :=
  entries.foldl (fun acc e => insert acc e.1 e.2) []

def isNull : Value → Bool
  | .null => true
  | _ => false

/-- Neither null, false, zero nor empty. -/
def isTruthy : Value → Bool
  | .null => false
  | .bool b => b
  | .int n => n != 0
  | .float x => !x.isZero
  | .decimal d => !d.isZero
  | .text s => !s.isEmpty
  | .bytes bs => !bs.isEmpty
  | .list items | .tuple items => !items.isEmpty
  | .mapping entries => !entries.isEmpty
  | .dateTime _ | .date _ | .time _ | .uuid _ | .record _ => true

/-- The number in the digits of an identifier. -/
def uuidNumber (s : String) : Nat :=
  (s.toList.filterMap Text.hexValue?).foldl (fun n d => n * 16 + d) 0

/-- The text of an offset as a part of a longer description. -/
def offsetQuoted (o : Offset) : String :=
  if o.microseconds = 0 then "datetime.timezone.utc"
  else
    let days := Int.fdiv o.microseconds 86400000000
    let rest := (Int.fmod o.microseconds 86400000000).toNat
    let parts :=
      (if days = 0 then [] else ["days=" ++ toString days]) ++
        (if rest / 1000000 = 0 then [] else ["seconds=" ++ toString (rest / 1000000)]) ++
        (if rest % 1000000 = 0 then [] else ["microseconds=" ++ toString (rest % 1000000)])
    "datetime.timezone(datetime.timedelta(" ++ Text.join ", " parts ++ "))"

/-- The parts of a time of day as they are listed; trailing zeros of seconds and
microseconds are left out. -/
def clockQuoted (t : ClockTime) : List String :=
  [toString t.hour, toString t.minute] ++
    (if t.second = 0 ∧ t.microsecond = 0 then [] else [toString t.second]) ++
    (if t.microsecond = 0 then [] else [toString t.microsecond]) ++
    (match t.offset with
    | some o => ["tzinfo=" ++ offsetQuoted o]
    | none => [])

/-- The parts of a day as they are listed. -/
def dateQuoted (d : CalendarDate) : List String :=
  [toString d.year, toString d.month, toString d.day]

/-- How an object with attributes is shown. -/
def recordText : String := "<obj>"

/-- The text of a boolean inside running text. -/
def boolText (b : Bool) : String := if b then "True" else "False"

mutual

/-- The value as it stands inside a list or in a message about it. -/
def quoted : Value → String
  | .null => "None"
  | .bool b => boolText b
  | .int n => toString n
  | .float x => x.text
  | .decimal d => "Decimal('" ++ d.text ++ "')"
  | .text s => Text.quoted s
  | .bytes bs => Text.quotedBytes bs
  | .dateTime t =>
    "datetime.datetime(" ++ Text.join ", " (dateQuoted t.date ++ clockQuoted t.time) ++ ")"
  | .date d => "datetime.date(" ++ Text.join ", " (dateQuoted d) ++ ")"
  | .time t => "datetime.time(" ++ Text.join ", " (clockQuoted t) ++ ")"
  | .uuid s => "UUID('" ++ s ++ "')"
  | .list items => "[" ++ Text.join ", " (quotedItems items) ++ "]"
  | .tuple [item] => "(" ++ quoted item ++ ",)"
  | .tuple items => "(" ++ Text.join ", " (quotedItems items) ++ ")"
  | .mapping entries => "\x7b" ++ Text.join ", " (quotedEntries entries) ++ "\x7d"
  | .record _ => recordText

/-- The items of a list, each as it stands there. -/
def quotedItems : List Value → List String
  | [] => []
  | item :: rest => quoted item :: quotedItems rest

/-- The entries of a mapping, each as it stands there. -/
def quotedEntries : List (String × Value) → List String
  | [] => []
  | (key, value) :: rest => (Text.quoted key ++ ": " ++ quoted value) :: quotedEntries rest

end

/-- The value as it stands in running text. -/
def shown : Value → String
  | .text s => s
  | .decimal d => d.text
  | .dateTime t => t.textWith " "
  | .date d => d.text
  | .time t => t.text
  | .uuid s => s
  | v => v.quoted

mutual

/-- The value holds an integer too long to be written down. -/
def isTooLong : Value → Bool
  | .int n => n.natAbs ≥ Nat.pow 10 Number.maxDigits
  | .list items | .tuple items => anyTooLong items
  | .mapping entries => anyEntryTooLong entries
  | _ => false

/-- One of the items is too long. -/
def anyTooLong : List Value → Bool
  | [] => false
  | item :: rest => isTooLong item || anyTooLong rest

/-- The value of one of the entries is too long. -/
def anyEntryTooLong : List (String × Value) → Bool
  | [] => false
  | (_, value) :: rest => isTooLong value || anyEntryTooLong rest

end

end Value

/-- Null, or the value of something that is there. -/
def optionValue {α : Type} (f : α → Value) : Option α → Value
  | none => .null
  | some a => f a

def textsValue (texts : List String) : Value := .list (texts.map .text)

end TableGate

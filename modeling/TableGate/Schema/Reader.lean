/-
# Models read from mappings

A model is read field by field. Every field that does not fit is reported, with
its place, and the model is there only if all of them fit. Fields are read
leniently: a text of digits is an integer where one is asked for, and words such
as `yes` and `off` are booleans; fields that the model does not know are passed
over.

Key definitions: `Checked`, `Checked.seq`, `Reader.required`, `Reader.defaulted`,
`Reader.orNull`, `Reader.text`, `Reader.bool`, `Reader.int`, `Reader.double`,
`Reader.list`.
-/
import TableGate.Calendar.Stamp
import TableGate.Error.Fault
import TableGate.Text.Case

namespace TableGate

/-- The outcome of reading: a value, or everything that does not fit. -/
inductive Checked (α : Type) where
  | fits (a : α)
  | misfits (issues : List Issue)
deriving Repr

namespace Checked

/-- A value made of two: both are read, and the misfits of both are reported. -/
def seq {α β : Type} (f : Checked (α → β)) (x : Unit → Checked α) : Checked β :=
  match f, x () with
  | .fits f, .fits a => .fits (f a)
  | .fits _, .misfits issues => .misfits issues
  | .misfits issues, .fits _ => .misfits issues
  | .misfits issues, .misfits more => .misfits (issues ++ more)

instance : Applicative Checked where
  pure := .fits
  seq := seq

/-- A check that the value as a whole has to pass. -/
def thenCheck {α β : Type} (x : Checked α) (f : α → Checked β) : Checked β :=
  match x with
  | .fits a => f a
  | .misfits issues => .misfits issues

/-- Puts a step in front of the place of every misfit. -/
def inside {α : Type} (place : Place) : Checked α → Checked α
  | .fits a => .fits a
  | .misfits issues =>
    .misfits (issues.map fun i => { i with place := place :: i.place })

/-- A single misfit at the place itself. -/
def misfit {α : Type} (m : Misfit) : Checked α := .misfits [⟨[], m⟩]

/-- The value, or the fault that tells what does not fit. -/
def toExcept {α : Type} : Checked α → Except Fault α
  | .fits a => .ok a
  | .misfits issues => .error (.model issues)

end Checked

namespace Reader

/-- The entries of a mapping. -/
abbrev Entries := List (String × Value)

/-- A field that must be there. -/
def required {α : Type} (es : Entries) (name : String) (read : Value → Checked α) : Checked α :=
  match Value.lookup? es name with
  | some v => (read v).inside (.field name)
  | none => Checked.inside (.field name) (.misfit .missing)

/-- A field with a default. -/
def defaulted {α : Type} (es : Entries) (name : String) (default : α) (read : Value → Checked α) :
    Checked α :=
  match Value.lookup? es name with
  | some v => (read v).inside (.field name)
  | none => .fits default

/-- The field that names the schema; it goes by `schema_name` where only that is
there. -/
def schemaField (es : Entries) : String :=
  match Value.lookup? es "schema", Value.lookup? es "schema_name" with
  | none, some _ => "schema_name"
  | _, _ => "schema"

def orNull {α : Type} (read : Value → Checked α) (v : Value) : Checked (Option α) :=
  match v with
  | .null => .fits none
  | v => some <$> read v

def any (v : Value) : Checked Value := .fits v

/-- A text, also one in bytes. -/
def text : Value → Checked String
  | .text s => .fits s
  | .bytes bs =>
    match Text.decodeUtf8? bs with
    | some s => .fits s
    | none => .misfit .textUnicode
  | _ => .misfit .textType

/-- The boolean that a word stands for. -/
def boolWord (s : String) : Checked Bool :=
  let word := Text.lower s
  if ["0", "off", "f", "false", "n", "no"].contains word then .fits false
  else if ["1", "on", "t", "true", "y", "yes"].contains word then .fits true
  else .misfit .boolParsing

/-- The number has a size of less than 64 bits. -/
def isShort (n : Int) : Bool := n.natAbs < Nat.pow 2 63

/-- The boolean that a number stands for. -/
def boolNumber (n : Int) : Checked Bool :=
  if n = 0 then .fits false else if n = 1 then .fits true
  else if isShort n then .misfit .boolParsing else .misfit .boolType

/-- The boolean that a floating-point number stands for. -/
def boolDouble (x : Double) : Checked Bool :=
  match x.truncate? with
  | some n => if x.isIntegral then boolNumber n else .misfit .boolType
  | none => .misfit .boolType

def bool : Value → Checked Bool
  | .bool b => .fits b
  | .int n => boolNumber n
  | .text s => boolWord s
  | .bytes bs =>
    match Text.decodeUtf8? bs with
    | some s => boolWord s
    | none => .misfit .boolParsing
  | .float x => boolDouble x
  | .decimal d => (d.toDouble?).elim (.misfit .boolType) boolDouble
  | _ => .misfit .boolType

/-- A digit of ASCII. -/
def isPlainDigit (c : Char) : Bool := '0' ≤ c && c ≤ '9'

/-- A text without its underscores, if it has any and each stands alone between
two other characters. -/
def withoutUnderscores? (cs : List Char) : Option (List Char) :=
  if cs.head? == some '_' || cs.getLast? == some '_' || !cs.contains '_' ||
      (cs.zip cs.tail).contains ('_', '_') then none
  else some (cs.filter (· != '_'))

/-- What a text holds behind its zeros and underscores, the last of which is
`last`: a point keeps it in front, and so does the end. -/
def afterZeros? (last : Char) : List Char → Option (List Char)
  | [] => some [last]
  | c :: cs =>
    if c = '0' ∨ c = '_' then afterZeros? c cs
    else if isPlainDigit c ∨ c = '-' then some (c :: cs)
    else if c = '.' then some (last :: c :: cs)
    else none

/-- An integer text without a plus sign and without zeros in front. -/
def significantText? (cs : List Char) : Option (List Char) :=
  match (if cs.head? = some '+' then cs.tail else cs), cs.head? with
  | '-' :: rest, sign => if sign = some '+' then none else some ('-' :: rest)
  | '0' :: rest, _ => afterZeros? '0' rest
  | c :: rest, _ => if isPlainDigit c then some (c :: rest) else none
  | [], _ => none

/-- The text without a fraction of one or more zeros. -/
def dropZeroFraction (cs : List Char) : List Char :=
  let fraction := (cs.dropWhile (· != '.')).drop 1
  if !fraction.isEmpty && fraction.all (· == '0') then cs.takeWhile (· != '.') else cs

/-- The integer that stands in digits of ASCII, with nothing around them but a
minus sign; a zero begins no other number. -/
def plainInt (cs : List Char) : Checked Int :=
  let negative := cs.head? == some '-'
  let body := if negative then cs.tail else cs
  let digits := body.takeWhile isPlainDigit
  if digits.head? != some '0' && cs.length - body.length + digits.length > Number.maxDigits then
    .misfit .intSize
  else if digits.isEmpty || digits.length ≠ body.length then .misfit .intParsing
  else if digits.head? == some '0' && digits.length > 1 then .misfit .intParsing
  else
    let n := Decimal.ofDigitValues (digits.map fun c => c.toNat - '0'.toNat)
    .fits (if negative then -(n : Int) else n)

/-- The integer that a text stands for: digits of ASCII, zeros in front, single
underscores, and a fraction of zeros. -/
def intText (s : String) : Checked Int :=
  match significantText? (Number.inner s) with
  | none => .misfit .intParsing
  | some cs =>
    let cs := dropZeroFraction cs
    plainInt ((withoutUnderscores? cs).getD cs)

def int : Value → Checked Int
  | .bool b => .fits (if b then 1 else 0)
  | .int n => .fits n
  | .text s => intText s
  | .bytes bs =>
    match Text.decodeUtf8? bs with
    | some s => intText s
    | none => .misfit .intParsing
  | .float x =>
    match x.truncate? with
    | none => .misfit .notFinite
    | some n =>
      if !x.isIntegral then .misfit .intFromFloat
      else if isShort n then .fits n else .misfit .intSize
  | .decimal d =>
    match d.truncate? with
    | none => .misfit .notFinite
    | some n => if d.isIntegral then .fits n else .misfit .intFromFloat
  | _ => .misfit .intType

/-- The floating-point number that stands in ASCII, with no blanks around it. -/
def plainDouble? (cs : List Char) : Option Double :=
  if cs.all fun c => c.toNat < 128 && !Text.isBlank c && c != '_' then
    Number.readDouble? (String.ofList cs)
  else none

/-- The floating-point number that a text stands for: blanks may stand around it,
or single underscores in it. -/
def doubleText (s : String) : Checked Double :=
  let grouped (_ : Unit) := (withoutUnderscores? s.toList).bind plainDouble?
  match (plainDouble? (Number.inner s)).orElse grouped with
  | some x => .fits x
  | none => .misfit .floatParsing

/-- A floating-point number. -/
def double : Value → Checked Double
  | .bool b => .fits (.ofInt (if b then 1 else 0))
  | .int n =>
    let x := Double.ofInt n
    if x.isFinite then .fits x else .misfit .floatType
  | .float x => .fits x
  | .decimal d =>
    match d.toDouble? with
    | some x => .fits x
    | none => .misfit .floatType
  | .text s => doubleText s
  | .bytes bs =>
    match Text.decodeUtf8? bs with
    | some s => doubleText s
    | none => .misfit .floatParsing
  | _ => .misfit .floatType

/-- The items of a list, each read, from the one with number `index` on. -/
def items {α : Type} (read : Value → Checked α) (index : Nat) : List Value → Checked (List α)
  | [] => .fits []
  | v :: vs =>
    Checked.seq (List.cons <$> (read v).inside (.item index)) fun _ => items read (index + 1) vs

def list {α : Type} (read : Value → Checked α) : Value → Checked (List α)
  | .list vs | .tuple vs => items read 0 vs
  | _ => .misfit .listType

def mapping : Value → Checked Entries
  | .mapping es => .fits es
  | _ => .misfit .mappingType

/-- A model inside another one. -/
def model {α : Type} (read : Entries → Checked α) : Value → Checked α
  | .mapping es => read es
  | _ => .misfit .modelType

def choice {α : Type} (ofWord? : String → Option α) : Value → Checked α
  | .text s =>
    match ofWord? s with
    | some a => .fits a
    | none => .misfit .choice
  | _ => .misfit .choice

/-- The moment, or the misfit that its absence is. -/
def moment (m : Misfit) : Option DateTime → Checked DateTime
  | some t => .fits t
  | none => .misfit m

/-- A day and time of day: also a day alone, a time stamp in a text, or a number
of seconds. -/
def dateTime : Value → Checked DateTime
  | .dateTime t => .fits t
  | .date d => .fits ⟨d, ⟨0, 0, 0, 0, none⟩⟩
  | .text s => moment .dateTimeText (Stamp.ofText? s)
  | .bytes bs => moment .dateTimeText ((Text.decodeUtf8? bs).bind Stamp.ofText?)
  | .int n =>
    if (Double.ofInt n).isFinite then moment .dateTimeNumber (Stamp.ofCount? n 0)
    else .misfit .dateTimeType
  | .float x => moment .dateTimeNumber (Stamp.ofDouble? x)
  | .decimal d =>
    match d.toDouble? with
    | some x => moment .dateTimeNumber (Stamp.ofDouble? x)
    | none => .misfit .dateTimeType
  | _ => .misfit .dateTimeType

end Reader
end TableGate

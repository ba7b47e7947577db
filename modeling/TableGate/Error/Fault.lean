/-
# Faults

Whatever can stop an operation: an error that is answered, a refused value, a
model whose fields do not fit, a failure of reading or converting a value, and
an exception of the database driver or of a caller's function, of which only its
description is known.

Key definitions: `Refusal`, `Issue`, `Foreign`, `Fault`, `Fault.text`,
`Fault.isOs`.
-/
import TableGate.Error.Api

namespace TableGate

/-- Why a value was refused outside a request. -/
inductive Refusal where
  /-- A setting that is no value of its kind. -/
  | setting (kind name value : String)
  | rowCeiling (n : Int)
  | pollingInterval (shown : String)
  | placeholderIndex (n : Int)
  | unknownDialect (name : String) (allowed : List String)
  | unreadableScript
  /-- Parameters for a statement without placeholders. -/
  | noPlaceholders
  | placeholderGap (highest : Nat) (seen : List Nat)
  | tooFewParameters (expected given : Nat)
  | numericLiteral (shown : String)
  | columnPairs (name : String) (columns referenced : Nat)
  | keyColumns (missing : List String) (table : String)
  /-- A value that cannot be read; nothing more is said about it. -/
  | unreadable
deriving DecidableEq, Repr

/-- A wording that ends in a number, unless that cannot be written down. -/
def Refusal.numbered? (wording : String) (n : Int) : Option String :=
  if (Value.int n).isTooLong then none else some (wording ++ toString n)

/-- The wording of a refusal, if it has one. -/
def Refusal.message? : Refusal → Option String
  | .setting kind name value =>
    some ("Invalid " ++ kind ++ " for " ++ name ++ ": '" ++ value ++ "'")
  | .rowCeiling n => numbered? "max_rows must be positive, got " n
  | .pollingInterval shown => some ("Polling interval must be positive, got " ++ shown)
  | .placeholderIndex n => numbered? "Invalid placeholder index: " n
  | .unknownDialect name allowed =>
    some ("Unknown dialect: '" ++ name ++ "'. Allowed values: " ++ Text.join ", " allowed)
  | .unreadableScript => some "Unable to tokenize SQL script"
  | .noPlaceholders =>
    some "T-SQL query received params but no @paramN placeholders were found."
  | .placeholderGap highest seen =>
    some ("Invalid placeholder sequence: expected @param0..@param" ++ toString highest ++
      " without gaps, got [" ++ Text.join ", " (seen.map toString) ++ "].")
  | .tooFewParameters expected given =>
    some ("Not enough parameters for placeholders: expected " ++ toString expected ++ ", got " ++
      toString given ++ ".")
  | .numericLiteral shown => some ("invalid numeric literal " ++ shown)
  | .columnPairs name columns referenced =>
    some ("Foreign key '" ++ name ++ "' pairs " ++ toString columns ++ " columns with " ++
      toString referenced ++ " referenced columns")
  | .keyColumns missing table =>
    some ("Primary key columns [" ++ Text.join ", " (missing.map Text.quoted) ++
      "] are not columns of table '" ++ table ++ "'")
  | .unreadable => none

/-- One step into a model: a field or a place in a list. -/
inductive Place where
  | field (name : String)
  | item (index : Nat)
deriving DecidableEq, Repr

/-- Why a field of a model does not fit. -/
inductive Misfit where
  | missing
  | textType
  | textUnicode
  | boolType
  | boolParsing
  | intType
  | intParsing
  | intFromFloat
  | intSize
  | notFinite
  | floatType
  | floatParsing
  | listType
  | mappingType
  | modelType
  | choice
  | dateTimeType
  | dateTimeText
  | dateTimeNumber
  /-- The fields fit, and the model as a whole is refused. -/
  | refused (why : Refusal)
deriving DecidableEq, Repr

/-- A misfit and where it is. -/
structure Issue where
  place : List Place
  misfit : Misfit
deriving DecidableEq, Repr

/-- What an exception of a driver or of a caller's function descends from, as
far as it matters. A timeout is a system error too. -/
inductive Lineage where
  | plain
  | system
  | timeout
deriving DecidableEq, Repr

/-- An exception of the driver or of a caller's function, by its description. -/
structure Foreign where
  name : String
  origin : String
  lineage : Lineage
  /-- The driver family it belongs to, by provider name. -/
  driver : Option String
  args : List Value
  sqlState : Value
deriving Repr

/-- Whatever can stop an operation. -/
inductive Fault where
  | api (e : ApiError)
  | refused (why : Refusal)
  | model (issues : List Issue)
  /-- A row lacks a key. -/
  | missingKey
  /-- A list lacks an item. -/
  | missingItem
  /-- A value of a kind that an operation does not take. -/
  | wrongType
  /-- A number too large for its conversion. -/
  | overflow
  | malformedJson (why : JsonIssue)
  /-- Bytes that are no text. -/
  | undecodable
  /-- A base path that does not begin with a slash. -/
  | relativeBasePath
  /-- A poller that is running was started. -/
  | alreadyRunning (schema table : String)
  /-- An exception of a driver or a caller's function, and the one it wraps. -/
  | foreign (e : Foreign) (wrapped : Option Fault)
deriving Repr

instance : Inhabited Fault := ⟨.wrongType⟩

/-- The text of an exception: nothing, its one argument, or its arguments as a
tuple. A system error with a number shows it in brackets. -/
def Foreign.text (e : Foreign) : String :=
  match e.args with
  | [] => ""
  | [a] => if e.name == "KeyError" && e.driver.isNone then a.quoted else a.shown
  | a :: b :: rest =>
    if e.driver == some "postgresql" then a.shown
    else if e.driver.isNone && e.lineage != .plain then
      match rest with
      | [] => "[Errno " ++ a.shown ++ "] " ++ b.shown
      | [c] => "[Errno " ++ a.shown ++ "] " ++ b.shown ++ ": " ++ c.quoted
      | _ => (Value.tuple e.args).quoted
    else (Value.tuple e.args).quoted

namespace Fault

def text : Fault → String
  | .api e => e.message
  | .refused why => why.message?.getD ""
  | .alreadyRunning schema table =>
    "Change poller for " ++ schema ++ "." ++ table ++ " already running"
  | .foreign e _ => e.text
  | .malformedJson why => why.text
  | _ => ""

/-- A system error: the network, the operating system, or a lost database. -/
def isOs : Fault → Bool
  | .api (.connection ..) => true
  | .foreign e _ => e.lineage != .plain
  | _ => false

/-- A value that could not be read, in one of the ways that count as such. -/
def isUnreadable : Fault → Bool
  | .refused _ | .malformedJson _ | .undecodable => true
  | .api (.unknownProvider ..) => true
  | .model _ => true
  | _ => false

end Fault
end TableGate

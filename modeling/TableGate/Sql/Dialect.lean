/-
# SQL dialects

The two dialects that statements are written in, and what differs between them:
how a name is quoted, how a parameter is marked, how a page is cut, and which
clause returns the affected row.

A name is quoted by enclosing it and doubling the closing quote inside; see
`Dialect.quote`. Parameters are numbered from one in PostgreSQL (`$1`) and from
zero in T-SQL (`@param0`).

Key definitions: `Dialect`, `Dialect.quote`, `Dialect.quoteQualified`,
`Dialect.slot`, `Dialect.paginate`, `Dialect.paginate?`, `Dialect.ofProvider`.
-/
import TableGate.Error.Fault

namespace TableGate

inductive Dialect where
  | postgres
  | sqlServer
deriving DecidableEq, Repr, Inhabited

namespace Dialect

/-- The name of a dialect and of its provider. -/
def name : Dialect → String
  | .postgres => "postgresql"
  | .sqlServer => "tsql"

/-- The schema of objects for which none is named. -/
def defaultSchema : Dialect → String
  | .postgres => "public"
  | .sqlServer => "dbo"

/-- The quote in front of a name. -/
def quoteOpen : Dialect → Char
  | .postgres => '"'
  | .sqlServer => '['

/-- The quote behind a name. -/
def quoteClose : Dialect → Char
  | .postgres => '"'
  | .sqlServer => ']'

/-- A name between quotes, the closing quote doubled inside. -/
def quoteChars (d : Dialect) (cs : List Char) : List Char :=
  d.quoteOpen :: Text.doubleChars d.quoteClose cs ++ [d.quoteClose]

def quote (d : Dialect) (s : String) : String := String.ofList (d.quoteChars s.toList)

/-- A name qualified by a schema; an empty or absent schema is left out. -/
def quoteQualified (d : Dialect) (name : String) (schema : Option String) : String :=
  match schema with
  | none => d.quote name
  | some s => if s.isEmpty then d.quote name else d.quote s ++ "." ++ d.quote name

/-- What stands before the number of a parameter. -/
def slotMark : Dialect → String
  | .postgres => "$"
  | .sqlServer => "@param"

/-- The number of the first parameter. -/
def slotBase : Dialect → Nat
  | .postgres => 1
  | .sqlServer => 0

/-- The mark of the parameter with an index counted from zero. -/
def slot (d : Dialect) (index : Nat) : String := d.slotMark ++ toString (index + d.slotBase)

/-- The mark of a parameter; an index below zero is refused. -/
def slot? (d : Dialect) (index : Int) : Except Fault String :=
  if index < 0 then .error (.refused (.placeholderIndex index)) else .ok (d.slot index.toNat)

/-- The clause that cuts a page out of the rows. -/
def paginate (d : Dialect) (limit offset : Int) : String :=
  match d with
  | .postgres => "LIMIT " ++ toString limit ++ " OFFSET " ++ toString offset
  | .sqlServer =>
    "OFFSET " ++ toString offset ++ " ROWS FETCH NEXT " ++ toString limit ++ " ROWS ONLY"

/-- The clause that cuts a page out of the rows; bounds that cannot be written down
are refused. -/
def paginate? (d : Dialect) (limit offset : Int) : Except Fault String :=
  if (Value.int limit).isTooLong || (Value.int offset).isTooLong then .error (.refused .unreadable)
  else .ok (d.paginate limit offset)

/-- The clause before the values or the condition that returns the affected row,
if the dialect has it there. -/
def outputClause (d : Dialect) (rows : String) : String :=
  match d with
  | .postgres => ""
  | .sqlServer => "OUTPUT " ++ rows ++ ".*"

/-- The clause at the end that returns the affected row, if the dialect has it
there. -/
def returningClause : Dialect → String
  | .postgres => "RETURNING *"
  | .sqlServer => ""

/-- A page may only be cut out of ordered rows. -/
def pagesNeedOrder : Dialect → Bool
  | .postgres => false
  | .sqlServer => true

/-- A pattern can be matched regardless of case. -/
def hasCaselessLike : Dialect → Bool
  | .postgres => true
  | .sqlServer => false

/-- A condition can ask whether a boolean is true. -/
def hasBooleanTest : Dialect → Bool
  | .postgres => true
  | .sqlServer => false

/-- A boolean constant. -/
def boolLiteral (d : Dialect) (b : Bool) : String :=
  match d, b with
  | .postgres, true => "TRUE"
  | .postgres, false => "FALSE"
  | .sqlServer, true => "1"
  | .sqlServer, false => "0"

end Dialect

/-- The spellings of the providers, each with the name it stands for. -/
def providerSpellings : List (String × String) :=
  [("postgresql", "postgresql"), ("postgres", "postgresql"), ("pg", "postgresql"),
   ("tsql", "tsql"), ("t-sql", "tsql"), ("mssql", "tsql"), ("sqlserver", "tsql"),
   ("azuresql", "tsql"), ("azure-sql", "tsql")]

/-- The name of a provider for one of its spellings; any other text without
blanks around it and in lower case. -/
def normalizeProvider (s : String) : String :=
  let cleaned := Text.lower (Text.trim s)
  ((providerSpellings.find? fun e => e.1 == cleaned).map Prod.snd).getD cleaned

/-- The dialect that a provider's name or spelling stands for. -/
def Dialect.ofProvider? (s : String) : Option Dialect :=
  let provider := normalizeProvider s
  [Dialect.postgres, Dialect.sqlServer].find? fun d => d.name == provider

/-- The dialect of a provider; an unknown name is refused. -/
def Dialect.ofProvider (s : String) : Except Fault Dialect :=
  match Dialect.ofProvider? s with
  | some d => .ok d
  | none => .error (.refused (.unknownDialect s ["postgresql", "tsql"]))

end TableGate

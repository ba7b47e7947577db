/-
# Scripts as statements

A script is cut at the semicolons outside quotes, comments and blocks. A block
is opened by `CASE`, and by `BEGIN` unless it begins a transaction, and closed by
`END`; an `END` without a block closes nothing. A statement is the text between
two cuts without the blanks around it; one without a token is left out.

Key definitions: `Sql.opensBlock`, `Sql.cutStatements`, `Sql.splitStatements`.
-/
import TableGate.Sql.Dialect
import TableGate.Sql.Lexicons
import TableGate.Sql.Token

namespace TableGate
namespace Sql

/-- The words after which `BEGIN` begins a transaction. -/
def transactionWords : List String := ["TRANSACTION", "TRAN", "WORK"]

/-- The first token of a row of segments. -/
def firstToken? : List Segment → Option Token
  | [] => none
  | .gap _ :: rest => firstToken? rest
  | .token t :: _ => some t

/-- The token opens a block, where `rest` follows it. -/
def opensBlock (t : Token) (rest : List Segment) : Bool :=
  match t.kind with
  | .caseWord => true
  | .beginWord =>
    match firstToken? rest with
    | none => false
    | some next =>
      next.kind != .semicolon && !transactionWords.contains (Text.upper (String.ofList next.word))
  | _ => false

/-- The number of open blocks after a token. -/
def depthAfter (depth : Nat) (t : Token) (rest : List Segment) : Nat :=
  if opensBlock t rest then depth + 1 else if t.kind = .endWord then depth - 1 else depth

/-- The statement in a chunk of a script, if it holds a token. -/
def statementOf (hasToken : Bool) (chunk : List (List Char)) : List (List Char) :=
  let text := Text.trimChars chunk.reverse.flatten
  if hasToken && !text.isEmpty then [text] else []

/-- The statements of a row of segments, where `depth` blocks are open and
`chunk` holds the texts since the last cut, latest first. -/
def cutFrom (chunk : List (List Char)) (hasToken : Bool) (depth : Nat) :
    List Segment → List (List Char)
  | [] => statementOf hasToken chunk
  | .gap text :: rest => cutFrom (text :: chunk) hasToken depth rest
  | .token t :: rest =>
    if t.kind = .semicolon ∧ depth = 0 then statementOf hasToken chunk ++ cutFrom [] false 0 rest
    else cutFrom (t.text :: chunk) true (depthAfter depth t rest) rest

/-- The statements of a row of segments. -/
def cutStatements (ss : List Segment) : List (List Char) := cutFrom [] false 0 ss

/-- The name of a script dialect for one of its spellings, in lower case and
without blanks around it; none is PostgreSQL. -/
def normalizeScriptDialect (name : Option String) : String :=
  match name with
  | none => "postgres"
  | some s =>
    if s.isEmpty then "postgres"
    else
      let cleaned := Text.trim (Text.lower s)
      if ["postgresql", "pg"].contains cleaned then "postgres"
      else if ["mssql", "sqlserver", "azuresql", "t-sql"].contains cleaned then "tsql"
      else cleaned

/-- The lexicon that a name stands for; an unknown name is refused. -/
def lexiconOf (name : Option String) : Except Fault Lexicon :=
  match Lexicon.configured? (normalizeScriptDialect name) with
  | some l => .ok l
  | none => .error (.refused .unreadable)

/-- The statements of a script that is read with a lexicon. -/
def splitScript (l : Lexicon) (script : String) : Except Fault (List String) := do
  let ss ← segments l script.toList
  pure ((cutStatements ss).map String.ofList)

/-- The statements of a script in the dialect with a name. -/
def splitStatements (script : String) (name : Option String) : Except Fault (List String) := do
  splitScript (← lexiconOf name) script

end Sql

def Dialect.lexicon : Dialect → Sql.Lexicon
  | .postgres => .postgres
  | .sqlServer => .sqlServer

end TableGate

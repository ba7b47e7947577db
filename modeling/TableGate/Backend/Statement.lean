/-
# Statements sent to a backend

A statement runs on a connection that is taken from the pool for it and given
back in every case. Failures of the driver are passed on as errors with a
category; the connection is given back before they reach the caller.

Key definitions: `Adapter.translating`, `Adapter.traced`, `Adapter.withConnection`,
`Adapter.runOn`, `Adapter.query`, `Adapter.queryFirst`.
-/
import TableGate.Backend.Reply
import TableGate.Digest.Sha256
import TableGate.Error.Classification
import TableGate.Sql.Coercion
import TableGate.Sql.Placeholder
import TableGate.Sql.Statement

namespace TableGate

/-- The product that speaks a dialect. -/
def Dialect.product : Dialect → String
  | .postgres => "PostgreSQL"
  | .sqlServer => "SQL Server"

/-- The digest that a statement is told by. -/
def statementDigest (sql : String) : String := Sha256.hexDigest (Text.encodeUtf8 sql)

namespace Adapter

variable {σ α : Type} (a : Adapter σ)

/-- The driver raised the failure, or the system below it did. -/
def isDriverFault (e : Fault) : Bool :=
  match e with
  | .foreign f _ => f.driver == some a.dialect.name || e.isOs
  | e => e.isOs

/-- Passes failures of the driver on as errors with a category. -/
def translating (sql : Option String) (act : Action σ α) : Action σ α :=
  act.mapFault fun e => if a.isDriverFault e then e.translated sql else e

/-- Runs an action inside a span, if spans are recorded. -/
def traced (kind : SpanKind) (sql : Option String) (act : Action σ α) : Action σ α := do
  if ← Action.ofExcept a.tracing then
    let r ← act.outcome
    let digest := (sql.filter fun s => !s.isEmpty).map statementDigest
    modify fun s => { s with spans := s.spans ++ [⟨kind, a.dialect, digest, r.isOk⟩] }
    Action.ofExcept r
  else act

/-- Takes a connection from the pool. -/
def acquire : Action σ Nat := .of fun s =>
  match a.driver.acquire s.backend with
  | (.ok (), b) =>
    (.ok s.nextConnection,
      { s with
        backend := b
        log := s.log ++ [.acquire (some s.nextConnection)]
        nextConnection := s.nextConnection + 1 })
  | (.error e, b) => (.error e, { s with backend := b, log := s.log ++ [.acquire none] })

/-- Takes a connection from the pool, if one is open. -/
def checkout : Action σ Nat := do
  if (← get).pool.isSome then a.translating none a.acquire
  else throw (.api (.connection (a.dialect.product ++ " adapter is not connected") []))

/-- Gives a connection to an action and takes it back in every case. -/
def withConnection (use : Nat → Action σ α) : Action σ α := do
  let c ← a.checkout
  (use c).andFinally (.record (.release c))

/-- Runs a statement that the driver prepares first: the declared types decide
the form of the parameters. -/
def runPrepared (c : Nat) (sql : String) (params : List Value) : Action σ QueryResult := do
  let (fields, fetched) ← a.translating (some sql) (a.traced .query (some sql) do
    let prepared ← Action.ask (a.driver.prepare sql) (.prepare c sql)
    let fields ← Action.ofExcept (prepared.attributes.mapM ResultField.ofAttribute)
    let bound ← Action.ofExcept (Sql.coerceAll prepared.parameterTypes params)
    let fetched ← Action.ask (a.driver.fetch bound) (.fetch c bound)
    pure (fields, fetched))
  Action.ofExcept (Reply.ofFetched fields fetched)

/-- Runs a statement through a cursor, which is closed in every case; parameters
are bound by position. -/
def runCursor (c : Nat) (sql : String) (params : List Value) : Action σ QueryResult := do
  let (text, bound) ← Action.ofExcept (Sql.bindByPosition sql params)
  let execution : Action σ QueryResult := do
    let cursor ← Action.ask (a.driver.execute text bound) (.execute c text bound)
    Action.ofExcept (Reply.ofCursor text cursor)
  a.translating (some sql)
    (a.traced .query (some text) (execution.andFinally (.record (.closeCursor c))))

/-- Runs a statement on a connection. -/
def runOn (c : Nat) (sql : String) (params : List Value) : Action σ QueryResult :=
  match a.dialect with
  | .postgres => a.runPrepared c sql params
  | .sqlServer => a.runCursor c sql params

/-- Runs a statement on a connection of its own. -/
def query (sql : String) (params : List Value) : Action σ QueryResult :=
  a.withConnection fun c => a.runOn c sql params

/-- Runs a statement and gives its first row. -/
def queryFirst (sql : String) (params : List Value) : Action σ (Option Row) := do
  pure (← a.query sql params).first?

def send (command : Command) : Action σ QueryResult := a.query command.text command.params

/-- Sends a command and gives its first row. -/
def sendFirst (command : Command) : Action σ (Option Row) := do
  pure (← a.send command).first?

end Adapter
end TableGate

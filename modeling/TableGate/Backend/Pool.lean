/-
# Pools of connections

A session has at most one open pool. Connecting opens one and tries it out; a
pool that does not answer is closed again and the session stays as it was but for
the settings. Connecting while a pool is open does nothing, and so does
disconnecting while none is.

Key definitions: `poolArguments`, `schemaOr`, `Adapter.connect`,
`Session.disconnect`.
-/
import TableGate.Backend.Statement

namespace TableGate

/-- What a pool of a driver that prepares statements is opened with. -/
def preparedPoolArguments (s : ConnectionSettings) : List Value :=
  [.mapping [("host", .text s.host), ("port", .int ((s.port.filter (· != 0)).getD 5432)),
    ("user", optionValue .text s.user), ("password", optionValue .text s.password),
    ("database", .text s.database), ("ssl", if s.ssl then .text "require" else .null),
    ("min_size", .int 1), ("max_size", .int s.maxConnections),
    ("timeout", .float s.connectTimeout),
    ("command_timeout", (Value.lookup? s.options "command_timeout").getD (.int 60))]]

/-- The options of the driver that the settings add or replace. -/
def driverOptions (s : ConnectionSettings) : Except Fault (List (String × Value)) :=
  let options := Value.lookup s.options "connect_args"
  if options.isTruthy then Reply.entriesOf options else .ok []

/-- What a pool of a driver that works through cursors is opened with: where the
database is, and how the pool behaves. -/
def cursorPoolArguments (s : ConnectionSettings) : Except Fault (List Value) := do
  let loginTimeout ← (Value.float s.connectTimeout).toInt
  let timeout ← ((Value.lookup? s.options "command_timeout").getD (.int 60)).toInt
  let more ← driverOptions s
  let arguments := [("login_timeout", .int loginTimeout), ("timeout", .int timeout),
    ("autocommit", .bool true)] ++ (if s.ssl then [("encryption", .text "require")] else [])
  pure
    [.mapping [("drivername", .text "mssql+pymssql"), ("username", optionValue .text s.user),
      ("password", optionValue .text s.password), ("host", .text s.host),
      ("port", .int ((s.port.filter (· != 0)).getD 1433)), ("database", .text s.database)],
     .mapping [("pool_size", .int s.maxConnections), ("max_overflow", .int 0),
      ("pool_pre_ping", .bool true),
      ("connect_args", .mapping (Value.mergeKeys (arguments ++ more)))]]

/-- What a pool is opened with. -/
def poolArguments (d : Dialect) (s : ConnectionSettings) : Except Fault (List Value) :=
  match d with
  | .postgres => .ok (preparedPoolArguments s)
  | .sqlServer => cursorPoolArguments s

/-- The statement that tries a new pool out. -/
def pingStatement : String := "SELECT 1"

/-- The error for a pool that could not be opened or did not answer. -/
def connectFault (d : Dialect) (s : ConnectionSettings) (why : Fault) : Fault :=
  .api (.connection
    ("Failed to connect to " ++ d.product ++ " at " ++ s.host ++ ": " ++ why.text) [])

/-- The schema that is asked for, or that of the settings, or that of the
dialect. -/
def schemaOr (d : Dialect) (settings : Option ConnectionSettings) (schema : Option String) :
    String :=
  match schema.filter fun s => !s.isEmpty with
  | some s => s
  | none =>
    let configured := (settings.map fun s => Value.lookup s.options "schema").getD .null
    if configured.isTruthy then configured.shown else d.defaultSchema

namespace Session

variable {σ : Type}

/-- Closes the pool, if one is open. -/
def disconnect : Action σ Unit := do
  match (← get).pool with
  | none => pure ()
  | some pool => do
    modify fun s => { s with pool := none }
    Action.record (.closePool pool)

def isConnected : Action σ Bool := do pure (← get).pool.isSome

end Session

namespace Adapter

variable {σ : Type} (a : Adapter σ)

/-- Opens a pool. Only a driver that prepares statements connects at once, and
can fail to. -/
def openPool (arguments : List Value) : Action σ Nat := .of fun s =>
  let opened (b : σ) : Except Fault Nat × Session σ :=
    (.ok s.nextPool,
      { s with
        backend := b
        log := s.log ++ [.openPool (some s.nextPool) arguments]
        nextPool := s.nextPool + 1 })
  match a.dialect with
  | .sqlServer => opened s.backend
  | .postgres =>
    match a.driver.openPool arguments s.backend with
    | (.ok (), b) => opened b
    | (.error e, b) =>
      (.error e, { s with backend := b, log := s.log ++ [.openPool none arguments] })

/-- Asks a connection for an answer; a cursor is closed only if there is one. -/
def ping (c : Nat) : Action σ Unit :=
  match a.dialect with
  | .postgres => Action.ask (a.driver.ping pingStatement) (.ping c pingStatement)
  | .sqlServer => do
    let _ ← Action.ask (a.driver.execute pingStatement none) (.execute c pingStatement none)
    Action.record (.closeCursor c)

/-- Takes a connection from a new pool, asks it for an answer and gives it back. -/
def tryOut : Action σ Unit := do
  let c ← a.acquire
  (a.ping c).andFinally (.record (.release c))

/-- Opens a pool and tries it out, unless one is open. -/
def connect (settings : ConnectionSettings) : Action σ Unit := do
  if (← get).pool.isSome then pure ()
  else
    modify fun s => { s with settings := some settings }
    let arguments ← Action.ofExcept (poolArguments a.dialect settings)
    let pool ← (a.openPool arguments).mapFault (connectFault a.dialect settings)
    match ← a.tryOut.outcome with
    | .ok () => modify fun s => { s with pool := some pool }
    | .error e => do
      Action.record (.closePool pool)
      throw (connectFault a.dialect settings e)

/-- The schema that is asked for, or the configured one. -/
def resolveSchema (schema : Option String) : Action σ String := do
  pure (schemaOr a.dialect (← get).settings schema)

end Adapter
end TableGate

/-
# Sessions with a backend

A session is what the library keeps while it talks to a backend: the pool, if one
is open, the settings it was last told to connect with, and what happened so far,
event by event. The backend itself is the state of a driver, of which nothing is
known but how it answers.

Connections and pools are numbered as they are opened, so the log tells which
connection a statement went to and when each was given back.

Key definitions: `Event`, `Answer`, `Driver`, `Session`, `Action`, `Action.ask`,
`Action.outcome`, `Action.andFinally`.
-/
import TableGate.Backend.Capabilities
import TableGate.Schema.Connection
import TableGate.Schema.Result

namespace TableGate

/-- What a driver tells about a prepared statement. -/
structure Prepared where
  attributes : List Value := []
  /-- The types declared for the parameters; none is a type without a name. -/
  parameterTypes : List (Option String) := []
deriving Repr, Inhabited

/-- What a prepared statement gave. -/
structure Fetched where
  rows : List Row := []
  /-- The word of the command and the numbers of rows, as the server says it. -/
  status : Option String := none
deriving Repr, Inhabited

/-- What a cursor holds after a statement. -/
structure CursorState where
  /-- An entry for each column; there is none if there are no rows to fetch. -/
  description : List Value := []
  rows : List (List Value) := []
  rowCount : Int := 0
deriving Repr, Inhabited

/-- What happens between the library and a driver. -/
inductive Event where
  /-- A pool is opened; without a number that failed. -/
  | openPool (pool : Option Nat) (arguments : List Value)
  /-- A connection is taken from the pool; without a number that failed. -/
  | acquire (connection : Option Nat)
  | prepare (connection : Nat) (sql : String)
  /-- The prepared statement runs. -/
  | fetch (connection : Nat) (params : List Value)
  /-- A statement that begins or ends a transaction, where it is not prepared. -/
  | control (connection : Nat) (sql : String)
  /-- A new pool is tried out. -/
  | ping (connection : Nat) (sql : String)
  /-- A statement runs through a cursor, with values bound or without. -/
  | execute (connection : Nat) (sql : String) (params : Option (List Value))
  | closeCursor (connection : Nat)
  | release (connection : Nat)
  | closePool (pool : Nat)
deriving Repr

/-- How a driver answers from its state: with a value or a failure, and a new
state. -/
abbrev Answer (σ α : Type) := σ → Except Fault α × σ

/-- A driver, by its answers. One that prepares statements is asked for all but
`execute`; one that works through cursors is asked for `acquire` and `execute`
only. -/
structure Driver (σ : Type) where
  openPool : List Value → Answer σ Unit
  acquire : Answer σ Unit
  ping : String → Answer σ Unit
  prepare : String → Answer σ Prepared
  fetch : List Value → Answer σ Fetched
  control : String → Answer σ Unit
  execute : String → Option (List Value) → Answer σ CursorState

/-- The operations that spans are recorded for. -/
inductive SpanKind where
  | query
  | transaction
  | introspection
deriving DecidableEq, Repr

def SpanKind.name : SpanKind → String
  | .query => "dal.query.execute"
  | .transaction => "dal.transaction"
  | .introspection => "dal.introspect"

/-- A span: which operation ran on which backend, and whether it succeeded. A
statement is told by its digest only. -/
structure Span where
  kind : SpanKind
  dialect : Dialect
  statementDigest : Option String
  succeeded : Bool
deriving Repr

/-- What a span tells about its operation. -/
def Span.attributes (s : Span) : List (String × Value) :=
  [("db.provider", .text s.dialect.name),
   ("db.execution_model", .text s.dialect.executionModel.text),
   ("db.status", .text (if s.succeeded then "ok" else "error"))] ++
    (s.statementDigest.map fun h => ("db.statement_hash", .text h)).toList

def Span.toValue (s : Span) : Value :=
  .record [("name", .text s.kind.name), ("attributes", .record s.attributes)]

/-- A session with a backend. -/
structure Session (σ : Type) where
  backend : σ
  /-- The number of the open pool. -/
  pool : Option Nat := none
  settings : Option ConnectionSettings := none
  /-- What happened, oldest first. -/
  log : List Event := []
  /-- The spans that ended, oldest first. -/
  spans : List Span := []
  nextPool : Nat := 0
  nextConnection : Nat := 0

/-- What is done in a session: it may fail, and the session goes on. -/
abbrev Action (σ α : Type) := ExceptT Fault (StateM (Session σ)) α

namespace Action

variable {σ α : Type}

/-- An action from what it does to a session. -/
def of (f : Session σ → Except Fault α × Session σ) : Action σ α := f

/-- An action that only has an outcome. -/
def ofExcept (r : Except Fault α) : Action σ α := of fun s => (r, s)

/-- Runs an action in a session. -/
def runIn (act : Action σ α) (s : Session σ) : Except Fault α × Session σ := act.run s

/-- The outcome of an action, which itself does not fail. -/
def outcome (act : Action σ α) : Action σ (Except Fault α) := of fun s =>
  let (r, s) := act.runIn s
  (.ok r, s)

/-- Does `after` once the action ended, well or not, and then ends as it did. -/
def andFinally (act : Action σ α) (after : Action σ Unit) : Action σ α := do
  let r ← act.outcome
  after
  ofExcept r

/-- Changes the failure of an action. -/
def mapFault (f : Fault → Fault) (act : Action σ α) : Action σ α := do
  match ← act.outcome with
  | .ok a => pure a
  | .error e => throw (f e)

/-- Adds an event to the log. -/
def record (e : Event) : Action σ Unit := modify fun s => { s with log := s.log ++ [e] }

/-- Lets the driver answer and records the event. -/
def ask (answer : Answer σ α) (e : Event) : Action σ α := of fun s =>
  let (r, b) := answer s.backend
  (r, { s with backend := b, log := s.log ++ [e] })

/-! What the ways of putting actions together do to a session. -/

@[simp] theorem runIn_pure (a : α) (s : Session σ) :
    (pure a : Action σ α).runIn s = (.ok a, s) := rfl

@[simp] theorem runIn_throw (e : Fault) (s : Session σ) :
    (throw e : Action σ α).runIn s = (.error e, s) := rfl

@[simp] theorem runIn_of (f : Session σ → Except Fault α × Session σ) (s : Session σ) :
    (of f).runIn s = f s := rfl

@[simp] theorem runIn_ofExcept (r : Except Fault α) (s : Session σ) :
    (ofExcept r).runIn s = (r, s) := rfl

@[simp] theorem ofExcept_ok_bind {β : Type} (a : α) (next : α → Action σ β) :
    ofExcept (.ok a) >>= next = next a := rfl

@[simp] theorem ofExcept_error_bind {β : Type} (e : Fault) (next : α → Action σ β) :
    ofExcept (.error e) >>= next = throw e := rfl

/-- The second action goes on from where the first ended, if that succeeded. -/
theorem runIn_bind {β : Type} (act : Action σ α) (next : α → Action σ β) (s : Session σ) :
    (act >>= next).runIn s =
      match act.runIn s with
      | (.ok a, t) => (next a).runIn t
      | (.error e, t) => (.error e, t) := by
  change (ExceptT.run (act >>= next)).run s = _
  simp only [ExceptT.run_bind]
  change _ = match (act.run).run s with
    | (.ok a, t) => ((next a).run).run t
    | (.error e, t) => (.error e, t)
  rw [StateT.run_bind]
  cases h : (act.run).run s with
  | mk r t => cases r <;> rfl

@[simp] theorem runIn_outcome (act : Action σ α) (s : Session σ) :
    act.outcome.runIn s = (.ok (act.runIn s).1, (act.runIn s).2) := rfl

@[simp] theorem runIn_record (e : Event) (s : Session σ) :
    (record e).runIn s = (.ok (), { s with log := s.log ++ [e] }) := rfl

@[simp] theorem runIn_ask (answer : Answer σ α) (e : Event) (s : Session σ) :
    (ask answer e).runIn s =
      ((answer s.backend).1,
        { s with backend := (answer s.backend).2, log := s.log ++ [e] }) := rfl

/-- What is done after an action is done whatever came of it, and the outcome is
that of the action unless what is done after it fails. -/
theorem runIn_andFinally (act : Action σ α) (after : Action σ Unit) (s : Session σ) :
    (act.andFinally after).runIn s =
      match after.runIn (act.runIn s).2 with
      | (.ok (), t) => ((act.runIn s).1, t)
      | (.error e, t) => (.error e, t) := by
  simp only [andFinally, runIn_bind, runIn_outcome]
  rcases after.runIn (act.runIn s).2 with ⟨r, t⟩
  cases r <;> rfl

end Action

/-- A backend: its dialect, its driver, and whether spans are recorded. -/
structure Adapter (σ : Type) where
  dialect : Dialect
  driver : Driver σ
  /-- What the environment says about recording; it may be no boolean. -/
  tracing : Except Fault Bool

end TableGate

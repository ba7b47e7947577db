/-
# Transactions

A transaction has a connection of its own. Between the statement that begins it
and the one that ends it runs the work of a caller, which may send statements and
may end the transaction itself, once: later attempts do nothing. If the work did
not end it, it is committed when the work is done and rolled back when the work
failed; then the failure of the work is the outcome, and an error of the rollback
is passed over if it is a query error.

Work is a tree: at each step it asks for something and goes on as the answer
decides. So it may be any caller whatever, and still cannot reach the session
except through the transaction.

Key definitions: `Work`, `Work.ofStatements`, `Work.runOn`, `Adapter.transaction`.
-/
import TableGate.Backend.Statement

namespace TableGate

/-- The work that a caller does inside a transaction. -/
inductive Work (σ : Type) (α : Type) where
  | done (a : α)
  | raise (e : Fault)
  | query (sql : String) (params : List Value) (next : Except Fault QueryResult → Work σ α)
  | commit (next : Except Fault Unit → Work σ α)
  | rollback (next : Except Fault Unit → Work σ α)
  /-- Asks whether the transaction was ended. -/
  | isEnded (next : Bool → Work σ α)
  /-- Does something of the caller's own in the world of the backend. -/
  | aside (change : σ → σ) (next : Work σ α)

/-- Statements one after another, up to the first that fails. -/
def Work.ofStatements {σ : Type} : List String → Work σ Unit
  | [] => .done ()
  | sql :: rest =>
    .query sql [] fun
      | .ok _ => ofStatements rest
      | .error e => .raise e

namespace Dialect

def beginStatement : Dialect → String
  | .postgres => "BEGIN"
  | .sqlServer => "BEGIN TRANSACTION"

def commitStatement : Dialect → String
  | .postgres => "COMMIT"
  | .sqlServer => "COMMIT TRANSACTION"

/-- The statement that rolls a transaction back. -/
def rollbackStatement : Dialect → String
  | .postgres => "ROLLBACK"
  | .sqlServer => "IF @@TRANCOUNT > 0 ROLLBACK TRANSACTION"

end Dialect

namespace Adapter

variable {σ α : Type} (a : Adapter σ)

/-- Sends a statement that begins or ends a transaction. -/
def control (c : Nat) (sql : String) : Action σ Unit :=
  match a.dialect with
  | .postgres =>
    a.translating (some sql)
      (a.traced .query (some sql) (Action.ask (a.driver.control sql) (.control c sql)))
  | .sqlServer => do
    let _ ← a.runCursor c sql []

end Adapter

/-- Does the work on a connection, where `ended` tells whether the transaction was
ended; gives the outcome, and whether it was ended in the end. -/
def Work.runOn {σ α : Type} (a : Adapter σ) (c : Nat) :
    Work σ α → Bool → StateM (Session σ) (Except Fault α × Bool)
  | .done v, ended => pure (.ok v, ended)
  | .raise e, ended => pure (.error e, ended)
  | .query sql params next, ended => do
    let r ← (a.runOn c sql params).run
    (next r).runOn a c ended
  | .commit next, ended => do
    let r ← if ended then pure (.ok ()) else (a.control c a.dialect.commitStatement).run
    (next r).runOn a c true
  | .rollback next, ended => do
    let r ← if ended then pure (.ok ()) else (a.control c a.dialect.rollbackStatement).run
    (next r).runOn a c true
  | .isEnded next, ended => (next ended).runOn a c ended
  | .aside change next, ended => do
    modify fun s => { s with backend := change s.backend }
    next.runOn a c ended

namespace Adapter

variable {σ α : Type} (a : Adapter σ)

/-- Rolls back after a failure of the work and fails with it; a query error of the
rollback itself is passed over. -/
def abandon (c : Nat) (e : Fault) : Action σ α := do
  match ← (a.control c a.dialect.rollbackStatement).outcome with
  | .ok () | .error (.api (.query ..)) => throw e
  | .error other => throw other

/-- Does the work between the statements that begin and end a transaction. -/
def transactionOn (c : Nat) (work : Work σ α) : Action σ α := do
  a.control c a.dialect.beginStatement
  match ← ExceptT.lift (work.runOn a c false) with
  | (.ok v, true) => pure v
  | (.ok v, false) => do
    a.control c a.dialect.commitStatement
    pure v
  | (.error e, true) => throw e
  | (.error e, false) => a.abandon c e

/-- Does the work of a caller in a transaction. -/
def transaction (work : Work σ α) : Action σ α :=
  a.traced .transaction none (a.withConnection fun c => a.transactionOn c work)

/-- Runs statements in one transaction; without any, none is begun. -/
def runAll (statements : List String) : Action σ Unit :=
  if statements.isEmpty then pure () else a.transaction (.ofStatements statements)

end Adapter
end TableGate

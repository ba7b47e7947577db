/-
# The change feed

A poller asks for the changes after a cursor and delivers them one by one. The
cursor moves past a change only once it was delivered, so a change whose delivery
fails is delivered again at the next poll. The polls are made by tasks: a loop,
which begins with `Poller.start` and waits between its polls, or whoever asks for
one poll (`Poller.pollOnce`). A task goes from one place where it waits to the
next at a time (`Poller.resume`), and in between anything else may happen: other
tasks go on, polling is started or stopped.

The poller holds the loop that it started last, and a stop lets go of it and
cancels it. Where the cancellation does not get through, the loop goes on, and the
poller knows nothing of it (`Poller.stop`).

Key definitions: `Delivery`, `Feed`, `Poller.Stage`, `Poller.Task`, `Poller`,
`Poller.make`, `Poller.start`, `Poller.pollOnce`, `Poller.resume`, `Poller.stop`,
`Poller.pollThrough`, `Poller.subscription`.
-/
import TableGate.Backend.Session
import TableGate.Schema.Change
import TableGate.Value.Number

namespace TableGate

/-- How the delivery of a change ends. -/
inductive Delivery where
  | accepted
  | failed (e : Fault)
deriving Repr

/-- Where changes come from, and where they go; `τ` is the state of both. -/
structure Feed (τ : Type) where
  /-- The changes of a table of a schema after a cursor. -/
  fetch : String → String → Value → Answer τ (List ChangeEvent)
  deliver : ChangeEvent → τ → Delivery × τ

/-- How a poll ends. -/
inductive PollOutcome where
  /-- Everything that was fetched was delivered. -/
  | delivered (count : Nat)
  | failed (e : Fault)
  /-- Its task was cancelled. -/
  | cancelled
deriving Repr

namespace Poller

/-- A poll in the middle of its deliveries. -/
structure Poll where
  /-- The cursor after which it asked. -/
  cursor : Value
  delivered : List ChangeEvent
  /-- The change that is being delivered. -/
  current : ChangeEvent
  rest : List ChangeEvent
deriving Repr

/-- Where a task waits. -/
inductive Stage where
  | ready
  /-- For the changes after a cursor. -/
  | asked (cursor : Value)
  /-- For the delivery of a change. -/
  | delivering (poll : Poll)
  /-- Its last poll ended so; a loop waits for the next one. -/
  | ended (outcome : PollOutcome)
deriving Repr

/-- The stage of a poll with some changes delivered and some not. -/
def Stage.onward (cursor : Value) (delivered : List ChangeEvent) : List ChangeEvent → Stage
  | [] => .ended (.delivered delivered.length)
  | e :: rest => .delivering { cursor, delivered, current := e, rest }

/-- Its poll is under way. -/
def Stage.isPolling : Stage → Bool
  | .asked _ => true
  | .delivering _ => true
  | _ => false

/-- A task that polls. -/
structure Task where
  /-- It polls again and again. -/
  loops : Bool
  stage : Stage := .ready
deriving Repr

/-- The task will not poll any more. -/
def Task.isDone (k : Task) : Bool :=
  match k.stage with
  | .ended .cancelled => true
  | .ended _ => !k.loops
  | _ => false

end Poller

structure Poller where
  table : String
  schema : String
  /-- How long to wait between polls. -/
  interval : Value := .float (.ofInt 1)
  /-- The position of the change delivered last. -/
  cursor : Value := .null
  /-- The tasks that poll or did so, in the order in which they began. -/
  tasks : List Poller.Task := []
  /-- The place of the loop that was started last, until polling is stopped. -/
  held : Option Nat := none
deriving Repr

namespace Poller

/-- A number that is not positive; what cannot be compared with zero is a fault. -/
def isNotPositive (v : Value) : Except Fault Bool :=
  match v with
  | .float x => .ok (!x.isNaN && !x.isPositive)
  | v =>
    match v.compare? (.int 0) with
    | some o => .ok (o != .gt)
    | none => .error .wrongType

/-- A poller; an interval that is not positive is refused. -/
def make (table schema : String) (interval cursor : Value) : Except Fault Poller := do
  if ← isNotPositive interval then .error (.refused (.pollingInterval interval.shown))
  else pure { table, schema, interval, cursor }

/-- The stage of the task at a place. -/
def stage? (p : Poller) (i : Nat) : Option Stage := p.tasks[i]?.map Task.stage

/-- Puts the task at a place into a stage. -/
def put (p : Poller) (i : Nat) (stage : Stage) : Poller :=
  { p with tasks := p.tasks.modify i fun k => { k with stage } }

/-- The loop that the poller holds is still there. -/
def running (p : Poller) : Bool := (p.held.bind fun i => p.tasks[i]?).any fun k => !k.isDone

/-- Starts the polling with a loop; a poller that is running cannot be started. -/
def start (p : Poller) : Except Fault Poller :=
  if p.running then .error (.alreadyRunning p.schema p.table)
  else .ok { p with tasks := p.tasks ++ [{ loops := true }], held := some p.tasks.length }

/-- Somebody asks for one poll, whether the poller is running or not. -/
def pollOnce (p : Poller) : Poller := { p with tasks := p.tasks ++ [{ loops := false }] }

/-- Ends a task where it waits. -/
def cancel (p : Poller) (i : Nat) : Poller :=
  if p.tasks[i]?.any fun k => !k.isDone then p.put i (.ended .cancelled) else p

/-- Stops the polling: the poller lets go of its loop and cancels it. The
cancellation is `absorbed` if what the loop waits for does not let it through, as
when a delivery waits for this very stop: then the delivery goes on, and so does
the loop. The wait between two polls absorbs nothing. -/
def stop (absorbed : Bool) (p : Poller) : Poller :=
  match p.held with
  | none => p
  | some i =>
    if absorbed && (p.stage? i).any Stage.isPolling then { p with held := none }
    else { p.cancel i with held := none }

variable {τ : Type} (feed : Feed τ)

/-- The task at a place goes on up to where it waits again. It asks for the changes
after the cursor; it takes those that were fetched, and begins to deliver them; or
a delivery ends, and the cursor moves if the change was accepted. What fails ends
the poll. -/
def resume (i : Nat) (p : Poller) (t : τ) : Poller × τ :=
  match p.tasks[i]? with
  | none => (p, t)
  | some k =>
    match k.stage with
    | .ready => (p.put i (.asked p.cursor), t)
    | .ended _ => if k.isDone then (p, t) else (p.put i (.asked p.cursor), t)
    | .asked cursor =>
      match feed.fetch p.table p.schema cursor t with
      | (.ok events, t) => (p.put i (.onward cursor [] events), t)
      | (.error e, t) => (p.put i (.ended (.failed e)), t)
    | .delivering poll =>
      match feed.deliver poll.current t with
      | (.accepted, t) =>
        let next := Stage.onward poll.cursor (poll.delivered ++ [poll.current]) poll.rest
        ({ p with cursor := poll.current.position }.put i next, t)
      | (.failed e, t) => (p.put i (.ended (.failed e)), t)

/-- The task delivers changes one after another, up to the end of its poll. -/
def deliverAll (i : Nat) : List ChangeEvent → Poller × τ → Poller × τ
  | [], s => s
  | _ :: rest, s =>
    if (s.1.stage? i).any Stage.isPolling then deliverAll i rest (s.1.resume feed i s.2) else s

/-- The task makes one poll from beginning to end, and nothing happens beside it. -/
def pollThrough (i : Nat) (s : Poller × τ) : Poller × τ :=
  let asked := s.1.resume feed i s.2
  let fetched := asked.1.resume feed i asked.2
  match fetched.1.stage? i with
  | some (.delivering poll) => deliverAll feed i (poll.current :: poll.rest) fetched
  | _ => fetched

/-- What a subscriber sees: whether the poller is running, and its cursor. -/
def subscription (p : Poller) : Bool × Value := (p.running, p.cursor)

end Poller
end TableGate

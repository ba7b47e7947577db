/-
# A change feed played from a list

A feed without a database, for trying out a poller: its changes are positions in a
list, a fetch may fail by its number, and a delivery by its position. What was
fetched, delivered and waited for is written down.

Key definitions: `FeedScript`, `FeedMove`, `FeedScript.feed`, `FeedScript.turn`,
`FeedScript.move`.
-/
import TableGate.Feed

namespace TableGate

/-- The state of a feed that is played, and what was seen of it. -/
structure FeedScript where
  /-- The positions of the changes, in the order in which they were added. -/
  positions : List Value := []
  /-- The positions whose delivery fails, once for each time they stand here. -/
  refused : List Value := []
  /-- The failure of a delivery. -/
  refusal : Fault
  /-- The failures of fetches, by the number of the fetch. -/
  faults : List (Nat × Fault) := []
  fetchCount : Nat := 0
  fetches : List Value := []
  delivered : List Value := []
  waits : List Value := []
  /-- Somebody subscribed. -/
  started : Bool := false
deriving Inhabited

/-- What can be done to a poller from outside. -/
inductive FeedMove where
  /-- Poll once, whether the poller is running or not. -/
  | poll
  | start
  /-- The wait is over. -/
  | tick
  | stop
  | add (positions : List Value)
deriving Repr

namespace FeedScript

/-- The changes after a cursor; without a cursor, all. -/
def after (s : FeedScript) (table schema : String) (cursor : Value) : List ChangeEvent :=
  (s.positions.filter fun v => cursor.isNull || v.compare? cursor == some .gt).map fun v =>
    { table, schema, kind := .insert, position := v }

def fetch (table schema : String) (cursor : Value) : Answer FeedScript (List ChangeEvent) :=
  fun s =>
    let seen := { s with
      fetchCount := s.fetchCount + 1
      fetches := s.fetches ++ [.list [.text table, .text schema, cursor]] }
    match s.faults.lookup s.fetchCount with
    | some e => (.error e, seen)
    | none => (.ok (s.after table schema cursor), seen)

def deliver (e : ChangeEvent) (s : FeedScript) : Delivery × FeedScript :=
  let seen := { s with delivered := s.delivered ++ [e.position] }
  if s.refused.any fun v => v.isSameKey e.position then
    (.failed s.refusal,
      { seen with refused := s.refused.eraseP fun v => v.isSameKey e.position })
  else (.accepted, seen)

def feed : Feed FeedScript := ⟨fetch, deliver⟩

/-- The loop that a poller holds polls once, up to where it waits. -/
def turn (s : Poller × FeedScript) : Poller × FeedScript :=
  match s.1.held with
  | none => s
  | some i =>
    let (p, t) := Poller.pollThrough feed i s
    (p, if p.running then { t with waits := t.waits ++ [p.interval] } else t)

/-- Makes a move; a poll tells how many changes it delivered. -/
def move : FeedMove → Poller × FeedScript → Except Fault (Option Nat) × Poller × FeedScript
  | .poll, (p, t) =>
    let i := p.tasks.length
    let (p, t) := Poller.pollThrough feed i (p.pollOnce, t)
    match p.stage? i with
    | some (.ended (.delivered n)) => (.ok (some n), p, t)
    | some (.ended (.failed e)) => (.error e, p, t)
    | _ => (.ok none, p, t)
  | .start, (p, t) =>
    match p.start with
    | .ok p => (.ok none, turn (p, { t with started := true }))
    | .error e => (.error e, p, t)
  | .tick, s => (.ok none, turn s)
  | .stop, (p, t) => (.ok none, p.stop false, t)
  | .add positions, (p, t) => (.ok none, p, { t with positions := t.positions ++ positions })

/-- Forgets what was seen. -/
def unseen (s : FeedScript) : FeedScript := { s with fetches := [], delivered := [], waits := [] }

end FeedScript
end TableGate

/-
# A backend played from rules

A backend without a database, for trying out what is built on one. A list of rules
says how it answers: the first rule counts that is for the kind of event, whose
piece stands in the statement, and that is not used up. Without a rule a statement
succeeds and gives no rows.

A prepared statement is answered by one rule, which is found when it is prepared.

Key definitions: `Rule`, `Script`, `Script.answer`, `Script.driver`.
-/
import TableGate.Backend.Session

namespace TableGate

inductive RuleKind where
  | openPool
  | acquire
  | ping
  | control
  | statement
deriving DecidableEq, Repr

structure Rule where
  kind : RuleKind := .statement
  /-- Has to stand in the statement. -/
  piece : String := ""
  /-- How often the rule may still be used; without a number, always. -/
  times : Option Nat := none
  fault : Option Fault := none
  /-- A prepared statement fails when it runs, not when it is prepared. -/
  failsLate : Bool := false
  prepared : Prepared := {}
  fetched : Fetched := { status := some "SELECT 0" }
  cursor : CursorState := {}
deriving Repr, Inhabited

namespace Rule

def fits (r : Rule) (kind : RuleKind) (sql : String) : Bool :=
  r.kind == kind && r.times != some 0 && Text.contains sql r.piece

/-- The rule after it was used. -/
def used (r : Rule) : Rule := { r with times := r.times.map fun n => n - 1 }

/-- Answers with a value, unless the rule has a failure. -/
def orFault {α : Type} (r : Rule) (a : α) : Except Fault α :=
  match r.fault with
  | some e => .error e
  | none => .ok a

end Rule

/-- The state of a scripted backend. -/
structure Script where
  rules : List Rule := []
  /-- The rule of the statement that was prepared last. -/
  pending : Rule := {}
  /-- What was written down aside. -/
  notes : List Value := []
deriving Repr, Inhabited

namespace Script

/-- The rule for an event, and the rules after its use. -/
def take (kind : RuleKind) (sql : String) : List Rule → Rule × List Rule
  | [] => ({}, [])
  | r :: rs =>
    if r.fits kind sql then (r, r.used :: rs)
    else
      let (found, rest) := take kind sql rs
      (found, r :: rest)

/-- Answers an event by its rule. -/
def answer {α : Type} (kind : RuleKind) (sql : String) (reply : Rule → Except Fault α) :
    Answer Script α := fun s =>
  let (r, rules) := take kind sql s.rules
  (reply r, { s with rules := rules, pending := r })

/-- A statement is prepared, unless it fails already. -/
def prepareReply (r : Rule) : Except Fault Prepared :=
  if r.failsLate then .ok r.prepared else r.orFault r.prepared

/-- The driver of a scripted backend. -/
def driver : Driver Script where
  openPool _ := answer .openPool "" fun r => r.orFault ()
  acquire := answer .acquire "" fun r => r.orFault ()
  ping sql := answer .ping sql fun r => r.orFault ()
  control sql := answer .control sql fun r => r.orFault ()
  prepare sql := answer .statement sql prepareReply
  fetch _ s := (s.pending.orFault s.pending.fetched, s)
  execute sql _ := answer .statement sql fun r => r.orFault r.cursor

/-- Writes something down aside. -/
def note (v : Value) (s : Script) : Script := { s with notes := s.notes ++ [v] }

end Script
end TableGate

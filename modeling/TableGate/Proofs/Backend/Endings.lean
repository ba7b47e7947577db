/-
# Transactions are ended once

A transaction that was begun is ended by one statement, whatever its work does
and however the driver answers (`transaction_endedOnce`). The work may end it,
and then only its first attempt is sent, even if the driver fails it. If the work
does not, it is ended for it, by what became of the work, and nothing is sent
after that but that the connection is given back.

A transaction that is not begun does not do its work, and nothing is sent to end
it: what becomes of it is the same for all work.

Key definitions: `Adapter.Begins`, `Transaction.Ending.due`,
`Transaction.closing`, `Adapter.conclude`.
Key theorems: `Adapter.conclude_runIn`, `Adapter.transaction_of_begins`,
`Adapter.transaction_of_not_begins`, `Adapter.transaction_endedOnce`.
-/
import TableGate.Backend.Scripted
import TableGate.Proofs.Backend.Connection
import TableGate.Proofs.Backend.Course

namespace TableGate

open Transaction

namespace Transaction

variable {α : Type}

/-- The ending that is due when the work has this outcome. -/
def Ending.due (r : Except Fault α) : Ending :=
  match r with
  | .ok _ => .commit
  | .error _ => .rollback

/-- The ending that is left to do after the work asked for some. -/
def closing (asked : List Ending) (r : Except Fault α) : Option Ending :=
  if asked.isEmpty then some (.due r) else none

/-- The failure of a transaction whose work failed with `e`, by what came of its
rollback. -/
def surviving (e : Fault) : Except Fault Unit → Fault
  | .ok () | .error (.api (.query ..)) => e
  | .error other => other

theorem surviving_of_ne {e f : Fault}
    (h : ∀ message sql category, f = .api (.query message sql category) → False) :
    surviving e (.error f) = f := by
  unfold surviving
  split
  · contradiction
  · rename_i message sql category heq
    exact (h message sql category (Except.error.inj heq)).elim
  · rename_i heq
    exact (Except.error.inj heq).symm

end Transaction

namespace Adapter

variable {σ α : Type}

/-- The transaction is begun on a connection, and the session is then `t`. -/
def Begins (a : Adapter σ) (s : Session σ) (c : Nat) (t : Session σ) : Prop :=
  ∃ s₀, a.checkout.runIn s = (.ok c, s₀) ∧
    (a.control c a.dialect.beginStatement).runIn s₀ = (.ok (), t)

variable {a : Adapter σ} {c : Nat} {s t : Session σ}

/-! ### After the work -/

/-- What is done after the work, by its outcome and whether it ended the
transaction. -/
def conclude (a : Adapter σ) (c : Nat) : Except Fault α × Bool → Action σ α
  | (.ok v, true) => pure v
  | (.ok v, false) => do
    a.control c a.dialect.commitStatement
    pure v
  | (.error e, true) => throw e
  | (.error e, false) => a.abandon c e

theorem transactionOn_runIn {work : Work σ α}
    (h : (a.control c a.dialect.beginStatement).runIn s = (.ok (), t)) :
    (a.transactionOn c work).runIn s =
      (a.conclude c ((work.runOn a c false).run t).1).runIn ((work.runOn a c false).run t).2 := by
  rw [transactionOn, Action.runIn_bind, h]
  rfl

theorem transactionOn_of_error {work : Work σ α} {e : Fault}
    (h : (a.control c a.dialect.beginStatement).runIn s = (.error e, t)) :
    (a.transactionOn c work).runIn s = (.error e, t) := by
  rw [transactionOn, Action.runIn_bind, h]

/-- A rollback is sent, and the failure may be another one after it. -/
theorem abandon_runIn (a : Adapter σ) (c : Nat) (e : Fault) (s : Session σ) :
    (a.abandon c e : Action σ α).runIn s =
      (.error (surviving e ((a.control c a.dialect.rollbackStatement).runIn s).1),
        ((a.control c a.dialect.rollbackStatement).runIn s).2) := by
  rw [abandon, Action.runIn_bind, Action.runIn_outcome]
  rcases (a.control c a.dialect.rollbackStatement).runIn s with ⟨x, u⟩
  dsimp only
  split
  · rfl
  · rfl
  · rename_i other hother
    rw [Action.runIn_throw, surviving_of_ne hother]

/-- **Work that ended its transaction has the last word; else the ending that is
due is sent**, and may have it. -/
theorem conclude_runIn (a : Adapter σ) (c : Nat) (r : Except Fault α) (ended : Bool)
    (s : Session σ) :
    (a.conclude c (r, ended)).runIn s =
      if ended then (r, s)
      else
        let x := (a.control c ((Ending.due r).statement a.dialect)).runIn s
        (match r with
          | .ok v => x.1.map fun _ => v
          | .error e => .error (surviving e x.1), x.2) := by
  cases ended with
  | true => cases r <;> rfl
  | false =>
    cases r with
    | ok v =>
      rw [conclude, Action.runIn_bind]
      change _ = (((a.control c a.dialect.commitStatement).runIn s).1.map fun _ => v,
        ((a.control c a.dialect.commitStatement).runIn s).2)
      rcases (a.control c a.dialect.commitStatement).runIn s with ⟨x, u⟩
      cases x <;> rfl
    | error e => exact a.abandon_runIn c e s

/-! ### Transactions that are begun -/

theorem Begins.tracing_ok (h : a.Begins s c t) : ∃ b, a.tracing = .ok b := by
  obtain ⟨s₀, -, hcontrol⟩ := h
  rcases a.control_cases c (isBare_begin a.dialect) s₀ with ⟨e, e', -, hrun⟩ | ⟨b, -, hb, -⟩
  · rw [hcontrol] at hrun
    cases hrun
  · exact ⟨b, hb⟩

/-- A connection is taken, and the transaction begun on it. -/
theorem Begins.log_eq (h : a.Begins s c t) :
    t.log = s.log ++ .acquire (some c) :: a.controlEvents c a.dialect.beginStatement := by
  obtain ⟨b, htracing⟩ := h.tracing_ok
  obtain ⟨s₀, hcheckout, hcontrol⟩ := h
  obtain ⟨spans, hrun⟩ := control_runIn htracing c (isBare_begin a.dialect) s₀
  rw [hcontrol] at hrun
  rw [(Prod.mk.inj hrun).2, log_of_checkout hcheckout, List.append_assoc]
  rfl

/-- **Once it is begun, a transaction is its work and what is done after it**,
and the connection is given back. -/
theorem transaction_of_begins (h : a.Begins s c t) (work : Work σ α) :
    ∃ spans, (a.transaction work).runIn s =
      let r := (work.runOn a c false).run t
      let x := (a.conclude c r.1).runIn r.2
      (x.1, { x.2 with log := x.2.log ++ [.release c], spans := spans }) := by
  obtain ⟨b, hb⟩ := h.tracing_ok
  obtain ⟨s₀, hcheckout, hcontrol⟩ := h
  rcases a.traced_cases .transaction none (a.withConnection fun c => a.transactionOn c work) s with
    ⟨e, he, -⟩ | ⟨-, spans, -, hrun⟩
  · rw [hb] at he
    cases he
  · refine ⟨spans, ?_⟩
    rw [transaction, hrun, withConnection_runIn hcheckout, transactionOn_runIn hcontrol]

/-! ### Transactions that are not begun -/

/-- What is in the log of a transaction that was not begun. -/
def IsUnbegun (a : Adapter σ) (es : List Event) : Prop :=
  es = [] ∨ es = [.acquire none] ∨
    ∃ c, es = .acquire (some c) ::
      (a.controlEvents c a.dialect.beginStatement ++ [.release c])

theorem withConnection_of_not_begins {b : Bool} (htracing : a.tracing = .ok b)
    (h : ∀ c t, ¬ a.Begins s c t) :
    ∃ e t es, (∀ work : Work σ α,
        (a.withConnection fun c => a.transactionOn c work).runIn s = (.error e, t)) ∧
      t.log = s.log ++ es ∧ a.IsUnbegun es := by
  rcases hcheckout : a.checkout.runIn s with ⟨r, s₀⟩
  cases r with
  | error e =>
    have hfails : ∀ work : Work σ α,
        (a.withConnection fun c => a.transactionOn c work).runIn s = (.error e, s₀) :=
      fun work => withConnection_of_error hcheckout
    rcases log_of_checkout_error hcheckout with hnone | htried
    · exact ⟨e, s₀, [], hfails, by simpa using hnone, .inl rfl⟩
    · exact ⟨e, s₀, _, hfails, htried, .inr (.inl rfl)⟩
  | ok c =>
    have hs₀ := log_of_checkout hcheckout
    rcases hcontrol : (a.control c a.dialect.beginStatement).runIn s₀ with ⟨x, t⟩
    cases x with
    | ok u => exact absurd ⟨s₀, hcheckout, hcontrol⟩ (h c t)
    | error e =>
      refine ⟨e, { t with log := t.log ++ [.release c] }, _, fun work => ?_, ?_,
        .inr (.inr ⟨c, rfl⟩)⟩
      · rw [withConnection_runIn hcheckout, transactionOn_of_error hcontrol]
      · obtain ⟨spans, hrun⟩ := control_runIn htracing c (isBare_begin a.dialect) s₀
        rw [hcontrol] at hrun
        rw [(Prod.mk.inj hrun).2, hs₀]
        simp

/-- **A transaction that is not begun fails whatever its work**, and only the
statement that was to begin it is sent, if a connection was there for it. -/
theorem transaction_of_not_begins (h : ∀ c t, ¬ a.Begins s c t) :
    ∃ e t es, (∀ work : Work σ α, (a.transaction work).runIn s = (.error e, t)) ∧
      t.log = s.log ++ es ∧ a.IsUnbegun es := by
  cases htracing : a.tracing with
  | error e =>
    refine ⟨e, s, [], fun work => ?_, (List.append_nil _).symm, .inl rfl⟩
    rw [transaction, traced, htracing]
    rfl
  | ok b =>
    obtain ⟨e, t, es, hwork, hlog, hes⟩ := withConnection_of_not_begins (α := α) htracing h
    -- The span is the same for all work, as what it is around is.
    have hsame : ∀ work : Work σ α,
        (a.transaction work).runIn s = (a.transaction (.raise e : Work σ α)).runIn s :=
      fun work => traced_congr ((hwork work).trans (hwork _).symm)
    rcases a.traced_cases .transaction none
      (a.withConnection fun c => a.transactionOn c (.raise e : Work σ α)) s with
      ⟨e', he', -⟩ | ⟨-, spans, -, hrun⟩
    · rw [htracing] at he'
      cases he'
    · refine ⟨e, { t with spans := spans }, es, fun work => (hsame work).trans ?_, hlog, hes⟩
      rw [transaction, hrun, hwork]

/-! ### One ending -/

/-- What is sent after the work: the ending that is left to do, if any. -/
theorem log_conclude {b : Bool} (htracing : a.tracing = .ok b) (r : Except Fault α)
    (asked : List Ending) (s : Session σ) :
    ((a.conclude c (r, !asked.isEmpty)).runIn s).2.log =
      s.log ++ (closing asked r).toList.flatMap fun how =>
        a.controlEvents c (how.statement a.dialect) := by
  rw [conclude_runIn]
  cases asked with
  | cons how rest => exact (List.append_nil _).symm
  | nil =>
    obtain ⟨spans, hrun⟩ := control_runIn htracing c (isBare_ending a.dialect (.due r)) s
    simp [closing, hrun]

/-- The ending that was sent is the first that was asked for; else it is the one
that was due. -/
theorem head_endings (asked : List Ending) (r : Except Fault α) :
    asked.head?.toList ++ (closing asked r).toList = [asked.headD (.due r)] := by
  cases asked <;> rfl

/-- **A transaction is ended once.** If it is begun, then one ending is sent among
the steps of its work and after it: the first that the work asks for, or else
the one that is due by the outcome of the work. Nothing else is sent but for the
queries of the work. If it is not begun, then nothing of the work is done, and no
ending is sent. -/
theorem transaction_endedOnce (a : Adapter σ) (work : Work σ α) (s : Session σ) :
    (∀ c t, a.Begins s c t →
      let outcome := ((work.runOn a c false).run t).1.1
      let course := work.course a c false t
      let asked := course.filterMap Step.asked?
      let sentAfter := closing asked outcome
      t.log = s.log ++ .acquire (some c) :: a.controlEvents c a.dialect.beginStatement ∧
      ((a.transaction work).runIn s).2.log =
        t.log ++ course.flatMap Step.events ++
          (sentAfter.toList.flatMap fun how => a.controlEvents c (how.statement a.dialect)) ++
          [.release c] ∧
      course.filterMap Step.sent? ++ sentAfter.toList = [asked.headD (.due outcome)] ∧
      ∀ step ∈ course, (∀ e ∈ step.events, e.IsOn c) ∧
        ∀ how, step.sent? = some how →
          step.events = a.controlEvents c (how.statement a.dialect)) ∧
    ((∀ c t, ¬ a.Begins s c t) →
      ∃ e t es, (∀ work' : Work σ α, (a.transaction work').runIn s = (.error e, t)) ∧
        t.log = s.log ++ es ∧ a.IsUnbegun es) := by
  refine ⟨fun c t hbegins => ?_, transaction_of_not_begins⟩
  obtain ⟨b, htracing⟩ := hbegins.tracing_ok
  refine ⟨hbegins.log_eq, ?_, ?_, fun step hstep =>
    ⟨work.isOn_course false t step hstep, work.events_course htracing false t step hstep⟩⟩
  · obtain ⟨spans, hrun⟩ := transaction_of_begins hbegins work
    have hended := work.ended_runOn (a := a) (c := c) false t
    rw [Bool.false_or] at hended
    rw [hrun, ← work.log_runOn, ← log_conclude htracing, ← hended]
  · rw [work.sent_course htracing, head_endings]

/-- A commit that fails has ended the transaction: the rollback that the work then
asks for is not sent, and neither is one for the failure of the work. Without a
connection, nothing is sent. -/
theorem transaction_endedOnce_commit :
    let gone : Fault := .foreign ⟨"ConnectionDoesNotExistError", "asyncpg", .plain,
      some "postgresql", [], .null⟩ none
    let a : Adapter Script := ⟨.postgres, Script.driver, .ok false⟩
    let work : Work Script Unit := .commit fun
      | .ok _ => .done ()
      | .error e => .rollback fun _ => .raise e
    let s : Session Script :=
      { backend := { rules := [{ kind := .control, piece := "COMMIT", fault := some gone }] }
        pool := some 0 }
    let begun : Session Script :=
      { s with log := [.acquire (some 0), .control 0 "BEGIN"], nextConnection := 1 }
    a.Begins s 0 begun ∧
      ((a.transaction work).runIn s).2.log =
        [.acquire (some 0), .control 0 "BEGIN", .control 0 "COMMIT", .release 0] ∧
      (∃ e t, (∀ work' : Work Script Unit,
        (a.transaction work').runIn { s with pool := none } = (.error e, t)) ∧ t.log = []) := by
  intro gone a work s begun
  have hbegins : a.Begins s 0 begun := by
    refine ⟨{ s with log := [.acquire (some 0)], nextConnection := 1 }, rfl, ?_⟩
    subst begun s work a gone
    rfl
  refine ⟨hbegins, ((transaction_endedOnce a work s).1 0 begun hbegins).2.1.trans ?_, ?_⟩
  · clear hbegins
    subst begun s work a gone
    rfl
  obtain ⟨e, t, es, hsame, hlog, -⟩ :=
    (transaction_endedOnce a work { s with pool := none }).2 fun c t h => by
      obtain ⟨s₀, hcheckout, -⟩ := h
      cases hcheckout
  have hempty : t.log = [] := congrArg (fun r => r.2.log) (hsame (.done ())).symm
  exact ⟨e, t, hsame, hempty⟩

end Adapter
end TableGate

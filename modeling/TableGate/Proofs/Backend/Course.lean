/-
# The course of a transaction

The work of a transaction asks its connection for something, step by step. Its
course (`Work.course`) lists what it asks for, in order, each with the events
that come of it; between them they are all that the work adds to the log
(`Work.log_runOn`). An ending that is asked for again sends nothing, so of all
the endings that are asked for it is the first one that is sent
(`Work.sent_course`).

A statement that begins or ends a transaction is sent whatever the driver
answers, and answered as the driver answers it (`Adapter.control_cases`). The
one case in which it is not sent is that the environment does not tell whether
spans are recorded; then nothing is sent at all.

Key definitions: `Transaction.Ending`, `Transaction.Step`, `Work.course`,
`Adapter.controlEvents`, `Adapter.answerTo`.
Key theorems: `Adapter.control_cases`, `Adapter.control_runIn`, `Work.log_runOn`,
`Work.sent_course`, `Work.ended_runOn`.
-/
import TableGate.Backend.Transaction
import TableGate.Proofs.Backend.Log

namespace TableGate

namespace Transaction

/-- How a transaction is ended. -/
inductive Ending where
  | commit
  | rollback
deriving DecidableEq, Repr

/-- The statement that ends a transaction so. -/
def Ending.statement (d : Dialect) : Ending → String
  | .commit => d.commitStatement
  | .rollback => d.rollbackStatement

/-- What work asks of its connection. -/
inductive Call where
  | query (sql : String) (params : List Value)
  | ending (how : Ending)

/-- A call, and the events that come of it. -/
structure Step where
  call : Call
  events : List Event

def Step.asked? (step : Step) : Option Ending :=
  match step.call with
  | .query .. => none
  | .ending how => some how

/-- The ending that is asked for, if anything is sent for it. -/
def Step.sent? (step : Step) : Option Ending := if step.events.isEmpty then none else step.asked?

@[simp] theorem Step.asked?_query (sql : String) (params : List Value) (es : List Event) :
    asked? ⟨.query sql params, es⟩ = none := rfl

@[simp] theorem Step.asked?_ending (how : Ending) (es : List Event) :
    asked? ⟨.ending how, es⟩ = some how := rfl

@[simp] theorem Step.sent?_query (sql : String) (params : List Value) (es : List Event) :
    sent? ⟨.query sql params, es⟩ = none := by simp [sent?]

@[simp] theorem Step.sent?_ending_nil (how : Ending) : sent? ⟨.ending how, []⟩ = none := rfl

theorem Step.sent?_ending {es : List Event} (h : es ≠ []) (how : Ending) :
    sent? ⟨.ending how, es⟩ = some how := by simp [sent?, h]

end Transaction

open Transaction

/-- The events of a later session that an earlier one does not have. -/
def Session.since {σ : Type} (s t : Session σ) : List Event := t.log.drop s.log.length

theorem Session.since_self {σ : Type} (s : Session σ) : s.since s = [] := List.drop_length

theorem Session.since_of_append {σ : Type} {s t : Session σ} {es : List Event}
    (h : t.log = s.log ++ es) : s.since t = es := by
  rw [since, h, List.drop_left]

namespace Adapter

variable {σ : Type}

/-! ### Statements that begin or end a transaction -/

/-- The events of a statement that begins or ends a transaction. -/
def controlEvents (a : Adapter σ) (c : Nat) (sql : String) : List Event :=
  match a.dialect with
  | .postgres => [.control c sql]
  | .sqlServer => [.execute c sql none, .closeCursor c]

/-- The answer of the driver to a statement that begins or ends a transaction. -/
def answerTo (a : Adapter σ) (sql : String) : Answer σ Unit := fun b =>
  match a.dialect with
  | .postgres => a.driver.control sql b
  | .sqlServer =>
    (((a.driver.execute sql none b).1 >>= Reply.ofCursor sql).map fun _ => (),
      (a.driver.execute sql none b).2)

/-- A failure as it is passed on from a statement. -/
def passedOn (a : Adapter σ) (sql : String) (e : Fault) : Fault :=
  if a.isDriverFault e then e.translated (some sql) else e

/-- The text is sent as it is where nothing is bound. -/
def IsBare (sql : String) : Prop := Sql.bindByPosition sql [] = .ok (sql, none)

theorem isBare_begin (d : Dialect) : IsBare d.beginStatement := by cases d <;> rfl

theorem isBare_ending (d : Dialect) (how : Ending) : IsBare (how.statement d) := by
  cases d <;> cases how <;> rfl

theorem controlEvents_ne_nil (a : Adapter σ) (c : Nat) (sql : String) :
    a.controlEvents c sql ≠ [] := by
  unfold controlEvents
  cases a.dialect <;> simp

/-- A cursor is read and closed, whatever it holds. -/
theorem runIn_execution (a : Adapter σ) (c : Nat) (sql : String) (s : Session σ) :
    ((Action.ask (a.driver.execute sql none) (.execute c sql none) >>= fun cursor =>
        Action.ofExcept (Reply.ofCursor sql cursor)).andFinally
          (.record (.closeCursor c))).runIn s =
      ((a.driver.execute sql none s.backend).1 >>= Reply.ofCursor sql,
        { s with
          backend := (a.driver.execute sql none s.backend).2
          log := s.log ++ [.execute c sql none, .closeCursor c] }) := by
  rw [Action.runIn_andFinally, Action.runIn_bind, Action.runIn_ask]
  cases (a.driver.execute sql none s.backend).1 with
  | error e => simp [bind, Except.bind]
  | ok cursor => simp [bind, Except.bind]

/-- **A statement that begins or ends a transaction is sent and answered**,
unless the environment does not tell whether spans are recorded. -/
theorem control_cases (a : Adapter σ) (c : Nat) {sql : String} (hsql : IsBare sql)
    (s : Session σ) :
    (∃ e e', a.tracing = .error e ∧ (a.control c sql).runIn s = (.error e', s)) ∨
      ∃ b spans, a.tracing = .ok b ∧
        (a.control c sql).runIn s =
          ((a.answerTo sql s.backend).1.mapError (a.passedOn sql),
            { s with
              backend := (a.answerTo sql s.backend).2
              log := s.log ++ a.controlEvents c sql
              spans := spans }) := by
  unfold control answerTo controlEvents
  cases a.dialect with
  | postgres =>
    simp only [translating, Action.runIn_mapFault]
    rcases a.traced_cases .query (some sql) (Action.ask (a.driver.control sql) (.control c sql)) s
      with ⟨e, he, hrun⟩ | ⟨b, spans, hb, hrun⟩
    · exact .inl ⟨e, _, he, by rw [hrun]; rfl⟩
    · exact .inr ⟨b, spans, hb, by rw [hrun]; rfl⟩
  | sqlServer =>
    have hbound : Sql.bindByPosition sql [] = .ok (sql, none) := hsql
    simp only [Action.runIn_bind, runCursor, hbound, Action.runIn_ofExcept, translating,
      Action.runIn_mapFault]
    rcases a.traced_cases .query (some sql) _ s with ⟨e, he, hrun⟩ | ⟨b, spans, hb, hrun⟩
    · exact .inl ⟨e, _, he, by rw [hrun]; rfl⟩
    · refine .inr ⟨b, spans, hb, ?_⟩
      rw [hrun, runIn_execution]
      cases (a.driver.execute sql none s.backend).1 >>= Reply.ofCursor sql <;> rfl

/-- Where it is told whether spans are recorded, it is sent. -/
theorem control_runIn {a : Adapter σ} {b : Bool} (htracing : a.tracing = .ok b) (c : Nat)
    {sql : String} (hsql : IsBare sql) (s : Session σ) :
    ∃ spans, (a.control c sql).runIn s =
      ((a.answerTo sql s.backend).1.mapError (a.passedOn sql),
        { s with
          backend := (a.answerTo sql s.backend).2
          log := s.log ++ a.controlEvents c sql
          spans := spans }) := by
  rcases a.control_cases c hsql s with ⟨e, e', he, -⟩ | ⟨b', spans, -, hrun⟩
  · rw [htracing] at he
    cases he
  · exact ⟨spans, hrun⟩

theorem adds_control (a : Adapter σ) (c : Nat) {sql : String} (hsql : IsBare sql) :
    (a.control c sql).Leads (Session.Adds (Event.IsOn c)) := by
  intro s
  rcases a.control_cases c hsql s with ⟨e, e', -, hrun⟩ | ⟨b, spans, -, hrun⟩
  · rw [hrun]
    exact refl_of (Session.Adds _) s
  · rw [hrun]
    refine ⟨a.controlEvents c sql, rfl, fun e he => ?_⟩
    cases hd : a.dialect with
    | postgres =>
      rw [controlEvents, hd] at he
      obtain rfl := List.mem_singleton.mp he
      rfl
    | sqlServer =>
      rw [controlEvents, hd] at he
      rcases List.mem_cons.mp he with rfl | he
      · rfl
      · obtain rfl := List.mem_singleton.mp he
        rfl

/-- Ends a transaction if it was not ended. -/
def endOnce (a : Adapter σ) (c : Nat) (how : Ending) (ended : Bool) (s : Session σ) :
    Except Fault Unit × Session σ :=
  if ended then (.ok (), s) else (a.control c (how.statement a.dialect)).runIn s

theorem log_endOnce (a : Adapter σ) (c : Nat) (how : Ending) (ended : Bool) (s : Session σ) :
    ∃ es, (a.endOnce c how ended s).2.log = s.log ++ es ∧ ∀ e ∈ es, e.IsOn c := by
  cases ended with
  | true => exact ⟨[], by simp [endOnce], by simp⟩
  | false => exact a.adds_control c (isBare_ending a.dialect how) s

theorem since_endOnce_true (a : Adapter σ) (c : Nat) (how : Ending) (s : Session σ) :
    s.since (a.endOnce c how true s).2 = [] := s.since_self

theorem since_endOnce {a : Adapter σ} {b : Bool} (htracing : a.tracing = .ok b) (c : Nat)
    (how : Ending) (s : Session σ) :
    s.since (a.endOnce c how false s).2 = a.controlEvents c (how.statement a.dialect) := by
  obtain ⟨spans, hrun⟩ := control_runIn htracing c (isBare_ending a.dialect how) s
  refine Session.since_of_append ?_
  rw [endOnce, if_neg Bool.false_ne_true, hrun]

end Adapter

namespace Work

variable {σ α : Type}

/-! ### What work asks for -/

/-- Work that ends its transaction and goes on. -/
def ending (how : Ending) (next : Except Fault Unit → Work σ α) : Work σ α :=
  match how with
  | .commit => .commit next
  | .rollback => .rollback next

/-- Induction on work that takes the two ways to end a transaction together. -/
@[elab_as_elim]
theorem byCalls {motive : Work σ α → Prop} (done : ∀ v, motive (.done v))
    (raise : ∀ e, motive (.raise e))
    (query : ∀ sql params next, (∀ r, motive (next r)) → motive (.query sql params next))
    (ending : ∀ how next, (∀ r, motive (next r)) → motive (ending how next))
    (isEnded : ∀ next, (∀ b, motive (next b)) → motive (.isEnded next))
    (aside : ∀ change next, motive next → motive (.aside change next)) (work : Work σ α) :
    motive work := by
  induction work with
  | done v => exact done v
  | raise e => exact raise e
  | query sql params next ih => exact query sql params next ih
  | commit next ih => exact ending .commit next ih
  | rollback next ih => exact ending .rollback next ih
  | isEnded next ih => exact isEnded next ih
  | aside change next ih => exact aside change next ih

/-- What the work asks of its connection, with the events that come of it;
`ended` tells whether the transaction was ended before. -/
def course (a : Adapter σ) (c : Nat) : Work σ α → Bool → Session σ → List Step
  | .done _, _, _ => []
  | .raise _, _, _ => []
  | .query sql params next, ended, s =>
    let r := (a.runOn c sql params).runIn s
    ⟨.query sql params, s.since r.2⟩ :: (next r.1).course a c ended r.2
  | .commit next, ended, s =>
    let r := a.endOnce c .commit ended s
    ⟨.ending .commit, s.since r.2⟩ :: (next r.1).course a c true r.2
  | .rollback next, ended, s =>
    let r := a.endOnce c .rollback ended s
    ⟨.ending .rollback, s.since r.2⟩ :: (next r.1).course a c true r.2
  | .isEnded next, ended, s => (next ended).course a c ended s
  | .aside change next, ended, s => next.course a c ended { s with backend := change s.backend }

variable {a : Adapter σ} {c : Nat}

theorem runOn_ending (how : Ending) (next : Except Fault Unit → Work σ α) (ended : Bool)
    (s : Session σ) :
    ((ending how next).runOn a c ended).run s =
      ((next (a.endOnce c how ended s).1).runOn a c true).run (a.endOnce c how ended s).2 := by
  cases how <;> cases ended <;> rfl

theorem course_ending (how : Ending) (next : Except Fault Unit → Work σ α) (ended : Bool)
    (s : Session σ) :
    (ending how next).course a c ended s =
      ⟨.ending how, s.since (a.endOnce c how ended s).2⟩ ::
        (next (a.endOnce c how ended s).1).course a c true (a.endOnce c how ended s).2 := by
  cases how <;> rfl

theorem log_step {s t u : Session σ} {call : Call} {rest : List Step}
    (ht : ∃ es, t.log = s.log ++ es ∧ ∀ e ∈ es, e.IsOn c)
    (hu : u.log = t.log ++ rest.flatMap Step.events) :
    u.log = s.log ++ (⟨call, s.since t⟩ :: rest).flatMap Step.events := by
  obtain ⟨es, hes, -⟩ := ht
  rw [hu, List.flatMap_cons, Session.since_of_append hes, hes, List.append_assoc]

/-- **The course of the work is all that the work adds to the log.** -/
theorem log_runOn (work : Work σ α) : ∀ (ended : Bool) (s : Session σ),
    ((work.runOn a c ended).run s).2.log =
      s.log ++ (work.course a c ended s).flatMap Step.events := by
  induction work using byCalls with
  | done v => intro ended s; exact (List.append_nil _).symm
  | raise e => intro ended s; exact (List.append_nil _).symm
  | query sql params next ih =>
    intro ended s
    exact log_step (Adapter.adds_runOn c sql params s) (ih _ ended _)
  | ending how next ih =>
    intro ended s
    rw [runOn_ending, course_ending]
    exact log_step (a.log_endOnce c how ended s) (ih _ true _)
  | isEnded next ih => intro ended s; exact ih ended ended s
  | aside change next ih => intro ended s; exact ih ended _

/-- A property of the steps of a course, one case for each kind of step. -/
theorem forall_course {P : Step → Prop}
    (hquery : ∀ sql params (s : Session σ),
      P ⟨.query sql params, s.since ((a.runOn c sql params).runIn s).2⟩)
    (hending : ∀ how ended (s : Session σ),
      P ⟨.ending how, s.since (a.endOnce c how ended s).2⟩)
    (work : Work σ α) : ∀ (ended : Bool) (s : Session σ),
      ∀ step ∈ work.course a c ended s, P step := by
  induction work using byCalls with
  | done v => intro ended s step hstep; exact absurd hstep List.not_mem_nil
  | raise e => intro ended s step hstep; exact absurd hstep List.not_mem_nil
  | query sql params next ih =>
    intro ended s
    exact List.forall_mem_cons.mpr ⟨hquery sql params s, ih _ ended _⟩
  | ending how next ih =>
    intro ended s
    rw [course_ending]
    exact List.forall_mem_cons.mpr ⟨hending how ended s, ih _ true _⟩
  | isEnded next ih => intro ended s; exact ih ended ended s
  | aside change next ih => intro ended s; exact ih ended _

theorem isOn_course (work : Work σ α) (ended : Bool) (s : Session σ) :
    ∀ step ∈ work.course a c ended s, ∀ e ∈ step.events, e.IsOn c := by
  have hsince : ∀ {s t : Session σ}, (∃ es, t.log = s.log ++ es ∧ ∀ e ∈ es, e.IsOn c) →
      ∀ e ∈ s.since t, e.IsOn c := by
    rintro s t ⟨es, hes, hon⟩
    rw [Session.since_of_append hes]
    exact hon
  exact forall_course (P := fun step => ∀ e ∈ step.events, e.IsOn c)
    (fun sql params s => hsince (Adapter.adds_runOn c sql params s))
    (fun how ended s => hsince (a.log_endOnce c how ended s)) work ended s

theorem events_course {b : Bool} (htracing : a.tracing = .ok b) (work : Work σ α) (ended : Bool)
    (s : Session σ) : ∀ step ∈ work.course a c ended s, ∀ how, step.sent? = some how →
      step.events = a.controlEvents c (how.statement a.dialect) := by
  refine forall_course (fun sql params s how h => ?_) (fun how ended s how' h => ?_) work ended s
  · simp at h
  · cases ended with
    | true => simp [Adapter.since_endOnce_true] at h
    | false =>
      rw [Adapter.since_endOnce htracing] at h ⊢
      rw [Step.sent?_ending (a.controlEvents_ne_nil c _)] at h
      rw [Option.some.inj h]

/-! ### Endings -/

/-- After the transaction was ended, nothing is sent to end it. -/
theorem sent_course_true (work : Work σ α) : ∀ s : Session σ,
    (work.course a c true s).filterMap Step.sent? = [] := by
  induction work using byCalls with
  | done v => intro s; rfl
  | raise e => intro s; rfl
  | query sql params next ih =>
    intro s
    rw [course, List.filterMap_cons_none (Step.sent?_query _ _ _)]
    exact ih _ _
  | ending how next ih =>
    intro s
    rw [course_ending, Adapter.since_endOnce_true,
      List.filterMap_cons_none (Step.sent?_ending_nil _)]
    exact ih _ _
  | isEnded next ih => intro s; exact ih true s
  | aside change next ih => intro s; exact ih _

/-- **Of the endings that the work asks for, the first one is sent.** -/
theorem sent_course {b : Bool} (htracing : a.tracing = .ok b) (work : Work σ α) :
    ∀ s : Session σ, (work.course a c false s).filterMap Step.sent? =
      ((work.course a c false s).filterMap Step.asked?).head?.toList := by
  induction work using byCalls with
  | done v => intro s; rfl
  | raise e => intro s; rfl
  | query sql params next ih =>
    intro s
    rw [course, List.filterMap_cons_none (Step.sent?_query _ _ _),
      List.filterMap_cons_none (Step.asked?_query _ _ _)]
    exact ih _ _
  | ending how next ih =>
    intro s
    rw [course_ending, Adapter.since_endOnce htracing,
      List.filterMap_cons_some (Step.sent?_ending (a.controlEvents_ne_nil c _) how),
      List.filterMap_cons_some (Step.asked?_ending how _), sent_course_true]
    rfl
  | isEnded next ih => intro s; exact ih false s
  | aside change next ih => intro s; exact ih _

/-- The transaction is ended in the end if it was before, or if the work asked
for an ending. -/
theorem ended_runOn (work : Work σ α) : ∀ (ended : Bool) (s : Session σ),
    ((work.runOn a c ended).run s).1.2 =
      (ended || !((work.course a c ended s).filterMap Step.asked?).isEmpty) := by
  induction work using byCalls with
  | done v => intro ended s; exact (Bool.or_false ended).symm
  | raise e => intro ended s; exact (Bool.or_false ended).symm
  | query sql params next ih =>
    intro ended s
    rw [course, List.filterMap_cons_none (Step.asked?_query _ _ _)]
    exact ih _ ended _
  | ending how next ih =>
    intro ended s
    rw [runOn_ending, ih, course_ending, List.filterMap_cons_some (Step.asked?_ending how _)]
    simp
  | isEnded next ih => intro ended s; exact ih ended ended s
  | aside change next ih => intro ended s; exact ih ended _

end Work
end TableGate

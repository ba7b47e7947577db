/-
# What actions lead to

An action leads along a relation between sessions (`Action.Leads`) if, whatever
the session it runs in and however the driver answers, the session it ends in is
so related to the one it began in. Along a preorder, an action leads if its parts
do, whether they fail or not.

Two such relations matter here: that events of one kind were added to the log and
none was taken away (`Session.Adds`), and that a list which the backend keeps has
grown at its end (`Session.Extends`).

Whatever is asked of a connection, the events that come of it name that
connection, and neither take it from the pool nor give it back
(`Adapter.adds_runOn`).

Key definitions: `Action.Leads`, `Session.Adds`, `Session.Extends`, `Event.IsOn`.
Key theorems: `Action.bind_ok`, `Action.Leads.bind_of_ok`,
`Adapter.leads_runPrepared`, `Adapter.leads_withConnection`, `Adapter.adds_runOn`,
`Adapter.traced_cases`.
-/
import Mathlib.Order.Defs.Unbundled
import TableGate.Backend.Statement

namespace TableGate

/-- The event is a use of the connection. -/
def Event.IsOn (c : Nat) : Event → Prop
  | .prepare d _ | .fetch d _ | .control d _ | .execute d _ _ | .closeCursor d => d = c
  | _ => False

namespace Session

variable {σ ρ : Type}

/-- The later session has the log of the earlier one, and events of one kind after
it. -/
def Adds (P : Event → Prop) (s t : Session σ) : Prop := ∃ es, t.log = s.log ++ es ∧ ∀ e ∈ es, P e

instance (P : Event → Prop) : IsPreorder (Session σ) (Adds P) where
  refl _ := ⟨[], by simp, by simp⟩
  trans s t u := by
    rintro ⟨front, hfront, hfP⟩ ⟨rest, hrest, hrP⟩
    refine ⟨front ++ rest, ?_, fun e he => ?_⟩
    · rw [hrest, hfront, List.append_assoc]
    · exact (List.mem_append.mp he).elim (hfP e) (hrP e)

theorem adds_spans (P : Event → Prop) (s : Session σ) (spans : List Span) :
    Adds P s { s with spans := spans } := ⟨[], by simp, by simp⟩

/-- What the backend of the earlier session kept, that of the later one keeps, and
maybe more after it. -/
def Extends (kept : σ → List ρ) (s t : Session σ) : Prop := kept s.backend <+: kept t.backend

instance (kept : σ → List ρ) : IsPreorder (Session σ) (Extends kept) where
  refl _ := List.prefix_refl _
  trans _ _ _ := List.IsPrefix.trans

end Session

namespace Action

variable {σ α β : Type} {s u : Session σ} {b : β} {R : Session σ → Session σ → Prop}

theorem runIn_mapFault (f : Fault → Fault) (act : Action σ α) (s : Session σ) :
    (act.mapFault f).runIn s = ((act.runIn s).1.mapError f, (act.runIn s).2) := by
  simp only [mapFault, runIn_bind, runIn_outcome]
  rcases act.runIn s with ⟨r, t⟩
  cases r <;> rfl

/-! ### Actions that succeed -/

theorem bind_ok {act : Action σ α} {next : α → Action σ β}
    (h : (act >>= next).runIn s = (.ok b, u)) :
    ∃ a t, act.runIn s = (.ok a, t) ∧ (next a).runIn t = (.ok b, u) := by
  rw [runIn_bind] at h
  rcases hact : act.runIn s with ⟨r, t⟩
  rw [hact] at h
  cases r with
  | error e => cases (Prod.mk.inj h).1
  | ok a => exact ⟨a, t, rfl, h⟩

theorem ofExcept_ok {r : Except Fault β} (h : (ofExcept r : Action σ β).runIn s = (.ok b, u)) :
    r = .ok b ∧ u = s := by
  obtain ⟨hr, hs⟩ := Prod.mk.inj h
  exact ⟨hr, hs.symm⟩

theorem ask_ok {answer : Answer σ β} {e : Event} (h : (ask answer e).runIn s = (.ok b, u)) :
    answer s.backend = (.ok b, u.backend) := by
  rw [runIn_ask] at h
  obtain ⟨hb, hu⟩ := Prod.mk.inj h
  rw [← hu]
  exact Prod.ext hb rfl

theorem mapFault_ok {f : Fault → Fault} {act : Action σ β}
    (h : (act.mapFault f).runIn s = (.ok b, u)) : act.runIn s = (.ok b, u) := by
  rw [runIn_mapFault] at h
  rcases hact : act.runIn s with ⟨r, t⟩
  rw [hact] at h
  cases r with
  | error e => cases (Prod.mk.inj h).1
  | ok a => exact h

/-- The action leads along the relation, from whatever session. -/
def Leads (R : Session σ → Session σ → Prop) (act : Action σ α) : Prop := ∀ s, R s (act.runIn s).2

/-! ### Parts of actions -/

theorem Leads.outcome {act : Action σ α} (h : Leads R act) : Leads R act.outcome := h

section Parts

variable [IsPreorder (Session σ) R]

theorem Leads.of_runIn_eq {act : Action σ α} (h : ∀ s, (act.runIn s).2 = s) : Leads R act := by
  intro s
  rw [h]
  exact refl_of R s

theorem Leads.pure (a : α) : Leads R (Pure.pure a : Action σ α) := .of_runIn_eq fun _ => rfl

theorem Leads.throw (e : Fault) : Leads R (MonadExcept.throw e : Action σ α) :=
  .of_runIn_eq fun _ => rfl

theorem Leads.ofExcept (r : Except Fault α) : Leads R (ofExcept r : Action σ α) :=
  .of_runIn_eq fun _ => rfl

/-- **Two actions lead where both lead**; the second is only done with what the
first can give. -/
theorem Leads.bind_of_ok {act : Action σ α} {next : α → Action σ β} (h : Leads R act)
    (hnext : ∀ a s t, act.runIn s = (.ok a, t) → Leads R (next a)) : Leads R (act >>= next) := by
  intro s
  have hfront := h s
  rw [runIn_bind]
  rcases hrun : act.runIn s with ⟨r, t⟩
  rw [hrun] at hfront
  cases r with
  | error e => exact hfront
  | ok a => exact trans_of R hfront (hnext a s t hrun t)

theorem Leads.bind {act : Action σ α} {next : α → Action σ β} (h : Leads R act)
    (hnext : ∀ a, Leads R (next a)) : Leads R (act >>= next) :=
  h.bind_of_ok fun a _ _ _ => hnext a

theorem Leads.andFinally {act : Action σ α} {after : Action σ Unit} (h : Leads R act)
    (hafter : Leads R after) : Leads R (act.andFinally after) :=
  h.outcome.bind fun r => hafter.bind fun _ => Leads.ofExcept r

end Parts

theorem Leads.mapFault {act : Action σ α} {f : Fault → Fault} (h : Leads R act) :
    Leads R (act.mapFault f) := by
  intro s
  rw [runIn_mapFault]
  exact h s

/-! ### What is added to the log -/

variable {P : Event → Prop}

theorem adds_record {e : Event} (he : P e) :
    Leads (Session.Adds P) (record e : Action σ Unit) :=
  fun _ => ⟨[e], rfl, by simpa using he⟩

theorem adds_ask (answer : Answer σ α) {e : Event} (he : P e) :
    Leads (Session.Adds P) (ask answer e) :=
  fun _ => ⟨[e], rfl, by simpa using he⟩

end Action

namespace Adapter

open TableGate.Action

variable {σ α ρ : Type} {a : Adapter σ} {R : Session σ → Session σ → Prop}

/-! ### Spans -/

/-- A span changes nothing but the spans; and if the environment does not tell
whether they are recorded, nothing is done. -/
theorem traced_cases (a : Adapter σ) (kind : SpanKind) (sql : Option String) (act : Action σ α)
    (s : Session σ) :
    (∃ e, a.tracing = .error e ∧ (a.traced kind sql act).runIn s = (.error e, s)) ∨
      ∃ b spans, a.tracing = .ok b ∧
        (a.traced kind sql act).runIn s =
          ((act.runIn s).1, { (act.runIn s).2 with spans := spans }) := by
  rw [traced]
  cases htracing : a.tracing with
  | error e => exact .inl ⟨e, rfl, rfl⟩
  | ok b =>
    refine .inr ?_
    cases b with
    | false => exact ⟨false, _, rfl, rfl⟩
    | true => exact ⟨true, _, rfl, rfl⟩

/-- A span depends on what the action does in the session only. -/
theorem traced_congr {kind : SpanKind} {sql : Option String} {act act' : Action σ α}
    {s : Session σ} (h : act.runIn s = act'.runIn s) :
    (a.traced kind sql act).runIn s = (a.traced kind sql act').runIn s := by
  rw [traced, traced]
  cases a.tracing with
  | error e => rfl
  | ok b =>
    cases b with
    | false => exact h
    | true =>
      simp only [Action.ofExcept_ok_bind, if_true, runIn_bind, runIn_outcome]
      rw [h]

/-! ### Statements

A relation that spans do not matter to, and that the driver's answers lead along,
is one that statements lead along. -/

section Statements

variable [IsPreorder (Session σ) R]

theorem leads_traced (hspans : ∀ s spans, R s { s with spans := spans }) {kind : SpanKind}
    {sql : Option String} {act : Action σ α} (h : Leads R act) :
    Leads R (a.traced kind sql act) := by
  intro s
  rcases a.traced_cases kind sql act s with ⟨e, -, hrun⟩ | ⟨b, spans, -, hrun⟩
  · rw [hrun]
    exact refl_of R s
  · rw [hrun]
    exact trans_of R (h s) (hspans _ spans)

theorem leads_runPrepared (hspans : ∀ s spans, R s { s with spans := spans }) {c : Nat}
    {sql : String} (hprepare : Leads R (Action.ask (a.driver.prepare sql) (.prepare c sql)))
    {params : List Value}
    (hfetch : ∀ b prepared b' bound, a.driver.prepare sql b = (.ok prepared, b') →
      Sql.coerceAll prepared.parameterTypes params = .ok bound →
      Leads R (Action.ask (a.driver.fetch bound) (.fetch c bound))) :
    Leads R (a.runPrepared c sql params) := by
  refine (leads_traced hspans ?_).mapFault.bind fun r => Leads.ofExcept _
  refine hprepare.bind_of_ok fun prepared s t hprepared => ?_
  refine (Leads.ofExcept _).bind fun fields => ?_
  refine (Leads.ofExcept _).bind_of_ok fun bound s' t' hbound => ?_
  exact (hfetch _ _ _ _ (ask_ok hprepared) (ofExcept_ok hbound).1).bind fun fetched => Leads.pure _

theorem leads_runCursor (hspans : ∀ s spans, R s { s with spans := spans }) {c : Nat}
    (hexecute : ∀ text bound, Leads R
      (Action.ask (a.driver.execute text bound) (.execute c text bound)))
    (hclose : Leads R (Action.record (.closeCursor c) : Action σ Unit)) (sql : String)
    (params : List Value) : Leads R (a.runCursor c sql params) := by
  refine (Leads.ofExcept _).bind fun p => (leads_traced hspans ?_).mapFault
  exact ((hexecute p.1 p.2).bind fun cursor => Leads.ofExcept _).andFinally hclose

theorem leads_withConnection (hacquire : Leads R a.acquire)
    (hrelease : ∀ c, Leads R (Action.record (.release c) : Action σ Unit)) {use : Nat → Action σ α}
    (h : ∀ c, Leads R (use c)) : Leads R (a.withConnection use) := by
  have hcheckout : Leads R a.checkout := by
    have hget : Leads R (get : Action σ (Session σ)) := .of_runIn_eq fun _ => rfl
    refine hget.bind fun s => ?_
    split
    · exact hacquire.mapFault
    · exact Leads.throw _
  exact hcheckout.bind fun c => (h c).andFinally (hrelease c)

end Statements

theorem adds_acquire {P : Event → Prop} (hP : ∀ c, P (.acquire c)) :
    Leads (Session.Adds P) a.acquire := by
  intro s
  rw [acquire, runIn_of]
  rcases a.driver.acquire s.backend with ⟨r, b⟩
  cases r with
  | ok u => exact ⟨[_], rfl, by simpa using hP _⟩
  | error e => exact ⟨[_], rfl, by simpa using hP _⟩

/-- **What a statement adds to the log is on its connection.** -/
theorem adds_runOn (c : Nat) (sql : String) (params : List Value) :
    Leads (Session.Adds (Event.IsOn c)) (a.runOn c sql params) := by
  have hspans := Session.adds_spans (σ := σ) (Event.IsOn c)
  unfold runOn
  cases a.dialect with
  | postgres => exact leads_runPrepared hspans (adds_ask _ rfl) fun _ _ _ _ _ _ => adds_ask _ rfl
  | sqlServer =>
    exact leads_runCursor hspans (fun _ _ => adds_ask _ rfl) (adds_record rfl) sql params

end Adapter
end TableGate

/-
# What an action sends

The log of a session tells every statement that a driver was given. An action
sends at most `n` statements if, whatever the session it runs in and however the
driver answers, it adds at most that many to the log and takes none away
(`Action.Sends`). The bound adds up over the parts of an action, whether they
fail or not.

A query sends one statement at most, on a connection of its own, and its text is
that of the query, with the parameters bound by position where the driver binds
them so.

Key definitions: `Event.statement?`, `Session.sent`, `Action.Sends`,
`Adapter.Carries`.
Key theorems: `Action.Sends.bind`, `Adapter.sends_query`, `Adapter.sends_send`.
-/
import TableGate.Backend.Statement

namespace TableGate

/-- The statement that a driver is given. -/
def Event.statement? : Event → Option String
  | .prepare _ sql => some sql
  | .control _ sql => some sql
  | .ping _ sql => some sql
  | .execute _ sql _ => some sql
  | _ => none

/-- The statements of a session, oldest first. -/
def Session.sent {σ : Type} (s : Session σ) : List String := s.log.filterMap Event.statement?

namespace Action

variable {σ α β : Type} {m n : Nat} {texts : String → Prop}

/-- The action sends at most `n` statements, and only texts of one kind. -/
def Sends (n : Nat) (texts : String → Prop) (act : Action σ α) : Prop :=
  ∀ s, ∃ sent, (act.runIn s).2.sent = s.sent ++ sent ∧ sent.length ≤ n ∧ ∀ t ∈ sent, texts t

/-! ### Parts of actions -/

/-- An action that leaves the statements of the log alone sends none. -/
theorem Sends.of_sent_eq {act : Action σ α} (h : ∀ s, (act.runIn s).2.sent = s.sent) :
    Sends 0 texts act :=
  fun s => ⟨[], by simp [h s], Nat.le_refl 0, by simp⟩

theorem Sends.mono {act : Action σ α} (h : Sends m texts act) (hmn : m ≤ n) :
    Sends n texts act := by
  intro s
  obtain ⟨sent, hs, hlen, ht⟩ := h s
  exact ⟨sent, hs, Nat.le_trans hlen hmn, ht⟩

theorem Sends.pure (a : α) : Sends 0 texts (Pure.pure a : Action σ α) := .of_sent_eq fun _ => rfl

theorem Sends.throw (e : Fault) : Sends 0 texts (MonadExcept.throw e : Action σ α) :=
  .of_sent_eq fun _ => rfl

theorem Sends.ofExcept (r : Except Fault α) : Sends 0 texts (ofExcept r : Action σ α) :=
  .of_sent_eq fun _ => rfl

theorem sent_record (e : Event) (s : Session σ) :
    ({ s with log := s.log ++ [e] } : Session σ).sent = s.sent ++ e.statement?.toList := by
  rw [Session.sent, List.filterMap_append, Session.sent]
  cases he : e.statement? <;> simp [he]

theorem Sends.record {e : Event} (he : e.statement? = none) :
    Sends 0 texts (record e : Action σ Unit) := by
  refine .of_sent_eq fun s => ?_
  rw [runIn_record, sent_record, he]
  simp

theorem Sends.ask (answer : Answer σ α) {e : Event} (ht : ∀ t ∈ e.statement?, texts t) :
    Sends e.statement?.toList.length texts (ask answer e) := by
  intro s
  refine ⟨e.statement?.toList, ?_, Nat.le_refl _, fun t h => ht t (by simpa using h)⟩
  rw [runIn_ask]
  exact sent_record e _

/-- **What two actions send adds up.** -/
theorem Sends.bind {act : Action σ α} {next : α → Action σ β} (h : Sends m texts act)
    (hnext : ∀ a, Sends n texts (next a)) : Sends (m + n) texts (act >>= next) := by
  intro s
  obtain ⟨front, hfront, hm, hft⟩ := h s
  rw [runIn_bind]
  rcases hrun : act.runIn s with ⟨r, t⟩
  rw [hrun] at hfront
  cases r with
  | error e => exact ⟨front, hfront, by omega, hft⟩
  | ok a =>
    obtain ⟨rest, hrest, hn, hrt⟩ := hnext a t
    refine ⟨front ++ rest, ?_, ?_, ?_⟩
    · rw [hrest, hfront, List.append_assoc]
    · rw [List.length_append]
      omega
    · intro x hx
      rcases List.mem_append.mp hx with hx | hx
      · exact hft x hx
      · exact hrt x hx

/-- An outcome that is known before the rest sends nothing. -/
theorem Sends.ofExcept_bind {r : Except Fault α} {next : α → Action σ β}
    (h : ∀ a, r = .ok a → Sends n texts (next a)) : Sends n texts (Action.ofExcept r >>= next) := by
  cases r with
  | error e => exact (Sends.throw (α := β) e).mono (Nat.zero_le n)
  | ok a => exact h a rfl

theorem Sends.outcome {act : Action σ α} (h : Sends n texts act) : Sends n texts act.outcome := h

theorem Sends.andFinally {act : Action σ α} {after : Action σ Unit} (h : Sends m texts act)
    (hafter : Sends n texts after) : Sends (m + n) texts (act.andFinally after) := by
  have hboth := h.outcome.bind fun r => hafter.bind fun _ => Sends.ofExcept r
  exact hboth

theorem Sends.mapFault {act : Action σ α} {f : Fault → Fault} (h : Sends n texts act) :
    Sends n texts (act.mapFault f) := by
  refine h.outcome.bind (n := 0) fun r => ?_
  cases r with
  | ok a => exact Sends.pure a
  | error e => exact Sends.throw (f e)

end Action

namespace Adapter

open TableGate.Action

variable {σ α : Type} {a : Adapter σ} {n : Nat} {texts : String → Prop}

/-! ### Queries -/

/-- The text that the driver is given for a query. -/
def Carries (a : Adapter σ) (sql : String) (params : List Value) (text : String) : Prop :=
  match a.dialect with
  | .postgres => text = sql
  | .sqlServer => ∃ bound, Sql.bindByPosition sql params = .ok (text, bound)

theorem sends_traced {kind : SpanKind} {sql : Option String} {act : Action σ α}
    (h : Sends n texts act) : Sends n texts (a.traced kind sql act) := by
  refine Sends.ofExcept_bind fun tracing _ => ?_
  cases tracing with
  | false => exact h
  | true =>
    have hspan : ∀ f : Session σ → Session σ, (∀ s, (f s).sent = s.sent) →
        Sends 0 texts (modify f : Action σ PUnit) := fun f hf => .of_sent_eq hf
    exact h.outcome.bind fun r => (hspan _ fun _ => rfl).bind fun _ => Sends.ofExcept r

theorem sends_acquire : Sends 0 texts a.acquire := by
  refine .of_sent_eq fun s => ?_
  rw [acquire, runIn_of]
  rcases a.driver.acquire s.backend with ⟨r, b⟩
  cases r with
  | ok u => exact (sent_record _ _).trans (List.append_nil _)
  | error e => exact (sent_record _ _).trans (List.append_nil _)

theorem sends_checkout : Sends 0 texts a.checkout := by
  have hget : Sends 0 texts (get : Action σ (Session σ)) := .of_sent_eq fun _ => rfl
  refine hget.bind (n := 0) fun s => ?_
  split
  · exact sends_acquire.mapFault
  · exact Sends.throw _

theorem sends_withConnection {use : Nat → Action σ α} (h : ∀ c, Sends n texts (use c)) :
    Sends n texts (a.withConnection use) := by
  have huse : ∀ c, Sends n texts ((use c).andFinally (.record (.release c))) :=
    fun c => (h c).andFinally (Sends.record rfl)
  exact (sends_checkout.bind huse).mono (Nat.le_of_eq (Nat.zero_add n))

theorem sends_runPrepared (c : Nat) (sql : String) (params : List Value) :
    Sends 1 (· = sql) (a.runPrepared c sql params) := by
  have hprepare : Sends 1 (· = sql) (Action.ask (a.driver.prepare sql) (.prepare c sql)) :=
    Sends.ask _ (e := .prepare c sql) (by simp [Event.statement?])
  have hfetch : ∀ bound, Sends 0 (· = sql) (Action.ask (a.driver.fetch bound) (.fetch c bound)) :=
    fun bound => Sends.ask _ (e := .fetch c bound) (by simp [Event.statement?])
  refine Sends.bind (m := 1) (n := 0) (sends_traced ?_).mapFault fun r => Sends.ofExcept _
  refine Sends.bind (m := 1) (n := 0) hprepare fun prepared => ?_
  refine Sends.ofExcept_bind fun fields _ => Sends.ofExcept_bind fun bound _ => ?_
  exact (hfetch bound).bind fun fetched => Sends.pure _

theorem sends_runCursor (c : Nat) (sql : String) (params : List Value) :
    Sends 1 (fun text => ∃ bound, Sql.bindByPosition sql params = .ok (text, bound))
      (a.runCursor c sql params) := by
  refine Sends.ofExcept_bind fun p hp => ?_
  obtain ⟨text, bound⟩ := p
  refine (sends_traced ?_).mapFault
  refine Sends.andFinally (m := 1) (n := 0) ?_ (Sends.record rfl)
  refine Sends.bind (m := 1) (n := 0) ?_ fun cursor => Sends.ofExcept _
  exact Sends.ask _ (e := .execute c text bound) (by simpa [Event.statement?] using ⟨bound, hp⟩)

theorem sends_runOn (c : Nat) (sql : String) (params : List Value) :
    Sends 1 (a.Carries sql params) (a.runOn c sql params) := by
  unfold runOn Carries
  cases a.dialect with
  | postgres => exact sends_runPrepared c sql params
  | sqlServer => exact sends_runCursor c sql params

/-- **A query sends one statement at most.** -/
theorem sends_query (sql : String) (params : List Value) :
    Sends 1 (a.Carries sql params) (a.query sql params) :=
  sends_withConnection fun c => sends_runOn c sql params

theorem sends_send (cmd : Command) : Sends 1 (a.Carries cmd.text cmd.params) (a.send cmd) :=
  sends_query cmd.text cmd.params

end Adapter
end TableGate

/-
# Connections, and statements that succeed on them

What is done with a connection is done after one was taken from the pool, and
before it is given back (`Adapter.withConnection_runIn`). Without a connection
nothing is done.

A prepared statement that succeeds was prepared, its parameters took the form of
the types that it declares, and its rows are those that were fetched
(`Adapter.query_ok`).

Key theorems: `Adapter.withConnection_runIn`, `Adapter.runPrepared_ok`,
`Adapter.query_ok`.
-/
import TableGate.Proofs.Backend.Log
import TableGate.Proofs.Except

namespace TableGate

namespace Adapter

variable {σ α : Type} {a : Adapter σ} {c : Nat} {s t u : Session σ}

/-! ### Connections -/

theorem checkout_runIn (a : Adapter σ) (s : Session σ) :
    a.checkout.runIn s =
      if s.pool.isSome then
        ((a.acquire.runIn s).1.mapError fun e =>
          if a.isDriverFault e then e.translated none else e, (a.acquire.runIn s).2)
      else
        (.error (.api (.connection (a.dialect.product ++ " adapter is not connected") [])), s) := by
  have hget : (get : Action σ (Session σ)).runIn s = (.ok s, s) := rfl
  rw [checkout, Action.runIn_bind, hget]
  dsimp only
  cases s.pool.isSome with
  | true => exact Action.runIn_mapFault _ _ _
  | false => rfl

/-- A connection that is taken is logged, and so is one that cannot be taken. -/
theorem log_checkout (a : Adapter σ) (s : Session σ) :
    (∃ e, (a.checkout.runIn s).1 = .error e ∧
      ((a.checkout.runIn s).2.log = s.log ∨
        (a.checkout.runIn s).2.log = s.log ++ [.acquire none])) ∨
    ∃ c, (a.checkout.runIn s).1 = .ok c ∧
      (a.checkout.runIn s).2.log = s.log ++ [.acquire (some c)] := by
  rw [checkout_runIn]
  cases s.pool.isSome with
  | false => exact .inl ⟨_, rfl, .inl rfl⟩
  | true =>
    rw [if_pos rfl, acquire, Action.runIn_of]
    rcases a.driver.acquire s.backend with ⟨r, b⟩
    cases r with
    | error e => exact .inl ⟨_, rfl, .inr rfl⟩
    | ok u => exact .inr ⟨_, rfl, rfl⟩

theorem log_of_checkout (h : a.checkout.runIn s = (.ok c, t)) :
    t.log = s.log ++ [.acquire (some c)] := by
  rcases a.log_checkout s with ⟨e, he, -⟩ | ⟨c', hc', hlog⟩
  · rw [h] at he
    cases he
  · rw [h] at hc' hlog
    cases hc'
    exact hlog

theorem log_of_checkout_error {e : Fault} (h : a.checkout.runIn s = (.error e, t)) :
    t.log = s.log ∨ t.log = s.log ++ [.acquire none] := by
  rcases a.log_checkout s with ⟨-, -, hlog⟩ | ⟨c', hc', -⟩
  · rw [h] at hlog
    exact hlog
  · rw [h] at hc'
    cases hc'

/-- What is done with a connection is done, and the connection given back. -/
theorem withConnection_runIn {use : Nat → Action σ α} (h : a.checkout.runIn s = (.ok c, t)) :
    (a.withConnection use).runIn s =
      (((use c).runIn t).1,
        { ((use c).runIn t).2 with log := ((use c).runIn t).2.log ++ [.release c] }) := by
  rw [withConnection, Action.runIn_bind, h]
  dsimp only
  rw [Action.runIn_andFinally, Action.runIn_record]

theorem withConnection_of_error {use : Nat → Action σ α} {e : Fault}
    (h : a.checkout.runIn s = (.error e, t)) : (a.withConnection use).runIn s = (.error e, t) := by
  rw [withConnection, Action.runIn_bind, h]

/-- Where something is done with a connection, one was taken, and the backend is
as it was left. -/
theorem withConnection_ok {use : Nat → Action σ α} {v : α}
    (h : (a.withConnection use).runIn s = (.ok v, u)) :
    ∃ c t w, a.checkout.runIn s = (.ok c, t) ∧ (use c).runIn t = (.ok v, w) ∧
      w.backend = u.backend := by
  rcases hcheckout : a.checkout.runIn s with ⟨r, t⟩
  cases r with
  | error e =>
    rw [withConnection_of_error hcheckout] at h
    cases (Prod.mk.inj h).1
  | ok c =>
    rw [withConnection_runIn hcheckout] at h
    obtain ⟨hv, hu⟩ := Prod.mk.inj h
    exact ⟨c, t, ((use c).runIn t).2, rfl, Prod.ext hv rfl, by rw [← hu]⟩

/-! ### Statements -/

theorem traced_ok {kind : SpanKind} {sql : Option String} {act : Action σ α} {v : α}
    (h : (a.traced kind sql act).runIn s = (.ok v, u)) :
    ∃ t, act.runIn s = (.ok v, t) ∧ t.backend = u.backend := by
  rcases a.traced_cases kind sql act s with ⟨e, -, hrun⟩ | ⟨b, spans, -, hrun⟩
  · rw [hrun] at h
    cases (Prod.mk.inj h).1
  · rw [hrun] at h
    obtain ⟨hv, hu⟩ := Prod.mk.inj h
    exact ⟨(act.runIn s).2, Prod.ext hv rfl, by rw [← hu]⟩

theorem rows_of_ofFetched {fields : List ResultField} {fetched : Fetched} {result : QueryResult}
    (h : Reply.ofFetched fields fetched = .ok result) : result.rows = fetched.rows := by
  obtain ⟨command, -, h⟩ := Results.bind_eq_ok_iff.mp h
  obtain ⟨count, -, h⟩ := Results.bind_eq_ok_iff.mp h
  rw [← Results.pure_eq_ok_iff.mp h]

/-- **A prepared statement that succeeds gives the rows that were fetched** for its
parameters, in the form of the declared types. -/
theorem runPrepared_ok {sql : String} {params : List Value} {result : QueryResult}
    (h : (a.runPrepared c sql params).runIn s = (.ok result, u)) :
    ∃ prepared b bound fetched, a.driver.prepare sql s.backend = (.ok prepared, b) ∧
      Sql.coerceAll prepared.parameterTypes params = .ok bound ∧
      a.driver.fetch bound b = (.ok fetched, u.backend) ∧ result.rows = fetched.rows := by
  obtain ⟨⟨fields, fetched⟩, t, htraced, hreply⟩ := Action.bind_ok h
  obtain ⟨hresult, rfl⟩ := Action.ofExcept_ok hreply
  obtain ⟨w, hrun, hw⟩ := traced_ok (Action.mapFault_ok htraced)
  obtain ⟨prepared, t₁, hprepare, hrest⟩ := Action.bind_ok hrun
  obtain ⟨fields', t₂, hfields, hrest⟩ := Action.bind_ok hrest
  obtain ⟨bound, t₃, hbound, hrest⟩ := Action.bind_ok hrest
  obtain ⟨fetched', t₄, hfetch, hpure⟩ := Action.bind_ok hrest
  obtain ⟨-, ht₂⟩ := Action.ofExcept_ok hfields
  obtain ⟨hbound, ht₃⟩ := Action.ofExcept_ok hbound
  obtain ⟨hpair, ht₄⟩ := Prod.mk.inj hpure
  obtain ⟨-, rfl⟩ := Prod.mk.inj (Except.ok.inj hpair)
  have hprepare := Action.ask_ok hprepare
  have hfetch := Action.ask_ok hfetch
  rw [ht₄, hw, ht₃, ht₂] at hfetch
  exact ⟨prepared, t₁.backend, bound, fetched', hprepare, hbound, hfetch,
    rows_of_ofFetched hresult⟩

/-- **A query of a driver that prepares statements**, where it succeeds. -/
theorem query_ok (hdialect : a.dialect = .postgres) {sql : String} {params : List Value}
    {result : QueryResult} (h : (a.query sql params).runIn s = (.ok result, u)) :
    ∃ b₀ prepared b bound fetched, a.driver.prepare sql b₀ = (.ok prepared, b) ∧
      Sql.coerceAll prepared.parameterTypes params = .ok bound ∧
      a.driver.fetch bound b = (.ok fetched, u.backend) ∧ result.rows = fetched.rows := by
  obtain ⟨c, t, w, -, hrun, hw⟩ := withConnection_ok h
  rw [runOn, hdialect] at hrun
  obtain ⟨prepared, b, bound, fetched, hprepare, hbound, hfetch, hrows⟩ := runPrepared_ok hrun
  rw [hw] at hfetch
  exact ⟨t.backend, prepared, b, bound, fetched, hprepare, hbound, hfetch, hrows⟩

end Adapter
end TableGate

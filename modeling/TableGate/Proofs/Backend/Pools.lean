/-
# Pools are opened and closed in turn

A session is told to connect and to disconnect, in any order and any number of times,
and each call is waited for. The log tells which pools were opened and which were
closed (`Session.ledger`). Pools are numbered as they are opened, and each is closed
before the next one is opened; so the closed ones, and then the open one if there is
one, are all that were ever opened, each once and in that order
(`PoolLedger.Balanced`). No pool is left open without the session knowing it, and
none is closed twice.

Connecting has four outcomes (`Adapter.connect_cases`): a pool was open, and nothing
is done; the pool cannot be opened; it is opened, but does not answer, and is closed
again; or it is opened and kept. Whether the driver opens pools and lets them answer
is up to it, each time anew.

Assumed of the settings is only that they can be made into what a pool is opened with
(`PoolCall.IsAccepted`): else nothing is opened, and the failure is that of reading
them.

Key definitions: `PoolLedger`, `Session.ledger`, `PoolLedger.Balanced`, `PoolCall`,
`Adapter.afterCalls`.
Key theorems: `Adapter.connect_cases`, `Session.disconnect_runIn`,
`Adapter.balanced_afterCalls`, `Adapter.pools_balanced`.
-/
import TableGate.Backend.Pool
import TableGate.Backend.Scripted
import TableGate.Proofs.Backend.Log

namespace TableGate

def Event.openedPool? : Event → Option Nat
  | .openPool pool _ => pool
  | _ => none

def Event.closedPool? : Event → Option Nat
  | .closePool pool => some pool
  | _ => none

/-! ### Ledgers -/

/-- The pools of a session: those that were opened and closed, the one that it has, the
number of the next one, and the settings it was last told to connect with. -/
structure PoolLedger where
  opened : List Nat
  closed : List Nat
  current : Option Nat
  next : Nat
  settings : Option ConnectionSettings

namespace PoolLedger

/-- A pool is opened, which the session does not have yet. -/
def opening (l : PoolLedger) : PoolLedger :=
  { l with opened := l.opened ++ [l.next], next := l.next + 1 }

/-- A pool is closed. -/
def closing (l : PoolLedger) (pool : Nat) : PoolLedger := { l with closed := l.closed ++ [pool] }

/-- Every pool that was opened was closed, but the one that the session has, which is
the last one. -/
structure Balanced (l : PoolLedger) : Prop where
  opened : l.opened = List.range l.next
  settled : l.closed ++ l.current.toList = List.range l.next

variable {l : PoolLedger}

theorem Balanced.length (h : l.Balanced) :
    l.opened.length = l.closed.length + l.current.isSome.toNat := by
  have hlength := congrArg List.length (h.opened.trans h.settled.symm)
  rw [List.length_append] at hlength
  rw [hlength]
  cases l.current <;> rfl

/-- No pool is closed twice, and the one that the session has is not closed. -/
theorem Balanced.nodup (h : l.Balanced) : (l.closed ++ l.current.toList).Nodup := by
  rw [h.settled]
  exact List.nodup_range

/-- No pool is closed, and the session has none, that was not opened. -/
theorem Balanced.mem_opened (h : l.Balanced) {pool : Nat}
    (hpool : pool ∈ l.closed ++ l.current.toList) : pool ∈ l.opened := by
  rw [h.opened, ← h.settled]
  exact hpool

theorem Balanced.current_opened (h : l.Balanced) {pool : Nat} (hpool : l.current = some pool) :
    pool ∈ l.opened ∧ pool ∉ l.closed := by
  have hlast : pool ∈ l.current.toList := by
    rw [hpool]
    exact List.mem_singleton_self pool
  have hapart := (List.nodup_append.mp h.nodup).2.2
  exact ⟨h.mem_opened (List.mem_append_right _ hlast),
    fun hclosed => hapart pool hclosed pool hlast rfl⟩

theorem Balanced.settings (h : l.Balanced) (settings : Option ConnectionSettings) :
    ({ l with settings := settings } : PoolLedger).Balanced := ⟨h.opened, h.settled⟩

theorem Balanced.taken (h : l.Balanced) (hnone : l.current = none) :
    { l.opening with current := some l.next }.Balanced := by
  have hclosed : l.closed = List.range l.next := by
    have hsettled := h.settled
    rwa [hnone, Option.toList_none, List.append_nil] at hsettled
  constructor
  · change l.opened ++ [l.next] = List.range (l.next + 1)
    rw [h.opened, List.range_succ]
  · change l.closed ++ [l.next] = List.range (l.next + 1)
    rw [hclosed, List.range_succ]

theorem Balanced.dropped {pool : Nat} (h : l.Balanced) (hpool : l.current = some pool) :
    { l.closing pool with current := none }.Balanced := by
  refine ⟨h.opened, ?_⟩
  have hsettled := h.settled
  rw [hpool] at hsettled
  change (l.closed ++ [pool]) ++ [] = List.range l.next
  rw [List.append_nil]
  exact hsettled

end PoolLedger

namespace Session

variable {σ : Type} {s t : Session σ}

/-- What the session and its log tell of pools. -/
def ledger (s : Session σ) : PoolLedger where
  opened := s.log.filterMap Event.openedPool?
  closed := s.log.filterMap Event.closedPool?
  current := s.pool
  next := s.nextPool
  settings := s.settings

/-- Nothing happened to pools. -/
def KeepsPools (s t : Session σ) : Prop := t.ledger = s.ledger

instance : IsPreorder (Session σ) KeepsPools where
  refl _ := rfl
  trans _ _ _ hst htu := htu.trans hst

theorem ledger_event (s : Session σ) (b : σ) (n : Nat) {e : Event} (hopened : e.openedPool? = none)
    (hclosed : e.closedPool? = none) :
    ({ s with backend := b, log := s.log ++ [e], nextConnection := n } : Session σ).ledger =
      s.ledger := by
  simp [ledger, List.filterMap_append, hopened, hclosed]

theorem ledger_closePool (s : Session σ) (pool : Nat) :
    ({ s with log := s.log ++ [.closePool pool] } : Session σ).ledger = s.ledger.closing pool := by
  simp [ledger, PoolLedger.closing, Event.openedPool?, Event.closedPool?]

/-! ### Disconnecting -/

theorem disconnect_of_none (h : s.pool = none) :
    (disconnect : Action σ Unit).runIn s = (.ok (), s) := by
  have hget : (get : Action σ (Session σ)).runIn s = (.ok s, s) := rfl
  rw [disconnect, Action.runIn_bind, hget]
  dsimp only
  rw [h]
  rfl

theorem disconnect_of_some {pool : Nat} (h : s.pool = some pool) :
    (disconnect : Action σ Unit).runIn s =
      (.ok (), { s with pool := none, log := s.log ++ [.closePool pool] }) := by
  have hget : (get : Action σ (Session σ)).runIn s = (.ok s, s) := rfl
  rw [disconnect, Action.runIn_bind, hget]
  dsimp only
  rw [h]
  rfl

/-- **Disconnecting never fails**, and no pool is open then. -/
theorem disconnect_runIn (s : Session σ) :
    ∃ t, (disconnect : Action σ Unit).runIn s = (.ok (), t) ∧ t.pool = none := by
  cases hpool : s.pool with
  | none => exact ⟨s, disconnect_of_none hpool, hpool⟩
  | some pool => exact ⟨_, disconnect_of_some hpool, rfl⟩

theorem balanced_disconnect (h : s.ledger.Balanced) :
    ((disconnect : Action σ Unit).runIn s).2.ledger.Balanced := by
  cases hpool : s.pool with
  | none =>
    rw [disconnect_of_none hpool]
    exact h
  | some pool =>
    rw [disconnect_of_some hpool]
    have hledger := ledger_closePool { s with pool := none } pool
    rw [show ({ s with pool := none, log := s.log ++ [.closePool pool] } : Session σ).ledger =
      { s.ledger.closing pool with current := none } from hledger]
    exact h.dropped hpool

end Session

namespace Adapter

open TableGate.Action Session

variable {σ : Type} {a : Adapter σ} {s t : Session σ} {settings : ConnectionSettings}

/-! ### Connecting -/

theorem keepsPools_ask {α : Type} (answer : Answer σ α) {e : Event} (hopened : e.openedPool? = none)
    (hclosed : e.closedPool? = none) : Leads KeepsPools (Action.ask answer e) :=
  fun s => ledger_event s _ s.nextConnection hopened hclosed

theorem keepsPools_record {e : Event} (hopened : e.openedPool? = none)
    (hclosed : e.closedPool? = none) : Leads KeepsPools (Action.record e : Action σ Unit) :=
  fun s => ledger_event s s.backend s.nextConnection hopened hclosed

/-- To try a pool out neither opens one nor closes one. -/
theorem keepsPools_tryOut (a : Adapter σ) : Leads KeepsPools a.tryOut := by
  have hacquire : Leads KeepsPools a.acquire := by
    intro s
    rw [acquire, runIn_of]
    rcases a.driver.acquire s.backend with ⟨r, b⟩
    cases r with
    | ok u => exact ledger_event s b (s.nextConnection + 1) rfl rfl
    | error e => exact ledger_event s b s.nextConnection rfl rfl
  have hping : ∀ c, Leads KeepsPools (a.ping c) := by
    intro c
    unfold ping
    cases a.dialect with
    | postgres => exact keepsPools_ask _ rfl rfl
    | sqlServer => exact (keepsPools_ask _ rfl rfl).bind fun _ => keepsPools_record rfl rfl
  exact hacquire.bind fun c => (hping c).andFinally (keepsPools_record rfl rfl)

/-- A pool that is opened has the next number; one that cannot be opened is none. -/
theorem openPool_cases (a : Adapter σ) (arguments : List Value) (s : Session σ) :
    (∃ e t, (a.openPool arguments).runIn s = (.error e, t) ∧ t.ledger = s.ledger) ∨
      ∃ t, (a.openPool arguments).runIn s = (.ok s.nextPool, t) ∧ t.ledger = s.ledger.opening := by
  have hopened : ∀ b : σ, ({ s with
      backend := b
      log := s.log ++ [.openPool (some s.nextPool) arguments]
      nextPool := s.nextPool + 1 } : Session σ).ledger = s.ledger.opening := fun b => by
    simp [ledger, PoolLedger.opening, Event.openedPool?, Event.closedPool?]
  rw [openPool, runIn_of]
  cases a.dialect with
  | sqlServer => exact .inr ⟨_, rfl, hopened s.backend⟩
  | postgres =>
    dsimp only
    rcases a.driver.openPool arguments s.backend with ⟨r, b⟩
    cases r with
    | ok u => exact .inr ⟨_, rfl, hopened b⟩
    | error e => exact .inl ⟨e, _, rfl, ledger_event s b s.nextConnection rfl rfl⟩

theorem connect_of_some (h : s.pool.isSome = true) (settings : ConnectionSettings) :
    (a.connect settings).runIn s = (.ok (), s) := by
  have hget : (get : Action σ (Session σ)).runIn s = (.ok s, s) := rfl
  rw [connect, runIn_bind, hget]
  dsimp only
  rw [if_pos h]
  rfl

/-- Where no pool is open, one is opened, tried out, and kept or closed. -/
theorem connect_of_none {arguments : List Value} (h : s.pool = none)
    (harguments : poolArguments a.dialect settings = .ok arguments) :
    (a.connect settings).runIn s =
      match (a.openPool arguments).runIn { s with settings := some settings } with
      | (.error e, t) => (.error (connectFault a.dialect settings e), t)
      | (.ok pool, t) =>
        match a.tryOut.runIn t with
        | (.ok (), u) => (.ok (), { u with pool := some pool })
        | (.error e, u) =>
          (.error (connectFault a.dialect settings e),
            { u with log := u.log ++ [.closePool pool] }) := by
  have hget : (get : Action σ (Session σ)).runIn s = (.ok s, s) := rfl
  have hmodify : (modify fun s => { s with settings := some settings } : Action σ PUnit).runIn s =
      (.ok (), { s with settings := some settings }) := rfl
  rw [connect, runIn_bind, hget]
  dsimp only
  rw [if_neg (by simp [h]), runIn_bind, hmodify]
  dsimp only
  rw [harguments, ofExcept_ok_bind, runIn_bind, runIn_mapFault]
  rcases (a.openPool arguments).runIn { s with settings := some settings } with ⟨r, t⟩
  cases r with
  | error e => rfl
  | ok pool =>
    dsimp only [Except.mapError]
    rw [runIn_bind, runIn_outcome]
    rcases a.tryOut.runIn t with ⟨r, u⟩
    cases r <;> rfl

/-- **The outcomes of connecting.** A pool was open, and nothing is done. Else the
settings are new, and no pool is opened; or one is, and closed again; or one is, and
the session has it. -/
theorem connect_cases (h : (poolArguments a.dialect settings).isOk = true)
    (s : Session σ) :
    (s.pool.isSome = true ∧ (a.connect settings).runIn s = (.ok (), s)) ∨
    (s.pool = none ∧ ∃ e t,
      (a.connect settings).runIn s = (.error (connectFault a.dialect settings e), t) ∧
      (t.ledger = { s.ledger with settings := some settings } ∨
        t.ledger = { s.ledger.opening.closing s.nextPool with settings := some settings })) ∨
    (s.pool = none ∧ ∃ t, (a.connect settings).runIn s = (.ok (), t) ∧
      t.ledger =
        { s.ledger.opening with current := some s.nextPool, settings := some settings }) := by
  cases hpool : s.pool with
  | some pool => exact .inl ⟨rfl, connect_of_some (by rw [hpool]; rfl) settings⟩
  | none =>
    obtain ⟨arguments, harguments⟩ :
        ∃ arguments, poolArguments a.dialect settings = .ok arguments := by
      cases harguments : poolArguments a.dialect settings with
      | error e => rw [harguments] at h; cases h
      | ok arguments => exact ⟨arguments, rfl⟩
    have hrun := connect_of_none hpool harguments
    rcases a.openPool_cases arguments { s with settings := some settings } with
      ⟨e, t, hopen, hledger⟩ | ⟨t, hopen, hledger⟩
    · rw [hopen] at hrun
      exact .inr (.inl ⟨rfl, e, t, hrun, .inl hledger⟩)
    · have htried : (a.tryOut.runIn t).2.ledger = t.ledger := a.keepsPools_tryOut t
      rw [hopen] at hrun
      dsimp only at hrun
      rcases htry : a.tryOut.runIn t with ⟨r, u⟩
      rw [htry] at hrun htried
      dsimp only at htried
      rw [hledger] at htried
      cases r with
      | ok v =>
        refine .inr (.inr ⟨rfl, _, hrun, ?_⟩)
        change { u.ledger with current := some s.nextPool } = _
        rw [htried]
        rfl
      | error e =>
        refine .inr (.inl ⟨rfl, e, _, hrun, .inr ?_⟩)
        rw [ledger_closePool, htried]
        rfl

/-- Where no pool was open, the session is connected with the settings, or it is not
connected and the failure is a connection error. -/
theorem connect_of_accepted (h : (poolArguments a.dialect settings).isOk = true)
    (hnone : s.pool = none) :
    (∃ t, (a.connect settings).runIn s = (.ok (), t) ∧ t.pool = some s.nextPool ∧
      t.settings = some settings) ∨
    ∃ message t, (a.connect settings).runIn s = (.error (.api (.connection message [])), t) ∧
      t.pool = none := by
  rcases connect_cases h s with ⟨hsome, -⟩ | ⟨-, e, t, hrun, hledger⟩ | ⟨-, t, hrun, hledger⟩
  · rw [hnone] at hsome
    cases hsome
  · have hcurrent : t.ledger.current = s.pool := by
      rcases hledger with hledger | hledger <;> rw [hledger] <;> rfl
    exact .inr ⟨_, t, hrun, hcurrent.trans hnone⟩
  · have hcurrent : t.ledger.current = some s.nextPool := by rw [hledger]
    have hsettings : t.ledger.settings = some settings := by rw [hledger]
    exact .inl ⟨t, hrun, hcurrent, hsettings⟩

/-- Connecting keeps the balance, whatever comes of it. -/
theorem balanced_connect (h : (poolArguments a.dialect settings).isOk = true)
    (hs : s.ledger.Balanced) : ((a.connect settings).runIn s).2.ledger.Balanced := by
  rcases connect_cases h s with ⟨-, hrun⟩ | ⟨hnone, e, t, hrun, hledger⟩ | ⟨hnone, t, hrun, hledger⟩
  · rw [hrun]
    exact hs
  · rw [hrun]
    dsimp only
    rcases hledger with hledger | hledger
    · rw [hledger]
      exact hs.settings _
    · have htaken := hs.taken hnone
      have hclosed := htaken.dropped (show _ = some s.nextPool from rfl)
      rw [hledger]
      exact ⟨hclosed.opened, by simpa [PoolLedger.closing, PoolLedger.opening, ledger, hnone] using
        hclosed.settled⟩
  · rw [hrun]
    dsimp only
    rw [hledger]
    exact (hs.taken hnone).settings _

end Adapter

/-! ### Calls one after another -/

/-- A session is told to connect or to disconnect. -/
inductive PoolCall where
  | connect (settings : ConnectionSettings)
  | disconnect

namespace PoolCall

/-- Does what a session is told. -/
def run {σ : Type} (a : Adapter σ) : PoolCall → Action σ Unit
  | .connect settings => a.connect settings
  | .disconnect => Session.disconnect

/-- The settings, if there are any, can be made into what a pool is opened with. -/
def IsAccepted (d : Dialect) : PoolCall → Prop
  | .connect settings => (poolArguments d settings).isOk = true
  | .disconnect => True

instance (d : Dialect) : (call : PoolCall) → Decidable (call.IsAccepted d)
  | .connect settings => inferInstanceAs (Decidable ((poolArguments d settings).isOk = true))
  | .disconnect => inferInstanceAs (Decidable True)

end PoolCall

namespace Adapter

open Session

variable {σ : Type} {a : Adapter σ}

/-- The session after calls, of which each is made whatever came of the one
before. -/
def afterCalls (a : Adapter σ) : List PoolCall → Session σ → Session σ
  | [], s => s
  | call :: calls, s => a.afterCalls calls ((call.run a).runIn s).2

/-- **The balance is kept by any calls.** -/
theorem balanced_afterCalls : ∀ {calls : List PoolCall} {s : Session σ},
    (∀ call ∈ calls, call.IsAccepted a.dialect) → s.ledger.Balanced →
      (a.afterCalls calls s).ledger.Balanced
  | [], _, _, hs => hs
  | call :: calls, s, h, hs => by
    have hcall : (((call.run a).runIn s).2).ledger.Balanced := by
      have haccepted := h call List.mem_cons_self
      cases call with
      | connect settings => exact balanced_connect haccepted hs
      | disconnect => exact balanced_disconnect hs
    rw [afterCalls]
    exact balanced_afterCalls (fun later hlater => h later (List.mem_cons_of_mem _ hlater)) hcall

/-- **After any calls the pools are in order.** As many were opened as were closed, and
one more if the session is connected; none was closed twice or without being opened,
and the one that is open was opened and not closed. To connect while connected changes
nothing. Else connecting succeeds, and the session is connected with the new settings;
or it fails with a connection error, and the session is not connected. To disconnect
never fails, and to do it again changes nothing. -/
theorem pools_balanced {calls : List PoolCall} (h : ∀ call ∈ calls, call.IsAccepted a.dialect)
    (b : σ) :
    let s := a.afterCalls calls { backend := b }
    (∃ connected, isConnected.runIn s = (.ok connected, s) ∧
      s.ledger.opened.length = s.ledger.closed.length + connected.toNat) ∧
    (s.ledger.closed.Nodup ∧ ∀ pool ∈ s.ledger.closed, pool ∈ s.ledger.opened) ∧
    (∀ pool, s.pool = some pool → pool ∈ s.ledger.opened ∧ pool ∉ s.ledger.closed) ∧
    (∀ settings, s.pool.isSome = true → (a.connect settings).runIn s = (.ok (), s)) ∧
    (∀ settings, (PoolCall.connect settings).IsAccepted a.dialect → s.pool = none →
      (∃ t, (a.connect settings).runIn s = (.ok (), t) ∧ t.pool = some s.nextPool ∧
        t.settings = some settings) ∨
      ∃ message t, (a.connect settings).runIn s = (.error (.api (.connection message [])), t) ∧
        t.pool = none) ∧
    ∃ t, disconnect.runIn s = (.ok (), t) ∧ t.pool = none ∧ disconnect.runIn t = (.ok (), t) := by
  intro s
  have hempty : ({ backend := b } : Session σ).ledger.Balanced := ⟨rfl, rfl⟩
  have hs : s.ledger.Balanced := balanced_afterCalls h hempty
  have hclosed : s.ledger.closed.Nodup := (List.nodup_append.mp hs.nodup).1
  refine ⟨⟨s.pool.isSome, rfl, hs.length⟩, ⟨hclosed, fun pool hpool => ?_⟩,
    fun pool hpool => hs.current_opened hpool, fun settings hsome => connect_of_some hsome settings,
    fun settings haccepted hnone => connect_of_accepted haccepted hnone, ?_⟩
  · exact hs.mem_opened (List.mem_append_left _ hpool)
  · obtain ⟨t, hrun, hnone⟩ := disconnect_runIn s
    exact ⟨t, hrun, hnone, disconnect_of_none hnone⟩

/-- A first pool that does not answer, a second one that does, a call that comes too
late, and two that close. -/
theorem pools_balanced_retried :
    let a : Adapter Script := ⟨.sqlServer, Script.driver, .ok false⟩
    let settings : ConnectionSettings := { database := "shop" }
    let calls : List PoolCall :=
      [.connect settings, .connect settings, .connect settings, .disconnect, .disconnect]
    let deaf : Script :=
      { rules := [{ piece := "SELECT 1", times := some 1, fault := some .wrongType }] }
    let s := a.afterCalls calls { backend := deaf }
    (∀ call ∈ calls, call.IsAccepted a.dialect) ∧ s.ledger.opened = [0, 1] ∧
      s.ledger.closed = [0, 1] ∧ s.ledger.closed.Nodup ∧
      ∃ connected, isConnected.runIn s = (.ok connected, s) ∧
        s.ledger.opened.length = s.ledger.closed.length + connected.toNat := by
  intro a settings calls deaf s
  have haccepted : ∀ call ∈ calls, call.IsAccepted a.dialect := by decide +kernel
  obtain ⟨hbalance, hclosed, -⟩ := pools_balanced haccepted deaf
  exact ⟨haccepted, by decide +kernel, by decide +kernel, hclosed.1, hbalance⟩

end Adapter
end TableGate

/-
# The change feed of PostgreSQL

PostgreSQL records the changes of a table as rows, and numbers them from one on.
Whatever the deliveries are, the feed of its adapter serves the log of these rows
(`Adapter.changeFeed_serves`): a fetch that succeeds gives the first of the
changes whose number is greater than the cursor's.

Of the server it is only taken for granted that it answers the statement as it
is written, and that the recorded changes are never altered
(`Adapter.Records`).

So a poller neither loses nor repeats a change, neither over any feed that serves
a log nor over this one, just as long as no poll moves the cursor in the middle of
another (`Poller.run_delivers_log`). A delivery that waits for the poller to stop
makes a run that is otherwise: the loop goes on beside the one that is started next
(`Poller.accepted_twice_after_absorbed_stop`).

Key definitions: `ChangeLog.recorded`, `Adapter.changeFeed`, `Adapter.Records`.
Key theorems: `ChangeEvent.position_of_ofRecorded`, `Adapter.changeFeed_serves`,
`Poller.run_delivers_log`.
-/
import Mathlib.Data.Int.Order.Basic
import TableGate.Backend.ChangeTracking
import TableGate.Proofs.Backend.Connection
import TableGate.Proofs.Feed.Overlap

namespace TableGate

/-! ### Models that are read -/

namespace Checked

variable {α β : Type}

theorem seq_fits {f : Checked (α → β)} {x : Checked α} {b : β} (h : f <*> x = .fits b) :
    ∃ g a, f = .fits g ∧ x = .fits a ∧ g a = b := by
  cases f with
  | misfits issues => cases x <;> cases h
  | fits g =>
    cases x with
    | misfits issues => cases h
    | fits a => exact ⟨g, a, rfl, rfl, Checked.fits.inj h⟩

end Checked

namespace ChangeEvent

variable {table schema : String} {row : Row} {e : ChangeEvent}

theorem position_of_read {es : Reader.Entries} {position : Value}
    (hposition : Value.lookup? es "position" = some position) (h : read es = .fits e) :
    e.position = position := by
  obtain ⟨f₆, v, hf₆, hv, he⟩ := Checked.seq_fits h
  obtain ⟨f₅, timestamp, hf₅, -, h₆⟩ := Checked.seq_fits hf₆
  obtain ⟨f₄, old, hf₄, -, h₅⟩ := Checked.seq_fits hf₅
  obtain ⟨f₃, new, hf₃, -, h₄⟩ := Checked.seq_fits hf₄
  obtain ⟨f₂, kind, hf₂, -, h₃⟩ := Checked.seq_fits hf₃
  obtain ⟨f₁, schema, hf₁, -, h₂⟩ := Checked.seq_fits hf₂
  obtain ⟨f₀, table, hf₀, -, h₁⟩ := Checked.seq_fits hf₁
  obtain rfl := Checked.fits.inj hf₀
  rw [Reader.defaulted, hposition] at hv
  rw [← he, ← h₆, ← h₅, ← h₄, ← h₃, ← h₂, ← h₁]
  exact (Checked.fits.inj hv).symm

/-- **The position of a recorded change is its number.** -/
theorem position_of_ofRecorded (h : ofRecorded table schema row = .ok e) :
    Value.lookup? row "id" = some e.position := by
  have hrest : ∀ kind : ChangeKind, (do
      let newRow ← Reply.document (Value.lookup row "new_data")
      let oldRow ← Reply.document (Value.lookup row "old_data")
      let position ← Catalog.cell row "id"
      (read [("table", .text table), ("schema", .text schema), ("operation", .text kind.text),
        ("new_row", newRow), ("old_row", oldRow), ("timestamp", Value.lookup row "changed_at"),
        ("position", position)]).toExcept) = .ok e →
      Value.lookup? row "id" = some e.position := by
    intro kind hkind
    obtain ⟨new, -, hkind⟩ := Results.bind_eq_ok_iff.mp hkind
    obtain ⟨old, -, hkind⟩ := Results.bind_eq_ok_iff.mp hkind
    obtain ⟨position, hcell, hread⟩ := Results.bind_eq_ok_iff.mp hkind
    have hlookup : Value.lookup? row "id" = some position := by
      rw [Catalog.cell] at hcell
      split at hcell
      · next v hv => rw [hv, Except.ok.inj hcell]
      · cases hcell
    rw [hlookup]
    rcases hchecked : read _ with e' | issues
    · rw [hchecked] at hread
      obtain rfl := Except.ok.inj hread
      exact congrArg some (position_of_read rfl hchecked).symm
    · rw [hchecked] at hread
      cases hread
  obtain ⟨operation, -, h⟩ := Results.bind_eq_ok_iff.mp h
  dsimp only at h
  split at h
  · split at h
    · exact hrest _ h
    · cases h
  · cases h

end ChangeEvent

/-! ### The log of recorded changes -/

/-- The number of a recorded change. -/
def recordedId (row : Row) : Int :=
  match Value.lookup? row "id" with
  | some (.int n) => n
  | _ => 0

/-- The number that a cursor stands for; without one it is zero. -/
def cursorId (cursor : Value) : Except Fault Int :=
  if cursor.isTruthy then cursor.toInt else .ok 0

/-- The change of a row. Of a row that cannot be read only the number is known. -/
def recordedChange (table schema : String) (row : Row) : ChangeEvent :=
  match ChangeEvent.ofRecorded table schema row with
  | .ok e => e
  | .error _ => { table, schema, kind := .insert, position := Value.lookup row "id" }

/-- The row has a number, and it is positive. -/
def IsNumbered (row : Row) : Prop := ∃ n, 0 < n ∧ Value.lookup? row "id" = some (.int n)

/-- The changes of the rows of a table, by their numbers. -/
def ChangeLog.recorded {σ : Type} (table schema : String) (rows : σ → List Row) :
    ChangeLog (Session σ) Int where
  entries s := (rows s.backend).map (recordedChange table schema)
  rank v := (cursorId v).toOption.getD 0

section Rows

variable {σ : Type} {table schema : String} {rows : σ → List Row} {row : Row}

theorem rank_position (hrow : IsNumbered row) :
    (ChangeLog.recorded table schema rows).rank (recordedChange table schema row).position =
      recordedId row := by
  obtain ⟨n, hn, hid⟩ := hrow
  have hposition : (recordedChange table schema row).position = .int n := by
    rw [recordedChange]
    split
    · next e he =>
      rw [ChangeEvent.position_of_ofRecorded he] at hid
      exact Option.some.inj hid
    · rw [Value.lookup, hid]
      rfl
  have hpositive : (n != 0) = true := by
    rw [bne_iff_ne]
    omega
  rw [hposition, recordedId, hid]
  simp [ChangeLog.recorded, cursorId, Value.isTruthy, Value.toInt, hpositive, Except.toOption]

theorem after_recorded (cursor : Value) {s : Session σ}
    (hrows : ∀ row ∈ rows s.backend, IsNumbered row) :
    (ChangeLog.recorded table schema rows).after cursor s =
      ((rows s.backend).filter fun row =>
        (cursorId cursor).toOption.getD 0 < recordedId row).map (recordedChange table schema) := by
  rw [ChangeLog.after, ChangeLog.recorded, List.filter_map]
  refine congrArg _ (List.filter_congr fun row hrow => ?_)
  have hrank : (ChangeLog.recorded table schema rows).rank
      (recordedChange table schema row).position = recordedId row := rank_position (hrows row hrow)
  exact congrArg (fun n => decide ((cursorId cursor).toOption.getD 0 < n)) hrank

theorem isOrdered_recorded {s : Session σ} (hrows : ∀ row ∈ rows s.backend, IsNumbered row)
    (hincreasing : (rows s.backend).Pairwise fun q r => recordedId q < recordedId r) :
    (ChangeLog.recorded table schema rows).IsOrdered s := by
  refine List.pairwise_map.mpr (hincreasing.imp_of_mem fun {q r} hq hr hlt => ?_)
  rw [rank_position (hrows q hq), rank_position (hrows r hr)]
  exact hlt

theorem map_of_mapM {found : List Row} {events : List ChangeEvent}
    (h : found.mapM (ChangeEvent.ofRecorded table schema) = .ok events) :
    found.map (recordedChange table schema) = events := by
  have hpairs := (Results.mapM_eq_ok_iff _ _ _).mp h
  clear h
  induction hpairs with
  | nil => rfl
  | cons hread _ ih => rw [List.map_cons, ih, recordedChange, hread]

end Rows

/-! ### The feed -/

namespace Adapter

variable {σ : Type} {a : Adapter σ} {table schema : String} {rows : σ → List Row}
  {deliver : ChangeEvent → Session σ → Delivery × Session σ}

/-- The feed of an adapter, with whatever is done with the changes. -/
def changeFeed (a : Adapter σ) (deliver : ChangeEvent → Session σ → Delivery × Session σ) :
    Feed (Session σ) where
  fetch table schema cursor s := (a.fetchChanges table schema cursor).runIn s
  deliver := deliver

/-- The statement that fetches recorded changes. -/
def recordedStatement (a : Adapter σ) (schema : String) : String :=
  Catalog.Postgres.recordedChanges.fill [("log_table", a.changeLog schema)]

/-- The server keeps `rows` as the recorded changes of a table, in the order of
their numbers. It only adds to them, and it answers the statement that fetches
them as that says. -/
structure Records (a : Adapter σ) (table schema : String) (rows : σ → List Row) : Prop where
  dialect : a.dialect = .postgres
  numbered : ∀ b, ∀ row ∈ rows b, IsNumbered row
  acquire_grows : ∀ b, rows b <+: rows (a.driver.acquire b).2
  prepare_grows : ∀ b, rows b <+: rows (a.driver.prepare (a.recordedStatement schema) b).2
  fetch_grows : ∀ bound b, rows b <+: rows (a.driver.fetch bound b).2
  /-- The name of the table is a text, and the number an integer of eight bytes. -/
  declared : ∀ {b prepared b'},
    a.driver.prepare (a.recordedStatement schema) b = (.ok prepared, b') →
      prepared.parameterTypes = [some "text", some "int8"]
  /-- The first hundred rows with greater numbers. -/
  answered : ∀ {b prepared b' n fetched b''},
    a.driver.prepare (a.recordedStatement schema) b = (.ok prepared, b') →
      a.driver.fetch [.text table, .int n] b' = (.ok fetched, b'') →
        fetched.rows = ((rows b').filter fun row => n < recordedId row).take 100

/-- Recorded changes are only added while changes are fetched. -/
theorem leads_fetchRecorded (h : a.Records table schema rows) (cursor : Value) :
    (a.fetchRecorded table schema cursor).Leads (Session.Extends rows) := by
  have hspans : ∀ (s : Session σ) spans, Session.Extends rows s { s with spans := spans } :=
    fun _ _ => List.prefix_refl _
  have hacquire : a.acquire.Leads (Session.Extends rows) := by
    intro s
    have hgrows := h.acquire_grows s.backend
    rw [acquire, Action.runIn_of]
    rcases hanswer : a.driver.acquire s.backend with ⟨r, b⟩
    rw [hanswer] at hgrows
    cases r <;> exact hgrows
  have hquery : ∀ params, (a.query (a.recordedStatement schema) params).Leads
      (Session.Extends rows) := by
    refine fun params => leads_withConnection hacquire (fun _ _ => List.prefix_refl _) fun c => ?_
    rw [runOn, h.dialect]
    exact leads_runPrepared hspans (fun s => h.prepare_grows s.backend)
      fun _ _ _ bound _ _ s => h.fetch_grows bound s.backend
  refine (Action.Leads.ofExcept _).bind fun after => ?_
  exact (hquery _).bind fun result => Action.Leads.ofExcept _

/-- **A fetch that succeeds gives the first of the changes after the cursor.** -/
theorem fetchRecorded_prefix (h : a.Records table schema rows) {cursor : Value}
    {s u : Session σ} {events : List ChangeEvent}
    (hfetch : (a.fetchRecorded table schema cursor).runIn s = (.ok events, u)) :
    events <+: (ChangeLog.recorded table schema rows).after cursor u := by
  obtain ⟨n, t, hcursor, hrest⟩ := Action.bind_ok hfetch
  obtain ⟨result, w, hquery, hread⟩ := Action.bind_ok hrest
  obtain ⟨hid, -⟩ := Action.ofExcept_ok hcursor
  obtain ⟨hevents, rfl⟩ := Action.ofExcept_ok hread
  obtain ⟨b₀, prepared, b, bound, fetched, hprepare, hbound, hanswer, hrows⟩ :=
    query_ok h.dialect hquery
  rw [h.declared hprepare] at hbound
  obtain rfl : [Value.text table, Value.int n] = bound := Except.ok.inj hbound
  have hgrows : rows b <+: rows u.backend := by
    have hstep := h.fetch_grows [.text table, .int n] b
    rwa [hanswer] at hstep
  have hn : (cursorId cursor).toOption.getD 0 = n := by
    rw [show cursorId cursor = .ok n from hid]
    rfl
  rw [hrows, h.answered hprepare hanswer] at hevents
  rw [after_recorded cursor (h.numbered u.backend), hn, ← map_of_mapM hevents]
  exact ((List.take_prefix _ _).trans (hgrows.filter _)).map _

theorem fetchChanges_eq (h : a.dialect = .postgres) (table schema : String) (cursor : Value) :
    a.fetchChanges table schema cursor = a.fetchRecorded table schema cursor := by
  unfold fetchChanges
  rw [h]

/-- **The feed serves the log of recorded changes.** -/
theorem changeFeed_serves (h : a.Records table schema rows)
    (hdeliver : ∀ e s, rows s.backend <+: rows (deliver e s).2.backend) :
    (a.changeFeed deliver).Serves table schema (ChangeLog.recorded table schema rows) where
  fetched := by
    intro cursor s events u hfetch
    refine fetchRecorded_prefix (s := s) h ?_
    rw [← fetchChanges_eq h.dialect]
    exact hfetch
  fetch_grows cursor s := by
    have hgrows := leads_fetchRecorded h cursor s
    rw [← fetchChanges_eq h.dialect] at hgrows
    exact List.IsPrefix.map _ hgrows
  deliver_grows e s := (hdeliver e s).map _

end Adapter

/-- **When a poller loses no change and repeats none.** This holds over every feed
that serves a log, and over the recorded changes of PostgreSQL: of every run,
whatever failed in it and however often the poller was stopped and started, the
accepted changes are a first part of the log after the first cursor just if no poll
moved the cursor in the middle of another. -/
theorem Poller.run_delivers_log (p : Poller) (hidle : p.IsIdle) :
    (∀ {τ ι : Type} [LinearOrder ι] (feed : Feed τ) (log : ChangeLog τ ι) (t : τ)
      (moves : List (Move τ)), feed.Serves p.table p.schema log →
      (∀ m ∈ moves, m.Grows log) → log.IsOrdered (run feed moves (p, t)).2 →
      Delivers feed log p t moves) ∧
    ∀ {σ : Type} (a : Adapter σ) (rows : σ → List Row)
      (deliver : ChangeEvent → Session σ → Delivery × Session σ) (s : Session σ)
      (moves : List (Move (Session σ))),
      let log := ChangeLog.recorded p.table p.schema rows
      let last := (run (a.changeFeed deliver) moves (p, s)).2
      a.Records p.table p.schema rows →
      (∀ e s, rows s.backend <+: rows (deliver e s).2.backend) → (∀ m ∈ moves, m.Grows log) →
      ((rows last.backend).Pairwise fun q r => recordedId q < recordedId r) →
      Delivers (a.changeFeed deliver) log p s moves := by
  refine ⟨fun feed log t moves hserves hmoves hordered =>
    run_delivers hserves hidle hmoves hordered, ?_⟩
  intro σ a rows deliver s moves log last hrecords hdeliver hmoves hincreasing
  exact run_delivers (Adapter.changeFeed_serves hrecords hdeliver) hidle hmoves
    (isOrdered_recorded (hrecords.numbered last.backend) hincreasing)

/-! ### A server that keeps changes in memory -/

/-- The changes that a server keeps, numbered from one on, and how often one was
tried to be delivered. -/
structure ChangeKeeper where
  changes : List ChangeKind := []
  tries : Nat := 0

namespace ChangeKeeper

/-- The rows of the recorded changes. -/
def rows (b : ChangeKeeper) : List Row :=
  b.changes.zipIdx.map fun (kind, n) =>
    [("id", .int (n + 1)), ("operation", .text kind.text)]

theorem rows_numbered (b : ChangeKeeper) : ∀ row ∈ b.rows, IsNumbered row := by
  intro row hrow
  obtain ⟨⟨kind, n⟩, -, rfl⟩ := List.mem_map.mp hrow
  exact ⟨n + 1, by omega, rfl⟩

/-- Records another change. -/
def add (kind : ChangeKind) (s : Session ChangeKeeper) : Session ChangeKeeper :=
  { s with backend := { s.backend with changes := s.backend.changes ++ [kind] } }

theorem rows_add (kind : ChangeKind) (s : Session ChangeKeeper) :
    rows s.backend <+: rows (add kind s).backend := by
  refine List.IsPrefix.map _ ?_
  rw [add, List.zipIdx_append]
  exact List.prefix_append _ _

/-- Answers the statement that fetches changes. -/
def adapter : Adapter ChangeKeeper where
  dialect := .postgres
  tracing := .ok false
  driver :=
    { openPool := fun _ b => (.ok (), b)
      acquire := fun b => (.ok (), b)
      ping := fun _ b => (.ok (), b)
      prepare := fun _ b => (.ok { parameterTypes := [some "text", some "int8"] }, b)
      fetch := fun bound b =>
        match bound with
        | [_, .int n] => (.ok { rows := (b.rows.filter fun row => n < recordedId row).take 100 }, b)
        | _ => (.error .wrongType, b)
      control := fun _ b => (.ok (), b)
      execute := fun _ _ b => (.ok {}, b) }

/-- The second delivery fails, all others are accepted. -/
def deliver (_ : ChangeEvent) (s : Session ChangeKeeper) : Delivery × Session ChangeKeeper :=
  (if s.backend.tries = 1 then .failed .wrongType else .accepted,
    { s with backend := { s.backend with tries := s.backend.tries + 1 } })

theorem adapter_records (table schema : String) : adapter.Records table schema rows where
  dialect := rfl
  numbered := rows_numbered
  acquire_grows _ := List.prefix_refl _
  prepare_grows _ := List.prefix_refl _
  fetch_grows bound b := by
    have hkept : (adapter.driver.fetch bound b).2 = b := by
      rw [adapter]
      dsimp only
      split <;> rfl
    rw [hkept]
  declared h := by cases h; rfl
  answered h := by
    cases h
    intro hfetch
    cases hfetch
    rfl

end ChangeKeeper

open ChangeKeeper in
/-- A delivery fails, another change comes, the poller is stopped in the middle of a
delivery and started again: in the end it has delivered three changes and stands at
the third. -/
theorem Poller.run_delivers_log_restarted :
    let feed := adapter.changeFeed deliver
    let p : Poller := { table := "users", schema := "public" }
    let s : Session ChangeKeeper := { backend := { changes := [.insert, .update] }, pool := some 0 }
    let moves : List (Move (Session ChangeKeeper)) :=
      [.start, .resume 0, .resume 0, .resume 0, .resume 0, .elsewhere (add .delete),
        .resume 0, .resume 0, .stop false, .start, .resume 1, .resume 1, .resume 1, .resume 1]
    let log := ChangeLog.recorded "users" "public" rows
    Delivers feed log p s moves ∧ (run feed moves (p, s)).1.cursor = .int 3 ∧
      (accepted feed moves (p, s)).map ChangeEvent.position = [.int 1, .int 2, .int 3] := by
  intro feed p s moves log
  have hmoves : ∀ m ∈ moves, m.Grows log := by
    intro m hm
    cases m with
    | elsewhere change =>
      have hchange : change = add .delete := by simpa [moves] using hm
      rw [hchange]
      exact fun t => (rows_add .delete t).map _
    | _ => trivial
  have hidle : p.IsIdle := fun k hk => absurd hk List.not_mem_nil
  have hincreasing : (rows (run feed moves (p, s)).2.backend).Pairwise
      fun q r => recordedId q < recordedId r := by
    decide
  have hdelivers := (run_delivers_log p hidle).2 adapter rows deliver s moves
    (adapter_records _ _) (fun _ _ => List.prefix_refl _) hmoves hincreasing
  have hordered : log.IsOrdered (run feed moves (p, s)).2 :=
    isOrdered_recorded (rows_numbered _) hincreasing
  have hgeneral := (run_delivers_log p hidle).1 feed log s moves
    (Adapter.changeFeed_serves (adapter_records _ _) fun _ _ => List.prefix_refl _) hmoves hordered
  refine ⟨hdelivers, hgeneral.cursor.trans ?_, ?_⟩
  · rfl
  · rfl

open ChangeKeeper in
/-- A delivery waits for a stop of its own poller, and polling is started again before
the delivery ends. Then two loops fetch the second change, and both deliver it. -/
theorem Poller.accepted_twice_after_absorbed_stop :
    let feed := adapter.changeFeed fun _ s => (.accepted, s)
    let p : Poller := { table := "users", schema := "public" }
    let s : Session ChangeKeeper := { backend := { changes := [.insert, .update] }, pool := some 0 }
    let moves : List (Move (Session ChangeKeeper)) :=
      [.start, .resume 0, .resume 0, .stop true, .start, .resume 0, .resume 1, .resume 1,
        .resume 0, .resume 1]
    let log := ChangeLog.recorded "users" "public" rows
    adapter.Records "users" "public" rows ∧
      ((rows (run feed moves (p, s)).2.backend).Pairwise fun q r => recordedId q < recordedId r) ∧
      (accepted feed moves (p, s)).map ChangeEvent.position = [.int 1, .int 2, .int 2] ∧
      ¬ accepted feed moves (p, s) <+: log.after p.cursor (run feed moves (p, s)).2 := by
  intro feed p s moves log
  have hlength : ¬ (accepted feed moves (p, s)).length ≤
      (log.after p.cursor (run feed moves (p, s)).2).length := by
    decide
  exact ⟨adapter_records _ _, by decide, rfl, fun h => hlength h.length_le⟩

end TableGate

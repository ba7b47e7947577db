/-
# Runs of a poller

A run is any sequence of moves (`Poller.Move`): polling is started and stopped,
somebody asks for a poll, a task goes on up to where it waits again, a task is
cancelled, the world changes. So tasks may follow one another or interleave, at
the places where they wait. The changes that a run accepts are those whose
delivery ended well, in that order (`Poller.accepted`).

Of what a resumption can do there is one list (`Poller.Resumes`); everything that
is proved of runs is proved along it.

Key definitions: `Poller.Move`, `Poller.run`, `Poller.accepted`,
`Poller.Throughout`, `Poller.Resumes`.
Key theorems: `Poller.resumes`, `Poller.apply_cases`, `Poller.cursor_run`,
`Poller.pollThrough_eq_run`.
-/
import TableGate.Feed
import TableGate.Proofs.Feed.ChangeLog

namespace TableGate

variable {τ ι : Type}

/-- The feed serves a log: a fetch gives, if anything, a first part of what the log
holds after the cursor. The log may grow while changes are fetched or delivered,
and only grows. -/
structure Feed.Serves [LinearOrder ι] (feed : Feed τ) (table schema : String)
    (log : ChangeLog τ ι) : Prop where
  fetched : ∀ {cursor t events u}, feed.fetch table schema cursor t = (.ok events, u) →
    events <+: log.after cursor u
  fetch_grows : ∀ cursor t, log.entries t <+: log.entries (feed.fetch table schema cursor t).2
  deliver_grows : ∀ e t, log.entries t <+: log.entries (feed.deliver e t).2

namespace Feed.Serves

variable [LinearOrder ι] {feed : Feed τ} {table schema : String} {log : ChangeLog τ ι} {t u : τ}

theorem grows_of_fetch (h : feed.Serves table schema log) {cursor : Value}
    {r : Except Fault (List ChangeEvent)} (hfetch : feed.fetch table schema cursor t = (r, u)) :
    log.entries t <+: log.entries u := by
  have hgrows := h.fetch_grows cursor t
  rwa [hfetch] at hgrows

theorem grows_of_deliver (h : feed.Serves table schema log) {e : ChangeEvent} {d : Delivery}
    (hdeliver : feed.deliver e t = (d, u)) : log.entries t <+: log.entries u := by
  have hgrows := h.deliver_grows e t
  rwa [hdeliver] at hgrows

end Feed.Serves

namespace Poller

variable {feed : Feed τ} {p q : Poller} {t u : τ} {i j : Nat} {stage : Stage}

/-! ### Tasks -/

theorem stage?_eq_some_iff :
    p.stage? i = some stage ↔ ∃ k, p.tasks[i]? = some k ∧ k.stage = stage := by
  simp [stage?]

@[simp] theorem stage?_put_self : (p.put i stage).stage? i = (p.stage? i).map fun _ => stage := by
  simp only [stage?, put, List.getElem?_modify_eq]
  cases p.tasks[i]? <;> rfl

theorem eq_of_stage?_put {next : Stage} (h : (p.put i stage).stage? i = some next) :
    next = stage := by
  rw [stage?_put_self] at h
  obtain ⟨-, -, rfl⟩ := Option.map_eq_some_iff.mp h
  rfl

theorem stage?_put_of_ne (h : i ≠ j) : (p.put i stage).stage? j = p.stage? j := by
  simp only [stage?, put, List.getElem?_modify_ne _ _ h]

theorem Task.isDone_of_isPolling {k : Task} (h : k.stage.isPolling = true) : k.isDone = false := by
  rcases k with ⟨loops, stage⟩
  cases stage <;> first | rfl | cases h

/-- The place has a task that is about to ask for changes. -/
def IsBetween (p : Poller) (i : Nat) : Prop :=
  ∃ k, p.tasks[i]? = some k ∧ k.stage.isPolling = false ∧ k.isDone = false

/-! ### Moves -/

/-- What can happen to a poller, and beside it. -/
inductive Move (τ : Type) where
  | start
  /-- Somebody asks for one poll. -/
  | pollOnce
  /-- The task at the place goes on up to where it waits again. -/
  | resume (i : Nat)
  /-- The task at the place is cancelled, or ended by what nothing catches. -/
  | cancel (i : Nat)
  | stop (absorbed : Bool)
  /-- The world changes while all tasks wait. -/
  | elsewhere (change : τ → τ)

/-- What a move makes of a poller and the world. -/
def Move.apply (feed : Feed τ) : Move τ → Poller × τ → Poller × τ
  | .start, (p, t) => (p.start.toOption.getD p, t)
  | .pollOnce, (p, t) => (p.pollOnce, t)
  | .resume i, (p, t) => p.resume feed i t
  | .cancel i, (p, t) => (p.cancel i, t)
  | .stop absorbed, (p, t) => (p.stop absorbed, t)
  | .elsewhere change, (p, t) => (p, change t)

/-- What moves make of a poller and the world, one after another. -/
def run (feed : Feed τ) (moves : List (Move τ)) (s : Poller × τ) : Poller × τ :=
  moves.foldl (fun s m => m.apply feed s) s

/-- The change whose delivery a move ends well, if there is one. -/
def Move.accepted (feed : Feed τ) : Move τ → Poller × τ → List ChangeEvent
  | .resume i, (p, t) =>
    match p.stage? i with
    | some (.delivering poll) =>
      match (feed.deliver poll.current t).1 with
      | .accepted => [poll.current]
      | .failed _ => []
    | _ => []
  | _, _ => []

/-- The changes that are accepted along moves. -/
def accepted (feed : Feed τ) : List (Move τ) → Poller × τ → List ChangeEvent
  | [], _ => []
  | m :: moves, s => m.accepted feed s ++ accepted feed moves (m.apply feed s)

/-- Each of the moves is made where `P` holds of it. -/
def Throughout (feed : Feed τ) (P : Move τ → Poller × τ → Prop) :
    List (Move τ) → Poller × τ → Prop
  | [], _ => True
  | m :: moves, s => P m s ∧ Throughout feed P moves (m.apply feed s)

/-- The log grows, if anything, by what happens beside the poller. -/
def Move.Grows (log : ChangeLog τ ι) : Move τ → Prop
  | .elsewhere change => ∀ t, log.entries t <+: log.entries (change t)
  | _ => True

section Runs

variable (feed : Feed τ) (m : Move τ) (moves more : List (Move τ)) (s : Poller × τ)

theorem run_cons : run feed (m :: moves) s = run feed moves (m.apply feed s) := rfl

theorem run_append : run feed (moves ++ more) s = run feed more (run feed moves s) :=
  List.foldl_append

theorem accepted_append :
    accepted feed (moves ++ more) s = accepted feed moves s ++ accepted feed more (run feed moves s) := by
  induction moves generalizing s with
  | nil => rfl
  | cons m moves ih => rw [List.cons_append, accepted, accepted, ih, List.append_assoc, run_cons]

end Runs

/-! ### What a resumption does -/

/-- What a task can do when it goes on: the changes that are accepted, and what it
makes of the poller and the world. -/
inductive Resumes (feed : Feed τ) (i : Nat) (p : Poller) (t : τ) :
    List ChangeEvent → Poller × τ → Prop
  | idle : Resumes feed i p t [] (p, t)
  | asks : p.IsBetween i → Resumes feed i p t [] (p.put i (.asked p.cursor), t)
  | fetches {cursor : Value} {events : List ChangeEvent} {u : τ} :
    p.stage? i = some (.asked cursor) → feed.fetch p.table p.schema cursor t = (.ok events, u) →
      Resumes feed i p t [] (p.put i (.onward cursor [] events), u)
  | fetchFails {cursor : Value} {e : Fault} {u : τ} :
    p.stage? i = some (.asked cursor) → feed.fetch p.table p.schema cursor t = (.error e, u) →
      Resumes feed i p t [] (p.put i (.ended (.failed e)), u)
  | accepts {poll : Poll} {u : τ} :
    p.stage? i = some (.delivering poll) → feed.deliver poll.current t = (.accepted, u) →
      Resumes feed i p t [poll.current] ({ p with cursor := poll.current.position }.put i
        (.onward poll.cursor (poll.delivered ++ [poll.current]) poll.rest), u)
  | deliveryFails {poll : Poll} {e : Fault} {u : τ} :
    p.stage? i = some (.delivering poll) → feed.deliver poll.current t = (.failed e, u) →
      Resumes feed i p t [] (p.put i (.ended (.failed e)), u)

/-- **A resumption does one of these things.** -/
theorem resumes (feed : Feed τ) (i : Nat) (p : Poller) (t : τ) :
    Resumes feed i p t ((Move.resume i).accepted feed (p, t)) (p.resume feed i t) := by
  rcases htask : p.tasks[i]? with _ | ⟨loops, stage⟩
  · have hstage : p.stage? i = none := by rw [stage?, htask]; rfl
    simp only [Move.accepted, resume, htask, hstage]
    exact .idle
  · have hstage : p.stage? i = some stage := by rw [stage?, htask]; rfl
    simp only [Move.accepted, resume, htask, hstage]
    cases stage with
    | ready => exact .asks ⟨_, htask, rfl, rfl⟩
    | ended outcome =>
      dsimp only
      split
      · exact .idle
      · next hdone => exact .asks ⟨_, htask, rfl, Bool.not_eq_true _ ▸ hdone⟩
    | asked cursor =>
      dsimp only
      rcases hfetch : feed.fetch p.table p.schema cursor t with ⟨r, u⟩
      cases r with
      | ok events => exact .fetches hstage hfetch
      | error e => exact .fetchFails hstage hfetch
    | delivering poll =>
      dsimp only
      rcases hdeliver : feed.deliver poll.current t with ⟨d, u⟩
      cases d with
      | accepted => exact .accepts hstage hdeliver
      | failed e => exact .deliveryFails hstage hdeliver

theorem Resumes.stage?_of_ne {es : List ChangeEvent} {s : Poller × τ}
    (h : Resumes feed i p t es s) (hij : i ≠ j) : s.1.stage? j = p.stage? j := by
  cases h with
  | idle => rfl
  | _ => exact stage?_put_of_ne hij

theorem accepted_of_delivered {poll : Poll} (hstage : p.stage? i = some (.delivering poll))
    (hdeliver : feed.deliver poll.current t = (.accepted, u)) :
    (Move.resume i).accepted feed (p, t) = [poll.current] := by
  simp only [Move.accepted, hstage, hdeliver]

/-! ### What the other moves do -/

/-- `q` is `p` without some of its polls: what is under way in `q` was so in `p`. -/
structure NoNewPoll (p q : Poller) : Prop where
  table : q.table = p.table
  schema : q.schema = p.schema
  cursor : q.cursor = p.cursor
  polls : ∀ {j stage}, q.stage? j = some stage → stage.isPolling = true → p.stage? j = some stage

namespace NoNewPoll

theorem refl (p : Poller) : NoNewPoll p p := ⟨rfl, rfl, rfl, fun h _ => h⟩

theorem put (p : Poller) (i : Nat) (h : stage.isPolling = false) : NoNewPoll p (p.put i stage) := by
  refine ⟨rfl, rfl, rfl, fun {j next} hnext hpolling => ?_⟩
  by_cases hij : i = j
  · subst hij
    rw [eq_of_stage?_put hnext, h] at hpolling
    cases hpolling
  · rwa [stage?_put_of_ne hij] at hnext

theorem cancel (p : Poller) (i : Nat) : NoNewPoll p (p.cancel i) := by
  rw [Poller.cancel]
  split
  · exact put p i rfl
  · exact refl p

theorem add (p : Poller) (loops : Bool) (held : Option Nat) :
    NoNewPoll p { p with tasks := p.tasks ++ [{ loops }], held := held } := by
  refine ⟨rfl, rfl, rfl, fun {j stage} hstage hpolling => ?_⟩
  obtain ⟨k, hk, rfl⟩ := stage?_eq_some_iff.mp hstage
  simp only [List.getElem?_append] at hk
  split at hk
  · exact stage?_eq_some_iff.mpr ⟨k, hk, rfl⟩
  · obtain rfl := List.mem_singleton.mp (List.mem_of_getElem? hk)
    cases hpolling

theorem stop (p : Poller) (absorbed : Bool) : NoNewPoll p (p.stop absorbed) := by
  rw [Poller.stop]
  split
  · exact refl p
  · split
    · exact ⟨rfl, rfl, rfl, fun h _ => h⟩
    · next i _ _ =>
      have h := cancel p i
      exact ⟨h.table, h.schema, h.cursor, h.polls⟩

end NoNewPoll

theorem cancel_eq (p : Poller) (i : Nat) : p.cancel i = p ∨
    (∃ k, p.tasks[i]? = some k ∧ k.isDone = false) ∧ p.cancel i = p.put i (.ended .cancelled) := by
  rw [cancel]
  split
  · next h =>
    obtain ⟨k, hk, hdone⟩ := (Option.any_eq_true _ _).mp h
    exact .inr ⟨⟨k, hk, by simpa using hdone⟩, rfl⟩
  · exact .inl rfl

theorem start_eq (p : Poller) : p.start.toOption.getD p = p ∨ p.running = false ∧
    p.start.toOption.getD p =
      { p with tasks := p.tasks ++ [{ loops := true }], held := some p.tasks.length } := by
  rw [start]
  cases p.running with
  | true => exact .inl rfl
  | false => exact .inr ⟨rfl, rfl⟩

/-- **Only a resumption lets a poll begin or go on.** -/
theorem apply_cases (feed : Feed τ) (m : Move τ) (s : Poller × τ) :
    (∃ i, m = .resume i ∧ Resumes feed i s.1 s.2 (m.accepted feed s) (m.apply feed s)) ∨
      m.accepted feed s = [] ∧ NoNewPoll s.1 (m.apply feed s).1 := by
  obtain ⟨p, t⟩ := s
  cases m with
  | start =>
    refine .inr ⟨rfl, ?_⟩
    rcases start_eq p with heq | ⟨-, heq⟩
    · rw [Move.apply, heq]
      exact .refl p
    · rw [Move.apply, heq]
      exact .add p true _
  | pollOnce => exact .inr ⟨rfl, .add p false p.held⟩
  | resume i => exact .inl ⟨i, rfl, resumes feed i p t⟩
  | cancel i => exact .inr ⟨rfl, .cancel p i⟩
  | stop absorbed => exact .inr ⟨rfl, .stop p absorbed⟩
  | elsewhere change => exact .inr ⟨rfl, .refl p⟩

/-! ### What is true of every run -/

section Every

variable {es : List ChangeEvent} {s : Poller × τ}

theorem Resumes.place (h : Resumes feed i p t es s) :
    s.1.table = p.table ∧ s.1.schema = p.schema := by
  cases h <;> exact ⟨rfl, rfl⟩

theorem Resumes.cursor (h : Resumes feed i p t es s) :
    s.1.cursor = lastPosition p.cursor es := by
  cases h <;> rfl

theorem apply_place (feed : Feed τ) (m : Move τ) (s : Poller × τ) :
    (m.apply feed s).1.table = s.1.table ∧ (m.apply feed s).1.schema = s.1.schema := by
  rcases apply_cases feed m s with ⟨i, -, h⟩ | ⟨-, h⟩
  · exact h.place
  · exact ⟨h.table, h.schema⟩

/-- A move leaves the cursor on the change that it accepts, or where it was. -/
theorem cursor_apply (feed : Feed τ) (m : Move τ) (s : Poller × τ) :
    (m.apply feed s).1.cursor = lastPosition s.1.cursor (m.accepted feed s) := by
  rcases apply_cases feed m s with ⟨i, -, h⟩ | ⟨hnone, h⟩
  · exact h.cursor
  · rw [hnone]
    exact h.cursor

/-- **The cursor is the position of the change accepted last**, along every run. -/
theorem cursor_run (feed : Feed τ) (moves : List (Move τ)) (s : Poller × τ) :
    (run feed moves s).1.cursor = lastPosition s.1.cursor (accepted feed moves s) := by
  induction moves generalizing s with
  | nil => rfl
  | cons m moves ih => rw [run_cons, ih, accepted, lastPosition_append, cursor_apply]

variable [LinearOrder ι] {log : ChangeLog τ ι}

theorem Resumes.grows (hserves : feed.Serves p.table p.schema log)
    (h : Resumes feed i p t es s) : log.entries t <+: log.entries s.2 := by
  cases h with
  | idle => exact List.prefix_refl _
  | asks => exact List.prefix_refl _
  | fetches _ hfetch => exact hserves.grows_of_fetch hfetch
  | fetchFails _ hfetch => exact hserves.grows_of_fetch hfetch
  | accepts _ hdeliver => exact hserves.grows_of_deliver hdeliver
  | deliveryFails _ hdeliver => exact hserves.grows_of_deliver hdeliver

theorem serves_apply (hserves : feed.Serves s.1.table s.1.schema log) (m : Move τ) :
    feed.Serves (m.apply feed s).1.table (m.apply feed s).1.schema log := by
  rwa [(apply_place feed m s).1, (apply_place feed m s).2]

theorem apply_grows (hserves : feed.Serves s.1.table s.1.schema log) {m : Move τ}
    (hm : m.Grows log) : log.entries s.2 <+: log.entries (m.apply feed s).2 := by
  cases m with
  | resume i => exact (resumes feed i s.1 s.2).grows hserves
  | elsewhere change => exact hm s.2
  | _ => exact List.prefix_refl _

theorem run_grows (hserves : feed.Serves s.1.table s.1.schema log) {moves : List (Move τ)}
    (hmoves : ∀ m ∈ moves, m.Grows log) : log.entries s.2 <+: log.entries (run feed moves s).2 := by
  induction moves generalizing s with
  | nil => exact List.prefix_refl _
  | cons m moves ih =>
    obtain ⟨hm, hmoves⟩ := List.forall_mem_cons.mp hmoves
    exact (apply_grows hserves hm).trans (ih (serves_apply hserves m) hmoves)

end Every

/-! ### A poll with nothing beside it -/

theorem deliverAll_eq_run (feed : Feed τ) (i : Nat) (events : List ChangeEvent)
    (s : Poller × τ) :
    ∃ n, deliverAll feed i events s = run feed (List.replicate n (.resume i)) s := by
  induction events generalizing s with
  | nil => exact ⟨0, rfl⟩
  | cons e events ih =>
    rw [deliverAll]
    split
    · obtain ⟨n, hn⟩ := ih (s.1.resume feed i s.2)
      exact ⟨n + 1, hn⟩
    · exact ⟨0, rfl⟩

/-- A poll from beginning to end is a run that resumes its task again and again. -/
theorem pollThrough_eq_run (feed : Feed τ) (i : Nat) (s : Poller × τ) :
    ∃ n, pollThrough feed i s = run feed (List.replicate n (.resume i)) s := by
  dsimp only [pollThrough]
  split
  · obtain ⟨n, hn⟩ := deliverAll_eq_run feed i _ (run feed [.resume i, .resume i] s)
    refine ⟨n + 2, hn.trans ?_⟩
    rw [← run_append]
    rfl
  · exact ⟨2, rfl⟩

end Poller
end TableGate

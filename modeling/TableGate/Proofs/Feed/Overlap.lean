/-
# Polls that do not overlap

Where no poll begins while another is under way, nothing disturbs a delivery
(`Poller.Single.undisturbed_of_alone`), so no change is lost or repeated. The loop
of a poller has the polling for itself as long as every stop ends the loop that the
poller holds (`Poller.Held.alone`): two polls then overlap only if one of them was
asked for by somebody else.

After a stop that was absorbed the loop goes on, and the poller, which does not hold
it any more, starts another beside it. Then a change is delivered twice
(`Poller.accepted_stop_absorbed`).

What is true of all runs together is `Poller.run_delivers`.

Key definitions: `Poller.Move.Alone`, `Poller.Move.AloneUnlessLoop`,
`Poller.Single`, `Poller.Held`, `Poller.Delivers`.
Key theorems: `Poller.Single.undisturbed_of_alone`, `Poller.Held.alone`,
`Poller.accepted_stop_absorbed`, `Poller.run_delivers`.
-/
import TableGate.Proofs.Feed.Delivery

namespace TableGate

variable {τ ι : Type}

namespace Poller

/-- A poll that the move begins is the only one that is under way. -/
def Move.Alone : Move τ → Poller × τ → Prop
  | .resume i, (p, _) => p.IsBetween i →
      ∀ j stage, p.stage? j = some stage → stage.isPolling = false
  | _, _ => True

/-- Two tasks are loops. -/
def AreLoops (p : Poller) (i j : Nat) : Prop :=
  (∃ k, p.tasks[i]? = some k ∧ k.loops = true) ∧ ∃ k, p.tasks[j]? = some k ∧ k.loops = true

/-- A poll that the move begins is the only one that is under way, or loops make
both. -/
def Move.AloneUnlessLoop : Move τ → Poller × τ → Prop
  | .resume i, (p, _) => p.IsBetween i →
      ∀ j stage, p.stage? j = some stage → stage.isPolling = true → p.AreLoops i j
  | _, _ => True

variable {feed : Feed τ} {p q : Poller} {t : τ} {i j : Nat} {stage : Stage} {m : Move τ}
  {moves : List (Move τ)} {es : List ChangeEvent} {s : Poller × τ}

/-! ### One poll at a time -/

/-- At most one poll is under way, and the cursor is where it left it. -/
structure Single (p : Poller) : Prop where
  due : ∀ {i stage d}, p.stage? i = some stage → stage.due? = some d → d = p.cursor
  one : ∀ {i j stage next}, p.stage? i = some stage → p.stage? j = some next →
    stage.isPolling = true → next.isPolling = true → i = j

theorem Stage.isPolling_of_due {d : Value} (h : stage.due? = some d) : stage.isPolling = true := by
  cases stage <;> first | rfl | cases h

theorem Single.of_noNewPoll (h : Single p) (hpolls : NoNewPoll p q) : Single q where
  due hstage hdue := by
    rw [hpolls.cursor]
    exact h.due (hpolls.polls hstage (Stage.isPolling_of_due hdue)) hdue
  one hstage hnext hpolling hpolling' :=
    h.one (hpolls.polls hstage hpolling) (hpolls.polls hnext hpolling') hpolling hpolling'

/-- The only task whose poll is under way is put into a stage. -/
theorem Single.put (htasks : q.tasks = p.tasks)
    (hothers : ∀ j next, p.stage? j = some next → next.isPolling = true → j = i)
    (hdue : ∀ d, stage.due? = some d → d = q.cursor) : Single (q.put i stage) := by
  have hput : ∀ j next, (q.put i stage).stage? j = some next → next.isPolling = true →
      j = i ∧ next = stage := by
    intro j next hnext hpolling
    by_cases hij : i = j
    · subst hij
      exact ⟨rfl, eq_of_stage?_put hnext⟩
    · have hsame : q.stage? j = p.stage? j := by rw [stage?, stage?, htasks]
      rw [stage?_put_of_ne hij, hsame] at hnext
      exact absurd (hothers j next hnext hpolling).symm hij
  constructor
  · intro j next d hnext hd
    obtain ⟨-, rfl⟩ := hput j next hnext (Stage.isPolling_of_due hd)
    exact hdue d hd
  · intro j j' next next' hnext hnext' hpolling hpolling'
    rw [(hput j next hnext hpolling).1, (hput j' next' hnext' hpolling').1]

theorem Stage.due_onward {cursor d : Value} {delivered pending : List ChangeEvent}
    (h : (Stage.onward cursor delivered pending).due? = some d) :
    d = lastPosition cursor delivered := by
  cases pending with
  | nil => cases h
  | cons e rest => exact (Option.some.inj h).symm

theorem Single.resumes (h : Single p) (hresumes : Resumes feed i p t es s)
    (halone : (Move.resume i).Alone (p, t)) : Single s.1 := by
  have hothers : ∀ {stage}, p.stage? i = some stage → stage.isPolling = true →
      ∀ j next, p.stage? j = some next → next.isPolling = true → j = i :=
    fun hstage hpolling _ _ hnext hpolling' => h.one hnext hstage hpolling' hpolling
  cases hresumes with
  | idle => exact h
  | asks hbetween =>
    refine .put rfl (fun j next hnext hpolling => ?_) fun d hd => (Option.some.inj hd).symm
    rw [halone hbetween j next hnext] at hpolling
    cases hpolling
  | fetches hstage =>
    refine .put rfl (hothers hstage rfl) fun d hd => ?_
    rw [Stage.due_onward hd]
    exact h.due hstage rfl
  | fetchFails => exact h.of_noNewPoll (.put p i rfl)
  | accepts hstage =>
    refine .put rfl (hothers hstage rfl) fun d hd => ?_
    rw [Stage.due_onward hd, lastPosition_concat]
  | deliveryFails => exact h.of_noNewPoll (.put p i rfl)

theorem Single.apply (feed : Feed τ) (h : Single s.1) (halone : m.Alone s) :
    Single (m.apply feed s).1 := by
  rcases apply_cases feed m s with ⟨i, rfl, hresumes⟩ | ⟨-, hpolls⟩
  · exact h.resumes hresumes halone
  · exact h.of_noNewPoll hpolls

theorem Single.undisturbed (feed : Feed τ) (h : Single s.1) (m : Move τ) :
    m.Undisturbed feed s := by
  cases m with
  | resume i => exact fun poll u hstage _ => h.due hstage rfl
  | _ => trivial

/-- **Polls that do not overlap are undisturbed.** -/
theorem Single.undisturbed_of_alone (h : Single s.1) (halone : Throughout feed Move.Alone moves s) :
    Throughout feed (Move.Undisturbed feed) moves s := by
  induction moves generalizing s with
  | nil => trivial
  | cons m moves ih =>
    obtain ⟨hm, halone⟩ := halone
    exact ⟨h.undisturbed feed m, ih (h.apply feed hm) halone⟩

/-! ### One loop at a time -/

/-- A loop that is still there is the one that the poller holds. -/
def Held (p : Poller) : Prop :=
  ∀ i k, p.tasks[i]? = some k → k.loops = true → k.isDone = false → p.held = some i

theorem running_of_held {k : Task} (hk : p.tasks[i]? = some k) (hdone : k.isDone = false)
    (hheld : p.held = some i) : p.running = true := by
  simp [running, hheld, hk, hdone]

theorem Held.put (h : Held p) (htasks : q.tasks = p.tasks) (hheld : q.held = p.held)
    (htask : ∃ k, p.tasks[i]? = some k ∧ k.isDone = false) : Held (q.put i stage) := by
  intro j k hk hloops hdone
  rw [Poller.put, List.getElem?_modify, htasks] at hk
  obtain ⟨old, hold, heq⟩ := Option.map_eq_some_iff.mp hk
  have hsame : k.loops = old.loops := by rw [← heq]; split <;> rfl
  by_cases hij : i = j
  · subst hij
    obtain ⟨k', hk', hdone'⟩ := htask
    obtain rfl := Option.some.inj (hk'.symm.trans hold)
    exact hheld.trans (h i k' hk' (hsame ▸ hloops) hdone')
  · rw [if_neg hij] at heq
    obtain rfl : old = k := heq
    exact hheld.trans (h j old hold hloops hdone)

theorem Held.add (h : Held p) (loops : Bool) (held : Option Nat)
    (hold : p.held = held ∨ p.running = false)
    (hnew : loops = true → held = some p.tasks.length) :
    Held { p with tasks := p.tasks ++ [{ loops }], held := held } := by
  intro j k hk hloops hdone
  simp only [List.getElem?_append] at hk
  split at hk
  · have hheld := h j k hk hloops hdone
    rcases hold with rfl | hstopped
    · exact hheld
    -- The loop would be held, and the poller running.
    · rw [running_of_held hk hdone hheld] at hstopped
      cases hstopped
  · next hj =>
    have hzero : j = p.tasks.length := by
      have := (List.getElem?_eq_some_iff.mp hk).1
      simp only [List.length_singleton] at this
      omega
    subst hzero
    obtain rfl := List.mem_singleton.mp (List.mem_of_getElem? hk)
    exact hnew hloops

theorem Held.resumes (h : Held p) (hresumes : Resumes feed i p t es s) : Held s.1 := by
  have hpolling : ∀ {stage}, p.stage? i = some stage → stage.isPolling = true →
      ∃ k, p.tasks[i]? = some k ∧ k.isDone = false := by
    intro stage hstage hpolling
    obtain ⟨k, hk, rfl⟩ := stage?_eq_some_iff.mp hstage
    exact ⟨k, hk, Task.isDone_of_isPolling hpolling⟩
  cases hresumes with
  | idle => exact h
  | asks hbetween =>
    obtain ⟨k, hk, -, hdone⟩ := hbetween
    exact h.put rfl rfl ⟨k, hk, hdone⟩
  | fetches hstage => exact h.put rfl rfl (hpolling hstage rfl)
  | fetchFails hstage => exact h.put rfl rfl (hpolling hstage rfl)
  | accepts hstage => exact h.put rfl rfl (hpolling hstage rfl)
  | deliveryFails hstage => exact h.put rfl rfl (hpolling hstage rfl)

theorem Held.cancel (h : Held p) (i : Nat) : Held (p.cancel i) := by
  rcases cancel_eq p i with heq | ⟨htask, heq⟩
  · rwa [heq]
  · rw [heq]
    exact h.put rfl rfl htask

theorem isDone_of_cancel {k : Task} (hk : (p.cancel i).tasks[i]? = some k) : k.isDone = true := by
  rw [Poller.cancel] at hk
  split at hk
  · rw [Poller.put, List.getElem?_modify_eq] at hk
    obtain ⟨old, -, rfl⟩ := Option.map_eq_some_iff.mp hk
    rfl
  · next hnone =>
    rw [hk] at hnone
    simpa using hnone

/-- A stop that gets through leaves no loop. -/
theorem Held.stop (h : Held p) : Held (p.stop false) := by
  rw [Poller.stop]
  split
  · exact h
  · next i hheld =>
    rw [Bool.false_and]
    intro j k hk hloops hdone
    have hj := (h.cancel i) j k hk hloops hdone
    have hkept : (p.cancel i).held = p.held := by
      rcases cancel_eq p i with heq | ⟨-, heq⟩
      · rw [heq]
      · rw [heq]
        rfl
    obtain rfl : i = j := Option.some.inj (hheld.symm.trans (hkept.symm.trans hj))
    rw [isDone_of_cancel hk] at hdone
    cases hdone

theorem Held.apply (feed : Feed τ) (h : Held s.1) (hm : m ≠ .stop true) :
    Held (m.apply feed s).1 := by
  obtain ⟨p, t⟩ := s
  cases m with
  | start =>
    rw [Move.apply]
    rcases start_eq p with heq | ⟨hstopped, heq⟩
    · rwa [heq]
    · rw [heq]
      exact h.add true _ (.inr hstopped) fun _ => rfl
  | pollOnce => exact h.add false _ (.inl rfl) (absurd · Bool.false_ne_true)
  | resume i => exact h.resumes (Poller.resumes feed i p t)
  | cancel i => exact h.cancel i
  | stop absorbed =>
    cases absorbed with
    | false => exact h.stop
    | true => exact absurd rfl hm
  | elsewhere change => exact h

theorem Held.alone_of_aloneUnlessLoop (h : Held s.1) (hm : m.AloneUnlessLoop s) : m.Alone s := by
  cases m with
  | resume i =>
    intro hbetween j stage hstage
    refine Bool.eq_false_iff.mpr fun hpolling => ?_
    obtain ⟨⟨k, hk, hloops⟩, k', hk', hloops'⟩ := hm hbetween j stage hstage hpolling
    obtain ⟨old, hold, hresting, hdone⟩ := hbetween
    obtain rfl := Option.some.inj (hk.symm.trans hold)
    rw [stage?, hk'] at hstage
    obtain rfl := Option.some.inj hstage
    have hdone' := Task.isDone_of_isPolling hpolling
    -- Both tasks are the loop that is held, and it is not at two places at once.
    obtain rfl := Option.some.inj ((h i k hk hloops hdone).symm.trans (h j k' hk' hloops' hdone'))
    obtain rfl := Option.some.inj (hk.symm.trans hk')
    rw [hresting] at hpolling
    cases hpolling
  | _ => trivial

/-- **Where every stop gets through, the loop is alone.** -/
theorem Held.alone (h : Held s.1) (hmoves : ∀ m ∈ moves, m ≠ .stop true)
    (halone : Throughout feed Move.AloneUnlessLoop moves s) : Throughout feed Move.Alone moves s := by
  induction moves generalizing s with
  | nil => trivial
  | cons m moves ih =>
    obtain ⟨hm, hmoves⟩ := List.forall_mem_cons.mp hmoves
    obtain ⟨hfirst, halone⟩ := halone
    exact ⟨h.alone_of_aloneUnlessLoop hfirst, ih (h.apply feed hm) hmoves halone⟩

/-! ### After a stop that was absorbed -/

theorem resume_ready (h : p.stage? i = some .ready) :
    p.resume feed i t = (p.put i (.asked p.cursor), t) := by
  obtain ⟨k, hk, hstage⟩ := stage?_eq_some_iff.mp h
  simp only [resume, hk, hstage]

theorem resume_asked {cursor : Value} {events : List ChangeEvent} {u : τ}
    (h : p.stage? i = some (.asked cursor))
    (hfetch : feed.fetch p.table p.schema cursor t = (.ok events, u)) :
    p.resume feed i t = (p.put i (.onward cursor [] events), u) := by
  obtain ⟨k, hk, hstage⟩ := stage?_eq_some_iff.mp h
  simp only [resume, hk, hstage, hfetch]

theorem resume_delivering {poll : Poll} {u : τ} (h : p.stage? i = some (.delivering poll))
    (hdeliver : feed.deliver poll.current t = (.accepted, u)) :
    p.resume feed i t = ({ p with cursor := poll.current.position }.put i
      (.onward poll.cursor (poll.delivered ++ [poll.current]) poll.rest), u) := by
  obtain ⟨k, hk, hstage⟩ := stage?_eq_some_iff.mp h
  simp only [resume, hk, hstage, hdeliver]

/-- Two polls under way each deliver their change, whatever the other delivers. -/
theorem accepted_of_two {poll other : Poll} (hne : i ≠ j)
    (hi : p.stage? i = some (.delivering poll)) (hj : p.stage? j = some (.delivering other))
    (hdeliver : ∀ e t, (feed.deliver e t).1 = .accepted) :
    accepted feed [.resume i, .resume j] (p, t) = [poll.current, other.current] := by
  have hfirst : feed.deliver poll.current t = (.accepted, _) := Prod.ext (hdeliver _ _) rfl
  have hsecond : ∀ u, (Move.resume j).accepted feed
      ({ p with cursor := poll.current.position }.put i
        (.onward poll.cursor (poll.delivered ++ [poll.current]) poll.rest), u) =
      [other.current] := fun u => by
    refine accepted_of_delivered ?_ (Prod.ext (hdeliver _ _) rfl)
    rw [stage?_put_of_ne hne]
    exact hj
  simp only [accepted, Move.apply, accepted_of_delivered hi hfirst, resume_delivering hi hfirst,
    hsecond]
  rfl

/-- The poller does not know of a loop that absorbed a stop, and starts another. -/
theorem start_stop_absorbed (hheld : p.held = some i) (hstage : p.stage? i = some stage)
    (hpolling : stage.isPolling = true) :
    run feed [.stop true, .start] (p, t) =
      ({ p with tasks := p.tasks ++ [{ loops := true }], held := some p.tasks.length }, t) := by
  have hstop : p.stop true = { p with held := none } := by
    simp [Poller.stop, hheld, hstage, hpolling]
  simp only [run, List.foldl_cons, List.foldl_nil, Move.apply, hstop]
  rfl

/-- A new task asks for the changes after the cursor, and takes them. -/
theorem run_of_ready {events : List ChangeEvent} {u : τ} (hready : p.stage? i = some .ready)
    (hfetch : feed.fetch p.table p.schema p.cursor t = (.ok events, u)) :
    run feed [.resume i, .resume i] (p, t) =
        ((p.put i (.asked p.cursor)).put i (.onward p.cursor [] events), u) ∧
      accepted feed [.resume i, .resume i] (p, t) = [] := by
  have hasking : (p.put i (.asked p.cursor)).stage? i = some (.asked p.cursor) := by simp [hready]
  constructor
  · rw [run_cons, Move.apply, resume_ready hready]
    exact resume_asked hasking hfetch
  · simp only [accepted, Move.accepted, Move.apply, hready, resume_ready hready, hasking]
    rfl

/-- **After a stop that was absorbed, two loops deliver one change**: the one whose
delivery waited for the stop, and the one that is started next and fetches the
change before that delivery ends. -/
theorem accepted_stop_absorbed {poll : Poll} {more : List ChangeEvent} {u : τ}
    (hheld : p.held = some i) (hstage : p.stage? i = some (.delivering poll))
    (hfetch : feed.fetch p.table p.schema p.cursor t = (.ok (poll.current :: more), u))
    (hdeliver : ∀ e t, (feed.deliver e t).1 = .accepted) :
    accepted feed [.stop true, .start, .resume p.tasks.length, .resume p.tasks.length, .resume i,
      .resume p.tasks.length] (p, t) = [poll.current, poll.current] := by
  obtain ⟨k, hk, hkstage⟩ := stage?_eq_some_iff.mp hstage
  have hlt := (List.getElem?_eq_some_iff.mp hk).1
  set n := p.tasks.length with hn
  set q : Poller := { p with tasks := p.tasks ++ [{ loops := true }], held := some n } with hq
  have hready : q.stage? n = some .ready := by simp [stage?, hq, hn]
  obtain ⟨hfetched, hnone⟩ := run_of_ready (p := q) hready hfetch
  -- The new loop has fetched the change that the other one still delivers.
  have hold : ((q.put n (.asked q.cursor)).put n (.onward q.cursor [] (poll.current :: more))).stage?
      i = some (.delivering poll) := by
    rw [stage?_put_of_ne hlt.ne', stage?_put_of_ne hlt.ne']
    exact stage?_eq_some_iff.mpr ⟨k, (List.getElem?_append_left hlt).trans hk, hkstage⟩
  have hnew : ((q.put n (.asked q.cursor)).put n (.onward q.cursor [] (poll.current :: more))).stage?
      n = some (.delivering ⟨q.cursor, [], poll.current, more⟩) := by
    rw [stage?_put_self, stage?_put_self, hready]
    rfl
  have hboth := accepted_of_two (t := u) hlt.ne hold hnew hdeliver
  rw [show [.stop true, .start, .resume n, .resume n, .resume i, .resume n] =
    [.stop true, .start] ++ ([.resume n, .resume n] ++ [Move.resume i, .resume n]) from rfl,
    accepted_append, accepted_append, start_stop_absorbed hheld hstage rfl, hnone, hfetched, hboth]
  rfl

/-! ### Every run -/

theorem IsIdle.single (h : p.IsIdle) : Single p where
  due hstage hdue := by
    have hpolling := Stage.isPolling_of_due hdue
    rw [h.isPolling_eq_false hstage] at hpolling
    cases hpolling
  one hstage _ hpolling _ := by
    rw [h.isPolling_eq_false hstage] at hpolling
    cases hpolling

theorem IsIdle.not_delivering (h : p.IsIdle) (i : Nat) (poll : Poll) :
    p.stage? i ≠ some (.delivering poll) := fun hstage => by
  cases h.isPolling_eq_false hstage

theorem IsIdle.held (h : p.IsIdle) : Held p := by
  intro i k hk _ hdone
  rw [h k (List.mem_of_getElem? hk)] at hdone
  cases hdone

/-- What is true of a run of a poller that was `p` in the world `t`. -/
structure Delivers (feed : Feed τ) [LinearOrder ι] (log : ChangeLog τ ι) (p : Poller) (t : τ)
    (moves : List (Move τ)) : Prop where
  /-- The accepted changes are a first part of what the log holds after the first
  cursor just if each of them came where its poll left the cursor. -/
  accepted : accepted feed moves (p, t) <+: log.after p.cursor (run feed moves (p, t)).2 ↔
    Throughout feed (Move.Undisturbed feed) moves (p, t)
  /-- Then they are in order, and none is there twice. -/
  once : Throughout feed (Move.Undisturbed feed) moves (p, t) →
    (Poller.accepted feed moves (p, t)).Pairwise fun d e => log.rank d.position < log.rank e.position
  /-- So it is where no poll begins while another is under way. -/
  undisturbed : Throughout feed Move.Alone moves (p, t) →
    Throughout feed (Move.Undisturbed feed) moves (p, t)
  /-- And that is so where every stop gets through and polls that are asked for once
  do not overlap with others. -/
  alone : (∀ m ∈ moves, m ≠ .stop true) → Throughout feed Move.AloneUnlessLoop moves (p, t) →
    Throughout feed Move.Alone moves (p, t)
  /-- In any case the cursor is the position of the change accepted last. -/
  cursor : (run feed moves (p, t)).1.cursor = lastPosition p.cursor (Poller.accepted feed moves (p, t))
  /-- A poll that ends well has delivered everything that it fetched. -/
  whole : ∀ i poll n, (run feed moves (p, t)).1.stage? i = some (.delivering poll) →
    (run feed (moves ++ [.resume i]) (p, t)).1.stage? i = some (.ended (.delivered n)) →
    Took feed moves (p, t) i poll.cursor poll.fetched ∧ n = poll.fetched.length ∧
      poll.fetched.Sublist (Poller.accepted feed (moves ++ [.resume i]) (p, t))

/-- **No change is lost or repeated where no poll disturbs another**, over any feed
that serves a log. -/
theorem run_delivers [LinearOrder ι] {log : ChangeLog τ ι}
    (hserves : feed.Serves p.table p.schema log) (hidle : p.IsIdle)
    (hmoves : ∀ m ∈ moves, m.Grows log) (hordered : log.IsOrdered (run feed moves (p, t)).2) :
    Delivers feed log p t moves := by
  have hexact := append_accepted_prefix_iff (s := (p, t)) hserves hmoves (hidle.tracks t)
    List.nil_prefix hordered
  refine ⟨hexact, fun h => hordered.after.sublist (hexact.mpr h).sublist,
    hidle.single.undisturbed_of_alone, hidle.held.alone, cursor_run feed moves (p, t),
    fun i poll n hstage hended => ?_⟩
  have htracks := (hidle.tracks t).run hserves hmoves
  rw [run_append] at hended
  rw [accepted_append, Poller.accepted, Poller.accepted, List.append_nil]
  exact ⟨took_of_delivering hidle.not_delivering hstage, htracks.whole hstage hended⟩

end Poller
end TableGate

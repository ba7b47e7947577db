/-
# When no change is lost or repeated

Over a feed that serves a log, the changes that a run accepts are a first part of
what the log holds after the first cursor, each of them once and in order, if and
only if every delivery that ends well finds the cursor where its poll left it:
where it asked, or at the change that it delivered before
(`Poller.append_accepted_prefix_iff`). Then no other poll moved the cursor in between.

The invariant of a run says of every poll under way that it left the cursor where
it once stood, and that what it fetched is in the log (`Poller.Tracks`). It holds
of every run, disturbed or not: a poll that ends well has delivered everything
that it fetched (`Poller.Tracks.whole`).

Key definitions: `Poller.Move.Undisturbed`, `Poller.Stage.Backed`, `Poller.Tracks`,
`Poller.Took`.
Key theorems: `Poller.Tracks.run`, `Poller.took_of_delivering`, `Poller.Tracks.whole`,
`Poller.append_accepted_prefix_iff`.
-/
import TableGate.Proofs.Except
import TableGate.Proofs.Feed.Moves

namespace TableGate

variable {τ ι : Type}

namespace Poller

/-- Everything that the poll fetched. -/
def Poll.fetched (poll : Poll) : List ChangeEvent := poll.delivered ++ poll.current :: poll.rest

/-- Where the poll left the cursor. -/
def Poll.due (poll : Poll) : Value := lastPosition poll.cursor poll.delivered

/-- Where the poll under way left the cursor, if one is. -/
def Stage.due? : Stage → Option Value
  | .asked cursor => some cursor
  | .delivering poll => some poll.due
  | _ => none

/-- A change that the move delivers well comes where its poll left the cursor. -/
def Move.Undisturbed (feed : Feed τ) : Move τ → Poller × τ → Prop
  | .resume i, (p, t) => ∀ poll u, p.stage? i = some (.delivering poll) →
      feed.deliver poll.current t = (.accepted, u) → poll.due = p.cursor
  | _, _ => True

variable [LinearOrder ι] {feed : Feed τ} {log : ChangeLog τ ι} {p q : Poller} {t u : τ}
  {c : Value} {seen more : List ChangeEvent} {stage : Stage} {i : Nat} {m : Move τ}
  {moves : List (Move τ)}

/-! ### What holds of the polls under way -/

/-- What holds of a stage after the changes `seen` were accepted and the cursor
began at `c`: the poll left the cursor where it stood after some first of these
changes, fetched a first part of the log after its cursor, and what it delivered
was accepted. -/
structure Stage.Backed (log : ChangeLog τ ι) (c : Value) (seen : List ChangeEvent) (t : τ)
    (stage : Stage) : Prop where
  due : ∀ d, stage.due? = some d → ∃ front, front <+: seen ∧ d = lastPosition c front
  fetched : ∀ poll, stage = .delivering poll → poll.fetched <+: log.after poll.cursor t
  delivered : ∀ poll, stage = .delivering poll → poll.delivered.Sublist seen

theorem Stage.Backed.mono (h : stage.Backed log c seen t)
    (hgrows : log.entries t <+: log.entries u) (more : List ChangeEvent) :
    stage.Backed log c (seen ++ more) u where
  due d hd :=
    have ⟨front, hfront, heq⟩ := h.due d hd
    ⟨front, hfront.trans (List.prefix_append _ _), heq⟩
  fetched poll heq := (h.fetched poll heq).trans (ChangeLog.after_grows hgrows _)
  delivered poll heq := (h.delivered poll heq).trans (List.sublist_append_left _ _)

theorem Stage.backed_of_not_polling (h : stage.isPolling = false) :
    stage.Backed log c seen t := by
  cases stage with
  | ready => exact ⟨nofun, nofun, nofun⟩
  | ended outcome => exact ⟨nofun, nofun, nofun⟩
  | asked cursor => cases h
  | delivering poll => cases h

theorem Stage.backed_onward {cursor : Value} {delivered pending : List ChangeEvent}
    (hdue : ∃ front, front <+: seen ∧ lastPosition cursor delivered = lastPosition c front)
    (hfetched : delivered ++ pending <+: log.after cursor t)
    (hdelivered : delivered.Sublist seen) :
    (Stage.onward cursor delivered pending).Backed log c seen t := by
  cases pending with
  | nil => exact backed_of_not_polling rfl
  | cons e rest =>
    refine ⟨fun d hd => ?_, fun poll hpoll => ?_, fun poll hpoll => ?_⟩
    · rw [← Option.some.inj hd]
      exact hdue
    · cases hpoll
      exact hfetched
    · cases hpoll
      exact hdelivered

/-- A run that began at the cursor `c` and accepted the changes `seen`: the cursor
is the position of the last of them, and the polls under way are backed by them. -/
structure Tracks (log : ChangeLog τ ι) (c : Value) (seen : List ChangeEvent)
    (s : Poller × τ) : Prop where
  cursor : s.1.cursor = lastPosition c seen
  polls : ∀ i stage, s.1.stage? i = some stage → stage.Backed log c seen s.2

theorem Tracks.of_noNewPoll (h : Tracks log c seen (p, t)) (hpolls : NoNewPoll p q)
    (hgrows : log.entries t <+: log.entries u) : Tracks log c seen (q, u) := by
  refine ⟨hpolls.cursor.trans h.cursor, fun i stage hstage => ?_⟩
  cases hpolling : stage.isPolling with
  | false => exact Stage.backed_of_not_polling hpolling
  | true =>
    have hbacked := (h.polls i stage (hpolls.polls hstage hpolling)).mono hgrows []
    rwa [List.append_nil] at hbacked

theorem Tracks.put (h : Tracks log c seen (p, t)) (hgrows : log.entries t <+: log.entries u)
    (hcursor : q.cursor = lastPosition c (seen ++ more)) (htasks : q.tasks = p.tasks)
    (hstage : stage.Backed log c (seen ++ more) u) :
    Tracks log c (seen ++ more) (q.put i stage, u) := by
  refine ⟨hcursor, fun j next hnext => ?_⟩
  have hsame : q.stage? j = p.stage? j := by rw [stage?, stage?, htasks]
  by_cases hij : i = j
  · subst hij
    rw [eq_of_stage?_put hnext]
    exact hstage
  · rw [stage?_put_of_ne hij, hsame] at hnext
    exact (h.polls j next hnext).mono hgrows more

theorem Tracks.resumes (hserves : feed.Serves p.table p.schema log)
    (h : Tracks log c seen (p, t)) {es : List ChangeEvent} {s : Poller × τ}
    (hresumes : Resumes feed i p t es s) : Tracks log c (seen ++ es) s := by
  have hgrows := hresumes.grows hserves
  have hcursor : p.cursor = lastPosition c (seen ++ []) := by rw [List.append_nil]; exact h.cursor
  cases hresumes with
  | idle => rwa [List.append_nil]
  | asks =>
    refine h.put hgrows hcursor rfl ⟨fun d hd => ⟨_, List.prefix_refl _, ?_⟩, nofun, nofun⟩
    rw [← Option.some.inj hd]
    exact hcursor
  | fetches hstage hfetch =>
    have hbacked := (h.polls i _ hstage).mono hgrows []
    exact h.put hgrows hcursor rfl
      (Stage.backed_onward (hbacked.due _ rfl) (hserves.fetched hfetch) (List.nil_sublist _))
  | fetchFails => exact h.put hgrows hcursor rfl (Stage.backed_of_not_polling rfl)
  | @accepts poll u hstage hdeliver =>
    have hbacked := h.polls i _ hstage
    -- Whatever other polls did before, this one leaves the cursor where it now stands.
    have hnow : lastPosition poll.cursor (poll.delivered ++ [poll.current]) =
        lastPosition c (seen ++ [poll.current]) := by
      rw [lastPosition_concat, lastPosition_concat]
    have hfetched := (hbacked.fetched poll rfl).trans (ChangeLog.after_grows hgrows _)
    rw [Poll.fetched, List.append_cons] at hfetched
    exact h.put (q := { p with cursor := poll.current.position }) hgrows
      (lastPosition_concat _ _ _).symm rfl
      (Stage.backed_onward ⟨_, List.prefix_refl _, hnow⟩ hfetched
        ((hbacked.delivered poll rfl).append (List.Sublist.refl _)))
  | deliveryFails => exact h.put hgrows hcursor rfl (Stage.backed_of_not_polling rfl)

/-- **Every move keeps the polls on the log.** -/
theorem Tracks.apply {s : Poller × τ} (hserves : feed.Serves s.1.table s.1.schema log)
    (hm : m.Grows log) (h : Tracks log c seen s) :
    Tracks log c (seen ++ m.accepted feed s) (m.apply feed s) := by
  have hgrows := apply_grows hserves hm
  rcases apply_cases feed m s with ⟨i, -, hresumes⟩ | ⟨hnone, hpolls⟩
  · exact h.resumes hserves hresumes
  · rw [hnone, List.append_nil]
    exact h.of_noNewPoll hpolls hgrows

/-- **So does every run**, by induction on its moves. -/
theorem Tracks.run {s : Poller × τ} (hserves : feed.Serves s.1.table s.1.schema log)
    (hmoves : ∀ m ∈ moves, m.Grows log) (h : Tracks log c seen s) :
    Tracks log c (seen ++ accepted feed moves s) (run feed moves s) := by
  induction moves generalizing s seen with
  | nil =>
    rw [accepted, List.append_nil]
    exact h
  | cons m moves ih =>
    obtain ⟨hm, hmoves⟩ := List.forall_mem_cons.mp hmoves
    rw [accepted, ← List.append_assoc, run_cons]
    exact ih (serves_apply hserves m) hmoves (h.apply hserves hm)

/-! ### Polls that end well -/

/-- Along the moves the task at the place asked for the changes after the cursor,
and took these. -/
def Took (feed : Feed τ) (moves : List (Move τ)) (s : Poller × τ) (i : Nat) (cursor : Value)
    (events : List ChangeEvent) : Prop :=
  ∃ front back q, moves = front ++ .resume i :: back ∧ run feed front s = q ∧
    q.1.stage? i = some (.asked cursor) ∧
      ∃ u, feed.fetch q.1.table q.1.schema cursor q.2 = (.ok events, u)

theorem Took.concat {cursor : Value} {events : List ChangeEvent} {s : Poller × τ}
    (h : Took feed moves s i cursor events) (m : Move τ) :
    Took feed (moves ++ [m]) s i cursor events := by
  obtain ⟨front, back, q, rfl, hrest⟩ := h
  exact ⟨front, back ++ [m], q, by simp, hrest⟩

theorem Stage.fetched_onward {cursor : Value} {delivered pending : List ChangeEvent} {poll : Poll}
    (h : Stage.onward cursor delivered pending = .delivering poll) :
    poll.cursor = cursor ∧ poll.fetched = delivered ++ pending := by
  cases pending with
  | nil => cases h
  | cons e rest =>
    obtain rfl := Stage.delivering.inj h
    exact ⟨rfl, rfl⟩

/-- A poll in the middle of its deliveries was so before, with the same changes, or
took them just now. -/
theorem Resumes.delivering {es : List ChangeEvent} {s : Poller × τ} {j : Nat} {poll : Poll}
    (h : Resumes feed i p t es s) (hstage : s.1.stage? j = some (.delivering poll)) :
    (∃ old, p.stage? j = some (.delivering old) ∧ poll.cursor = old.cursor ∧
        poll.fetched = old.fetched) ∨
      j = i ∧ p.stage? i = some (.asked poll.cursor) ∧
        ∃ u, feed.fetch p.table p.schema poll.cursor t = (.ok poll.fetched, u) := by
  by_cases hij : i = j
  · subst hij
    cases h with
    | idle => exact .inl ⟨poll, hstage, rfl, rfl⟩
    | asks => cases eq_of_stage?_put hstage
    | fetches hasked hfetch =>
      obtain ⟨hcursor, hfetched⟩ := Stage.fetched_onward (eq_of_stage?_put hstage).symm
      rw [hcursor, hfetched]
      exact .inr ⟨rfl, hasked, _, hfetch⟩
    | fetchFails => cases eq_of_stage?_put hstage
    | accepts hold =>
      obtain ⟨hcursor, hfetched⟩ := Stage.fetched_onward (eq_of_stage?_put hstage).symm
      exact .inl ⟨_, hold, hcursor, by rw [hfetched, List.append_assoc]; rfl⟩
    | deliveryFails => cases eq_of_stage?_put hstage
  · rw [h.stage?_of_ne hij] at hstage
    exact .inl ⟨poll, hstage, rfl, rfl⟩

/-- A poll fetched what it delivers, by induction on the moves. -/
theorem took_of_delivering {s : Poller × τ} {poll : Poll}
    (hidle : ∀ i poll, s.1.stage? i ≠ some (.delivering poll))
    (hstage : (run feed moves s).1.stage? i = some (.delivering poll)) :
    Took feed moves s i poll.cursor poll.fetched := by
  induction moves using List.reverseRecOn generalizing poll with
  | nil => exact absurd hstage (hidle i poll)
  | append_singleton moves m ih =>
    rw [run_append] at hstage
    rcases apply_cases feed m (run feed moves s) with ⟨j, rfl, hresumes⟩ | ⟨-, hpolls⟩
    · rcases hresumes.delivering hstage with ⟨old, hold, hcursor, hfetched⟩ | ⟨rfl, hasked, hfetch⟩
      · rw [hcursor, hfetched]
        exact (ih hold).concat _
      · exact ⟨moves, [], _, rfl, rfl, hasked, hfetch⟩
    · exact (ih (hpolls.polls hstage rfl)).concat m

/-- **A poll that ends well has delivered everything that it fetched.** -/
theorem Tracks.whole (h : Tracks log c seen (p, t)) {poll : Poll} {n : Nat}
    (hstage : p.stage? i = some (.delivering poll))
    (hended : (p.resume feed i t).1.stage? i = some (.ended (.delivered n))) :
    n = poll.fetched.length ∧
      poll.fetched.Sublist (seen ++ (Move.resume i).accepted feed (p, t)) := by
  have hbacked := h.polls i _ hstage
  have hresumes := Poller.resumes feed i p t
  generalize (Move.resume i).accepted feed (p, t) = es at hresumes ⊢
  generalize p.resume feed i t = s at hresumes hended
  -- A poll ends well only with the acceptance of its last change.
  cases hresumes with
  | idle => rw [hstage] at hended; cases hended
  | asks => cases eq_of_stage?_put hended
  | fetches hasked => rw [hstage] at hasked; cases hasked
  | fetchFails hasked => rw [hstage] at hasked; cases hasked
  | deliveryFails => cases eq_of_stage?_put hended
  | accepts hother =>
    obtain rfl := Stage.delivering.inj (Option.some.inj (hstage.symm.trans hother))
    have honward := eq_of_stage?_put hended
    cases hrest : poll.rest with
    | nil =>
      have hall : poll.fetched = poll.delivered ++ [poll.current] := by rw [Poll.fetched, hrest]
      rw [hrest, Stage.onward, ← hall] at honward
      refine ⟨PollOutcome.delivered.inj (Stage.ended.inj honward), ?_⟩
      rw [hall]
      exact (hbacked.delivered poll rfl).append (List.Sublist.refl _)
    | cons e rest =>
      rw [hrest] at honward
      cases honward

/-! ### Deliveries that find the cursor elsewhere -/

/-- The change that a poll delivers is the first in the log after the cursor that
the poll left. -/
theorem Tracks.first (h : Tracks log c seen (p, t)) (hordered : log.IsOrdered t) {poll : Poll}
    (hstage : p.stage? i = some (.delivering poll)) :
    poll.current :: poll.rest <+: log.after poll.due t :=
  ChangeLog.prefix_after_of_append hordered ((h.polls i _ hstage).fetched poll rfl)

/-- What an undisturbed resumption delivers is the first after the cursor. -/
theorem Tracks.next (hserves : feed.Serves p.table p.schema log)
    (h : Tracks log c seen (p, t)) (hordered : log.IsOrdered t) {es : List ChangeEvent}
    {s : Poller × τ} (hresumes : Resumes feed i p t es s)
    (hundisturbed : (Move.resume i).Undisturbed feed (p, t)) : es <+: log.after p.cursor s.2 := by
  have hgrows := hresumes.grows hserves
  cases hresumes with
  | accepts hstage hdeliver =>
    have hfirst := h.first hordered hstage
    rw [hundisturbed _ _ hstage hdeliver] at hfirst
    have hone : [_] <+: _ := (List.cons_prefix_cons.mpr ⟨rfl, List.nil_prefix⟩).trans hfirst
    exact hone.trans (ChangeLog.after_grows hgrows _)
  | _ => exact List.nil_prefix

/-- An undisturbed move goes on where the accepted changes end. -/
theorem Tracks.accepted_prefix {s : Poller × τ} (hserves : feed.Serves s.1.table s.1.schema log)
    (hm : m.Grows log) (h : Tracks log c seen s) (hseen : seen <+: log.after c s.2)
    (hordered : log.IsOrdered (m.apply feed s).2) (hundisturbed : m.Undisturbed feed s) :
    seen ++ m.accepted feed s <+: log.after c (m.apply feed s).2 := by
  have hgrows := apply_grows hserves hm
  refine ChangeLog.append_prefix_after hordered (hseen.trans (ChangeLog.after_grows hgrows c)) ?_
  rw [← h.cursor]
  rcases apply_cases feed m s with ⟨i, rfl, hresumes⟩ | ⟨hnone, -⟩
  · exact h.next hserves (hordered.of_grows hgrows) hresumes hundisturbed
  · rw [hnone]
    exact List.nil_prefix

/-- **Where a run accepts a first part of the log, its first move is undisturbed.**
The change that the move delivers comes next after the accepted ones, and it is the
first after the cursor where its poll left it: nothing was accepted in between. -/
theorem Tracks.undisturbed {s : Poller × τ} (h : Tracks log c seen s)
    (hgrows : log.entries s.2 <+: log.entries u) (hordered : log.IsOrdered u)
    (hall : seen ++ (m.accepted feed s ++ more) <+: log.after c u) : m.Undisturbed feed s := by
  cases m with
  | resume i =>
    intro poll v hstage hdeliver
    obtain ⟨front, ⟨between, rfl⟩, hdue⟩ := (h.polls i _ hstage).due poll.due rfl
    have hfirst := (h.first (hordered.of_grows hgrows) hstage).trans
      (ChangeLog.after_grows hgrows _)
    rw [accepted_of_delivered hstage hdeliver, List.append_assoc] at hall
    have hlater := ChangeLog.prefix_after_of_append hordered hall
    rw [← hdue] at hlater
    -- The log has one place for the change, so nothing was accepted in between.
    obtain rfl := ChangeLog.eq_nil_of_prefix_after hordered hfirst hlater
    rw [hdue, h.cursor, List.append_nil]
  | _ => trivial

/-- **A run accepts a first part of the log just if all of it is undisturbed**, by
induction on its moves. -/
theorem append_accepted_prefix_iff {s : Poller × τ}
    (hserves : feed.Serves s.1.table s.1.schema log) (hmoves : ∀ m ∈ moves, m.Grows log)
    (h : Tracks log c seen s) (hseen : seen <+: log.after c s.2)
    (hordered : log.IsOrdered (run feed moves s).2) :
    seen ++ accepted feed moves s <+: log.after c (run feed moves s).2 ↔
      Throughout feed (Move.Undisturbed feed) moves s := by
  induction moves generalizing s seen with
  | nil =>
    rw [accepted, List.append_nil]
    exact iff_of_true hseen trivial
  | cons m moves ih =>
    obtain ⟨hm, hmoves⟩ := List.forall_mem_cons.mp hmoves
    have hserves' := serves_apply hserves m
    have hgrows := run_grows hserves' hmoves
    rw [Throughout, run_cons]
    constructor
    · intro hall
      have hundisturbed := h.undisturbed ((apply_grows hserves hm).trans hgrows) hordered hall
      have hnext := h.accepted_prefix hserves hm hseen (hordered.of_grows hgrows) hundisturbed
      rw [accepted, ← List.append_assoc] at hall
      exact ⟨hundisturbed, (ih hserves' hmoves (h.apply hserves hm) hnext hordered).mp hall⟩
    · rintro ⟨hundisturbed, hrest⟩
      have hnext := h.accepted_prefix hserves hm hseen (hordered.of_grows hgrows) hundisturbed
      rw [accepted, ← List.append_assoc]
      exact (ih hserves' hmoves (h.apply hserves hm) hnext hordered).mpr hrest

/-- All tasks of the poller are done. -/
def IsIdle (p : Poller) : Prop := ∀ k ∈ p.tasks, k.isDone = true

/-- A poller begins idle. -/
theorem isIdle_of_make {table schema : String} {interval cursor : Value}
    (h : make table schema interval cursor = .ok p) : p.IsIdle := by
  rw [make] at h
  obtain ⟨notPositive, -, h⟩ := Results.bind_eq_ok_iff.mp h
  split at h
  · cases h
  · cases h
    exact fun k hk => absurd hk List.not_mem_nil

theorem IsIdle.isPolling_eq_false (h : p.IsIdle) {j : Nat} (hstage : p.stage? j = some stage) :
    stage.isPolling = false := by
  obtain ⟨k, hk, rfl⟩ := stage?_eq_some_iff.mp hstage
  refine Bool.eq_false_iff.mpr fun hpolling => ?_
  have hdone := h k (List.mem_of_getElem? hk)
  rw [Task.isDone_of_isPolling hpolling] at hdone
  cases hdone

/-- A run begins with nothing accepted. -/
theorem IsIdle.tracks (h : p.IsIdle) (t : τ) : Tracks log p.cursor [] (p, t) :=
  ⟨rfl, fun _ _ hstage => Stage.backed_of_not_polling (h.isPolling_eq_false hstage)⟩

end Poller
end TableGate

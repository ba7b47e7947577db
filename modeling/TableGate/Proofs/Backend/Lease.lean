/-
# Connections are leased

A connection that is taken from the pool is leased: of all that happens to it, it
is first taken, then used, and last given back (`IsLease`). Events are leased
(`Leased`) if that holds of each connection in them; so none is left out of the
pool, given back twice, or used after it was given back.

Along a run the numbers of connections tell the leases apart: what is leased
between two sessions has numbers between theirs. Where a connection is held from
outside, it is used but neither taken nor given back (`Session.Lends`). This is a
preorder, so actions keep it if their parts do; and giving a connection to an
action that holds it is a lease (`Adapter.lends_withConnection`).

Key definitions: `Event.IsUse`, `IsLease`, `Leased`, `Session.Lends`.
Key theorems: `Session.Lends.leased`, `Adapter.lends_withConnection`,
`Adapter.lends_query`, `Work.lends_runOn`.
-/
import TableGate.Proofs.Backend.Connection
import TableGate.Proofs.Backend.Course

namespace TableGate

/-- The connection that an event is about. -/
def Event.connection? : Event → Option Nat
  | .acquire c => c
  | .prepare c _ | .fetch c _ | .control c _ | .ping c _ | .execute c _ _ | .closeCursor c
  | .release c => some c
  | .openPool .. | .closePool _ => none

/-- The events that are about a connection. -/
def eventsAbout (c : Nat) (es : List Event) : List Event :=
  es.filter fun e => e.connection? == some c

/-- A connection is used: it is neither taken nor given back. -/
def Event.IsUse : Event → Prop
  | .acquire _ | .release _ => False
  | _ => True

/-- What happened to a connection: it was taken, used, and given back. -/
def IsLease (c : Nat) (es : List Event) : Prop :=
  ∃ uses, es = .acquire (some c) :: (uses ++ [.release c]) ∧ ∀ e ∈ uses, e.IsUse

/-- Each connection in the events is taken once, then used, and given back
once. -/
def Leased (es : List Event) : Prop :=
  ∀ c, eventsAbout c es = [] ∨ IsLease c (eventsAbout c es)

theorem eventsAbout_append (c : Nat) (es fs : List Event) :
    eventsAbout c (es ++ fs) = eventsAbout c es ++ eventsAbout c fs := List.filter_append ..

theorem eventsAbout_self {c : Nat} {e : Event} (h : e.connection? = some c) (es : List Event) :
    eventsAbout c (e :: es) = e :: eventsAbout c es := List.filter_cons_of_pos (by simp [h])

theorem eventsAbout_other {c : Nat} {e : Event} (h : e.connection? ≠ some c) (es : List Event) :
    eventsAbout c (e :: es) = eventsAbout c es := List.filter_cons_of_neg (by simp [h])

theorem Event.IsOn.connection?_eq {c : Nat} {e : Event} (h : e.IsOn c) :
    e.connection? = some c := by
  cases e <;> simp_all [IsOn, connection?]

theorem Event.IsOn.isUse {c : Nat} {e : Event} (h : e.IsOn c) : e.IsUse := by
  cases e <;> simp_all [IsOn, IsUse]

/-! ### Leases between two sessions -/

/-- What events are to the connection `d`, where `own` is held from outside and
the numbers from `lo` up to `hi` were given away: `own` is used, and any other is
leased. -/
def Settles (own : Option Nat) (lo hi d : Nat) (es : List Event) : Prop :=
  if own = some d then ∀ e ∈ eventsAbout d es, e.IsUse
  else eventsAbout d es = [] ∨ lo ≤ d ∧ d < hi ∧ IsLease d (eventsAbout d es)

theorem Settles.append {own : Option Nat} {lo mid hi d : Nat} {es fs : List Event}
    (hlo : lo ≤ mid) (hhi : mid ≤ hi) (hes : Settles own lo mid d es)
    (hfs : Settles own mid hi d fs) : Settles own lo hi d (es ++ fs) := by
  unfold Settles at *
  rw [eventsAbout_append]
  split
  · rename_i hown
    rw [if_pos hown] at hes hfs
    intro e he
    exact (List.mem_append.mp he).elim (hes e) (hfs e)
  · rename_i hown
    rw [if_neg hown] at hes hfs
    -- a number is given away before or after the session between, not both
    rcases hes with hes | ⟨hlo', hmid, hes⟩
    · rcases hfs with hfs | ⟨hmid', hhi', hfs⟩
      · exact .inl (by rw [hes, hfs]; rfl)
      · exact .inr ⟨by omega, hhi', by rwa [hes]⟩
    · rcases hfs with hfs | ⟨hmid', -, -⟩
      · exact .inr ⟨hlo', by omega, by rwa [hfs, List.append_nil]⟩
      · omega

namespace Session

variable {σ : Type} {own : Option Nat} {s t : Session σ}

/-- Between the sessions every connection is leased but `own`, which is held from
outside and used. -/
def Lends (own : Option Nat) (s t : Session σ) : Prop :=
  (∀ c, own = some c → c < s.nextConnection) →
    s.nextConnection ≤ t.nextConnection ∧
      ∃ es, t.log = s.log ++ es ∧ ∀ d, Settles own s.nextConnection t.nextConnection d es

theorem lends_of_eq (hnext : t.nextConnection = s.nextConnection) (hlog : t.log = s.log) :
    Lends own s t := by
  refine fun _ => ⟨Nat.le_of_eq hnext.symm, [], by simp [hlog], fun d => ?_⟩
  unfold Settles
  split
  · simp [eventsAbout]
  · exact .inl rfl

instance (own : Option Nat) : IsPreorder (Session σ) (Lends own) where
  refl _ := lends_of_eq rfl rfl
  trans s t u := by
    intro hst htu hown
    obtain ⟨hlo, es, hes, hsettled⟩ := hst hown
    obtain ⟨hhi, fs, hfs, hsettled'⟩ := htu fun c hc => Nat.lt_of_lt_of_le (hown c hc) hlo
    refine ⟨Nat.le_trans hlo hhi, es ++ fs, ?_, fun d => (hsettled d).append hlo hhi (hsettled' d)⟩
    rw [hfs, hes, List.append_assoc]

theorem lends_spans (s : Session σ) (spans : List Span) : Lends own s { s with spans := spans } :=
  lends_of_eq rfl rfl

theorem lends_of_isOn {c : Nat} (hnext : t.nextConnection = s.nextConnection) {e : Event}
    (hlog : t.log = s.log ++ [e]) (he : e.IsOn c) : Lends (some c) s t := by
  refine fun _ => ⟨Nat.le_of_eq hnext.symm, [e], hlog, fun d => ?_⟩
  unfold Settles
  split
  · rename_i hd
    cases hd
    rw [eventsAbout_self he.connection?_eq]
    simpa [eventsAbout] using he.isUse
  · rename_i hd
    refine .inl ?_
    rw [eventsAbout_other (he.connection?_eq ▸ hd)]
    rfl

theorem Lends.held (h : Lends none s t) : Lends own s t := by
  intro hown
  obtain ⟨hnext, es, hes, hsettled⟩ := h fun c hc => by cases hc
  refine ⟨hnext, es, hes, fun d => ?_⟩
  have hd : eventsAbout d es = [] ∨ s.nextConnection ≤ d ∧ d < t.nextConnection ∧
      IsLease d (eventsAbout d es) := by
    simpa [Settles] using hsettled d
  unfold Settles
  split
  · rename_i hc
    rcases hd with hd | ⟨hge, -, -⟩
    · simp [hd]
    · exact absurd (hown d hc) (by omega)
  · exact hd

theorem Lends.leased (h : Lends none s t) : ∃ es, t.log = s.log ++ es ∧ Leased es := by
  obtain ⟨-, es, hes, hsettled⟩ := h fun c hc => by cases hc
  refine ⟨es, hes, fun d => ?_⟩
  have hd : eventsAbout d es = [] ∨ s.nextConnection ≤ d ∧ d < t.nextConnection ∧
      IsLease d (eventsAbout d es) := by
    simpa [Settles] using hsettled d
  exact hd.imp_right fun h => h.2.2

end Session

namespace Adapter

open TableGate.Action

variable {σ α : Type} {a : Adapter σ} {own : Option Nat}

/-! ### Statements on a connection that is held -/

theorem lends_ask_of_isOn {c : Nat} (answer : Answer σ α) {e : Event} (he : e.IsOn c) :
    Leads (Session.Lends (some c)) (Action.ask answer e) :=
  fun _ => Session.lends_of_isOn rfl rfl he

theorem lends_runOn (c : Nat) (sql : String) (params : List Value) :
    Leads (Session.Lends (some c)) (a.runOn c sql params) := by
  have hspans : ∀ (s : Session σ) (spans : List Span),
      Session.Lends (some c) s { s with spans := spans } := Session.lends_spans
  have hclose : Leads (Session.Lends (some c)) (Action.record (.closeCursor c) : Action σ Unit) :=
    fun _ => Session.lends_of_isOn rfl rfl (e := .closeCursor c) rfl
  unfold runOn
  cases a.dialect with
  | postgres =>
    exact leads_runPrepared hspans (lends_ask_of_isOn _ rfl)
      fun _ _ _ _ _ _ => lends_ask_of_isOn _ rfl
  | sqlServer => exact leads_runCursor hspans (fun _ _ => lends_ask_of_isOn _ rfl) hclose sql params

theorem lends_control (c : Nat) (sql : String) :
    Leads (Session.Lends (some c)) (a.control c sql) := by
  have hcursor := lends_runOn (a := a) c sql []
  unfold runOn at hcursor
  unfold control
  cases hdialect : a.dialect with
  | postgres =>
    have hask : Leads (Session.Lends (some c))
        (Action.ask (a.driver.control sql) (.control c sql)) := lends_ask_of_isOn _ rfl
    exact (leads_traced Session.lends_spans hask).mapFault
  | sqlServer =>
    rw [hdialect] at hcursor
    exact hcursor.bind fun _ => Leads.pure ()

/-! ### Leases -/

/-- A connection is taken under the next number, or none is taken. -/
theorem checkout_cases (a : Adapter σ) (s : Session σ) :
    (∃ e t, a.checkout.runIn s = (.error e, t) ∧ t.nextConnection = s.nextConnection ∧
      (t.log = s.log ∨ t.log = s.log ++ [.acquire none])) ∨
    ∃ t, a.checkout.runIn s = (.ok s.nextConnection, t) ∧
      t.nextConnection = s.nextConnection + 1 ∧
      t.log = s.log ++ [.acquire (some s.nextConnection)] := by
  rw [checkout_runIn]
  cases s.pool.isSome with
  | false => exact .inl ⟨_, _, rfl, rfl, .inl rfl⟩
  | true =>
    rw [if_pos rfl, acquire, runIn_of]
    rcases a.driver.acquire s.backend with ⟨r, b⟩
    cases r with
    | error e => exact .inl ⟨_, _, rfl, rfl, .inr rfl⟩
    | ok u => exact .inr ⟨_, rfl, rfl, rfl⟩

/-- Around the uses of a connection and the leases of others: it is taken before
them, and given back after them. -/
theorem settles_lease {lo hi d : Nat} {es : List Event} (hi' : lo < hi)
    (h : Settles (some lo) (lo + 1) hi d es) :
    Settles none lo hi d (.acquire (some lo) :: (es ++ [.release lo])) := by
  unfold Settles at *
  rw [if_neg (by simp)]
  by_cases hd : lo = d
  · subst hd
    rw [if_pos rfl] at h
    refine .inr ⟨Nat.le_refl lo, hi', eventsAbout lo es, ?_, h⟩
    rw [eventsAbout_self rfl, eventsAbout_append, eventsAbout_self rfl]
    rfl
  · have hother : (some lo : Option Nat) ≠ some d := by simpa using hd
    rw [if_neg hother] at h
    have hsame : eventsAbout d (.acquire (some lo) :: (es ++ [.release lo])) = eventsAbout d es := by
      rw [eventsAbout_other (e := .acquire (some lo)) hother, eventsAbout_append,
        eventsAbout_other (e := .release lo) hother]
      exact List.append_nil _
    rw [hsame]
    exact h.imp_right fun ⟨hge, hlt, hlease⟩ => ⟨by omega, hlt, hlease⟩

/-- **A connection that is given to an action is leased**, where the action uses
it and leases all others. -/
theorem lends_withConnection {use : Nat → Action σ α}
    (h : ∀ c, Leads (Session.Lends (some c)) (use c)) :
    Leads (Session.Lends none) (a.withConnection use) := by
  intro s
  rcases a.checkout_cases s with ⟨e, t, hrun, hnext, hlog⟩ | ⟨t, hrun, hnext, hlog⟩
  · rw [withConnection_of_error hrun]
    rcases hlog with hlog | hlog
    · exact Session.lends_of_eq hnext hlog
    · exact fun _ => ⟨Nat.le_of_eq hnext.symm, _, hlog, fun d => .inl rfl⟩
  · rw [withConnection_runIn hrun]
    intro _
    obtain ⟨hle, es, hes, hsettled⟩ := h s.nextConnection t fun c hc => by
      cases hc
      omega
    refine ⟨by simp only; omega, .acquire (some s.nextConnection) ::
      (es ++ [.release s.nextConnection]), ?_, fun d => settles_lease (by simp only; omega) ?_⟩
    · simp [hes, hlog]
    · simpa [hnext] using hsettled d

end Adapter

namespace Work

variable {σ α : Type} {a : Adapter σ} {c : Nat}

/-- **Work uses the connection of its transaction** and takes no other. -/
theorem lends_runOn (work : Work σ α) : ∀ (ended : Bool) (s : Session σ),
    Session.Lends (some c) s ((work.runOn a c ended).run s).2 := by
  induction work using byCalls with
  | done v => intro ended s; exact refl_of (Session.Lends _) s
  | raise e => intro ended s; exact refl_of (Session.Lends _) s
  | query sql params next ih =>
    intro ended s
    exact trans_of (Session.Lends (some c)) (Adapter.lends_runOn c sql params s) (ih _ ended _)
  | ending how next ih =>
    intro ended s
    rw [runOn_ending]
    refine trans_of (Session.Lends (some c)) ?_ (ih _ true _)
    cases ended with
    | true => exact refl_of (Session.Lends _) s
    | false => exact Adapter.lends_control c _ s
  | isEnded next ih => intro ended s; exact ih ended ended s
  | aside change next ih =>
    intro ended s
    exact trans_of (Session.Lends (some c)) (Session.lends_of_eq rfl rfl)
      (ih ended { s with backend := change s.backend })

end Work
end TableGate

/-
# Every operation gives its connections back

Whatever is done with an adapter, in whatever order, and however the pool and the
driver answer: each connection that an operation takes is given back once before
the operation ends, well or not, and is not used after that
(`Adapter.leased_operations`). A transaction has one connection, which all its
statements go to.

The caller of a transaction may do any work on the transaction's connection, and
may use the adapter beside it: the operations it runs so take connections of
their own, and may be transactions again.

Key definitions: `BasicOperation`, `Operation`, `Callback`, `Operation.run`,
`Callback.course`, `Adapter.runEach`.
Key theorems: `Operation.run_transaction`, `BasicOperation.lends_run`,
`Operation.lends_run`, `Adapter.leased_operations`.
-/
import TableGate.Backend.ChangeTracking
import TableGate.Backend.Definition
import TableGate.Backend.Health
import TableGate.Backend.Security
import TableGate.Proofs.Backend.Endings
import TableGate.Proofs.Backend.Lease

namespace TableGate

open Transaction

/-! ### Operations -/

/-- The operations of an adapter but transactions, by what they give. -/
inductive BasicOperation : Type → Type where
  | query (sql : String) (params : List Value) : BasicOperation QueryResult
  | queryFirst (sql : String) (params : List Value) : BasicOperation (Option Row)
  | tableNames (schema : String) : BasicOperation (List Value)
  | facet (q : CatalogQuery) (table : Value) (schema : String) : BasicOperation (List Row)
  | tables (schema : Option String) : BasicOperation (List Table)
  | table? (name : String) (schema : Option String) : BasicOperation (Option Table)
  | primaryKeys (table : String) (schema : Option String) : BasicOperation (List Value)
  | columns (table : String) (schema : Option String) : BasicOperation (List Column)
  | routines (schema : Option String) : BasicOperation (List Routine)
  | views (schema : Option String) : BasicOperation (List View)
  | schemaListing (schema : Option String) : BasicOperation SchemaListing
  | createTable (t : Table) : BasicOperation Unit
  | alterTable (name : String) (changes : Alteration) (schema : Option String) : BasicOperation Unit
  | dropTable (name : String) (schema : Option String) (cascade : Bool) : BasicOperation Unit
  | createIndex (table : String) (index : Index) (schema : Option String) : BasicOperation Unit
  | applyPolicy (p : Policy) : BasicOperation Unit
  | removePolicy (name table : String) (schema : Option String) : BasicOperation Unit
  | policies (table : Option String) (schema : Option String) : BasicOperation (List Policy)
  | enableSecurity (table : String) (schema : Option String) : BasicOperation Unit
  | disableSecurity (table : String) (schema : Option String) : BasicOperation Unit
  | enableChangeTracking (table : String) (schema : Option String) : BasicOperation Unit
  | disableChangeTracking (table : String) (schema : Option String) : BasicOperation Unit
  | fetchChanges (table schema : String) (cursor : Value) : BasicOperation (List ChangeEvent)
  | exportSchema (schema : Option String) (generated : String) : BasicOperation String
  | importSchema (script : String) : BasicOperation Nat
  | stats : BasicOperation DatabaseStats
  | isHealthy : BasicOperation Bool

mutual

inductive Operation (σ : Type) : Type → Type 1 where
  | basic {α : Type} (op : BasicOperation α) : Operation σ α
  | transaction {α : Type} (callback : Callback σ α) : Operation σ α

/-- What a caller does in a transaction: work on its connection, and operations
beside it, each as the outcomes before decide. -/
inductive Callback (σ : Type) : Type → Type 1 where
  | ret {α : Type} (r : Except Fault α) : Callback σ α
  | inside {α β : Type} (work : Work σ β) (next : Except Fault β → Callback σ α) : Callback σ α
  | beside {α β : Type} (op : Operation σ β) (next : Except Fault β → Callback σ α) : Callback σ α

end

namespace Adapter

variable {σ α : Type} (a : Adapter σ)

/-- A transaction whose caller does whatever it does on a connection, and tells
whether it ended the transaction. -/
def transactionBy (callback : Nat → StateM (Session σ) (Except Fault α × Bool)) : Action σ α :=
  a.traced .transaction none (a.withConnection fun c => do
    a.control c a.dialect.beginStatement
    let r ← ExceptT.lift (callback c)
    a.conclude c r)

theorem transaction_eq (work : Work σ α) :
    a.transaction work = a.transactionBy fun c => work.runOn a c false := rfl

end Adapter

def BasicOperation.run {σ α : Type} (a : Adapter σ) : BasicOperation α → Action σ α
  | .query sql params => a.query sql params
  | .queryFirst sql params => a.queryFirst sql params
  | .tableNames schema => a.tableNames schema
  | .facet q table schema => a.facet q table schema
  | .tables schema => a.tables schema
  | .table? name schema => a.table? name schema
  | .primaryKeys table schema => a.primaryKeys table schema
  | .columns table schema => a.columns table schema
  | .routines schema => a.routines schema
  | .views schema => a.views schema
  | .schemaListing schema => a.schemaListing schema
  | .createTable t => a.createTable t
  | .alterTable name changes schema => a.alterTable name changes schema
  | .dropTable name schema cascade => a.dropTable name schema cascade
  | .createIndex table index schema => a.createIndex table index schema
  | .applyPolicy p => a.applyPolicy p
  | .removePolicy name table schema => a.removePolicy name table schema
  | .policies table schema => a.policies table schema
  | .enableSecurity table schema => a.enableSecurity table schema
  | .disableSecurity table schema => a.disableSecurity table schema
  | .enableChangeTracking table schema => a.enableChangeTracking table schema
  | .disableChangeTracking table schema => a.disableChangeTracking table schema
  | .fetchChanges table schema cursor => a.fetchChanges table schema cursor
  | .exportSchema schema generated => a.exportSchema schema generated
  | .importSchema script => a.importSchema script
  | .stats => a.stats
  | .isHealthy => a.isHealthy

mutual

def Operation.run {σ : Type} (a : Adapter σ) {α : Type} : Operation σ α → Action σ α
  | .basic op => op.run a
  | .transaction callback => a.transactionBy fun c => callback.runOn a c false

/-- Does what a caller does in a transaction on a connection, where `ended` tells
whether the transaction was ended. -/
def Callback.runOn {σ : Type} (a : Adapter σ) (c : Nat) {α : Type} :
    Callback σ α → Bool → StateM (Session σ) (Except Fault α × Bool)
  | .ret r, ended => pure (r, ended)
  | .inside work next, ended => do
    let (r, ended) ← work.runOn a c ended
    (next r).runOn a c ended
  | .beside op next, ended => do
    let r ← (op.run a).run
    (next r).runOn a c ended

end

namespace Adapter

open TableGate.Action

variable {σ α : Type} {a : Adapter σ} {own : Option Nat}

/-! ### Basic operations -/

theorem lends_resolveSchema (schema : Option String) :
    Leads (Session.Lends own) (a.resolveSchema schema) := .of_runIn_eq fun _ => rfl

theorem lends_query (sql : String) (params : List Value) :
    Leads (Session.Lends none) (a.query sql params) :=
  lends_withConnection fun c => lends_runOn c sql params

theorem lends_queryFirst (sql : String) (params : List Value) :
    Leads (Session.Lends none) (a.queryFirst sql params) :=
  (lends_query sql params).bind fun _ => Leads.pure _

theorem lends_sendText (sql : String) : Leads (Session.Lends none) (a.sendText sql) :=
  (lends_query sql []).bind fun _ => Leads.pure _

theorem lends_ask (q : CatalogQuery) (params : List Value) :
    Leads (Session.Lends none) (a.ask q params) :=
  (lends_query _ params).bind fun _ => Leads.pure _

/-- What is done after the work leads along a relation if the endings do. -/
theorem leads_conclude {R : Session σ → Session σ → Prop} [IsPreorder (Session σ) R] {c : Nat}
    (h : ∀ how : Ending, Leads R (a.control c (how.statement a.dialect)))
    (r : Except Fault α × Bool) : Leads R (a.conclude c r) := by
  obtain ⟨r, ended⟩ := r
  cases r with
  | ok v =>
    cases ended with
    | true => exact Leads.pure v
    | false => exact (h .commit).bind fun _ => Leads.pure v
  | error e =>
    cases ended with
    | true => exact Leads.throw e
    | false =>
      refine (h .rollback).outcome.bind fun x => ?_
      split
      · exact Leads.throw e
      · exact Leads.throw e
      · exact Leads.throw _

/-- **A transaction leases its connection**, where its caller uses that one and
leases all others. -/
theorem lends_transactionBy {callback : Nat → StateM (Session σ) (Except Fault α × Bool)}
    (h : ∀ c s, Session.Lends (some c) s ((callback c).run s).2) :
    Leads (Session.Lends none) (a.transactionBy callback) := by
  refine leads_traced Session.lends_spans (lends_withConnection fun c => ?_)
  have hlift : Leads (Session.Lends (some c)) (ExceptT.lift (callback c) : Action σ _) := h c
  exact (lends_control c _).bind fun _ => hlift.bind fun r =>
    leads_conclude (fun _ => lends_control c _) r

theorem lends_runAll (statements : List String) :
    Leads (Session.Lends none) (a.runAll statements) := by
  unfold runAll
  split
  · exact Leads.pure ()
  · rw [transaction_eq]
    exact lends_transactionBy fun c s => Work.lends_runOn _ false s

theorem lends_sourceOutcome (r : Except Fault α) :
    Leads (Session.Lends own) (Catalog.Source.ofExcept r : Action σ α) := by
  cases r with
  | ok v => exact Leads.pure v
  | error e => exact Leads.throw e

theorem lends_facets (table : Value) (schema : String) :
    Leads (Session.Lends none) (a.facets table schema) := by
  have hfacet : ∀ q, Leads (Session.Lends none) (a.facet q table schema).outcome :=
    fun q => (lends_ask q _).outcome
  exact (hfacet .columns).bind fun _ => (hfacet .primaryKeys).bind fun _ =>
    (hfacet .foreignKeys).bind fun _ => (hfacet .indexes).bind fun _ => Leads.pure _

theorem lends_catalogTable (name : Value) (schema : String) :
    Leads (Session.Lends none) (a.catalog.table? name schema) :=
  (lends_facets name schema).bind fun _ => lends_sourceOutcome _

theorem lends_tablesNamed (schema : String) : ∀ names : List Value,
    Leads (Session.Lends none) (a.catalog.tablesNamed schema names)
  | [] => Leads.pure []
  | name :: names => (lends_catalogTable name schema).bind fun _ =>
    (lends_tablesNamed schema names).bind fun _ => Leads.pure _

theorem lends_tableNames (schema : String) :
    Leads (Session.Lends none) (a.tableNames schema) :=
  (lends_ask _ _).bind fun _ => Leads.ofExcept _

theorem lends_tables (schema : Option String) :
    Leads (Session.Lends none) (a.tables schema) := by
  refine (lends_resolveSchema schema).bind fun schema => leads_traced Session.lends_spans ?_
  exact (lends_tableNames schema).bind fun names => (lends_sourceOutcome _).bind fun names =>
    lends_tablesNamed schema names

theorem lends_routines (schema : Option String) :
    Leads (Session.Lends none) (a.routines schema) :=
  (lends_resolveSchema schema).bind fun _ => (lends_ask _ _).bind fun _ =>
    (lends_ask _ _).bind fun _ => Leads.ofExcept _

theorem lends_views (schema : Option String) :
    Leads (Session.Lends none) (a.views schema) :=
  (lends_resolveSchema schema).bind fun _ => (lends_ask _ _).bind fun _ =>
    (lends_ask _ _).bind fun _ => Leads.ofExcept _

theorem lends_schemaListing (schema : Option String) :
    Leads (Session.Lends none) (a.schemaListing schema) :=
  (lends_resolveSchema schema).bind fun _ => (lends_tables _).bind fun _ =>
    (lends_views _).bind fun _ => (lends_routines _).bind fun _ => Leads.pure _

theorem lends_switchPolicies (state : String) : ∀ rows : List Row,
    Leads (Session.Lends none) (a.switchPolicies state rows)
  | [] => Leads.pure ()
  | row :: rows => by
    refine Leads.bind ?_ fun _ => lends_switchPolicies state rows
    refine (Leads.ofExcept _).bind fun name => (Leads.ofExcept _).bind fun schema => ?_
    split
    · exact lends_sendText _
    · exact lends_sendText _
    · exact Leads.throw _

theorem lends_setSecurity (table : String) (schema : Option String) (on : Bool) :
    Leads (Session.Lends none) (a.setSecurity table schema on) := by
  refine (lends_resolveSchema schema).bind fun schema => ?_
  split
  · exact lends_sendText _
  · exact (lends_query _ _).bind fun _ => lends_switchPolicies _ _

theorem lends_applyPolicy (p : Policy) : Leads (Session.Lends none) (a.applyPolicy p) := by
  refine (lends_resolveSchema p.schema).bind fun schema => ?_
  split
  · refine (lends_queryFirst _ _).bind fun known => ?_
    split
    · exact Leads.pure ()
    · exact lends_sendText _
  · exact (lends_sendText _).bind fun _ => lends_sendText _

theorem lends_removePolicy (name table : String) (schema : Option String) :
    Leads (Session.Lends none) (a.removePolicy name table schema) := by
  refine (lends_resolveSchema schema).bind fun schema => ?_
  dsimp only
  split
  · exact lends_sendText _
  · exact (lends_sendText _).bind fun _ => lends_sendText _

theorem lends_enableChangeTracking (table : String) (schema : Option String) :
    Leads (Session.Lends none) (a.enableChangeTracking table schema) := by
  refine (lends_resolveSchema schema).bind fun schema => ?_
  split
  · exact lends_runAll _
  · exact (lends_query _ _).bind fun _ => Leads.pure _

theorem lends_disableChangeTracking (table : String) (schema : Option String) :
    Leads (Session.Lends none) (a.disableChangeTracking table schema) := by
  refine (lends_resolveSchema schema).bind fun schema => ?_
  split
  · exact (lends_query _ _).bind fun _ => Leads.pure _
  · exact (lends_query _ _).bind fun _ => Leads.pure _

theorem lends_fetchChanges (table schema : String) (cursor : Value) :
    Leads (Session.Lends none) (a.fetchChanges table schema cursor) := by
  unfold fetchChanges
  split
  · exact (Leads.ofExcept _).bind fun _ => (lends_query _ _).bind fun _ => Leads.ofExcept _
  · exact (Leads.ofExcept _).bind fun _ => (lends_query _ _).bind fun _ =>
      (Leads.ofExcept _).bind fun _ => Leads.pure _

theorem lends_alterTable (name : String) (changes : Alteration) (schema : Option String) :
    Leads (Session.Lends none) (a.alterTable name changes schema) := by
  unfold alterTable
  split
  · exact Leads.throw _
  · exact (lends_resolveSchema schema).bind fun _ => lends_runAll _

theorem lends_stats : Leads (Session.Lends none) a.stats := by
  unfold stats
  cases a.dialect with
  | postgres =>
    exact (lends_resolveSchema none).bind fun _ => (lends_queryFirst _ _).bind fun _ =>
      Leads.ofExcept _
  | sqlServer => exact (lends_queryFirst _ _).bind fun _ => Leads.ofExcept _

theorem lends_isHealthy : Leads (Session.Lends none) a.isHealthy := by
  refine (lends_query _ _).outcome.bind fun r => ?_
  split
  · exact Leads.pure _
  · exact Leads.pure _
  · exact Leads.throw _

end Adapter

open TableGate.Action Adapter in
/-- **Every basic operation leases its connections.** -/
theorem BasicOperation.lends_run {σ α : Type} (a : Adapter σ) (op : BasicOperation α) :
    Leads (Session.Lends none) (op.run a) := by
  cases op with
  | query sql params => exact lends_query sql params
  | queryFirst sql params => exact lends_queryFirst sql params
  | tableNames schema => exact lends_tableNames schema
  | facet q table schema => exact lends_ask q _
  | tables schema => exact lends_tables schema
  | table? name schema =>
    exact (lends_resolveSchema schema).bind fun _ =>
      leads_traced Session.lends_spans (lends_catalogTable _ _)
  | primaryKeys table schema =>
    exact (lends_resolveSchema schema).bind fun _ => (lends_ask _ _).bind fun _ => Leads.ofExcept _
  | columns table schema =>
    exact (lends_resolveSchema schema).bind fun _ => (lends_ask _ _).bind fun _ => Leads.ofExcept _
  | routines schema => exact lends_routines schema
  | views schema => exact lends_views schema
  | schemaListing schema => exact lends_schemaListing schema
  | createTable t => exact lends_runAll _
  | alterTable name changes schema => exact lends_alterTable name changes schema
  | dropTable name schema cascade =>
    exact (lends_resolveSchema schema).bind fun _ => (lends_query _ _).bind fun _ => Leads.pure _
  | createIndex table index schema =>
    exact (lends_resolveSchema schema).bind fun _ => (lends_query _ _).bind fun _ => Leads.pure _
  | applyPolicy p => exact lends_applyPolicy p
  | removePolicy name table schema => exact lends_removePolicy name table schema
  | policies table schema =>
    exact (lends_resolveSchema schema).bind fun _ => (lends_ask _ _).bind fun _ => Leads.ofExcept _
  | enableSecurity table schema => exact lends_setSecurity table schema true
  | disableSecurity table schema => exact lends_setSecurity table schema false
  | enableChangeTracking table schema => exact lends_enableChangeTracking table schema
  | disableChangeTracking table schema => exact lends_disableChangeTracking table schema
  | fetchChanges table schema cursor => exact lends_fetchChanges table schema cursor
  | exportSchema schema generated => exact (lends_schemaListing schema).bind fun _ => Leads.pure _
  | importSchema script =>
    exact (Leads.ofExcept _).bind fun _ => (lends_runAll _).bind fun _ => Leads.pure _
  | stats => exact lends_stats
  | isHealthy => exact lends_isHealthy

open TableGate.Action in
mutual

/-- **Every operation leases its connections**, whatever the callers of its
transactions do. -/
theorem Operation.lends_run {σ : Type} (a : Adapter σ) {α : Type} : ∀ op : Operation σ α,
    Leads (Session.Lends none) (op.run a)
  | .basic op => op.lends_run a
  | .transaction callback =>
    Adapter.lends_transactionBy fun c s => callback.lends_runOn a c false s

/-- **The caller of a transaction uses its connection** and leases all others. -/
theorem Callback.lends_runOn {σ : Type} (a : Adapter σ) (c : Nat) {α : Type} :
    ∀ (callback : Callback σ α) (ended : Bool) (s : Session σ),
      Session.Lends (some c) s ((callback.runOn a c ended).run s).2
  | .ret _, _, s => refl_of (Session.Lends (some c)) s
  | .inside work next, ended, s =>
    trans_of (Session.Lends (some c)) (work.lends_runOn ended s)
      ((next ((work.runOn a c ended).run s).1.1).lends_runOn a c _ _)
  | .beside op next, ended, s =>
    trans_of (Session.Lends (some c)) (op.lends_run a s).held
      ((next ((op.run a).runIn s).1).lends_runOn a c ended _)

end

/-! ### Transactions -/

namespace Transaction

/-- A part of what happens in a transaction: on its own connection, or in an
operation beside it. -/
inductive Part where
  | own (events : List Event)
  | beside (events : List Event)

def Part.events : Part → List Event
  | .own es | .beside es => es

end Transaction

namespace Callback

variable {σ : Type} {a : Adapter σ} {c : Nat}

/-- What happens as the caller of a transaction does what it does. -/
def course (a : Adapter σ) (c : Nat) {α : Type} : Callback σ α → Bool → Session σ → List Part
  | .ret _, _, _ => []
  | .inside work next, ended, s =>
    let r := (work.runOn a c ended).run s
    .own (s.since r.2) :: (next r.1.1).course a c r.1.2 r.2
  | .beside op next, ended, s =>
    let r := (op.run a).runIn s
    .beside (s.since r.2) :: (next r.1).course a c ended r.2

theorem log_since {s t : Session σ} (h : ∃ es, t.log = s.log ++ es) :
    t.log = s.log ++ s.since t := by
  obtain ⟨es, hes⟩ := h
  rw [Session.since_of_append hes, hes]

/-- **The course of a callback is all that it adds to the log.** -/
theorem log_runOn {α : Type} : ∀ (callback : Callback σ α) (ended : Bool) (s : Session σ),
    ((callback.runOn a c ended).run s).2.log =
      s.log ++ (callback.course a c ended s).flatMap Part.events
  | .ret _, _, _ => (List.append_nil _).symm
  | .inside work next, ended, s => by
    have hwork := log_since ⟨_, work.log_runOn (a := a) (c := c) ended s⟩
    have hnext := log_runOn (next ((work.runOn a c ended).run s).1.1)
      ((work.runOn a c ended).run s).1.2 ((work.runOn a c ended).run s).2
    rw [hwork, List.append_assoc] at hnext
    exact hnext
  | .beside op next, ended, s => by
    have hop := log_since (((op.lends_run a) s).leased.imp fun _ h => h.1)
    have hnext := log_runOn (next ((op.run a).runIn s).1) ended ((op.run a).runIn s).2
    rw [hop, List.append_assoc] at hnext
    exact hnext

theorem isOn_course {α : Type} : ∀ (callback : Callback σ α) (ended : Bool) (s : Session σ),
    ∀ es, .own es ∈ callback.course a c ended s → ∀ e ∈ es, e.IsOn c
  | .ret _, _, _, _, h => absurd h List.not_mem_nil
  | .inside work next, ended, s, es, h => by
    rcases List.mem_cons.mp h with h | h
    · obtain rfl := Part.own.inj h
      rw [Session.since_of_append (work.log_runOn ended s)]
      intro e he
      obtain ⟨step, hstep, he⟩ := List.mem_flatMap.mp he
      exact work.isOn_course ended s step hstep e he
    · exact isOn_course (next _) _ _ es h
  | .beside op next, ended, s, es, h => by
    rcases List.mem_cons.mp h with h | h
    · cases h
    · exact isOn_course (next _) _ _ es h

end Callback

namespace Adapter

open TableGate.Action

variable {σ α : Type} {a : Adapter σ}

/-- The events of a transaction: a connection is taken, if there is one, and given
back; what stands between is on that connection, except for what the caller's
operations beside the transaction did. -/
def HasOneConnection (a : Adapter σ) (callback : Callback σ α) (es : List Event) : Prop :=
  es = [] ∨ es = [.acquire none] ∨ ∃ c front parts back,
    es = .acquire (some c) :: (front ++ parts.flatMap Part.events ++ back ++ [.release c]) ∧
    (∀ e ∈ front ++ back, e.IsOn c) ∧ (∀ own, .own own ∈ parts → ∀ e ∈ own, e.IsOn c) ∧
    (parts = [] ∨ ∃ t, parts = callback.course a c false t)

theorem log_transactionOn (c : Nat) (callback : Callback σ α) (s : Session σ) :
    ∃ front parts back,
      ((do
        a.control c a.dialect.beginStatement
        let r ← ExceptT.lift (callback.runOn a c false)
        a.conclude c r : Action σ α).runIn s).2.log =
          s.log ++ (front ++ parts.flatMap Part.events ++ back) ∧
      (∀ e ∈ front ++ back, e.IsOn c) ∧ (∀ own, .own own ∈ parts → ∀ e ∈ own, e.IsOn c) ∧
      (parts = [] ∨ ∃ t, parts = callback.course a c false t) := by
  obtain ⟨front, hfront, hon⟩ := a.adds_control c (isBare_begin a.dialect) s
  rw [runIn_bind]
  rcases hcontrol : (a.control c a.dialect.beginStatement).runIn s with ⟨r, t⟩
  rw [hcontrol] at hfront
  cases r with
  | error e => exact ⟨front, [], [], by simpa using hfront, by simpa using hon, by simp, .inl rfl⟩
  | ok u =>
    have hconclude : Leads (Session.Adds (Event.IsOn c))
        (a.conclude c ((callback.runOn a c false).run t).1) :=
      leads_conclude (fun how => a.adds_control c (isBare_ending a.dialect how)) _
    obtain ⟨back, hback, hon'⟩ := hconclude ((callback.runOn a c false).run t).2
    refine ⟨front, callback.course a c false t, back, ?_, ?_, callback.isOn_course false t,
      .inr ⟨t, rfl⟩⟩
    · refine hback.trans ?_
      rw [callback.log_runOn, hfront]
      simp only [List.append_assoc]
    · intro e he
      exact (List.mem_append.mp he).elim (hon e) (hon' e)

/-- **A transaction has one connection**, which all its statements go to. -/
theorem hasOneConnection (callback : Callback σ α) (s : Session σ) :
    ∃ es, (((Operation.transaction callback).run a).runIn s).2.log = s.log ++ es ∧
      a.HasOneConnection callback es := by
  rcases a.traced_cases .transaction none _ s with ⟨e, -, hrun⟩ | ⟨b, spans, -, hrun⟩
  · exact ⟨[], by rw [Operation.run, transactionBy, hrun]; simp, .inl rfl⟩
  rw [Operation.run, transactionBy, hrun]
  rcases a.checkout_cases s with ⟨e, t, hcheckout, -, hlog⟩ | ⟨t, hcheckout, -, hlog⟩
  · rw [withConnection_of_error hcheckout]
    rcases hlog with hlog | hlog
    · exact ⟨[], by simpa using hlog, .inl rfl⟩
    · exact ⟨_, hlog, .inr (.inl rfl)⟩
  · rw [withConnection_runIn hcheckout]
    obtain ⟨front, parts, back, hbody, hon, hown, hparts⟩ :=
      log_transactionOn (a := a) s.nextConnection callback t
    refine ⟨_, ?_, .inr (.inr ⟨s.nextConnection, front, parts, back, rfl, hon, hown, hparts⟩)⟩
    dsimp only
    rw [hbody, hlog]
    simp

/-! ### Runs -/

/-- Runs operations one after another, whatever comes of each. -/
def runEach (a : Adapter σ) (ops : List ((α : Type) × Operation σ α)) (s : Session σ) : Session σ :=
  ops.foldl (fun s op => ((op.2.run a).runIn s).2) s

theorem lends_runEach (a : Adapter σ) : ∀ (ops : List ((α : Type) × Operation σ α)) (s : Session σ),
    Session.Lends none s (a.runEach ops s)
  | [], s => refl_of (Session.Lends none) s
  | op :: ops, s =>
    trans_of (Session.Lends none) (op.2.lends_run a s) (lends_runEach a ops _)

/-- **Every connection that is taken is given back once, before the operation ends
that took it, and is not used after that**: in each operation, and in every run of
operations one after another, whatever the pool and the driver answer and whatever
the callers of transactions do. And a transaction has one connection for all its
statements. -/
theorem leased_operations (a : Adapter σ) :
    (∀ {α : Type} (op : Operation σ α) (s : Session σ),
      ∃ es, ((op.run a).runIn s).2.log = s.log ++ es ∧ Leased es) ∧
    (∀ (ops : List ((α : Type) × Operation σ α)) (s : Session σ),
      ∃ es, (a.runEach ops s).log = s.log ++ es ∧ Leased es) ∧
    ∀ {α : Type} (callback : Callback σ α) (s : Session σ),
      ∃ es, (((Operation.transaction callback).run a).runIn s).2.log = s.log ++ es ∧
        a.HasOneConnection callback es :=
  ⟨fun op s => (op.lends_run a s).leased, fun ops s => (lends_runEach a ops s).leased,
    hasOneConnection⟩

end Adapter

/-- Work on the connection alone is a callback like any other. -/
theorem Operation.run_transaction {σ α : Type} (a : Adapter σ) (work : Work σ α) :
    (Operation.transaction (.inside work .ret)).run a = a.transaction work := by
  rw [Adapter.transaction_eq]
  rfl

end TableGate

/-
# The key of a table, as the backend is asked for it

An action gives what it should within sessions of some kind if it succeeds in each of
them, with a result as it should be, and the session that it leaves is of that kind again
(`Action.Gives`). Actions that are put together give what their parts give.

Where the four fetches of a table give its rows, whatever was asked before
(`Adapter.Fetches`), the table is described and its key is told, and the two agree
(`Adapter.Fetches.gives_table?`, `Adapter.Fetches.gives_primaryKeys`). The tables of a
schema are described once they are listed (`Adapter.gives_tables`).

Key definitions: `Action.Gives`, `Adapter.IsSteady`, `Adapter.Fetches`,
`Catalog.Tabulates`.
Key theorems: `Action.Gives.bind`, `Adapter.tracing_of_query`,
`Adapter.Fetches.gives_primaryKeys`, `Adapter.Fetches.gives_table?`,
`Adapter.gives_tables`.
-/
import TableGate.Backend.Introspection
import TableGate.Proofs.Backend.Connection
import TableGate.Proofs.Catalog.Keys

namespace TableGate

/-! ### Actions that give what they should -/

namespace Action

variable {σ α β : Type} {within : Session σ → Prop} {P : α → Prop} {Q : β → Prop}

/-- In each session of a kind the action succeeds with a result as it should be, and the
session stays of the kind. -/
def Gives (within : Session σ → Prop) (act : Action σ α) (P : α → Prop) : Prop :=
  ∀ t, within t → ∃ x t', act.runIn t = (.ok x, t') ∧ within t' ∧ P x

theorem Gives.pure {x : α} (h : P x) : Gives within (Pure.pure x : Action σ α) P :=
  fun t ht => ⟨x, t, rfl, ht, h⟩

theorem Gives.ofExcept {r : Except Fault α} (h : ∃ x, r = .ok x ∧ P x) :
    Gives within (ofExcept r) P := by
  obtain ⟨x, rfl, hx⟩ := h
  exact .pure hx

theorem Gives.bind {act : Action σ α} {next : α → Action σ β} (h : Gives within act P)
    (hnext : ∀ x, P x → Gives within (next x) Q) : Gives within (act >>= next) Q := by
  intro t ht
  obtain ⟨x, t', hrun, ht', hx⟩ := h t ht
  rw [runIn_bind, hrun]
  exact hnext x hx t' ht'

theorem Gives.outcome {act : Action σ α} (h : Gives within act P) :
    Gives within act.outcome fun r => ∃ x, r = .ok x ∧ P x := by
  intro t ht
  obtain ⟨x, t', hrun, ht', hx⟩ := h t ht
  exact ⟨.ok x, t', by rw [runIn_outcome, hrun], ht', x, rfl, hx⟩

theorem Gives.imp {act : Action σ α} {P' : α → Prop} (h : Gives within act P)
    (himp : ∀ x, P x → P' x) : Gives within act P' := by
  intro t ht
  obtain ⟨x, t', hrun, ht', hx⟩ := h t ht
  exact ⟨x, t', hrun, ht', himp x hx⟩

end Action

open TableGate.Action Catalog

/-! ### The catalog of a backend -/

namespace Adapter

variable {σ α : Type} {a : Adapter σ} {within : Session σ → Prop}

theorem tracing_of_traced {kind : SpanKind} {sql : Option String} {act : Action σ α}
    {s u : Session σ} {x : α} (h : (a.traced kind sql act).runIn s = (.ok x, u)) :
    ∃ b, a.tracing = .ok b := by
  rcases a.traced_cases kind sql act s with ⟨e, -, herror⟩ | ⟨b, spans, hb, -⟩
  · rw [herror] at h
    cases (Prod.mk.inj h).1
  · exact ⟨b, hb⟩

/-- Where a statement succeeds, the environment tells whether spans are recorded. -/
theorem tracing_of_query {sql : String} {params : List Value} {s u : Session σ}
    {result : QueryResult} (h : (a.query sql params).runIn s = (.ok result, u)) :
    ∃ b, a.tracing = .ok b := by
  obtain ⟨c, t, w, -, hrun, -⟩ := withConnection_ok h
  unfold runOn at hrun
  split at hrun
  · obtain ⟨reply, t', hreply, -⟩ := bind_ok hrun
    exact tracing_of_traced (mapFault_ok hreply)
  · obtain ⟨bound, t', -, hexecute⟩ := bind_ok hrun
    exact tracing_of_traced (mapFault_ok hexecute)

theorem tracing_of_ask {q : CatalogQuery} {params : List Value} {P : List Row → Prop}
    (h : Gives within (a.ask q params) P) {t : Session σ} (ht : within t) :
    ∃ b, a.tracing = .ok b := by
  obtain ⟨rows, t', hrun, -, -⟩ := h t ht
  obtain ⟨result, u, hquery, -⟩ := bind_ok hrun
  exact tracing_of_query hquery

/-- The schema that is asked for is the same in each session of the kind, and spans do
not matter to it. -/
structure IsSteady (a : Adapter σ) (within : Session σ → Prop) (asked : Option String)
    (schema : String) : Prop where
  schema_eq : ∀ t, within t → schemaOr a.dialect t.settings asked = schema
  spans : ∀ t spans, within t → within { t with spans := spans }

namespace IsSteady

variable {asked : Option String} {schema : String} (h : a.IsSteady within asked schema)
include h

theorem gives_resolveSchema : Gives within (a.resolveSchema asked) (· = schema) :=
  fun t ht => ⟨_, t, rfl, ht, h.schema_eq t ht⟩

/-- An action gives the same inside a span, if the catalog answers at all. -/
theorem gives_traced {act : Action σ α} {P : α → Prop} (kind : SpanKind) (sql : Option String)
    (htracing : ∀ t, within t → ∃ b, a.tracing = .ok b) (hact : Gives within act P) :
    Gives within (a.traced kind sql act) P := by
  intro t ht
  obtain ⟨x, t', hrun, ht', hx⟩ := hact t ht
  rcases a.traced_cases kind sql act t with ⟨e, he, -⟩ | ⟨b, spans, -, htraced⟩
  · obtain ⟨b, hb⟩ := htracing t ht
    rw [hb] at he
    cases he
  · rw [hrun] at htraced
    exact ⟨x, _, htraced, h.spans t' spans ht', hx⟩

end IsSteady

/-- The four fetches of a table succeed with its rows; those of the key may come in
another order. -/
structure Fetches (a : Adapter σ) (within : Session σ → Prop) (schema name : String)
    (r : TableRows) : Prop where
  columns : Gives within (a.facet .columns (.text name) schema) (· = r.columns)
  primaryKeys : Gives within (a.facet .primaryKeys (.text name) schema)
    (Rearranged r.primaryKeys)
  foreignKeys : Gives within (a.facet .foreignKeys (.text name) schema) (· = r.foreignKeys)
  indexes : Gives within (a.facet .indexes (.text name) schema) (· = r.indexes)

namespace Fetches

variable {asked : Option String} {schema name : String} {r : TableRows}

theorem gives_facets (h : a.Fetches within schema name r) :
    Gives within (a.facets (.text name) schema) fun f =>
      ∃ keyRows, Rearranged r.primaryKeys keyRows ∧ f = r.facets keyRows := by
  unfold facets
  refine h.columns.outcome.bind ?_
  rintro _ ⟨_, rfl, rfl⟩
  refine h.primaryKeys.outcome.bind ?_
  rintro _ ⟨keyRows, rfl, hrows⟩
  refine h.foreignKeys.outcome.bind ?_
  rintro _ ⟨_, rfl, rfl⟩
  refine h.indexes.outcome.bind ?_
  rintro _ ⟨_, rfl, rfl⟩
  exact .pure ⟨keyRows, hrows, rfl⟩

theorem gives_described (h : a.Fetches within schema name r) (hkeyed : r.IsKeyed) :
    Gives within (a.catalog.table? (.text name) schema) fun table =>
      keyOf table = r.keyColumns ∧ ∀ t ∈ table, t.name = name := by
  refine h.gives_facets.bind ?_
  rintro _ ⟨keyRows, hrows, rfl⟩
  obtain ⟨table, htable, hkey⟩ := hkeyed.table?_eq hrows schema name
  rw [htable]
  exact .pure hkey

/-- **The key that is asked for alone.** -/
theorem gives_primaryKeys (hsteady : a.IsSteady within asked schema)
    (h : a.Fetches within schema name r) (hkeyed : r.IsKeyed) :
    Gives within (a.primaryKeys name asked) (· = r.keyColumns.map .text) := by
  refine hsteady.gives_resolveSchema.bind ?_
  rintro _ rfl
  refine h.primaryKeys.bind fun keyRows hrows => .ofExcept ?_
  exact ⟨_, hkeyed.primaryKeys_eq hrows, rfl⟩

/-- **The key of the table is the same**, and a table that is not there has none. -/
theorem gives_table? (hsteady : a.IsSteady within asked schema)
    (h : a.Fetches within schema name r) (hkeyed : r.IsKeyed) :
    Gives within (a.table? name asked) fun table => keyOf table = r.keyColumns := by
  refine hsteady.gives_resolveSchema.bind ?_
  rintro _ rfl
  refine hsteady.gives_traced _ _ (fun t ht => tracing_of_ask h.columns ht) ?_
  exact (h.gives_described hkeyed).imp fun _ => And.left

end Fetches

end Adapter

/-! ### The tables that are listed -/

namespace Catalog

/-- Tables of the listed names, each with the key that its rows tell; a name with a key
has its table. -/
structure Tabulates (names : List String) (rows : String → TableRows) (ts : List Table) : Prop where
  listed : (ts.map Table.name).Sublist names
  keys : ∀ t ∈ ts, t.primaryKeys = (rows t.name).keyColumns
  complete : ∀ name ∈ names, (rows name).keyColumns ≠ [] → name ∈ ts.map Table.name

theorem Tabulates.cons {names : List String} {rows : String → TableRows} {ts : List Table}
    (h : Tabulates names rows ts) {name : String} {table : Option Table}
    (hkey : keyOf table = (rows name).keyColumns) (hname : ∀ t ∈ table, t.name = name) :
    Tabulates (name :: names) rows (table.toList ++ ts) := by
  cases table with
  | none =>
    refine ⟨h.listed.cons name, h.keys, List.forall_mem_cons.mpr ⟨fun hne => ?_, h.complete⟩⟩
    exact absurd hkey.symm hne
  | some t =>
    obtain rfl := hname t rfl
    refine ⟨h.listed.cons_cons t.name, List.forall_mem_cons.mpr ⟨hkey, h.keys⟩,
      List.forall_mem_cons.mpr ⟨fun _ => List.mem_cons_self, fun name hmem hne => ?_⟩⟩
    exact List.mem_cons_of_mem _ (h.complete name hmem hne)

end Catalog

namespace Adapter

variable {σ : Type} {a : Adapter σ} {within : Session σ → Prop} {asked : Option String}
  {schema : String} {rows : String → TableRows}

theorem gives_tablesNamed : ∀ {names : List String},
    (∀ name ∈ names, a.Fetches within schema name (rows name) ∧ (rows name).IsKeyed) →
      Gives within (a.catalog.tablesNamed schema (names.map .text)) (Tabulates names rows)
  | [], _ => .pure ⟨.slnil, List.forall_mem_nil _, List.forall_mem_nil _⟩
  | name :: names, h => by
    obtain ⟨⟨hfetches, hkeyed⟩, hnames⟩ := List.forall_mem_cons.mp h
    refine (hfetches.gives_described hkeyed).bind fun table ⟨hkey, hname⟩ => ?_
    exact (gives_tablesNamed hnames).bind fun ts hts => .pure (hts.cons hkey hname)

/-- **The tables of a schema are described**, in the order of their names. -/
theorem gives_tables {names : List String} (hsteady : a.IsSteady within asked schema)
    (hlisted : Gives within (a.tableNames schema) (· = names.map .text))
    (h : ∀ name ∈ names, a.Fetches within schema name (rows name) ∧ (rows name).IsKeyed) :
    Gives within (a.tables asked) (Tabulates (Source.inNameOrder names) rows) := by
  have hanswers : ∀ t, within t → ∃ b, a.tracing = .ok b := by
    intro t ht
    obtain ⟨names, t', hrun, -, -⟩ := hlisted t ht
    obtain ⟨result, u, hask, -⟩ := bind_ok hrun
    obtain ⟨reply, w, hquery, -⟩ := bind_ok hask
    exact tracing_of_query hquery
  refine hsteady.gives_resolveSchema.bind ?_
  rintro _ rfl
  refine hsteady.gives_traced _ _ hanswers (hlisted.bind ?_)
  rintro _ rfl
  rw [Source.sortBy?_names]
  exact gives_tablesNamed fun name hname => h name (Source.mem_inNameOrder.mp hname)

end Adapter
end TableGate

/-
# The routes of a single row go by the column that is documented

Two questions lead to the key of a table. The routes that read, change and remove a
single row ask for the key alone; the description of the interface is made of the tables
as a whole. They could name different columns, or the one document a route that the other
refuses.

They do not, in a schema whose tables have different names without a slash and keys of
columns that they have (`Service.ServesSchema`). The route of a row is documented for
each listed table that has a key and for no other, its parameter is the value of a column,
and the condition of the statement that each of the three routes sends is on that column
(`Service.rowRoutes_agree`). It does not matter in which order the rows of a key are
fetched, nor in which session the routes are used.

Key definitions: `Statement.Picks`, `Service.RowRoute.byColumn`, `OpenApi.itemAt?`,
`OpenApi.NamesKey`, `Service.ServesSchema`, `Service.AgreesOn`.
Key theorems: `Service.RowRoute.action_eq`, `Service.RowRoute.statement_picks`,
`OpenApi.itemAt?_rowPath`, `Service.rowRoutes_agree`.
-/
import TableGate.Proofs.Api.Operands
import TableGate.Proofs.Backend.Keys
import TableGate.Proofs.Mapping

namespace TableGate

open TableGate.Action Catalog

/-! ### Statements with one condition -/

/-- The piece begins a condition. -/
def Piece.isWhere : Piece → Bool
  | .text s => Text.contains s "WHERE"
  | _ => false

/-- The only condition of the statement is that the column has the value. -/
def Statement.Picks (s : Statement) (column : String) (v : Value) : Prop :=
  ∃ front start back, s = front ++ start :: Compiler.pairing column v ++ back ∧
    start.isWhere = true ∧ ∀ p ∈ front ++ back, p.isWhere = false

namespace Statement

/-- No piece begins a condition. -/
def IsPlain (s : Statement) : Prop := ∀ p ∈ s, p.isWhere = false

namespace IsPlain

variable {s t : Statement}

theorem nil : IsPlain [] := List.forall_mem_nil _

theorem cons {p : Piece} (hp : p.isWhere = false) (hs : IsPlain s) : IsPlain (p :: s) :=
  List.forall_mem_cons.mpr ⟨hp, hs⟩

theorem append (hs : IsPlain s) (ht : IsPlain t) : IsPlain (s ++ t) :=
  List.forall_mem_append.mpr ⟨hs, ht⟩

theorem pairing (column : String) (v : Value) : IsPlain (Compiler.pairing column v) :=
  cons rfl (cons rfl (cons rfl nil))

theorem joinPieces {between : String} (hbetween : (Piece.text between).isWhere = false) :
    ∀ {parts : List Statement}, (∀ part ∈ parts, IsPlain part) →
      IsPlain (joinPieces between parts)
  | [], _ => nil
  | [part], h => h part (List.mem_singleton_self part)
  | part :: next :: rest, h => by
    obtain ⟨hpart, hrest⟩ := List.forall_mem_cons.mp h
    exact hpart.append (cons hbetween (joinPieces hbetween hrest))

theorem qualifiedName (table : String) (schema : Option String) :
    IsPlain (qualifiedName table schema) := by
  unfold TableGate.qualifiedName
  split
  · exact cons rfl nil
  · split
    · exact cons rfl nil
    · exact cons rfl (cons rfl (cons rfl nil))

/-- The clauses around a condition begin none. -/
theorem clauses (d : Dialect) :
    IsPlain (Compiler.outputPart d "INSERTED") ∧ IsPlain (Compiler.outputPart d "DELETED") ∧
      IsPlain (Compiler.returningPart d) := by
  unfold IsPlain
  cases d <;> decide

end IsPlain

end Statement

namespace Service

variable {σ : Type}

/-! ### The routes of a row -/

namespace RowRoute

/-- What the route sends, with the column of the key. -/
def statement (s : Service σ) (table column : String) (operand : Value) (route : RowRoute) :
    Except Fault Statement :=
  (route.request column operand).statement s.compiler table (some s.schema)

/-- What the route does once it knows the column of the key. -/
def byColumn (s : Service σ) (table column key : String) (route : RowRoute) : Action σ Value := do
  let operand ← Action.ofExcept (Query.readOperand key)
  let row ← s.sendFirst (route.statement s table column operand)
  foundRow table column key row

/-- **A route asks for the key, and goes by the column that it is told.** -/
theorem action_eq (s : Service σ) (table key : String) (route : RowRoute) :
    route.action s table key =
      (do let column ← s.primaryKey table; route.byColumn s table column key) := by
  cases route <;> rfl

/-- **The condition of the statement is on the column**, and it has no other. -/
theorem statement_picks (s : Service σ) (table column : String) (operand : Value)
    (route : RowRoute) :
    ∃ st, route.statement s table column operand = .ok st ∧ st.Picks column operand := by
  obtain ⟨hinserted, hdeleted, hreturning⟩ := Statement.IsPlain.clauses s.adapter.dialect
  have hname := Statement.IsPlain.qualifiedName table (some s.schema)
  cases route with
  | get =>
    refine ⟨_, rfl, .text "SELECT * FROM " :: qualifiedName table (some s.schema), .text " WHERE ",
      [], (List.append_nil _).symm, rfl, ?_⟩
    exact (Statement.IsPlain.cons rfl hname).append .nil
  | replace entry rest =>
    have hsets : Statement.IsPlain
        (joinPieces ", " ((entry :: rest).map fun e => Compiler.pairing e.1 e.2)) :=
      .joinPieces rfl (List.forall_mem_map.mpr fun e _ => .pairing e.1 e.2)
    refine ⟨_, rfl, _, .text "WHERE ", Compiler.returningPart s.adapter.dialect, rfl, rfl, ?_⟩
    refine Statement.IsPlain.append (.append (.append ?_ ?_) (.cons rfl hinserted)) hreturning
    · exact .cons rfl hname
    · exact .cons rfl hsets
  | delete =>
    refine ⟨_, rfl, _, .text "WHERE ", Compiler.returningPart s.adapter.dialect, rfl, rfl, ?_⟩
    refine Statement.IsPlain.append (.append ?_ (.cons rfl hdeleted)) hreturning
    exact .cons rfl hname

end RowRoute
end Service

/-! ### What is documented -/

namespace OpenApi

/-- The path of a single row of a table. -/
def rowPath (base name : String) : String := base ++ "/" ++ name ++ "/\x7bid\x7d"

/-- What a document says of a path. -/
def itemAt? (document : Value) (path : String) : Option Value :=
  (document.at? "paths").bind (·.at? path)

/-- The routes of a path have one parameter, which stands in the path and is the value
of the column. -/
def NamesKey (item : Value) (column : String) : Prop :=
  ∃ parameter, item.at? "parameters" = some (.list [parameter]) ∧
    parameter.at? "name" = some (.text "id") ∧ parameter.at? "in" = some (.text "path") ∧
    parameter.at? "description" = some (.text ("Value of " ++ column))

theorem namesKey_rowItem (t : Table) (key : String) : NamesKey (rowItem t key) key :=
  ⟨_, rfl, rfl, rfl, rfl⟩

theorem rowPath_inj {base name other : String} (h : rowPath base name = rowPath base other) :
    name = other := by
  have hchars := congrArg String.toList h
  simp only [rowPath, String.toList_append] at hchars
  exact String.toList_inj.mp (List.append_cancel_left (List.append_cancel_right hchars))

/-- The path of a row is not that of a table, whose name has no slash. -/
theorem rowPath_ne {base name other : String} (hslash : '/' ∉ other.toList) :
    base ++ "/" ++ other ≠ rowPath base name := by
  intro h
  have hchars := congrArg String.toList h
  simp only [rowPath, String.toList_append, List.append_assoc] at hchars
  have hother := List.append_cancel_left (List.append_cancel_left hchars)
  rw [hother] at hslash
  exact hslash (List.mem_append_right _ List.mem_cons_self)

/-- What stands under the path of a row, where tables have names without a slash. -/
theorem eq_of_mem_tablePaths {t : Table} {base name : String} {entry : String × Value}
    (hslash : '/' ∉ t.name.toList) (hentry : entry ∈ tablePaths t base)
    (hpath : entry.1 = rowPath base name) :
    t.name = name ∧ ∃ key rest, t.primaryKeys = key :: rest ∧ entry.2 = rowItem t key := by
  rcases List.mem_cons.mp hentry with rfl | hentry
  · exact absurd hpath (rowPath_ne hslash)
  · cases hkeys : t.primaryKeys with
    | nil =>
      rw [hkeys] at hentry
      cases hentry
    | cons key rest =>
      rw [hkeys] at hentry
      obtain rfl := List.mem_singleton.mp hentry
      exact ⟨rowPath_inj hpath, key, rest, rfl, rfl⟩

variable {names : List String} {rows : String → TableRows} {ts : List Table} {name : String}

theorem itemAt?_document (ts : List Table) (provider base path : String) :
    itemAt? (document ts provider base) path =
      Value.lookup? (ts.flatMap fun t => tablePaths t base).reverse path :=
  Value.lookup?_mergeKeys _ _

/-- **The path of a row is documented for the tables with a key**, with the first column
of the key. -/
theorem itemAt?_rowPath (h : Tabulates names rows ts) (hdistinct : names.Nodup)
    (hslash : ∀ name ∈ names, '/' ∉ name.toList) (hname : name ∈ names)
    (provider base : String) :
    ((rows name).keyColumns = [] →
      itemAt? (document ts provider base) (rowPath base name) = none) ∧
    ∀ key rest, (rows name).keyColumns = key :: rest →
      ∃ t, itemAt? (document ts provider base) (rowPath base name) = some (rowItem t key) := by
  have hentry : ∀ entry ∈ (ts.flatMap fun t => tablePaths t base).reverse,
      entry.1 = rowPath base name → ∃ t ∈ ts, t.name = name ∧
        ∃ key rest, (rows name).keyColumns = key :: rest ∧ entry.2 = rowItem t key := by
    intro entry hentry hpath
    obtain ⟨t, ht, hentry⟩ := List.mem_flatMap.mp (List.mem_reverse.mp hentry)
    have hlisted : t.name ∈ names := h.listed.subset (List.mem_map_of_mem ht)
    obtain ⟨rfl, hkey⟩ := eq_of_mem_tablePaths (hslash t.name hlisted) hentry hpath
    rw [h.keys t ht] at hkey
    exact ⟨t, ht, rfl, hkey⟩
  refine ⟨fun hnone => ?_, fun key rest hkey => ?_⟩
  · rw [itemAt?_document]
    refine Value.lookup?_eq_none fun entry hmem hpath => ?_
    obtain ⟨t, -, -, key, rest, hkey, -⟩ := hentry entry hmem hpath
    rw [hnone] at hkey
    cases hkey
  · obtain ⟨t, ht, rfl⟩ := List.mem_map.mp (h.complete name hname (hkey ▸ List.cons_ne_nil _ _))
    have hsame : ∀ u ∈ ts, u.name = t.name → u = t := by
      intro u hu hut
      exact List.inj_on_of_nodup_map (hdistinct.sublist h.listed) hu ht hut
    refine ⟨t, ?_⟩
    rw [itemAt?_document]
    refine Value.lookup?_eq_some ?_ fun entry hmem hpath => ?_
    · refine List.mem_reverse.mpr (List.mem_flatMap.mpr ⟨t, ht, ?_⟩)
      rw [tablePaths, h.keys t ht, hkey]
      exact List.mem_cons_of_mem _ List.mem_cons_self
    · obtain ⟨u, hu, hut, key', rest', hkey', hitem⟩ := hentry entry hmem hpath
      obtain rfl := hsame u hu hut
      rw [hkey] at hkey'
      obtain ⟨rfl, -⟩ := List.cons.inj hkey'
      exact hitem

end OpenApi

/-! ### The two together -/

namespace Service

open OpenApi

variable {σ : Type} {s : Service σ} {within : Session σ → Prop} {schema name : String}
  {names : List String} {rows : String → TableRows} {t : Session σ}

/-- In the sessions of a kind the catalog lists tables with different names without a
slash, and the fetches of each succeed with its rows. -/
structure ServesSchema (s : Service σ) (within : Session σ → Prop) (schema : String)
    (names : List String) (rows : String → TableRows) : Prop where
  steady : s.adapter.IsSteady within (some s.schema) schema
  distinct : names.Nodup
  slashless : ∀ name ∈ names, '/' ∉ name.toList
  listed : Gives within (s.adapter.tableNames schema) (· = names.map .text)
  tables : ∀ name ∈ names, s.adapter.Fetches within schema name (rows name) ∧ (rows name).IsKeyed

/-- The document and the routes agree on the row of a table, in a session: its path is
documented unless the table has no key, and each route goes by the column that the
document names. -/
structure AgreesOn (s : Service σ) (within : Session σ → Prop) (document : Value) (name : String)
    (t : Session σ) : Prop where
  documented_iff : (itemAt? document (rowPath s.basePath name)).isSome = true ↔
    ((s.primaryKey name).runIn t).1 ≠ .error (.api (.missingPrimaryKey name))
  goes_by : ∀ item, itemAt? document (rowPath s.basePath name) = some item →
    ∃ column, NamesKey item column ∧ ((s.primaryKey name).runIn t).1 = .ok column ∧
      ∀ (route : RowRoute) (key : String),
        (∃ t', within t' ∧
          (route.action s name key).runIn t = (route.byColumn s name column key).runIn t') ∧
        ∀ operand, ∃ st, route.statement s name column operand = .ok st ∧ st.Picks column operand

namespace ServesSchema

variable (h : s.ServesSchema within schema names rows)
include h

/-- The key that the routes are told is the first column of the key, or that there is
none. -/
theorem primaryKey_runIn (hname : name ∈ names) (ht : within t) :
    ((rows name).keyColumns = [] →
      ((s.primaryKey name).runIn t).1 = .error (.api (.missingPrimaryKey name))) ∧
    ∀ key rest, (rows name).keyColumns = key :: rest →
      ∃ t', within t' ∧ (s.primaryKey name).runIn t = (.ok key, t') := by
  obtain ⟨hfetches, hkeyed⟩ := h.tables name hname
  obtain ⟨keys, t', hrun, ht', rfl⟩ := hfetches.gives_primaryKeys h.steady hkeyed t ht
  rw [primaryKey, runIn_bind, hrun]
  refine ⟨fun hnone => ?_, fun key rest hkey => ?_⟩
  · rw [hnone]
    rfl
  · rw [hkey]
    exact ⟨t', ht', rfl⟩

theorem agreesOn {ts : List Table} (hts : Tabulates (Source.inNameOrder names) rows ts)
    (hname : name ∈ names) (ht : within t) :
    s.AgreesOn within (document ts s.adapter.dialect.name s.basePath) name t := by
  have hdistinct : (Source.inNameOrder names).Nodup :=
    (List.mergeSort_perm names _).nodup_iff.mpr h.distinct
  obtain ⟨hundocumented, hdocumented⟩ := itemAt?_rowPath hts hdistinct
    (fun name hname => h.slashless name (Source.mem_inNameOrder.mp hname))
    (Source.mem_inNameOrder.mpr hname) s.adapter.dialect.name s.basePath
  obtain ⟨hmissing, htold⟩ := h.primaryKey_runIn hname ht
  cases hkeys : (rows name).keyColumns with
  | nil =>
    have hnone := hundocumented hkeys
    refine ⟨?_, fun item hitem => ?_⟩
    · rw [hnone, hmissing hkeys]
      simp
    · rw [hnone] at hitem
      cases hitem
  | cons key rest =>
    obtain ⟨u, hitem⟩ := hdocumented key rest hkeys
    obtain ⟨t', ht', hrun⟩ := htold key rest hkeys
    refine ⟨?_, fun item hfound => ?_⟩
    · rw [hitem, hrun]
      simp
    · obtain rfl := Option.some.inj (hitem.symm.trans hfound)
      refine ⟨key, namesKey_rowItem u key, by rw [hrun], fun route operand => ⟨⟨t', ht', ?_⟩, ?_⟩⟩
      · rw [route.action_eq, runIn_bind, hrun]
      · exact fun operand => route.statement_picks s name key operand

end ServesSchema

/-- **The routes of a single row go by the column that is documented.**

The key of a table that is asked for alone is the key of the table, and none if the table
is not there, in whatever sessions the two are asked for. So in a schema that is served,
the interface is described, and in any session the document and the routes of a row agree
on each of the listed tables. -/
theorem rowRoutes_agree (s : Service σ) (within : Session σ → Prop) :
    (∀ asked schema name r, s.adapter.IsSteady within asked schema →
      s.adapter.Fetches within schema name r → r.IsKeyed → ∀ t t', within t → within t' →
        ∃ table, ((s.adapter.table? name asked).runIn t).1 = .ok table ∧
          ((s.adapter.primaryKeys name asked).runIn t').1 = .ok ((keyOf table).map .text)) ∧
    ∀ schema names rows, s.ServesSchema within schema names rows → ∀ t, within t →
      ∃ document, (s.openApi.runIn t).1 = .ok document ∧
        ∀ name ∈ names, ∀ t', within t' → s.AgreesOn within document name t' := by
  refine ⟨fun asked schema name r hsteady hfetches hkeyed t t' ht ht' => ?_,
    fun schema names rows h t ht => ?_⟩
  · obtain ⟨table, _, htable, -, hkey⟩ := hfetches.gives_table? hsteady hkeyed t ht
    obtain ⟨keys, _, hkeys, -, rfl⟩ := hfetches.gives_primaryKeys hsteady hkeyed t' ht'
    exact ⟨table, by rw [htable], by rw [hkeys, hkey]⟩
  · obtain ⟨ts, u, htables, -, hts⟩ := Adapter.gives_tables h.steady h.listed h.tables t ht
    refine ⟨document ts s.adapter.dialect.name s.basePath, ?_, fun name hname t' ht' =>
      h.agreesOn hts hname ht'⟩
    rw [openApi, runIn_bind, htables]
    rfl

section Theatre

/-- The question that a statement puts to a catalog. -/
def question? (sql : String) : Option CatalogQuery :=
  [CatalogQuery.tables, .columns, .primaryKeys, .foreignKeys, .indexes].find? fun q =>
    q.sql .postgres == sql

def integerRow (name : String) : Row :=
  [("column_name", .text name), ("data_type", .text "integer")]

/-- A column of a key, with its place. -/
def placeRow (name : String) (place : Int) : Row :=
  [("column_name", .text name), ("ordinal_position", .int place)]

/-- A table with a key of two columns, and one without a key. -/
def theatreRows (name : String) : TableRows :=
  if name = "seats" then
    ⟨[integerRow "seat", integerRow "hall"], [placeRow "seat" 2, placeRow "hall" 1], [], []⟩
  else ⟨[integerRow "line"], [], [], []⟩

/-- What the catalog answers; it may tell the rows of a key in reverse. -/
def theatreAnswer (inReverse : Bool) (q : CatalogQuery) (table : Value) : List Row :=
  let r := theatreRows table.asText
  match q with
  | .tables => [[("table_name", .text "seats")], [("table_name", .text "notes")]]
  | .columns => r.columns
  | .primaryKeys => if inReverse then r.primaryKeys.reverse else r.primaryKeys
  | .foreignKeys => r.foreignKeys
  | .indexes => r.indexes
  | _ => []

/-- The rows for a statement. -/
@[irreducible]
def theatreReply (sql : String) (inReverse : Bool) (params : List Value) : List Row :=
  ((question? sql).map fun q => theatreAnswer inReverse q (params.getLastD .null)).getD []

/-- The statement that was prepared last, and whether a key is told in reverse, which
changes with each answer. -/
abbrev Theatre := String × Bool

/-- A driver that only answers for its catalog. -/
def theatreDriver : Driver Theatre where
  openPool _ b := (.ok (), b)
  acquire b := (.ok (), b)
  ping _ b := (.ok (), b)
  prepare sql b := (.ok {}, (sql, b.2))
  fetch params b := (.ok { rows := theatreReply b.1 b.2 params }, (b.1, !b.2))
  control _ b := (.ok (), b)
  execute _ _ b := (.ok {}, b)

def theatre : Service Theatre :=
  ⟨⟨.postgres, theatreDriver, .ok false⟩, "public", 1, Int.zero_lt_one, "/api"⟩

/-- A pool is open, and nothing was configured. -/
def Theatre.IsOpen (t : Session Theatre) : Prop := t.pool.isSome = true ∧ t.settings = none

theorem question?_sql : ∀ q ∈ [CatalogQuery.tables, .columns, .primaryKeys, .foreignKeys, .indexes],
    question? (q.sql .postgres) = some q := by
  simp [question?, CatalogQuery.sql, Postgres.tables, Postgres.columns, Postgres.primaryKeys,
    Postgres.foreignKeys, Postgres.indexes]

theorem theatreReply_sql {q : CatalogQuery}
    (hq : q ∈ [CatalogQuery.tables, .columns, .primaryKeys, .foreignKeys, .indexes])
    (inReverse : Bool) (params : List Value) :
    theatreReply (q.sql .postgres) inReverse params =
      theatreAnswer inReverse q (params.getLastD .null) := by
  unfold theatreReply
  rw [question?_sql q hq]
  rfl

/-- The catalog of the theatre answers each question as long as a pool is open. -/
theorem theatre_ask {q : CatalogQuery}
    (hq : q ∈ [CatalogQuery.tables, .columns, .primaryKeys, .foreignKeys, .indexes])
    (params : List Value) {t : Session Theatre} (ht : Theatre.IsOpen t) :
    ∃ t', (theatre.adapter.ask q params).runIn t =
      (.ok (theatreAnswer t.backend.2 q (params.getLastD .null)), t') ∧ Theatre.IsOpen t' := by
  obtain ⟨⟨sql, inReverse⟩, pool, settings, log, spans, nextPool, c⟩ := t
  obtain ⟨hpool, rfl⟩ := ht
  obtain ⟨number, rfl⟩ := Option.isSome_iff_exists.mp hpool
  have hrows : ((theatre.adapter.ask q params).runIn
      ⟨(sql, inReverse), some number, none, log, spans, nextPool, c⟩).1 =
      .ok (theatreReply (q.sql .postgres) inReverse params) := by
    cases params <;> rfl
  rw [theatreReply_sql hq] at hrows
  refine ⟨_, Prod.ext hrows rfl, ?_⟩
  cases params <;> exact ⟨rfl, rfl⟩

theorem theatre_gives {q : CatalogQuery}
    (hq : q ∈ [CatalogQuery.tables, .columns, .primaryKeys, .foreignKeys, .indexes])
    (params : List Value) :
    Gives Theatre.IsOpen (theatre.adapter.ask q params) fun rows =>
      ∃ inReverse, rows = theatreAnswer inReverse q (params.getLastD .null) := by
  intro t ht
  obtain ⟨t', hrun, ht'⟩ := theatre_ask hq params ht
  exact ⟨_, t', hrun, ht', t.backend.2, rfl⟩

theorem theatre_fetches (name : String) :
    theatre.adapter.Fetches Theatre.IsOpen "public" name (theatreRows name) where
  columns := (theatre_gives (by decide) _).imp fun _ ⟨_, h⟩ => h
  primaryKeys := by
    refine (theatre_gives (by decide) _).imp fun rows ⟨inReverse, h⟩ => ?_
    cases inReverse with
    | false => exact .inl h
    | true =>
      refine .inr ⟨h ▸ List.reverse_perm _, ?_⟩
      unfold theatreRows
      split <;> decide
  foreignKeys := (theatre_gives (by decide) _).imp fun _ ⟨_, h⟩ => h
  indexes := (theatre_gives (by decide) _).imp fun _ ⟨_, h⟩ => h

theorem theatreRows_isKeyed (name : String) : (theatreRows name).IsKeyed := by
  have hcolumn : ∀ name, IsColumnRow (integerRow name) :=
    fun name => ⟨⟨name, rfl⟩, ⟨"integer", rfl⟩, .inl rfl, .inl rfl, .inl rfl, .inl rfl⟩
  have hkey : ∀ name place, IsKeyRow (placeRow name place) :=
    fun name place => ⟨⟨name, rfl⟩, .inr ⟨place, rfl⟩⟩
  unfold theatreRows
  split
  · refine ⟨⟨?_, ?_, List.forall_mem_nil _, List.forall_mem_nil _⟩, by decide⟩
    · exact List.forall_mem_cons.mpr ⟨hcolumn _, List.forall_mem_singleton.mpr (hcolumn _)⟩
    · exact List.forall_mem_cons.mpr ⟨hkey _ _, List.forall_mem_singleton.mpr (hkey _ _)⟩
  · exact ⟨⟨List.forall_mem_singleton.mpr (hcolumn _), List.forall_mem_nil _,
      List.forall_mem_nil _, List.forall_mem_nil _⟩, List.forall_mem_nil _⟩

theorem theatre_servesSchema :
    theatre.ServesSchema Theatre.IsOpen "public" ["seats", "notes"] theatreRows where
  steady := ⟨fun _ _ => rfl, fun _ _ ht => ht⟩
  distinct := by decide
  slashless := by decide
  listed := by
    refine (theatre_gives (by decide) _).bind ?_
    rintro _ ⟨inReverse, rfl⟩
    exact .ofExcept ⟨_, rfl, rfl⟩
  tables name _ := ⟨theatre_fetches name, theatreRows_isKeyed name⟩

/-- The seats of a theatre, whose key has two columns that are told out of order, and its
notes, which have no key. -/
theorem rowRoutes_agree_theatre :
    let start : Session Theatre := { backend := ("", false), pool := some 0 }
    theatre.ServesSchema Theatre.IsOpen "public" ["seats", "notes"] theatreRows ∧
      (theatreRows "seats").keyColumns = ["hall", "seat"] ∧
      (∃ table, ((theatre.adapter.table? "seats" none).runIn start).1 = .ok table ∧
        ((theatre.adapter.primaryKeys "seats" none).runIn start).1 =
          .ok ((keyOf table).map .text)) ∧
      ∃ document, (theatre.openApi.runIn start).1 = .ok document ∧
        ∀ name ∈ ["seats", "notes"], ∀ t', Theatre.IsOpen t' →
          theatre.AgreesOn Theatre.IsOpen document name t' := by
  intro start
  have hstart : Theatre.IsOpen start := ⟨rfl, rfl⟩
  have hsteady : theatre.adapter.IsSteady Theatre.IsOpen none "public" := by
    refine ⟨fun t ht => ?_, fun _ _ ht => ht⟩
    rw [ht.2]
    rfl
  have hkeys : (theatreRows "seats").keyColumns = ["hall", "seat"] := by
    have hordered : inOrder (theatreRows "seats").primaryKeys =
        [placeRow "hall" 1, placeRow "seat" 2] := inOrder_of_perm (.swap _ _ _) (by decide)
    rw [TableRows.keyColumns, hordered]
    rfl
  obtain ⟨hkey, hdocument⟩ := rowRoutes_agree theatre Theatre.IsOpen
  exact ⟨theatre_servesSchema, hkeys,
    hkey none "public" "seats" _ hsteady (theatre_fetches "seats") (theatreRows_isKeyed "seats")
      start start hstart hstart,
    hdocument "public" _ _ theatre_servesSchema start hstart⟩

end Theatre

end Service
end TableGate

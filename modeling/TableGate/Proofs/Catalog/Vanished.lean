/-
# Tables that vanish while they are described

A table may vanish after it was listed, and then any facet of it may fail with that.
Describing the tables gives the same as if those facets had been empty
(`Catalog.Source.tables_emptied`), any other failure is passed on as it is
(`Catalog.Source.Answers.tables_error`), and without one the tables are those of the
listed names that have columns, in the order of their names
(`Catalog.Source.Answers.tables_ok`).

The key of a table is made of the columns in the rows of its key that are columns of
the table, so it is never refused (`Catalog.make_present`).

Key definitions: `Fault.isVanished`, `Catalog.Source.emptied`,
`Catalog.Facets.failure?`, `Catalog.Facets.hasColumns`, `Catalog.Describes`,
`Catalog.Source.Answers`.
Key theorem: `Catalog.Source.tables_of_answers`.
-/
import TableGate.Catalog.Source
import TableGate.Proofs.Catalog.Folding

namespace TableGate

/-- The fault tells that what was asked for is not there. -/
def Fault.isVanished : Fault → Bool
  | .api (.query _ _ category) => category == some "undefined_object"
  | _ => false

namespace Catalog

/-! ### Facets that vanish -/

/-- The facet, empty where it failed because its table vanished. -/
def emptied : Except Fault (List Row) → Except Fault (List Row)
  | .ok rows => .ok rows
  | .error e => if e.isVanished then .ok [] else .error e

/-- How the facet failed, unless its table vanished. -/
def lasting? : Except Fault (List Row) → Option Fault
  | .ok _ => none
  | .error e => if e.isVanished then none else some e

/-- The rows of a facet; one that failed has none. -/
def rowsOf : Except Fault (List Row) → List Row
  | .ok rows => rows
  | .error _ => []

variable {facet : Except Fault (List Row)} {e : Fault}

theorem facetRows_vanished (h : e.isVanished = true) : facetRows (.error e) = .ok [] := by
  match e with
  | .api (.query _ _ category) =>
    have hcategory : category = some "undefined_object" := by simpa [Fault.isVanished] using h
    rw [facetRows, if_pos hcategory]

theorem facetRows_lasting (h : e.isVanished = false) : facetRows (.error e) = .error e := by
  unfold facetRows
  split
  · next message sql category heq =>
    obtain rfl := Except.error.inj heq
    have hcategory : category ≠ some "undefined_object" := by simpa [Fault.isVanished] using h
    rw [if_neg hcategory]
  · rfl

theorem facetRows_emptied (facet : Except Fault (List Row)) :
    facetRows (emptied facet) = facetRows facet := by
  cases facet with
  | ok rows => rfl
  | error e =>
    cases h : e.isVanished with
    | true =>
      rw [facetRows_vanished h, emptied, if_pos h]
      rfl
    | false => rw [emptied, if_neg (Bool.eq_false_iff.mp h)]

theorem facetRows_of_lasting (h : lasting? facet = some e) : facetRows facet = .error e := by
  cases facet with
  | ok rows => cases h
  | error e' =>
    cases hvanished : e'.isVanished with
    | true => simp [lasting?, hvanished] at h
    | false =>
      obtain rfl : e' = e := by simpa [lasting?, hvanished] using h
      exact facetRows_lasting hvanished

theorem facetRows_of_none (h : lasting? facet = none) : facetRows facet = .ok (rowsOf facet) := by
  cases facet with
  | ok rows => rfl
  | error e =>
    have hvanished : e.isVanished = true := by simpa [lasting?] using h
    exact facetRows_vanished hvanished

namespace Facets

/-- The facets, each empty where it failed because the table vanished. -/
def emptied (facets : Facets) : Facets where
  columns := Catalog.emptied facets.columns
  primaryKeys := Catalog.emptied facets.primaryKeys
  foreignKeys := Catalog.emptied facets.foreignKeys
  indexes := Catalog.emptied facets.indexes

/-- The first failure that does not come from the table having vanished. -/
def failure? (facets : Facets) : Option Fault :=
  [facets.columns, facets.primaryKeys, facets.foreignKeys, facets.indexes].findSome? lasting?

def hasColumns (facets : Facets) : Bool := !(rowsOf facets.columns).isEmpty

/-- The rows of each facet are typed. -/
structure IsTyped (facets : Facets) : Prop where
  columns : ∀ row ∈ rowsOf facets.columns, IsColumnRow row
  primaryKeys : ∀ row ∈ rowsOf facets.primaryKeys, IsKeyRow row
  foreignKeys : ∀ row ∈ rowsOf facets.foreignKeys, IsForeignKeyRow row
  indexes : ∀ row ∈ rowsOf facets.indexes, IsIndexRow row

end Facets

/-- The table has the columns of the facets, and for a key the columns in the rows of
the key, in the order of their ordinals, that are columns of the table. -/
structure Describes (schema : String) (facets : Facets) (t : Table) : Prop where
  schema : t.schema = schema
  columns : t.columns.map Column.name = (rowsOf facets.columns).map (textAt "column_name")
  primaryKeys : t.primaryKeys =
    ((inOrder (rowsOf facets.primaryKeys)).map (textAt "column_name")).filter fun key =>
      (t.columns.map Column.name).contains key

/-! ### A table -/

variable {schema name : String} {facets : Facets}

theorem table?_emptied (schema name : Value) (facets : Facets) :
    table? schema name facets.emptied = table? schema name facets := by
  unfold table? Facets.emptied
  simp only [facetRows_emptied]

/-- Without a lasting failure every facet has its rows. -/
theorem lasting?_of_failure? (h : facets.failure? = none) :
    lasting? facets.columns = none ∧ lasting? facets.primaryKeys = none ∧
      lasting? facets.foreignKeys = none ∧ lasting? facets.indexes = none := by
  have hall := List.findSome?_eq_none_iff.mp h
  exact ⟨hall _ (by simp), hall _ (by simp), hall _ (by simp), hall _ (by simp)⟩

/-- **The first lasting failure of a facet is passed on.** -/
theorem table?_error (schema name : Value) (h : facets.failure? = some e) :
    table? schema name facets = .error e := by
  rw [Facets.failure?] at h
  cases hcolumns : lasting? facets.columns with
  | some e' =>
    obtain rfl : e' = e := by simpa [hcolumns] using h
    rw [table?, facetRows_of_lasting hcolumns]
    rfl
  | none =>
    rw [table?, facetRows_of_none hcolumns]
    cases hkeys : lasting? facets.primaryKeys with
    | some e' =>
      obtain rfl : e' = e := by simpa [hcolumns, hkeys] using h
      rw [facetRows_of_lasting hkeys]
      rfl
    | none =>
      rw [facetRows_of_none hkeys]
      cases hforeign : lasting? facets.foreignKeys with
      | some e' =>
        obtain rfl : e' = e := by simpa [hcolumns, hkeys, hforeign] using h
        rw [facetRows_of_lasting hforeign]
        rfl
      | none =>
        have hindexes : lasting? facets.indexes = some e := by
          simpa [hcolumns, hkeys, hforeign] using h
        rw [facetRows_of_none hforeign, facetRows_of_lasting hindexes]
        rfl

theorem table?_none (schema name : Value) (h : facets.failure? = none)
    (hcolumns : facets.hasColumns = false) : table? schema name facets = .ok none := by
  obtain ⟨hcols, hkeys, hforeign, hindexes⟩ := lasting?_of_failure? h
  have hempty : (rowsOf facets.columns).isEmpty = true := by
    simpa [Facets.hasColumns] using hcolumns
  rw [table?, facetRows_of_none hcols, facetRows_of_none hkeys, facetRows_of_none hforeign,
    facetRows_of_none hindexes]
  change (if (rowsOf facets.columns).isEmpty then _ else _) = _
  rw [if_pos hempty]
  rfl

theorem make_present (schema name : String) (columns : List Column) (keys : List String)
    (foreignKeys : List ForeignKey) (indexes : List Index) :
    ∃ t, Table.make schema name columns
        (keys.filter fun key => (columns.map Column.name).contains key) foreignKeys indexes =
        .fits t ∧
      t.schema = schema ∧ t.name = name ∧ t.columns = columns ∧
      t.primaryKeys = keys.filter fun key => (columns.map Column.name).contains key := by
  have hkeyed : ∀ key ∈ keys.filter fun key => (columns.map Column.name).contains key,
      key ∈ columns.map Column.name := by
    intro key hkey
    exact List.contains_iff_mem.mp (List.mem_filter.mp hkey).2
  exact ⟨_, dif_pos hkeyed, rfl, rfl, rfl, rfl⟩

theorem checked_fits {make : String → String → List String → Checked Table} {keys : List String}
    {t : Table} (h : make schema name keys = .fits t) :
    Checked.thenCheck
      (make <$> Reader.required [("schema", .text schema)] "schema" Reader.text <*>
        Reader.required [("name", .text name)] "name" Reader.text <*>
        Reader.required [("primary_keys", .list (keys.map .text))] "primary_keys"
          (Reader.list Reader.text)) id = .fits t := by
  refine (Checked.thenCheck_id ?_).trans h
  refine Checked.fits_seq ?_ (Reader.fits_required rfl (Reader.fits_texts keys))
  refine Checked.fits_seq ?_ (Reader.fits_required rfl rfl)
  exact Checked.fits_map make (Reader.fits_required rfl rfl)

/-- **A table is made of typed facets with columns**: nothing in them is refused. -/
theorem table?_some (schema name : String) (htyped : facets.IsTyped) (h : facets.failure? = none)
    (hcolumns : facets.hasColumns = true) :
    ∃ t, table? (.text schema) (.text name) facets = .ok (some t) ∧ t.name = name ∧
      Describes schema facets t := by
  obtain ⟨hcols, hkeys, hforeign, hindexes⟩ := lasting?_of_failure? h
  have hfull : ¬(rowsOf facets.columns).isEmpty = true := by
    simpa [Facets.hasColumns] using hcolumns
  obtain ⟨columns, hmade, hnames⟩ :=
    Results.exists_mapM fun row hrow => column_typed (htyped.columns row hrow)
  have hnamed : List.Forall₂ (· = ·) (columns.map Column.name)
      ((rowsOf facets.columns).map (textAt "column_name")) :=
    List.forall₂_map_left_iff.mpr (List.forall₂_map_right_iff.mpr hnames.flip)
  rw [List.forall₂_eq_eq_eq] at hnamed
  obtain ⟨ks, hks⟩ := foreignKeys_typed htyped.foreignKeys
  obtain ⟨is, his⟩ := indexes_typed htyped.indexes
  obtain ⟨t, hmake, hschema, hname, hcolumns, hprimary⟩ := make_present schema name columns
    ((inOrder (rowsOf facets.primaryKeys)).map (textAt "column_name")) ks is
  refine ⟨t, ?_, hname, hschema, ?_, ?_⟩
  · rw [table?, facetRows_of_none hcols, facetRows_of_none hkeys, facetRows_of_none hforeign,
      facetRows_of_none hindexes]
    change (if (rowsOf facets.columns).isEmpty then _ else _) = _
    rw [if_neg hfull, hmade, primaryKeys_typed htyped.primaryKeys]
    change (presentKeys _ _ >>= _) = _
    rw [presentKeys_texts, hks, his]
    exact congrArg (fun checked : Checked Table => some <$> checked.toExcept) (checked_fits hmake)
  · rw [hcolumns, hnamed]
  · rw [hcolumns, hprimary]

/-! ### All tables -/

namespace Source

/-- The source, with each facet empty that failed because its table vanished. -/
def emptied {m : Type → Type} [Monad m] (source : Source m) : Source m where
  names := source.names
  facets name schema := Facets.emptied <$> source.facets name schema

section Emptied

variable {m : Type → Type} [Monad m] [LawfulMonad m] [MonadExceptOf Fault m] (source : Source m)

theorem table?_emptied (name : Value) (schema : String) :
    source.emptied.table? name schema = source.table? name schema := by
  rw [table?, table?, emptied, bind_map_left]
  simp only [Catalog.table?_emptied]

theorem tablesNamed_emptied (schema : String) (names : List Value) :
    source.emptied.tablesNamed schema names = source.tablesNamed schema names := by
  induction names with
  | nil => rfl
  | cons name names ih => rw [tablesNamed, tablesNamed, table?_emptied, ih]

/-- **The tables of a schema are the same as if the facets that vanished had been
empty**, in whatever monad the source answers. -/
theorem tables_emptied (schema : String) :
    source.emptied.tables schema = source.tables schema := by
  rw [tables, tables]
  simp only [tablesNamed_emptied]
  rfl

end Emptied

/-- The source lists the names, and fetches for each of them its facets, whose rows are
typed; any of the facets may have failed. -/
structure Answers (source : Source (Except Fault)) (schema : String) (names : List String)
    (facets : String → Facets) : Prop where
  listed : source.names schema = .ok (names.map .text)
  fetched : ∀ name ∈ names, source.facets (.text name) schema = .ok (facets name)
  typed : ∀ name ∈ names, (facets name).IsTyped

def inNameOrder (names : List String) : List String :=
  names.mergeSort fun a b => decide (a ≤ b)

variable {source : Source (Except Fault)} {schema name : String} {names : List String}
  {facets : String → Facets}

theorem sortBy?_names (names : List String) :
    Value.sortBy? id (names.map .text) = .ok ((inNameOrder names).map .text) := by
  have htexts : ∀ v ∈ names.map Value.text, ∃ s, id v = .text s :=
    List.forall_mem_map.mpr fun s _ => ⟨s, rfl⟩
  have hsorted : (inNameOrder names).map Value.text =
      (names.map Value.text).mergeSort fun a b => decide ((id a).asText ≤ (id b).asText) :=
    List.map_mergeSort fun _ _ _ _ => rfl
  rw [Value.sortBy?_texts htexts, hsorted]

theorem ofExcept_eq {α : Type} (x : Except Fault α) : (ofExcept x : Except Fault α) = x := by
  cases x <;> rfl

theorem table?_eq {f : Facets} (h : source.facets (.text name) schema = .ok f) :
    source.table? (.text name) schema = Catalog.table? (.text schema) (.text name) f := by
  rw [table?, h]
  exact ofExcept_eq _

/-- A listed table without a lasting failure is there if it has columns. -/
theorem table?_ok (hfetched : source.facets (.text name) schema = .ok (facets name))
    (htyped : (facets name).IsTyped) (h : (facets name).failure? = none) :
    ∃ table, source.table? (.text name) schema = .ok table ∧
      table.toList.map Table.name = [name].filter (fun n => (facets n).hasColumns) ∧
      ∀ t ∈ table.toList, Describes schema (facets t.name) t := by
  rw [table?_eq hfetched]
  cases hcolumns : (facets name).hasColumns with
  | true =>
    obtain ⟨t, hmade, rfl, ht⟩ := table?_some schema name htyped h hcolumns
    refine ⟨some t, hmade, ?_, ?_⟩
    · rw [List.filter_singleton, hcolumns]
      rfl
    · exact List.forall_mem_singleton.mpr ht
  | false =>
    refine ⟨none, table?_none _ _ h hcolumns, ?_, List.forall_mem_nil _⟩
    rw [List.filter_singleton, hcolumns]
    rfl

/-- **Without a lasting failure, the tables are those of the names with columns**, as
they come. -/
theorem tablesNamed_ok
    (hfetched : ∀ name ∈ names, source.facets (.text name) schema = .ok (facets name))
    (htyped : ∀ name ∈ names, (facets name).IsTyped)
    (h : ∀ name ∈ names, (facets name).failure? = none) :
    ∃ ts, source.tablesNamed schema (names.map .text) = .ok ts ∧
      ts.map Table.name = names.filter (fun n => (facets n).hasColumns) ∧
      ∀ t ∈ ts, Describes schema (facets t.name) t := by
  induction names with
  | nil => exact ⟨[], rfl, rfl, List.forall_mem_nil _⟩
  | cons name names ih =>
    rw [List.forall_mem_cons] at hfetched htyped h
    obtain ⟨table, htable, hname, hdescribed⟩ := table?_ok hfetched.1 htyped.1 h.1
    obtain ⟨ts, hts, hnames, hall⟩ := ih hfetched.2 htyped.2 h.2
    refine ⟨table.toList ++ ts, ?_, ?_, List.forall_mem_append.mpr ⟨hdescribed, hall⟩⟩
    · rw [List.map_cons, tablesNamed, htable, hts]
      rfl
    · rw [List.map_append, hname, hnames, ← List.filter_append, List.singleton_append]

/-- **The first lasting failure among the names is passed on.** -/
theorem tablesNamed_error
    (hfetched : ∀ name ∈ names, source.facets (.text name) schema = .ok (facets name))
    (htyped : ∀ name ∈ names, (facets name).IsTyped)
    (h : (names.findSome? fun name => (facets name).failure?) = some e) :
    source.tablesNamed schema (names.map .text) = .error e := by
  induction names with
  | nil => cases h
  | cons name names ih =>
    rw [List.forall_mem_cons] at hfetched htyped
    rw [List.map_cons, tablesNamed]
    cases hname : (facets name).failure? with
    | some e' =>
      obtain rfl : e' = e := by simpa [hname] using h
      rw [table?_eq hfetched.1, table?_error _ _ hname]
      rfl
    | none =>
      have hrest : (names.findSome? fun name => (facets name).failure?) = some e := by
        simpa [hname] using h
      obtain ⟨table, htable, -⟩ := table?_ok hfetched.1 htyped.1 hname
      rw [htable, ih hfetched.2 htyped.2 hrest]
      rfl

theorem mem_inNameOrder : name ∈ inNameOrder names ↔ name ∈ names := List.mem_mergeSort

theorem pairwise_inNameOrder (names : List String) : (inNameOrder names).Pairwise (· ≤ ·) :=
  List.pairwise_mergeSort' (· ≤ ·) names

namespace Answers

theorem tables_eq (h : source.Answers schema names facets) :
    source.tables schema = source.tablesNamed schema ((inNameOrder names).map .text) := by
  rw [tables, h.listed]
  change (do source.tablesNamed schema (← ofExcept (Value.sortBy? id (names.map .text)))) = _
  rw [ofExcept_eq, sortBy?_names]
  rfl

theorem tables_error (h : source.Answers schema names facets)
    (he : ((inNameOrder names).findSome? fun name => (facets name).failure?) = some e) :
    source.tables schema = .error e := by
  rw [h.tables_eq]
  exact tablesNamed_error (fun name hname => h.fetched name (mem_inNameOrder.mp hname))
    (fun name hname => h.typed name (mem_inNameOrder.mp hname)) he

/-- Without a lasting failure, the tables are those of the names that have columns. -/
theorem tables_ok (h : source.Answers schema names facets)
    (hnone : ∀ name ∈ names, (facets name).failure? = none) :
    ∃ ts, source.tables schema = .ok ts ∧
      ts.map Table.name = (inNameOrder names).filter (fun n => (facets n).hasColumns) ∧
      ∀ t ∈ ts, Describes schema (facets t.name) t := by
  rw [h.tables_eq]
  exact tablesNamed_ok (fun name hname => h.fetched name (mem_inNameOrder.mp hname))
    (fun name hname => h.typed name (mem_inNameOrder.mp hname))
    fun name hname => hnone name (mem_inNameOrder.mp hname)

end Answers

/-- **Tables that vanish while they are described are left out, and nothing else is.** The
tables are the same as if the facets that vanished had been empty; the first other
failure is passed on as it is, and nothing else is ever one; without one, the tables come
in the order of their names, they are those of the listed names that have columns, and
each is as its facets say. -/
theorem tables_of_answers (h : source.Answers schema names facets) :
    source.emptied.tables schema = source.tables schema ∧
      (∀ e, ((inNameOrder names).findSome? fun name => (facets name).failure?) = some e →
        source.tables schema = .error e) ∧
      (∀ e, source.tables schema = .error e → ∃ name ∈ names, (facets name).failure? = some e) ∧
      ((∀ name ∈ names, (facets name).failure? = none) →
        ∃ ts, source.tables schema = .ok ts ∧ (ts.map Table.name).Pairwise (· ≤ ·) ∧
          (ts.map Table.name).Perm (names.filter fun name => (facets name).hasColumns) ∧
          ∀ t ∈ ts, Describes schema (facets t.name) t) := by
  refine ⟨tables_emptied source schema, fun e he => h.tables_error he, fun e he => ?_,
    fun hnone => ?_⟩
  · cases hfind : (inNameOrder names).findSome? fun name => (facets name).failure? with
    | some e' =>
      obtain rfl : e' = e := Except.error.inj ((h.tables_error hfind).symm.trans he)
      obtain ⟨name, hname, hfailure⟩ := List.exists_of_findSome?_eq_some hfind
      exact ⟨name, mem_inNameOrder.mp hname, hfailure⟩
    | none =>
      have hnone := List.findSome?_eq_none_iff.mp hfind
      obtain ⟨ts, hts, -⟩ := h.tables_ok fun name hname => hnone name (mem_inNameOrder.mpr hname)
      cases hts.symm.trans he
  · obtain ⟨ts, hts, hnames, hdescribed⟩ := h.tables_ok hnone
    refine ⟨ts, hts, ?_, ?_, hdescribed⟩
    · rw [hnames]
      exact (pairwise_inNameOrder names).filter _
    · rw [hnames]
      exact (List.mergeSort_perm names _).filter _

/-! ### A table that vanished, and one that lost a column -/

def missingRelation : Fault :=
  .api (.query "relation does not exist" none (some "undefined_object"))

def keyRow (name : String) (ordinal : Int) : Row :=
  [("column_name", .text name), ("ordinal_position", .int ordinal)]

/-- Each facet of a table that vanished. -/
def ghostFacets : Facets :=
  ⟨.error missingRelation, .error missingRelation, .error missingRelation, .error missingRelation⟩

/-- A table that lost a column of its key, and vanished before its foreign keys were
fetched. -/
def orderFacets : Facets :=
  ⟨.ok [[("column_name", .text "id"), ("data_type", .text "integer")]],
    .ok [keyRow "id" 2, keyRow "dropped" 1], .error missingRelation, .ok []⟩

/-- The facets of the tables of a shop. -/
def shopFacets (name : String) : Facets := if name = "ghost" then ghostFacets else orderFacets

def shop : Source (Except Fault) where
  names _ := .ok (["orders", "ghost", "invoices"].map .text)
  facets name _ := .ok (shopFacets name.asText)

theorem ghostFacets_typed : ghostFacets.IsTyped :=
  ⟨List.forall_mem_nil _, List.forall_mem_nil _, List.forall_mem_nil _, List.forall_mem_nil _⟩

theorem keyRow_typed (name : String) (ordinal : Int) : IsKeyRow (keyRow name ordinal) :=
  ⟨⟨name, rfl⟩, .inr ⟨ordinal, rfl⟩⟩

theorem orderFacets_typed : orderFacets.IsTyped where
  columns := List.forall_mem_singleton.mpr
    ⟨⟨"id", rfl⟩, ⟨"integer", rfl⟩, .inl rfl, .inl rfl, .inl rfl, .inl rfl⟩
  primaryKeys := List.forall_mem_cons.mpr
    ⟨keyRow_typed "id" 2, List.forall_mem_singleton.mpr (keyRow_typed "dropped" 1)⟩
  foreignKeys := List.forall_mem_nil _
  indexes := List.forall_mem_nil _

theorem shop_answers : shop.Answers "public" ["orders", "ghost", "invoices"] shopFacets where
  listed := rfl
  fetched _ _ := rfl
  typed name _ := by
    rw [shopFacets]
    split
    · exact ghostFacets_typed
    · exact orderFacets_typed

/-- Of a shop the orders and the invoices are described, and its ghost is left out. -/
theorem tables_of_answers_shop :
    shop.Answers "public" ["orders", "ghost", "invoices"] shopFacets ∧
      shop.emptied.tables "public" = shop.tables "public" ∧
      ∃ ts, shop.tables "public" = .ok ts ∧ (ts.map Table.name).Pairwise (· ≤ ·) ∧
        (ts.map Table.name).Perm ["orders", "invoices"] := by
  obtain ⟨hemptied, -, -, hok⟩ := tables_of_answers shop_answers
  have hnone : ∀ name ∈ ["orders", "ghost", "invoices"], (shopFacets name).failure? = none := by
    intro name _
    rw [shopFacets]
    split <;> rfl
  obtain ⟨ts, hts, hsorted, hperm, -⟩ := hok hnone
  exact ⟨shop_answers, hemptied, ts, hts, hsorted, hperm⟩

end Source
end Catalog
end TableGate

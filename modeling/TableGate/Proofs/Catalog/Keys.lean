/-
# The key of a table, asked for alone and with the table

The primary key of a table can be asked for alone, and it is part of the table when that
is described as a whole. Only the second passes over columns that the table does not
have, so the two agree where the rows of the key name columns of the table
(`Catalog.TableRows.IsKeyed`): then the key of the table is the key, and a table that is
not there has none (`Catalog.TableRows.IsKeyed.table?_eq`).

The rows of a key may be fetched in another order each time, as long as their ordinals
tell the order of its columns (`Catalog.Rearranged`).

Key definitions: `Catalog.TableRows`, `Catalog.TableRows.keyColumns`,
`Catalog.TableRows.IsKeyed`, `Catalog.Rearranged`, `Catalog.keyOf`.
Key theorems: `Catalog.TableRows.IsKeyed.primaryKeys_eq`,
`Catalog.TableRows.IsKeyed.table?_eq`.
-/
import TableGate.Proofs.Catalog.Vanished

namespace TableGate
namespace Catalog

/-- The rows are fetched as they are, or in any order if their ordinals are different. -/
def Rearranged (rows fetched : List Row) : Prop :=
  fetched = rows ∨ (fetched.Perm rows ∧ (rows.map ordinalAt).Nodup)

namespace Rearranged

variable {rows fetched : List Row}

theorem perm (h : Rearranged rows fetched) : fetched.Perm rows := by
  rcases h with rfl | ⟨hperm, -⟩
  · exact .refl _
  · exact hperm

theorem inOrder_eq (h : Rearranged rows fetched) : inOrder fetched = inOrder rows := by
  rcases h with rfl | ⟨hperm, hdistinct⟩
  · rfl
  · exact inOrder_perm hperm hdistinct

end Rearranged

/-- The rows of the four facets of a table. -/
structure TableRows where
  columns : List Row
  primaryKeys : List Row
  foreignKeys : List Row
  indexes : List Row

def keyOf (table : Option Table) : List String := (table.map Table.primaryKeys).getD []

namespace TableRows

/-- The facets as they are fetched, with the given rows of the key. -/
def facets (r : TableRows) (keyRows : List Row) : Facets :=
  ⟨.ok r.columns, .ok keyRows, .ok r.foreignKeys, .ok r.indexes⟩

/-- The columns of the key, in the order of their ordinals. -/
def keyColumns (r : TableRows) : List String := (inOrder r.primaryKeys).map (textAt "column_name")

/-- The rows are typed, and every row of the key names a column of the table. -/
structure IsKeyed (r : TableRows) : Prop where
  typed : (r.facets r.primaryKeys).IsTyped
  present : ∀ row ∈ r.primaryKeys,
    textAt "column_name" row ∈ r.columns.map (textAt "column_name")

variable {r : TableRows} {keyRows : List Row}

/-- **The key that is asked for alone.** -/
theorem IsKeyed.primaryKeys_eq (h : r.IsKeyed) (hrows : Rearranged r.primaryKeys keyRows) :
    Catalog.primaryKeys keyRows = .ok (r.keyColumns.map .text) := by
  have htyped : ∀ row ∈ keyRows, IsKeyRow row :=
    fun row hrow => h.typed.primaryKeys row (hrows.perm.subset hrow)
  rw [primaryKeys_typed htyped, hrows.inOrder_eq, keyColumns]

/-- **The key of the table is the key that is asked for alone**, and a table that is not
there has none. -/
theorem IsKeyed.table?_eq (h : r.IsKeyed) (hrows : Rearranged r.primaryKeys keyRows)
    (schema name : String) :
    ∃ table, table? (.text schema) (.text name) (r.facets keyRows) = .ok table ∧
      keyOf table = r.keyColumns ∧ ∀ t ∈ table, t.name = name := by
  have hnone : (r.facets keyRows).failure? = none := rfl
  have hpresent : ∀ key ∈ r.keyColumns, key ∈ r.columns.map (textAt "column_name") := by
    intro key hkey
    obtain ⟨row, hrow, rfl⟩ := List.mem_map.mp hkey
    exact h.present row (mem_inOrder.mp hrow)
  cases hcolumns : (r.facets keyRows).hasColumns with
  | false =>
    have hempty : r.columns = [] := by simpa [Facets.hasColumns, facets, rowsOf] using hcolumns
    have hkeys : r.keyColumns = [] := by
      rw [hempty] at hpresent
      exact List.eq_nil_iff_forall_not_mem.mpr fun key hkey => List.not_mem_nil (hpresent key hkey)
    exact ⟨none, table?_none _ _ hnone hcolumns, hkeys.symm, fun t ht => by cases ht⟩
  | true =>
    have htyped : (r.facets keyRows).IsTyped :=
      ⟨h.typed.columns, fun row hrow => h.typed.primaryKeys row (hrows.perm.subset hrow),
        h.typed.foreignKeys, h.typed.indexes⟩
    obtain ⟨t, hmade, hname, hdescribes⟩ := table?_some schema name htyped hnone hcolumns
    refine ⟨some t, hmade, ?_, fun u hu => ?_⟩
    · have hall : ∀ key ∈ r.keyColumns, (t.columns.map Column.name).contains key = true := by
        intro key hkey
        rw [List.contains_iff_mem, hdescribes.columns]
        exact hpresent key hkey
      change t.primaryKeys = r.keyColumns
      rw [hdescribes.primaryKeys]
      change List.filter _ ((inOrder keyRows).map (textAt "column_name")) = _
      rw [hrows.inOrder_eq]
      exact List.filter_eq_self.mpr hall
    · obtain rfl := Option.some.inj hu
      exact hname

end TableRows
end Catalog
end TableGate

/-
# Rows of a catalog that are folded

Rows are typed if they hold texts, integers and nulls where those are read
(`Catalog.IsColumnRow`, `Catalog.IsKeyRow`, `Catalog.IsForeignKeyRow`,
`Catalog.IsIndexRow`). Of typed rows every fold succeeds: columns are made one by
one, rows of a key are put in the order of their ordinals, and foreign keys and
indexes are made of the groups that their names make. A foreign key always has as
many columns on either side.

Key definitions: `Value.asText`, `Catalog.HasText`, `Catalog.MayHave`,
`Catalog.textAt`, `Catalog.ordinalAt`, `Catalog.inOrder`, `Catalog.IsGroup`.
Key theorems: `Value.sortBy?_texts`, `Catalog.inOrdinalOrder_typed`,
`Catalog.column_typed`, `Catalog.primaryKeys_typed`, `Catalog.foreignKeys_typed`,
`Catalog.indexes_typed`.
-/
import Mathlib.Data.List.Sort
import Mathlib.Data.String.Basic
import TableGate.Catalog.Rows
import TableGate.Proofs.Except
import TableGate.Proofs.Mapping

namespace TableGate

/-! ### Texts in order -/

namespace Value

theorem compare?_text (s t : String) :
    ((Value.text s).compare? (.text t) != some .gt) = decide (s ≤ t) := by
  have hle : compare s t ≠ .gt ↔ s ≤ t := compare_le_iff_le
  have hcompare : (Value.text s).compare? (.text t) = some (compare s t) := by
    rw [compare?]
  rw [hcompare, Bool.eq_iff_iff, decide_eq_true_iff, ← hle]
  simp

def asText : Value → String
  | .text s => s
  | _ => ""

theorem eq_text_asText {v : Value} (h : ∃ s, v = .text s) : v = .text v.asText := by
  obtain ⟨s, rfl⟩ := h
  rfl

variable {α : Type} {key : α → Value} {items : List α}

theorem areOrdered_texts (h : ∀ a ∈ items, ∃ s, key a = .text s) :
    areOrdered (items.map key) = true := by
  match items with
  | [] => rfl
  | [_] => rfl
  | a :: b :: rest =>
    have hrest : ∀ v ∈ (b :: rest).map key, (key a).compare? v ≠ none := by
      refine List.forall_mem_map.mpr fun c hc => ?_
      obtain ⟨s, hs⟩ := h a List.mem_cons_self
      obtain ⟨t, ht⟩ := h c (List.mem_cons_of_mem _ hc)
      rw [hs, ht, compare?]
      exact Option.some_ne_none _
    exact List.all_eq_true.mpr fun v hv => Option.isSome_iff_ne_none.mpr (hrest v hv)

/-- **Items whose keys are texts are put in the order of these.** -/
theorem sortBy?_texts (h : ∀ a ∈ items, ∃ s, key a = .text s) :
    sortBy? key items =
      .ok (items.mergeSort fun a b => decide ((key a).asText ≤ (key b).asText)) := by
  have hsame : (items.mergeSort fun a b => (key a).compare? (key b) != some .gt).map id =
      (items.map id).mergeSort fun a b => decide ((key a).asText ≤ (key b).asText) := by
    refine List.map_mergeSort fun a ha b hb => ?_
    rw [eq_text_asText (h a ha), eq_text_asText (h b hb)]
    exact compare?_text _ _
  rw [sortBy?, if_pos (areOrdered_texts h)]
  exact congrArg Except.ok (by simpa using hsame)

end Value

namespace Catalog

/-! ### Typed rows -/

/-- The row has a text under the key. -/
def HasText (row : Row) (key : String) : Prop := ∃ s, Value.lookup? row key = some (.text s)

/-- The row has nothing under the key, or a value of one kind. -/
def MayHave {α : Type} (kind : α → Value) (row : Row) (key : String) : Prop :=
  Value.lookup row key = .null ∨ ∃ a, Value.lookup row key = kind a

/-- The text under a key. -/
def textAt (key : String) (row : Row) : String := (Value.lookup row key).asText

/-- The ordinal of a row; without one, zero. -/
def ordinalAt (row : Row) : Int :=
  match Value.lookup row "ordinal_position" with
  | .int n => n
  | _ => 0

/-- The rows in the order of their ordinals. -/
def inOrder (rows : List Row) : List Row :=
  rows.mergeSort fun a b => decide (ordinalAt a ≤ ordinalAt b)

/-- A row that tells of a column. -/
structure IsColumnRow (row : Row) : Prop where
  name : HasText row "column_name"
  dataType : HasText row "data_type"
  default : MayHave .text row "column_default"
  maxLength : MayHave .int row "character_maximum_length"
  precision : MayHave .int row "numeric_precision"
  scale : MayHave .int row "numeric_scale"

/-- A row that tells of a column of a key. -/
structure IsKeyRow (row : Row) : Prop where
  name : HasText row "column_name"
  ordinal : MayHave .int row "ordinal_position"

/-- A row that tells of a column of a foreign key. -/
structure IsForeignKeyRow (row : Row) : Prop extends IsKeyRow row where
  constraint : HasText row "constraint_name"
  table : HasText row "foreign_table_name"
  schema : MayHave .text row "foreign_table_schema"
  referenced : HasText row "foreign_column_name"

/-- A row that tells of a column of an index. -/
structure IsIndexRow (row : Row) : Prop extends IsKeyRow row where
  index : HasText row "index_name"

variable {row : Row} {rows : List Row} {key : String}

theorem HasText.lookup?_eq (h : HasText row key) :
    Value.lookup? row key = some (.text (textAt key row)) := by
  obtain ⟨s, hs⟩ := h
  have hlookup : Value.lookup row key = .text s := by rw [Value.lookup, hs, Option.getD_some]
  rw [hs, textAt, hlookup, Value.asText]

theorem cell_typed (h : HasText row key) : cell row key = .ok (.text (textAt key row)) := by
  rw [cell, h.lookup?_eq]

theorem mapM_cell_typed (h : ∀ row ∈ rows, HasText row key) :
    (rows.mapM fun row => cell row key) = .ok ((rows.map (textAt key)).map .text) := by
  rw [List.map_map]
  exact Results.mapM_of_forall fun row hrow => cell_typed (h row hrow)

theorem ordinal_typed (h : MayHave .int row "ordinal_position") :
    ordinal row = .ok (ordinalAt row) := by
  rcases h with h | ⟨n, h⟩
  · rw [ordinal, ordinalAt, h]
    rfl
  · rw [ordinal, ordinalAt, h]
    rfl

theorem mem_inOrder : row ∈ inOrder rows ↔ row ∈ rows := List.mem_mergeSort

theorem perm_inOrder (rows : List Row) : (inOrder rows).Perm rows := List.mergeSort_perm _ _

theorem pairwise_inOrder (rows : List Row) :
    (inOrder rows).Pairwise fun a b => ordinalAt a ≤ ordinalAt b :=
  List.pairwise_mergeSort' (Order.Preimage ordinalAt (· ≤ ·)) rows

/-- **Rows have one order only if their ordinals are different**, whatever the order in
which they came. -/
theorem inOrder_of_perm {ordered : List Row} (hperm : rows.Perm ordered)
    (hordered : (ordered.map ordinalAt).Pairwise (· < ·)) : inOrder rows = ordered := by
  have hsame : (inOrder rows).Perm ordered := (perm_inOrder rows).trans hperm
  have hdistinct : (ordered.map ordinalAt).Nodup := hordered.imp Int.ne_of_lt
  refine List.Perm.eq_of_pairwise (fun a b ha hb hab hba => ?_) (pairwise_inOrder rows)
    ((List.pairwise_map.mp hordered).imp Int.le_of_lt) hsame
  exact List.inj_on_of_nodup_map hdistinct (hsame.subset ha) hb (Int.le_antisymm hab hba)

theorem inOrder_perm {rows' : List Row} (hperm : rows'.Perm rows)
    (hdistinct : (rows.map ordinalAt).Nodup) : inOrder rows' = inOrder rows := by
  have hnodup : ((inOrder rows).map ordinalAt).Nodup :=
    ((perm_inOrder rows).map ordinalAt).nodup_iff.mpr hdistinct
  have hordered : ((inOrder rows).map ordinalAt).Pairwise (· < ·) := by
    have hboth := (List.pairwise_map.mpr (pairwise_inOrder rows)).and hnodup
    exact hboth.imp fun h => lt_of_le_of_ne h.1 h.2
  exact inOrder_of_perm (hperm.trans (perm_inOrder rows).symm) hordered

/-- **Typed rows are put in the order of their ordinals.** -/
theorem inOrdinalOrder_typed (h : ∀ row ∈ rows, IsKeyRow row) :
    inOrdinalOrder rows = .ok (inOrder rows) := by
  have hkeyed : (rows.mapM fun row => do pure (← ordinal row, row)) =
      Except.ok (rows.map fun row => (ordinalAt row, row)) := by
    refine Results.mapM_of_forall fun row hrow => ?_
    rw [ordinal_typed (h row hrow).ordinal]
    rfl
  have hsorted : (rows.map fun row => (ordinalAt row, row)).mergeSort
      (fun a b => decide (a.1 ≤ b.1)) = (inOrder rows).map fun row => (ordinalAt row, row) := by
    refine (List.map_mergeSort ?_).symm
    exact fun a _ b _ => rfl
  rw [inOrdinalOrder, hkeyed]
  change Except.ok _ = _
  rw [hsorted, List.map_map]
  exact congrArg Except.ok (List.map_id'' (fun _ => rfl) _)

/-! ### Columns and keys -/

theorem optionalInt_typed (h : MayHave .int row key) :
    ∃ v, optionalInt (Value.lookup row key) = .ok v ∧ ∃ n, Reader.orNull Reader.int v = .fits n := by
  rcases h with h | ⟨n, h⟩
  · rw [h]
    exact ⟨.null, rfl, none, rfl⟩
  · rw [h]
    exact ⟨.int n, rfl, some n, rfl⟩

theorem optionalText_typed (h : MayHave .text row key) :
    ∃ d, Reader.orNull Reader.text (Value.lookup row key) = .fits d := by
  rcases h with h | ⟨s, h⟩
  · rw [h]
    exact ⟨none, rfl⟩
  · rw [h]
    exact ⟨some s, rfl⟩

/-- **A column is made of a typed row**, with its name. -/
theorem column_typed (h : IsColumnRow row) :
    ∃ c, column row = .ok c ∧ c.name = textAt "column_name" row := by
  obtain ⟨maxLength, hmaxLength, m, hm⟩ := optionalInt_typed h.maxLength
  obtain ⟨precision, hprecision, p, hp⟩ := optionalInt_typed h.precision
  obtain ⟨scale, hscale, k, hk⟩ := optionalInt_typed h.scale
  obtain ⟨d, hd⟩ := optionalText_typed h.default
  have hread : ∀ nullable identity, Column.read
      [("name", .text (textAt "column_name" row)), ("data_type", .text (textAt "data_type" row)),
        ("nullable", .bool nullable), ("default_value", Value.lookup row "column_default"),
        ("is_identity", .bool identity), ("max_length", maxLength), ("precision", precision),
        ("scale", scale)] =
      .fits ⟨textAt "column_name" row, textAt "data_type" row, nullable, d, identity, m, p, k⟩ := by
    intro nullable identity
    unfold Column.read
    refine Checked.fits_seq ?_ (Reader.fits_defaulted none rfl hk)
    refine Checked.fits_seq ?_ (Reader.fits_defaulted none rfl hp)
    refine Checked.fits_seq ?_ (Reader.fits_defaulted none rfl hm)
    refine Checked.fits_seq ?_ (Reader.fits_defaulted false rfl rfl)
    refine Checked.fits_seq ?_ (Reader.fits_defaulted none rfl hd)
    refine Checked.fits_seq ?_ (Reader.fits_defaulted true rfl rfl)
    refine Checked.fits_seq ?_ (Reader.fits_required rfl rfl)
    exact Checked.fits_map Column.mk (Reader.fits_required rfl rfl)
  rw [column, cell_typed h.name, cell_typed h.dataType, hmaxLength, hprecision, hscale]
  change ∃ c, (Column.read _).toExcept = .ok c ∧ _
  rw [hread]
  exact ⟨_, rfl, rfl⟩

theorem primaryKeys_typed (h : ∀ row ∈ rows, IsKeyRow row) :
    primaryKeys rows = .ok (((inOrder rows).map (textAt "column_name")).map .text) := by
  rw [primaryKeys, inOrdinalOrder_typed h]
  exact mapM_cell_typed fun row hrow => (h row (mem_inOrder.mp hrow)).name

theorem presentKeys_texts (names keys : List String) :
    presentKeys names (keys.map .text) = .ok ((keys.filter fun k => names.contains k).map .text) := by
  have hkeys : (keys.map Value.text).all Value.isKey = true :=
    List.all_eq_true.mpr (List.forall_mem_map.mpr fun _ _ => rfl)
  rw [presentKeys, if_pos hkeys, List.filter_map]
  rfl

/-! ### Groups -/

/-- A group has a text for a name, and rows of one kind. -/
structure IsGroup (IsRow : Row → Prop) (g : Value × List Row) : Prop where
  named : ∃ s, g.1 = .text s
  nonempty : g.2 ≠ []
  rows : ∀ row ∈ g.2, IsRow row

variable {IsRow : Row → Prop} {groups : List (Value × List Row)} {α : Type}

theorem addToGroup_typed (s : String) (hrow : IsRow row) (h : ∀ g ∈ groups, IsGroup IsRow g) :
    ∀ g ∈ addToGroup (.text s) row groups, IsGroup IsRow g := by
  induction groups with
  | nil =>
    rw [addToGroup]
    exact List.forall_mem_singleton.mpr
      ⟨⟨s, rfl⟩, List.cons_ne_nil _ _, List.forall_mem_singleton.mpr hrow⟩
  | cons g groups ih =>
    obtain ⟨hg, hgroups⟩ := List.forall_mem_cons.mp h
    rw [addToGroup]
    split
    · have hrows : ∀ r ∈ g.2 ++ [row], IsRow r :=
        List.forall_mem_append.mpr ⟨hg.rows, List.forall_mem_singleton.mpr hrow⟩
      exact List.forall_mem_cons.mpr
        ⟨⟨hg.named, List.append_ne_nil_of_right_ne_nil _ (List.cons_ne_nil _ _), hrows⟩, hgroups⟩
    · exact List.forall_mem_cons.mpr ⟨hg, ih hgroups⟩

theorem groupRows_typed (hkey : ∀ row ∈ rows, HasText row key) (hrows : ∀ row ∈ rows, IsRow row) :
    ∃ groups, groupRows key rows = .ok groups ∧ ∀ g ∈ groups, IsGroup IsRow g := by
  refine Results.exists_foldlM (fun row hrow groups hgroups => ?_) (List.forall_mem_nil _)
  refine ⟨_, ?_, addToGroup_typed (textAt key row) (hrows row hrow) hgroups⟩
  rw [cell_typed (hkey row hrow)]
  rfl

/-- **Typed rows are folded**, if something can be made of each group of them. -/
theorem foldGroups_typed {make : Value → List Row → Except Fault α}
    (hkey : ∀ row ∈ rows, HasText row key) (hrows : ∀ row ∈ rows, IsRow row)
    (htyped : ∀ row, IsRow row → IsKeyRow row)
    (hmake : ∀ s rows, rows ≠ [] → (∀ row ∈ rows, IsRow row) → ∃ a, make (.text s) rows = .ok a) :
    ∃ as, foldGroups key make rows = .ok as := by
  obtain ⟨groups, hgroups, hall⟩ := groupRows_typed hkey hrows
  have hsorted := Value.sortBy?_texts fun g hg => (hall g hg).named
  have hmade : ∀ g ∈ groups.mergeSort fun a b => decide (a.1.asText ≤ b.1.asText),
      ∃ a, (do make g.1 (← inOrdinalOrder g.2)) = .ok a ∧ True := by
    intro g hg
    have hgroup := hall g (List.mem_mergeSort.mp hg)
    have hordered : ∀ row ∈ inOrder g.2, IsRow row :=
      fun row hrow => hgroup.rows row (mem_inOrder.mp hrow)
    have hnonempty : inOrder g.2 ≠ [] := by
      rw [ne_eq, ← List.length_eq_zero_iff, inOrder, List.length_mergeSort, List.length_eq_zero_iff]
      exact hgroup.nonempty
    obtain ⟨a, ha⟩ := hmake g.1.asText (inOrder g.2) hnonempty hordered
    refine ⟨a, ?_, trivial⟩
    rw [inOrdinalOrder_typed fun row hrow => htyped row (hgroup.rows row hrow),
      Value.eq_text_asText hgroup.named]
    exact ha
  obtain ⟨as, has, -⟩ := Results.exists_mapM hmade
  refine ⟨as, ?_⟩
  rw [foldGroups, hgroups]
  change (Value.sortBy? Prod.fst groups >>= _) = _
  rw [hsorted]
  exact has

/-! ### Foreign keys and indexes -/

theorem make_of_paired {name table : String} {columns referenced : List String}
    {schema : Option String} (h : columns.length = referenced.length)
    (onDelete onUpdate : ReferentialAction) :
    ForeignKey.make name columns schema table referenced onDelete onUpdate =
      .fits ⟨name, columns, schema, table, referenced, onDelete, onUpdate, h⟩ :=
  dif_pos h

/-- **A foreign key is made of typed rows**: its columns are those that they name, and
all else is in the first of them. -/
theorem foreignKey_eq {head : Row} {rest : List Row} {schema : Option String} (s : String)
    (h : ∀ row ∈ head :: rest, IsForeignKeyRow row)
    (hschema : Reader.orNull Reader.text (Value.lookup head "foreign_table_schema") = .fits schema) :
    foreignKey (.text s) (head :: rest) =
      .ok ⟨s, (head :: rest).map (textAt "column_name"), schema, textAt "foreign_table_name" head,
        (head :: rest).map (textAt "foreign_column_name"), action (Value.lookup head "delete_rule"),
        action (Value.lookup head "update_rule"), by rw [List.length_map, List.length_map]⟩ := by
  have hlength : ∀ names others : Row → String,
      ((head :: rest).map names).length = ((head :: rest).map others).length := by
    intro names others
    rw [List.length_map, List.length_map]
  have hread : ∀ onDelete onUpdate : ReferentialAction, ForeignKey.read
      [("name", .text s), ("columns", .list (((head :: rest).map (textAt "column_name")).map .text)),
        ("referenced_schema", Value.lookup head "foreign_table_schema"),
        ("referenced_table", .text (textAt "foreign_table_name" head)),
        ("referenced_columns",
          .list (((head :: rest).map (textAt "foreign_column_name")).map .text)),
        ("on_delete", .text onDelete.text), ("on_update", .text onUpdate.text)] =
      .fits ⟨s, (head :: rest).map (textAt "column_name"), schema,
        textAt "foreign_table_name" head, (head :: rest).map (textAt "foreign_column_name"),
        onDelete, onUpdate, hlength _ _⟩ := by
    intro onDelete onUpdate
    have hchoice : ∀ action : ReferentialAction,
        Reader.choice ReferentialAction.ofText? (.text action.text) = .fits action := by
      intro action
      rw [Reader.choice, ReferentialAction.ofText?_text]
    unfold ForeignKey.read
    refine (Checked.thenCheck_id ?_).trans (make_of_paired (hlength _ _) onDelete onUpdate)
    refine Checked.fits_seq ?_ (Reader.fits_defaulted .noAction rfl (hchoice onUpdate))
    refine Checked.fits_seq ?_ (Reader.fits_defaulted .noAction rfl (hchoice onDelete))
    refine Checked.fits_seq ?_ (Reader.fits_required rfl (Reader.fits_texts _))
    refine Checked.fits_seq ?_ (Reader.fits_required rfl rfl)
    refine Checked.fits_seq ?_ (Reader.fits_defaulted none rfl hschema)
    refine Checked.fits_seq ?_ (Reader.fits_required rfl (Reader.fits_texts _))
    exact Checked.fits_map ForeignKey.make (Reader.fits_required rfl rfl)
  rw [foreignKey, mapM_cell_typed fun row hrow => (h row hrow).name, List.headD_cons,
    cell_typed (h head List.mem_cons_self).table,
    mapM_cell_typed fun row hrow => (h row hrow).referenced]
  exact congrArg Checked.toExcept (hread _ _)

theorem foreignKey_typed (s : String) (hne : rows ≠ []) (h : ∀ row ∈ rows, IsForeignKeyRow row) :
    ∃ k, foreignKey (.text s) rows = .ok k := by
  obtain ⟨head, rest, rfl⟩ := List.exists_cons_of_ne_nil hne
  obtain ⟨schema, hschema⟩ := optionalText_typed (h head List.mem_cons_self).schema
  exact ⟨_, foreignKey_eq s h hschema⟩

/-- **Typed rows are folded into foreign keys.** -/
theorem foreignKeys_typed (h : ∀ row ∈ rows, IsForeignKeyRow row) :
    ∃ ks, foreignKeys rows = .ok ks :=
  foldGroups_typed (fun row hrow => (h row hrow).constraint) h (fun _ hrow => hrow.toIsKeyRow)
    fun s _ hne hrows => foreignKey_typed s hne hrows

/-- **An index is made of typed rows**: its columns are those that they name, and its
flags are in the first of them. -/
theorem index_eq (s : String) (h : ∀ row ∈ rows, IsIndexRow row) :
    index (.text s) rows = .ok ⟨s, rows.map (textAt "column_name"),
      flag (Value.lookup (rows.headD []) "is_unique"),
      flag (Value.lookup (rows.headD []) "is_primary")⟩ := by
  have hread : ∀ unique primary, Index.read
      [("name", .text s), ("columns", .list ((rows.map (textAt "column_name")).map .text)),
        ("is_unique", .bool unique), ("is_primary", .bool primary)] =
      .fits ⟨s, rows.map (textAt "column_name"), unique, primary⟩ := by
    intro unique primary
    unfold Index.read
    refine Checked.fits_seq ?_ (Reader.fits_defaulted false rfl rfl)
    refine Checked.fits_seq ?_ (Reader.fits_defaulted false rfl rfl)
    refine Checked.fits_seq ?_ (Reader.fits_required rfl (Reader.fits_texts _))
    exact Checked.fits_map Index.mk (Reader.fits_required rfl rfl)
  rw [index, mapM_cell_typed fun row hrow => (h row hrow).name]
  exact congrArg Checked.toExcept (hread _ _)

/-- **Typed rows are folded into indexes.** -/
theorem indexes_typed (h : ∀ row ∈ rows, IsIndexRow row) : ∃ is, indexes rows = .ok is :=
  foldGroups_typed (fun row hrow => (h row hrow).index) h (fun _ hrow => hrow.toIsKeyRow)
    fun s _ _ hrows => ⟨_, index_eq s hrows⟩

end Catalog
end TableGate

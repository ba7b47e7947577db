/-
# What a statement adds to a table is read back

The statement that adds a foreign key to a table, or creates an index of it, shows all of
what is added: the table and its schema, the name, the columns in their order, whether an
index is unique, and for a foreign key the referenced table, its columns in their order
and both actions (`Ddl.Added`). What is the same for every statement is left out: an empty
schema is no schema, a foreign key that names no schema refers to that of its own table,
and an index does not show whether it is the one of the primary key.

The decoder (`Ddl.readAddition?`) knows only the text. It takes the quoted names out of it
and reads the rest from the left, so nothing in a name can pass for what stands around it.
As a foreign key is read back as one, with its columns paired as they were, keys that
differ are never written as the same statement (`Ddl.additions_readBack`).

Key definitions: `Ddl.Addition`, `Ddl.Added`, `Ddl.readAddition?`.
Key theorems: `Ddl.readAdded_foreignKey`, `Ddl.readAdded_index`,
`Ddl.additions_readBack`.
-/
import TableGate.Proofs.Query.ReadBack
import TableGate.Proofs.Sql.Names
import TableGate.Schema.Ddl

namespace TableGate
namespace Ddl

open Sql Statement
open Compiler (readTable readTable_qualifiedName items_joinPieces_cons)

/-! ### Additions -/

/-- What is added to a table. -/
inductive Addition where
  | foreignKey (k : ForeignKey)
  | index (i : Index)
deriving DecidableEq

/-- An addition and its table, as a statement shows them. -/
structure Added where
  schema : Option String
  table : String
  addition : Addition
deriving DecidableEq

namespace Addition

def statement (table : String) (schema : Option String) : Addition → Statement
  | foreignKey k => addForeignKey table schema k
  | index i => createIndex table schema i

/-- What is shown of an addition to a table. -/
def shown (table : String) (schema : Option String) : Addition → Added
  | foreignKey k => ⟨qualifier? schema, table, .foreignKey { k with
      referencedSchema := (qualifier? k.referencedSchema).or (qualifier? schema) }⟩
  | index i => ⟨qualifier? schema, table, .index { i with isPrimary := false }⟩

end Addition

/-! ### The decoder -/

/-- Reads names with commas between them; there may be none. -/
def readNameList : Reader (List String) := fun front =>
  match name? front with
  | some _ => readSeq name? ", " front
  | none => some ([], front)

/-- Reads what happens to a row. -/
def readAction : Reader ReferentialAction := fun front =>
  ReferentialAction.all.findSome? fun a => (skip? a.text front).map fun rest => (a, rest)

/-- Reads whether an index is unique. -/
def readUnique : Reader Bool := fun front =>
  match skip? "CREATE UNIQUE INDEX " front with
  | some rest => some (true, rest)
  | none => (skip? "CREATE INDEX " front).map fun rest => (false, rest)

/-- Reads the name of a foreign key and its columns. -/
def readConstraint : Reader (String × List String) := fun front => do
  let (name, rest) ← name? (← skip? " ADD CONSTRAINT " front)
  let (columns, rest) ← readNameList (← skip? " FOREIGN KEY (" rest)
  some ((name, columns), rest)

/-- Reads the table that a foreign key refers to, with its schema, and the columns of it. -/
def readReference : Reader ((Option String × String) × List String) := fun front => do
  let (target, rest) ← readTable (← skip? ") REFERENCES " front)
  let (columns, rest) ← readNameList (← skip? " (" rest)
  some ((target, columns), rest)

/-- Reads what happens when a row is removed and when it is changed. -/
def readActions : Reader (ReferentialAction × ReferentialAction) := fun front => do
  let (onDelete, rest) ← readAction (← skip? ") ON DELETE " front)
  let (onUpdate, rest) ← readAction (← skip? " ON UPDATE " rest)
  some ((onDelete, onUpdate), rest)

/-- Reads a foreign key, where the words for a change of a table stand in front. -/
def readForeignKey (front : List Item) : Option Added := do
  let ((schema, table), rest) ← readTable front
  let ((name, columns), rest) ← readConstraint rest
  let (((referencedSchema, referencedTable), referencedColumns), rest) ← readReference rest
  let ((onDelete, onUpdate), rest) ← readActions rest
  if h : columns.length = referencedColumns.length ∧ rest.isEmpty then
    some ⟨schema, table, .foreignKey ⟨name, columns, referencedSchema, referencedTable,
      referencedColumns, onDelete, onUpdate, h.1⟩⟩
  else none

def readIndex (front : List Item) : Option Added := do
  let (isUnique, rest) ← readUnique front
  let (name, rest) ← name? rest
  let ((schema, table), rest) ← readTable (← skip? " ON " rest)
  let (columns, rest) ← readNameList (← skip? " (" rest)
  let rest ← skip? ")" rest
  if rest.isEmpty then some ⟨schema, table, .index { name, columns, isUnique }⟩ else none

/-- Reads an addition out of the row of a statement. -/
def readAdded (row : List Item) : Option Added :=
  match skip? "ALTER TABLE " row with
  | some rest => readForeignKey rest
  | none => readIndex row

/-- Reads an addition out of the text of a statement. -/
def readAddition? (d : Dialect) (text : String) : Option Added := readAdded (items d ⟨text, []⟩)

/-! ### Parts -/

theorem readNameList_nameList (names : List String) {rest : List Item}
    (hname : name? rest = none) (hcomma : skip? ", " rest = none) :
    readNameList ((nameList names).items ++ rest) = some (names, rest) := by
  cases names with
  | nil => simp only [nameList, List.map_nil, joinPieces, Statement.items, List.nil_append,
      readNameList, hname]
  | cons n ns =>
    have hread : readSeq name? ", " ((nameList (n :: ns)).items ++ rest) = some (n :: ns, rest) :=
      readSeq_map (fun _ _ => rfl) rfl hcomma (List.cons_ne_nil n ns)
    obtain ⟨tail, htail⟩ := items_joinPieces_cons ", " [.name n] (ns.map fun n => [.name n])
    have hfirst : name? ((nameList (n :: ns)).items ++ rest) = some (n, tail ++ rest) := by
      rw [nameList, List.map_cons, htail]
      rfl
    simp only [readNameList, hfirst, hread]

theorem readAction_text (a : ReferentialAction) (rest : List Item) :
    readAction (a.text.toList.map .char ++ rest) = some (a, rest) := by
  cases a <;> rfl

theorem readUnique_text (isUnique : Bool) (rest : List Item) :
    readUnique ((if isUnique then "CREATE UNIQUE INDEX " else "CREATE INDEX ").toList.map .char ++
      rest) = some (isUnique, rest) := by
  cases isUnique <;> rfl

/-- A foreign key refers to the schema it names, or else to that of its table. -/
theorem qualifier?_targetSchema (k : ForeignKey) (schema : Option String) :
    qualifier? (targetSchema k schema) =
      (qualifier? k.referencedSchema).or (qualifier? schema) := by
  unfold targetSchema
  cases k.referencedSchema with
  | none => rfl
  | some s =>
    rw [qualifier?_some]
    dsimp only
    cases hs : s.isEmpty
    · rw [if_neg Bool.false_ne_true, if_neg Bool.false_ne_true, qualifier?_some, hs]
      rfl
    · rfl

theorem qualifiedName_qualifier? (name : String) (schema : Option String) :
    qualifiedName name (qualifier? schema) = qualifiedName name schema := by
  cases schema with
  | none => rfl
  | some s =>
    rw [qualifier?_some]
    cases hs : s.isEmpty
    · rfl
    · rw [if_pos rfl, qualifiedName, qualifiedName, if_pos hs]

/-! ### Foreign keys

The statement is taken apart into what is said of the key, of the table it refers to, and
of its actions. -/

def constraintPart (k : ForeignKey) : Statement :=
  .text " ADD CONSTRAINT " :: .name k.name :: .text " FOREIGN KEY (" :: nameList k.columns

/-- The table that a foreign key refers to and the columns of it. -/
def referencePart (schema : Option String) (k : ForeignKey) : Statement :=
  .text ") REFERENCES " :: qualifiedName k.referencedTable (targetSchema k schema) ++
    .text " (" :: nameList k.referencedColumns

def actionPart (k : ForeignKey) : Statement :=
  [.text (") ON DELETE " ++ k.onDelete.text ++ " ON UPDATE " ++ k.onUpdate.text)]

theorem addForeignKey_eq (table : String) (schema : Option String) (k : ForeignKey) :
    addForeignKey table schema k = .text "ALTER TABLE " :: (qualifiedName table schema ++
      (constraintPart k ++ (referencePart schema k ++ actionPart k))) := by
  simp only [addForeignKey, constraintPart, referencePart, actionPart, List.append_assoc,
    List.cons_append]

theorem readConstraint_part (k : ForeignKey) {rest : List Item} (hname : name? rest = none)
    (hcomma : skip? ", " rest = none) :
    readConstraint ((constraintPart k).items ++ rest) = some ((k.name, k.columns), rest) := by
  have hcolumns := readNameList_nameList k.columns hname hcomma
  simp only [constraintPart, Statement.items, List.append_assoc, List.cons_append,
    readConstraint, skip?_append, Option.bind_eq_bind, Option.bind_some, name?, hcolumns]

theorem readReference_part (schema : Option String) (k : ForeignKey) {rest : List Item}
    (hname : name? rest = none) (hcomma : skip? ", " rest = none) :
    readReference ((referencePart schema k).items ++ rest) =
      some ((((qualifier? k.referencedSchema).or (qualifier? schema), k.referencedTable),
        k.referencedColumns), rest) := by
  have hcolumns := readNameList_nameList k.referencedColumns hname hcomma
  -- a dot behind the table would make it a schema
  have htarget : readTable ((qualifiedName k.referencedTable (targetSchema k schema)).items ++
      (" (".toList.map .char ++ ((nameList k.referencedColumns).items ++ rest))) =
        some ((qualifier? (targetSchema k schema), k.referencedTable),
          " (".toList.map .char ++ ((nameList k.referencedColumns).items ++ rest)) :=
    readTable_qualifiedName k.referencedTable (targetSchema k schema) rfl
  rw [qualifier?_targetSchema] at htarget
  simp only [referencePart, Statement.items_append, Statement.items, List.append_assoc,
    readReference, skip?_append, htarget, Option.bind_eq_bind, Option.bind_some, hcolumns]

theorem items_actionPart (k : ForeignKey) :
    (actionPart k).items = ") ON DELETE ".toList.map .char ++ (k.onDelete.text.toList.map .char ++
      (" ON UPDATE ".toList.map .char ++ (k.onUpdate.text.toList.map .char ++ []))) := by
  simp only [actionPart, Statement.items, String.toList_append, List.map_append,
    List.append_assoc]

theorem readActions_part (k : ForeignKey) :
    readActions (actionPart k).items = some ((k.onDelete, k.onUpdate), []) := by
  simp only [items_actionPart, readActions, skip?_append, readAction_text, Option.bind_eq_bind,
    Option.bind_some]

variable (table : String) (schema : Option String)

/-- **A foreign key is read back**, its columns paired as they were. -/
theorem readAdded_foreignKey (k : ForeignKey) :
    readAdded (addForeignKey table schema k).items =
      some ((Addition.foreignKey k).shown table schema) := by
  have htable : readTable ((qualifiedName table schema).items ++ ((constraintPart k).items ++
      ((referencePart schema k).items ++ (actionPart k).items))) =
        some ((qualifier? schema, table), (constraintPart k).items ++
          ((referencePart schema k).items ++ (actionPart k).items)) :=
    readTable_qualifiedName table schema rfl
  have hconstraint := readConstraint_part k
    (rfl : name? ((referencePart schema k).items ++ (actionPart k).items) = none) rfl
  have hreference := readReference_part schema k
    (by rw [items_actionPart]; rfl : name? (actionPart k).items = none)
    (by rw [items_actionPart]; rfl)
  have hpaired : k.columns.length = k.referencedColumns.length ∧
      ([] : List Item).isEmpty = true := ⟨k.paired, rfl⟩
  simp only [addForeignKey_eq, Statement.items_append, Statement.items, readAdded, skip?_append,
    readForeignKey, htable, hconstraint, hreference, readActions_part, Option.bind_eq_bind,
    Option.bind_some, dif_pos hpaired]
  rfl

/-- **An index is read back** with its columns and whether it is unique. -/
theorem readAdded_index (i : Index) :
    readAdded (createIndex table schema i).items =
      some ((Addition.index i).shown table schema) := by
  have htable (rest : List Item) : readTable ((qualifiedName table schema).items ++
      (" (".toList.map .char ++ rest)) =
        some ((qualifier? schema, table), " (".toList.map .char ++ rest) :=
    readTable_qualifiedName table schema rfl
  have hcolumns : readNameList ((nameList i.columns).items ++ ")".toList.map .char) =
      some (i.columns, ")".toList.map .char) :=
    readNameList_nameList i.columns rfl rfl
  have hend := skip?_append ")" []
  rw [List.append_nil] at hend
  have hcreate (rest : List Item) : skip? "ALTER TABLE "
      ((if i.isUnique then "CREATE UNIQUE INDEX " else "CREATE INDEX ").toList.map .char ++ rest) =
        none := by
    cases i.isUnique <;> rfl
  simp only [createIndex, Statement.items_append, Statement.items, List.append_assoc,
    List.cons_append, List.append_nil]
  simp only [readAdded, hcreate, readIndex, readUnique_text, name?, skip?_append, htable,
    hcolumns, hend, Option.bind_eq_bind, Option.bind_some, List.isEmpty_nil, if_true]
  rfl

/-! ### What is sent -/

/-- The statement that adds a foreign key is spaced and binds nothing. -/
theorem spaced_addForeignKey (k : ForeignKey) :
    Spaced (addForeignKey table schema k) ∧ (addForeignKey table schema k).params = [] := by
  have hcolumns : Follows (.text " FOREIGN KEY (" :: nameList k.columns) :=
    .text (by decide) (by decide) (spaced_nameList k.columns)
  have hconstraint : Follows (constraintPart k) := .text (by decide) (by decide) hcolumns.name
  have htarget : Follows (.text ") REFERENCES " ::
      qualifiedName k.referencedTable (targetSchema k schema)) :=
    .text (by decide) (by decide) (spaced_qualifiedName _ _)
  have hreferenced : Follows (.text " (" :: nameList k.referencedColumns) :=
    .text (by decide) (by decide) (spaced_nameList k.referencedColumns)
  have hreference : Follows (referencePart schema k) := htarget.append hreferenced
  have haction (a : ReferentialAction) : a.text.toList.all isPlain = true := by
    cases a <;> decide
  have hplain : (") ON DELETE " ++ k.onDelete.text ++ " ON UPDATE " ++
      k.onUpdate.text).toList.all isPlain = true := by
    simp only [String.toList_append, List.all_append, haction, Bool.and_true]
    decide
  have hbreak : (") ON DELETE " ++ k.onDelete.text ++ " ON UPDATE " ++
      k.onUpdate.text).toList.head?.any isBreak = true := by
    rw [String.append_assoc, String.append_assoc, String.toList_append]
    rfl
  have hactions : Follows (actionPart k) := .text hplain hbreak trivial
  constructor
  · rw [addForeignKey_eq]
    exact ⟨by decide, (spaced_qualifiedName table schema).append
      (hconstraint.append (hreference.append hactions))⟩
  · simp [addForeignKey, params_append, params_qualifiedName, params_nameList, params]

/-- The statement that creates an index is spaced and binds nothing. -/
theorem spaced_createIndex (i : Index) :
    Spaced (createIndex table schema i) ∧ (createIndex table schema i).params = [] := by
  have hplain : (if i.isUnique then "CREATE UNIQUE INDEX " else "CREATE INDEX ").toList.all
      isPlain = true := by
    cases i.isUnique <;> decide
  have htable : Follows (.text " ON " :: qualifiedName table schema) :=
    .text (by decide) (by decide) (spaced_qualifiedName table schema)
  have hcolumns : Follows (.text " (" :: nameList i.columns) :=
    .text (by decide) (by decide) (spaced_nameList i.columns)
  have hend : Follows [.text ")"] := .text (by decide) (by decide) trivial
  refine ⟨⟨hplain, ((htable.append hcolumns).append hend).name⟩, ?_⟩
  simp [createIndex, params_append, params_qualifiedName, params_nameList, params]

/-- **An addition is read back from its text.** -/
theorem readAddition?_text (d : Dialect) (a : Addition) :
    readAddition? d ((a.statement table schema).text d) = some (a.shown table schema) := by
  have hrow : readAddition? d ((a.statement table schema).text d) =
      readAdded (a.statement table schema).items := by
    obtain ⟨hspaced, hparams⟩ : Spaced (a.statement table schema) ∧
        (a.statement table schema).params = [] := by
      cases a with
      | foreignKey k => exact spaced_addForeignKey table schema k
      | index i => exact spaced_createIndex table schema i
    rw [← items_command d hspaced, command, hparams, readAddition?]
  rw [hrow]
  cases a with
  | foreignKey k => exact readAdded_foreignKey table schema k
  | index i => exact readAdded_index table schema i

/-- A statement depends on nothing but what it shows. -/
theorem statement_shown (a : Addition) :
    (a.shown table schema).addition.statement (a.shown table schema).table
      (a.shown table schema).schema = a.statement table schema := by
  cases a with
  | foreignKey k =>
    set k' : ForeignKey := { k with
      referencedSchema := (qualifier? k.referencedSchema).or (qualifier? schema) } with hk'
    have htarget : qualifier? (targetSchema k' (qualifier? schema)) =
        qualifier? (targetSchema k schema) := by
      rw [qualifier?_targetSchema, qualifier?_qualifier?, hk']
      dsimp only
      rw [← qualifier?_targetSchema, qualifier?_qualifier?, qualifier?_targetSchema,
        Option.or_assoc, Option.or_self]
    simp only [Addition.shown, Addition.statement, addForeignKey, ← hk', qualifiedName_qualifier?]
    rw [← qualifiedName_qualifier? k'.referencedTable, htarget, qualifiedName_qualifier?]
  | index i =>
    simp only [Addition.shown, Addition.statement, createIndex, qualifiedName_qualifier?]

/-- **Foreign keys and indexes are read back from their statements**, with a decoder that
knows nothing but the dialect. Two statements have the same text just if they show the same:
so a foreign key is never written like an index, and two of them that differ in their table,
name, target, columns, the pairing of these, or actions are never written alike. -/
theorem additions_readBack (d : Dialect) :
    (∀ (table : String) (schema : Option String) (k : ForeignKey),
      readAddition? d ((addForeignKey table schema k).text d) =
        some ⟨qualifier? schema, table, .foreignKey { k with
          referencedSchema := (qualifier? k.referencedSchema).or (qualifier? schema) }⟩) ∧
    (∀ (table : String) (schema : Option String) (i : Index),
      readAddition? d ((createIndex table schema i).text d) =
        some ⟨qualifier? schema, table, .index { i with isPrimary := false }⟩) ∧
    ∀ (table table' : String) (schema schema' : Option String) (a a' : Addition),
      (a.statement table schema).text d = (a'.statement table' schema').text d ↔
        a.shown table schema = a'.shown table' schema' := by
  refine ⟨fun table schema k => readAddition?_text table schema d (.foreignKey k),
    fun table schema i => readAddition?_text table schema d (.index i),
    fun table table' schema schema' a a' => ⟨fun h => ?_, fun h => ?_⟩⟩
  · have hread := readAddition?_text table schema d a
    rw [h, readAddition?_text table' schema' d a'] at hread
    exact (Option.some.inj hread).symm
  · rw [← statement_shown table schema a, h, statement_shown table' schema' a']

/-- Parentheses, commas and brackets in the names. -/
example : readAddition? .sqlServer "CREATE UNIQUE INDEX [i]]] ON [t) (] ([a, b], []] (])" =
    some ⟨none, "t) (", .index ⟨"i]", ["a, b", "] ("], true, false⟩⟩ := by
  decide +kernel

end Ddl
end TableGate

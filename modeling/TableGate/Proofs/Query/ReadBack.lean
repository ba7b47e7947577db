/-
# A page of rows is read back

The statement for a page of rows shows all that was asked for: the table and its
schema, the columns, each condition with its operator and operands, the order,
and the page (`Page`). What is the same for every statement is left out: an
empty schema is no schema, no columns are all columns, a single operand of `in`
is a list of one, a column that is one of no values is not named, and no offset
is the offset zero.

The decoder (`readPage`) knows only what is sent. It takes the names and the
parameters out of the text and reads the rest from the left; every clause begins
with a text that no other clause begins with, and a condition ends where its
text does.

Key definitions: `Page`, `Compiler.page`, `Compiler.readPage`.
Key theorems: `Compiler.readTest_condition`, `Compiler.readItems_select`,
`Compiler.select_determines_page`.
-/
import TableGate.Proofs.Query.Request
import TableGate.Proofs.Sql.Items

namespace TableGate

/-! ### What a page shows -/

/-- A condition as a statement shows it: the word of its operator and its
operands. -/
structure Test where
  column : Option String
  operator : String
  operands : List Value

/-- A page as a statement shows it. -/
structure Page where
  table : String
  schema : Option String
  columns : List String
  tests : List Test
  order : List OrderTerm
  limit : Int
  offset : Int

/-- What is shown of a condition. -/
def Condition.test (c : Condition) : Test :=
  match Operator.ofWord? c.operator with
  | some .isIn =>
    let operands := Compiler.operands c.value
    ⟨if operands.isEmpty then none else some c.column, c.operator, operands⟩
  | _ => ⟨some c.column, c.operator, [c.value]⟩

namespace Compiler

open Sql

/-- What is shown of a request for a page. -/
def page (c : Compiler) (table : String) (filter : Filter) (schema : Option String) : Page where
  table
  schema := schema.filter fun s => !s.isEmpty
  columns := filter.select.getD []
  tests := filter.conditions.map Condition.test
  order := filter.order
  limit := c.effectiveLimit filter.limit
  offset := filter.offset.getD 0

/-! ### The decoder -/

/-- The operator and the operands behind a column. -/
abbrev Tail := String × List Value

/-- A text and the value that the column is compared with. -/
def comparedTail (o : Operator) (sign : String) : Reader Tail := fun front =>
  (skip? sign front).bind fun rest => (value? rest).map fun (v, rest) => ((o.word, [v]), rest)

/-- The values that the column is one of. -/
def memberTail : Reader Tail := fun front =>
  (skip? " IN (" front).bind fun rest => (readSeq value? ", " rest).bind fun (vs, rest) =>
    (skip? ")" rest).map fun rest => ((Operator.isIn.word, vs), rest)

/-- A text that stands for a test. -/
def fixedTail (text : String) (v : Value) : Reader Tail := fun front =>
  (skip? text front).map fun rest => ((Operator.is.word, [v]), rest)

/-- What may stand behind a column. -/
def tails : List (Reader Tail) :=
  [memberTail, comparedTail .eq " = ", comparedTail .neq " <> ", comparedTail .gt " > ",
    comparedTail .gte " >= ", comparedTail .lt " < ", comparedTail .lte " <= ",
    comparedTail .like " LIKE ", comparedTail .ilike " ILIKE ",
    fixedTail " IS NULL" .null, fixedTail " IS NOT NULL" (.text notNullWord),
    fixedTail " IS TRUE" (.bool true), fixedTail " IS FALSE" (.bool false),
    fixedTail " = 1" (.bool true), fixedTail " = 0" (.bool false)]

/-- Reads a condition: a column and what stands behind it, a pattern that matches
regardless of case, or the membership in no values. -/
def readTest : Reader Test
  | .name n :: rest =>
    (tails.findSome? fun tail => tail rest).map fun (t, rest) => (⟨some n, t.1, t.2⟩, rest)
  | front =>
    match skip? "1 = 0" front with
    | some rest => some (⟨none, Operator.isIn.word, []⟩, rest)
    | none => do
      let rest ← skip? "LOWER(" front
      let (n, rest) ← name? rest
      let rest ← skip? ") LIKE LOWER(" rest
      let (v, rest) ← value? rest
      let rest ← skip? ")" rest
      some (⟨some n, Operator.ilike.word, [v]⟩, rest)

/-- Reads a column to sort by. -/
def readTerm : Reader OrderTerm
  | .name n :: rest =>
    match skip? " DESC" rest with
    | some rest => some (⟨n, true⟩, rest)
    | none => (skip? " ASC" rest).map fun rest => (⟨n, false⟩, rest)
  | _ => none

/-- Reads the picked columns. -/
def readColumns : Reader (List String) := fun front =>
  match skip? "*" front with
  | some rest => some ([], rest)
  | none => readSeq name? ", " front

/-- Reads a table and the schema in front of it. -/
def readTable : Reader (Option String × String) := fun front =>
  (name? front).bind fun (first, rest) =>
    match skip? "." rest with
    | none => some ((none, first), rest)
    | some next => (name? next).map fun (second, rest) => ((some first, second), rest)

def readTests : Reader (List Test) := fun front =>
  match skip? " WHERE " front with
  | some rest => readSeq readTest " AND " rest
  | none => some ([], front)

def readOrder : Reader (List OrderTerm) := fun front =>
  match skip? " ORDER BY (SELECT NULL)" front with
  | some rest => some ([], rest)
  | none =>
    match skip? " ORDER BY " front with
    | some rest => readSeq readTerm ", " rest
    | none => some ([], front)

/-- Reads the limit and the offset. -/
def readBounds (front : List Item) : Option (Int × Int) :=
  match skip? " LIMIT " front with
  | some rest => do
    let (limit, rest) ← readInt rest
    let (offset, _) ← readInt (← skip? " OFFSET " rest)
    some (limit, offset)
  | none => do
    let (offset, rest) ← readInt (← skip? " OFFSET " front)
    let (limit, _) ← readInt (← skip? " ROWS FETCH NEXT " rest)
    some (limit, offset)

/-- Reads a page out of the row of a statement. -/
def readItems (row : List Item) : Option Page := do
  let (columns, rest) ← readColumns (← skip? "SELECT " row)
  let ((schema, table), rest) ← readTable (← skip? " FROM " rest)
  let (tests, rest) ← readTests rest
  let (order, rest) ← readOrder rest
  let (limit, offset) ← readBounds rest
  some { table, schema, columns, tests, order, limit, offset }

/-- Reads a page out of what is sent. -/
def readPage (d : Dialect) (cmd : Command) : Option Page := readItems (items d cmd)

/-! ### Conditions -/

variable {d : Dialect}

theorem readSeq_valueList {values : List Value} (hne : values ≠ []) (rest : List Item) :
    readSeq value? ", " ((valueList values).items ++ (")".toList.map .char ++ rest)) =
      some (values, ")".toList.map .char ++ rest) :=
  readSeq_map (fun _ _ => rfl) rfl rfl hne

theorem readTest_memberOf (column : String) (values : List Value) (rest : List Item) :
    readTest ((memberOf column values).items ++ rest) =
      some (⟨if values.isEmpty then none else some column, "in", values⟩, rest) := by
  unfold memberOf
  split
  · rename_i h
    rw [List.isEmpty_iff.mp h]
    rfl
  · rename_i h
    have hseq := readSeq_valueList (fun h0 => h (List.isEmpty_iff.mpr h0)) rest
    -- no other tail begins like this one, so the first reader decides
    have hmember : memberTail (" IN (".toList.map .char ++
        ((valueList values).items ++ (")".toList.map .char ++ rest))) =
          some (("in", values), rest) := by
      simp only [memberTail, skip?_append, Option.bind_some, hseq, Option.map_some]
      rfl
    simp only [Statement.items_append, Statement.items, List.append_assoc, List.cons_append,
      List.nil_append]
    rw [readTest, tails, List.findSome?_cons, hmember]
    rfl

theorem readTest_isTest {column : String} {v : Value} {s : Statement}
    (h : isTest d column v = .ok s) (rest : List Item) :
    readTest (s.items ++ rest) = some (⟨some column, "is", [v]⟩, rest) := by
  unfold isTest at h
  split at h
  · obtain rfl := Except.ok.inj h
    rfl
  · rename_i b
    obtain rfl := Except.ok.inj h
    cases d <;> cases b <;> rfl
  · split at h
    · rename_i hw
      obtain rfl := Except.ok.inj h
      rw [hw]
      rfl
    · simp at h
  · split at h <;> simp at h

/-- **A condition is read back**, whatever follows it. -/
theorem readTest_condition {c : Condition} {s : Statement} (h : condition d c = .ok s)
    (rest : List Item) : readTest (s.items ++ rest) = some (c.test, rest) := by
  unfold condition at h
  unfold Condition.test
  split at h
  · simp at h
  · rename_i ho
    obtain rfl := Except.ok.inj h
    rw [ho, ← Operator.word_of_ofWord? ho]
    cases d <;> rfl
  · rename_i ho
    obtain rfl := Except.ok.inj h
    rw [ho, ← Operator.word_of_ofWord? ho]
    exact readTest_memberOf c.column _ rest
  · rename_i ho
    rw [ho, ← Operator.word_of_ofWord? ho]
    exact readTest_isTest h rest
  · rename_i o hlike hin his ho
    obtain rfl := Except.ok.inj h
    rw [ho, ← Operator.word_of_ofWord? ho]
    cases o <;> first | rfl | contradiction

/-! ### Clauses

Each is read back before any rest that it cannot run into. -/

theorem items_joinPieces_cons (between : String) (s : Statement) (ss : List Statement) :
    ∃ tail, (joinPieces between (s :: ss)).items = s.items ++ tail := by
  cases ss with
  | nil => exact ⟨[], (List.append_nil _).symm⟩
  | cons t ss => exact ⟨_, Statement.items_append s _⟩

theorem readColumns_columnList (select : Option (List String)) (rest : List Item)
    (hr : skip? ", " rest = none) :
    readColumns ((columnList select).items ++ rest) = some (select.getD [], rest) := by
  unfold columnList
  split
  · rfl
  · rfl
  · rename_i columns hne
    have hread : readSeq name? ", " ((nameList columns).items ++ rest) = some (columns, rest) :=
      readSeq_map (fun _ _ => rfl) rfl hr hne
    have hstar : skip? "*" ((nameList columns).items ++ rest) = none := by
      obtain ⟨n, ns, rfl⟩ := List.exists_cons_of_ne_nil hne
      obtain ⟨tail, htail⟩ := items_joinPieces_cons ", " [.name n] (ns.map fun n => [.name n])
      rw [nameList, List.map_cons, htail]
      rfl
    simp only [readColumns, hstar, hread, Option.getD_some]

theorem readTable_qualifiedName (table : String) (schema : Option String) {rest : List Item}
    (hr : skip? "." rest = none) :
    readTable ((qualifiedName table schema).items ++ rest) =
      some ((schema.filter fun s => !s.isEmpty, table), rest) := by
  have hplain : readTable (.name table :: rest) = some ((none, table), rest) := by
    simp only [readTable, name?, Option.bind_some, hr]
  unfold qualifiedName
  split
  · exact hplain
  · rename_i s
    by_cases hs : s.isEmpty = true
    · rw [if_pos hs, Option.filter_some_neg (by simpa using hs)]
      exact hplain
    · rw [if_neg hs, Option.filter_some_pos (by simpa using hs)]
      rfl

theorem readTests_whereClause {cs : List Condition} {s : Statement} {rest : List Item}
    (h : whereClause d cs = .ok s) (hwhere : skip? " WHERE " rest = none)
    (hand : skip? " AND " rest = none) :
    readTests (s.items ++ rest) = some (cs.map Condition.test, rest) := by
  rcases whereClause_cases h with ⟨rfl, rfl⟩ | ⟨hne, tests, hall, rfl⟩
  · simp only [Statement.items, List.nil_append, readTests, hwhere, List.map_nil]
  · have htests : List.Forall₂ (fun t a => ∀ rest, readTest (t.items ++ rest) = some (a, rest))
        tests (cs.map Condition.test) :=
      List.forall₂_map_right_iff.mpr (hall.flip.imp fun t c hc => readTest_condition hc)
    have htests0 : tests ≠ [] := by
      rintro rfl
      exact hne (List.forall₂_nil_right_iff.mp hall)
    simp only [Statement.items, List.append_assoc, readTests, skip?_append]
    exact readSeq_join rfl hand htests htests0

def termPieces (t : OrderTerm) : Statement :=
  [.name t.column, .text (if t.descending then " DESC" else " ASC")]

theorem readTerm_termPieces (t : OrderTerm) (rest : List Item) :
    readTerm ((termPieces t).items ++ rest) = some (t, rest) := by
  obtain ⟨column, descending⟩ := t
  cases descending
  · simp only [termPieces, Bool.false_eq_true, if_false]
    rfl
  · simp only [termPieces, if_true]
    rfl

theorem readOrder_orderClause (d : Dialect) (terms : List OrderTerm) {rest : List Item}
    (hnull : skip? " ORDER BY (SELECT NULL)" rest = none) (horder : skip? " ORDER BY " rest = none)
    (hcomma : skip? ", " rest = none) :
    readOrder ((orderClause d terms).items ++ rest) = some (terms, rest) := by
  unfold orderClause
  split
  · rename_i h
    obtain rfl := List.isEmpty_iff.mp h
    cases d
    · simp only [Dialect.pagesNeedOrder, Bool.false_eq_true, if_false, Statement.items,
        List.nil_append, readOrder, hnull, horder]
    · rfl
  · rename_i h
    obtain ⟨t, ts, rfl⟩ := List.exists_cons_of_ne_nil fun h0 => h (List.isEmpty_iff.mpr h0)
    have hread := readSeq_map readTerm_termPieces rfl hcomma (List.cons_ne_nil t ts)
    have hnamed : skip? " ORDER BY (SELECT NULL)" (" ORDER BY ".toList.map .char ++
        ((joinPieces ", " ((t :: ts).map termPieces)).items ++ rest)) = none := by
      obtain ⟨tail, htail⟩ := items_joinPieces_cons ", " (termPieces t) (ts.map termPieces)
      rw [List.map_cons, htail]
      rfl
    change readOrder (" ORDER BY ".toList.map .char ++
      (joinPieces ", " ((t :: ts).map termPieces)).items ++ rest) = some (t :: ts, rest)
    rw [List.append_assoc]
    simp only [readOrder, hnamed, skip?_append, hread]

/-- The row of a page. -/
def boundItems (d : Dialect) (limit offset : Int) : List Item :=
  match d with
  | .postgres =>
    " LIMIT ".toList.map .char ++ (limit.repr.toList.map .char ++
      (" OFFSET ".toList.map .char ++ (offset.repr.toList.map .char ++ [])))
  | .sqlServer =>
    " OFFSET ".toList.map .char ++ (offset.repr.toList.map .char ++
      (" ROWS FETCH NEXT ".toList.map .char ++ (limit.repr.toList.map .char ++
        " ROWS ONLY".toList.map .char)))

theorem items_page (d : Dialect) (limit offset : Int) :
    Statement.items [.text (" " ++ d.paginate limit offset)] = boundItems d limit offset := by
  have hlimit : " " ++ "LIMIT " = " LIMIT " := by decide
  have hoffset : " " ++ "OFFSET " = " OFFSET " := by decide
  cases d
  · simp only [Statement.items, Dialect.paginate, Int.toString_eq_repr, ← String.append_assoc,
      hlimit]
    simp only [String.toList_append, List.map_append, List.append_assoc]
    rfl
  · simp only [Statement.items, Dialect.paginate, Int.toString_eq_repr, ← String.append_assoc,
      hoffset]
    simp only [String.toList_append, List.map_append, List.append_assoc, List.append_nil]
    rfl

theorem readBounds_boundItems (d : Dialect) (limit offset : Int) :
    readBounds (boundItems d limit offset) = some (limit, offset) := by
  cases d
  · have hlimit := readInt_repr limit
      (" OFFSET ".toList.map .char ++ (offset.repr.toList.map .char ++ [])) rfl
    have hoffset := readInt_repr offset [] rfl
    change readBounds (" LIMIT ".toList.map .char ++ (limit.repr.toList.map .char ++
      (" OFFSET ".toList.map .char ++ (offset.repr.toList.map .char ++ [])))) = _
    simp only [readBounds, skip?_append, hlimit, hoffset, Option.bind_eq_bind, Option.bind_some]
  · have hoffset := readInt_repr offset (" ROWS FETCH NEXT ".toList.map .char ++
      (limit.repr.toList.map .char ++ " ROWS ONLY".toList.map .char)) rfl
    have hlimit := readInt_repr limit (" ROWS ONLY".toList.map .char) rfl
    have hnone : skip? " LIMIT " (boundItems .sqlServer limit offset) = none := rfl
    have hskip : skip? " OFFSET " (boundItems .sqlServer limit offset) = some _ :=
      skip?_append " OFFSET " _
    simp only [readBounds, hnone, hskip, hoffset, hlimit, skip?_append, Option.bind_eq_bind,
      Option.bind_some]

/-- What follows the conditions runs into neither the table nor the
conditions. -/
theorem skip?_orderClause (d : Dialect) (terms : List OrderTerm) (limit offset : Int) :
    let rest := (orderClause d terms).items ++ boundItems d limit offset
    skip? "." rest = none ∧ skip? " WHERE " rest = none ∧ skip? " AND " rest = none := by
  intro rest
  cases d <;> cases terms <;> exact ⟨rfl, rfl, rfl⟩

/-! ### The whole statement -/

variable {c : Compiler} {table : String} {schema : Option String} {filter : Filter}
  {s : Statement}

/-- **A page of rows is read back from its statement.** -/
theorem readItems_select (h : c.select table filter schema = .ok s) :
    readItems s.items = some (c.page table filter schema) := by
  obtain ⟨tests, ht, rfl⟩ := select_ok h
  obtain ⟨hdot, hwhere, hand⟩ := skip?_orderClause c.dialect filter.order
    (c.effectiveLimit filter.limit) (filter.offset.getD 0)
  set bounds := boundItems c.dialect (c.effectiveLimit filter.limit) (filter.offset.getD 0)
    with hbounds
  -- a dot behind the table would make it a schema
  have htable : skip? "." (tests.items ++ ((orderClause c.dialect filter.order).items ++ bounds)) =
      none := by
    rcases whereClause_cases ht with ⟨-, rfl⟩ | ⟨-, ts, -, rfl⟩
    · exact hdot
    · rfl
  have horder : readOrder ((orderClause c.dialect filter.order).items ++ bounds) =
      some (filter.order, bounds) := by
    refine readOrder_orderClause c.dialect filter.order ?_ ?_ ?_ <;>
      rw [hbounds] <;> cases c.dialect <;> rfl
  have hend : readBounds bounds = some (c.effectiveLimit filter.limit, filter.offset.getD 0) :=
    readBounds_boundItems _ _ _
  have hcolumns := readColumns_columnList filter.select (" FROM ".toList.map .char ++
    ((qualifiedName table schema).items ++ (tests.items ++
      ((orderClause c.dialect filter.order).items ++ bounds)))) rfl
  simp only [Statement.items_append, items_page, ← hbounds]
  simp only [Statement.items, List.append_assoc]
  simp only [readItems, skip?_append, hcolumns, readTable_qualifiedName table schema htable,
    readTests_whereClause ht hwhere hand, horder, hend, Option.bind_eq_bind, Option.bind_some]
  rfl

/-- **A page that was asked for can be read from what is sent**, with a decoder
that knows nothing but the dialect. So requests that differ in what a page shows
are never sent as the same command. -/
theorem select_determines_page (c : Compiler) :
    (∀ table filter schema s, c.select table filter schema = .ok s →
      readPage c.dialect (s.command c.dialect) = some (c.page table filter schema)) ∧
    ∀ table filter schema s table' filter' schema' s',
      c.select table filter schema = .ok s → c.select table' filter' schema' = .ok s' →
      s.command c.dialect = s'.command c.dialect →
      c.page table filter schema = c.page table' filter' schema' := by
  have hread : ∀ table filter schema s, c.select table filter schema = .ok s →
      readPage c.dialect (s.command c.dialect) = some (c.page table filter schema) := by
    intro table filter schema s h
    rw [readPage, Statement.items_command c.dialect (select_spec h).1, readItems_select h]
  refine ⟨hread, fun table filter schema s table' filter' schema' s' h h' hs => ?_⟩
  have hpage := hread table filter schema s h
  rw [hs, hread table' filter' schema' s' h'] at hpage
  exact (Option.some.inj hpage).symm

/-- Names that read like the end of a clause, a tuple for a list, a test without a
parameter, and a limit above the ceiling. -/
theorem select_determines_page_names :
    let c : Compiler := ⟨.sqlServer, 10, by decide⟩
    let filter : Filter :=
      { select := some ["a], [b"], limit := some 50
        conditions := [⟨"x] AND [y", "in", .tuple [.int 1, .null]⟩, ⟨"z", "is", .bool true⟩] }
    ∃ s, c.select "t" filter (some "") = .ok s ∧
      (s.command .sqlServer).text = "SELECT [a]], [b] FROM [t] WHERE [x]] AND [y] IN " ++
        "(@param0, @param1) AND [z] = 1 ORDER BY (SELECT NULL) OFFSET 0 ROWS FETCH NEXT 10 " ++
        "ROWS ONLY" ∧
      readPage .sqlServer (s.command .sqlServer) = some
        { table := "t", schema := none, columns := ["a], [b"]
          tests := [⟨some "x] AND [y", "in", [.int 1, .null]⟩, ⟨some "z", "is", [.bool true]⟩]
          order := [], limit := 10, offset := 0 } := by
  intro c filter
  have h : c.select "t" filter (some "") = .ok _ :=
    select_of_tests rfl (by decide +kernel) (by decide +kernel)
  exact ⟨_, h, by decide, (select_determines_page c).1 "t" filter (some "") _ h⟩

end Compiler
end TableGate

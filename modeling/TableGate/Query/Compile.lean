/-
# Statements for a filter

What a request asks of a table, as one statement of the dialect: the rows of a
page, their number, one row by its key, and the insertion, change and removal of
rows. A change or a removal without a condition is refused, so no request
touches every row of a table.

Every value travels as a parameter, in the order in which the clauses stand: the
values of a row or of the assignments, then the operands of the conditions or
the key.

Key definitions: `Compiler`, `Compiler.condition`, `Compiler.select`,
`Compiler.count`, `Compiler.selectByKey`, `Compiler.insert`, `Compiler.update`,
`Compiler.updateByKey`, `Compiler.delete`, `Compiler.deleteByKey`.
-/
import TableGate.Query.Read
import TableGate.Sql.Statement

namespace TableGate

/-- A dialect and the most rows that one page holds. -/
structure Compiler where
  dialect : Dialect
  maxRows : Int
  maxRows_pos : 0 < maxRows

/-- The most rows of a page if nothing else is said. -/
def defaultMaxRows : Int := 1000

namespace Compiler

/-- A compiler; a ceiling that is not positive is refused. -/
def make (d : Dialect) (maxRows : Int) : Except Fault Compiler :=
  if h : 0 < maxRows then .ok ⟨d, maxRows, h⟩ else .error (.refused (.rowCeiling maxRows))

/-- The number of rows asked for, at most the ceiling; none and zero ask for as
many as there may be. -/
def effectiveLimit (c : Compiler) (requested : Option Int) : Int :=
  match requested with
  | none => c.maxRows
  | some n => if n = 0 then c.maxRows else min n c.maxRows

/-- The sign of a comparison. -/
def comparison? : Operator → Option String
  | .eq => some "="
  | .neq => some "<>"
  | .gt => some ">"
  | .gte => some ">="
  | .lt => some "<"
  | .lte => some "<="
  | .like => some "LIKE"
  | _ => none

/-- The operands of `in`; a single value stands for a list of one. -/
def operands : Value → List Value
  | .list items | .tuple items => items
  | v => [v]

/-- A column is one of the values; no column is one of none. -/
def memberOf (column : String) (values : List Value) : Statement :=
  if values.isEmpty then [.text "1 = 0"]
  else [.name column, .text " IN ("] ++ valueList values ++ [.text ")"]

/-- A pattern matches regardless of case. -/
def caselessLike (d : Dialect) (column : String) (v : Value) : Statement :=
  if d.hasCaselessLike then [.name column, .text " ILIKE ", .value v]
  else [.text "LOWER(", .name column, .text ") LIKE LOWER(", .value v, .text ")"]

/-- A column is null, is not null, is true or is false. -/
def isTest (d : Dialect) (column : String) : Value → Except Fault Statement
  | .null => .ok [.name column, .text " IS NULL"]
  | .bool b =>
    .ok (if d.hasBooleanTest then [.name column, .text (if b then " IS TRUE" else " IS FALSE")]
      else [.name column, .text (" = " ++ d.boolLiteral b)])
  | .text s =>
    if s = notNullWord then .ok [.name column, .text " IS NOT NULL"]
    else .error (.api (.validation (.isOperand column s)))
  | v =>
    if v.isTooLong then .error (.refused .unreadable)
    else .error (.api (.validation (.isOperand column v.shown)))

def condition (d : Dialect) (c : Condition) : Except Fault Statement :=
  match Operator.ofWord? c.operator with
  | none => .error (Operator.unsupported c.operator)
  | some .ilike => .ok (caselessLike d c.column c.value)
  | some .isIn => .ok (memberOf c.column (operands c.value))
  | some .is => isTest d c.column c.value
  | some o =>
    .ok [.name c.column, .text (" " ++ (comparison? o).getD "=" ++ " "), .value c.value]

/-- The conditions, all of which must hold. -/
def whereClause (d : Dialect) (conditions : List Condition) : Except Fault Statement :=
  if conditions.isEmpty then .ok []
  else do
    let tests ← conditions.mapM (condition d)
    pure (.text " WHERE " :: joinPieces " AND " tests)

/-- The order; where a page needs one and none is asked for, any will do. -/
def orderClause (d : Dialect) (terms : List OrderTerm) : Statement :=
  if terms.isEmpty then (if d.pagesNeedOrder then [.text " ORDER BY (SELECT NULL)"] else [])
  else .text " ORDER BY " :: joinPieces ", " (terms.map fun t =>
    [.name t.column, .text (if t.descending then " DESC" else " ASC")])

/-- A column and the value it is compared with or set to. -/
def pairing (column : String) (v : Value) : Statement := [.name column, .text " = ", .value v]

/-- The clause before the values or the condition, if the dialect has one. -/
def outputPart (d : Dialect) (rows : String) : Statement :=
  if (d.outputClause rows).isEmpty then [] else [.text (d.outputClause rows ++ " ")]

/-- The clause at the end, if the dialect has one. -/
def returningPart (d : Dialect) : Statement :=
  if d.returningClause.isEmpty then [] else [.text (" " ++ d.returningClause)]

/-- The picked columns, or all. -/
def columnList : Option (List String) → Statement
  | none | some [] => [.text "*"]
  | some columns => nameList columns

variable (c : Compiler)

/-- The page of rows that a filter asks for. -/
def select (table : String) (filter : Filter) (schema : Option String) :
    Except Fault Statement := do
  let tests ← whereClause c.dialect filter.conditions
  let page ← c.dialect.paginate? (c.effectiveLimit filter.limit) (filter.offset.getD 0)
  pure (.text "SELECT " :: columnList filter.select ++
    .text " FROM " :: qualifiedName table schema ++ tests ++
    orderClause c.dialect filter.order ++ [.text (" " ++ page)])

/-- The number of rows that satisfy the conditions of a filter. -/
def count (table : String) (filter : Filter) (schema : Option String) : Except Fault Statement := do
  let tests ← whereClause c.dialect filter.conditions
  pure (.text "SELECT COUNT(*) AS total FROM " :: qualifiedName table schema ++ tests)

/-- The row with a key. -/
def selectByKey (table keyColumn : String) (key : Value) (schema : Option String) : Statement :=
  .text "SELECT * FROM " :: qualifiedName table schema ++ .text " WHERE " :: pairing keyColumn key

/-- A new row, which is returned. -/
def insert (table : String) (row : Row) (schema : Option String) : Except Fault Statement :=
  if row.isEmpty then .error (.api (.validation (.emptyRow table)))
  else
    .ok (.text "INSERT INTO " :: qualifiedName table schema ++ .text " (" ::
      nameList (row.map Prod.fst) ++ .text ") " :: outputPart c.dialect "INSERTED" ++
      .text "VALUES (" :: valueList (row.map Prod.snd) ++ .text ")" :: returningPart c.dialect)

/-- The assignments of a change. -/
def assignments (table : String) (values : Row) : Except Fault Statement :=
  if values.isEmpty then .error (.api (.validation (.nothingToUpdate table)))
  else .ok (joinPieces ", " (values.map fun e => pairing e.1 e.2))

/-- A change of the rows that satisfy the conditions. -/
def update (table : String) (values : Row) (conditions : List Condition)
    (schema : Option String) : Except Fault Statement :=
  if conditions.isEmpty then .error (.api (.validation (.unfilteredUpdate table)))
  else do
    let sets ← assignments table values
    let tests ← whereClause c.dialect conditions
    pure (.text "UPDATE " :: qualifiedName table schema ++ .text " SET " :: sets ++ tests)

/-- A change of the row with a key, which is returned. -/
def updateByKey (table : String) (values : Row) (keyColumn : String) (key : Value)
    (schema : Option String) : Except Fault Statement := do
  let sets ← assignments table values
  pure (.text "UPDATE " :: qualifiedName table schema ++ .text " SET " :: sets ++
    .text " " :: outputPart c.dialect "INSERTED" ++ .text "WHERE " :: pairing keyColumn key ++
    returningPart c.dialect)

/-- The removal of the rows that satisfy the conditions. -/
def delete (table : String) (conditions : List Condition) (schema : Option String) :
    Except Fault Statement :=
  if conditions.isEmpty then .error (.api (.validation (.unfilteredDelete table)))
  else do
    let tests ← whereClause c.dialect conditions
    pure (.text "DELETE FROM " :: qualifiedName table schema ++ tests)

/-- The removal of the row with a key, which is returned. -/
def deleteByKey (table keyColumn : String) (key : Value) (schema : Option String) : Statement :=
  .text "DELETE FROM " :: qualifiedName table schema ++ .text " " ::
    outputPart c.dialect "DELETED" ++ .text "WHERE " :: pairing keyColumn key ++
    returningPart c.dialect

end Compiler
end TableGate

/-
# Filters

What a request asks of a table: the columns it picks, the conditions on the
rows, the order, and the page.

A condition keeps the word of its operator as it was asked for; `Operator.ofWord?`
tells whether there is such an operator.

Key definitions: `Operator`, `Condition`, `OrderTerm`, `Filter`.
-/
import TableGate.Error.Fault

namespace TableGate

inductive Operator where
  | eq
  | neq
  | gt
  | gte
  | lt
  | lte
  | like
  | ilike
  | isIn
  | is
deriving DecidableEq, Repr

namespace Operator

/-- Every operator, in the order in which they are listed to clients. -/
def all : List Operator := [.eq, .neq, .gt, .gte, .lt, .lte, .like, .ilike, .isIn, .is]

def word : Operator → String
  | .eq => "eq"
  | .neq => "neq"
  | .gt => "gt"
  | .gte => "gte"
  | .lt => "lt"
  | .lte => "lte"
  | .like => "like"
  | .ilike => "ilike"
  | .isIn => "in"
  | .is => "is"

/-- The operator that a word stands for. -/
def ofWord? (s : String) : Option Operator := all.find? fun o => o.word == s

theorem ofWord?_word (o : Operator) : ofWord? o.word = some o := by
  cases o <;> decide

theorem word_of_ofWord? {s : String} {o : Operator} (h : ofWord? s = some o) : o.word = s := by
  simpa using List.find?_some h

def words : List String := all.map word

/-- The error for a word that is no operator. -/
def unsupported (word : String) : Fault := .api (.unsupportedOperator word words)

end Operator

/-- The operand of `is` that selects the rows that are not null. -/
def notNullWord : String := "not.null"

structure Condition where
  column : String
  operator : String
  value : Value
deriving Repr, Inhabited

/-- A column to sort by. -/
structure OrderTerm where
  column : String
  descending : Bool
deriving DecidableEq, Repr, Inhabited

/-- What a request asks of a table. -/
structure Filter where
  select : Option (List String) := none
  conditions : List Condition := []
  order : List OrderTerm := []
  limit : Option Int := none
  offset : Option Int := none
deriving Repr, Inhabited

def Condition.toValue (c : Condition) : Value :=
  .record [("column", .text c.column), ("operator", .text c.operator), ("value", c.value)]

def OrderTerm.toValue (t : OrderTerm) : Value :=
  .record [("column", .text t.column), ("descending", .bool t.descending)]

def Filter.toValue (f : Filter) : Value :=
  .record [("select", optionValue textsValue f.select),
    ("where", .list (f.conditions.map Condition.toValue)),
    ("order", .list (f.order.map OrderTerm.toValue)),
    ("limit", optionValue .int f.limit), ("offset", optionValue .int f.offset)]

end TableGate

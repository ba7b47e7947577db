/-
# Statements

A statement is a row of pieces before it becomes text: fixed text, names, and
values. When it is written out, names are quoted and each value is replaced by
the mark of the next parameter; the values themselves travel apart from the
text. So nothing that a client sends can reach the fixed text, and there are as
many marks as parameters.

Key definitions: `Piece`, `Statement.params`, `Statement.text`, `qualifiedName`,
`nameList`.
-/
import TableGate.Sql.Dialect

namespace TableGate

/-- A piece of a statement. -/
inductive Piece where
  /-- Fixed text: keywords, punctuation, numbers. -/
  | text (s : String)
  /-- A name, to be quoted. -/
  | name (s : String)
  /-- A value, to be bound as the next parameter. -/
  | value (v : Value)
deriving Repr, Inhabited

/-- A statement: its pieces from left to right. -/
abbrev Statement := List Piece

/-- A statement as it is sent: its text, and the parameters it is sent with. -/
structure Command where
  text : String
  params : List Value
deriving Repr, Inhabited

namespace Statement

/-- The values of a statement, in the order of their marks. -/
def params : Statement → List Value
  | [] => []
  | .value v :: rest => v :: params rest
  | _ :: rest => params rest

/-- The text of the pieces, where `index` is the index of the next parameter. -/
def textFrom (d : Dialect) (index : Nat) : Statement → String
  | [] => ""
  | .text s :: rest => s ++ textFrom d index rest
  | .name s :: rest => d.quote s ++ textFrom d index rest
  | .value _ :: rest => d.slot index ++ textFrom d (index + 1) rest

def text (d : Dialect) (s : Statement) : String := textFrom d 0 s

def command (d : Dialect) (s : Statement) : Command := ⟨s.text d, s.params⟩

@[simp] theorem params_text (t : String) (s : Statement) :
    Statement.params (.text t :: s) = s.params := rfl

@[simp] theorem params_name (n : String) (s : Statement) :
    Statement.params (.name n :: s) = s.params := rfl

@[simp] theorem params_value (v : Value) (s : Statement) :
    Statement.params (.value v :: s) = v :: s.params := rfl

/-- The values of a statement made of two are those of the first, then those of
the second. -/
theorem params_append (s t : Statement) :
    Statement.params (s ++ t) = s.params ++ t.params := by
  induction s with
  | nil => rfl
  | cons p s ih => cases p <;> simp [params, ih]

/-- The second of two statements is numbered on from the values of the first. -/
theorem textFrom_append (d : Dialect) (index : Nat) (s t : Statement) :
    textFrom d index (s ++ t) =
      textFrom d index s ++ textFrom d (index + s.params.length) t := by
  induction s generalizing index with
  | nil => simp [textFrom, params]
  | cons p s ih =>
    cases p <;> simp [textFrom, params, ih, String.append_assoc, Nat.add_assoc, Nat.add_comm]

end Statement

/-- Rows of pieces with a text between them. -/
def joinPieces (between : String) : List Statement → Statement
  | [] => []
  | [ps] => ps
  | ps :: qs :: rest => ps ++ .text between :: joinPieces between (qs :: rest)

/-- A name qualified by a schema; an empty or absent schema is left out. -/
def qualifiedName (name : String) (schema : Option String) : Statement :=
  match schema with
  | none => [.name name]
  | some s => if s.isEmpty then [.name name] else [.name s, .text ".", .name name]

/-- Names with commas between them. -/
def nameList (names : List String) : Statement := joinPieces ", " (names.map fun n => [.name n])

/-- Values with commas between them. -/
def valueList (values : List Value) : Statement :=
  joinPieces ", " (values.map fun v => [.value v])

theorem params_joinPieces (between : String) (ss : List Statement) :
    Statement.params (joinPieces between ss) = ss.flatMap Statement.params := by
  fun_induction joinPieces between ss with
  | case1 => rfl
  | case2 ps => simp
  | case3 ps qs rest ih => simp [Statement.params_append, Statement.params, ih]

theorem params_qualifiedName (name : String) (schema : Option String) :
    Statement.params (qualifiedName name schema) = [] := by
  unfold qualifiedName
  split
  · rfl
  · split <;> rfl

theorem params_nameList (names : List String) : Statement.params (nameList names) = [] := by
  simp [nameList, params_joinPieces, List.flatMap_map, Statement.params]

theorem params_valueList (values : List Value) :
    Statement.params (valueList values) = values := by
  simp [valueList, params_joinPieces, List.flatMap_map, Statement.params]

end TableGate

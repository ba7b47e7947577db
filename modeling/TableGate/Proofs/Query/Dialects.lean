/-
# Requests compile alike in all dialects

The dialects differ in how names are quoted and parameters are marked, in the
test for a boolean, the pattern that is matched regardless of case, the page, and
the place of the clause that returns a row. None of this decides whether a request
is compiled, what is wrong with it if it is not, or which values are bound: in any
two dialects a request fails with the same fault, or it compiles to statements with
the same parameters (`Request.compile_alike`).

A mark tells the position of a parameter by a number that is counted from one or
from zero, as the dialect has it (`Sql.position?`). The positions that a text refers
to outside of names are those of all its parameters, each once and from the left, so
they are the same in all dialects too.

A clause is taken by itself: it ends alike in two dialects, whatever its text is
there. The parameters need no second look, for they are the values of the request
(`Request.statement_spec`).

Key definitions: `Sql.position?`, `Sql.positions`, `Request.compile`.
Key theorems: `Statement.positions_text`, `Compiler.condition_alike`,
`Request.statement_alike`, `Request.compile_alike`.
-/
import TableGate.Proofs.Query.Request

namespace TableGate

namespace Sql

/-! ### Positions -/

/-- The position of the parameter that is marked with digits, counted from zero. -/
def position? (d : Dialect) (digits : List Char) : Option Nat :=
  (Decimal.natural? digits).bind fun n => if d.slotBase ≤ n then some (n - d.slotBase) else none

/-- What a mark refers to. -/
def Glyph.referent? (d : Dialect) : Glyph → Option (Option Nat)
  | .slot digits => some (position? d digits)
  | _ => none

/-- The positions that a text refers to outside of names, from the left; a mark whose
number is that of no parameter refers to none. -/
def positions (d : Dialect) (s : String) : List (Option Nat) :=
  (scan d s).filterMap (Glyph.referent? d)

theorem position?_toDigits (d : Dialect) (index : Nat) :
    position? d (Nat.toDigits 10 (index + d.slotBase)) = some index := by
  rw [position?, Number.natural?_toDigits, Option.bind_some, if_pos (Nat.le_add_left _ _),
    Nat.add_sub_cancel]

end Sql

namespace Statement

open Sql

theorem positions_glyphsFrom (d : Dialect) : ∀ (index : Nat) (s : Statement),
    (glyphsFrom d index s).filterMap (Glyph.referent? d) =
      (List.range' index s.params.length).map some
  | _, [] => rfl
  | index, .text t :: s => by
    have hchars : (t.toList.map Glyph.char).filterMap (Glyph.referent? d) = [] := by
      simp [List.filterMap_map, Function.comp_def, Glyph.referent?]
    rw [glyphsFrom, List.filterMap_append, hchars, positions_glyphsFrom d index s]
    rfl
  | index, .name n :: s => by
    rw [glyphsFrom, List.filterMap_cons]
    exact positions_glyphsFrom d index s
  | index, .value v :: s => by
    rw [glyphsFrom, List.filterMap_cons, positions_glyphsFrom d (index + 1) s, params,
      List.length_cons, List.range'_succ, List.map_cons]
    simp only [Glyph.referent?, position?_toDigits]

/-- **Outside of names the text refers to each parameter once**, from the first to
the last, in whatever dialect. -/
theorem positions_text (d : Dialect) {s : Statement} (h : Spaced s) :
    positions d (s.text d) = (List.range s.params.length).map some := by
  rw [positions, scan, text, scan_text d 0 s h, positions_glyphsFrom, List.range_eq_range']

end Statement

namespace Compiler

open Results

variable (d d' : Dialect)

/-! ### Clauses -/

theorem isTest_alike (column : String) (v : Value) :
    Alike (fun _ _ => True) (isTest d column v) (isTest d' column v) := by
  cases v with
  | null | bool b => exact .ok trivial
  | text s =>
    simp only [isTest]
    split
    · exact .ok trivial
    · exact .error _
  | _ =>
    simp only [isTest]
    split <;> exact .error _

/-- **A condition is refused alike**, with the same fault. -/
theorem condition_alike (c : Condition) :
    Alike (fun _ _ => True) (condition d c) (condition d' c) := by
  unfold condition
  cases Operator.ofWord? c.operator with
  | none => exact .error _
  | some o =>
    cases o with
    | is => exact isTest_alike d d' c.column c.value
    | _ => exact .ok trivial

theorem whereClause_alike (conditions : List Condition) :
    Alike (fun _ _ => True) (whereClause d conditions) (whereClause d' conditions) := by
  unfold whereClause
  split
  · exact .ok trivial
  · exact (Alike.mapM fun c _ => condition_alike d d' c).bind fun _ _ _ => .ok trivial

theorem paginate?_alike (limit offset : Int) :
    Alike (fun _ _ => True) (d.paginate? limit offset) (d'.paginate? limit offset) := by
  unfold Dialect.paginate?
  split
  · exact .error _
  · exact .ok trivial

/-- A ceiling is refused alike, and else kept. -/
theorem make_alike (maxRows : Int) :
    Alike (fun c c' : Compiler => c.maxRows = c'.maxRows ∧ c.dialect = d ∧ c'.dialect = d')
      (make d maxRows) (make d' maxRows) := by
  unfold make
  split
  · exact .ok ⟨rfl, rfl, rfl⟩
  · exact .error _

namespace Request

open Sql

variable {d d'} {c c' : Compiler} {table : String} {schema : Option String}

/-! ### Statements -/

/-- What is sent for a request. -/
def compile (d : Dialect) (maxRows : Int) (table : String) (schema : Option String)
    (r : Request) : Except Fault Command := do
  let c ← make d maxRows
  let s ← r.statement c table schema
  pure (s.command d)

/-- **A request is refused alike**, with the same fault, by compilers that differ in
the dialect only. -/
theorem statement_alike (hrows : c.maxRows = c'.maxRows) (r : Request) :
    Alike (fun _ _ => True) (r.statement c table schema) (r.statement c' table schema) := by
  have hlimit : ∀ limit, c.effectiveLimit limit = c'.effectiveLimit limit := fun limit => by
    unfold effectiveLimit
    rw [hrows]
  have hwhere := whereClause_alike c.dialect c'.dialect
  cases r with
  | select filter =>
    refine (hwhere filter.conditions).bind fun _ _ _ => ?_
    rw [hlimit]
    exact (paginate?_alike _ _ _ _).bind fun _ _ _ => .ok trivial
  | count filter => exact (hwhere filter.conditions).bind fun _ _ _ => .ok trivial
  | selectByKey column key => exact .ok trivial
  | insert row =>
    change Alike _ (c.insert table row schema) (c'.insert table row schema)
    unfold Compiler.insert
    split
    · exact .error _
    · exact .ok trivial
  | update values conditions =>
    change Alike _ (c.update table values conditions schema)
      (c'.update table values conditions schema)
    unfold Compiler.update
    split
    · exact .error _
    · refine (Alike.refl (fun _ => rfl) (assignments table values)).bind fun sets sets' hsets => ?_
      exact (hwhere conditions).bind fun _ _ _ => .ok trivial
  | updateByKey values column key =>
    exact (Alike.refl (fun _ => rfl) (assignments table values)).bind fun _ _ _ => .ok trivial
  | delete conditions =>
    change Alike _ (c.delete table conditions schema) (c'.delete table conditions schema)
    unfold Compiler.delete
    split
    · exact .error _
    · exact (hwhere conditions).bind fun _ _ _ => .ok trivial
  | deleteByKey column key => exact .ok trivial

/-- **In any two dialects a request comes to the same.** Whatever the ceiling and the
request, both compilations fail with one fault, or both succeed, with the same
parameters and with texts that refer to the same positions, outside of names and from
the left: to each parameter once, in order. -/
theorem compile_alike (d d' : Dialect) (maxRows : Int) (table : String) (schema : Option String)
    (r : Request) :
    Alike (fun cmd cmd' : Command => cmd.params = cmd'.params ∧
        positions d cmd.text = positions d' cmd'.text ∧
        positions d cmd.text = (List.range cmd.params.length).map some)
      (r.compile d maxRows table schema) (r.compile d' maxRows table schema) := by
  refine (make_alike d d' maxRows).bind fun c c' ⟨hrows, hd, hd'⟩ => ?_
  subst hd hd'
  have hstatements : Alike (fun s s' : Statement =>
      (Statement.Spaced s ∧ s.params = r.values) ∧ Statement.Spaced s' ∧ s'.params = r.values)
      (r.statement c table schema) (r.statement c' table schema) :=
    (statement_alike hrows r).imp fun s s' hs hs' _ => ⟨statement_spec hs, statement_spec hs'⟩
  refine hstatements.bind fun s s' ⟨⟨hs, hparams⟩, hs', hparams'⟩ => .ok ?_
  have hpositions : positions c.dialect (s.text c.dialect) =
      (List.range s.params.length).map some := Statement.positions_text c.dialect hs
  refine ⟨hparams.trans hparams'.symm, ?_, hpositions⟩
  calc positions c.dialect (s.text c.dialect)
      = (List.range r.values.length).map some := by rw [hpositions, hparams]
    _ = positions c'.dialect (s'.text c'.dialect) := by
        rw [Statement.positions_text c'.dialect hs', hparams']

/-- A name that looks like a mark refers to nothing. -/
example :
    positions .postgres "SELECT \"$7\" FROM \"t\" WHERE \"a\" ILIKE $1 AND \"b\" = $2" =
      [some 0, some 1] ∧
    positions .sqlServer "SELECT [@param7] FROM [t] WHERE LOWER([a]) LIKE LOWER(@param0)" =
      [some 0] := by
  decide

end Request
end Compiler
end TableGate

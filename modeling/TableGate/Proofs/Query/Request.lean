/-
# The statements of all requests

A request names one of the eight statements that a compiler writes for a table,
with what goes into it. Whatever it holds, the statement it compiles to is
spaced, so its text is read back into its pieces, and its parameters are the
values of the request in the order of the clauses (`statement_spec`). The two
together say what is sent: the marks outside of names are those of the
parameters, in their order (`marks_command`).

A clause is taken by itself: what it writes is spaced, begins with a break
where it follows a name, and binds the values of its part of the request.

Key definitions: `Compiler.Request`, `Request.statement`, `Request.values`,
`Condition.operands`.
Key theorems: `Request.statement_spec`, `Request.marks_command`.
-/
import TableGate.Proofs.Except
import TableGate.Proofs.Sql.Scan
import TableGate.Query.Compile

namespace TableGate

/-- What is asked of a table, and with which values. -/
inductive Compiler.Request where
  | select (filter : Filter)
  | count (filter : Filter)
  | selectByKey (column : String) (key : Value)
  | insert (row : Row)
  | update (values : Row) (conditions : List Condition)
  | updateByKey (values : Row) (column : String) (key : Value)
  | delete (conditions : List Condition)
  | deleteByKey (column : String) (key : Value)

/-- The values that a condition compares with: each item of a list, none for a
test, else the one that is given. -/
def Condition.operands (c : Condition) : List Value :=
  match Operator.ofWord? c.operator with
  | some .isIn => Compiler.operands c.value
  | some .is => []
  | _ => [c.value]

namespace Compiler.Request

/-- The statement for a request. -/
def statement (c : Compiler) (table : String) (schema : Option String) :
    Request → Except Fault Statement
  | .select filter => c.select table filter schema
  | .count filter => Compiler.count c table filter schema
  | .selectByKey column key => .ok (Compiler.selectByKey table column key schema)
  | .insert row => c.insert table row schema
  | .update values conditions => c.update table values conditions schema
  | .updateByKey values column key => c.updateByKey table values column key schema
  | .delete conditions => c.delete table conditions schema
  | .deleteByKey column key => .ok (c.deleteByKey table column key schema)

/-- The values of a request in the order of the clauses: those of the row or of
the assignments, then the operands of the conditions or the key. -/
def values : Request → List Value
  | .select filter => filter.conditions.flatMap Condition.operands
  | .count filter => filter.conditions.flatMap Condition.operands
  | .selectByKey _ key => [key]
  | .insert row => row.map Prod.snd
  | .update values conditions =>
    values.map Prod.snd ++ conditions.flatMap Condition.operands
  | .updateByKey values _ key => values.map Prod.snd ++ [key]
  | .delete conditions => conditions.flatMap Condition.operands
  | .deleteByKey _ key => [key]

end Compiler.Request

namespace Statement

open Sql

/-! ### Parts of statements

A part that may follow a name is spaced and begins with a break. -/

/-- A spaced part that may follow a name or a value. -/
def Follows (s : Statement) : Prop := Spaced s ∧ opensWithBreak s = true

theorem Follows.nil : Follows [] := ⟨trivial, rfl⟩

theorem Follows.text {t : String} {s : Statement} (ht : t.toList.all isPlain = true)
    (hb : t.toList.head?.any isBreak = true) (hs : Spaced s) : Follows (.text t :: s) :=
  ⟨⟨ht, hs⟩, hb⟩

theorem Spaced.append {s t : Statement} (hs : Spaced s) (ht : Follows t) : Spaced (s ++ t) :=
  spaced_append hs ht.1 ht.2

theorem Follows.append {s t : Statement} (hs : Follows s) (ht : Follows t) : Follows (s ++ t) :=
  ⟨spaced_append hs.1 ht.1 ht.2, opensWithBreak_append hs.2 ht.2⟩

theorem Follows.name {n : String} {s : Statement} (hs : Follows s) : Spaced (.name n :: s) :=
  ⟨hs.2, hs.1⟩

theorem Follows.value {v : Value} {s : Statement} (hs : Follows s) : Spaced (.value v :: s) :=
  ⟨hs.2, hs.1⟩

theorem spaced_joinPieces {between : String} (hp : between.toList.all isPlain = true)
    (hb : between.toList.head?.any isBreak = true) (ss : List Statement)
    (h : ∀ s ∈ ss, Spaced s) : Spaced (joinPieces between ss) := by
  fun_induction joinPieces between ss with
  | case1 => trivial
  | case2 s => exact h s (by simp)
  | case3 s t rest ih =>
    have hs : Spaced s := h s (by simp)
    exact hs.append (.text hp hb (ih fun u hu => h u (by simp [hu])))

theorem spaced_qualifiedName (name : String) (schema : Option String) :
    Spaced (qualifiedName name schema) := by
  unfold qualifiedName
  split
  · exact ⟨rfl, trivial⟩
  · split
    · exact ⟨rfl, trivial⟩
    · exact ⟨rfl, by decide, rfl, trivial⟩

theorem spaced_nameList (names : List String) : Spaced (nameList names) := by
  refine spaced_joinPieces (by decide) (by decide) _ fun s hs => ?_
  obtain ⟨n, -, rfl⟩ := List.mem_map.mp hs
  exact ⟨rfl, trivial⟩

theorem spaced_valueList (values : List Value) : Spaced (valueList values) := by
  refine spaced_joinPieces (by decide) (by decide) _ fun s hs => ?_
  obtain ⟨v, -, rfl⟩ := List.mem_map.mp hs
  exact ⟨rfl, trivial⟩

theorem isPlain_of_isAsciiDigit {c : Char} (h : Text.isAsciiDigit c = true) :
    isPlain c = true := by
  have hc : c ∉ ['"', '[', ']', '$', '@'] := by
    intro hm
    simp only [List.mem_cons, List.not_mem_nil, or_false] at hm
    rcases hm with rfl | rfl | rfl | rfl | rfl <;> exact absurd h (by decide)
  simpa [isPlain] using hc

theorem all_isPlain_natRepr (n : Nat) : n.repr.toList.all isPlain = true := by
  rw [Nat.toList_repr, List.all_eq_true]
  exact fun c hc => isPlain_of_isAsciiDigit (Number.isAsciiDigit_of_mem_toDigits hc)

theorem all_isPlain_intRepr (n : Int) : n.repr.toList.all isPlain = true := by
  rw [Int.repr_eq_if]
  split
  · exact all_isPlain_natRepr _
  · rw [String.toList_append, List.all_append, all_isPlain_natRepr]
    decide

end Statement

namespace Compiler

open Sql Statement

variable {d : Dialect}

/-! ### Clauses -/

theorem spaced_comparison {o : Operator} {column : String} {v : Value} :
    Spaced [.name column, .text (" " ++ (comparison? o).getD "=" ++ " "), .value v] := by
  refine Follows.name (.text ?_ ?_ ⟨rfl, trivial⟩) <;> cases o <;> decide

theorem spaced_memberOf (column : String) (values : List Value) :
    Spaced (memberOf column values) := by
  unfold memberOf
  split
  · exact ⟨by decide, trivial⟩
  · have hlist : Spaced (valueList values ++ [.text ")"]) :=
      (spaced_valueList values).append (.text (by decide) (by decide) trivial)
    rw [List.append_assoc]
    exact Follows.name (.text (by decide) (by decide) hlist)

theorem spaced_caselessLike (d : Dialect) (column : String) (v : Value) :
    Spaced (caselessLike d column v) := by
  cases d with
  | postgres => exact ⟨rfl, by decide, rfl, trivial⟩
  | sqlServer => exact ⟨by decide, rfl, by decide, rfl, by decide, trivial⟩

theorem spaced_isTest {column : String} {v : Value} {s : Statement}
    (h : isTest d column v = .ok s) : Spaced s := by
  unfold isTest at h
  split at h
  · obtain rfl := Except.ok.inj h
    exact ⟨rfl, by decide, trivial⟩
  · rename_i b
    obtain rfl := Except.ok.inj h
    cases d <;> cases b <;> exact ⟨rfl, by decide, trivial⟩
  · split at h
    · obtain rfl := Except.ok.inj h
      exact ⟨rfl, by decide, trivial⟩
    · simp at h
  · split at h <;> simp at h

theorem params_isTest {column : String} {v : Value} {s : Statement}
    (h : isTest d column v = .ok s) : s.params = [] := by
  unfold isTest at h
  split at h
  · obtain rfl := Except.ok.inj h
    rfl
  · obtain rfl := Except.ok.inj h
    split <;> rfl
  · split at h
    · obtain rfl := Except.ok.inj h
      rfl
    · simp at h
  · split at h <;> simp at h

theorem params_memberOf (column : String) (values : List Value) :
    (memberOf column values).params = values := by
  unfold memberOf
  split
  · rename_i h
    simp [List.isEmpty_iff.mp h, params]
  · simp [params_append, params, params_valueList]

theorem params_caselessLike (d : Dialect) (column : String) (v : Value) :
    (caselessLike d column v).params = [v] := by
  cases d <;> rfl

theorem condition_spec {c : Condition} {s : Statement} (h : condition d c = .ok s) :
    Spaced s ∧ s.params = c.operands := by
  unfold condition at h
  unfold Condition.operands
  split at h
  · simp at h
  · rename_i ho
    obtain rfl := Except.ok.inj h
    rw [ho]
    exact ⟨spaced_caselessLike d _ _, params_caselessLike d _ _⟩
  · rename_i ho
    obtain rfl := Except.ok.inj h
    rw [ho]
    exact ⟨spaced_memberOf _ _, params_memberOf _ _⟩
  · rename_i ho
    rw [ho]
    exact ⟨spaced_isTest h, params_isTest h⟩
  · rename_i o hlike hin his ho
    obtain rfl := Except.ok.inj h
    rw [ho]
    refine ⟨spaced_comparison, ?_⟩
    cases o <;> first | rfl | contradiction

theorem whereClause_cases {cs : List Condition} {s : Statement} (h : whereClause d cs = .ok s) :
    (cs = [] ∧ s = []) ∨ (cs ≠ [] ∧ ∃ tests,
      List.Forall₂ (fun c t => condition d c = .ok t) cs tests ∧
      s = .text " WHERE " :: joinPieces " AND " tests) := by
  unfold whereClause at h
  split at h
  · rename_i hc
    exact .inl ⟨List.isEmpty_iff.mp hc, (Except.ok.inj h).symm⟩
  · rename_i hc
    obtain ⟨tests, ht, hs⟩ := Results.bind_eq_ok_iff.mp h
    exact .inr ⟨fun h0 => hc (List.isEmpty_iff.mpr h0), tests,
      (Results.mapM_eq_ok_iff _ _ _).mp ht, (Results.pure_eq_ok_iff.mp hs).symm⟩

theorem whereClause_of_ne_nil {cs : List Condition} {s : Statement} (hne : cs ≠ [])
    (h : whereClause d cs = .ok s) :
    ∃ tests, List.Forall₂ (fun c t => condition d c = .ok t) cs tests ∧
      s = .text " WHERE " :: joinPieces " AND " tests := by
  rcases whereClause_cases h with ⟨hcs, -⟩ | ⟨-, htests⟩
  · exact absurd hcs hne
  · exact htests

theorem whereClause_of_tests {cs : List Condition} {tests : List Statement} (hne : cs ≠ [])
    (h : List.Forall₂ (fun c t => condition d c = .ok t) cs tests) :
    whereClause d cs = .ok (.text " WHERE " :: joinPieces " AND " tests) := by
  rw [whereClause, if_neg fun h0 => hne (List.isEmpty_iff.mp h0)]
  exact Results.bind_eq_ok_iff.mpr ⟨tests, (Results.mapM_eq_ok_iff _ _ _).mpr h, rfl⟩

theorem params_tests {cs : List Condition} {tests : List Statement}
    (h : List.Forall₂ (fun c t => condition d c = .ok t) cs tests) :
    tests.flatMap Statement.params = cs.flatMap Condition.operands := by
  induction h with
  | nil => rfl
  | cons hc _ ih => rw [List.flatMap_cons, List.flatMap_cons, (condition_spec hc).2, ih]

/-- The conditions follow the table, and bind their operands in their order. -/
theorem whereClause_spec {cs : List Condition} {s : Statement} (h : whereClause d cs = .ok s) :
    Follows s ∧ s.params = cs.flatMap Condition.operands := by
  rcases whereClause_cases h with ⟨rfl, rfl⟩ | ⟨-, tests, hall, rfl⟩
  · exact ⟨Follows.nil, rfl⟩
  · have hspaced : ∀ t ∈ tests, Spaced t := by
      intro t ht
      obtain ⟨c, -, hc⟩ := Results.exists_of_forall₂ hall ht
      exact (condition_spec hc).1
    refine ⟨.text (by decide) (by decide) (spaced_joinPieces (by decide) (by decide) _ hspaced), ?_⟩
    rw [params_text, params_joinPieces, params_tests hall]

theorem orderClause_spec (d : Dialect) (terms : List OrderTerm) :
    Follows (orderClause d terms) ∧ (orderClause d terms).params = [] := by
  unfold orderClause
  split
  · cases d
    · exact ⟨Follows.nil, rfl⟩
    · exact ⟨.text (by decide) (by decide) trivial, rfl⟩
  · refine ⟨.text (by decide) (by decide) (spaced_joinPieces (by decide) (by decide) _ ?_), ?_⟩
    · intro s hs
      obtain ⟨t, -, rfl⟩ := List.mem_map.mp hs
      cases t.descending <;> exact ⟨rfl, by decide, trivial⟩
    · simp [params, params_joinPieces, List.flatMap_map]

theorem follows_page (d : Dialect) (limit offset : Int) :
    Follows [.text (" " ++ d.paginate limit offset)] := by
  have hl := all_isPlain_intRepr limit
  have ho := all_isPlain_intRepr offset
  refine .text ?_ ?_ trivial
  · cases d
    · simp only [Dialect.paginate, Int.toString_eq_repr, String.toList_append, List.all_append, hl,
        ho]
      decide
    · simp only [Dialect.paginate, Int.toString_eq_repr, String.toList_append, List.all_append, hl,
        ho]
      decide
  · rw [String.toList_append, show " ".toList = [' '] from rfl]
    exact (by decide : isBreak ' ' = true)

theorem columnList_spec (select : Option (List String)) :
    Spaced (columnList select) ∧ (columnList select).params = [] := by
  unfold columnList
  split
  · exact ⟨⟨by decide, trivial⟩, rfl⟩
  · exact ⟨⟨by decide, trivial⟩, rfl⟩
  · exact ⟨spaced_nameList _, params_nameList _⟩

theorem spaced_assignments {table : String} {values : Row} {s : Statement}
    (h : assignments table values = .ok s) : Spaced s := by
  unfold assignments at h
  split at h
  · simp at h
  · obtain rfl := Except.ok.inj h
    refine spaced_joinPieces (by decide) (by decide) _ fun t ht => ?_
    obtain ⟨e, -, rfl⟩ := List.mem_map.mp ht
    exact ⟨rfl, by decide, rfl, trivial⟩

theorem params_assignments {table : String} {values : Row} {s : Statement}
    (h : assignments table values = .ok s) : s.params = values.map Prod.snd := by
  unfold assignments at h
  split at h
  · simp at h
  · obtain rfl := Except.ok.inj h
    rw [params_joinPieces, List.flatMap_map]
    exact List.map_eq_flatMap.symm

theorem params_outputPart (d : Dialect) (rows : String) : (outputPart d rows).params = [] := by
  cases d <;> rfl

theorem follows_outputPart (d : Dialect) (t rows : String) {s : Statement}
    (ht : t.toList.all isPlain = true) (hb : t.toList.head?.any isBreak = true)
    (hr : rows.toList.all isPlain = true) (hs : Spaced s) :
    Follows (.text t :: (outputPart d rows ++ s)) := by
  cases d
  · exact .text ht hb hs
  · refine .text ht hb ⟨?_, hs⟩
    simp only [Dialect.outputClause, String.toList_append, List.all_append, hr]
    decide

theorem returningPart_spec (d : Dialect) :
    Follows (returningPart d) ∧ (returningPart d).params = [] := by
  cases d
  · exact ⟨.text (by decide) (by decide) trivial, rfl⟩
  · exact ⟨Follows.nil, rfl⟩

theorem spaced_pairing (column : String) (v : Value) : Spaced (pairing column v) :=
  ⟨rfl, by decide, rfl, trivial⟩

/-! ### Statements

Each is taken from its end: a part that follows a name, then what stands before
it. -/

variable {c : Compiler} {table : String} {schema : Option String} {s : Statement}

theorem select_ok {filter : Filter} (h : c.select table filter schema = .ok s) :
    ∃ tests, whereClause c.dialect filter.conditions = .ok tests ∧
      s = .text "SELECT " :: columnList filter.select ++
        .text " FROM " :: qualifiedName table schema ++ tests ++
        orderClause c.dialect filter.order ++
        [.text (" " ++ c.dialect.paginate (c.effectiveLimit filter.limit)
          (filter.offset.getD 0))] := by
  obtain ⟨tests, ht, h⟩ := Results.bind_eq_ok_iff.mp h
  obtain ⟨page, hpage, hs⟩ := Results.bind_eq_ok_iff.mp h
  rw [Dialect.paginate?] at hpage
  split at hpage
  · cases hpage
  · obtain rfl := Except.ok.inj hpage
    exact ⟨tests, ht, (Results.pure_eq_ok_iff.mp hs).symm⟩

/-- A page whose bounds can be written down is written. -/
theorem select_of_tests {filter : Filter} {tests : Statement}
    (ht : whereClause c.dialect filter.conditions = .ok tests)
    (hlimit : (Value.int (c.effectiveLimit filter.limit)).isTooLong = false)
    (hoffset : (Value.int (filter.offset.getD 0)).isTooLong = false) :
    c.select table filter schema = .ok (.text "SELECT " :: columnList filter.select ++
      .text " FROM " :: qualifiedName table schema ++ tests ++
      orderClause c.dialect filter.order ++
      [.text (" " ++ c.dialect.paginate (c.effectiveLimit filter.limit)
        (filter.offset.getD 0))]) := by
  rw [select, ht, Dialect.paginate?, hlimit, hoffset]
  rfl

theorem select_spec {filter : Filter} (h : c.select table filter schema = .ok s) :
    Spaced s ∧ s.params = filter.conditions.flatMap Condition.operands := by
  obtain ⟨tests, ht, rfl⟩ := select_ok h
  obtain ⟨hwhere, hparams⟩ := whereClause_spec ht
  obtain ⟨horder, hnone⟩ := orderClause_spec c.dialect filter.order
  obtain ⟨hcols, hcols0⟩ := columnList_spec filter.select
  have hpage := follows_page c.dialect (c.effectiveLimit filter.limit) (filter.offset.getD 0)
  have hfrom : Follows (.text " FROM " :: qualifiedName table schema) :=
    .text (by decide) (by decide) (spaced_qualifiedName table schema)
  refine ⟨⟨by decide, (((hcols.append hfrom).append hwhere).append horder).append hpage⟩, ?_⟩
  simp [params_append, params_qualifiedName, params, hparams, hnone, hcols0]

theorem count_spec {filter : Filter} (h : Compiler.count c table filter schema = .ok s) :
    Spaced s ∧ s.params = filter.conditions.flatMap Condition.operands := by
  obtain ⟨tests, ht, hs⟩ := Results.bind_eq_ok_iff.mp h
  obtain rfl := Results.pure_eq_ok_iff.mp hs
  obtain ⟨hwhere, hparams⟩ := whereClause_spec ht
  refine ⟨⟨by decide, (spaced_qualifiedName table schema).append hwhere⟩, ?_⟩
  simp [params_append, params_qualifiedName, hparams]

theorem selectByKey_spec (table column : String) (key : Value) (schema : Option String) :
    Spaced (selectByKey table column key schema) ∧
      (selectByKey table column key schema).params = [key] := by
  have hwhere : Follows (.text " WHERE " :: pairing column key) :=
    .text (by decide) (by decide) (spaced_pairing column key)
  refine ⟨⟨by decide, (spaced_qualifiedName table schema).append hwhere⟩, ?_⟩
  simp [selectByKey, params_append, params_qualifiedName, pairing, params]

theorem insert_spec {row : Row} (h : c.insert table row schema = .ok s) :
    Spaced s ∧ s.params = row.map Prod.snd := by
  unfold Compiler.insert at h
  split at h
  · simp at h
  · obtain rfl := Except.ok.inj h
    obtain ⟨hret, hret0⟩ := returningPart_spec c.dialect
    have hvalues : Spaced (.text "VALUES (" ::
        (valueList (row.map Prod.snd) ++ .text ")" :: returningPart c.dialect)) :=
      ⟨by decide, (spaced_valueList _).append (.text (by decide) (by decide) hret.1)⟩
    have hout := follows_outputPart c.dialect ") " "INSERTED" (by decide)
      (by decide) (by decide) hvalues
    have hcols : Follows (.text " (" :: (nameList (row.map Prod.fst) ++ _)) :=
      .text (by decide) (by decide) ((spaced_nameList _).append hout)
    refine ⟨?_, ?_⟩
    · simp only [List.append_assoc, List.cons_append]
      exact ⟨by decide, (spaced_qualifiedName table schema).append hcols⟩
    · simp [params_append, params_qualifiedName, params_nameList, params_valueList,
        params_outputPart, hret0]

theorem update_spec {values : Row} {conditions : List Condition}
    (h : c.update table values conditions schema = .ok s) :
    Spaced s ∧ s.params = values.map Prod.snd ++ conditions.flatMap Condition.operands := by
  unfold Compiler.update at h
  split at h
  · simp at h
  · obtain ⟨sets, hsets, h⟩ := Results.bind_eq_ok_iff.mp h
    obtain ⟨tests, ht, hs⟩ := Results.bind_eq_ok_iff.mp h
    obtain rfl := Results.pure_eq_ok_iff.mp hs
    obtain ⟨hwhere, hparams⟩ := whereClause_spec ht
    have hset : Follows (.text " SET " :: sets) :=
      .text (by decide) (by decide) (spaced_assignments hsets)
    refine ⟨⟨by decide, ((spaced_qualifiedName table schema).append hset).append hwhere⟩, ?_⟩
    simp [params_append, params_qualifiedName, params_assignments hsets, hparams]

theorem updateByKey_spec {values : Row} {column : String} {key : Value}
    (h : c.updateByKey table values column key schema = .ok s) :
    Spaced s ∧ s.params = values.map Prod.snd ++ [key] := by
  obtain ⟨sets, hsets, hs⟩ := Results.bind_eq_ok_iff.mp h
  obtain rfl := Results.pure_eq_ok_iff.mp hs
  obtain ⟨hret, hret0⟩ := returningPart_spec c.dialect
  have hwhere : Spaced (.text "WHERE " :: (pairing column key ++ returningPart c.dialect)) :=
    ⟨by decide, (spaced_pairing column key).append hret⟩
  have hout := follows_outputPart c.dialect " " "INSERTED" (by decide)
    (by decide) (by decide) hwhere
  have hset : Follows (.text " SET " :: (sets ++ _)) :=
    .text (by decide) (by decide) ((spaced_assignments hsets).append hout)
  refine ⟨?_, ?_⟩
  · simp only [List.append_assoc, List.cons_append]
    exact ⟨by decide, (spaced_qualifiedName table schema).append hset⟩
  · simp [params_append, params_qualifiedName, params_assignments hsets, params_outputPart, hret0,
      pairing, params]

theorem delete_spec {conditions : List Condition} (h : c.delete table conditions schema = .ok s) :
    Spaced s ∧ s.params = conditions.flatMap Condition.operands := by
  unfold Compiler.delete at h
  split at h
  · simp at h
  · obtain ⟨tests, ht, hs⟩ := Results.bind_eq_ok_iff.mp h
    obtain rfl := Results.pure_eq_ok_iff.mp hs
    obtain ⟨hwhere, hparams⟩ := whereClause_spec ht
    refine ⟨⟨by decide, (spaced_qualifiedName table schema).append hwhere⟩, ?_⟩
    simp [params_append, params_qualifiedName, hparams]

theorem deleteByKey_spec (c : Compiler) (table column : String) (key : Value)
    (schema : Option String) :
    Spaced (c.deleteByKey table column key schema) ∧
      (c.deleteByKey table column key schema).params = [key] := by
  obtain ⟨hret, hret0⟩ := returningPart_spec c.dialect
  have hwhere : Spaced (.text "WHERE " :: (pairing column key ++ returningPart c.dialect)) :=
    ⟨by decide, (spaced_pairing column key).append hret⟩
  have hout := follows_outputPart c.dialect " " "DELETED" (by decide)
    (by decide) (by decide) hwhere
  unfold Compiler.deleteByKey
  refine ⟨?_, ?_⟩
  · simp only [List.append_assoc, List.cons_append]
    exact ⟨by decide, (spaced_qualifiedName table schema).append hout⟩
  · simp [params_append, params_qualifiedName, params_outputPart, hret0, pairing, params]

end Compiler

namespace Compiler.Request

open Sql Statement Compiler

variable {c : Compiler} {table : String} {schema : Option String} {s : Statement}

/-- **The statement for a request is spaced, and its parameters are the values of
the request**, in the order of the clauses. -/
theorem statement_spec {r : Request} (h : r.statement c table schema = .ok s) :
    Spaced s ∧ s.params = r.values := by
  cases r with
  | select => exact select_spec h
  | count => exact count_spec h
  | selectByKey => exact Except.ok.inj h ▸ selectByKey_spec _ _ _ _
  | insert => exact insert_spec h
  | update => exact update_spec h
  | updateByKey => exact updateByKey_spec h
  | delete => exact delete_spec h
  | deleteByKey => exact Except.ok.inj h ▸ deleteByKey_spec _ _ _ _ _

/-- **What is sent for a request marks each of its values once, in their
order**, whatever its names hold; and these values are sent along. -/
theorem marks_command {r : Request} (h : r.statement c table schema = .ok s) :
    marks c.dialect (s.command c.dialect).text =
        (List.range (s.command c.dialect).params.length).map c.dialect.slot ∧
      (s.command c.dialect).params = r.values :=
  ⟨marks_text c.dialect (statement_spec h).1, (statement_spec h).2⟩

/-- A column named like a mark, a list of operands and a test without any. -/
theorem marks_command_update :
    let c : Compiler := ⟨.sqlServer, 1000, by decide⟩
    let r : Request := .update [("a@param1", .int 1)]
      [⟨"b]", "in", .list [.int 2, .int 3]⟩, ⟨"c", "is", .null⟩]
    ∃ s, r.statement c "t" none = .ok s ∧
      (s.command c.dialect).text =
        "UPDATE [t] SET [a@param1] = @param0 WHERE [b]]] IN (@param1, @param2) AND [c] IS NULL" ∧
      marks c.dialect (s.command c.dialect).text = ["@param0", "@param1", "@param2"] ∧
      (s.command c.dialect).params = [.int 1, .int 2, .int 3] := by
  intro c r
  have h := @marks_command c "t" none _ r rfl
  exact ⟨_, rfl, by decide, h.1.trans (by decide), h.2⟩

end Compiler.Request
end TableGate

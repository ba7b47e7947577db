/-
# Rows are changed and removed only under conditions

A change or a removal of rows is refused before the backend is asked for
anything, or it sends one statement and nothing else; and the statement stands
under a test for each pair of the query string that is no reserved one, of which
there is at least one (`Mutation.action_cases`). So no query string, however its
pairs are mixed, makes a statement that touches every row.

Being refused is being equal to a failure, so it does not depend on the session
or on how the driver would answer.

Key definitions: `Service.Mutation`, `Mutation.action`, `Mutation.head`,
`Service.TestsOf`.
Key theorems: `Mutation.action_cases`, `Mutation.action_eq_issue`,
`Mutation.action_nil`, `Mutation.action_guarded`.
-/
import TableGate.Api.Service
import TableGate.Backend.Scripted
import TableGate.Proofs.Backend.Trace
import TableGate.Proofs.Query.Reading
import TableGate.Proofs.Query.Request

namespace TableGate

/-! ### Statements under conditions -/

namespace Compiler

variable {c : Compiler} {table : String} {schema : Option String} {s : Statement}
  {conditions : List Condition}

theorem update_cases {values : Row} (h : c.update table values conditions schema = .ok s) :
    ∃ sets tests, assignments table values = .ok sets ∧ conditions ≠ [] ∧
      List.Forall₂ (fun c' t => condition c.dialect c' = .ok t) conditions tests ∧
      s = .text "UPDATE " :: qualifiedName table schema ++ .text " SET " :: sets ++
        .text " WHERE " :: joinPieces " AND " tests := by
  unfold Compiler.update at h
  split at h
  · simp at h
  · rename_i hc
    have hne : conditions ≠ [] := fun h0 => hc (List.isEmpty_iff.mpr h0)
    obtain ⟨sets, hsets, h⟩ := Results.bind_eq_ok_iff.mp h
    obtain ⟨_, hwhere, hs⟩ := Results.bind_eq_ok_iff.mp h
    obtain ⟨tests, hall, rfl⟩ := whereClause_of_ne_nil hne hwhere
    exact ⟨sets, tests, hsets, hne, hall, (Results.pure_eq_ok_iff.mp hs).symm⟩

theorem delete_cases (h : c.delete table conditions schema = .ok s) :
    ∃ tests, conditions ≠ [] ∧
      List.Forall₂ (fun c' t => condition c.dialect c' = .ok t) conditions tests ∧
      s = .text "DELETE FROM " :: qualifiedName table schema ++
        .text " WHERE " :: joinPieces " AND " tests := by
  unfold Compiler.delete at h
  split at h
  · simp at h
  · rename_i hc
    have hne : conditions ≠ [] := fun h0 => hc (List.isEmpty_iff.mpr h0)
    obtain ⟨_, hwhere, hs⟩ := Results.bind_eq_ok_iff.mp h
    obtain ⟨tests, hall, rfl⟩ := whereClause_of_ne_nil hne hwhere
    exact ⟨tests, hne, hall, (Results.pure_eq_ok_iff.mp hs).symm⟩

end Compiler

namespace Service

/-- A change or a removal of the rows that satisfy conditions. -/
inductive Mutation where
  | update (body : Value)
  | delete

/-- The tests that pairs of a query string are read and compiled as, one for
each. -/
def TestsOf (d : Dialect) (pairs : List (String × Value)) (tests : List Statement) : Prop :=
  List.Forall₂ (fun pair t => ∃ c, Query.readCondition pair.1 pair.2 = .ok c ∧
    Compiler.condition d c = .ok t) pairs tests

namespace Mutation

variable {σ : Type}

/-- What the service does for it. -/
def action (m : Mutation) (s : Service σ) (table : String) (pairs : List (String × Value)) :
    Action σ Value :=
  match m with
  | .update body => s.update table pairs body
  | .delete => s.delete table pairs

/-- What stands in front of the conditions. -/
def head (m : Mutation) (s : Service σ) (table : String) : Except Fault Statement :=
  match m with
  | .update body => do
    let sets ← Compiler.assignments table (← objectOf body)
    pure (.text "UPDATE " :: qualifiedName table (some s.schema) ++ .text " SET " :: sets)
  | .delete => pure (.text "DELETE FROM " :: qualifiedName table (some s.schema))

/-- The statement is sent, and answered with the number of rows. -/
def issue (s : Service σ) (statement : Statement) : Action σ Value := do
  let result ← s.adapter.send (statement.command s.adapter.dialect)
  pure (countEnvelope result.rowCount)

theorem mem_conditionPairs {pairs : List (String × Value)} :
    ∀ pair ∈ conditionPairs pairs, pair.1 ∉ Query.reservedKeys := by
  intro pair h
  simpa using (List.mem_filter.mp h).2

/-- The tests come of conditions that are read, and then compiled. -/
theorem testsOf_iff {d : Dialect} : ∀ {pairs : List (String × Value)} {tests : List Statement},
    TestsOf d pairs tests ↔ ∃ cs,
      List.Forall₂ (fun pair c => Query.readCondition pair.1 pair.2 = .ok c) pairs cs ∧
      List.Forall₂ (fun c t => Compiler.condition d c = .ok t) cs tests
  | [], tests => by
    constructor
    · intro h
      obtain rfl := List.forall₂_nil_left_iff.mp h
      exact ⟨[], .nil, .nil⟩
    · rintro ⟨cs, hread, hcompile⟩
      obtain rfl := List.forall₂_nil_left_iff.mp hread
      obtain rfl := List.forall₂_nil_left_iff.mp hcompile
      exact .nil
  | pair :: pairs, tests => by
    constructor
    · intro h
      obtain ⟨t, ts, ⟨c, hc, ht⟩, hrest, rfl⟩ := List.forall₂_cons_left_iff.mp h
      obtain ⟨cs, hread, hcompile⟩ := testsOf_iff.mp hrest
      exact ⟨c :: cs, .cons hc hread, .cons ht hcompile⟩
    · rintro ⟨_, hread, hcompile⟩
      obtain ⟨c, cs, hc, hcs, rfl⟩ := List.forall₂_cons_left_iff.mp hread
      obtain ⟨t, ts, ht, hts, rfl⟩ := List.forall₂_cons_left_iff.mp hcompile
      exact .cons ⟨c, hc, ht⟩ (testsOf_iff.mpr ⟨cs, hcs, hts⟩)

/-- The pairs are read, and the statement for their conditions is sent. -/
def restricted (s : Service σ) (pairs : List (String × Value))
    (compile : List Condition → Except Fault Statement) : Action σ Value := do
  let filter ← Action.ofExcept (Query.read (conditionPairs pairs))
  let result ← s.send (compile filter.conditions)
  pure (countEnvelope result.rowCount)

theorem restricted_eq_issue {s : Service σ} {pairs : List (String × Value)} {filter : Filter}
    {compile : List Condition → Except Fault Statement} {st : Statement}
    (hread : Query.read (conditionPairs pairs) = .ok filter)
    (hst : compile filter.conditions = .ok st) : restricted s pairs compile = issue s st := by
  rw [restricted, hread, Action.ofExcept_ok_bind, hst]
  rfl

theorem restricted_cases (s : Service σ) (pairs : List (String × Value))
    (compile : List Condition → Except Fault Statement) :
    (∃ e, restricted s pairs compile = throw e) ∨
      ∃ cs st, List.Forall₂ (fun pair c => Query.readCondition pair.1 pair.2 = .ok c)
          (conditionPairs pairs) cs ∧ compile cs = .ok st ∧
        restricted s pairs compile = issue s st := by
  cases hread : Query.read (conditionPairs pairs) with
  | error e => exact .inl ⟨e, by rw [restricted, hread, Action.ofExcept_error_bind]⟩
  | ok filter =>
    cases hst : compile filter.conditions with
    | error e => exact .inl ⟨e, by rw [restricted, hread, Action.ofExcept_ok_bind, hst]; rfl⟩
    | ok st =>
      exact .inr ⟨filter.conditions, st, Query.read_conditions mem_conditionPairs hread, hst,
        restricted_eq_issue hread hst⟩

theorem ne_nil_of_forall₂ {R : String × Value → Condition → Prop} {pairs : List (String × Value)}
    {cs : List Condition} (h : List.Forall₂ R pairs cs) (hcs : cs ≠ []) : pairs ≠ [] := by
  rintro rfl
  exact hcs (List.forall₂_nil_left_iff.mp h)

theorem action_update {s : Service σ} {table : String} {pairs : List (String × Value)}
    {body : Value} {values : Row} (hbody : objectOf body = .ok values) :
    (Mutation.update body).action s table pairs =
      restricted s pairs fun cs => s.compiler.update table values cs (some s.schema) := by
  rw [action, Service.update, hbody]
  rfl

theorem action_delete (s : Service σ) (table : String) (pairs : List (String × Value)) :
    Mutation.delete.action s table pairs =
      restricted s pairs fun cs => s.compiler.delete table cs (some s.schema) := rfl

/-- **A mutation is refused, or it is one statement under a test for each
pair.** -/
theorem action_cases (m : Mutation) (s : Service σ) (table : String)
    (pairs : List (String × Value)) :
    (∃ e, m.action s table pairs = throw e) ∨
      ∃ head tests, m.head s table = .ok head ∧ conditionPairs pairs ≠ [] ∧
        TestsOf s.adapter.dialect (conditionPairs pairs) tests ∧
        m.action s table pairs = issue s (head ++ .text " WHERE " :: joinPieces " AND " tests) := by
  cases m with
  | update body =>
    cases hbody : objectOf body with
    | error e => exact .inl ⟨e, by rw [action, Service.update, hbody]; rfl⟩
    | ok values =>
      rw [action_update hbody]
      rcases restricted_cases s pairs _ with ⟨e, he⟩ | ⟨cs, st, hread, hst, hissue⟩
      · exact .inl ⟨e, he⟩
      · obtain ⟨sets, tests, hsets, hne, hall, rfl⟩ := Compiler.update_cases hst
        refine .inr ⟨_, tests, ?_, ne_nil_of_forall₂ hread hne, testsOf_iff.mpr ⟨cs, hread, hall⟩,
          hissue⟩
        rw [head, hbody]
        exact Results.bind_eq_ok_iff.mpr
          ⟨values, rfl, Results.bind_eq_ok_iff.mpr ⟨sets, hsets, rfl⟩⟩
  | delete =>
    rw [action_delete]
    rcases restricted_cases s pairs _ with ⟨e, he⟩ | ⟨cs, st, hread, hst, hissue⟩
    · exact .inl ⟨e, he⟩
    · obtain ⟨tests, hne, hall, rfl⟩ := Compiler.delete_cases hst
      exact .inr ⟨_, tests, rfl, ne_nil_of_forall₂ hread hne, testsOf_iff.mpr ⟨cs, hread, hall⟩,
        hissue⟩

/-- **A mutation that has something to send, and a test for each pair, is
sent.** -/
theorem action_eq_issue (m : Mutation) (s : Service σ) (table : String)
    {pairs : List (String × Value)} {head : Statement} {tests : List Statement}
    (hhead : m.head s table = .ok head) (hne : conditionPairs pairs ≠ [])
    (htests : TestsOf s.adapter.dialect (conditionPairs pairs) tests) :
    m.action s table pairs = issue s (head ++ .text " WHERE " :: joinPieces " AND " tests) := by
  obtain ⟨cs, hread, hcompile⟩ := testsOf_iff.mp htests
  have hcs : cs ≠ [] := by
    rintro rfl
    exact hne (List.forall₂_nil_right_iff.mp hread)
  have hwhere := Compiler.whereClause_of_tests hcs hcompile
  have hfilter := Query.read_of_conditions mem_conditionPairs hread
  cases m with
  | update body =>
    obtain ⟨values, hbody, hhead⟩ := Results.bind_eq_ok_iff.mp hhead
    obtain ⟨sets, hsets, hhead⟩ := Results.bind_eq_ok_iff.mp hhead
    obtain rfl := Results.pure_eq_ok_iff.mp hhead
    rw [action_update hbody]
    refine restricted_eq_issue hfilter ?_
    rw [Compiler.update, if_neg fun h0 => hcs (List.isEmpty_iff.mp h0)]
    exact Results.bind_eq_ok_iff.mpr
      ⟨sets, hsets, Results.bind_eq_ok_iff.mpr ⟨_, hwhere, rfl⟩⟩
  | delete =>
    obtain rfl := Results.pure_eq_ok_iff.mp hhead
    rw [action_delete]
    refine restricted_eq_issue hfilter ?_
    rw [Compiler.delete, if_neg fun h0 => hcs (List.isEmpty_iff.mp h0)]
    exact Results.bind_eq_ok_iff.mpr ⟨_, hwhere, rfl⟩

/-- **Without a condition a mutation is refused as invalid**, whatever the
reserved pairs are. -/
theorem action_nil (m : Mutation) (s : Service σ) (table : String) {pairs : List (String × Value)}
    (h : conditionPairs pairs = []) :
    ∃ r, m.action s table pairs = throw (.api (.validation r)) := by
  have hread : Query.read (conditionPairs pairs) = .ok {} := by rw [h]; rfl
  cases m with
  | update body =>
    rw [action, Service.update]
    unfold objectOf
    split
    · rw [Action.ofExcept_ok_bind, hread]
      exact ⟨.unfilteredUpdate table, rfl⟩
    · exact ⟨.objectBody, rfl⟩
  | delete =>
    rw [action, Service.delete, hread]
    exact ⟨.unfilteredDelete table, rfl⟩

theorem not_testsOf_of_asksWrongly {d : Dialect} {pairs : List (String × Value)}
    {tests : List Statement} {pair : String × Value} (hmem : pair ∈ pairs)
    (hpair : Query.AsksWrongly pair.2) : ¬ TestsOf d pairs tests := by
  intro h
  obtain ⟨t, -, c, hread, hcompile⟩ := Results.exists_of_forall₂ h.flip hmem
  exact Query.not_compiled_of_asksWrongly hpair hread t hcompile

theorem sends_issue (s : Service σ) (st : Statement) :
    (issue s st).Sends 1
      (s.adapter.Carries (st.text s.adapter.dialect) st.params) :=
  (Adapter.sends_send (st.command s.adapter.dialect)).bind fun _ => Action.Sends.pure _

/-- **No mutation touches rows that were not asked for.** It is refused, or it
sends one statement at most, which stands under a test for each pair that is no
reserved one; it is refused as invalid if there are no such pairs, and refused if
one of them asks wrongly. And it is refused for no other reason than that there
is nothing to set or that one of them has no test. -/
theorem action_guarded (m : Mutation) (s : Service σ) (table : String)
    (pairs : List (String × Value)) :
    ((∃ e, m.action s table pairs = throw e) ∨
      ∃ head tests, m.head s table = .ok head ∧ conditionPairs pairs ≠ [] ∧
        TestsOf s.adapter.dialect (conditionPairs pairs) tests ∧
        let st := head ++ .text " WHERE " :: joinPieces " AND " tests
        m.action s table pairs = issue s st ∧
          (m.action s table pairs).Sends 1
            (s.adapter.Carries (st.text s.adapter.dialect) st.params)) ∧
    (conditionPairs pairs = [] → ∃ r, m.action s table pairs = throw (.api (.validation r))) ∧
    ((∃ pair ∈ conditionPairs pairs, Query.AsksWrongly pair.2) →
      ∃ e, m.action s table pairs = throw e) ∧
    ∀ head tests, m.head s table = .ok head → conditionPairs pairs ≠ [] →
      TestsOf s.adapter.dialect (conditionPairs pairs) tests →
      m.action s table pairs = issue s (head ++ .text " WHERE " :: joinPieces " AND " tests) := by
  refine ⟨?_, action_nil m s table, fun ⟨pair, hmem, hpair⟩ => ?_,
    fun head tests => action_eq_issue m s table⟩
  · rcases action_cases m s table pairs with he | ⟨head, tests, hhead, hne, htests, hissue⟩
    · exact .inl he
    · refine .inr ⟨head, tests, hhead, hne, htests, hissue, ?_⟩
      rw [hissue]
      exact sends_issue s _
  · rcases action_cases m s table pairs with he | ⟨head, tests, -, -, htests, -⟩
    · exact he
    · exact absurd htests (not_testsOf_of_asksWrongly hmem hpair)

/-- Reserved pairs are no conditions, one wrong operator is enough to be refused,
and a repeated column is tested twice. -/
theorem action_guarded_delete :
    let s : Service Script :=
      ⟨⟨.postgres, Script.driver, .ok false⟩, "public", 1000, by decide, ""⟩
    let act := fun pairs => Mutation.delete.action s "t" pairs
    (∃ r, act [("limit", .text "1"), ("order", .text "id")] = throw (.api (.validation r))) ∧
    (∃ e, act [("id", .text "eq.x"), ("n", .text "near.4")] = throw e) ∧
    act [("id", .text "gt.a"), ("limit", .text "1"), ("id", .text "lt.k")] = issue s
      [.text "DELETE FROM ", .name "public", .text ".", .name "t", .text " WHERE ",
        .name "id", .text " > ", .value (.text "a"), .text " AND ",
        .name "id", .text " < ", .value (.text "k")] := by
  intro s act
  have hcut : Text.cutFirst? '.' (Value.text "near.4").shown = some ("near", "4") := by decide
  refine ⟨(action_guarded .delete s "t" _).2.1 rfl, (action_guarded .delete s "t" _).2.2.1 ?_, ?_⟩
  · refine ⟨("n", .text "near.4"), by simp [conditionPairs, Query.reservedKeys], ?_⟩
    exact .operator (by simp) hcut (by decide) (by decide)
  · refine (action_guarded .delete s "t" _).2.2.2
      [.text "DELETE FROM ", .name "public", .text ".", .name "t"]
      [[.name "id", .text " > ", .value (.text "a")], [.name "id", .text " < ", .value (.text "k")]]
      rfl (by simp [conditionPairs, Query.reservedKeys]) ?_
    exact .cons ⟨⟨"id", "gt", .text "a"⟩, rfl, rfl⟩ (.cons ⟨⟨"id", "lt", .text "k"⟩, rfl, rfl⟩ .nil)

end Mutation
end Service
end TableGate

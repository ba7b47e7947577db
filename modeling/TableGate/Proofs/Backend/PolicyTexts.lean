/-
# The two statements of a policy, read back

On SQL Server names and predicate pass through two levels of quoting. A name is bracketed
where it stands in a definition, and the definition and the name of the object that guards
it are literals of the statement. Reading goes the other way: the statement into object and
definition (`Policy.readGuarded?`), the definition into names and predicate
(`Policy.readPredicate?`, `Policy.readBinding?`). It gives back what the policy has, whatever
characters are in it, and in the three places of the predicate function it gives the same
function (`Adapter.applyPolicy_queries`).

Key definitions: `Policy.Binding`, `Policy.readBinding?`, `Policy.sqlServerBinding`.
Key theorems: `Policy.readBinding?_bindingDefinition`, `Adapter.applyPolicy_queries`.
-/
import TableGate.Proofs.Backend.Policies

namespace TableGate

open Sql

namespace Policy

variable (p : Policy) (schema : String)

/-- What a security policy of SQL Server binds, each by schema and name. -/
structure Binding where
  policy : String × String
  kind : String
  function : String × String
  table : String × String
deriving DecidableEq

/-- What is bound for a policy. -/
def sqlServerBinding : Binding where
  policy := (schema, p.name)
  kind := predicateKind p.operation
  function := (schema, "fn_" ++ p.name ++ "_predicate")
  table := (schema, p.table)

/-- Reads a word of capitals at the front. -/
def readCapitals (cs : List Char) : String × List Char :=
  (String.ofList (cs.takeWhile Char.isUpper), cs.dropWhile Char.isUpper)

theorem readCapitals_append {word : String} {rest : List Char}
    (hword : ∀ c ∈ word.toList, c.isUpper = true) (hrest : ∀ c ∈ rest.head?, c.isUpper = false) :
    readCapitals (word.toList ++ rest) = (word, rest) := by
  obtain ⟨htake, hdrop⟩ := takeWhile_append_of_all hword hrest
  rw [readCapitals, htake, hdrop, String.ofList_toList]

def readBinding? (definition : String) : Option Binding := do
  let front ← skipText? "CREATE SECURITY POLICY " definition.toList
  let (policy, rest) ← Dialect.sqlServer.readQualified? front
  let rest ← skipText? " ADD " rest
  let (kind, rest) := readCapitals rest
  let rest ← skipText? " PREDICATE " rest
  let (function, rest) ← Dialect.sqlServer.readQualified? rest
  let rest ← skipText? "() ON " rest
  let (table, rest) ← Dialect.sqlServer.readQualified? rest
  if rest = " WITH (STATE = ON)".toList then some ⟨policy, kind, function, table⟩ else none

theorem isUpper_of_mem_predicateKind (o : PolicyOperation) :
    ∀ c ∈ (predicateKind o).toList, c.isUpper = true := by
  cases o <;> decide

/-- A name is read back if a blank or a parenthesis follows. -/
theorem readQualified?_before (name : String) {rest : List Char} {c : Char}
    (hhead : rest.head? = some c) (hc : c ≠ ']' ∧ c ≠ '.') :
    Dialect.sqlServer.readQualified?
      ((Dialect.sqlServer.quoteQualified name (some schema)).toList ++ rest) =
        some ((schema, name), rest) := by
  refine Dialect.sqlServer.readQualified?_append name (some schema) rest ?_ ?_
  · rw [hhead]
    exact fun h => hc.1 (Option.some.inj h)
  · rw [hhead]
    exact fun h => hc.2 (Option.some.inj h)

/-- **What a security policy binds is read back from its definition.** -/
theorem readBinding?_bindingDefinition :
    readBinding? (p.bindingDefinition schema) = some (p.sqlServerBinding schema) := by
  have hparts : p.bindingDefinition schema = "CREATE SECURITY POLICY " ++
      (Dialect.sqlServer.quoteQualified p.name (some schema) ++ (" ADD " ++
        (predicateKind p.operation ++ (" PREDICATE " ++ (predicateName p.name schema ++ ("() ON " ++
          (Dialect.sqlServer.quoteQualified p.table (some schema) ++ " WITH (STATE = ON)"))))))) := by
    unfold bindingDefinition
    simp only [String.append_assoc]
  -- What follows each of the names, from the last one to the first.
  generalize hstate : " WITH (STATE = ON)".toList = state
  have htable : Dialect.sqlServer.readQualified?
      ((Dialect.sqlServer.quoteQualified p.table (some schema)).toList ++ state) =
        some ((schema, p.table), state) :=
    readQualified?_before schema p.table (hstate ▸ rfl : state.head? = some ' ') (by decide)
  generalize hon : "() ON ".toList ++
    ((Dialect.sqlServer.quoteQualified p.table (some schema)).toList ++ state) = on
  have hfunction : Dialect.sqlServer.readQualified? ((predicateName p.name schema).toList ++ on) =
      some ((schema, "fn_" ++ p.name ++ "_predicate"), on) :=
    readQualified?_before schema _ (hon ▸ rfl : on.head? = some '(') (by decide)
  generalize hpredicate : " PREDICATE ".toList ++
    ((predicateName p.name schema).toList ++ on) = predicate
  have hblank : ∀ c ∈ predicate.head?, c.isUpper = false := by
    intro c hc
    rw [← hpredicate] at hc
    obtain rfl : ' ' = c := Option.some.inj hc
    decide
  have hkind := readCapitals_append (isUpper_of_mem_predicateKind p.operation) hblank
  generalize hadd : " ADD ".toList ++ ((predicateKind p.operation).toList ++ predicate) = add
  have hpolicy : Dialect.sqlServer.readQualified?
      ((Dialect.sqlServer.quoteQualified p.name (some schema)).toList ++ add) =
        some ((schema, p.name), add) :=
    readQualified?_before schema p.name (hadd ▸ rfl : add.head? = some ' ') (by decide)
  rw [readBinding?, hparts]
  simp only [String.toList_append, skipText?_append, bind, Option.bind, hstate, hon, hpredicate,
    hadd, hpolicy]
  rw [← hadd, skipText?_append]
  simp only [hkind]
  rw [← hpredicate, skipText?_append]
  simp only [hfunction]
  rw [← hon, skipText?_append]
  simp only [htable, if_true]
  rfl

end Policy
namespace Adapter

open Policy

variable {σ : Type} {a : Adapter σ}

/-- Hands over two statements and nothing else. -/
def queryBoth (a : Adapter σ) (first second : String) : Action σ Unit := do
  let _ ← a.query first []
  let _ ← a.query second []

/-- The second statement is handed over where the first ended, and only if that succeeded. -/
theorem queryBoth_runIn (a : Adapter σ) (first second : String) (s : Session σ) :
    (a.queryBoth first second).runIn s =
      match (a.query first []).runIn s with
      | (.ok _, t) =>
        (match (a.query second []).runIn t with
        | (.ok _, u) => (.ok (), u)
        | (.error e, u) => (.error e, u))
      | (.error e, t) => (.error e, t) := by
  rw [queryBoth, Action.runIn_bind]
  rcases (a.query first []).runIn s with ⟨e | result, t⟩
  · rfl
  · dsimp only
    rw [Action.runIn_bind]
    rcases (a.query second []).runIn t with ⟨e | result, u⟩ <;> rfl

/-- On SQL Server a policy is applied by two statements. -/
theorem applyPolicy_sqlServer (hdialect : a.dialect = .sqlServer) (s : Session σ) (p : Policy) :
    (a.applyPolicy p).runIn s =
      (a.queryBoth (p.predicateStatement (a.policySchema s p))
        (p.bindingStatement (a.policySchema s p))).runIn s := by
  have hresolve : (a.resolveSchema p.schema).runIn s = (.ok (a.policySchema s p), s) := rfl
  rw [applyPolicy, Action.runIn_bind, hresolve, queryBoth]
  simp only [hdialect, sendText, bind_assoc, pure_bind]

theorem readQualified?_name (name schema : String) :
    Dialect.sqlServer.readQualified?
      (Dialect.sqlServer.quoteQualified name (some schema)).toList = some ((schema, name), []) := by
  have hname := Dialect.sqlServer.readQualified?_append name (some schema) [] (by simp) (by simp)
  rwa [List.append_nil] at hname

/-- **What is sent for a policy on SQL Server.** Two statements are handed to the driver, the
second only if the first succeeds. The first creates the predicate function unless there is
an object of its name, the second the security policy; read back through both levels of
quoting they have the names of the policy, of its function and of its table, each with the
schema, and the predicate, whatever characters are in them. -/
theorem applyPolicy_queries (hdialect : a.dialect = .sqlServer) (s : Session σ) (p : Policy) :
    let schema := a.policySchema s p
    let function := (schema, "fn_" ++ p.name ++ "_predicate")
    ∃ first second : String,
      (a.applyPolicy p).runIn s = (a.queryBoth first second).runIn s ∧
      (∃ object definition, readGuarded? first = some (object, definition) ∧
        Dialect.sqlServer.readQualified? object.toList = some (function, []) ∧
        readPredicate? definition = some (function, (present? p.using?).getD "1=1")) ∧
      ∃ object definition, readGuarded? second = some (object, definition) ∧
        Dialect.sqlServer.readQualified? object.toList = some ((schema, p.name), []) ∧
        readBinding? definition =
          some ⟨(schema, p.name), predicateKind p.operation, function, (schema, p.table)⟩ := by
  intro schema function
  refine ⟨p.predicateStatement schema, p.bindingStatement schema,
    applyPolicy_sqlServer hdialect s p, ?_, ?_⟩
  · exact ⟨_, _, readGuarded?_unlessThere _ _, readQualified?_name _ schema,
      p.readPredicate?_predicateDefinition schema⟩
  · exact ⟨_, _, readGuarded?_unlessThere _ _, readQualified?_name _ schema,
      p.readBinding?_bindingDefinition schema⟩

/-- Names and a predicate with quotes, brackets and braces in them. -/
theorem applyPolicy_queries_quotes :
    let a : Adapter Script := ⟨.sqlServer, Script.driver, .ok false⟩
    let s : Session Script := { backend := {}, pool := some 0 }
    let p : Policy :=
      { name := "p]'\x7b0\x7d", table := "t].[u", schema := some "s'",
        using? := some "owner = '\x7bme\x7d' -- ]" }
    let function := ("s'", "fn_p]'\x7b0\x7d_predicate")
    a.dialect = .sqlServer ∧ ∃ first second : String,
      (a.applyPolicy p).runIn s = (a.queryBoth first second).runIn s ∧
      (∃ object definition, readGuarded? first = some (object, definition) ∧
        readPredicate? definition = some (function, "owner = '\x7bme\x7d' -- ]")) ∧
      ∃ object definition, readGuarded? second = some (object, definition) ∧
        readBinding? definition =
          some ⟨("s'", "p]'\x7b0\x7d"), "FILTER", function, ("s'", "t].[u")⟩ := by
  intro a s p function
  obtain ⟨first, second, hsent, ⟨object, definition, hguarded, -, hpredicate⟩,
    ⟨object', definition', hguarded', -, hbinding⟩⟩ := applyPolicy_queries (a := a) rfl s p
  have hschema : a.policySchema s p = "s'" := by decide
  rw [hschema] at hpredicate hbinding
  exact ⟨rfl, first, second, hsent, ⟨object, definition, hguarded, hpredicate⟩,
    object', definition', hguarded', hbinding⟩

end Adapter
end TableGate

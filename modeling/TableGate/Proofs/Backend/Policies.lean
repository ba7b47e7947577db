/-
# Policies are told apart, and their predicates are sent

Whether a policy is there already is decided by one check (`Adapter.policyCheck`). On
PostgreSQL the catalog is asked for a row with the schema, the table and the name of
the policy; on SQL Server the statement that creates the policy runs only if there is
no object of a name, which is read from the statement itself (`Policy.readGuarded?`).

The checks of two policies are the same just if their names and schemas are, and on
PostgreSQL their tables (`Adapter.policyCheck_eq_iff`). So on SQL Server a policy of
another table is taken for there, and it is skipped, if it has the name of one in the
same schema. It is skipped too if it is named like the predicate function of one.

The predicates of a policy are sent as they are written: on PostgreSQL both of them,
in clauses of their own; on SQL Server only the one for rows that are seen, in the
predicate function, whose definition is a literal of the statement
(`Adapter.applyPolicy_predicates`). So there the one for rows that are written is
dropped, whatever the policy is for, and if it is the only one every row passes.

Key definitions: `Policy.readGuarded?`, `Policy.readPredicate?`, `Policy.sentTexts`,
`Policy.served`, `PolicyCheck`, `Adapter.policyCheck`, `Adapter.applyBy`,
`Adapter.TakesEach`, `Adapter.FindsNone`.
Key theorems: `Policy.readGuarded?_unlessThere`, `Adapter.applyPolicy_runIn`,
`Adapter.policyCheck_eq_iff`, `Adapter.sendAll_takes`,
`Adapter.applyPolicy_predicates`.
-/
import TableGate.Backend.Scripted
import TableGate.Backend.Security
import TableGate.Proofs.Backend.Connection
import TableGate.Proofs.Backend.Replay
import TableGate.Proofs.Backend.Trace
import TableGate.Proofs.Sql.Quoted
import TableGate.Proofs.Text.Cut

namespace TableGate

open Sql

namespace Policy

variable (p : Policy) (schema : String)

/-! ### Guarded definitions -/

/-- Reads a statement that runs a definition unless there is an object of a name: the
name and the definition. -/
def readGuarded? (sql : String) : Option (String × String) := do
  let front ← skipText? "IF OBJECT_ID(" sql.toList
  let (object, between) ← readLiteral? front
  let back ← skipText? ") IS NULL EXEC(" between
  let (definition, rest) ← readLiteral? back
  if rest = [')'] then some (object, definition) else none

/-- **What is run unless there is an object is read back**, whatever name and
definition hold. -/
theorem readGuarded?_unlessThere (object definition : String) :
    readGuarded? (unlessThere object definition) = some (object, definition) := by
  have hparts : unlessThere object definition = "IF OBJECT_ID(" ++ (textLiteral object ++
      (") IS NULL EXEC(" ++ (textLiteral definition ++ ")"))) := by
    unfold unlessThere
    simp only [String.append_assoc]
  have hhead : (") IS NULL EXEC(".toList ++ ((textLiteral definition).toList ++ ")".toList)).head? =
      some ')' := rfl
  have hobject := readLiteral?_append object _ (by rw [hhead]; decide)
  have hdefinition := readLiteral?_append definition ")".toList (by decide)
  have hend : ")".toList = [')'] := rfl
  rw [readGuarded?, hparts]
  simp only [String.toList_append, skipText?_append, bind, Option.bind, hobject, hdefinition,
    if_pos hend]

/-- What stands in the definition of a predicate function between its name and its
predicate. -/
def predicateHead : String :=
  "()\n    RETURNS TABLE\n    WITH SCHEMABINDING\n    AS\n    RETURN SELECT 1 AS result WHERE "

/-- Reads the definition of a predicate function: its schema, its name, and its
predicate. -/
def readPredicate? (definition : String) : Option ((String × String) × String) := do
  let front ← skipText? "\n    CREATE FUNCTION " definition.toList
  let (function, between) ← Dialect.sqlServer.readQualified? front
  let body ← skipText? predicateHead between
  if body.getLast? = some '\n' then some (function, String.ofList body.dropLast) else none

/-- **The predicate is read back from the definition of its function.** -/
theorem readPredicate?_predicateDefinition :
    readPredicate? (p.predicateDefinition schema) =
      some ((schema, "fn_" ++ p.name ++ "_predicate"), (present? p.using?).getD "1=1") := by
  have hdefinition : p.predicateDefinition schema =
      "\n    CREATE FUNCTION " ++ (predicateName p.name schema ++
        (predicateHead ++ ((present? p.using?).getD "1=1" ++ "\n"))) := by
    unfold predicateDefinition predicateHead
    simp only [String.append_assoc]
  generalize (present? p.using?).getD "1=1" = text at hdefinition ⊢
  have hhead : (predicateHead.toList ++ (text.toList ++ "\n".toList)).head? = some '(' := rfl
  have hname := Dialect.sqlServer.readQualified?_append ("fn_" ++ p.name ++ "_predicate")
    (some schema) (predicateHead.toList ++ (text.toList ++ "\n".toList))
    (by rw [hhead]; decide) (by rw [hhead]; decide)
  have hlast : (text.toList ++ "\n".toList).getLast? = some '\n' := List.getLast?_concat
  have hfront : (text.toList ++ "\n".toList).dropLast = text.toList := List.dropLast_concat
  rw [readPredicate?, hdefinition]
  simp only [String.toList_append, skipText?_append, bind, Option.bind, predicateName, hname,
    hlast, hfront, if_true, String.ofList_toList, Option.getD_some]

/-! ### What is sent -/

/-- What is sent for a policy unless it is known to be there. -/
def sentTexts (d : Dialect) (p : Policy) (schema : String) : List String :=
  match d with
  | .postgres => [p.createStatement schema]
  | .sqlServer => [p.predicateStatement schema, p.bindingStatement schema]

/-- The clause of a predicate, with a blank in front; there is none for a predicate
that is absent or empty. -/
def predicateClause (before : String) (predicate : Option String) : String :=
  match present? predicate with
  | some text => " " ++ (before ++ text ++ ")")
  | none => ""

def predicates : List String := (present? p.using?).toList ++ (present? p.withCheck).toList

theorem join_clause (before : String) (predicate : Option String) {front : List String}
    (hne : front ≠ []) :
    Text.join " " (front ++ ((present? predicate).map fun t => before ++ t ++ ")").toList) =
      Text.join " " front ++ predicateClause before predicate := by
  unfold predicateClause
  cases present? predicate with
  | none => simp
  | some text =>
    rw [Option.map_some, Option.toList_some, Text.join_concat " " hne, String.append_assoc]

/-- **On PostgreSQL each predicate has a clause of its own** behind the rest of the
statement. -/
theorem createStatement_eq :
    p.createStatement schema =
      ({ p with using? := none, withCheck := none } : Policy).createStatement schema ++
        predicateClause "USING (" p.using? ++ predicateClause "WITH CHECK (" p.withCheck := by
  simp only [createStatement]
  rw [join_clause _ _ (by simp), join_clause _ _ (by simp)]
  simp [present?]

/-- On SQL Server nothing depends on the predicate for rows that are written. -/
theorem sentTexts_withCheck (predicate : Option String) :
    ({ p with withCheck := predicate } : Policy).sentTexts .sqlServer schema =
      p.sentTexts .sqlServer schema := rfl

/-! ### Statements without marks -/

/-- A text without the sign that placeholders begin with. -/
def Unmarked (s : String) : Prop := '@' ∉ s.toList

instance (s : String) : Decidable (Unmarked s) := inferInstanceAs (Decidable (¬ _))

theorem unmarked_append {s t : String} : Unmarked (s ++ t) ↔ Unmarked s ∧ Unmarked t := by
  rw [Unmarked, String.toList_append, List.mem_append]
  exact not_or

theorem unmarked_qualified {name : String} (hname : Unmarked name) (hschema : Unmarked schema) :
    Unmarked (Dialect.sqlServer.quoteQualified name (some schema)) :=
  Dialect.notMem_quoteQualified _ (by decide) hname hschema

theorem unmarked_unlessThere {object definition : String} (hobject : Unmarked object)
    (hdefinition : Unmarked definition) : Unmarked (unlessThere object definition) := by
  have hliteral : ∀ s, Unmarked s → Unmarked (textLiteral s) := fun s hs =>
    notMem_textLiteral (by decide) hs
  unfold unlessThere
  simp only [unmarked_append, hliteral _ hobject, hliteral _ hdefinition, and_true]
  decide

theorem unmarked_present? (h : Unmarked (p.using?.getD "")) :
    Unmarked ((present? p.using?).getD "1=1") := by
  unfold present?
  cases husing : p.using? with
  | none => decide
  | some text =>
    rw [husing] at h
    rw [Option.filter_some]
    split
    · exact h
    · decide

/-- Nothing in the statements passes for a placeholder if nothing in the policy does. -/
theorem unmarked_sentTexts (hname : Unmarked p.name) (htable : Unmarked p.table)
    (hschema : Unmarked schema) (husing : Unmarked (p.using?.getD "")) :
    ∀ sql ∈ p.sentTexts .sqlServer schema, Unmarked sql := by
  have hfunction : Unmarked (predicateName p.name schema) := by
    refine unmarked_qualified schema ?_ hschema
    simp only [unmarked_append, hname, and_true]
    decide
  have hpolicy := unmarked_qualified schema hname hschema
  have htarget := unmarked_qualified schema htable hschema
  have hkind : Unmarked (predicateKind p.operation) := by cases p.operation <;> decide
  have hdefinition : Unmarked (p.predicateDefinition schema) := by
    unfold predicateDefinition
    simp only [unmarked_append, hfunction, p.unmarked_present? husing, and_true]
    decide
  have hbinding : Unmarked (p.bindingDefinition schema) := by
    unfold bindingDefinition
    simp only [unmarked_append, hpolicy, hkind, hfunction, htarget, and_true]
    decide
  intro sql hsql
  rcases List.mem_pair.mp hsql with rfl | rfl
  · exact unmarked_unlessThere hfunction hdefinition
  · exact unmarked_unlessThere hpolicy hbinding

/-! ### Objects -/

/-- The names of the objects that guarded statements are about. -/
def objects (stmts : List String) : List String :=
  stmts.filterMap fun sql => (readGuarded? sql).map Prod.fst

theorem objects_sentTexts :
    objects (p.sentTexts .sqlServer schema) =
      [predicateName p.name schema, Dialect.sqlServer.quoteQualified p.name (some schema)] := by
  simp only [sentTexts, objects, predicateStatement, bindingStatement, List.filterMap_cons,
    List.filterMap_nil, readGuarded?_unlessThere, Option.map_some]

/-- What a server runs of a guarded statement, if it has objects of the names that are
known: the definition, or nothing if there is the object. -/
def served (known : List String) (sql : String) : Option String :=
  (readGuarded? sql).bind fun g => if g.1 ∈ known then none else some g.2

theorem served_eq_none_iff {known : List String} {object definition : String} :
    served known (unlessThere object definition) = none ↔ object ∈ known := by
  rw [served, readGuarded?_unlessThere, Option.bind_some]
  by_cases hknown : object ∈ known
  · rw [if_pos hknown]
    exact iff_of_true rfl hknown
  · rw [if_neg hknown]
    exact iff_of_false (Option.some_ne_none definition) hknown

end Policy

/-! ### The check -/

/-- What decides whether a policy is skipped: the parameters that the catalog is asked
with for a row, or the name that an object may have. -/
inductive PolicyCheck where
  | row (params : List Value)
  | object (name : String)

namespace Adapter

open Policy

variable {σ : Type} {a : Adapter σ} {s t : Session σ} {p q : Policy}

def policySchema (a : Adapter σ) (s : Session σ) (p : Policy) : String :=
  schemaOr a.dialect s.settings p.schema

/-- The check of a policy. -/
def policyCheck (a : Adapter σ) (s : Session σ) (p : Policy) : PolicyCheck :=
  match a.dialect with
  | .postgres => .row [.text (a.policySchema s p), .text p.table, .text p.name]
  | .sqlServer => .object (Dialect.sqlServer.quoteQualified p.name (some (a.policySchema s p)))

/-- What is sent for a policy in a session. -/
def policyStatements (a : Adapter σ) (s : Session σ) (p : Policy) : List String :=
  p.sentTexts a.dialect (a.policySchema s p)

/-- Sends statements one after another. -/
def sendAll (a : Adapter σ) : List String → Action σ Unit
  | [] => pure ()
  | sql :: rest => do
    a.sendText sql
    a.sendAll rest

/-- Sends statements as a check has it: only if the catalog has no row, or in any case,
where they are guarded by the name of an object themselves. -/
def applyBy (a : Adapter σ) (stmts : List String) : PolicyCheck → Action σ Unit
  | .row params => do
    let known ← a.queryFirst Catalog.Postgres.policyExists params
    if known.isSome then pure () else a.sendAll stmts
  | .object _ => a.sendAll stmts

/-- **A policy is applied as its check has it.** -/
theorem applyPolicy_runIn (a : Adapter σ) (s : Session σ) (p : Policy) :
    (a.applyPolicy p).runIn s =
      (a.applyBy (a.policyStatements s p) (a.policyCheck s p)).runIn s := by
  have hresolve : (a.resolveSchema p.schema).runIn s = (.ok (a.policySchema s p), s) := rfl
  rw [applyPolicy, Action.runIn_bind, hresolve, policyCheck, policyStatements]
  cases hdialect : a.dialect <;> simp only [applyBy, sentTexts, sendAll, bind_pure_unit]

theorem policyCheck_postgres (h : a.dialect = .postgres) (s : Session σ) (p : Policy) :
    a.policyCheck s p = .row [.text (a.policySchema s p), .text p.table, .text p.name] := by
  rw [policyCheck, h]

theorem policyCheck_sqlServer (h : a.dialect = .sqlServer) (s : Session σ) (p : Policy) :
    a.policyCheck s p =
      .object (Dialect.sqlServer.quoteQualified p.name (some (a.policySchema s p))) := by
  rw [policyCheck, h]

theorem sqlServer_of_policyCheck {object : String} (h : a.policyCheck s p = .object object) :
    a.dialect = .sqlServer ∧
      object = Dialect.sqlServer.quoteQualified p.name (some (a.policySchema s p)) := by
  cases hdialect : a.dialect with
  | postgres =>
    rw [policyCheck_postgres hdialect] at h
    cases h
  | sqlServer =>
    rw [policyCheck_sqlServer hdialect] at h
    exact ⟨rfl, (PolicyCheck.object.inj h).symm⟩

/-- What is asked about two policies is the same just if they have one name, one schema,
and, where the table is asked for, one table. -/
theorem policyCheck_inj (a : Adapter σ) (s t : Session σ) (p q : Policy) :
    a.policyCheck s p = a.policyCheck t q ↔
      p.name = q.name ∧ a.policySchema s p = a.policySchema t q ∧
        (a.dialect = .postgres → p.table = q.table) := by
  cases hdialect : a.dialect with
  | postgres =>
    rw [policyCheck_postgres hdialect, policyCheck_postgres hdialect]
    simp only [PolicyCheck.row.injEq, List.cons.injEq, Value.text.injEq, forall_const]
    constructor
    · rintro ⟨hschema, htable, hname, -⟩
      exact ⟨hname, hschema, htable⟩
    · rintro ⟨hname, hschema, htable⟩
      exact ⟨hschema, htable, hname, trivial⟩
  | sqlServer =>
    rw [policyCheck_sqlServer hdialect, policyCheck_sqlServer hdialect]
    rw [PolicyCheck.object.injEq, Dialect.quoteQualified_eq_iff]
    simp only [Option.getD_some, reduceCtorEq, false_implies, and_true]

/-- The object of a check is among those that another policy is about just if its name is
that of the policy or of its function. -/
theorem mem_objects_iff {object : String} (h : a.policyCheck t q = .object object) :
    object ∈ objects (a.policyStatements s p) ↔
      a.policySchema s p = a.policySchema t q ∧
        (q.name = p.name ∨ q.name = "fn_" ++ p.name ++ "_predicate") := by
  obtain ⟨hdialect, rfl⟩ := sqlServer_of_policyCheck h
  rw [policyStatements, hdialect, objects_sentTexts, predicateName, List.mem_pair,
    Dialect.quoteQualified_eq_iff, Dialect.quoteQualified_eq_iff]
  simp only [Option.getD_some]
  constructor
  · rintro (⟨hname, hschema⟩ | ⟨hname, hschema⟩)
    · exact ⟨hschema.symm, .inr hname⟩
    · exact ⟨hschema.symm, .inl hname⟩
  · rintro ⟨hschema, hname | hname⟩
    · exact .inr ⟨hname, hschema.symm⟩
    · exact .inl ⟨hname, hschema.symm⟩

/-- **The checks of two policies are the same just if their names and schemas are, and
on PostgreSQL their tables.** The check is what a run is decided by: on PostgreSQL
before anything is sent, on SQL Server as the guard of the statement that creates the
policy. So there nothing of that statement is run after another policy was applied just
if the policy was there before, or it is for the same schema and has the name of the
other one or of its predicate function, whatever table it is for. -/
theorem policyCheck_eq_iff (a : Adapter σ) (s t : Session σ) (p q : Policy) :
    (a.policyCheck s p = a.policyCheck t q ↔
      p.name = q.name ∧ a.policySchema s p = a.policySchema t q ∧
        (a.dialect = .postgres → p.table = q.table)) ∧
    (a.applyPolicy p).runIn s =
      (a.applyBy (a.policyStatements s p) (a.policyCheck s p)).runIn s ∧
    ∀ object, a.policyCheck t q = .object object →
      readGuarded? (q.bindingStatement (a.policySchema t q)) =
        some (object, q.bindingDefinition (a.policySchema t q)) ∧
      ∀ known, served (known ++ objects (a.policyStatements s p))
          (q.bindingStatement (a.policySchema t q)) = none ↔
        object ∈ known ∨ a.policySchema s p = a.policySchema t q ∧
          (q.name = p.name ∨ q.name = "fn_" ++ p.name ++ "_predicate") := by
  refine ⟨policyCheck_inj a s t p q, applyPolicy_runIn a s p, fun object h => ?_⟩
  have hbinding : q.bindingStatement (a.policySchema t q) =
      unlessThere object (q.bindingDefinition (a.policySchema t q)) := by
    obtain ⟨-, rfl⟩ := sqlServer_of_policyCheck h
    rfl
  rw [hbinding]
  refine ⟨readGuarded?_unlessThere _ _, fun known => ?_⟩
  rw [served_eq_none_iff, List.mem_append, mem_objects_iff h]

/-- On SQL Server a policy of another table has the check of one that was applied, and is
skipped; so is a policy that is named like the function of that one. -/
theorem policyCheck_shared :
    let a : Adapter Script := ⟨.sqlServer, Script.driver, .ok false⟩
    let s : Session Script := { backend := {} }
    let p : Policy := { name := "p", table := "a" }
    let q : Policy := { name := "p", table := "b" }
    let q' : Policy := { name := "fn_p_predicate", table := "b" }
    p.table ≠ q.table ∧ a.policyCheck s p = a.policyCheck s q ∧ p.name ≠ q'.name ∧
      ∀ skipped ∈ [q, q'], served (objects (a.policyStatements s p))
        (skipped.bindingStatement (a.policySchema s skipped)) = none := by
  intro a s p q q'
  have hskipped : ∀ q : Policy, a.policySchema s p = a.policySchema s q →
      (q.name = p.name ∨ q.name = "fn_" ++ p.name ++ "_predicate") →
      served (objects (a.policyStatements s p))
        (q.bindingStatement (a.policySchema s q)) = none := fun q hschema hname => by
    have hobject := mem_objects_iff (a := a) (p := p) (s := s) (policyCheck_sqlServer rfl s q)
    exact served_eq_none_iff.mpr (hobject.mpr ⟨hschema, hname⟩)
  refine ⟨by decide, rfl, by decide, fun skipped h => ?_⟩
  rcases List.mem_pair.mp h with rfl | rfl
  · exact hskipped q rfl (.inl rfl)
  · exact hskipped q' rfl (.inr (by decide))

/-! ### Applying a policy that is not there

Where nothing stands against it, the statements of a policy are sent as they stand, each
on a connection of its own. -/

/-- The events of statements that are sent as they stand, each on a connection of its
own, the first of which has the number `c`. -/
def leaseEvents (a : Adapter σ) : Nat → List String → List Event
  | _, [] => []
  | c, sql :: rest =>
    .acquire (some c) :: a.statementEvents c sql ++ .release c :: a.leaseEvents (c + 1) rest

/-- The driver hands out a connection for each statement, and takes it. -/
def TakesEach (a : Adapter σ) : List String → σ → σ → Prop
  | [], b, b' => b = b'
  | sql :: rest, b, b' => ∃ b₁ b₂, a.driver.acquire b = (.ok (), b₁) ∧ a.Takes sql b₁ b₂ ∧
      a.TakesEach rest b₂ b'

/-- No policy is found, in a session that then goes on as another: there is no row, or
nothing is asked before the statements are sent. -/
def FindsNone (a : Adapter σ) (s t : Session σ) : PolicyCheck → Prop
  | .row params =>
    (a.queryFirst Catalog.Postgres.policyExists params).runIn s = (.ok none, t)
  | .object _ => s = t

/-- A statement that the driver takes is sent on a connection of its own. -/
theorem sendText_takes {traces : Bool} (htracing : a.tracing = .ok traces) {sql : String}
    {b₁ b₂ : σ} (hpool : s.pool.isSome = true) (hverbatim : a.IsVerbatim sql)
    (hacquire : a.driver.acquire s.backend = (.ok (), b₁)) (htakes : a.Takes sql b₁ b₂) :
    ∃ t, (a.sendText sql).runIn s = (.ok (), t) ∧ t.backend = b₂ ∧ t.pool = s.pool ∧
      t.nextConnection = s.nextConnection + 1 ∧
      t.log = s.log ++ (.acquire (some s.nextConnection) ::
        a.statementEvents s.nextConnection sql ++ [.release s.nextConnection]) := by
  have hcheckout : a.checkout.runIn s = (.ok s.nextConnection,
      { s with
        backend := b₁
        log := s.log ++ [.acquire (some s.nextConnection)]
        nextConnection := s.nextConnection + 1 }) := by
    rw [checkout_runIn, if_pos hpool, acquire, Action.runIn_of, hacquire]
    rfl
  obtain ⟨result, spans, hrun⟩ := runOn_takes (c := s.nextConnection) htracing
    (s := { s with
      backend := b₁
      log := s.log ++ [.acquire (some s.nextConnection)]
      nextConnection := s.nextConnection + 1 }) hverbatim htakes
  have hquery : (a.query sql []).runIn s = _ := withConnection_runIn hcheckout
  rw [hrun] at hquery
  rw [sendText, Action.runIn_bind, hquery]
  exact ⟨_, rfl, rfl, rfl, rfl, by simp⟩

/-- **Statements that the driver takes are sent as they stand**, in their order. -/
theorem sendAll_takes {traces : Bool} (htracing : a.tracing = .ok traces) :
    ∀ {stmts : List String} {s : Session σ} {b : σ}, s.pool.isSome = true →
      (∀ sql ∈ stmts, a.IsVerbatim sql) → a.TakesEach stmts s.backend b →
      ∃ t, (a.sendAll stmts).runIn s = (.ok (), t) ∧ t.backend = b ∧
        t.log = s.log ++ a.leaseEvents s.nextConnection stmts
  | [], s, b, _, _, h => ⟨s, rfl, h, by rw [leaseEvents, List.append_nil]⟩
  | sql :: rest, s, b, hpool, hverbatim, h => by
    obtain ⟨b₁, b₂, hacquire, htakes, hrest⟩ := h
    obtain ⟨t, hsql, hbackend, hopen, hnext, hlog⟩ := sendText_takes htracing hpool
      (hverbatim sql List.mem_cons_self) hacquire htakes
    obtain ⟨u, hsent, hu, hulog⟩ := sendAll_takes htracing (hopen ▸ hpool)
      (fun later hlater => hverbatim later (List.mem_cons_of_mem _ hlater)) (hbackend ▸ hrest)
    refine ⟨u, ?_, hu, ?_⟩
    · rw [sendAll, Action.runIn_bind, hsql]
      exact hsent
    · rw [hulog, hlog, hnext, leaseEvents]
      simp only [List.append_assoc, List.cons_append, List.nil_append]

theorem applyPolicy_of_findsNone (h : a.FindsNone s t (a.policyCheck s p)) :
    (a.applyPolicy p).runIn s = (a.sendAll (a.policyStatements s p)).runIn t := by
  rw [applyPolicy_runIn]
  cases hcheck : a.policyCheck s p with
  | row params =>
    rw [hcheck] at h
    have hnone : (a.queryFirst Catalog.Postgres.policyExists params).runIn s = (.ok none, t) := h
    rw [applyBy, Action.runIn_bind, hnone]
    rfl
  | object name =>
    rw [hcheck] at h
    obtain rfl : s = t := h
    rfl

/-- A statement that cannot be handed over as it stands is not sent, nor is one behind
it. -/
theorem sendAll_refused {sql : String} {c : Nat} {u : Session σ}
    (hcheckout : a.checkout.runIn t = (.ok c, u)) (h : ¬ a.IsVerbatim sql) (rest : List String) :
    (∃ r, ((a.sendAll (sql :: rest)).runIn t).1 = .error (.refused r)) ∧
      ((a.sendAll (sql :: rest)).runIn t).2.log = t.log ++ [.acquire (some c), .release c] := by
  obtain ⟨r, hr⟩ := runOn_refused (c := c) h
  have hquery : (a.query sql []).runIn t = _ := withConnection_runIn hcheckout
  rw [hr] at hquery
  have hrun : (a.sendAll (sql :: rest)).runIn t =
      (.error (.refused r), { u with log := u.log ++ [.release c] }) := by
    rw [sendAll, Action.runIn_bind, sendText, Action.runIn_bind, hquery]
  rw [hrun]
  refine ⟨⟨r, rfl⟩, ?_⟩
  change u.log ++ [.release c] = _
  rw [log_of_checkout hcheckout, List.append_assoc]
  rfl

theorem infix_predicateClause (before : String) {text : String} {predicate : Option String}
    (h : present? predicate = some text) :
    text.toList <:+: (predicateClause before predicate).toList := by
  rw [predicateClause, h]
  exact ⟨(" " ++ before).toList, ")".toList, by simp⟩

theorem infix_createStatement {text : String} (h : text ∈ p.predicates) (schema : String) :
    text.toList <:+: (p.createStatement schema).toList := by
  rw [createStatement_eq, String.toList_append, String.toList_append]
  rw [predicates, List.mem_append, Option.mem_toList, Option.mem_toList] at h
  rcases h with husing | hcheck
  · have hclause := infix_predicateClause "USING (" husing
    exact hclause.trans ⟨_, _, rfl⟩
  · have hclause := infix_predicateClause "WITH CHECK (" hcheck
    exact hclause.trans (List.suffix_append _ _).isInfix

/-- **The predicates of a policy that is not there.** If the driver takes what is sent
for it, the policy is applied, and the log tells the statements, each as it stands; if
the first of them holds what passes for a placeholder it is refused, and nothing is sent.

On PostgreSQL there is one statement, and each predicate that is not empty stands in it,
in a clause of its own. On SQL Server the predicate function has the predicate for rows
that are seen, or `1=1` if that is absent or empty; nothing that is sent depends on the
one for rows that are written, whatever the policy is for. -/
theorem applyPolicy_predicates {traces : Bool} (htracing : a.tracing = .ok traces)
    (habsent : a.FindsNone s t (a.policyCheck s p)) (hpool : t.pool.isSome = true) :
    (∀ b, (∀ sql ∈ a.policyStatements s p, a.IsVerbatim sql) →
      a.TakesEach (a.policyStatements s p) t.backend b →
      ((a.applyPolicy p).runIn s).1 = .ok () ∧ ((a.applyPolicy p).runIn s).2.log =
        t.log ++ a.leaseEvents t.nextConnection (a.policyStatements s p)) ∧
    (∀ sql rest c u, a.policyStatements s p = sql :: rest → ¬ a.IsVerbatim sql →
      a.checkout.runIn t = (.ok c, u) →
      (∃ r, ((a.applyPolicy p).runIn s).1 = .error (.refused r)) ∧
        ((a.applyPolicy p).runIn s).2.log = t.log ++ [.acquire (some c), .release c]) ∧
    (a.dialect = .postgres → ∃ sql, a.policyStatements s p = [sql] ∧
      (∀ text ∈ p.predicates, text.toList <:+: sql.toList) ∧
      sql = ({ p with using? := none, withCheck := none } : Policy).createStatement
          (a.policySchema s p) ++
        predicateClause "USING (" p.using? ++ predicateClause "WITH CHECK (" p.withCheck) ∧
    (a.dialect = .sqlServer → ∃ sql definition,
      a.policyStatements s p = [sql, p.bindingStatement (a.policySchema s p)] ∧
      readGuarded? sql = some (predicateName p.name (a.policySchema s p), definition) ∧
      readPredicate? definition = some ((a.policySchema s p, "fn_" ++ p.name ++ "_predicate"),
        (present? p.using?).getD "1=1") ∧
      ∀ predicate, a.policyStatements s { p with withCheck := predicate } =
        a.policyStatements s p) := by
  rw [applyPolicy_of_findsNone habsent]
  refine ⟨fun b hverbatim htakes => ?_, fun sql rest c u hstatements hsql hcheckout => ?_,
    fun hdialect => ?_, fun hdialect => ?_⟩
  · obtain ⟨u, hrun, -, hlog⟩ := sendAll_takes htracing hpool hverbatim htakes
    rw [hrun]
    exact ⟨rfl, hlog⟩
  · rw [hstatements]
    exact sendAll_refused hcheckout hsql rest
  · refine ⟨_, ?_, fun text h => infix_createStatement h _, createStatement_eq _ _⟩
    rw [policyStatements, hdialect, sentTexts]
  · refine ⟨p.predicateStatement (a.policySchema s p), p.predicateDefinition (a.policySchema s p),
      ?_, readGuarded?_unlessThere _ _, readPredicate?_predicateDefinition _ _, fun predicate => ?_⟩
    · rw [policyStatements, hdialect, sentTexts]
    · rw [policyStatements, policyStatements, hdialect]
      exact sentTexts_withCheck p _ predicate

theorem isVerbatim_of_unmarked {sql : String} (h : Unmarked sql) : a.IsVerbatim sql :=
  fun _ => holdsMark_of_notMem h

/-- A policy with both predicates, and with quotes in them, in both dialects. -/
theorem applyPolicy_predicates_owner :
    let p : Policy :=
      { name := "p", table := "t", using? := some "owner = 'me'", withCheck := some "owner > ''" }
    let s : Session Script := { backend := {}, pool := some 0 }
    let a : Adapter Script := ⟨.postgres, Script.driver, .ok false⟩
    let a' : Adapter Script := ⟨.sqlServer, Script.driver, .ok false⟩
    ((a.applyPolicy p).runIn s).1 = .ok () ∧ ((a'.applyPolicy p).runIn s).1 = .ok () ∧
      a.policyStatements s p = ["CREATE POLICY \"p\" ON \"public\".\"t\" FOR ALL " ++
        "USING (owner = 'me') WITH CHECK (owner > '')"] := by
  intro p s a a'
  let asked (schema : String) : Session Script :=
    { s with
      log := [.acquire (some 0), .prepare 0 Catalog.Postgres.policyExists,
        .fetch 0 [.text schema, .text "t", .text "p"], .release 0]
      nextConnection := 1 }
  have habsent : a.FindsNone s (asked (a.policySchema s p)) (a.policyCheck s p) := by
    rw [policyCheck_postgres rfl]
    subst asked a s p
    rfl
  have habsent' : a'.FindsNone s s (a'.policyCheck s p) := rfl
  have hreply : (Reply.ofFetched [] { status := some "SELECT 0" }).isOk = true := by
    decide +kernel
  obtain ⟨result, hresult⟩ : ∃ result, Reply.ofFetched [] { status := some "SELECT 0" } =
      .ok result := by
    cases hfetched : Reply.ofFetched [] { status := some "SELECT 0" } with
    | error e => rw [hfetched] at hreply; cases hreply
    | ok result => exact ⟨result, rfl⟩
  refine ⟨?_, ?_, by decide +kernel⟩
  · refine ((applyPolicy_predicates rfl habsent rfl).1 {} (fun sql _ h => nomatch h) ?_).1
    exact ⟨_, _, rfl, ⟨_, _, _, _, result, rfl, rfl, rfl, hresult⟩, rfl⟩
  · have hunmarked := p.unmarked_sentTexts (a'.policySchema s p) (by decide) (by decide)
      (by decide +kernel) (by decide)
    refine ((applyPolicy_predicates rfl habsent' rfl).1 {}
      (fun sql hsql => isVerbatim_of_unmarked (hunmarked sql hsql)) ?_).1
    exact ⟨_, _, rfl, ⟨_, _, rfl, rfl⟩, _, _, rfl, ⟨_, _, rfl, rfl⟩, rfl⟩

/-- Rows are to be checked when they are inserted, and every row passes: the statements
are sent, the predicate stands in none of them, and the function has another one. -/
theorem applyPolicy_drops_check :
    let a : Adapter Script := ⟨.sqlServer, Script.driver, .ok false⟩
    let s : Session Script := { backend := {}, pool := some 0 }
    let p : Policy :=
      { name := "p", table := "t", operation := .insert, withCheck := some "owner = @@SPID" }
    let stmts := a.policyStatements s p
    p.predicates = ["owner = @@SPID"] ∧
      ((a.applyPolicy p).runIn s).1 = .ok () ∧
      ((a.applyPolicy p).runIn s).2.log = a.leaseEvents 0 stmts ∧
      (∀ sql ∈ stmts, ¬ "owner = @@SPID".toList <:+: sql.toList) ∧
      ∃ sql ∈ stmts, ∃ object definition, readGuarded? sql = some (object, definition) ∧
        readPredicate? definition = some ((a.policySchema s p, "fn_p_predicate"), "1=1") := by
  intro a s p stmts
  have hunmarked : ∀ sql ∈ stmts, Unmarked sql := p.unmarked_sentTexts (a.policySchema s p)
    (by decide) (by decide) (by decide +kernel) (by decide)
  have htakes : a.TakesEach stmts s.backend s.backend :=
    ⟨_, _, rfl, ⟨_, _, rfl, rfl⟩, _, _, rfl, ⟨_, _, rfl, rfl⟩, rfl⟩
  obtain ⟨u, hrun, -, hlog⟩ := sendAll_takes (a := a) (s := s) rfl rfl
    (fun sql hsql => isVerbatim_of_unmarked (hunmarked sql hsql)) htakes
  have habsent : a.FindsNone s s (a.policyCheck s p) := rfl
  refine ⟨by decide, ?_, ?_, fun sql hsql hstands => ?_, ?_⟩
  · rw [applyPolicy_of_findsNone habsent, hrun]
  · rw [applyPolicy_of_findsNone habsent, hrun]
    exact hlog
  · exact hunmarked sql hsql (hstands.subset (by decide))
  · exact ⟨_, List.mem_cons_self, _, _, readGuarded?_unlessThere _ _,
      readPredicate?_predicateDefinition p _⟩

end Adapter
end TableGate

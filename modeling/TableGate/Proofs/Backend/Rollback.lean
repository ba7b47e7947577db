/-
# What a failed transaction fails with

Work that fails has its transaction rolled back, and the failure of the work is
that of the transaction (`transaction_of_raised`): whenever the work ended its
transaction before it failed, and whenever the rollback succeeds or its failure
is no connection failure. A connection failure of the rollback is not passed
over: it takes the place of the failure of the work.

Key theorems: `Adapter.transaction_of_raised`,
`Adapter.transaction_raises_connection`.
-/
import TableGate.Proofs.Backend.Endings

namespace TableGate

open Transaction

namespace Fault

variable {e f : Fault}

/-- A failure that is no connection failure is passed on as a query error. -/
theorem translated_of_query (h : f.category.isConnectionFailure = false) (sql : Option String) :
    f.translated sql = .api (.query f.text sql (some f.category.text)) := by
  simp [translated, h]

theorem translated_of_connection (h : f.category.isConnectionFailure = true)
    (sql : Option String) :
    f.translated sql = .api (.connection f.text [("category", .text f.category.text)]) := by
  simp [translated, h]

/-- Of the failures that are passed on, the query errors give way. -/
theorem surviving_translated (e f : Fault) (sql : Option String) :
    surviving e (.error (f.translated sql)) =
      if f.category.isConnectionFailure then f.translated sql else e := by
  cases h : f.category.isConnectionFailure with
  | true => rw [translated_of_connection h]; rfl
  | false => rw [translated_of_query h]; rfl

end Fault

namespace Adapter

variable {σ α : Type} {a : Adapter σ} {c : Nat} {s t u : Session σ} {work : Work σ α}
  {e : Fault} {ended : Bool}

/-- A transaction whose work failed fails with what came of its rollback, if one
was sent. -/
theorem transaction_error (hbegins : a.Begins s c t)
    (hraised : (work.runOn a c false).run t = ((.error e, ended), u)) :
    ((a.transaction work).runIn s).1 = .error
      (if ended then e else surviving e
        ((a.answerTo a.dialect.rollbackStatement u.backend).1.mapError
          (a.passedOn a.dialect.rollbackStatement))) := by
  obtain ⟨b, htracing⟩ := hbegins.tracing_ok
  obtain ⟨spans, hrun⟩ := transaction_of_begins hbegins work
  rw [hrun, hraised]
  dsimp only
  rw [conclude_runIn]
  cases ended with
  | true => rfl
  | false =>
    obtain ⟨spans', hcontrol⟩ := control_runIn htracing c (isBare_ending a.dialect .rollback) u
    change Except.error (surviving e ((a.control c a.dialect.rollbackStatement).runIn u).1) = _
    rw [show a.dialect.rollbackStatement = Ending.rollback.statement a.dialect from rfl, hcontrol]
    rfl

/-- **A failure of the work is that of the transaction**, unless the work left the
rollback to the transaction and the rollback ends with a connection failure of the
driver: then the transaction fails with that one. -/
theorem transaction_of_raised (hbegins : a.Begins s c t)
    (hraised : (work.runOn a c false).run t = ((.error e, ended), u)) :
    let outcome := ((a.transaction work).runIn s).1
    let sql := a.dialect.rollbackStatement
    let answer := (a.answerTo sql u.backend).1
    (ended = true → outcome = .error e) ∧
    (ended = false → answer = .ok () → outcome = .error e) ∧
    ∀ f, ended = false → answer = .error f → a.isDriverFault f = true →
      outcome = .error (if f.category.isConnectionFailure then f.translated (some sql) else e) := by
  intro outcome sql answer
  have houtcome : outcome =
      .error (if ended then e else surviving e (answer.mapError (a.passedOn sql))) :=
    transaction_error hbegins hraised
  refine ⟨fun hended => ?_, fun hended hok => ?_, fun f hended hfailed hdriver => ?_⟩
  · rw [houtcome, hended]
    rfl
  · rw [houtcome, hended, hok]
    rfl
  · have hpassed : (Except.error f : Except Fault Unit).mapError (a.passedOn sql) =
        .error (f.translated (some sql)) := by
      rw [Except.mapError, passedOn, hdriver, if_pos rfl]
    rw [houtcome, hended, hfailed, hpassed, if_neg Bool.false_ne_true, Fault.surviving_translated]

/-- A rollback that fails in a deadlock leaves the failure of the work. -/
theorem transaction_of_raised_deadlock :
    let boom : Fault :=
      .foreign ⟨"RuntimeError", "builtins", .plain, none, [.text "boom"], .null⟩ none
    let deadlock : Fault := .foreign ⟨"DeadlockDetectedError", "asyncpg.exceptions", .plain,
      some "postgresql", [.text "deadlock detected"], .text "40P01"⟩ none
    let a : Adapter Script := ⟨.postgres, Script.driver, .ok false⟩
    let s : Session Script :=
      { backend := { rules := [{ kind := .control, piece := "ROLLBACK", fault := some deadlock }] }
        pool := some 0 }
    ((a.transaction (.raise boom : Work Script Unit)).runIn s).1 = .error boom := by
  intro boom deadlock a s
  let opened : Session Script := { s with log := [.acquire (some 0)], nextConnection := 1 }
  let begun : Session Script := { opened with log := [.acquire (some 0), .control 0 "BEGIN"] }
  have hbegins : a.Begins s 0 begun := by
    refine ⟨opened, rfl, ?_⟩
    subst begun opened s a deadlock boom
    rfl
  have hfails : (a.answerTo a.dialect.rollbackStatement begun.backend).1 = .error deadlock := by
    subst begun opened s a deadlock boom
    rfl
  have hdriver : a.isDriverFault deadlock = true := by
    subst begun opened s a deadlock boom
    decide
  have hcategory : deadlock.category = .deadlock := by
    subst begun opened s a deadlock boom
    decide
  have hraised : ((.raise boom : Work Script Unit).runOn a 0 false).run begun =
      ((.error boom, false), begun) := rfl
  have houtcome := (transaction_of_raised hbegins hraised).2.2 deadlock rfl hfails hdriver
  rwa [hcategory] at houtcome

/-- A connection that is lost before the rollback hides the failure of the
work. -/
theorem transaction_raises_connection :
    let boom : Fault :=
      .foreign ⟨"RuntimeError", "builtins", .plain, none, [.text "boom"], .null⟩ none
    let gone : Fault := .foreign ⟨"ConnectionDoesNotExistError", "asyncpg.exceptions", .plain,
      some "postgresql", [.text "connection was closed in the middle of operation"],
      .text "08003"⟩ none
    let a : Adapter Script := ⟨.postgres, Script.driver, .ok false⟩
    let s : Session Script :=
      { backend := { rules := [{ kind := .control, piece := "ROLLBACK", fault := some gone }] }
        pool := some 0 }
    a.isDriverFault gone = true ∧
      ((a.transaction (.raise boom : Work Script Unit)).runIn s).1 =
        .error (.api (.connection "connection was closed in the middle of operation"
          [("category", .text "connectivity")])) ∧
      ((a.transaction (.raise boom : Work Script Unit)).runIn s).1 ≠ .error boom := by
  intro boom gone a s
  have houtcome : ((a.transaction (.raise boom : Work Script Unit)).runIn s).1 =
      .error (.api (.connection "connection was closed in the middle of operation"
        [("category", .text "connectivity")])) := by
    subst s a gone boom
    rfl
  refine ⟨by subst s a gone boom; decide, houtcome, ?_⟩
  rw [houtcome]
  exact fun h => Fault.noConfusion (Except.error.inj h)

end Adapter
end TableGate

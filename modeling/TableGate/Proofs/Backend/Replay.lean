/-
# Scripts are replayed

A script is read in by sending its statements, each as it stands and with nothing
bound, in their order and in one transaction (`Adapter.importSchema_replays`). If
the driver takes them all, the transaction is committed and the statements are
counted; if the driver fails one, nothing behind it is sent, the transaction is
rolled back, and the failure is passed on. A script without statements sends
nothing.

A driver that works through cursors is not handed a statement that holds what
passes for a placeholder, be it a variable, a parameter of a function, or a piece
of a text: nothing is there to be bound, so the statement is refused and the
transaction rolled back. The script is replayed just if none of its statements
holds such a thing (`Adapter.IsVerbatim`).

Key definitions: `Adapter.IsVerbatim`, `Adapter.statementEvents`,
`Adapter.transactionEvents`, `Adapter.Takes`, `Adapter.TakesAll`, `Adapter.Fails`.
Key theorems: `Adapter.runOn_takes`, `Adapter.runOn_fails`, `Adapter.runOn_refused`,
`Work.runOn_ofStatements`, `Adapter.runAll_runIn`, `Adapter.importSchema_replays`.
-/
import TableGate.Backend.Definition
import TableGate.Proofs.Backend.Endings
import TableGate.Proofs.Except
import TableGate.Proofs.Sql.Positional

namespace TableGate

open Transaction

namespace Sql

/-! ### Statements with nothing to bind -/

/-- With nothing to bind, a statement stays as it is; one that holds a placeholder
is refused. -/
theorem bindByPosition_nil (sql : String) :
    holdsMark sql = false ∧ bindByPosition sql [] = .ok (sql, none) ∨
      holdsMark sql = true ∧ ∃ r, bindByPosition sql [] = .error (.refused r) := by
  unfold bindByPosition holdsMark
  dsimp only
  cases slotDigits (lexPlaceholders sql.toList) with
  | nil => exact .inl ⟨rfl, rfl⟩
  | cons digits rest =>
    refine .inr ⟨rfl, ?_⟩
    rw [if_neg (by simp)]
    split
    · exact ⟨_, rfl⟩
    · split
      · exact ⟨_, rfl⟩
      · exact ⟨_, if_pos (Nat.zero_le _)⟩

theorem coerceAll_nil (types : List (Option String)) : coerceAll types [] = .ok [] := by
  cases types <;> rfl

end Sql

namespace Adapter

variable {σ : Type} {a : Adapter σ} {c : Nat} {sql : String}

/-- The statement is handed to the driver as it stands. -/
def IsVerbatim (a : Adapter σ) (sql : String) : Prop :=
  a.dialect = .sqlServer → Sql.holdsMark sql = false

instance (a : Adapter σ) (sql : String) : Decidable (a.IsVerbatim sql) :=
  inferInstanceAs (Decidable (_ → _))

/-! ### What the driver does with a statement -/

/-- The events of a statement that is sent as it stands, with nothing bound. -/
def statementEvents (a : Adapter σ) (c : Nat) (sql : String) : List Event :=
  match a.dialect with
  | .postgres => [.prepare c sql, .fetch c []]
  | .sqlServer => [.execute c sql none, .closeCursor c]

/-- The driver takes a statement with nothing bound, and its reply can be read. -/
def Takes (a : Adapter σ) (sql : String) (b b' : σ) : Prop :=
  match a.dialect with
  | .postgres => ∃ prepared b₁ fields fetched result,
      a.driver.prepare sql b = (.ok prepared, b₁) ∧
      prepared.attributes.mapM ResultField.ofAttribute = .ok fields ∧
      a.driver.fetch [] b₁ = (.ok fetched, b') ∧ Reply.ofFetched fields fetched = .ok result
  | .sqlServer => ∃ cursor result,
      a.driver.execute sql none b = (.ok cursor, b') ∧ Reply.ofCursor sql cursor = .ok result

/-- The driver takes statements one after another. -/
def TakesAll (a : Adapter σ) : List String → σ → σ → Prop
  | [], b, b' => b = b'
  | sql :: rest, b, b' => ∃ b₁, a.Takes sql b b₁ ∧ TakesAll a rest b₁ b'

/-- The driver fails a statement with nothing bound, when it is prepared or when it
runs; `es` are the events of the attempt. -/
def Fails (a : Adapter σ) (c : Nat) (sql : String) (b : σ) (e : Fault) (b' : σ)
    (es : List Event) : Prop :=
  match a.dialect with
  | .postgres =>
    a.driver.prepare sql b = (.error e, b') ∧ es = [.prepare c sql] ∨
      ∃ prepared b₁ fields, a.driver.prepare sql b = (.ok prepared, b₁) ∧
        prepared.attributes.mapM ResultField.ofAttribute = .ok fields ∧
        a.driver.fetch [] b₁ = (.error e, b') ∧ es = [.prepare c sql, .fetch c []]
  | .sqlServer =>
    a.driver.execute sql none b = (.error e, b') ∧ es = [.execute c sql none, .closeCursor c]

/-- The events of a transaction that is begun and ended, with others between. -/
def transactionEvents (a : Adapter σ) (c : Nat) (how : Ending) (es : List Event) : List Event :=
  .acquire (some c) :: a.controlEvents c a.dialect.beginStatement ++ es ++
    a.controlEvents c (how.statement a.dialect) ++ [.release c]

theorem translating_runIn {α : Type} {traces : Bool} (htracing : a.tracing = .ok traces)
    (sql : String) (about : Option String) (act : Action σ α) (s : Session σ) :
    ∃ spans, (a.translating (some sql) (a.traced .query about act)).runIn s =
      ((act.runIn s).1.mapError (a.passedOn sql), { (act.runIn s).2 with spans := spans }) := by
  rcases a.traced_cases .query about act s with ⟨e, he, -⟩ | ⟨b, spans, -, hrun⟩
  · rw [htracing] at he
    cases he
  · refine ⟨spans, ?_⟩
    rw [translating, Action.runIn_mapFault, hrun]
    rfl

theorem runOn_cursor {traces : Bool} (htracing : a.tracing = .ok traces)
    (hdialect : a.dialect = .sqlServer) (hverbatim : a.IsVerbatim sql) (s : Session σ) :
    ∃ spans, (a.runOn c sql []).runIn s =
      (((a.driver.execute sql none s.backend).1 >>= Reply.ofCursor sql).mapError (a.passedOn sql),
        { s with
          backend := (a.driver.execute sql none s.backend).2
          log := s.log ++ [.execute c sql none, .closeCursor c]
          spans := spans }) := by
  rcases Sql.bindByPosition_nil sql with ⟨-, hbind⟩ | ⟨hmark, -⟩
  · rw [runOn, hdialect]
    dsimp only
    rw [runCursor, hbind]
    obtain ⟨spans, hrun⟩ := translating_runIn htracing sql (some sql)
      ((Action.ask (a.driver.execute sql none) (.execute c sql none) >>= fun cursor =>
        Action.ofExcept (Reply.ofCursor sql cursor)).andFinally (.record (.closeCursor c))) s
    rw [runIn_execution] at hrun
    exact ⟨spans, hrun⟩
  · rw [hverbatim hdialect] at hmark
    cases hmark

/-- Prepares a statement and runs it with nothing bound. -/
def preparedRun (a : Adapter σ) (c : Nat) (sql : String) :
    Action σ (List ResultField × Fetched) := do
  let prepared ← Action.ask (a.driver.prepare sql) (.prepare c sql)
  let fields ← Action.ofExcept (prepared.attributes.mapM ResultField.ofAttribute)
  let bound ← Action.ofExcept (Sql.coerceAll prepared.parameterTypes [])
  let fetched ← Action.ask (a.driver.fetch bound) (.fetch c bound)
  pure (fields, fetched)

theorem runOn_prepared {traces : Bool} (htracing : a.tracing = .ok traces)
    (hdialect : a.dialect = .postgres) (sql : String) (s : Session σ) :
    ∃ spans, (a.runOn c sql []).runIn s =
      (((a.preparedRun c sql).runIn s).1.mapError (a.passedOn sql) >>= fun r =>
          Reply.ofFetched r.1 r.2,
        { ((a.preparedRun c sql).runIn s).2 with spans := spans }) := by
  obtain ⟨spans, hrun⟩ := translating_runIn htracing sql (some sql)
    (a.preparedRun c sql) s
  refine ⟨spans, ?_⟩
  rw [runOn, hdialect]
  change (a.translating (some sql) (a.traced .query (some sql) (a.preparedRun c sql)) >>=
    fun r => Action.ofExcept (Reply.ofFetched r.1 r.2)).runIn s = _
  rw [Action.runIn_bind, hrun]
  cases ((a.preparedRun c sql).runIn s).1.mapError (a.passedOn sql) <;> rfl

/-- **A statement that the driver takes is sent as it stands.** -/
theorem runOn_takes {traces : Bool} (htracing : a.tracing = .ok traces) {s : Session σ} {b' : σ}
    (hverbatim : a.IsVerbatim sql) (h : a.Takes sql s.backend b') :
    ∃ result spans, (a.runOn c sql []).runIn s =
      (.ok result,
        { s with backend := b', log := s.log ++ a.statementEvents c sql, spans := spans }) := by
  unfold Takes at h
  cases hdialect : a.dialect with
  | sqlServer =>
    rw [hdialect] at h
    obtain ⟨cursor, result, hexecute, hresult⟩ := h
    obtain ⟨spans, hrun⟩ := runOn_cursor (c := c) htracing hdialect hverbatim s
    rw [hexecute] at hrun
    refine ⟨result, spans, hrun.trans ?_⟩
    simp only [statementEvents, hdialect, bind, Except.bind, hresult, Except.mapError]
  | postgres =>
    rw [hdialect] at h
    obtain ⟨prepared, b₁, fields, fetched, result, hprepare, hfields, hfetch, hresult⟩ := h
    obtain ⟨spans, hrun⟩ := runOn_prepared (c := c) htracing hdialect sql s
    have hprepared : (a.preparedRun c sql).runIn s = (.ok (fields, fetched),
        { s with backend := b', log := s.log ++ [.prepare c sql, .fetch c []] }) := by
      simp [preparedRun, Action.runIn_bind, hprepare, hfields, Sql.coerceAll_nil, hfetch,
        -bind_pure_comp]
    rw [hprepared] at hrun
    refine ⟨result, spans, hrun.trans ?_⟩
    simp only [statementEvents, hdialect, bind, Except.bind, hresult, Except.mapError]

/-- **A failure of the driver is passed on.** -/
theorem runOn_fails {traces : Bool} (htracing : a.tracing = .ok traces) {s : Session σ} {b' : σ}
    {e : Fault} {es : List Event} (hverbatim : a.IsVerbatim sql)
    (h : a.Fails c sql s.backend e b' es) :
    ∃ spans, (a.runOn c sql []).runIn s =
      (.error (a.passedOn sql e),
        { s with backend := b', log := s.log ++ es, spans := spans }) := by
  unfold Fails at h
  cases hdialect : a.dialect with
  | sqlServer =>
    rw [hdialect] at h
    obtain ⟨hexecute, rfl⟩ := h
    obtain ⟨spans, hrun⟩ := runOn_cursor (c := c) htracing hdialect hverbatim s
    rw [hexecute] at hrun
    exact ⟨spans, hrun⟩
  | postgres =>
    rw [hdialect] at h
    obtain ⟨spans, hrun⟩ := runOn_prepared (c := c) htracing hdialect sql s
    have hprepared : (a.preparedRun c sql).runIn s =
        (.error e, { s with backend := b', log := s.log ++ es }) := by
      rcases h with ⟨hprepare, rfl⟩ | ⟨prepared, b₁, fields, hprepare, hfields, hfetch, rfl⟩
      · simp [preparedRun, Action.runIn_bind, hprepare]
      · simp [preparedRun, Action.runIn_bind, hprepare, hfields, Sql.coerceAll_nil, hfetch,
          -bind_pure_comp]
    rw [hprepared] at hrun
    exact ⟨spans, hrun⟩

/-- **A statement that holds a placeholder is not handed to the driver.** -/
theorem runOn_refused (h : ¬ a.IsVerbatim sql) :
    ∃ r, ∀ s, (a.runOn c sql []).runIn s = (.error (.refused r), s) := by
  obtain ⟨hdialect, hmark⟩ := Classical.not_imp.mp h
  rcases Sql.bindByPosition_nil sql with ⟨hnone, -⟩ | ⟨-, r, hr⟩
  · exact absurd hnone hmark
  · refine ⟨r, fun s => ?_⟩
    rw [runOn, hdialect]
    dsimp only
    rw [runCursor, hr]
    rfl

end Adapter

namespace Work

variable {σ : Type} {a : Adapter σ} {c : Nat} {traces : Bool}

/-! ### Statements one after another -/

theorem runOn_ofStatements_nil (a : Adapter σ) (c : Nat) (s : Session σ) :
    ((ofStatements []).runOn a c false).run s = ((.ok (), false), s) := rfl

theorem runOn_ofStatements_of_error {sql : String} {s t : Session σ} {e : Fault}
    (h : (a.runOn c sql []).runIn s = (.error e, t)) (rest : List String) :
    ((ofStatements (sql :: rest)).runOn a c false).run s = ((.error e, false), t) := by
  have hrun : ((a.runOn c sql []).run).run s = (.error e, t) := h
  rw [ofStatements, runOn, StateT.run_bind, hrun]
  rfl

/-- **Statements that the driver takes are sent as they stand**, and then come the
rest. -/
theorem runOn_ofStatements (htracing : a.tracing = .ok traces) (rest : List String) :
    ∀ {stmts : List String} {s : Session σ} {b : σ}, (∀ sql ∈ stmts, a.IsVerbatim sql) →
      a.TakesAll stmts s.backend b →
      ∃ spans, ((ofStatements (stmts ++ rest)).runOn a c false).run s =
        ((ofStatements rest).runOn a c false).run
          { s with
            backend := b
            log := s.log ++ stmts.flatMap (a.statementEvents c)
            spans := spans }
  | [], s, b, _, h => by
    obtain rfl : s.backend = b := h
    exact ⟨s.spans, by simp⟩
  | sql :: stmts, s, b, hverbatim, h => by
    obtain ⟨b₁, htakes, htakesAll⟩ := h
    obtain ⟨result, spans₁, hsql⟩ := Adapter.runOn_takes (c := c) htracing
      (hverbatim sql List.mem_cons_self) htakes
    have hrun : ((a.runOn c sql []).run).run s = _ := hsql
    obtain ⟨spans, hrest⟩ := runOn_ofStatements htracing rest
      (s := { s with
        backend := b₁
        log := s.log ++ a.statementEvents c sql
        spans := spans₁ })
      (fun sql' h => hverbatim sql' (List.mem_cons_of_mem _ h)) htakesAll
    refine ⟨spans, ?_⟩
    rw [List.cons_append, ofStatements, runOn, StateT.run_bind, hrun]
    refine hrest.trans ?_
    rw [List.flatMap_cons, List.append_assoc]

end Work

namespace Adapter

variable {σ : Type} {a : Adapter σ} {c : Nat} {s t : Session σ} {script : String}
  {stmts : List String}

/-! ### Scripts -/

theorem importSchema_runIn (h : Sql.splitScript a.dialect.lexicon script = .ok stmts)
    (s : Session σ) :
    (a.importSchema script).runIn s =
      (((a.runAll stmts).runIn s).1.map fun _ => stmts.length, ((a.runAll stmts).runIn s).2) := by
  have hstatements : a.scriptStatements script = .ok stmts := by rw [scriptStatements, h]
  rw [importSchema, hstatements, Action.ofExcept_ok_bind, Action.runIn_bind]
  rcases (a.runAll stmts).runIn s with ⟨r, t⟩
  cases r <;> rfl

theorem runAll_of_ne_nil (h : stmts ≠ []) :
    a.runAll stmts = a.transaction (.ofStatements stmts) := by
  rw [runAll, if_neg (by simpa using h)]

/-- The statements end with some outcome, and the driver ends the transaction as is
due. -/
theorem runAll_runIn {u : Session σ} {b : σ} {r : Except Fault Unit} (h : a.Begins s c t)
    (hne : stmts ≠ [])
    (hwork : ((Work.ofStatements stmts).runOn a c false).run t = ((r, false), u))
    (hending : a.answerTo ((Ending.due r).statement a.dialect) u.backend = (.ok (), b)) :
    ∃ spans, (a.runAll stmts).runIn s =
      (r,
        { u with
          backend := b
          log := u.log ++ a.controlEvents c ((Ending.due r).statement a.dialect) ++ [.release c]
          spans := spans }) := by
  obtain ⟨traces, htracing⟩ := h.tracing_ok
  obtain ⟨spans, hrun⟩ := transaction_of_begins h (.ofStatements stmts)
  obtain ⟨spans', hcontrol⟩ := control_runIn htracing c (isBare_ending a.dialect (.due r)) u
  rw [hending] at hcontrol
  have hconclude : (a.conclude c (r, false)).runIn u =
      (r,
        { u with
          backend := b
          log := u.log ++ a.controlEvents c ((Ending.due r).statement a.dialect)
          spans := spans' }) := by
    rw [conclude_runIn, if_neg Bool.false_ne_true, hcontrol]
    cases r <;> rfl
  refine ⟨spans, ?_⟩
  rw [runAll_of_ne_nil hne, hrun, hwork]
  dsimp only
  rw [hconclude]

theorem importSchema_of_takesAll {b b' : σ}
    (h : Sql.splitScript a.dialect.lexicon script = .ok stmts) (hne : stmts ≠ [])
    (hverbatim : ∀ sql ∈ stmts, a.IsVerbatim sql) (hbegins : a.Begins s c t)
    (htakes : a.TakesAll stmts t.backend b)
    (hcommit : a.answerTo a.dialect.commitStatement b = (.ok (), b')) :
    ((a.importSchema script).runIn s).1 = .ok stmts.length ∧
      ((a.importSchema script).runIn s).2.log = s.log ++
        a.transactionEvents c .commit (stmts.flatMap (a.statementEvents c)) := by
  obtain ⟨traces, htracing⟩ := hbegins.tracing_ok
  obtain ⟨spans, hwork⟩ := Work.runOn_ofStatements (c := c) htracing [] hverbatim htakes
  rw [List.append_nil, Work.runOn_ofStatements_nil] at hwork
  obtain ⟨spans', hrun⟩ := runAll_runIn hbegins hne hwork hcommit
  rw [importSchema_runIn h, hrun]
  exact ⟨rfl, by simp [transactionEvents, hbegins.log_eq, Ending.due]⟩

/-- The statements are taken up to one that fails with `e` in the state `u`. -/
theorem importSchema_of_error {front rest : List String} {sql : String} {b b' : σ} {e : Fault}
    {es : List Event} (h : Sql.splitScript a.dialect.lexicon script = .ok (front ++ sql :: rest))
    (hverbatim : ∀ sql ∈ front, a.IsVerbatim sql) (hbegins : a.Begins s c t)
    (htakes : a.TakesAll front t.backend b)
    (hsql : ∀ u : Session σ, u.backend = b → ∃ spans, (a.runOn c sql []).runIn u =
      (.error e, { u with backend := b', log := u.log ++ es, spans := spans }))
    (hrollback : (a.answerTo a.dialect.rollbackStatement b').1 = .ok ()) :
    ((a.importSchema script).runIn s).1 = .error e ∧
      ((a.importSchema script).runIn s).2.log = s.log ++
        a.transactionEvents c .rollback (front.flatMap (a.statementEvents c) ++ es) := by
  obtain ⟨traces, htracing⟩ := hbegins.tracing_ok
  obtain ⟨spans, hwork⟩ := Work.runOn_ofStatements (c := c) htracing (sql :: rest) hverbatim htakes
  obtain ⟨spans', hstatement⟩ := hsql
    { t with
      backend := b
      log := t.log ++ front.flatMap (a.statementEvents c)
      spans := spans } rfl
  rw [Work.runOn_ofStatements_of_error hstatement] at hwork
  obtain ⟨spans'', hrun⟩ := runAll_runIn hbegins (by simp) hwork (Prod.ext hrollback rfl)
  rw [importSchema_runIn h, hrun]
  exact ⟨rfl, by simp [transactionEvents, hbegins.log_eq, Ending.due]⟩

/-- A statement that cannot be handed over as it stands is refused. -/
theorem importSchema_of_not_isVerbatim {front rest : List String} {sql : String} {b : σ}
    (h : Sql.splitScript a.dialect.lexicon script = .ok (front ++ sql :: rest))
    (hverbatim : ∀ sql ∈ front, a.IsVerbatim sql) (hsql : ¬ a.IsVerbatim sql)
    (hbegins : a.Begins s c t) (htakes : a.TakesAll front t.backend b)
    (hrollback : (a.answerTo a.dialect.rollbackStatement b).1 = .ok ()) :
    (∃ r, ((a.importSchema script).runIn s).1 = .error (.refused r)) ∧
      ((a.importSchema script).runIn s).2.log = s.log ++
        a.transactionEvents c .rollback (front.flatMap (a.statementEvents c)) := by
  obtain ⟨r, hr⟩ := runOn_refused (c := c) hsql
  have hrefused : ∀ u : Session σ, u.backend = b → ∃ spans, (a.runOn c sql []).runIn u =
      (.error (.refused r), { u with backend := b, log := u.log ++ [], spans := spans }) :=
    fun u hu => ⟨u.spans, (hr u).trans (by simp [← hu])⟩
  have himport := importSchema_of_error h hverbatim hbegins htakes hrefused hrollback
  rw [List.append_nil] at himport
  exact ⟨⟨r, himport.1⟩, himport.2⟩

/-- **A script is replayed.** Its statements are sent as they stand, with nothing
bound, in their order, on one connection and between the statements that begin and
commit a transaction, and they are counted. Where the driver fails one of them,
those up to it are sent, the transaction is rolled back, and the failure is passed
on as an error with a category. A script without statements sends nothing.

A statement that cannot be handed over as it stands is refused: those before it are
sent, and the transaction is rolled back. -/
theorem importSchema_replays (h : Sql.splitScript a.dialect.lexicon script = .ok stmts) :
    (stmts = [] → ∀ s, (a.importSchema script).runIn s = (.ok 0, s)) ∧
    (∀ s c t b, stmts ≠ [] → (∀ sql ∈ stmts, a.IsVerbatim sql) →
      a.Begins s c t → a.TakesAll stmts t.backend b →
      (a.answerTo a.dialect.commitStatement b).1 = .ok () →
      ((a.importSchema script).runIn s).1 = .ok stmts.length ∧
      ((a.importSchema script).runIn s).2.log = s.log ++
        a.transactionEvents c .commit (stmts.flatMap (a.statementEvents c))) ∧
    (∀ front sql rest, stmts = front ++ sql :: rest → (∀ sql ∈ front, a.IsVerbatim sql) →
      ∀ s c t b, a.Begins s c t → a.TakesAll front t.backend b →
      (∀ e b' es, a.IsVerbatim sql → a.Fails c sql b e b' es → a.isDriverFault e = true →
        (a.answerTo a.dialect.rollbackStatement b').1 = .ok () →
        ((a.importSchema script).runIn s).1 = .error (e.translated (some sql)) ∧
        ((a.importSchema script).runIn s).2.log = s.log ++
          a.transactionEvents c .rollback (front.flatMap (a.statementEvents c) ++ es)) ∧
      (¬ a.IsVerbatim sql → (a.answerTo a.dialect.rollbackStatement b).1 = .ok () →
        (∃ r, ((a.importSchema script).runIn s).1 = .error (.refused r)) ∧
        ((a.importSchema script).runIn s).2.log = s.log ++
          a.transactionEvents c .rollback (front.flatMap (a.statementEvents c)))) := by
  refine ⟨?_, fun s c t b hne hverbatim hbegins htakes hcommit =>
    importSchema_of_takesAll h hne hverbatim hbegins htakes (Prod.ext hcommit rfl), ?_⟩
  · rintro rfl s
    rw [importSchema_runIn h]
    rfl
  · rintro front sql rest rfl hverbatim s c t b hbegins htakes
    obtain ⟨traces, htracing⟩ := hbegins.tracing_ok
    refine ⟨fun e b' es hsql hfails hdriver hrollback => ?_, fun hsql hrollback => ?_⟩
    · have hpassed : a.passedOn sql e = e.translated (some sql) := by rw [passedOn, if_pos hdriver]
      rw [← hpassed]
      refine importSchema_of_error h hverbatim hbegins htakes (fun u hu => ?_) hrollback
      exact runOn_fails htracing hsql (by rwa [hu])
    · exact importSchema_of_not_isVerbatim h hverbatim hsql hbegins htakes hrollback

set_option maxRecDepth 10000 in
/-- Two statements are taken; or the second one fails, and the first one is rolled
back. -/
theorem importSchema_replays_drops :
    let locked : Fault := .foreign ⟨"OperationalError", "pymssql", .plain, some "tsql",
      [.text "locked"], .null⟩ none
    let a : Adapter Script := ⟨.sqlServer, Script.driver, .ok false⟩
    let s : Session Script := { backend := {}, pool := some 0 }
    let failing : Session Script :=
      { s with backend := { rules := [{ piece := "DROP TABLE b", fault := some locked }] } }
    Sql.splitScript a.dialect.lexicon "DROP TABLE a;DROP TABLE b" =
        .ok ["DROP TABLE a", "DROP TABLE b"] ∧
      ((a.importSchema "DROP TABLE a;DROP TABLE b").runIn s).1 = .ok 2 ∧
      ((a.importSchema "DROP TABLE a;DROP TABLE b").runIn failing).1 =
        .error (locked.translated (some "DROP TABLE b")) := by
  intro locked a s failing
  have hsplit : Sql.splitScript .sqlServer "DROP TABLE a;DROP TABLE b" =
      .ok ["DROP TABLE a", "DROP TABLE b"] := by rfl
  have hreplays := importSchema_replays (a := a) hsplit
  have hverbatim : ∀ sql ∈ ["DROP TABLE a", "DROP TABLE b"], a.IsVerbatim sql := by
    subst a
    decide
  refine ⟨hsplit, ?_, ?_⟩
  · let begun : Session Script :=
      { s with
        log := [.acquire (some 0), .execute 0 "BEGIN TRANSACTION" none, .closeCursor 0]
        nextConnection := 1 }
    have hbegins : a.Begins s 0 begun := by
      refine ⟨{ s with log := [.acquire (some 0)], nextConnection := 1 }, rfl, ?_⟩
      subst begun s a locked
      rfl
    have htakes : a.TakesAll ["DROP TABLE a", "DROP TABLE b"] begun.backend begun.backend :=
      ⟨_, ⟨_, _, rfl, rfl⟩, _, ⟨_, _, rfl, rfl⟩, rfl⟩
    exact (hreplays.2.1 s 0 begun begun.backend (by simp) hverbatim hbegins htakes rfl).1
  · let begun : Session Script :=
      { failing with
        log := [.acquire (some 0), .execute 0 "BEGIN TRANSACTION" none, .closeCursor 0]
        nextConnection := 1 }
    have hbegins : a.Begins failing 0 begun := by
      refine ⟨{ failing with log := [.acquire (some 0)], nextConnection := 1 }, rfl, ?_⟩
      subst begun failing a locked
      rfl
    have htakes : a.TakesAll ["DROP TABLE a"] begun.backend begun.backend := by
      refine ⟨begun.backend, ⟨{}, { rowCount := 0, command := some "DROP" }, ?_, rfl⟩, rfl⟩
      subst begun failing a locked
      rfl
    let stuck : Script :=
      { begun.backend with pending := { piece := "DROP TABLE b", fault := some locked } }
    have hfails : a.Fails 0 "DROP TABLE b" begun.backend locked stuck
        [.execute 0 "DROP TABLE b" none, .closeCursor 0] := by
      refine ⟨?_, rfl⟩
      subst stuck begun failing a locked
      rfl
    have hdriver : a.isDriverFault locked = true := by
      subst a locked
      decide
    have hrollback : (a.answerTo a.dialect.rollbackStatement stuck).1 = .ok () := by
      subst stuck begun failing a locked
      rfl
    have hfront := hreplays.2.2 ["DROP TABLE a"] "DROP TABLE b" [] rfl
      (fun sql h => hverbatim sql (List.mem_append_left ["DROP TABLE b"] h))
    exact ((hfront failing 0 begun begun.backend hbegins htakes).1 locked stuck _
      (hverbatim _ (by simp)) hfails hdriver hrollback).1

/-- The parameter of a function passes for a placeholder: the driver would take the
statement, but is not handed it. -/
theorem importSchema_refuses_parameter :
    let script := "CREATE FUNCTION f(@param1 int) RETURNS int AS BEGIN RETURN @param1; END"
    let a : Adapter Script := ⟨.sqlServer, Script.driver, .ok false⟩
    let s : Session Script := { backend := {}, pool := some 0 }
    Sql.splitScript a.dialect.lexicon script = .ok [script] ∧
      a.Takes script s.backend s.backend ∧
      (∃ r, ((a.importSchema script).runIn s).1 = .error (.refused r)) ∧
      ((a.importSchema script).runIn s).2.log = a.transactionEvents 0 .rollback [] := by
  intro script a s
  have hsplit : Sql.splitScript a.dialect.lexicon script = .ok ([] ++ script :: []) :=
    Results.eq_ok_of_toOption (by decide +kernel)
  have hmark : ¬ a.IsVerbatim script := by decide +kernel
  let begun : Session Script :=
    { s with
      log := [.acquire (some 0), .execute 0 "BEGIN TRANSACTION" none, .closeCursor 0]
      nextConnection := 1 }
  have hbegins : a.Begins s 0 begun := by
    refine ⟨{ s with log := [.acquire (some 0)], nextConnection := 1 }, rfl, ?_⟩
    subst begun s a
    rfl
  exact ⟨hsplit, ⟨_, _, rfl, rfl⟩,
    importSchema_of_not_isVerbatim hsplit (by simp) hmark hbegins rfl rfl⟩

end Adapter
end TableGate

/-
# Pages and their totals

A page of rows comes with the number of all rows that satisfy its conditions. Two
statements are sent for it. Both take their rows from the same source, which is the
table under the conditions (`Compiler.source`): its text stands behind `FROM` in
both, with the same placeholders, and its values are the parameters of both. The page
has columns in front of it, an order and bounds behind it; the count has neither.

Nothing is sent if the query string is not read or the page is not compiled; that the
page is compiled and the count is not does not happen. Otherwise the page is sent
first, and the count only if the page was answered (`Service.Listed`). The log tells
so: a query that is answered has sent its statement, and sent it once
(`Adapter.sent_of_query_ok`).

Key definitions: `Action.Reaches`, `Compiler.source`, `Service.Listed`.
Key theorems: `Adapter.sent_of_query_ok`, `Compiler.count_of_select`,
`Service.listed_of_select`, `Service.listRows_issues`.
-/
import TableGate.Api.Service
import TableGate.Proofs.Backend.Connection
import TableGate.Proofs.Backend.Trace
import TableGate.Proofs.Query.Request

namespace TableGate

/-! ### Statements that are answered -/

namespace Action

variable {σ α β : Type} {m n : Nat} {texts : String → Prop}

/-- Where the action succeeds, it has sent that many statements or more. -/
def Reaches (n : Nat) (act : Action σ α) : Prop :=
  ∀ s a t, act.runIn s = (.ok a, t) → s.sent.length + n ≤ t.sent.length

theorem Sends.reaches {act : Action σ α} (h : Sends m texts act) : Reaches 0 act := by
  intro s a t hrun
  obtain ⟨sent, hsent, -⟩ := h s
  rw [hrun] at hsent
  rw [hsent, List.length_append]
  omega

theorem reaches_ask (answer : Answer σ α) (e : Event) :
    Reaches e.statement?.toList.length (ask answer e) := by
  intro s a t hrun
  rw [runIn_ask] at hrun
  obtain ⟨-, rfl⟩ := Prod.mk.inj hrun
  exact Nat.le_of_eq (by rw [← List.length_append]; exact congrArg List.length (sent_record e _).symm)

theorem Reaches.bind {act : Action σ α} {next : α → Action σ β} (h : Reaches m act)
    (hnext : ∀ a, Reaches n (next a)) : Reaches (m + n) (act >>= next) := by
  intro s b u hrun
  obtain ⟨a, t, hact, hrest⟩ := bind_ok hrun
  have hfront := h s a t hact
  have hback := hnext a t b u hrest
  omega

theorem Reaches.mapFault {act : Action σ α} {f : Fault → Fault} (h : Reaches n act) :
    Reaches n (act.mapFault f) := fun s a t hrun => h s a t (mapFault_ok hrun)

/-- What is done at the end takes nothing back. -/
theorem Reaches.andFinally {act : Action σ α} {e : Event} (h : Reaches n act) :
    Reaches n (act.andFinally (.record e)) := by
  intro s a t hrun
  rw [runIn_andFinally, runIn_record] at hrun
  obtain ⟨ha, rfl⟩ := Prod.mk.inj hrun
  have hact := h s a (act.runIn s).2 (Prod.ext ha rfl)
  rw [sent_record, List.length_append]
  omega

end Action

namespace Adapter

open TableGate.Action

variable {σ α : Type} {a : Adapter σ} {n : Nat} {sql : String} {params : List Value}

theorem reaches_traced {kind : SpanKind} {text : Option String} {act : Action σ α}
    (h : Reaches n act) : Reaches n (a.traced kind text act) := by
  intro s b t hrun
  rcases a.traced_cases kind text act s with ⟨e, -, herror⟩ | ⟨recorded, spans, -, hspan⟩
  · rw [herror] at hrun
    cases (Prod.mk.inj hrun).1
  · rw [hspan] at hrun
    obtain ⟨hb, rfl⟩ := Prod.mk.inj hrun
    exact h s b (act.runIn s).2 (Prod.ext hb rfl)

/-- A statement that is answered was given to the driver. -/
theorem reaches_runOn (c : Nat) : Reaches 1 (a.runOn c sql params) := by
  have hrest : ∀ {β : Type} (r : Except Fault β), Reaches 0 (Action.ofExcept r : Action σ β) :=
    fun r => (Sends.ofExcept r : Sends 0 (fun _ => True) _).reaches
  have hpure : ∀ {β : Type} (b : β), Reaches 0 (pure b : Action σ β) :=
    fun b => (Sends.pure b : Sends 0 (fun _ => True) _).reaches
  unfold runOn
  cases a.dialect with
  | postgres =>
    have hprepare : Reaches 1 (Action.ask (a.driver.prepare sql) (.prepare c sql)) := reaches_ask _ _
    refine Reaches.bind (m := 1) (n := 0) (reaches_traced ?_).mapFault fun r => hrest _
    refine hprepare.bind (n := 0) fun prepared => ?_
    refine (hrest _).bind (n := 0) fun fields => (hrest _).bind (n := 0) fun bound => ?_
    have hfetch : Reaches 0 (Action.ask (a.driver.fetch bound) (.fetch c bound)) := reaches_ask _ _
    exact hfetch.bind fun fetched => hpure _
  | sqlServer =>
    refine (hrest _).bind (m := 0) (n := 1) fun p => (reaches_traced ?_).mapFault
    have hexecute : Reaches 1 (Action.ask (a.driver.execute p.1 p.2) (.execute c p.1 p.2)) :=
      reaches_ask _ _
    exact Reaches.andFinally (hexecute.bind (n := 0) fun cursor => hrest _)

theorem reaches_query : Reaches 1 (a.query sql params) := by
  have hcheckout : Reaches 0 a.checkout :=
    (sends_checkout : Sends 0 (fun _ => True) a.checkout).reaches
  exact hcheckout.bind (n := 1) fun c => (reaches_runOn c).andFinally

/-- **A query that is answered has sent its statement once**, and nothing else. -/
theorem sent_of_query_ok {s t : Session σ} {result : QueryResult}
    (h : (a.query sql params).runIn s = (.ok result, t)) :
    ∃ text, t.sent = s.sent ++ [text] ∧ a.Carries sql params text := by
  obtain ⟨sent, hsent, hone, htexts⟩ := sends_query (a := a) sql params s
  have hreached := reaches_query s result t h
  rw [h] at hsent
  rw [hsent, List.length_append] at hreached
  obtain ⟨text, rfl⟩ := List.length_eq_one_iff.mp (by omega : sent.length = 1)
  exact ⟨text, hsent, htexts text (List.mem_singleton_self text)⟩

end Adapter

/-! ### The two statements -/

namespace Statement

variable {d : Dialect} {s t : Statement}

/-- Without values a statement is not numbered. -/
theorem textFrom_of_params_nil (h : s.params = []) (m n : Nat) :
    textFrom d m s = textFrom d n s := by
  induction s with
  | nil => rfl
  | cons p s ih =>
    cases p with
    | value v => cases h
    | text x => exact congrArg (x ++ ·) (ih h)
    | name x => exact congrArg (d.quote x ++ ·) (ih h)

/-- What stands behind a statement without values is numbered from the start. -/
theorem text_append_of_params_nil (h : s.params = []) : (s ++ t).text d = s.text d ++ t.text d := by
  rw [text, textFrom_append, h]
  rfl

/-- And what has no values may stand behind any statement. -/
theorem text_append_of_params_nil_right (h : t.params = []) :
    (s ++ t).text d = s.text d ++ t.text d := by
  rw [text, textFrom_append, textFrom_of_params_nil h _ 0]
  rfl

end Statement

namespace Compiler

open Statement

variable {c : Compiler} {table : String} {schema : Option String} {filter : Filter}
  {page : Statement}

/-- Where the rows of a page come from, and those of its count: the table under the
conditions. -/
def source (c : Compiler) (table : String) (schema : Option String) (filter : Filter) :
    Except Fault Statement := do
  let tests ← whereClause c.dialect filter.conditions
  pure (qualifiedName table schema ++ tests)

/-- **Where a page is compiled, so is its count, over the same source**: the texts of
both contain its text, and its values are the parameters of both. -/
theorem count_of_select (h : c.select table filter schema = .ok page) :
    ∃ source count, c.source table schema filter = .ok source ∧
      c.count table filter schema = .ok count ∧
      page.command c.dialect =
        ⟨"SELECT " ++ (columnList filter.select).text c.dialect ++ " FROM " ++
          source.text c.dialect ++ (orderClause c.dialect filter.order).text c.dialect ++ " " ++
          c.dialect.paginate (c.effectiveLimit filter.limit) (filter.offset.getD 0),
        source.params⟩ ∧
      count.command c.dialect =
        ⟨"SELECT COUNT(*) AS total FROM " ++ source.text c.dialect, source.params⟩ := by
  obtain ⟨tests, htests, rfl⟩ := select_ok h
  have hcolumns := (columnList_spec filter.select).2
  have horder := (orderClause_spec c.dialect filter.order).2
  have hsource : c.source table schema filter = .ok (qualifiedName table schema ++ tests) :=
    Results.bind_eq_ok_iff.mpr ⟨tests, htests, rfl⟩
  have hcount : c.count table filter schema =
      .ok (.text "SELECT COUNT(*) AS total FROM " :: qualifiedName table schema ++ tests) :=
    Results.bind_eq_ok_iff.mpr ⟨tests, htests, rfl⟩
  have hfront : Statement.params (.text "SELECT " :: columnList filter.select) = [] := hcolumns
  have hbounds : ∀ x, Statement.params [.text x] = [] := fun x => rfl
  refine ⟨_, _, hsource, hcount, ?_, rfl⟩
  rw [Statement.command, text_append_of_params_nil_right (hbounds _),
    text_append_of_params_nil_right horder, List.append_assoc, text_append_of_params_nil hfront]
  simp only [Statement.text, textFrom, params_append, hcolumns, horder, hbounds, List.append_nil,
    List.nil_append, List.cons_append, params_text, String.append_assoc, String.append_empty]

end Compiler

/-! ### The log of a listing -/

namespace Service

open Compiler

variable {σ : Type} {s : Service σ} {table : String} {pairs : List (String × Value)}
  {filter : Filter} {page count : Statement} {t : Session σ}

/-- The text is what the driver is given for the statement. -/
def Carries (s : Service σ) (st : Statement) (text : String) : Prop :=
  s.adapter.Carries (st.text s.adapter.dialect) st.params text

/-- The answer with a page and a total. -/
def listing (page : QueryResult) (total : Int) : Value :=
  .mapping [("data", .list (page.rows.map .mapping)), ("count", .int page.rows.length),
    ("total", .int total)]

/-- How a listing ends, what it leaves, and what it sends: the page, and the count once
the page is answered. The total is the number in the answer to the count. -/
inductive Listed (s : Service σ) (page count : Statement) (t : Session σ) :
    Except Fault Value → Session σ → List String → Prop where
  | refused {e : Fault} {u : Session σ} {sent : List String}
    (hpage : (s.send (.ok page)).runIn t = (.error e, u)) (hone : sent.length ≤ 1)
    (hsent : ∀ text ∈ sent, s.Carries page text) : Listed s page count t (.error e) u sent
  | uncounted {result : QueryResult} {e : Fault} {u w : Session σ} {first : String}
    {sent : List String} (hpage : (s.send (.ok page)).runIn t = (.ok result, u))
    (hfirst : s.Carries page first) (hcount : (s.send (.ok count)).runIn u = (.error e, w))
    (hone : sent.length ≤ 1) (hsent : ∀ text ∈ sent, s.Carries count text) :
    Listed s page count t (.error e) w (first :: sent)
  | counted {result answer : QueryResult} {u w : Session σ} {first second : String}
    (hpage : (s.send (.ok page)).runIn t = (.ok result, u)) (hfirst : s.Carries page first)
    (hcount : (s.send (.ok count)).runIn u = (.ok answer, w)) (hsecond : s.Carries count second) :
    Listed s page count t ((totalOf answer.first?).map (listing result)) w [first, second]

/-- A statement that is answered was sent once, and else once at most. -/
theorem sent_send (s : Service σ) (st : Statement) (t : Session σ) :
    (∃ result u first, (s.send (.ok st)).runIn t = (.ok result, u) ∧
      u.sent = t.sent ++ [first] ∧ s.Carries st first) ∨
    ∃ e u sent, (s.send (.ok st)).runIn t = (.error e, u) ∧ u.sent = t.sent ++ sent ∧
      sent.length ≤ 1 ∧ ∀ text ∈ sent, s.Carries st text := by
  have hsend : s.send (.ok st) =
      s.adapter.query (st.text s.adapter.dialect) st.params := rfl
  rw [hsend]
  rcases hrun : (s.adapter.query (st.text s.adapter.dialect) st.params).runIn t with ⟨r, u⟩
  cases r with
  | ok result =>
    obtain ⟨first, hsent, hfirst⟩ := Adapter.sent_of_query_ok hrun
    exact .inl ⟨result, u, first, rfl, hsent, hfirst⟩
  | error e =>
    obtain ⟨sent, hsent, hone, htexts⟩ :=
      Adapter.sends_query (a := s.adapter) (st.text s.adapter.dialect) st.params t
    rw [hrun] at hsent
    exact .inr ⟨e, u, sent, rfl, hsent, hone, htexts⟩

/-- **The page is sent first, and the count once it is answered.** -/
theorem listed_of_select (hread : Query.read pairs = .ok filter)
    (hpage : s.compiler.select table filter (some s.schema) = .ok page)
    (hcount : s.compiler.count table filter (some s.schema) = .ok count) (t : Session σ) :
    ∃ r u sent, (s.listRows table pairs).runIn t = (r, u) ∧ u.sent = t.sent ++ sent ∧
      Listed s page count t r u sent := by
  have hrun : s.listRows table pairs = s.send (.ok page) >>= fun result =>
      s.send (.ok count) >>= fun answer =>
        Action.ofExcept (totalOf answer.first?) >>= fun total => pure (listing result total) := by
    rw [listRows, hread, Action.ofExcept_ok_bind, hpage, Action.ofExcept_ok_bind, hcount,
      Action.ofExcept_ok_bind]
    simp only [sendFirst, bind_assoc, pure_bind]
    rfl
  rw [hrun, Action.runIn_bind]
  rcases s.sent_send page t with ⟨result, u, first, hfirst, hsent, htext⟩ |
    ⟨e, u, sent, hfirst, hsent, hone, htexts⟩
  · rw [hfirst]
    dsimp only
    rw [Action.runIn_bind]
    rcases s.sent_send count u with ⟨answer, w, second, hsecond, hsent', htext'⟩ |
      ⟨e, w, sent, hsecond, hsent', hone, htexts⟩
    · rw [hsecond]
      refine ⟨_, w, [first, second], ?_, ?_, .counted hfirst htext hsecond htext'⟩
      · dsimp only
        rw [Action.runIn_bind, Action.runIn_ofExcept]
        cases totalOf answer.first? <;> rfl
      · rw [hsent', hsent, List.append_assoc]
        rfl
    · rw [hsecond]
      refine ⟨_, w, first :: sent, rfl, ?_, .uncounted hfirst htext hsecond hone htexts⟩
      rw [hsent', hsent, List.append_assoc]
      rfl
  · rw [hfirst]
    exact ⟨_, u, sent, rfl, hsent, .refused hfirst hone htexts⟩

/-- **What is sent for a page and its total.** Nothing, if the query string is not
read or the page is not compiled. Otherwise the page, and once it is answered the
count: of the rows of one source, with the same values for the same placeholders, so
the total is that of the rows which the page is cut out of. -/
theorem listRows_issues (s : Service σ) (table : String) (pairs : List (String × Value)) :
    (∃ e, (Query.read pairs = .error e ∨ ∃ filter, Query.read pairs = .ok filter ∧
        s.compiler.select table filter (some s.schema) = .error e) ∧
      s.listRows table pairs = throw e ∧
      ∀ t : Session σ, (s.listRows table pairs).runIn t = (.error e, t)) ∨
    ∃ filter source page count, Query.read pairs = .ok filter ∧
      s.compiler.source table (some s.schema) filter = .ok source ∧
      s.compiler.select table filter (some s.schema) = .ok page ∧
      s.compiler.count table filter (some s.schema) = .ok count ∧
      page.command s.adapter.dialect =
        ⟨"SELECT " ++ (columnList filter.select).text s.adapter.dialect ++ " FROM " ++
          source.text s.adapter.dialect ++
          (orderClause s.adapter.dialect filter.order).text s.adapter.dialect ++ " " ++
          s.adapter.dialect.paginate (s.compiler.effectiveLimit filter.limit)
            (filter.offset.getD 0),
        source.params⟩ ∧
      count.command s.adapter.dialect =
        ⟨"SELECT COUNT(*) AS total FROM " ++ source.text s.adapter.dialect, source.params⟩ ∧
      ∀ t : Session σ, ∃ r u sent, (s.listRows table pairs).runIn t = (r, u) ∧
        u.sent = t.sent ++ sent ∧ Listed s page count t r u sent := by
  cases hread : Query.read pairs with
  | error e =>
    have hrefused : s.listRows table pairs = throw e := by
      rw [listRows, hread, Action.ofExcept_error_bind]
    exact .inl ⟨e, .inl rfl, hrefused, fun t => by rw [hrefused, Action.runIn_throw]⟩
  | ok filter =>
    cases hpage : s.compiler.select table filter (some s.schema) with
    | error e =>
      have hrefused : s.listRows table pairs = throw e := by
        rw [listRows, hread, Action.ofExcept_ok_bind, hpage, Action.ofExcept_error_bind]
      exact .inl ⟨e, .inr ⟨filter, rfl, hpage⟩, hrefused, fun t => by
        rw [hrefused, Action.runIn_throw]⟩
    | ok page =>
      obtain ⟨source, count, hsource, hcount, hpageText, hcountText⟩ := count_of_select hpage
      exact .inr ⟨filter, source, page, count, rfl, hsource, hpage, hcount, hpageText, hcountText,
        listed_of_select hread hpage hcount⟩

end Service
end TableGate

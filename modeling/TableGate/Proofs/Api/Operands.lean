/-
# Operands that meet a text column

An operand of a request is read as a number where it can be, and a server that
declares a text for it gets it as a text again. What a number is then is its own
spelling, not that of the request (`Query.operandText?`): integers lose their
plus sign and the zeros in front of them, other numbers are rounded and written
anew. Any other text comes through as it is, and so does the plain spelling of an
integer.

This is the value that is fetched with, in every run, at every place of every
request where the operand goes: the key of a row, or the operand of a condition
(`Service.operand_bound`).

Key definitions: `Query.operandText?`, `Event.Binds`, `Adapter.Declares`,
`Service.RowRoute`.
Key theorems: `Query.coerce_operand`, `Sql.getElem?_of_coerceAll`,
`Service.binds_send`, `Service.RowRoute.binds_action`, `Service.operand_bound`.
-/
import TableGate.Api.Service
import TableGate.Backend.Scripted
import TableGate.Proofs.Backend.Log
import TableGate.Proofs.Query.Numeral
import TableGate.Proofs.Query.Request

namespace TableGate

/-! ### Operands as texts -/

namespace Query

open Number

/-- The text that an operand is where a text is declared: the spelling of the
number that it is read as, or else itself. There is none for an integer that has
too many digits. -/
def operandText? (s : String) : Option String :=
  if isNumberText s.toList then
    if isIntegerText s.toList then (readInt? s).map toString else (readDouble? s).map Double.text
  else some s

variable {s w type : String}

theorem contains_textTypes (h : type ∈ Sql.textTypes) :
    Sql.documentTypes.contains type = false ∧ Sql.textTypes.contains type = true := by
  revert type
  decide

theorem coerce_number (h : type ∈ Sql.textTypes) {v : Value} (hshort : v.isTooLong = false)
    (hv : (∃ n, v = .int n) ∨ ∃ x, v = .float x) : Sql.coerce type v = .ok (.text v.shown) := by
  obtain ⟨hdocument, htext⟩ := contains_textTypes h
  have hnot : ¬Sql.documentTypes.contains type = true := by
    rw [hdocument]
    exact Bool.false_ne_true
  unfold Sql.coerce
  rcases hv with ⟨n, rfl⟩ | ⟨x, rfl⟩
  · dsimp only
    rw [if_neg hnot, if_pos htext, hshort]
    rfl
  · dsimp only
    rw [if_neg hnot, if_pos htext, hshort]
    rfl

/-- Where a text is declared, texts stay as they are and other scalars are written
out. -/
theorem coerce_of_textTypes (h : type ∈ Sql.textTypes) :
    (∀ s, Sql.coerce type (.text s) = .ok (.text s)) ∧
      (∀ b, Sql.coerce type (.bool b) = .ok (.text (if b then "true" else "false"))) ∧
      (∀ n : Int, n.natAbs < 10 ^ maxDigits →
        Sql.coerce type (.int n) = .ok (.text (toString n))) ∧
      ∀ x, Sql.coerce type (.float x) = .ok (.text x.text) := by
  obtain ⟨hdocument, htext⟩ := contains_textTypes h
  refine ⟨fun s => ?_, fun b => ?_, fun n hn => ?_, fun x => ?_⟩
  · simp only [Sql.coerce, hdocument, htext, Bool.false_or, if_true]
  · simp only [Sql.coerce, hdocument, htext, Bool.false_or, if_true]
  · exact coerce_number h (isTooLong_eq_false_iff.mpr hn) (.inl ⟨n, rfl⟩)
  · exact coerce_number h rfl (.inr ⟨x, rfl⟩)

/-- **An operand is read, and made into its text where a text is declared.** -/
theorem coerce_operand (hs : s ≠ "null") (hw : operandText? s = some w) :
    ∃ v, readOperand s = .ok v ∧ ∀ type ∈ Sql.textTypes, Sql.coerce type v = .ok (.text w) := by
  have hplain : isNumberText s.toList = false → s = w := fun h => by
    rw [operandText?, h] at hw
    exact Option.some.inj hw
  rw [readOperand, if_neg hs]
  by_cases htrue : s = "true"
  · rw [if_pos htrue, ← hplain (by rw [htrue]; decide), htrue]
    exact ⟨.bool true, rfl, fun type htype => (coerce_of_textTypes htype).2.1 true⟩
  by_cases hfalse : s = "false"
  · rw [if_neg htrue, if_pos hfalse, ← hplain (by rw [hfalse]; decide), hfalse]
    exact ⟨.bool false, rfl, fun type htype => (coerce_of_textTypes htype).2.1 false⟩
  rw [if_neg htrue, if_neg hfalse]
  cases hnumber : isNumberText s.toList with
  | false =>
    rw [← hplain hnumber]
    exact ⟨.text s, rfl, fun type htype => (coerce_of_textTypes htype).1 s⟩
  | true =>
    rw [operandText?, if_pos hnumber] at hw
    cases hinteger : isIntegerText s.toList with
    | true =>
      rw [if_pos hinteger] at hw
      obtain ⟨n, hn, rfl⟩ := Option.map_eq_some_iff.mp hw
      rw [hn]
      exact ⟨.int n, rfl, fun type htype =>
        (coerce_of_textTypes htype).2.2.1 n (readInt?_natAbs_lt hn)⟩
    | false =>
      rw [hinteger] at hw
      obtain ⟨x, hx, rfl⟩ := Option.map_eq_some_iff.mp hw
      rw [hx]
      exact ⟨.float x, rfl, fun type htype => (coerce_of_textTypes htype).2.2.2 x⟩

theorem operandText?_eq_none_iff : operandText? s = none ↔
    isIntegerText s.toList = true ∧ maxDigits < (dropSign (dropLineFeed s.toList)).length := by
  unfold operandText?
  cases hinteger : isIntegerText s.toList with
  | true =>
    rw [if_pos (isNumberText_of_isIntegerText hinteger), if_pos rfl, Option.map_eq_none_iff,
      readInt?_eq_none_iff hinteger]
    simp
  | false =>
    cases hnumber : isNumberText s.toList with
    | true =>
      obtain ⟨x, hx⟩ := readDouble?_of_isNumberText hnumber
      simp [hx]
    | false => simp

/-- The plain spelling of an integer is its own text. -/
theorem operandText?_toString {n : Int} (h : n.natAbs < 10 ^ maxDigits) :
    operandText? (toString n) = some (toString n) := by
  obtain ⟨hinteger, hread⟩ := readInt?_toString h
  rw [operandText?, if_pos (isNumberText_of_isIntegerText hinteger), if_pos hinteger, hread]
  rfl

theorem readCondition_eq {v : Value} (h : readOperand s = .ok v) (column : String) :
    readCondition column (.text ("eq." ++ s)) = .ok ⟨column, "eq", v⟩ := by
  have hcut : Text.cutFirst? '.' ("eq" ++ "." ++ s) = some ("eq", s) :=
    Text.cutFirst?_append rfl (by decide) s
  have hword : isOperatorText "eq" = true := by decide
  have hoperator : Operator.ofWord? "eq" = some .eq := by decide
  change readConditionText column ("eq" ++ "." ++ s) = _
  rw [readConditionText, hcut]
  simp only [hword, hoperator, h]
  rfl

end Query

/-! ### Parameters as they are declared -/

namespace Sql

/-- Each value takes the form of the type that is declared at its place. -/
theorem getElem?_of_coerceFrom {types : List (Option String)} : ∀ {k : Nat} {vs ws : List Value},
    coerceFrom k types vs = .ok ws → ∀ {i : Nat} {type : String} {v : Value},
      types[i]? = some (some type) → vs[i]? = some v →
        ∃ w, coerce type v = .ok w ∧ ws[i]? = some w := by
  induction types with
  | nil => intro k vs ws h i type v htype; simp at htype
  | cons declared types ih =>
    intro k vs ws h i type v htype hv
    cases vs with
    | nil => simp at hv
    | cons first vs =>
      rw [coerceFrom] at h
      split at h
      · next w hw =>
        obtain ⟨rest, hrest, h⟩ := Results.bind_eq_ok_iff.mp h
        obtain rfl := Results.pure_eq_ok_iff.mp h
        cases i with
        | zero =>
          obtain rfl : declared = some type := by simpa using htype
          obtain rfl : first = v := by simpa using hv
          exact ⟨w, hw, rfl⟩
        | succ i => exact ih hrest (by simpa using htype) (by simpa using hv)
      · cases h

theorem getElem?_of_coerceAll {types : List (Option String)} {vs ws : List Value}
    (h : coerceAll types vs = .ok ws) {i : Nat} {type : String} {v : Value}
    (htype : types[i]? = some (some type)) (hv : vs[i]? = some v) :
    ∃ w, coerce type v = .ok w ∧ ws[i]? = some w := getElem?_of_coerceFrom h htype hv

end Sql

/-! ### What is fetched with -/

/-- Where a prepared statement runs, this is its parameter at a place. -/
def Event.Binds (i : Nat) (v : Value) : Event → Prop
  | .fetch _ bound => bound[i]? = some v
  | _ => True

/-- The server declares the type for the parameter of a statement at a place. -/
def Adapter.Declares {σ : Type} (a : Adapter σ) (sql : String) (i : Nat) (type : String) : Prop :=
  ∀ b prepared b', a.driver.prepare sql b = (.ok prepared, b') →
    prepared.parameterTypes[i]? = some (some type)

namespace Adapter

open TableGate.Action

variable {σ : Type} {a : Adapter σ}

theorem binds_query (hdialect : a.dialect = .postgres) {sql type : String} {params : List Value}
    {i : Nat} {v w : Value} (hdeclared : a.Declares sql i type) (hv : params[i]? = some v)
    (hw : Sql.coerce type v = .ok w) :
    (a.query sql params).Leads (Session.Adds (Event.Binds i w)) := by
  refine leads_withConnection (adds_acquire fun _ => trivial) (fun _ => adds_record trivial)
    fun c => ?_
  rw [runOn, hdialect]
  refine leads_runPrepared (Session.adds_spans _) (adds_ask _ trivial)
    fun b prepared b' bound hprepare hbound => adds_ask _ ?_
  obtain ⟨w', hw', hbinds⟩ := Sql.getElem?_of_coerceAll hbound (hdeclared b prepared b' hprepare) hv
  rw [hw] at hw'
  rw [Except.ok.inj hw']
  exact hbinds

end Adapter

namespace Service

open Compiler Query

variable {σ : Type}

/-- **Whatever a request asks, its value at a place is fetched with in the form
that is declared there.** -/
theorem binds_send {s : Service σ} (hdialect : s.adapter.dialect = .postgres) {table type : String}
    {r : Compiler.Request} {st : Statement}
    (hst : r.statement s.compiler table (some s.schema) = .ok st)
    {i : Nat} {v w : Value} (hv : r.values[i]? = some v)
    (hdeclared : s.adapter.Declares (st.text s.adapter.dialect) i type)
    (hw : Sql.coerce type v = .ok w) :
    (s.send (.ok st)).Leads (Session.Adds (Event.Binds i w)) := by
  have hparams : st.params = r.values := (Compiler.Request.statement_spec hst).2
  exact Adapter.binds_query hdialect hdeclared (by rw [← hv, ← hparams]; rfl) hw

/-! ### The routes of a row -/

/-- The routes of one row, which name it by its key. -/
inductive RowRoute where
  | get
  /-- The columns to set; there has to be one. -/
  | replace (first : String × Value) (rest : Row)
  | delete

namespace RowRoute

/-- What the route does. -/
def action (s : Service σ) (table key : String) : RowRoute → Action σ Value
  | .get => s.getRow table key
  | .replace first rest => s.replace table key (.mapping (first :: rest))
  | .delete => s.deleteRow table key

/-- What the route asks for, once the key column is known. -/
def request (column : String) (key : Value) : RowRoute → Compiler.Request
  | .get => .selectByKey column key
  | .replace first rest => .updateByKey (first :: rest) column key
  | .delete => .deleteByKey column key

/-- The place of the key among the parameters. -/
def place : RowRoute → Nat
  | .get | .delete => 0
  | .replace _ rest => rest.length + 1

theorem values_place (route : RowRoute) (column : String) (key : Value) :
    (route.request column key).values[route.place]? = some key := by
  cases route with
  | get => rfl
  | replace first rest => simp [request, place, Compiler.Request.values]
  | delete => rfl

/-- Once the key column is known, the route sends its request. -/
theorem runIn_action {s : Service σ} {table key column : String} {v : Value} {t t₁ : Session σ}
    (route : RowRoute) (hkey : (s.primaryKey table).runIn t = (.ok column, t₁))
    (hread : readOperand key = .ok v) :
    (route.action s table key).runIn t =
      (s.sendFirst ((route.request column v).statement s.compiler table (some s.schema)) >>=
        foundRow table column key).runIn t₁ := by
  cases route with
  | get => rw [action, Service.getRow, Action.runIn_bind, hkey, hread]; rfl
  | replace first rest =>
    rw [action, Service.replace, objectOf, Action.ofExcept_ok_bind, Action.runIn_bind, hkey, hread]
    rfl
  | delete => rw [action, Service.deleteRow, Action.runIn_bind, hkey, hread]; rfl

/-- **A route of one row fetches with the key in the form that is declared for
it**, whatever becomes of it. -/
theorem binds_action {s : Service σ} (hdialect : s.adapter.dialect = .postgres)
    {table key column type : String} {v w : Value} {t t₁ : Session σ} {st : Statement}
    (route : RowRoute) (hkey : (s.primaryKey table).runIn t = (.ok column, t₁))
    (hread : readOperand key = .ok v)
    (hst : (route.request column v).statement s.compiler table (some s.schema) = .ok st)
    (hdeclared : s.adapter.Declares (st.text s.adapter.dialect) route.place type)
    (hw : Sql.coerce type v = .ok w) :
    Session.Adds (Event.Binds route.place w) t₁ ((route.action s table key).runIn t).2 := by
  have hfirst : (s.sendFirst (.ok st)).Leads (Session.Adds (Event.Binds route.place w)) :=
    (binds_send hdialect hst (route.values_place column v) hdeclared hw).bind fun _ =>
      Action.Leads.pure _
  rw [runIn_action route hkey hread, hst]
  refine hfirst.bind (fun row => ?_) t₁
  cases row with
  | none => exact Action.Leads.throw _
  | some row => exact Action.Leads.pure _

end RowRoute

/-- **An operand that meets a text column is bound as its text.** For every
operand but null: where the server declares a text for it, it is bound as the
spelling of the number that it is read as, or else as it is. This holds for the
key of a row on each of its routes, and for the operand of a condition in whatever
request; the plain spelling of an integer is bound as it is. Only integers that
have too many digits are left out. What is read as a number is so by the readers of
operands: they pass over one line feed at the end, and then the operand is bound
without it. -/
theorem operand_bound (s : Service σ) (hdialect : s.adapter.dialect = .postgres) {text : String}
    (htext : text ≠ "null") :
    (∀ w, operandText? text = some w →
      ∃ v, readOperand text = .ok v ∧
        (∀ column, readCondition column (.text ("eq." ++ text)) = .ok ⟨column, "eq", v⟩) ∧
        ∀ type ∈ Sql.textTypes, (readOperand text >>= Sql.coerce type) = .ok (.text w) ∧
          (∀ (route : RowRoute) table column t t₁ st,
            (s.primaryKey table).runIn t = (.ok column, t₁) →
            (route.request column v).statement s.compiler table (some s.schema) = .ok st →
            s.adapter.Declares (st.text s.adapter.dialect) route.place type →
              Session.Adds (Event.Binds route.place (.text w)) t₁
                ((route.action s table text).runIn t).2) ∧
          ∀ table (r : Compiler.Request) st i,
            r.statement s.compiler table (some s.schema) = .ok st →
            r.values[i]? = some v → s.adapter.Declares (st.text s.adapter.dialect) i type →
              (s.send (.ok st)).Leads (Session.Adds (Event.Binds i (.text w)))) ∧
    (isNumberText text.toList = false → operandText? text = some text) ∧
    (∀ n : Int, n.natAbs < 10 ^ Number.maxDigits → text = toString n →
      operandText? text = some text) ∧
    (operandText? text = none ↔ isIntegerText text.toList = true ∧
      Number.maxDigits < (dropSign (dropLineFeed text.toList)).length) := by
  refine ⟨fun w hw => ?_, fun hplain => ?_, fun n hn heq => ?_, operandText?_eq_none_iff⟩
  · obtain ⟨v, hread, hcoerce⟩ := coerce_operand htext hw
    refine ⟨v, hread, readCondition_eq hread, fun type htype => ⟨?_, ?_, ?_⟩⟩
    · rw [hread]
      exact hcoerce type htype
    · intro route table column t t₁ st hkey hst hdeclared
      exact route.binds_action hdialect hkey hread hst hdeclared (hcoerce type htype)
    · intro table r st i hst hv hdeclared
      exact binds_send hdialect hst hv hdeclared (hcoerce type htype)
  · rw [operandText?, hplain]
    rfl
  · rw [heq]
    exact operandText?_toString hn

/-- A row with the key 007 is asked for, and the one with the key 7 removed. -/
theorem operand_bound_zeros :
    let driver : Driver Script :=
      { Script.driver with prepare := fun _ b => (.ok { parameterTypes := [some "text"] }, b) }
    let s : Service Script := ⟨⟨.postgres, driver, .ok false⟩, "public", 1000, by decide, ""⟩
    let st := s.compiler.deleteByKey "users" "code" (.int 7) (some "public")
    (readOperand "007" >>= Sql.coerce "text") = .ok (.text "7") ∧
      (s.send (.ok st)).Leads (Session.Adds (Event.Binds 0 (.text "7"))) := by
  intro driver s st
  obtain ⟨v, hread, -, htypes⟩ :=
    (@operand_bound _ s rfl "007" (by decide)).1 "7" rfl
  obtain rfl : Value.int 7 = v := Except.ok.inj hread
  obtain ⟨hbound, -, hsend⟩ := htypes "text" (by decide)
  refine ⟨hbound, hsend "users" (.deleteByKey "code" (.int 7)) st 0 rfl rfl ?_⟩
  intro b prepared b' hprepare
  obtain ⟨hprepared, -⟩ := Prod.mk.inj hprepare
  rw [← Except.ok.inj hprepared]
  rfl

/-- Not every operand is bound as it is. -/
theorem not_operand_bound_unchanged :
    ¬∀ text, text ≠ "null" → ∀ type ∈ Sql.textTypes,
      (readOperand text >>= Sql.coerce type) = .ok (.text text) := by
  intro h
  have hzeros := h "007" (by decide) "text" (by decide)
  obtain ⟨v, hread, hseven⟩ := @coerce_operand "007" "7" (by decide) rfl
  rw [hread] at hzeros
  have hsame : Value.text "7" = .text "007" :=
    Except.ok.inj ((hseven "text" (by decide)).symm.trans hzeros)
  exact absurd (Value.text.inj hsame) (by decide)

end Service
end TableGate

/-
# Rejected requests

An operation of the interface calls the backend a number of times: it sends
statements on its table, and asks the catalog for the primary key. What it does is
told by these calls (`Service.Proceeds`): either one of them fails, and so does the
operation, or all of them succeed, and something holds of them and of the outcome.

Every operation but one is rejected before it calls the backend at all, if it is
rejected. The exception is the insertion of a list of rows: that its items are rows
is known before the first is inserted, but that a row has no columns is not. So the
rows before the first empty one stay inserted, and no others are
(`Operation.action_rejected`).

Key definitions: `Service.Call`, `Service.Served`, `Service.Proceeds`,
`Service.Operation`, `Operation.leadingRows`.
Key theorems: `Service.Proceeds.bind`, `Service.proceeds_insertRows`,
`Operation.rejectsFirst`, `Operation.action_rejected`.
-/
import TableGate.Api.Service
import TableGate.Backend.Scripted
import TableGate.Proofs.Except

namespace TableGate

/-- The fault is that of a request which asks wrongly. -/
def Fault.isRejection : Fault → Bool
  | .api (.validation _) | .api (.unsupportedOperator ..) => true
  | _ => false

namespace Service

variable {σ α β : Type} {s : Service σ} {table : String}

/-! ### Calls of the backend -/

/-- A call that an operation on a table makes. -/
inductive Call where
  /-- A statement on the table is sent. -/
  | statement (st : Statement)
  /-- The catalog is asked for the primary key. -/
  | keys

/-- What is done for a call. -/
def Call.action (s : Service σ) (table : String) : Call → Action σ Unit
  | .statement st => do
    let _ ← s.send (.ok st)
    pure ()
  | .keys => do
    let _ ← s.adapter.primaryKeys table (some s.schema)
    pure ()

/-- The calls are made one after another, and all succeed. -/
inductive Served (s : Service σ) (table : String) : List Call → Session σ → Session σ → Prop where
  | nil (t : Session σ) : Served s table [] t t
  | cons {call : Call} {calls : List Call} {t u w : Session σ}
    (first : (call.action s table).runIn t = (.ok (), u)) (rest : Served s table calls u w) :
    Served s table (call :: calls) t w

/-- Whatever the session, the action does nothing but to call the backend. If all
calls succeed, `P` holds of them and of the outcome; else the first that fails is
the last, and the action fails with it. -/
def Proceeds (s : Service σ) (table : String) (act : Action σ α)
    (P : List Call → Except Fault α → Prop) : Prop :=
  ∀ t, (∃ calls r u, Served s table calls t u ∧ act.runIn t = (r, u) ∧ P calls r) ∨
    ∃ calls, ∃ call : Call, ∃ u e w, Served s table calls t u ∧
      (call.action s table).runIn u = (.error e, w) ∧ act.runIn t = (.error e, w)

theorem Served.append {front back : List Call} {t u w : Session σ} (h : Served s table front t u)
    (hback : Served s table back u w) : Served s table (front ++ back) t w := by
  induction h with
  | nil t => exact hback
  | cons first _ ih => exact .cons first (ih hback)

/-! ### What is done by calls -/

namespace Proceeds

variable {act : Action σ α} {next : α → Action σ β} {P P' : List Call → Except Fault α → Prop}
  {Q : α → List Call → Except Fault β → Prop}

theorem mono (h : Proceeds s table act P) (hP : ∀ calls r, P calls r → P' calls r) :
    Proceeds s table act P' := by
  intro t
  rcases h t with ⟨calls, r, u, hserved, hrun, hr⟩ | hfails
  · exact .inl ⟨calls, r, u, hserved, hrun, hP calls r hr⟩
  · exact .inr hfails

theorem ofExcept (r : Except Fault α) :
    Proceeds s table (Action.ofExcept r) fun calls r' => calls = [] ∧ r' = r :=
  fun t => .inl ⟨[], r, t, .nil t, rfl, rfl, rfl⟩

/-- **The calls of two actions are made one after another.** -/
theorem bind (h : Proceeds s table act P) (hnext : ∀ a, Proceeds s table (next a) (Q a)) :
    Proceeds s table (act >>= next) fun calls r =>
      (∃ e, r = .error e ∧ P calls (.error e)) ∨
        ∃ a front back, calls = front ++ back ∧ P front (.ok a) ∧ Q a back r := by
  intro t
  rcases h t with ⟨front, r, u, hfront, hrun, hP⟩ | ⟨calls, call, u, e, w, hserved, hcall, hrun⟩
  · cases r with
    | error e =>
      refine .inl ⟨front, .error e, u, hfront, ?_, .inl ⟨e, rfl, hP⟩⟩
      rw [Action.runIn_bind, hrun]
    | ok a =>
      have hboth : (act >>= next).runIn t = (next a).runIn u := by
        rw [Action.runIn_bind, hrun]
      rcases hnext a u with ⟨back, r, w, hback, hrest, hQ⟩ | ⟨back, call, v, e, w, hback, hcall, hrest⟩
      · exact .inl ⟨front ++ back, r, w, hfront.append hback, hboth.trans hrest,
          .inr ⟨a, front, back, rfl, hP, hQ⟩⟩
      · exact .inr ⟨front ++ back, call, v, e, w, hfront.append hback, hcall, hboth.trans hrest⟩
  · refine .inr ⟨calls, call, u, e, w, hserved, hcall, ?_⟩
    rw [Action.runIn_bind, hrun]

/-- An outcome that is put in another form. -/
theorem map (h : Proceeds s table act P) (f : α → β) :
    Proceeds s table (act >>= fun a => pure (f a)) fun calls r =>
      ∃ r', P calls r' ∧ r = r'.map f := by
  refine (h.bind fun a => ofExcept (.ok (f a))).mono ?_
  rintro calls r (⟨e, rfl, hP⟩ | ⟨a, front, back, rfl, hP, rfl, rfl⟩)
  · exact ⟨.error e, hP, rfl⟩
  · exact ⟨.ok a, by rwa [List.append_nil], rfl⟩

theorem ofCall {call : Call}
    (h : call.action s table = act >>= fun _ => (pure () : Action σ Unit)) :
    Proceeds s table act fun calls r => calls = [call] ∧ ∃ a, r = .ok a := by
  intro t
  have hcall : (call.action s table).runIn t = (act >>= fun _ => pure ()).runIn t := by rw [h]
  rw [Action.runIn_bind] at hcall
  rcases hrun : act.runIn t with ⟨r, u⟩
  rw [hrun] at hcall
  cases r with
  | ok a => exact .inl ⟨[call], .ok a, u, .cons hcall (.nil u), rfl, rfl, a, rfl⟩
  | error e => exact .inr ⟨[], call, t, e, u, .nil t, hcall, rfl⟩

theorem send (st : Statement) :
    Proceeds s table (s.send (.ok st)) fun calls r => calls = [.statement st] ∧ ∃ a, r = .ok a :=
  .ofCall rfl

theorem keys : Proceeds s table (s.adapter.primaryKeys table (some s.schema))
    fun calls r => calls = [.keys] ∧ ∃ a, r = .ok a :=
  .ofCall rfl

end Proceeds

/-! ### When requests are rejected -/

/-- The outcome is that the request asks wrongly. -/
def IsRejected (r : Except Fault α) : Prop := ∃ e, r = .error e ∧ e.isRejection = true

theorem not_isRejected_ok (a : α) : ¬IsRejected (.ok a : Except Fault α) := by
  rintro ⟨e, he, -⟩
  cases he

theorem not_isRejected_error {e : Fault} (h : e.isRejection = false) :
    ¬IsRejected (.error e : Except Fault α) := by
  rintro ⟨e', he, hrejection⟩
  rw [← Except.error.inj he, h] at hrejection
  cases hrejection

/-- Whatever the backend answers, the action does not reject the request. -/
def Accepts (s : Service σ) (table : String) (act : Action σ α) : Prop :=
  Proceeds s table act fun _ r => ¬IsRejected r

/-- If the action rejects the request, it does so before any call. -/
def RejectsFirst (s : Service σ) (table : String) (act : Action σ α) : Prop :=
  Proceeds s table act fun calls r => IsRejected r → calls = []

section Parts

variable {act : Action σ α} {next : α → Action σ β} {r : Except Fault α}

theorem Accepts.ofExcept (h : ¬IsRejected r) : Accepts s table (Action.ofExcept r) := by
  refine (Proceeds.ofExcept r).mono ?_
  rintro calls r' ⟨-, rfl⟩
  exact h

theorem Accepts.pure (a : α) : Accepts s table (Pure.pure a : Action σ α) :=
  Accepts.ofExcept (not_isRejected_ok a)

theorem Accepts.throw {e : Fault} (h : e.isRejection = false) :
    Accepts s table (MonadExcept.throw e : Action σ α) :=
  Accepts.ofExcept (not_isRejected_error h)

theorem Accepts.bind (h : Accepts s table act) (hnext : ∀ a, Accepts s table (next a)) :
    Accepts s table (act >>= next) := by
  refine (Proceeds.bind h hnext).mono ?_
  rintro calls r (⟨e, rfl, he⟩ | ⟨a, front, back, -, -, hr⟩)
  · rintro ⟨e', he', hrejection⟩
    exact he ⟨e', congrArg Except.error (Except.error.inj he'), hrejection⟩
  · exact hr

theorem Accepts.send (st : Statement) : Accepts s table (s.send (.ok st)) := by
  refine (Proceeds.send st).mono ?_
  rintro calls r ⟨-, a, rfl⟩
  exact not_isRejected_ok a

theorem Accepts.rejectsFirst (h : Accepts s table act) : RejectsFirst s table act :=
  Proceeds.mono h fun _ _ haccepted hrejected => absurd hrejected haccepted

theorem RejectsFirst.throw (e : Fault) :
    RejectsFirst s table (MonadExcept.throw e : Action σ α) :=
  (Proceeds.ofExcept (.error e)).mono fun _ _ hcalls _ => hcalls.1

/-- What is known before the first call may reject the request. -/
theorem RejectsFirst.ofExcept_bind (h : ∀ a, r = .ok a → RejectsFirst s table (next a)) :
    RejectsFirst s table (Action.ofExcept r >>= next) := by
  cases r with
  | ok a => exact h a rfl
  | error e => exact RejectsFirst.throw e

theorem RejectsFirst.bind (h : RejectsFirst s table act) (hnext : ∀ a, Accepts s table (next a)) :
    RejectsFirst s table (act >>= next) := by
  refine (Proceeds.bind h hnext).mono ?_
  rintro calls r (⟨e, rfl, he⟩ | ⟨a, front, back, -, -, hr⟩) hrejected
  · obtain ⟨e', he', hrejection⟩ := hrejected
    exact he ⟨e', congrArg Except.error (Except.error.inj he'), hrejection⟩
  · exact absurd hrejected hr

theorem RejectsFirst.send (statement : Except Fault Statement) :
    RejectsFirst s table (s.send statement) := by
  cases statement with
  | ok st => exact (Accepts.send st).rejectsFirst
  | error e => exact RejectsFirst.ofExcept_bind fun a ha => by cases ha

end Parts

/-! ### Parts of operations -/

theorem not_isRejected_readOperand (key : String) : ¬IsRejected (Query.readOperand key) := by
  unfold Query.readOperand
  repeat' split
  all_goals first | exact not_isRejected_ok _ | exact not_isRejected_error rfl

theorem not_isRejected_toInt (v : Value) : ¬IsRejected v.toInt := by
  unfold Value.toInt
  repeat' split
  all_goals first | exact not_isRejected_ok _ | refine not_isRejected_error ?_
  all_goals rfl

theorem not_isRejected_totalOf (row : Option Row) : ¬IsRejected (totalOf row) := by
  unfold totalOf
  split
  · exact not_isRejected_ok 0
  · exact not_isRejected_ok 0
  · split
    · exact not_isRejected_toInt _
    · exact not_isRejected_error rfl

theorem Accepts.sendFirst (st : Statement) : Accepts s table (s.sendFirst (.ok st)) :=
  (Accepts.send st).bind fun _ => .pure _

theorem accepts_primaryKey : Accepts s table (s.primaryKey table) := by
  have hkeys : Accepts s table (s.adapter.primaryKeys table (some s.schema)) := by
    refine Proceeds.keys.mono ?_
    rintro calls r ⟨-, a, rfl⟩
    exact not_isRejected_ok a
  refine hkeys.bind fun keys => ?_
  split
  · exact .throw rfl
  · exact .pure _
  · exact .throw rfl

theorem accepts_foundRow (column key : String) (row : Option Row) :
    Accepts s table (foundRow table column key row : Action σ Value) := by
  cases row with
  | some row => exact .pure _
  | none => exact .throw rfl

/-- An operation on one row, once its statement is known to be compiled. -/
theorem accepts_row {key : String} {compile : String → Value → Except Fault Statement}
    (h : ∀ column operand, ∃ st, compile column operand = .ok st) :
    Accepts s table (do
      let column ← s.primaryKey table
      let operand ← Action.ofExcept (Query.readOperand key)
      let row ← s.sendFirst (compile column operand)
      foundRow table column key row) := by
  refine accepts_primaryKey.bind fun column => ?_
  refine (Accepts.ofExcept (not_isRejected_readOperand key)).bind fun operand => ?_
  obtain ⟨st, hst⟩ := h column operand
  rw [hst]
  exact (Accepts.sendFirst st).bind fun row => accepts_foundRow column key row

/-! ### Lists of rows -/

/-- The call inserts the row. -/
def Inserts (s : Service σ) (table : String) (row : Row) (call : Call) : Prop :=
  ∃ st, s.compiler.insert table row (some s.schema) = .ok st ∧ call = .statement st

theorem proceeds_insertRow (s : Service σ) (table : String) (row : Row) :
    Proceeds s table (s.insertRow table row) fun calls r =>
      if row.isEmpty then calls = [] ∧ r = .error (.api (.validation (.emptyRow table)))
      else ∃ call, calls = [call] ∧ Inserts s table row call ∧ ∃ v, r = .ok v := by
  cases row with
  | nil => exact Proceeds.ofExcept (.error _)
  | cons e row =>
    obtain ⟨st, hst⟩ : ∃ st, s.compiler.insert table (e :: row) (some s.schema) = .ok st := ⟨_, rfl⟩
    rw [insertRow, sendFirst, hst]
    refine (((Proceeds.send st).map QueryResult.first?).map rowValue).mono ?_
    rintro calls r ⟨r₁, ⟨r₂, ⟨rfl, result, rfl⟩, rfl⟩, rfl⟩
    exact ⟨.statement st, rfl, ⟨st, hst, rfl⟩, _, rfl⟩

/-- **Rows are inserted up to the first empty one**, which is rejected. -/
theorem proceeds_insertRows (s : Service σ) (table : String) : ∀ rows : List Row,
    Proceeds s table (s.insertRows table rows) fun calls r =>
      List.Forall₂ (Inserts s table) (rows.takeWhile fun row => !row.isEmpty) calls ∧
        if rows.any List.isEmpty then r = .error (.api (.validation (.emptyRow table)))
        else ∃ vs, r = .ok vs
  | [] => by
    refine (Proceeds.ofExcept (.ok [])).mono ?_
    rintro calls r ⟨rfl, rfl⟩
    exact ⟨.nil, [], rfl⟩
  | row :: rows => by
    refine ((proceeds_insertRow s table row).bind fun inserted =>
      (proceeds_insertRows s table rows).map fun rest => inserted :: rest).mono ?_
    cases row with
    | nil =>
      rintro calls r (⟨e, rfl, rfl, he⟩ | ⟨inserted, front, back, -, ⟨-, he⟩, -⟩)
      · exact ⟨.nil, congrArg Except.error (Except.error.inj he)⟩
      · cases he
    | cons e row =>
      rintro calls r (⟨e', -, call, -, -, v, hv⟩ |
        ⟨inserted, front, back, rfl, ⟨call, rfl, hcall, -⟩, r', ⟨hcalls, hr⟩, rfl⟩)
      · cases hv
      · refine ⟨?_, ?_⟩
        · simpa using List.Forall₂.cons hcall hcalls
        · have hempty : ((e :: row) :: rows).any List.isEmpty = rows.any List.isEmpty := by simp
          rw [hempty]
          cases hany : rows.any List.isEmpty with
          | true =>
            rw [hany] at hr
            rw [if_pos rfl] at hr ⊢
            rw [hr]
            rfl
          | false =>
            rw [hany] at hr
            obtain ⟨vs, rfl⟩ := hr
            exact ⟨_, rfl⟩

theorem insert_list (s : Service σ) (table : String) (items : List Value) :
    s.insert table (.list items) = Action.ofExcept (rowsOf items) >>= fun rows =>
      s.insertRows table rows >>= fun inserted =>
        pure (Value.mapping [("data", .list inserted), ("count", .int inserted.length)]) := rfl

/-! ### Operations -/

inductive Operation where
  | listRows (params : List (String × Value))
  | getRow (key : String)
  | insert (body : Value)
  | update (params : List (String × Value)) (body : Value)
  | replace (key : String) (body : Value)
  | delete (params : List (String × Value))
  | deleteRow (key : String)

namespace Operation

def action (op : Operation) (s : Service σ) (table : String) : Action σ Value :=
  match op with
  | .listRows params => s.listRows table params
  | .getRow key => s.getRow table key
  | .insert body => s.insert table body
  | .update params body => s.update table params body
  | .replace key body => s.replace table key body
  | .delete params => s.delete table params
  | .deleteRow key => s.deleteRow table key

/-- The rows of a list to insert that stand before an empty one, if there is one. -/
def leadingRows : Operation → List Row
  | .insert (.list items) =>
    match rowsOf items with
    | .ok rows => if rows.any List.isEmpty then rows.takeWhile fun row => !row.isEmpty else []
    | .error _ => []
  | _ => []

/-- **An operation is rejected before it calls the backend**, if it inserts no list
of rows. -/
theorem rejectsFirst (op : Operation) (s : Service σ) (table : String)
    (h : ∀ items, op ≠ .insert (.list items)) : RejectsFirst s table (op.action s table) := by
  cases op with
  | listRows params =>
    refine RejectsFirst.ofExcept_bind fun filter _ => RejectsFirst.ofExcept_bind fun page _ =>
      RejectsFirst.ofExcept_bind fun count _ => Accepts.rejectsFirst ?_
    refine (Accepts.send page).bind fun result => (Accepts.sendFirst count).bind fun row => ?_
    exact (Accepts.ofExcept (not_isRejected_totalOf row)).bind fun total => .pure _
  | getRow key => exact (accepts_row fun column operand => ⟨_, rfl⟩).rejectsFirst
  | insert body =>
    have hrow : ∀ row, RejectsFirst s table (s.insertRow table row) := fun row =>
      ((RejectsFirst.send _).bind fun result => .pure _).bind fun first => .pure _
    change RejectsFirst s table (s.insert table body)
    unfold Service.insert
    split
    · exact (hrow _).bind fun inserted => .pure _
    · next items => exact absurd rfl (h items)
    · exact RejectsFirst.throw _
  | update params body =>
    refine RejectsFirst.ofExcept_bind fun values _ => RejectsFirst.ofExcept_bind fun filter _ => ?_
    exact (RejectsFirst.send _).bind fun result => .pure _
  | replace key body =>
    refine RejectsFirst.ofExcept_bind fun values hvalues => Accepts.rejectsFirst ?_
    refine accepts_row fun column operand => ?_
    obtain ⟨e, es, rfl⟩ : ∃ e es, values = e :: es := by
      unfold objectOf at hvalues
      split at hvalues
      · exact ⟨_, _, (Except.ok.inj hvalues).symm⟩
      · cases hvalues
    exact ⟨_, rfl⟩
  | delete params =>
    refine RejectsFirst.ofExcept_bind fun filter _ => ?_
    exact (RejectsFirst.send _).bind fun result => .pure _
  | deleteRow key => exact (accepts_row fun column operand => ⟨_, rfl⟩).rejectsFirst

/-- **What a rejected operation has sent** is nothing, unless it inserts a list of
rows that holds an empty one: then it is rejected, and the rows before that one have
been inserted, each by one statement. This is so whenever all calls of the backend
succeed. -/
theorem action_rejected (op : Operation) (s : Service σ) (table : String) :
    Proceeds s table (op.action s table) fun calls r =>
      (IsRejected r → List.Forall₂ (Inserts s table) op.leadingRows calls) ∧
        (op.leadingRows ≠ [] → r = .error (.api (.validation (.emptyRow table)))) := by
  by_cases hlist : ∃ items, op = .insert (.list items)
  · obtain ⟨items, rfl⟩ := hlist
    change Proceeds s table (s.insert table (.list items)) _
    rw [insert_list]
    cases hrows : rowsOf items with
    | error e =>
      refine (Proceeds.ofExcept (.error e)).mono ?_
      rintro calls r ⟨rfl, -⟩
      simp only [leadingRows, hrows]
      exact ⟨fun _ => .nil, fun hne => absurd rfl hne⟩
    | ok rows =>
      refine ((proceeds_insertRows s table rows).map _).mono ?_
      rintro calls r ⟨r', ⟨hcalls, hr⟩, rfl⟩
      simp only [leadingRows, hrows]
      cases hany : rows.any List.isEmpty with
      | true =>
        rw [hany, if_pos rfl] at hr
        rw [if_pos rfl, hr]
        exact ⟨fun _ => hcalls, fun _ => rfl⟩
      | false =>
        rw [hany] at hr
        obtain ⟨vs, rfl⟩ := hr
        exact ⟨fun hrejected => absurd hrejected (not_isRejected_ok _), fun hne => absurd rfl hne⟩
  · have hnone : op.leadingRows = [] := by
      unfold leadingRows
      split
      · exact absurd ⟨_, rfl⟩ hlist
      · rfl
    rw [hnone]
    refine (op.rejectsFirst s table fun items hop => hlist ⟨items, hop⟩).mono fun calls r hcalls => ?_
    refine ⟨fun hrejected => ?_, fun hne => absurd rfl hne⟩
    rw [hcalls hrejected]
    exact .nil

/-- A service of a backend that answers every statement. -/
def scripted : Service Script :=
  ⟨⟨.postgres, Script.driver, .ok false⟩, "public", 1000, by decide, ""⟩

def connected : Session Script := { backend := {}, pool := some 0 }

/-- Two rows, of which the second is empty. -/
def rowAndEmpty : Operation := .insert (.list [.mapping [("name", .text "a")], .mapping []])

/-- Not every rejected operation has sent nothing: the row before an empty one is
inserted. -/
theorem not_rejected_before_statements :
    ¬∀ (op : Operation) (s : Service Script) table calls t u r, Served s table calls t u →
      (op.action s table).runIn t = (r, u) → IsRejected r → ∀ st, .statement st ∉ calls := by
  intro hall
  have hrun : (rowAndEmpty.action scripted "users").runIn connected =
      (.error (.api (.validation (.emptyRow "users"))),
        ((rowAndEmpty.action scripted "users").runIn connected).2) := rfl
  have hserved : Served scripted "users"
      [.statement [.text "INSERT INTO ", .name "public", .text ".", .name "users", .text " (",
        .name "name", .text ") ", .text "VALUES (", .value (.text "a"), .text ")",
        .text " RETURNING *"]]
      connected ((rowAndEmpty.action scripted "users").runIn connected).2 := .cons rfl (.nil _)
  exact hall rowAndEmpty scripted "users" _ connected _ _ hserved hrun ⟨_, rfl, rfl⟩ _
    (List.mem_singleton.mpr rfl)

end Operation

end Service
end TableGate

/-
# No value reaches the text of a statement

The values of a request are bound and never written. So requests that agree in all
but their values (`Request.Agrees`) compile to one text, and if one of them is
refused so is the other, with the same fault (`Request.compile_of_agrees`): what a
client compares with, inserts, assigns or names as a key decides neither what is
sent to the server nor whether anything is.

Two kinds of operands do shape the text, and requests that agree have them in
common: the operand of `is`, which is a keyword, and the number of the values that
`in` compares with, each of which has its own mark.

Statements of one form are the same but for their values (`Statement.SameForm`). A
clause of two such requests ends alike, in statements of one form; and the form
decides the text, for a value leaves nothing in it but its mark
(`Statement.SameForm.text_eq`).

Key definitions: `Statement.SameForm`, `Condition.Agrees`, `Request.Agrees`.
Key theorems: `Statement.SameForm.text_eq`, `Compiler.condition_of_agrees`,
`Request.statement_of_agrees`, `Request.compile_of_agrees`.
-/
import TableGate.Proofs.Query.Dialects

namespace TableGate

/-- The piece, with nothing known of its value. -/
def Piece.blank : Piece → Piece
  | .value _ => .value .null
  | p => p

namespace Statement

/-! ### Statements of one form -/

/-- The statements are the same but for their values. -/
def SameForm (s t : Statement) : Prop := s.map Piece.blank = t.map Piece.blank

theorem textFrom_blank (d : Dialect) : ∀ (index : Nat) (s : Statement),
    textFrom d index (s.map Piece.blank) = textFrom d index s
  | _, [] => rfl
  | index, .text t :: s => congrArg (t ++ ·) (textFrom_blank d index s)
  | index, .name n :: s => congrArg (d.quote n ++ ·) (textFrom_blank d index s)
  | index, .value _ :: s => congrArg (d.slot index ++ ·) (textFrom_blank d (index + 1) s)

namespace SameForm

variable {s s' t t' : Statement}

theorem refl (s : Statement) : SameForm s s := rfl

/-- **Statements of one form have one text.** -/
theorem text_eq (h : SameForm s t) (d : Dialect) : s.text d = t.text d :=
  calc s.text d = textFrom d 0 (s.map Piece.blank) := (textFrom_blank d 0 s).symm
    _ = textFrom d 0 (t.map Piece.blank) := by rw [h]
    _ = t.text d := textFrom_blank d 0 t

theorem append (hs : SameForm s s') (ht : SameForm t t') : SameForm (s ++ t) (s' ++ t') := by
  rw [SameForm, List.map_append, List.map_append, hs, ht]

theorem cons (p : Piece) (h : SameForm s t) : SameForm (p :: s) (p :: t) :=
  congrArg (p.blank :: ·) h

theorem value (v w : Value) (h : SameForm s t) : SameForm (.value v :: s) (.value w :: t) :=
  congrArg (Piece.value .null :: ·) h

theorem joinPieces (between : String) {ss ts : List Statement} (h : List.Forall₂ SameForm ss ts) :
    SameForm (joinPieces between ss) (joinPieces between ts) := by
  induction h with
  | nil => exact refl []
  | cons hst hrest ih =>
    cases hrest with
    | nil => exact hst
    | cons _ _ => exact hst.append (cons (.text between) ih)

theorem valueList {vs ws : List Value} (h : vs.length = ws.length) :
    SameForm (valueList vs) (valueList ws) := by
  refine joinPieces ", " (List.forall₂_map_left_iff.mpr (List.forall₂_map_right_iff.mpr ?_))
  exact List.forall₂_iff_zip.mpr ⟨h, fun {v w} _ => value v w (refl [])⟩

end SameForm

end Statement

/-! ### Requests that agree -/

/-- The conditions agree in the column and the operator; in the operand, if that is
`is`, and in the number of the values, if it is `in`. -/
structure Condition.Agrees (c c' : Condition) : Prop where
  column : c.column = c'.column
  operator : c.operator = c'.operator
  tested : c.operator = Operator.is.word → c.value = c'.value
  counted : c.operator = Operator.isIn.word →
    (Compiler.operands c.value).length = (Compiler.operands c'.value).length

namespace Compiler

/-- The requests ask the same of a table, and may differ in the values only that are
compared with, inserted or assigned, or that are the key. -/
inductive Request.Agrees : Request → Request → Prop where
  | select {f f' : Filter} (hselect : f.select = f'.select)
      (hconditions : List.Forall₂ Condition.Agrees f.conditions f'.conditions)
      (horder : f.order = f'.order) (hlimit : f.limit = f'.limit)
      (hoffset : f.offset = f'.offset) : Agrees (.select f) (.select f')
  | count {f f' : Filter}
      (hconditions : List.Forall₂ Condition.Agrees f.conditions f'.conditions) :
      Agrees (.count f) (.count f')
  | selectByKey (column : String) (key key' : Value) :
      Agrees (.selectByKey column key) (.selectByKey column key')
  | insert {row row' : Row} (hcolumns : row.map Prod.fst = row'.map Prod.fst) :
      Agrees (.insert row) (.insert row')
  | update {values values' : Row} {conditions conditions' : List Condition}
      (hcolumns : values.map Prod.fst = values'.map Prod.fst)
      (hconditions : List.Forall₂ Condition.Agrees conditions conditions') :
      Agrees (.update values conditions) (.update values' conditions')
  | updateByKey {values values' : Row} (hcolumns : values.map Prod.fst = values'.map Prod.fst)
      (column : String) (key key' : Value) :
      Agrees (.updateByKey values column key) (.updateByKey values' column key')
  | delete {conditions conditions' : List Condition}
      (hconditions : List.Forall₂ Condition.Agrees conditions conditions') :
      Agrees (.delete conditions) (.delete conditions')
  | deleteByKey (column : String) (key key' : Value) :
      Agrees (.deleteByKey column key) (.deleteByKey column key')

open Statement Results

/-! ### Clauses -/

theorem isEmpty_of_length {α β : Type} {xs : List α} {ys : List β} (h : xs.length = ys.length) :
    xs.isEmpty = ys.isEmpty := by
  rw [Bool.eq_iff_iff, List.isEmpty_iff_length_eq_zero, List.isEmpty_iff_length_eq_zero, h]

theorem sameForm_memberOf (column : String) {vs ws : List Value} (h : vs.length = ws.length) :
    SameForm (memberOf column vs) (memberOf column ws) := by
  unfold memberOf
  rw [isEmpty_of_length h]
  split
  · exact .refl _
  · exact ((SameForm.refl _).append (.valueList h)).append (.refl _)

theorem sameForm_pairing (column : String) (v w : Value) :
    SameForm (pairing column v) (pairing column w) := rfl

theorem sameForm_caselessLike (d : Dialect) (column : String) (v w : Value) :
    SameForm (caselessLike d column v) (caselessLike d column w) := by
  cases d <;> rfl

/-- **Conditions that agree are written in one form**, or refused with one fault. -/
theorem condition_of_agrees (d : Dialect) {c c' : Condition} (h : c.Agrees c') :
    Alike SameForm (condition d c) (condition d c') := by
  unfold condition
  rw [← h.column, ← h.operator]
  cases ho : Operator.ofWord? c.operator with
  | none => exact .error _
  | some o =>
    have hword : c.operator = o.word := (Operator.word_of_ofWord? ho).symm
    cases o with
    | ilike => exact .ok (sameForm_caselessLike d c.column c.value c'.value)
    | isIn => exact .ok (sameForm_memberOf c.column (h.counted hword))
    | is =>
      rw [← h.tested hword]
      exact .refl SameForm.refl _
    | eq | neq | gt | gte | lt | lte | like => exact .ok rfl

theorem isEmpty_of_agrees {cs cs' : List Condition} (h : List.Forall₂ Condition.Agrees cs cs') :
    cs.isEmpty = cs'.isEmpty :=
  isEmpty_of_length h.length_eq

theorem whereClause_of_agrees (d : Dialect) {cs cs' : List Condition}
    (h : List.Forall₂ Condition.Agrees cs cs') :
    Alike SameForm (whereClause d cs) (whereClause d cs') := by
  unfold whereClause
  rw [isEmpty_of_agrees h]
  split
  · exact .ok (.refl _)
  · refine (Alike.mapM_of_forall₂ (h.imp fun _ _ => condition_of_agrees d)).bind ?_
    exact fun tests tests' htests => .ok (.cons _ (.joinPieces " AND " htests))

theorem isEmpty_of_columns {row row' : Row} (h : row.map Prod.fst = row'.map Prod.fst) :
    row.isEmpty = row'.isEmpty :=
  isEmpty_of_length (by simpa using congrArg List.length h)

theorem assignments_of_columns (table : String) {values values' : Row}
    (h : values.map Prod.fst = values'.map Prod.fst) :
    Alike SameForm (assignments table values) (assignments table values') := by
  unfold assignments
  rw [isEmpty_of_columns h]
  split
  · exact .error _
  · have hpairs : List.Forall₂ (fun e e' : String × Value => e.1 = e'.1) values values' := by
      rw [← List.forall₂_eq_eq_eq] at h
      exact List.forall₂_map_right_iff.mp (List.forall₂_map_left_iff.mp h)
    refine .ok (.joinPieces ", " ?_)
    refine List.forall₂_map_left_iff.mpr (List.forall₂_map_right_iff.mpr ?_)
    refine hpairs.imp fun e e' he => ?_
    rw [he]
    exact sameForm_pairing _ _ _

namespace Request

/-! ### Statements -/

variable {r r' : Request}

/-- **Requests that agree compile to statements of one form**, or are refused with one
fault. -/
theorem statement_of_agrees (c : Compiler) (table : String) (schema : Option String)
    (h : r.Agrees r') :
    Alike SameForm (r.statement c table schema) (r'.statement c table schema) := by
  cases h with
  | select hselect hconditions horder hlimit hoffset =>
    refine (whereClause_of_agrees c.dialect hconditions).bind fun tests tests' htests => ?_
    rw [← hselect, ← horder, ← hlimit, ← hoffset]
    refine (Alike.refl (fun _ => rfl) _).bind fun page page' hpage => ?_
    obtain rfl : page = page' := hpage
    exact .ok ((((SameForm.refl _).append htests).append (.refl _)).append (.refl _))
  | count hconditions =>
    refine (whereClause_of_agrees c.dialect hconditions).bind fun tests tests' htests => ?_
    exact .ok ((SameForm.refl _).append htests)
  | selectByKey column key key' =>
    exact .ok ((SameForm.refl _).append (.cons _ (sameForm_pairing column key key')))
  | insert hcolumns =>
    rename_i row row'
    change Alike _ (c.insert table row schema) (c.insert table row' schema)
    unfold Compiler.insert
    rw [isEmpty_of_columns hcolumns, hcolumns]
    split
    · exact .error _
    · have hlength : (row.map Prod.snd).length = (row'.map Prod.snd).length := by
        simpa using congrArg List.length hcolumns
      exact .ok (((SameForm.refl _).append (.cons _ (.valueList hlength))).append (.refl _))
  | update hcolumns hconditions =>
    rename_i values values' conditions conditions'
    change Alike _ (c.update table values conditions schema)
      (c.update table values' conditions' schema)
    unfold Compiler.update
    rw [isEmpty_of_agrees hconditions]
    split
    · exact .error _
    · refine (assignments_of_columns table hcolumns).bind fun sets sets' hsets => ?_
      refine (whereClause_of_agrees c.dialect hconditions).bind fun tests tests' htests => ?_
      exact .ok (((SameForm.refl _).append (.cons _ hsets)).append htests)
  | updateByKey hcolumns column key key' =>
    refine (assignments_of_columns table hcolumns).bind fun sets sets' hsets => .ok ?_
    refine (SameForm.append ?_ ?_).append (.refl _)
    · exact ((SameForm.refl _).append (.cons _ hsets)).append (.refl _)
    · exact .cons _ (sameForm_pairing column key key')
  | delete hconditions =>
    rename_i conditions conditions'
    change Alike _ (c.delete table conditions schema) (c.delete table conditions' schema)
    unfold Compiler.delete
    rw [isEmpty_of_agrees hconditions]
    split
    · exact .error _
    · refine (whereClause_of_agrees c.dialect hconditions).bind fun tests tests' htests => ?_
      exact .ok ((SameForm.refl _).append htests)
  | deleteByKey column key key' =>
    refine .ok (((SameForm.refl _).append ?_).append (.refl _))
    exact .cons _ (sameForm_pairing column key key')

/-- **No value decides what is sent.** Of two requests that agree in all but their
values, both are refused, with one fault, or both are compiled, to one text; and their
values are the parameters that it is sent with. This holds in any dialect, and whatever
the values are. -/
theorem compile_of_agrees (d : Dialect) (maxRows : Int) (table : String)
    (schema : Option String) (h : r.Agrees r') :
    Alike (fun cmd cmd' : Command => cmd.text = cmd'.text ∧ cmd.params = r.values ∧
        cmd'.params = r'.values)
      (r.compile d maxRows table schema) (r'.compile d maxRows table schema) := by
  refine (Alike.refl (fun _ => rfl) (make d maxRows)).bind fun c c' hc => ?_
  obtain rfl : c = c' := hc
  have hstatements : Alike (fun s s' : Statement => SameForm s s' ∧ s.params = r.values ∧
      s'.params = r'.values) (r.statement c table schema) (r'.statement c table schema) :=
    (statement_of_agrees c table schema h).imp fun s s' hs hs' hform =>
      ⟨hform, (statement_spec hs).2, (statement_spec hs').2⟩
  exact hstatements.bind fun s s' ⟨hform, hparams⟩ => .ok ⟨hform.text_eq d, hparams⟩

/-- Texts, a null, a boolean and a list in the place of numbers; the operand of `is`
and the number of the values for `in` stay. -/
theorem compile_of_agrees_update :
    let r : Request := .update [("a", .int 1), ("b", .int 2)]
      [⟨"c", "in", .list [.int 3, .int 4]⟩, ⟨"d", "is", .null⟩, ⟨"e", "ilike", .int 5⟩]
    let r' : Request := .update [("a", .text "'; DROP TABLE t; --"), ("b", .null)]
      [⟨"c", "in", .tuple [.bool true, .text "@param0"]⟩, ⟨"d", "is", .null⟩,
        ⟨"e", "ilike", .list [.text "%"]⟩]
    r.Agrees r' ∧ ∃ cmd cmd', r.compile .sqlServer 1000 "t" none = .ok cmd ∧
      r'.compile .sqlServer 1000 "t" none = .ok cmd' ∧ cmd.text = cmd'.text ∧
      cmd.text = "UPDATE [t] SET [a] = @param0, [b] = @param1 WHERE [c] IN (@param2, @param3) " ++
        "AND [d] IS NULL AND LOWER([e]) LIKE LOWER(@param4)" := by
  intro r r'
  have hagrees : r.Agrees r' := by
    refine .update rfl (.cons ⟨rfl, rfl, ?_, fun _ => rfl⟩ (.cons ⟨rfl, rfl, fun _ => rfl, ?_⟩
      (.cons ⟨rfl, rfl, ?_, ?_⟩ .nil)))
    · exact fun h => absurd h (by decide)
    · exact fun h => absurd h (by decide)
    · exact fun h => absurd h (by decide)
    · exact fun h => absurd h (by decide)
  have halike := compile_of_agrees .sqlServer 1000 "t" none hagrees
  refine ⟨hagrees, _, _, rfl, rfl, ?_, by decide⟩
  cases halike with
  | ok h => exact h.1

end Request
end Compiler
end TableGate

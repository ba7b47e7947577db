/-
# Parameters in the form of their types

What comes out of a list of values that JSON can carry (`Value.IsJson`) is decided value by
value. Each that has a type takes its form, or is a text that cannot be read as one; those
beyond the types stay as they are (`Coerced`). If one cannot be read, the error names the
first such place and nothing else can go wrong (`coerceAll_outcome`). A value in the form
of its type has it for good, so the list may be put into form once more
(`coerce_idempotent`, `Coerced.again`).

Key definitions: `Value.IsJson`, `Sql.Coerced`, `Sql.FirstUnread`.
Key theorems: `Json.exists_write`, `Sql.coerce_spec`, `Sql.coerce_idempotent`,
`Sql.coerceFrom_outcome`, `Sql.coerceAll_outcome`.
-/
import TableGate.Proofs.Number.Spelling
import TableGate.Sql.Coercion

namespace TableGate

/-- What JSON can carry, with integers that can be written down. -/
inductive Value.IsJson : Value → Prop where
  | null : IsJson .null
  | bool (b : Bool) : IsJson (.bool b)
  | int {n : Int} (h : n.natAbs < 10 ^ Number.maxDigits) : IsJson (.int n)
  | float (x : Double) : IsJson (.float x)
  | text (s : String) : IsJson (.text s)
  | list {items : List Value} (h : ∀ v ∈ items, IsJson v) : IsJson (.list items)
  | mapping {entries : List (String × Value)} (h : ∀ e ∈ entries, IsJson e.2) :
    IsJson (.mapping entries)

/-! ### They can be written -/

namespace Value

theorem anyTooLong_eq_false : ∀ {items : List Value}, (∀ v ∈ items, v.isTooLong = false) →
    anyTooLong items = false
  | [], _ => rfl
  | v :: items, h => by
    obtain ⟨hv, hitems⟩ := List.forall_mem_cons.mp h
    rw [anyTooLong, hv, anyTooLong_eq_false hitems, Bool.false_or]

theorem anyEntryTooLong_eq_false : ∀ {entries : List (String × Value)},
    (∀ e ∈ entries, e.2.isTooLong = false) → anyEntryTooLong entries = false
  | [], _ => rfl
  | (key, v) :: entries, h => by
    obtain ⟨hv, hentries⟩ := List.forall_mem_cons.mp h
    rw [anyEntryTooLong, hv, anyEntryTooLong_eq_false hentries, Bool.false_or]

theorem IsJson.isTooLong_eq_false {v : Value} (h : v.IsJson) : v.isTooLong = false := by
  induction h with
  | null | bool | float | text => rfl
  | int h => exact Query.isTooLong_eq_false_iff.mpr h
  | list _ ih => exact anyTooLong_eq_false ih
  | mapping _ ih => exact anyEntryTooLong_eq_false ih

end Value

namespace Json

theorem exists_writeDouble (x : Double) : ∃ t, writeDouble parameterLayout x = .ok t := by
  unfold writeDouble
  split
  · exact ⟨_, rfl⟩
  · rw [if_neg (by decide)]
    split <;> exact ⟨_, rfl⟩

theorem exists_writeItems {layout : Layout} : ∀ {items : List Value},
    (∀ v ∈ items, ∃ t, write layout v = .ok t) → ∃ ts, writeItems layout items = .ok ts
  | [], _ => ⟨[], rfl⟩
  | v :: items, h => by
    obtain ⟨⟨t, ht⟩, hitems⟩ := List.forall_mem_cons.mp h
    obtain ⟨ts, hts⟩ := exists_writeItems hitems
    exact ⟨t :: ts, by rw [writeItems, ht, hts]; rfl⟩

theorem exists_writeEntries {layout : Layout} : ∀ {entries : List (String × Value)},
    (∀ e ∈ entries, ∃ t, write layout e.2 = .ok t) → ∃ ts, writeEntries layout entries = .ok ts
  | [], _ => ⟨[], rfl⟩
  | (name, v) :: entries, h => by
    obtain ⟨⟨t, ht⟩, hentries⟩ := List.forall_mem_cons.mp h
    obtain ⟨ts, hts⟩ := exists_writeEntries hentries
    refine ⟨(writeString layout.asciiOnly name ++ layout.keyGap ++ t) :: ts, ?_⟩
    rw [writeEntries, ht, hts]
    rfl

theorem exists_write {v : Value} (h : v.IsJson) : ∃ t, write parameterLayout v = .ok t := by
  induction h with
  | null | bool | text => exact ⟨_, rfl⟩
  | @int n h =>
    have hshort := Query.isTooLong_eq_false_iff.mpr h
    exact ⟨toString n, by rw [write, hshort]; rfl⟩
  | float x => exact exists_writeDouble x
  | list _ ih =>
    obtain ⟨ts, hts⟩ := exists_writeItems ih
    exact ⟨_, by rw [write, hts]; rfl⟩
  | mapping _ ih =>
    obtain ⟨ts, hts⟩ := exists_writeEntries ih
    exact ⟨_, by rw [write, hts]; rfl⟩

end Json

namespace Sql

variable {type : String} {v w : Value}

/-! ### One value -/

theorem readAs_cases {α : Type} (make : α → Value) (r : Option α) :
    (∃ a, readAs make r = .ok (make a)) ∨ readAs make r = .error (.refused .unreadable) := by
  cases r with
  | none => exact .inr rfl
  | some a => exact .inl ⟨a, rfl⟩

/-- All values are written out as texts of this type. -/
def takesTexts (type : String) : Bool := documentTypes.contains type || textTypes.contains type

/-- A value that has the form of a type that does not take texts. -/
structure IsFormed (type : String) (w : Value) : Prop where
  plain : takesTexts type = false
  ne_text : ∀ s, w ≠ .text s
  ne_numeric : ∀ x, w = .float x → type ≠ "numeric"

theorem coerceText_cases (hplain : takesTexts type = false) (s : String) :
    (∃ w, coerceText type s = .ok w ∧ (w = .text s ∨ IsFormed type w)) ∨
      ∃ e, coerceText type s = .error e ∧ e.isUnreadable = true := by
  have hread : ∀ {α : Type} (make : α → Value) (r : Option α), (∀ a, IsFormed type (make a)) →
      (∃ w, readAs make r = .ok w ∧ (w = .text s ∨ IsFormed type w)) ∨
        ∃ e, readAs make r = .error e ∧ e.isUnreadable = true := by
    intro α make r hformed
    rcases readAs_cases make r with ⟨a, ha⟩ | h
    · exact .inl ⟨make a, ha, .inr (hformed a)⟩
    · exact .inr ⟨_, h, rfl⟩
  unfold coerceText
  split
  · exact hread .date _ fun d => ⟨hplain, by simp, by simp⟩
  split
  · exact hread .dateTime _ fun t => ⟨hplain, by simp, by simp⟩
  split
  · exact hread .time _ fun t => ⟨hplain, by simp, by simp⟩
  split
  · split
    · next d _ => exact .inl ⟨.decimal d, rfl, .inr ⟨hplain, by simp, by simp⟩⟩
    · exact .inr ⟨_, rfl, rfl⟩
  split
  · exact hread .int _ fun n => ⟨hplain, by simp, by simp⟩
  split
  · next hnumeric _ _ => exact hread .float _ fun x => ⟨hplain, by simp, fun _ _ => hnumeric⟩
  · exact .inl ⟨.text s, rfl, .inl rfl⟩

theorem coerce_text (s : String) :
    coerce type (.text s) = if takesTexts type then .ok (.text s) else coerceText type s := rfl

/-- What becomes of a value: it stays as it is, takes the form of the type, or becomes a text
where texts are taken. Or there is an error; for what JSON can carry it is that of a text
that cannot be read. -/
theorem coerce_spec (type : String) (v : Value) :
    (∃ w, coerce type v = .ok w ∧
      (w = v ∨ IsFormed type w ∨ takesTexts type = true ∧ ∃ t, w = .text t)) ∨
    ∃ e, coerce type v = .error e ∧ (v.IsJson → e.isUnreadable = true) := by
  unfold coerce
  split
  · exact .inl ⟨.null, rfl, .inl rfl⟩
  · next s =>
    split
    · exact .inl ⟨.text s, rfl, .inl rfl⟩
    · next hplain =>
      rcases coerceText_cases (Bool.eq_false_iff.mpr hplain) s with ⟨w, hw, hform⟩ | ⟨e, he, hread⟩
      · exact .inl ⟨w, hw, hform.imp_right .inl⟩
      · exact .inr ⟨e, he, fun _ => hread⟩
  · next b =>
    split
    · next htaken => exact .inl ⟨_, rfl, .inr (.inr ⟨htaken, _, rfl⟩)⟩
    · exact .inl ⟨.bool b, rfl, .inl rfl⟩
  · split
    · next hdocument =>
      have htaken : takesTexts type = true := by rw [takesTexts, hdocument, Bool.true_or]
      cases hwrite : Json.write Json.parameterLayout v with
      | ok t => exact .inl ⟨.text t, rfl, .inr (.inr ⟨htaken, t, rfl⟩)⟩
      | error e =>
        refine .inr ⟨e, rfl, fun hjson => ?_⟩
        obtain ⟨t, ht⟩ := Json.exists_write hjson
        cases hwrite.symm.trans ht
    · next hnoDocument =>
      split
      · next htext =>
        have htaken : takesTexts type = true := by rw [takesTexts, htext, Bool.or_true]
        split
        · exact .inr ⟨_, rfl, fun _ => rfl⟩
        · exact .inl ⟨.text v.shown, rfl, .inr (.inr ⟨htaken, _, rfl⟩)⟩
      · next hnoText =>
        have hplain : takesTexts type = false := by
          rw [takesTexts, Bool.eq_false_iff.mpr hnoDocument, Bool.eq_false_iff.mpr hnoText]
          rfl
        split
        · next x _ _ _ =>
          split
          · obtain ⟨d, hd⟩ := Double.read?_text x
            rw [hd]
            exact .inl ⟨.decimal d, rfl, .inr (.inl ⟨hplain, by simp, by simp⟩)⟩
          · exact .inl ⟨.float x, rfl, .inl rfl⟩
        · exact .inl ⟨v, rfl, .inl rfl⟩

theorem contains_of_plain (h : takesTexts type = false) :
    ¬documentTypes.contains type = true ∧ ¬textTypes.contains type = true := by
  rw [takesTexts, Bool.or_eq_false_iff] at h
  rw [h.1, h.2]
  exact ⟨Bool.false_ne_true, Bool.false_ne_true⟩

theorem IsFormed.coerce_eq (h : IsFormed type w) : coerce type w = .ok w := by
  have hplain := h.plain
  obtain ⟨hdocument, htexts⟩ := contains_of_plain hplain
  rw [takesTexts, ← Bool.not_eq_true] at hplain
  unfold coerce
  split
  · rfl
  · next s => exact absurd rfl (h.ne_text s)
  · rw [if_neg hplain]
  · rw [if_neg hdocument, if_neg htexts]
    split
    · next x _ _ _ => rw [if_neg (h.ne_numeric x rfl)]
    · rfl

/-- **A value in the form of its type has it for good.** -/
theorem coerce_idempotent (h : coerce type v = .ok w) : coerce type w = .ok w := by
  rcases coerce_spec type v with ⟨w', hw', hform⟩ | ⟨e, he, -⟩
  · obtain rfl := Except.ok.inj (hw'.symm.trans h)
    rcases hform with rfl | hformed | ⟨htaken, t, rfl⟩
    · exact h
    · exact hformed.coerce_eq
    · rw [coerce_text, if_pos htaken]
  · cases he.symm.trans h

/-- **What JSON can carry takes the form of a type or is unreadable.** -/
theorem coerce_outcome (h : v.IsJson) (type : String) : (∃ w, coerce type v = .ok w) ∨
    ∃ e, coerce type v = .error e ∧ e.isUnreadable = true := by
  rcases coerce_spec type v with ⟨w, hw, -⟩ | ⟨e, he, hjson⟩
  · exact .inl ⟨w, hw⟩
  · exact .inr ⟨e, he, hjson h⟩

/-! ### A list of values -/

/-- The values have taken the forms of the types: each the form of its own, and those beyond
the types none. -/
inductive Coerced : List (Option String) → List Value → List Value → Prop where
  | nil (types : List (Option String)) : Coerced types [] []
  | beyond (vs : List Value) : Coerced [] vs vs
  | cons {declared : Option String} {types : List (Option String)} {v w : Value}
    {vs ws : List Value} (hw : coerce (declared.getD "") v = .ok w) (hrest : Coerced types vs ws) :
    Coerced (declared :: types) (v :: vs) (w :: ws)

namespace Coerced

variable {types : List (Option String)} {vs ws : List Value}

theorem length_eq (h : Coerced types vs ws) : ws.length = vs.length := by
  induction h with
  | nil | beyond => rfl
  | cons _ _ ih => simp [ih]

theorem getElem?_of_declared (h : Coerced types vs ws) : ∀ {i : Nat} {declared : Option String}
    {v : Value}, types[i]? = some declared → vs[i]? = some v →
      ∃ w, ws[i]? = some w ∧ coerce (declared.getD "") v = .ok w := by
  induction h with
  | nil => intro i declared v _ hv; simp at hv
  | beyond => intro i declared v htype; simp at htype
  | @cons declared types v w vs ws hw _ ih =>
    intro i declared' v' htype hv
    cases i with
    | zero =>
      obtain rfl : declared = declared' := by simpa using htype
      obtain rfl : v = v' := by simpa using hv
      exact ⟨w, rfl, hw⟩
    | succ i => exact ih (by simpa using htype) (by simpa using hv)

theorem getElem?_of_beyond (h : Coerced types vs ws) : ∀ {i : Nat}, types.length ≤ i →
    ws[i]? = vs[i]? := by
  induction h with
  | nil | beyond => intro i _; rfl
  | cons _ _ ih =>
    intro i hi
    cases i with
    | zero => cases hi
    | succ i => exact ih (Nat.le_of_succ_le_succ hi)

theorem getElem?_of_null (h : Coerced types vs ws) : ∀ {i : Nat}, vs[i]? = some .null →
    ws[i]? = some .null := by
  induction h with
  | nil | beyond => exact fun hi => hi
  | @cons declared types v w vs ws hw _ ih =>
    intro i hi
    cases i with
    | zero =>
      obtain rfl : v = .null := by simpa using hi
      exact congrArg some (Except.ok.inj hw).symm
    | succ i => exact ih hi

/-- Values that have taken the forms of the types have them for good. -/
theorem again (h : Coerced types vs ws) : Coerced types ws ws := by
  induction h with
  | nil types => exact .nil types
  | beyond vs => exact .beyond vs
  | cons hw _ ih => exact .cons (coerce_idempotent hw) ih

theorem coerceFrom_eq (h : Coerced types vs ws) : ∀ k : Nat, coerceFrom k types vs = .ok ws := by
  induction h with
  | nil types => intro k; cases types <;> rfl
  | beyond vs => intro k; cases vs <;> rfl
  | cons hw _ ih =>
    intro k
    rw [coerceFrom, hw]
    simp only [ih (k + 1)]
    rfl

end Coerced

/-- The value at a place is the first that cannot be read as its type. -/
structure FirstUnread (types : List (Option String)) (vs : List Value) (i : Nat)
    (declared : Option String) (v : Value) : Prop where
  type_eq : types[i]? = some declared
  value_eq : vs[i]? = some v
  unread : ∀ w, coerce (declared.getD "") v ≠ .ok w
  before : ∀ j < i, ∀ declared v, types[j]? = some declared → vs[j]? = some v →
    ∃ w, coerce (declared.getD "") v = .ok w

theorem FirstUnread.cons {types : List (Option String)} {vs : List Value} {i : Nat}
    {declared first : Option String} {v w v₀ : Value} (h : FirstUnread types vs i declared v)
    (hw : coerce (first.getD "") v₀ = .ok w) :
    FirstUnread (first :: types) (v₀ :: vs) (i + 1) declared v := by
  refine ⟨h.type_eq, h.value_eq, h.unread, fun j hj declared' v' htype hv => ?_⟩
  cases j with
  | zero =>
    obtain rfl : first = declared' := by simpa using htype
    obtain rfl : v₀ = v' := by simpa using hv
    exact ⟨w, hw⟩
  | succ j => exact h.before j (Nat.lt_of_succ_lt_succ hj) declared' v' htype hv

/-- From a place on, the values take the forms of the types, or the error names the first
that cannot be read. -/
theorem coerceFrom_outcome : ∀ (types : List (Option String)) {vs : List Value} (k : Nat),
    (∀ v ∈ vs, v.IsJson) →
    (∃ ws, coerceFrom k types vs = .ok ws ∧ Coerced types vs ws) ∨
      ∃ i declared v, FirstUnread types vs i declared v ∧ coerceFrom k types vs =
        .error (.api (.validation (.parameter (k + i + 1) (declared.getD "") v.quoted)))
  | types, [], _, _ => .inl ⟨[], by cases types <;> rfl, .nil types⟩
  | [], v :: vs, _, _ => .inl ⟨v :: vs, rfl, .beyond _⟩
  | declared :: types, v :: vs, k, h => by
    obtain ⟨hv, hvs⟩ := List.forall_mem_cons.mp h
    rcases coerce_outcome hv (declared.getD "") with ⟨w, hw⟩ | ⟨e, he, hunreadable⟩
    · rcases coerceFrom_outcome types (k + 1) hvs with ⟨ws, hws, hcoerced⟩ | hfails
      · have hcons := Coerced.cons hw hcoerced
        exact .inl ⟨w :: ws, hcons.coerceFrom_eq k, hcons⟩
      · obtain ⟨i, declared', v', hfirst, herror⟩ := hfails
        refine .inr ⟨i + 1, declared', v', hfirst.cons hw, ?_⟩
        rw [coerceFrom, hw]
        simp only [herror]
        rw [Nat.add_right_comm k 1 i, Nat.add_assoc k i 1]
        rfl
    · refine .inr ⟨0, declared, v, ⟨rfl, rfl, ?_, fun j hj => absurd hj (Nat.not_lt_zero j)⟩, ?_⟩
      · intro w hw
        cases he.symm.trans hw
      · rw [coerceFrom, he]
        simp only [hunreadable, if_true, badParameter, hv.isTooLong_eq_false]
        rfl

/-- **Parameters and types of any number.** Either each value that has a type takes its form
and the others stay as they are, and in these forms the values are taken as they are; or the
error names the first value that cannot be read as its type. -/
theorem coerceAll_outcome (types : List (Option String)) {vs : List Value}
    (h : ∀ v ∈ vs, v.IsJson) :
    (∃ ws : List Value, coerceAll types vs = .ok ws ∧ ws.length = vs.length ∧
      (∀ (i : Nat) (declared : Option String) (v : Value),
        types[i]? = some declared → vs[i]? = some v →
          ∃ w, ws[i]? = some w ∧ coerce (declared.getD "") v = .ok w) ∧
      (∀ i : Nat, types.length ≤ i → ws[i]? = vs[i]?) ∧
      (∀ i : Nat, vs[i]? = some .null → ws[i]? = some .null) ∧
      coerceAll types ws = .ok ws) ∨
    ∃ (i : Nat) (declared : Option String) (v : Value), FirstUnread types vs i declared v ∧
      coerceAll types vs =
        .error (.api (.validation (.parameter (i + 1) (declared.getD "") v.quoted))) := by
  rcases coerceFrom_outcome types 0 h with ⟨ws, hws, hcoerced⟩ | hfails
  · exact .inl ⟨ws, hws, hcoerced.length_eq, fun _ _ _ => hcoerced.getElem?_of_declared,
      fun _ => hcoerced.getElem?_of_beyond, fun _ => hcoerced.getElem?_of_null,
      hcoerced.again.coerceFrom_eq 0⟩
  · obtain ⟨i, declared, v, hfirst, herror⟩ := hfails
    rw [Nat.zero_add] at herror
    exact .inr ⟨i, declared, v, hfirst, herror⟩

/-- A number in a text, a list for a type without a name, and a value beyond the types. -/
theorem coerceAll_outcome_mixed :
    let types : List (Option String) := [some "int4", none]
    let vs : List Value := [.text " 12 ", .list [.null], .bool true]
    (∀ v ∈ vs, v.IsJson) ∧ coerceAll types vs = .ok [.int 12, .list [.null], .bool true] ∧
      coerceAll types [.int 12, .list [.null], .bool true] =
        .ok [.int 12, .list [.null], .bool true] := by
  intro types vs
  have hjson : ∀ v ∈ vs, v.IsJson := by
    intro v hv
    simp only [vs, List.mem_cons, List.not_mem_nil, or_false] at hv
    rcases hv with rfl | rfl | rfl
    · exact .text _
    · refine .list fun v hv => ?_
      obtain rfl := List.mem_singleton.mp hv
      exact .null
    · exact .bool true
  have hforms : coerceAll types vs = .ok [.int 12, .list [.null], .bool true] := rfl
  rcases coerceAll_outcome types hjson with ⟨ws, hws, -, -, -, -, hagain⟩ | ⟨_, _, _, -, herror⟩
  · obtain rfl := Except.ok.inj (hws.symm.trans hforms)
    exact ⟨hjson, hforms, hagain⟩
  · cases herror.symm.trans hforms

end Sql
end TableGate

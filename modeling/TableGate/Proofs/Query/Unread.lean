/-
# Query strings that are not read

A query string that is not read is rejected: the client is told of the order, the
page bound or the operator that is wrong. There is one exception. An integer text
with more digits than an integer is read from (`IsOversized`) passes for an integer
until it is read; that it cannot be read then is a fault of which no client is told.

A pair of texts is read for the numbers that its operands may be (`numberTexts`): a
page bound is one, each item of a list is one, and an order has none. The first pair
that is not read gives this fault if one of its number texts is oversized, and
nothing else does (`read_texts_outcome`). The key of a row is an operand like any
other.

How a step ends is said once (`Ends`), and each step is taken by itself.

Key definitions: `IsOversized`, `Ends`, `listTexts`, `operandTexts`, `numberTexts`,
`texts`.
Key theorems: `readOperand_eq_error_iff`, `ends_readConditionText`, `ends_readPair`,
`read_texts_outcome`.
-/
import TableGate.Proofs.Api.Rejection
import TableGate.Proofs.Query.RoundTrip

namespace TableGate
namespace Query

open Number

/-- The fault of a value that cannot be read. -/
abbrev unreadable : Fault := .refused .unreadable

/-! ### Operands -/

/-- An integer text with more digits than an integer is read from. -/
def IsOversized (s : String) : Prop :=
  isIntegerText s.toList = true ∧ maxDigits < (dropSign (dropLineFeed s.toList)).length

variable {s : String} {e : Fault}

theorem readInt?_eq_none_iff_isOversized (h : isIntegerText s.toList = true) :
    readInt? s = none ↔ IsOversized s := by
  rw [readInt?_eq_none_iff h]
  exact (and_iff_right h).symm

/-- The plain spelling of an integer is oversized from a power of ten on. -/
theorem isOversized_toString {n : Int} : IsOversized (toString n) ↔ 10 ^ maxDigits ≤ n.natAbs := by
  rw [← readInt?_eq_none_iff_isOversized (isIntegerText_toString n), readInt?_toString_eq]
  by_cases h : n.natAbs < 10 ^ maxDigits
  · simp only [if_pos h, reduceCtorEq, false_iff, Nat.not_le]
    exact h
  · simp only [if_neg h, true_iff]
    exact Nat.not_lt.mp h

theorem readOperand_of_isIntegerText (h : isIntegerText s.toList = true) :
    (∀ n, readInt? s = some n → readOperand s = .ok (.int n)) ∧
      (readInt? s = none → readOperand s = .error unreadable) := by
  have hne : ∀ w : String, isIntegerText w.toList = false → s ≠ w := by
    rintro w hw rfl
    rw [h] at hw
    cases hw
  have hnull : s ≠ "null" := hne _ (by decide)
  have htrue : s ≠ "true" := hne _ (by decide)
  have hfalse : s ≠ "false" := hne _ (by decide)
  have hnumber : isNumberText s.toList = true := isNumberText_of_isIntegerText h
  constructor
  · intro n hn
    simp only [readOperand, hnull, htrue, hfalse, hnumber, h, hn, if_true, if_false]
  · intro hn
    simp only [readOperand, hnull, htrue, hfalse, hnumber, h, hn, if_true, if_false]

/-- Any other text is read, and for a number some number is found. -/
theorem readOperand_of_not_isIntegerText (h : isIntegerText s.toList = false) :
    ∃ v, readOperand s = .ok v ∧
      (isNumberText s.toList = true → ∃ x, readDouble? s = some x ∧ v = .float x) := by
  have hne : ∀ w : String, isNumberText w.toList = false → s = w →
      ∀ {p : Prop}, isNumberText s.toList = true → p := by
    rintro w hw rfl p hs
    rw [hs] at hw
    cases hw
  unfold readOperand
  split
  · next hs => exact ⟨_, rfl, hne _ (by decide) hs⟩
  · split
    · next hs => exact ⟨_, rfl, hne _ (by decide) hs⟩
    · split
      · next hs => exact ⟨_, rfl, hne _ (by decide) hs⟩
      · split
        · next hnumber =>
          obtain ⟨x, hx⟩ := readDouble?_of_isNumberText hnumber
          rw [h, hx]
          exact ⟨.float x, rfl, fun _ => ⟨x, rfl, rfl⟩⟩
        · next hnumber => exact ⟨_, rfl, fun hs => absurd hs hnumber⟩

/-- **An operand is not read exactly if it is oversized.** -/
theorem readOperand_eq_error_iff : readOperand s = .error e ↔ e = unreadable ∧ IsOversized s := by
  cases h : isIntegerText s.toList with
  | true =>
    obtain ⟨hsome, hnone⟩ := readOperand_of_isIntegerText h
    rw [← readInt?_eq_none_iff_isOversized h]
    cases hread : readInt? s with
    | none => simp [hnone hread, eq_comm]
    | some n => simp [hsome n hread]
  | false =>
    obtain ⟨v, hv, -⟩ := readOperand_of_not_isIntegerText h
    simp [hv, IsOversized, h]

theorem exists_readOperand_iff : (∃ v, readOperand s = .ok v) ↔ ¬IsOversized s := by
  cases hread : readOperand s with
  | ok v =>
    have hs : ¬IsOversized s := by
      intro hs
      cases hread.symm.trans (readOperand_eq_error_iff.mpr ⟨rfl, hs⟩)
    simp [hs]
  | error e => simp [(readOperand_eq_error_iff.mp hread).2]

/-! ### How steps end -/

/-- A step gives a result or rejects the request, unless `p` holds: then a value could
not be read. -/
inductive Ends {α : Type} (p : Prop) : Except Fault α → Prop where
  | ok (a : α) (fits : ¬p) : Ends p (.ok a)
  | rejected {e : Fault} (told : e.isRejection = true) (fits : ¬p) : Ends p (.error e)
  | unread (oversized : p) : Ends p (.error unreadable)

namespace Ends

variable {α β : Type} {p q : Prop} {r : Except Fault α}

theorem of_eq_error_iff (h : ∀ e, r = .error e ↔ e = unreadable ∧ p) : Ends p r := by
  cases r with
  | ok a =>
    refine .ok a fun hp => ?_
    cases (h unreadable).mpr ⟨rfl, hp⟩
  | error e =>
    obtain ⟨rfl, hp⟩ := (h e).mp rfl
    exact .unread hp

theorem congr (h : Ends p r) (hpq : p ↔ q) : Ends q r := by
  cases h with
  | ok a fits => exact .ok a (hpq.not.mp fits)
  | rejected told fits => exact .rejected told (hpq.not.mp fits)
  | unread oversized => exact .unread (hpq.mp oversized)

theorem bind_pure (h : Ends p r) (f : α → β) : Ends p (r >>= fun a => pure (f a)) := by
  cases h with
  | ok a fits => exact .ok (f a) fits
  | rejected told fits => exact .rejected told fits
  | unread oversized => exact .unread oversized

theorem eq_unreadable_iff (h : Ends p r) : r = .error unreadable ↔ p := by
  cases h with
  | ok a fits => simp [fits]
  | rejected told fits =>
    refine ⟨fun he => ?_, fun hp => absurd hp fits⟩
    obtain rfl := Except.error.inj he
    cases told
  | unread oversized => simp [oversized]

theorem fault_cases (h : Ends p r) (he : r = .error e) : e.isRejection = true ∨ e = unreadable := by
  cases h with
  | ok a fits => cases he
  | rejected told fits => exact .inl (Except.error.inj he ▸ told)
  | unread oversized => exact .inr (Except.error.inj he).symm

end Ends

/-! ### Conditions -/

/-- The items of a list, each of which may be a number. -/
def listTexts (s : String) : List String :=
  let inner := dropParentheses (Text.trim s)
  if (Text.trim inner).isEmpty then [] else (Text.splitAt ',' inner).map Text.trim

/-- The texts of a condition that may be numbers. -/
def operandTexts (text : String) : List String :=
  match Text.cutFirst? '.' text with
  | none => [text]
  | some (word, operand) =>
    if !isOperatorText word then [text]
    else match Operator.ofWord? word with
      | none => []
      | some .isIn => listTexts operand
      | some .is => if operand = notNullWord then [] else [operand]
      | some _ => [operand]

/-- One of the texts is oversized. -/
def SomeOversized (ts : List String) : Prop := ∃ t ∈ ts, IsOversized t

theorem someOversized_singleton : SomeOversized [s] ↔ IsOversized s := by
  simp [SomeOversized]

theorem not_someOversized_nil : ¬SomeOversized [] := by
  simp [SomeOversized]

theorem ends_readOperand (s : String) : Ends (SomeOversized [s]) (readOperand s) :=
  (Ends.of_eq_error_iff fun _ => readOperand_eq_error_iff).congr someOversized_singleton.symm

theorem readList_eq_mapM (s : String) : readList s = (listTexts s).mapM readOperand := by
  unfold readList listTexts
  dsimp only
  split
  · rfl
  · rw [List.mapM_map]
    rfl

theorem readList_eq_error_iff :
    readList s = .error e ↔ e = unreadable ∧ SomeOversized (listTexts s) := by
  rw [readList_eq_mapM]
  exact Results.mapM_eq_error_iff fun _ _ => readOperand_eq_error_iff

theorem ends_readList (s : String) : Ends (SomeOversized (listTexts s)) (readList s) :=
  .of_eq_error_iff fun _ => readList_eq_error_iff

/-- **A condition is read or rejected unless one of its operands is oversized.** -/
theorem ends_readConditionText (column text : String) :
    Ends (SomeOversized (operandTexts text)) (readConditionText column text) := by
  cases hcut : Text.cutFirst? '.' text with
  | none =>
    simp only [readConditionText, operandTexts, hcut]
    exact (ends_readOperand text).bind_pure _
  | some parts =>
    obtain ⟨word, operand⟩ := parts
    cases hword : isOperatorText word with
    | false =>
      simp only [readConditionText, operandTexts, hcut, hword, Bool.not_false, if_true]
      exact (ends_readOperand text).bind_pure _
    | true =>
      simp only [readConditionText, operandTexts, hcut, hword, Bool.not_true, Bool.false_eq_true,
        if_false]
      cases Operator.ofWord? word with
      | none => exact .rejected rfl not_someOversized_nil
      | some op =>
        cases op with
        | isIn => exact (ends_readList operand).bind_pure _
        | is =>
          by_cases hnull : operand = notNullWord
          · simp only [if_pos hnull]
            exact .ok _ not_someOversized_nil
          · simp only [if_neg hnull]
            exact (ends_readOperand operand).bind_pure _
        | _ => exact (ends_readOperand operand).bind_pure _

/-! ### Reserved keys -/

theorem ends_readOrder (s : String) : Ends (SomeOversized []) (readOrder s) := by
  have hterm : ∀ item e, readOrderTerm s item = .error e → e.isRejection = true := by
    intro item e h
    unfold readOrderTerm at h
    split at h
    · cases h
    · split at h
      · cases h
      · dsimp only at h
        split at h
        · cases h
        · split at h
          · cases h
          · exact Except.error.inj h ▸ rfl
  have hterms : Ends (SomeOversized [])
      ((Text.splitAt ',' s).mapM fun item => readOrderTerm s (Text.trim item)) := by
    cases hread : (Text.splitAt ',' s).mapM fun item => readOrderTerm s (Text.trim item) with
    | ok terms => exact .ok terms not_someOversized_nil
    | error e =>
      obtain ⟨item, -, he⟩ := Results.exists_of_mapM_eq_error hread
      exact .rejected (hterm _ e he) not_someOversized_nil
  exact hterms.bind_pure _

theorem ends_readPageBound (name s : String) :
    Ends (SomeOversized [Text.trim s]) (readPageBound name (.text s)) := by
  refine Ends.congr ?_ someOversized_singleton.symm
  have hshown : (Value.text s).shown = s := rfl
  cases hinteger : isIntegerText (Text.trim s).toList with
  | false =>
    simp only [readPageBound, hshown, hinteger, Bool.not_false, if_true]
    refine .rejected rfl ?_
    rintro ⟨hs, -⟩
    cases hs.symm.trans hinteger
  | true =>
    have hnone := readInt?_eq_none_iff_isOversized hinteger
    simp only [readPageBound, hshown, hinteger, Bool.not_true, Bool.false_eq_true, if_false]
    cases hread : readInt? (Text.trim s) with
    | none => exact .unread (hnone.mp hread)
    | some n =>
      have hfits : ¬IsOversized (Text.trim s) := by
        rw [← hnone, hread]
        exact Option.some_ne_none n
      by_cases hn : n < 0
      · simp only [if_pos hn]
        exact .rejected rfl hfits
      · simp only [if_neg hn]
        exact .ok n hfits

/-! ### Whole query strings -/

/-- The texts of a pair that may be numbers. -/
def numberTexts (key text : String) : List String :=
  if key = "select" ∨ key = "order" then []
  else if key = "limit" ∨ key = "offset" then [Text.trim text]
  else operandTexts text

/-- **A pair is read or rejected unless one of its numbers is oversized.** -/
theorem ends_readPair (f : Filter) (key text : String) :
    Ends (SomeOversized (numberTexts key text)) (readPair f (key, .text text)) := by
  by_cases hkey : key ∈ reservedKeys
  · simp only [reservedKeys, List.mem_cons, List.not_mem_nil, or_false] at hkey
    rcases hkey with rfl | rfl | rfl | rfl
    · exact .ok _ not_someOversized_nil
    · have hpair : readPair f ("order", .text text) =
          (readOrder text >>= fun terms => pure { f with order := terms }) := by
        simp [readPair, Value.shown]
      rw [hpair]
      exact (ends_readOrder text).bind_pure _
    · have hpair : readPair f ("limit", .text text) =
          (readPageBound "limit" (.text text) >>= fun n => pure { f with limit := some n }) := by
        simp [readPair]
      rw [hpair]
      exact (ends_readPageBound "limit" text).bind_pure _
    · have hpair : readPair f ("offset", .text text) =
          (readPageBound "offset" (.text text) >>= fun n => pure { f with offset := some n }) := by
        simp [readPair]
      rw [hpair]
      exact (ends_readPageBound "offset" text).bind_pure _
  · have htexts : numberTexts key text = operandTexts text := by
      simp only [reservedKeys, List.mem_cons, List.not_mem_nil, or_false, not_or] at hkey
      rw [numberTexts, if_neg (by tauto), if_neg (by tauto)]
    rw [readPair_condition f hkey, htexts]
    exact (ends_readConditionText key text).bind_pure _

/-- The pairs of a query string. -/
def texts (pairs : List (String × String)) : List (String × Value) :=
  pairs.map fun pair => (pair.1, .text pair.2)

theorem read_texts (pairs : List (String × String)) :
    read (texts pairs) = pairs.foldlM (fun f pair => readPair f (pair.1, .text pair.2)) {} := by
  rw [read, texts, List.foldlM_map]

/-- **How a query string ends.** It is read, or it is rejected, or a value cannot be
read. The last happens exactly if all pairs are read before one that holds an
oversized number. So it is with the key of a row: it is read unless it is oversized.
And no number is made up where none is read. -/
theorem read_texts_outcome (pairs : List (String × String)) :
    ((∃ f, read (texts pairs) = .ok f) ∨
      (∃ e, read (texts pairs) = .error e ∧ e.isRejection = true) ∨
      read (texts pairs) = .error unreadable) ∧
    (read (texts pairs) = .error unreadable ↔
      ∃ front key text back, pairs = front ++ (key, text) :: back ∧
        (∃ f, read (texts front) = .ok f) ∧ SomeOversized (numberTexts key text)) ∧
    ∀ key : String, ((∃ v, readOperand key = .ok v) ↔ ¬IsOversized key) ∧
      (readOperand key = .error unreadable ↔ IsOversized key) ∧
      (isNumberText key.toList = true → isIntegerText key.toList = false →
        ∃ x, readDouble? key = some x ∧ readOperand key = .ok (.float x)) := by
  refine ⟨?_, ?_, fun key => ⟨exists_readOperand_iff, ?_, fun hnumber hinteger => ?_⟩⟩
  · cases hread : read (texts pairs) with
    | ok f => exact .inl ⟨f, rfl⟩
    | error e =>
      obtain ⟨pair, hpair, f, hfault⟩ := fault_of_read hread
      obtain ⟨⟨key, text⟩, -, rfl⟩ := List.mem_map.mp hpair
      rcases (ends_readPair f key text).fault_cases hfault with htold | rfl
      · exact .inr (.inl ⟨e, rfl, htold⟩)
      · exact .inr (.inr rfl)
  · rw [read_texts, Results.foldlM_eq_error_iff]
    constructor
    · rintro ⟨front, ⟨key, text⟩, back, f, hpairs, hfront, hpair⟩
      rw [← read_texts] at hfront
      exact ⟨front, key, text, back, hpairs, ⟨f, hfront⟩,
        (ends_readPair f key text).eq_unreadable_iff.mp hpair⟩
    · rintro ⟨front, key, text, back, hpairs, ⟨f, hfront⟩, hoversized⟩
      rw [read_texts] at hfront
      exact ⟨front, (key, text), back, f, hpairs, hfront,
        (ends_readPair f key text).eq_unreadable_iff.mpr hoversized⟩
  · rw [readOperand_eq_error_iff]
    simp
  · obtain ⟨v, hv, hfloat⟩ := readOperand_of_not_isIntegerText hinteger
    obtain ⟨x, hx, rfl⟩ := hfloat hnumber
    exact ⟨x, hx, hv⟩

/-- Not every query string is read or rejected, and not every key of a row is read:
ten to the power of `maxDigits` is an integer with one digit too many. -/
theorem not_read_or_rejected :
    ¬(∀ pairs, (∃ f, read (texts pairs) = .ok f) ∨
        ∃ e, read (texts pairs) = .error e ∧ e.isRejection = true) ∧
      ¬∀ key, ∃ v, readOperand key = .ok v := by
  have hpower : ∀ k : Nat, ∃ n : Int, 10 ^ k ≤ n.natAbs := by
    intro k
    refine ⟨10 ^ k, ?_⟩
    rw [Int.natAbs_pow]
    exact Nat.le_refl _
  obtain ⟨n, hn⟩ := hpower maxDigits
  have hoversized : IsOversized (toString n) := isOversized_toString.mpr hn
  have hfault : read (texts [("limit", toString n)]) = .error unreadable := by
    have hpair : Ends (SomeOversized [Text.trim (toString n)])
        (readPair {} ("limit", .text (toString n))) := ends_readPair {} "limit" (toString n)
    rw [trim_toString, someOversized_singleton] at hpair
    rw [read_texts, List.foldlM_cons, hpair.eq_unreadable_iff.mpr hoversized]
    rfl
  refine ⟨fun hall => ?_, fun hall => exists_readOperand_iff.mp (hall _) hoversized⟩
  rcases hall [("limit", toString n)] with ⟨f, hread⟩ | ⟨e, hread, htold⟩
  · cases hfault.symm.trans hread
  · obtain rfl := Except.error.inj (hfault.symm.trans hread)
    cases htold

end Query
end TableGate

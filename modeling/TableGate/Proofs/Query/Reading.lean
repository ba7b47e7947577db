/-
# Conditions are read one by one

Pairs of a query string whose keys are not reserved are conditions: there is one
for each of them, in their order (`read_conditions`).

A pair asks wrongly (`AsksWrongly`) if the word in front of its operand is no
operator, or if `is` is asked for an operand it does not take. Either it is not
read at all, or the condition it is read as is not compiled in any dialect.

Key definitions: `Query.AsksWrongly`.
Key theorems: `Query.read_conditions`, `Query.not_compiled_of_asksWrongly`.
-/
import TableGate.Proofs.Except
import TableGate.Query.Compile

namespace TableGate
namespace Query

theorem readPair_condition (f : Filter) {pair : String × Value} (h : pair.1 ∉ reservedKeys) :
    readPair f pair = (do
      pure { f with conditions := f.conditions ++ [← readCondition pair.1 pair.2] }) := by
  simp only [reservedKeys, List.mem_cons, List.not_mem_nil, or_false, not_or] at h
  obtain ⟨hselect, horder, hlimit, hoffset⟩ := h
  rw [readPair, if_neg hselect, if_neg horder, if_neg hlimit, if_neg hoffset]

theorem foldlM_conditions : ∀ {pairs : List (String × Value)} {f g : Filter},
    (∀ pair ∈ pairs, pair.1 ∉ reservedKeys) → pairs.foldlM readPair f = .ok g →
    ∃ cs, List.Forall₂ (fun pair c => readCondition pair.1 pair.2 = .ok c) pairs cs ∧
      g.conditions = f.conditions ++ cs
  | [], f, g, _, h => by
    obtain rfl := Results.pure_eq_ok_iff.mp h
    exact ⟨[], .nil, (List.append_nil _).symm⟩
  | pair :: pairs, f, g, hkeys, h => by
    rw [List.foldlM_cons, readPair_condition f (hkeys pair (by simp))] at h
    obtain ⟨f', hf', h⟩ := Results.bind_eq_ok_iff.mp h
    obtain ⟨c, hc, hf'⟩ := Results.bind_eq_ok_iff.mp hf'
    obtain rfl := Results.pure_eq_ok_iff.mp hf'
    obtain ⟨cs, hcs, hg⟩ := foldlM_conditions (fun p hp => hkeys p (by simp [hp])) h
    exact ⟨c :: cs, .cons hc hcs, by rw [hg, List.append_assoc, List.singleton_append]⟩

/-- **There is one condition for each pair**, in the order of the pairs. -/
theorem read_conditions {pairs : List (String × Value)} {f : Filter}
    (hkeys : ∀ pair ∈ pairs, pair.1 ∉ reservedKeys) (h : read pairs = .ok f) :
    List.Forall₂ (fun pair c => readCondition pair.1 pair.2 = .ok c) pairs f.conditions := by
  obtain ⟨cs, hcs, hf⟩ := foldlM_conditions hkeys h
  rw [hf]
  exact hcs

theorem foldlM_of_conditions : ∀ {pairs : List (String × Value)} {cs : List Condition} (f : Filter),
    (∀ pair ∈ pairs, pair.1 ∉ reservedKeys) →
    List.Forall₂ (fun pair c => readCondition pair.1 pair.2 = .ok c) pairs cs →
    pairs.foldlM readPair f = .ok { f with conditions := f.conditions ++ cs }
  | [], [], f, _, _ => by rw [List.append_nil]; rfl
  | pair :: pairs, c :: cs, f, hkeys, h => by
    obtain ⟨hc, hcs⟩ := List.forall₂_cons.mp h
    have hrest := foldlM_of_conditions { f with conditions := f.conditions ++ [c] }
      (fun p hp => hkeys p (by simp [hp])) hcs
    rw [List.foldlM_cons, readPair_condition f (hkeys pair (by simp)), hc]
    rw [List.append_assoc, List.singleton_append] at hrest
    exact hrest

theorem read_of_conditions {pairs : List (String × Value)} {cs : List Condition}
    (hkeys : ∀ pair ∈ pairs, pair.1 ∉ reservedKeys)
    (h : List.Forall₂ (fun pair c => readCondition pair.1 pair.2 = .ok c) pairs cs) :
    read pairs = .ok { conditions := cs } :=
  foldlM_of_conditions {} hkeys h

/-! ### Pairs that ask wrongly -/

/-- The value names an operator that there is not, or an operand that `is` does
not take. A list of values asks for `in` and never asks wrongly. -/
inductive AsksWrongly (v : Value) : Prop where
  | operator {word operand : String} (single : ∀ items, v ≠ .list items ∧ v ≠ .tuple items)
    (cut : Text.cutFirst? '.' v.shown = some (word, operand)) (isWord : isOperatorText word = true)
    (unknown : Operator.ofWord? word = none)
  | isOperand {operand : String} (single : ∀ items, v ≠ .list items ∧ v ≠ .tuple items)
    (cut : Text.cutFirst? '.' v.shown = some ("is", operand))
    (unknown : operand ∉ ["null", "true", "false", notNullWord])

theorem readCondition_single {column : String} {v : Value}
    (h : ∀ items, v ≠ .list items ∧ v ≠ .tuple items) :
    readCondition column v = readConditionText column v.shown := by
  unfold readCondition
  split
  · exact absurd rfl (h _).1
  · exact absurd rfl (h _).2
  · rfl

theorem readOperand_cases {s : String} {v : Value} (hs : s ∉ ["null", "true", "false"])
    (h : readOperand s = .ok v) : (∃ n, v = .int n) ∨ (∃ x, v = .float x) ∨ v = .text s := by
  simp only [List.mem_cons, List.not_mem_nil, or_false, not_or] at hs
  obtain ⟨hnull, htrue, hfalse⟩ := hs
  rw [readOperand, if_neg hnull, if_neg htrue, if_neg hfalse] at h
  split at h
  · split at h
    · split at h
      · exact .inl ⟨_, (Except.ok.inj h).symm⟩
      · simp at h
    · exact .inr (.inl ⟨_, (Except.ok.inj h).symm⟩)
  · exact .inr (.inr (Except.ok.inj h).symm)

theorem operand_of_isTest {d : Dialect} {column : String} {v : Value} {s : Statement}
    (h : Compiler.isTest d column v = .ok s) :
    v = .null ∨ (∃ b, v = .bool b) ∨ v = .text notNullWord := by
  unfold Compiler.isTest at h
  split at h
  · exact .inl rfl
  · exact .inr (.inl ⟨_, rfl⟩)
  · split at h
    · rename_i hw
      exact .inr (.inr (congrArg Value.text hw))
    · simp at h
  · split at h <;> simp at h

/-- **What asks wrongly is not compiled.** -/
theorem not_compiled_of_asksWrongly {d : Dialect} {column : String} {v : Value} {c : Condition}
    (h : AsksWrongly v) (hc : readCondition column v = .ok c) (s : Statement) :
    Compiler.condition d c ≠ .ok s := by
  cases h with
  | operator single cut isWord unknown =>
    rw [readCondition_single single, readConditionText, cut] at hc
    simp [isWord, unknown] at hc
  | @isOperand operand single cut unknown =>
    have hword : isOperatorText "is" = true := by decide
    have his : Operator.ofWord? "is" = some .is := by decide
    have hnotNull : operand ≠ notNullWord := fun he => unknown (by simp [he])
    rw [readCondition_single single, readConditionText, cut] at hc
    simp only [hword, his, hnotNull, Bool.not_true, Bool.false_eq_true, if_false] at hc
    obtain ⟨w, hw, hc⟩ := Results.bind_eq_ok_iff.mp hc
    obtain rfl := Results.pure_eq_ok_iff.mp hc
    have hcases := readOperand_cases (fun hm => unknown (by simp_all)) hw
    intro hs
    simp only [Compiler.condition, his] at hs
    have htaken := operand_of_isTest hs
    rcases hcases with ⟨n, rfl⟩ | ⟨x, rfl⟩ | rfl
    · simp at htaken
    · simp at htaken
    · exact hnotNull (by simpa using htaken)

end Query
end TableGate

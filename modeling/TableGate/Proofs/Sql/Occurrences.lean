/-
# The search for placeholders finds each of them

A placeholder stands at the front of a text if its mark is there, one digit at least
behind it, and the end of a word behind the digits (`Sql.Stands`). That leaves no
choice: every digit is a character of a word, so the digits are all that there are
(`Sql.placeholderAt?_eq_some_iff`).

It occurs in a text if it stands at the front of some part at the end of that text. A
placeholder begins where every word has ended, with a character that is found nowhere
else in one. So none hides another, and the search from the left finds every one that
occurs, and no other (`Sql.mem_slotDigits_iff`).

A driver that binds by position wants the percent signs of the text doubled. It does
not matter that this is done before the search: no placeholder is made by it, and none
is lost (`Sql.lexPlaceholders_doubled`).

Key definitions: `Sql.Stands`, `Sql.Occurs`.
Key theorems: `Sql.placeholderAt?_eq_some_iff`, `Sql.mem_slotDigits_iff`,
`Sql.lexPlaceholders_doubled`, `Sql.replaced_doubled`.
-/
import TableGate.Proofs.Number.Digits
import TableGate.Proofs.Sql.Positional

namespace TableGate

namespace Text

/-! ### Digits in words -/

/-- The ten digits of each script are characters of a word. -/
theorem digitZeros_inRanges :
    ∀ z ∈ digitZeros, ∃ r ∈ alphanumericRanges, r.1 ≤ z ∧ z + 9 ≤ r.2 := by
  -- The tables are long, and a Boolean is computed in a fraction of the time.
  have hall : (digitZeros.all fun z => alphanumericRanges.any fun r =>
      r.1.ble z && (z + 9).ble r.2) = true := by
    decide +kernel
  intro z hz
  obtain ⟨r, hr, h⟩ := List.any_eq_true.mp (List.all_eq_true.mp hall z hz)
  obtain ⟨hfirst, hlast⟩ := Bool.and_eq_true_iff.mp h
  exact ⟨r, hr, Nat.le_of_ble_eq_true hfirst, Nat.le_of_ble_eq_true hlast⟩

theorem isWordChar_of_isDigit {c : Char} (h : isDigit c = true) : isWordChar c = true := by
  obtain ⟨d, hd⟩ := Option.isSome_iff_exists.mp h
  obtain ⟨z, hz, hvalue, hlt⟩ := Number.exists_zero_of_digitValue? hd
  unfold isWordChar
  rcases List.mem_cons.mp hz with rfl | hz
  · have hdigit : c.isDigit = true := by
      simp only [Char.isDigit, Bool.and_eq_true, decide_eq_true_eq, UInt32.le_iff_toNat_le]
      change 48 ≤ c.toNat ∧ c.toNat ≤ 57
      omega
    rw [if_pos (by omega), Char.isAlphanum, hdigit]
    simp
  · have hbeyond : ∀ z ∈ digitZeros, 128 ≤ z := by decide
    obtain ⟨r, hr, hfirst, hlast⟩ := digitZeros_inRanges z hz
    have hz128 := hbeyond z hz
    rw [if_neg (by omega)]
    refine List.any_eq_true.mpr ⟨r, hr, ?_⟩
    simp only [Bool.and_eq_true, decide_eq_true_eq]
    omega

end Text

namespace Sql

/-! ### A placeholder at the front -/

/-- A placeholder stands at the front of a text: its mark, its digits, and then the end
of a word. -/
structure Stands (cs digits after : List Char) : Prop where
  eq : cs = placeholderMark ++ digits ++ after
  ne_nil : digits ≠ []
  isDigit : ∀ c ∈ digits, Text.isDigit c = true
  ends : ∀ c ∈ after.head?, Text.isWordChar c = false

variable {cs digits after : List Char}

theorem endsWord_of_head? (h : ∀ c ∈ cs.head?, Text.isWordChar c = false) : EndsWord cs := by
  refine fun c hc => ⟨h c hc, Bool.eq_false_iff.mpr fun hdigit => ?_⟩
  have hword := Text.isWordChar_of_isDigit hdigit
  rw [h c hc] at hword
  cases hword

/-- **The placeholder at the front is the one that stands there.** -/
theorem placeholderAt?_eq_some_iff :
    placeholderAt? cs = some (digits, after) ↔ Stands cs digits after := by
  constructor
  · intro h
    have hcs := eq_of_placeholderAt? h
    unfold placeholderAt? at h
    split at h
    · dsimp only at h
      split at h
      · cases h
      · next hends =>
        obtain ⟨hdigits, hafter⟩ := Prod.mk.inj (Option.some.inj h)
        simp only [Bool.or_eq_true, not_or, Bool.not_eq_true] at hends
        refine ⟨hcs, ?_, ?_, ?_⟩
        · rw [← hdigits]
          exact fun hnil => by simp [hnil] at hends
        · rw [← hdigits]
          exact fun c hc => List.all_eq_true.mp (List.all_takeWhile) c hc
        · rw [← hafter]
          intro c hc
          simpa [Option.mem_def.mp hc] using hends.2
    · cases h
  · rintro ⟨rfl, hne, hdigit, hends⟩
    exact placeholderAt?_mark hne hdigit (endsWord_of_head? hends)

theorem Stands.endsWord (h : Stands cs digits after) : EndsWord cs := by
  rw [h.eq]
  refine endsWord_of_head? fun c hc => ?_
  obtain rfl : '@' = c := by simpa [placeholderMark] using hc
  decide

theorem Stands.lexPlaceholders_eq (h : Stands cs digits after) :
    lexPlaceholders cs = .slot digits :: lexPlaceholders after := by
  rw [h.eq]
  exact lexPlaceholders_mark h.ne_nil h.isDigit (endsWord_of_head? h.ends)

/-! ### Placeholders in a text -/

/-- A placeholder with the digits occurs in a text. -/
def Occurs (cs digits : List Char) : Prop :=
  ∃ front rest after, cs = front ++ rest ∧ Stands rest digits after

theorem Occurs.append (front : List Char) (h : Occurs cs digits) : Occurs (front ++ cs) digits := by
  obtain ⟨between, rest, after, rfl, hstands⟩ := h
  exact ⟨front ++ between, rest, after, (List.append_assoc _ _ _).symm, hstands⟩

theorem occurs_of_mem : ∀ cs : List Char, digits ∈ slotDigits (lexPlaceholders cs) →
    Occurs cs digits
  | [], h => by cases h
  | c :: cs, h => by
    rw [lexPlaceholders_cons] at h
    cases hfront : placeholderAt? (c :: cs) with
    | none =>
      rw [hfront] at h
      exact (occurs_of_mem cs h).append [c]
    | some found =>
      have hstands := placeholderAt?_eq_some_iff.mp hfront
      have hlt := length_after_lt hfront
      rw [hfront] at h
      rcases List.mem_cons.mp h with rfl | h
      · exact ⟨[], c :: cs, found.2, rfl, hstands⟩
      · rw [hstands.eq]
        exact (occurs_of_mem found.2 h).append _
termination_by cs => cs.length
decreasing_by
  · simp
  · exact hlt

/-- **The search finds the placeholders that occur, and no others.** -/
theorem mem_slotDigits_iff : digits ∈ slotDigits (lexPlaceholders cs) ↔ Occurs cs digits := by
  refine ⟨occurs_of_mem cs, ?_⟩
  rintro ⟨front, rest, after, rfl, hstands⟩
  rw [lexPlaceholders_append hstands.endsWord, hstands.lexPlaceholders_eq, slotDigits_append]
  exact List.mem_append_right _ List.mem_cons_self

theorem slotDigits_eq_nil_iff :
    slotDigits (lexPlaceholders cs) = [] ↔ ¬ ∃ digits, Occurs cs digits := by
  simp only [List.eq_nil_iff_forall_not_mem, mem_slotDigits_iff, not_exists]

theorem Occurs.length_le (h : Occurs cs digits) : digits.length ≤ cs.length := by
  obtain ⟨front, rest, after, rfl, hstands⟩ := h
  rw [hstands.eq]
  simp only [List.length_append]
  omega

/-! ### Percent signs that are doubled -/

/-- What is doubled in front of a text that holds no percent sign there. -/
theorem append_of_doubleChars {q : Char} {rest : List Char} : ∀ {front cs : List Char},
    q ∉ front → Text.doubleChars q cs = front ++ rest →
      ∃ rest', cs = front ++ rest' ∧ Text.doubleChars q rest' = rest
  | [], cs, _, h => ⟨cs, rfl, h⟩
  | f :: front, [], _, h => by cases h
  | f :: front, c :: cs, hq, h => by
    obtain ⟨hf, hfront⟩ := List.ne_and_not_mem_of_not_mem_cons hq
    rw [Text.doubleChars, List.cons_append] at h
    by_cases hc : c = q
    · rw [if_pos hc] at h
      exact absurd (List.cons.inj h).1 hf
    · rw [if_neg hc] at h
      obtain ⟨rfl, hcs⟩ := List.cons.inj h
      obtain ⟨rest', rfl, hrest⟩ := append_of_doubleChars hfront hcs
      exact ⟨rest', rfl, hrest⟩

theorem percent_notMem (h : ∀ c ∈ digits, Text.isDigit c = true) :
    '%' ∉ placeholderMark ++ digits := by
  intro hmem
  rcases List.mem_append.mp hmem with hmark | hdigits
  · exact absurd hmark (by decide)
  · exact absurd (h '%' hdigits) (by decide)

theorem ends_doubled_iff (cs : List Char) :
    (∀ c ∈ (Text.doubleChars '%' cs).head?, Text.isWordChar c = false) ↔
      ∀ c ∈ cs.head?, Text.isWordChar c = false := by
  cases cs with
  | nil => exact Iff.rfl
  | cons x cs =>
    rw [Text.doubleChars]
    split <;> simp_all

/-- **The doubling makes no placeholder and loses none.** -/
theorem placeholderAt?_doubled (cs : List Char) :
    placeholderAt? (Text.doubleChars '%' cs) =
      (placeholderAt? cs).map fun p => (p.1, Text.doubleChars '%' p.2) := by
  have hkept : ∀ {digits after : List Char}, Stands cs digits after →
      Stands (Text.doubleChars '%' cs) digits (Text.doubleChars '%' after) := by
    intro digits after h
    have heq : Text.doubleChars '%' cs =
        placeholderMark ++ digits ++ Text.doubleChars '%' after := by
      rw [h.eq, doubleChars_append, doubleChars_of_notMem (percent_notMem h.isDigit)]
    exact ⟨heq, h.ne_nil, h.isDigit, (ends_doubled_iff after).mpr h.ends⟩
  have hmade : ∀ {digits after : List Char}, Stands (Text.doubleChars '%' cs) digits after →
      ∃ after', Stands cs digits after' := by
    intro digits after h
    obtain ⟨after', hcs, rfl⟩ := append_of_doubleChars (percent_notMem h.isDigit) h.eq
    exact ⟨after', hcs, h.ne_nil, h.isDigit, (ends_doubled_iff after').mp h.ends⟩
  cases hcs : placeholderAt? cs with
  | some found => exact placeholderAt?_eq_some_iff.mpr (hkept (placeholderAt?_eq_some_iff.mp hcs))
  | none =>
    cases hdoubled : placeholderAt? (Text.doubleChars '%' cs) with
    | none => rfl
    | some found =>
      obtain ⟨after, hstands⟩ := hmade (placeholderAt?_eq_some_iff.mp hdoubled)
      rw [placeholderAt?_eq_some_iff.mpr hstands] at hcs
      cases hcs

/-- A character or a placeholder, with the character twice if it is a percent sign. -/
def Lexeme.doubled : Lexeme → List Lexeme
  | .char c => if c = '%' then [.char '%', .char '%'] else [.char c]
  | .slot digits => [.slot digits]

/-- The characters of a text that is searched, with `%s` in place of every
placeholder. -/
def Lexeme.replaced : Lexeme → List Char
  | .char c => [c]
  | .slot _ => ['%', 's']

/-- **What is found in a text whose percent signs are doubled** is what was found in
it, with the percent signs doubled. -/
theorem lexPlaceholders_doubled : ∀ cs : List Char,
    lexPlaceholders (Text.doubleChars '%' cs) = (lexPlaceholders cs).flatMap Lexeme.doubled
  | [] => rfl
  | c :: cs => by
    have hfront := placeholderAt?_doubled (c :: cs)
    by_cases hc : c = '%'
    · subst hc
      rw [Text.doubleChars, if_pos rfl, lexPlaceholders_cons_ne (by decide),
        lexPlaceholders_cons_ne (by decide), lexPlaceholders_cons_ne (by decide),
        lexPlaceholders_doubled cs]
      rfl
    · rw [Text.doubleChars, if_neg hc] at hfront ⊢
      rw [lexPlaceholders_cons, lexPlaceholders_cons, hfront]
      cases hp : placeholderAt? (c :: cs) with
      | none =>
        simp only [Option.map_none]
        rw [lexPlaceholders_doubled cs, List.flatMap_cons, Lexeme.doubled, if_neg hc]
        rfl
      | some found =>
        have hlt := length_after_lt hp
        simp only [Option.map_some]
        rw [lexPlaceholders_doubled found.2]
        rfl
termination_by cs => cs.length
decreasing_by
  · simp
  · simp
  · exact hlt

/-- **The percent signs can be doubled first and the placeholders replaced after
that**: it comes to what is done in one pass. -/
theorem replaced_doubled (cs : List Char) :
    (lexPlaceholders (Text.doubleChars '%' cs)).flatMap Lexeme.replaced =
      (lexPlaceholders cs).flatMap Lexeme.positional := by
  have hlexeme : (fun l : Lexeme => l.doubled.flatMap Lexeme.replaced) = Lexeme.positional := by
    funext l
    cases l with
    | slot digits => rfl
    | char c =>
      by_cases hc : c = '%' <;>
        simp [Lexeme.doubled, Lexeme.positional, Lexeme.replaced, hc]
  rw [lexPlaceholders_doubled, List.flatMap_assoc, hlexeme]

end Sql
end TableGate

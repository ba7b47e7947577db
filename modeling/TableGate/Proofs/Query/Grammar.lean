/-
# The grammar of conditions and of numbers

A condition names its operator by the word in front of the first point, if that is a
word: one letter from `a` to `z` or more. Any other text is compared as a whole. An
operand is null, a boolean or a number if all of its text is one, else it is the text.

What a word and a number are is said here without the readers (`IsSmallWord`,
`IsDecimal`). The readers take exactly these, and one thing more: a line feed that
stands behind a word or a number is passed over (`UpToLineFeed`). So a text whose front
is a word but for a line feed is refused for an operator that there is not, where the
grammar has it compared as a whole; and a number with a line feed behind it is a number
(`readCondition_grammar`).

Key definitions: `IsSmallWord`, `IsSign`, `AreDigits`, `IsScale`, `IsDecimal`,
`UpToLineFeed`.
Key theorems: `isOperatorText_iff`, `isNumberText_iff`, `readOperand_ne_text_iff`,
`readCondition_grammar`.
-/
import TableGate.Proofs.Query.Unread

namespace TableGate
namespace Query

/-! ### Words and numbers -/

/-- One letter from `a` to `z` or more. -/
def IsSmallWord (cs : List Char) : Prop := cs ≠ [] ∧ ∀ c ∈ cs, 'a' ≤ c ∧ c ≤ 'z'

/-- A plus, a minus, or nothing. -/
def IsSign (cs : List Char) : Prop := cs = [] ∨ cs = ['+'] ∨ cs = ['-']

/-- Decimal digits of any script, or nothing. -/
def AreDigits (cs : List Char) : Prop := ∀ c ∈ cs, Text.isDigit c = true

/-- An exponent, or nothing. -/
inductive IsScale : List Char → Prop where
  | none : IsScale []
  | marked {mark : Char} {sign digits : List Char} (hmark : mark = 'e' ∨ mark = 'E')
    (hsign : IsSign sign) (hdigits : AreDigits digits) (hsome : digits ≠ []) :
    IsScale (mark :: (sign ++ digits))

/-- A decimal number: a sign or none, digits with a point or without one, and an
exponent or none. There is a digit before the point or behind it. -/
inductive IsDecimal : List Char → Prop where
  | whole {sign whole scale : List Char} (hsign : IsSign sign) (hwhole : AreDigits whole)
    (hsome : whole ≠ []) (hscale : IsScale scale) : IsDecimal (sign ++ (whole ++ scale))
  | pointed {sign whole fraction scale : List Char} (hsign : IsSign sign)
    (hwhole : AreDigits whole) (hfraction : AreDigits fraction)
    (hsome : whole ≠ [] ∨ fraction ≠ []) (hscale : IsScale scale) :
    IsDecimal (sign ++ (whole ++ '.' :: (fraction ++ scale)))

/-- `p` holds of the characters, or of those in front of a line feed at the end. -/
def UpToLineFeed (p : List Char → Prop) (cs : List Char) : Prop :=
  p cs ∨ ∃ front, cs = front ++ ['\n'] ∧ p front

/-! ### The line feed -/

theorem dropLineFeed_concat (cs : List Char) : dropLineFeed (cs ++ ['\n']) = cs := by
  simp [dropLineFeed]

/-- What is said of the text without the line feed is said up to one. -/
theorem dropLineFeed_iff {p : List Char → Prop} (hp : ∀ cs, p cs → '\n' ∉ cs) {cs : List Char} :
    p (dropLineFeed cs) ↔ UpToLineFeed p cs := by
  constructor
  · intro h
    rcases dropLineFeed_cases cs with heq | heq
    · rw [← heq] at h
      exact .inl h
    · exact .inr ⟨_, heq, h⟩
  · rintro (h | ⟨front, rfl, h⟩)
    · rw [dropLineFeed_eq_self (hp cs h)]
      exact h
    · rw [dropLineFeed_concat]
      exact h

theorem isOperatorText_iff {s : String} :
    isOperatorText s = true ↔ UpToLineFeed IsSmallWord s.toList := by
  have hlineFeed : ∀ cs, IsSmallWord cs → '\n' ∉ cs := fun cs h hmem =>
    absurd (h.2 _ hmem).1 (by decide)
  rw [← dropLineFeed_iff hlineFeed]
  simp [isOperatorText, IsSmallWord]

/-! ### Numbers are recognised -/

theorem dropSign_append {sign body : List Char} (hsign : IsSign sign)
    (hbody : ∀ c ∈ body.head?, c ≠ '+' ∧ c ≠ '-') : dropSign (sign ++ body) = body := by
  rcases hsign with rfl | rfl | rfl
  · refine dropSign_eq_self ?_ ?_
    · rintro rest rfl
      exact (hbody '-' rfl).2 rfl
    · rintro rest rfl
      exact (hbody '+' rfl).1 rfl
  · rfl
  · rfl

theorem exists_sign (cs : List Char) : ∃ sign, IsSign sign ∧ cs = sign ++ dropSign cs := by
  obtain ⟨sign, hsign, hparts⟩ := dropSign_cases cs
  exact ⟨sign, by simpa [IsSign] using hsign, hparts⟩

theorem ne_sign_of_isDigit {c : Char} (h : Text.isDigit c = true) : c ≠ '+' ∧ c ≠ '-' := by
  constructor <;>
  · rintro rfl
    exact absurd h (by decide)

theorem AreDigits.head_ne_sign {digits rest : List Char} (h : AreDigits digits)
    (hrest : digits = [] → ∀ c ∈ rest.head?, c ≠ '+' ∧ c ≠ '-') :
    ∀ c ∈ (digits ++ rest).head?, c ≠ '+' ∧ c ≠ '-' := by
  cases digits with
  | nil => exact hrest rfl
  | cons d digits =>
    intro c hc
    obtain rfl : d = c := by simpa using hc
    exact ne_sign_of_isDigit (h d List.mem_cons_self)

theorem isExponent_iff {cs : List Char} : isExponent cs = true ↔ IsScale cs := by
  constructor
  · intro h
    rcases isExponent_cases h with rfl | ⟨mark, rest, rfl, hmark, hdigits⟩
    · exact .none
    · obtain ⟨hsome, hall⟩ := isDigits_iff.mp hdigits
      obtain ⟨sign, hsign, hrest⟩ := exists_sign rest
      rw [hrest]
      exact .marked (by simpa using hmark) hsign hall hsome
  · intro h
    cases h with
    | none => rfl
    | @marked mark sign digits hmark hsign hdigits hsome =>
      have hhead : ∀ c ∈ digits.head?, c ≠ '+' ∧ c ≠ '-' := fun c hc =>
        ne_sign_of_isDigit (hdigits c (List.mem_of_mem_head? hc))
      have hmarked : (mark == 'e' || mark == 'E') = true := by simpa using hmark
      rw [isExponent, hmarked, dropSign_append hsign hhead, Bool.true_and]
      exact isDigits_iff.mpr ⟨hsome, hdigits⟩

/-- An exponent neither goes on with the digits before it nor begins with a point. -/
theorem IsScale.head_ne {cs : List Char} (h : IsScale cs) :
    ∀ c ∈ cs.head?, Text.isDigit c = false ∧ c ≠ '.' := by
  intro c hc
  cases h with
  | none => cases hc
  | marked hmark =>
    obtain rfl : _ = c := by simpa using hc
    rcases hmark with rfl | rfl <;> decide

theorem isDecimal_of_isNumberText {cs : List Char} (h : isNumberText cs = true) :
    IsDecimal (dropLineFeed cs) := by
  obtain ⟨shape⟩ := numberShape_of_isNumberText h
  obtain ⟨sign, hsign, hparts⟩ := exists_sign (dropLineFeed cs)
  have hscale := isExponent_iff.mp shape.exponent_fits
  rw [hparts, shape.parts]
  rcases shape.pointed with hpoint | ⟨hpoint, hfraction⟩
  · rw [hpoint]
    change IsDecimal (sign ++ (shape.whole ++ '.' :: (shape.fraction ++ shape.exponent)))
    exact .pointed hsign shape.whole_digits shape.fraction_digits shape.some_digit hscale
  · have hwhole : shape.whole ≠ [] := by simpa [hfraction] using shape.some_digit
    rw [hpoint, hfraction]
    exact .whole hsign shape.whole_digits hwhole hscale

theorem isNumberText_of_isDecimal {cs : List Char} (h : IsDecimal (dropLineFeed cs)) :
    isNumberText cs = true := by
  generalize hcore : dropLineFeed cs = core at h
  unfold isNumberText
  rw [hcore]
  cases h with
  | @whole sign whole scale hsign hwhole hsome hscale =>
    have hbody : dropSign (sign ++ (whole ++ scale)) = whole ++ scale :=
      dropSign_append hsign (hwhole.head_ne_sign fun hnil => absurd hnil hsome)
    obtain ⟨htake, hdrop⟩ := Sql.takeWhile_append_of_all hwhole fun c hc => (hscale.head_ne c hc).1
    have hexponent : isExponent scale = true := isExponent_iff.mpr hscale
    simp only [hbody, htake, hdrop]
    split
    · next fraction => exact absurd rfl (hscale.head_ne '.' rfl).2
    · simp [hsome, hexponent]
  | @pointed sign whole fraction scale hsign hwhole hfraction hsome hscale =>
    have hpoint : ∀ c ∈ ('.' :: (fraction ++ scale)).head?, c ≠ '+' ∧ c ≠ '-' := by simp
    have hbody : dropSign (sign ++ (whole ++ '.' :: (fraction ++ scale))) =
        whole ++ '.' :: (fraction ++ scale) :=
      dropSign_append hsign (hwhole.head_ne_sign fun _ => hpoint)
    have hpointed : ∀ c ∈ ('.' :: (fraction ++ scale)).head?, Text.isDigit c = false := by
      simp only [List.head?_cons, Option.mem_some_iff]
      rintro _ rfl
      decide
    obtain ⟨htake, hdrop⟩ := Sql.takeWhile_append_of_all hwhole hpointed
    have hrest := (Sql.takeWhile_append_of_all hfraction fun c hc => (hscale.head_ne c hc).1).2
    have hexponent : isExponent scale = true := isExponent_iff.mpr hscale
    have hdigit : (!whole.isEmpty || (fraction ++ scale).head?.any Text.isDigit) = true := by
      cases fraction with
      | nil =>
        have hwhole : whole ≠ [] := hsome.resolve_right fun hne => hne rfl
        simp [hwhole]
      | cons d fraction => simp [hfraction d List.mem_cons_self]
    simp only [hbody, htake, hdrop, hrest, hdigit, hexponent, Bool.and_self]

theorem lineFeed_notMem_of_isDecimal {cs : List Char} (h : IsDecimal cs) : '\n' ∉ cs := by
  intro hmem
  have hnumeral : ∀ c ∈ dropLineFeed (cs ++ ['\n']), IsNumeral c := by
    have hnumber : isNumberText (cs ++ ['\n']) = true :=
      isNumberText_of_isDecimal (by rw [dropLineFeed_concat]; exact h)
    obtain ⟨shape⟩ := numberShape_of_isNumberText hnumber
    exact isNumeral_of_dropSign shape.isNumeral
  rw [dropLineFeed_concat] at hnumeral
  exact absurd (isMargin_of_isNumeral (hnumeral _ hmem)) (by decide)

/-- **The number texts are the decimal numbers**, up to a line feed. -/
theorem isNumberText_iff {cs : List Char} :
    isNumberText cs = true ↔ UpToLineFeed IsDecimal cs := by
  rw [← dropLineFeed_iff fun _ => lineFeed_notMem_of_isDecimal]
  exact ⟨isDecimal_of_isNumberText, isNumberText_of_isDecimal⟩

/-- **Something else than the text is read exactly if it is null, a boolean, or a
decimal number** up to a line feed. -/
theorem readOperand_ne_text_iff {s : String} :
    readOperand s ≠ .ok (.text s) ↔
      s = "null" ∨ s = "true" ∨ s = "false" ∨ UpToLineFeed IsDecimal s.toList := by
  rw [← isNumberText_iff]
  by_cases hnull : s = "null"
  · simp [readOperand, hnull]
  by_cases htrue : s = "true"
  · simp [readOperand, htrue]
  by_cases hfalse : s = "false"
  · simp [readOperand, hfalse]
  rw [readOperand, if_neg hnull, if_neg htrue, if_neg hfalse]
  simp only [hnull, htrue, hfalse, false_or]
  by_cases hnumber : isNumberText s.toList = true
  · simp only [hnumber, if_true, iff_true]
    split
    · split <;> simp
    · simp
  · simp [hnumber]

/-! ### Conditions -/

theorem ofWord?_eq_none_iff {word : String} :
    Operator.ofWord? word = none ↔ word ∉ Operator.words := by
  simp only [Operator.ofWord?, Operator.words, List.find?_eq_none, List.mem_map, beq_iff_eq,
    not_exists, not_and]

variable {column text word operand : String}

/-- A text whose front is no word is compared as a whole. -/
theorem readConditionText_whole (h : ∀ word operand,
      Text.cutFirst? '.' text = some (word, operand) → isOperatorText word = false) :
    readConditionText column text = (readOperand text).map (Condition.mk column "eq") ∧
      operandTexts text = [text] := by
  have hbind : ∀ r : Except Fault Value,
      (r >>= fun v => pure (Condition.mk column "eq" v)) = r.map (Condition.mk column "eq") := by
    rintro (e | v) <;> rfl
  rw [← hbind]
  cases hcut : Text.cutFirst? '.' text with
  | none => simp [readConditionText, operandTexts, hcut]
  | some parts => simp [readConditionText, operandTexts, hcut, h parts.1 parts.2 hcut]

theorem readConditionText_unsupported (hcut : Text.cutFirst? '.' text = some (word, operand))
    (hword : isOperatorText word = true) (hunknown : word ∉ Operator.words) :
    readConditionText column text = .error (Operator.unsupported word) := by
  simp [readConditionText, hcut, hword, ofWord?_eq_none_iff.mpr hunknown]

/-- An operator is kept, whatever its operand is read as; what is read is oversized or
it is read. -/
theorem readConditionText_operator (hcut : Text.cutFirst? '.' text = some (word, operand))
    (hword : isOperatorText word = true) (hknown : word ∈ Operator.words) :
    ∃ r : Except Fault Value, readConditionText column text = r.map (Condition.mk column word) ∧
      ∀ e, r = .error e ↔ e = unreadable ∧ SomeOversized (operandTexts text) := by
  have hmap : ∀ {α : Type} (r : Except Fault α) (f : α → Value),
      (r >>= fun a => pure (Condition.mk column word (f a))) =
        (r.map f).map (Condition.mk column word) := by
    rintro α (e | a) f <;> rfl
  have hfails : ∀ {α : Type} {r : Except Fault α} {f : α → Value} {e : Fault},
      r.map f = .error e ↔ r = .error e := by
    rintro α (e' | a) f e <;> simp [Except.map]
  obtain ⟨op, hop⟩ : ∃ op, Operator.ofWord? word = some op := by
    rw [← Option.isSome_iff_exists, ← Option.ne_none_iff_isSome, Ne, ofWord?_eq_none_iff, not_not]
    exact hknown
  have hspelled := Operator.word_of_ofWord? hop
  have hsingle : ∀ {e : Fault} {s : String},
      readOperand s = .error e ↔ e = unreadable ∧ SomeOversized [s] := by
    intro e s
    rw [readOperand_eq_error_iff, someOversized_singleton]
  simp only [readConditionText, operandTexts, hcut, hword, hop, Bool.not_true, Bool.false_eq_true,
    if_false]
  cases op with
  | isIn =>
    obtain rfl : "in" = word := hspelled
    exact ⟨_, hmap (readList operand) .list, fun e => hfails.trans readList_eq_error_iff⟩
  | is =>
    obtain rfl : "is" = word := hspelled
    by_cases hnull : operand = notNullWord
    · simp only [if_pos hnull]
      exact ⟨.ok (.text notNullWord), rfl, by simp [not_someOversized_nil]⟩
    · simp only [if_neg hnull]
      exact ⟨_, hmap (readOperand operand) id, fun e => hfails.trans hsingle⟩
  | _ => exact ⟨_, hmap (readOperand operand) id, fun e => hfails.trans hsingle⟩

/-- The word in front of the first point of a text, and the operand behind it. -/
def IsCut (text word operand : String) : Prop :=
  text = word ++ "." ++ operand ∧ '.' ∉ word.toList

theorem isCut_iff : IsCut text word operand ↔ Text.cutFirst? '.' text = some (word, operand) :=
  (Text.cutFirst?_eq_some_iff rfl).symm

/-- **What a text asks for.** If it has a point and the front is a word, or a word with a
line feed behind it, then the front has to be an operator: it is refused by its name if
it is none, and it is the operator of the condition if it is one. Any other text is
compared as a whole. The one operand that is not read is an oversized one.

Something else than the text is read exactly for null, a boolean, or a decimal number,
with or without a line feed behind it. -/
theorem readCondition_grammar (column text : String) :
    (∀ word operand, IsCut text word operand → UpToLineFeed IsSmallWord word.toList →
      (word ∉ Operator.words →
        readCondition column (.text text) = .error (Operator.unsupported word)) ∧
      (word ∈ Operator.words →
        (¬SomeOversized (operandTexts text) →
          ∃ v, readCondition column (.text text) = .ok ⟨column, word, v⟩) ∧
        (SomeOversized (operandTexts text) →
          readCondition column (.text text) = .error unreadable))) ∧
    ((¬∃ word operand, IsCut text word operand ∧ UpToLineFeed IsSmallWord word.toList) →
      (¬IsOversized text → ∃ v, readOperand text = .ok v ∧
        readCondition column (.text text) = .ok ⟨column, "eq", v⟩) ∧
      (IsOversized text → readCondition column (.text text) = .error unreadable)) ∧
    (readOperand text ≠ .ok (.text text) ↔ text = "null" ∨ text = "true" ∨ text = "false" ∨
      UpToLineFeed IsDecimal text.toList) := by
  have hsingle : readCondition column (.text text) = readConditionText column text := rfl
  rw [hsingle]
  refine ⟨fun word operand hcut hword => ?_, fun hnone => ?_, readOperand_ne_text_iff⟩
  · have hcut' := isCut_iff.mp hcut
    have hword' := isOperatorText_iff.mpr hword
    refine ⟨readConditionText_unsupported hcut' hword', fun hknown => ?_⟩
    obtain ⟨r, hread, hfails⟩ := readConditionText_operator hcut' hword' hknown
    rw [hread]
    cases r with
    | ok v =>
      refine ⟨fun _ => ⟨v, rfl⟩, fun hoversized => ?_⟩
      cases (hfails unreadable).mpr ⟨rfl, hoversized⟩
    | error e =>
      obtain ⟨rfl, hoversized⟩ := (hfails e).mp rfl
      exact ⟨fun h => absurd hoversized h, fun _ => rfl⟩
  · have hwhole : ∀ word operand, Text.cutFirst? '.' text = some (word, operand) →
        isOperatorText word = false := by
      intro word operand hcut
      by_contra hword
      rw [Bool.not_eq_false] at hword
      exact hnone ⟨word, operand, isCut_iff.mpr hcut, isOperatorText_iff.mp hword⟩
    rw [(readConditionText_whole hwhole).1]
    refine ⟨fun hfits => ?_, fun hoversized => ?_⟩
    · obtain ⟨v, hv⟩ := exists_readOperand_iff.mpr hfits
      exact ⟨v, hv, by rw [hv]; rfl⟩
    · rw [readOperand_eq_error_iff.mpr ⟨rfl, hoversized⟩]
      rfl

/-- The readers take more than words and numbers: a line feed behind a word makes it an
operator that there is not, and behind a number it is passed over. -/
theorem not_readCondition_strict :
    ¬(∀ column text, (¬∃ word operand, IsCut text word operand ∧ IsSmallWord word.toList) →
        ∃ v, readCondition column (.text text) = .ok ⟨column, "eq", v⟩) ∧
      ¬∀ text, readOperand text ≠ .ok (.text text) → text = "null" ∨ text = "true" ∨
        text = "false" ∨ IsDecimal text.toList := by
  constructor
  · intro hall
    have hcut : IsCut "eq\n.5" "eq\n" "5" := ⟨by decide, by decide⟩
    have hplain : ¬∃ word operand, IsCut "eq\n.5" word operand ∧ IsSmallWord word.toList := by
      rintro ⟨word, operand, h, -, hletters⟩
      have hword := (isCut_iff.mp h).symm.trans (isCut_iff.mp hcut)
      obtain ⟨rfl, -⟩ := Prod.mk.inj (Option.some.inj hword)
      exact absurd (hletters '\n' (by decide)).1 (by decide)
    have hrefused : readCondition "age" (.text "eq\n.5") = .error (Operator.unsupported "eq\n") :=
      ((readCondition_grammar "age" "eq\n.5").1 _ _ hcut
        (.inr ⟨"eq".toList, by decide, by decide, by decide⟩)).1 (by decide)
    obtain ⟨v, hv⟩ := hall "age" "eq\n.5" hplain
    cases hrefused.symm.trans hv
  · intro hall
    have hread : readOperand "5\n" = .ok (.int 5) := rfl
    rcases hall "5\n" (by rw [hread]; simp) with h | h | h | h
    · exact absurd h (by decide)
    · exact absurd h (by decide)
    · exact absurd h (by decide)
    · exact lineFeed_notMem_of_isDecimal h (by decide)

end Query
end TableGate

/-
# Texts that are numbers

A text is taken for a number if it has a sign or none, digits of any script with a
point or without one, and an exponent or none (`NumberShape`). Such a text is read
as a number in every case, but for an integer that has too many digits: it is no
integer (`readInt?_of_isIntegerText`), or it is some floating-point number
(`readDouble?_of_isNumberText`).

The plain spelling of an integer is an integer text, and read as that integer
unless it has too many digits (`readInt?_toString_eq`).

Key definitions: `Query.NumberShape`.
Key theorems: `Query.numberShape_of_isNumberText`, `Query.inner_of_isNumberText`,
`Query.readInt?_of_isIntegerText`, `Query.readDouble?_of_isNumberText`,
`Query.readInt?_toString_eq`.
-/
import Mathlib.Data.List.TakeWhile
import TableGate.Proofs.Number.Digits
import TableGate.Proofs.Sql.Scan
import TableGate.Proofs.Text.Cut
import TableGate.Query.Read

namespace TableGate
namespace Query

open Number

/-! ### Characters of numbers -/

/-- No digit is a blank: their ranges are apart. -/
theorem isBlank_of_isDigit {c : Char} (h : Text.isDigit c = true) : Text.isBlank c = false := by
  have hapart : ∀ z ∈ 48 :: Text.digitZeros, ∀ r ∈ Text.blankRanges, z + 9 < r.1 ∨ r.2 < z := by
    decide
  obtain ⟨d, hd⟩ := Option.isSome_iff_exists.mp h
  obtain ⟨z, hz, hvalue, hlt⟩ := Number.exists_zero_of_digitValue? hd
  refine List.any_eq_false.mpr fun r hr => ?_
  have hdisjoint := hapart z hz r hr
  simp only [Bool.and_eq_true, decide_eq_true_eq]
  omega

/-- A character that may stand in a number. -/
def IsNumeral (c : Char) : Prop := Text.isDigit c = true ∨ c ∈ ['+', '-', '.', 'e', 'E']

theorem isBlank_of_isNumeral {c : Char} (h : IsNumeral c) : Text.isBlank c = false := by
  rcases h with h | h
  · exact isBlank_of_isDigit h
  · simp only [List.mem_cons, List.not_mem_nil, or_false] at h
    rcases h with rfl | rfl | rfl | rfl | rfl <;> decide

theorem isMargin_of_isNumeral {c : Char} (h : IsNumeral c) : isMargin c = false := by
  simp [isMargin, isBlank_of_isNumeral h]

/-! ### The shape of a number -/

/-- The parts of a number without its sign, from left to right. -/
structure NumberShape (cs : List Char) where
  whole : List Char
  point : List Char
  fraction : List Char
  exponent : List Char
  parts : cs = whole ++ (point ++ (fraction ++ exponent))
  whole_digits : ∀ c ∈ whole, Text.isDigit c = true
  fraction_digits : ∀ c ∈ fraction, Text.isDigit c = true
  pointed : point = ['.'] ∨ point = [] ∧ fraction = []
  some_digit : whole ≠ [] ∨ fraction ≠ []
  exponent_fits : isExponent exponent = true

theorem numberShape_of_isNumberText {cs : List Char} (h : isNumberText cs = true) :
    Nonempty (NumberShape (dropSign (dropLineFeed cs))) := by
  have hparts := (List.takeWhile_append_dropWhile (p := Text.isDigit)
    (l := dropSign (dropLineFeed cs))).symm
  have hwhole : ∀ c ∈ (dropSign (dropLineFeed cs)).takeWhile Text.isDigit, Text.isDigit c = true :=
    fun c hc => List.mem_takeWhile_imp hc
  unfold isNumberText at h
  dsimp only at h
  split at h
  · next fraction hrest =>
    rw [Bool.and_eq_true] at h
    rw [hrest] at hparts
    refine ⟨⟨_, ['.'], fraction.takeWhile Text.isDigit, fraction.dropWhile Text.isDigit,
      ?_, hwhole, fun c hc => List.mem_takeWhile_imp hc, .inl rfl, ?_, h.2⟩⟩
    · rw [List.takeWhile_append_dropWhile]
      exact hparts
    · rcases Bool.or_eq_true_iff.mp h.1 with hw | hf
      · exact .inl (by simpa using hw)
      · refine .inr ?_
        cases fraction with
        | nil => cases hf
        | cons c fraction => simp [show Text.isDigit c = true from hf]
  · rw [Bool.and_eq_true] at h
    exact ⟨⟨_, [], [], _, hparts, hwhole, by simp, .inr ⟨rfl, rfl⟩, .inl (by simpa using h.1), h.2⟩⟩

theorem dropSign_cases (cs : List Char) :
    ∃ sign ∈ [[], ['+'], ['-']], cs = sign ++ dropSign cs := by
  unfold dropSign
  split
  · exact ⟨['+'], by simp, rfl⟩
  · exact ⟨['-'], by simp, rfl⟩
  · exact ⟨[], by simp, rfl⟩

theorem isDigits_iff {cs : List Char} :
    isDigits cs = true ↔ cs ≠ [] ∧ ∀ c ∈ cs, Text.isDigit c = true := by
  simp [isDigits]

theorem isExponent_cases {cs : List Char} (h : isExponent cs = true) :
    cs = [] ∨ ∃ mark rest, cs = mark :: rest ∧ mark ∈ ['e', 'E'] ∧
      isDigits (dropSign rest) = true := by
  cases cs with
  | nil => exact .inl rfl
  | cons mark rest =>
    simp only [isExponent, Bool.and_eq_true, Bool.or_eq_true, beq_iff_eq] at h
    exact .inr ⟨mark, rest, rfl, by simpa using h.1, h.2⟩

theorem isNumeral_of_dropSign {cs : List Char} (h : ∀ c ∈ dropSign cs, IsNumeral c) :
    ∀ c ∈ cs, IsNumeral c := by
  obtain ⟨sign, hsign, hparts⟩ := dropSign_cases cs
  rw [hparts]
  refine List.forall_mem_append.mpr ⟨?_, h⟩
  simp only [List.mem_cons, List.not_mem_nil, or_false] at hsign
  rcases hsign with rfl | rfl | rfl <;> simp [IsNumeral]

namespace NumberShape

variable {cs : List Char}

theorem ne_nil (shape : NumberShape cs) : cs ≠ [] := by
  rw [shape.parts]
  rcases shape.some_digit with h | h <;> simp [h]

theorem isNumeral (shape : NumberShape cs) : ∀ c ∈ cs, IsNumeral c := by
  have hpoint : ∀ c ∈ shape.point, IsNumeral c := by
    rcases shape.pointed with h | ⟨h, -⟩ <;> simp [h, IsNumeral]
  have hexponent : ∀ c ∈ shape.exponent, IsNumeral c := by
    rcases isExponent_cases shape.exponent_fits with h | ⟨mark, rest, h, hmark, hdigits⟩
    · simp [h]
    · rw [h]
      refine List.forall_mem_cons.mpr ⟨.inr ?_, isNumeral_of_dropSign fun c hc =>
        .inl ((isDigits_iff.mp hdigits).2 c hc)⟩
      simp only [List.mem_cons, List.not_mem_nil, or_false] at hmark
      rcases hmark with rfl | rfl <;> simp
  rw [shape.parts]
  simp only [List.forall_mem_append]
  exact ⟨fun c hc => .inl (shape.whole_digits c hc), hpoint,
    fun c hc => .inl (shape.fraction_digits c hc), hexponent⟩

end NumberShape

/-! ### Without the line feed -/

theorem dropLineFeed_cases (cs : List Char) :
    cs = dropLineFeed cs ∨ cs = dropLineFeed cs ++ ['\n'] := by
  unfold dropLineFeed
  split
  · next h =>
    obtain ⟨front, rfl⟩ := List.getLast?_eq_some_iff.mp h
    exact .inr (by simp)
  · exact .inl rfl

/-- Of a number nothing but a line feed at the end is passed over. -/
theorem inner_of_isNumberText {s : String} (h : isNumberText s.toList = true) :
    Number.inner s = dropLineFeed s.toList := by
  obtain ⟨shape⟩ := numberShape_of_isNumberText h
  have hmargin : ∀ c ∈ dropLineFeed s.toList, isMargin c = false :=
    fun c hc => isMargin_of_isNumeral (isNumeral_of_dropSign shape.isNumeral c hc)
  have hne : dropLineFeed s.toList ≠ [] := by
    intro hnil
    exact shape.ne_nil (by rw [hnil]; rfl)
  obtain ⟨back, hback, hchars⟩ : ∃ back : List Char, (∀ c ∈ back, isMargin c = true) ∧
      s.toList = dropLineFeed s.toList ++ back := by
    rcases dropLineFeed_cases s.toList with heq | heq
    · exact ⟨[], by simp, by simpa using heq⟩
    · exact ⟨['\n'], List.forall_mem_singleton.mpr (by decide), heq⟩
  have hstart : s.toList.dropWhile isMargin = s.toList := by
    rw [hchars]
    obtain ⟨c, cs, hcs⟩ := List.exists_cons_of_ne_nil hne
    rw [hcs, List.cons_append, List.dropWhile_cons_of_neg]
    rw [hmargin c (by rw [hcs]; exact List.mem_cons_self)]
    exact Bool.false_ne_true
  rw [Number.inner, hstart]
  calc Text.dropEndWhile isMargin s.toList
      = Text.dropEndWhile isMargin (dropLineFeed s.toList ++ back) := by rw [← hchars]
    _ = dropLineFeed s.toList :=
      Text.dropEndWhile_append hback fun c hc => hmargin c (List.mem_of_mem_getLast? hc)

/-! ### Integers -/

theorem isNumberText_of_isIntegerText {cs : List Char} (h : isIntegerText cs = true) :
    isNumberText cs = true := by
  obtain ⟨hne, hdigits⟩ := isDigits_iff.mp h
  have htake : (dropSign (dropLineFeed cs)).takeWhile Text.isDigit = dropSign (dropLineFeed cs) :=
    List.takeWhile_eq_self_iff.mpr hdigits
  have hdrop : (dropSign (dropLineFeed cs)).dropWhile Text.isDigit = [] :=
    List.dropWhile_eq_nil_iff.mpr hdigits
  simp [isNumberText, htake, hdrop, hne, isExponent]

theorem dropSign_eq_self {cs : List Char} (hminus : ∀ rest, cs = '-' :: rest → False)
    (hplus : ∀ rest, cs = '+' :: rest → False) : dropSign cs = cs := by
  unfold dropSign
  split
  · exact (hplus _ rfl).elim
  · exact (hminus _ rfl).elim
  · rfl

theorem readInt?_eq (s : String) :
    readInt? s = (readNatural? (dropSign (Number.inner s))).map
      fun n : Nat => if (Number.inner s).head? = some '-' then -(n : Int) else n := by
  unfold readInt?
  split
  · next cs heq =>
    rw [heq, show dropSign ('-' :: cs) = cs from rfl]
    cases readNatural? cs <;> rfl
  · next cs heq =>
    rw [heq]
    rfl
  · next cs hminus hplus =>
    have hhead : (Number.inner s).head? ≠ some '-' := by
      intro h
      obtain ⟨rest, hrest⟩ := List.head?_eq_some_iff.mp h
      exact hminus rest hrest
    simp only [hhead, if_false, dropSign_eq_self hminus hplus]
    rfl

/-- **An integer text is read as an integer unless it has too many digits.** -/
theorem readInt?_of_isIntegerText {s : String} (h : isIntegerText s.toList = true) :
    (readInt? s).isSome = decide ((dropSign (dropLineFeed s.toList)).length ≤ maxDigits) := by
  obtain ⟨hne, hdigits⟩ := isDigits_iff.mp h
  rw [readInt?_eq, Option.isSome_map, inner_of_isNumberText (isNumberText_of_isIntegerText h)]
  exact readNatural?_of_all_isDigit hne hdigits

theorem readInt?_eq_none_iff {s : String} (h : isIntegerText s.toList = true) :
    readInt? s = none ↔ maxDigits < (dropSign (dropLineFeed s.toList)).length := by
  rw [← Option.isNone_iff_eq_none, ← Option.not_isSome, readInt?_of_isIntegerText h]
  simp

theorem isDigits_toDigits (n : Nat) : isDigits (Nat.toDigits 10 n) = true :=
  isDigits_iff.mpr ⟨Nat.toDigits_ne_nil, fun _ hc => isDigit_of_mem_toDigits hc⟩

/-- Digits have no line feed behind them, and no sign in front. -/
theorem dropLineFeed_eq_self {cs : List Char} (h : '\n' ∉ cs) : dropLineFeed cs = cs := by
  rcases dropLineFeed_cases cs with heq | heq
  · exact heq.symm
  · rw [heq] at h
    simp at h

theorem toList_toString (n : Int) :
    (0 ≤ n ∧ (toString n).toList = Nat.toDigits 10 n.natAbs) ∨
      (n < 0 ∧ (toString n).toList = '-' :: Nat.toDigits 10 n.natAbs) := by
  change (0 ≤ n ∧ n.repr.toList = _) ∨ (n < 0 ∧ n.repr.toList = _)
  rw [Int.repr_eq_if]
  split
  · next h =>
    rw [Nat.toList_repr, show n.toNat = n.natAbs by omega]
    exact .inl ⟨h, rfl⟩
  · next h =>
    rw [String.toList_append, Nat.toList_repr, show (-n).toNat = n.natAbs by omega]
    exact .inr ⟨by omega, rfl⟩

theorem ne_of_mem_toDigits {n : Nat} {c d : Char} (hc : c ∈ Nat.toDigits 10 n)
    (hd : Text.isDigit d = false) : c ≠ d := by
  rintro rfl
  rw [isDigit_of_mem_toDigits hc] at hd
  cases hd

theorem dropSign_toDigits (n : Nat) : dropSign (Nat.toDigits 10 n) = Nat.toDigits 10 n := by
  have hne : ∀ c : Char, Text.isDigit c = false → ∀ rest, Nat.toDigits 10 n = c :: rest → False :=
    fun c hc rest heq =>
      ne_of_mem_toDigits (n := n) (by rw [heq]; exact List.mem_cons_self) hc rfl
  exact dropSign_eq_self (hne '-' (by decide)) (hne '+' (by decide))

theorem dropLineFeed_toString (n : Int) : dropLineFeed (toString n).toList = (toString n).toList := by
  have hlineFeed : '\n' ∉ Nat.toDigits 10 n.natAbs :=
    fun hmem => ne_of_mem_toDigits hmem (by decide) rfl
  refine dropLineFeed_eq_self ?_
  rcases toList_toString n with ⟨-, hchars⟩ | ⟨-, hchars⟩ <;>
  · rw [hchars]
    simpa using hlineFeed

theorem dropSign_toString (n : Int) :
    dropSign (toString n).toList = Nat.toDigits 10 n.natAbs := by
  rcases toList_toString n with ⟨-, hchars⟩ | ⟨-, hchars⟩
  · rw [hchars, dropSign_toDigits]
  · rw [hchars]
    rfl

theorem isIntegerText_toString (n : Int) : isIntegerText (toString n).toList = true := by
  rw [isIntegerText, dropLineFeed_toString, dropSign_toString]
  exact isDigits_toDigits _

/-- **The plain spelling of an integer is read as that integer** unless it has too
many digits. -/
theorem readInt?_toString_eq (n : Int) :
    readInt? (toString n) = if n.natAbs < 10 ^ maxDigits then some n else none := by
  rw [readInt?_eq, inner_of_isNumberText (isNumberText_of_isIntegerText (isIntegerText_toString n)),
    dropLineFeed_toString, dropSign_toString, readNatural?_toDigits]
  by_cases h : n.natAbs < 10 ^ maxDigits
  · rw [if_pos h, if_pos h, Option.map_some]
    refine congrArg some ?_
    rcases toList_toString n with ⟨hn, hchars⟩ | ⟨hn, hchars⟩
    · have hhead : (toString n).toList.head? ≠ some '-' := by
        intro hminus
        rw [hchars] at hminus
        exact ne_of_mem_toDigits (List.mem_of_mem_head? hminus) (d := '-') (by decide) rfl
      rw [if_neg hhead]
      omega
    · rw [hchars, List.head?_cons, if_pos rfl]
      omega
  · rw [if_neg h, if_neg h, Option.map_none]

/-- An integer is too long to be written down from that power of ten on. -/
theorem isTooLong_eq_false_iff {n : Int} :
    (Value.int n).isTooLong = false ↔ n.natAbs < 10 ^ maxDigits := by
  have hpow : ∀ k : Nat, Nat.pow 10 k = 10 ^ k := fun _ => rfl
  rw [Value.isTooLong, hpow, decide_eq_false_iff_not, ge_iff_le, Nat.not_le]

theorem readInt?_toString {n : Int} (h : n.natAbs < 10 ^ maxDigits) :
    isIntegerText (toString n).toList = true ∧ readInt? (toString n) = some n :=
  ⟨isIntegerText_toString n, by rw [readInt?_toString_eq, if_pos h]⟩

/-! ### Floating-point numbers -/

/-- A floating-point number is read from what stands behind its sign. -/
theorem readDouble?_eq (s : String) :
    ∃ negative, readDouble? s = readUnsignedDouble? negative (dropSign (Number.inner s)) := by
  unfold readDouble?
  split
  · next cs heq => exact ⟨true, by rw [heq]; rfl⟩
  · next cs heq => exact ⟨false, by rw [heq]; rfl⟩
  · next cs hminus hplus => exact ⟨false, by rw [dropSign_eq_self hminus hplus]⟩

theorem optionalDigits?_isSome {cs : List Char} (h : ∀ c ∈ cs, Text.isDigit c = true) :
    ∃ ds, optionalDigits? cs = some ds ∧ ds.length = cs.length := by
  unfold optionalDigits?
  cases cs with
  | nil => exact ⟨[], rfl, rfl⟩
  | cons c cs => exact groupedDigits?_of_all_isDigit (by simp) h

theorem readExponent?_isSome {cs : List Char} (h : isDigits (dropSign cs) = true) :
    (readExponent? cs).isSome = true := by
  obtain ⟨hne, hdigits⟩ := isDigits_iff.mp h
  obtain ⟨ds, hds, -⟩ := groupedDigits?_of_all_isDigit hne hdigits
  unfold readExponent?
  split
  · next cs => rw [show groupedDigits? cs = some ds from hds]; rfl
  · next cs => rw [show groupedDigits? cs = some ds from hds]; rfl
  · next hminus hplus =>
    rw [dropSign_eq_self hminus hplus] at hds
    rw [hds]
    rfl

namespace NumberShape

variable {cs : List Char}

theorem cut_at_mark (shape : NumberShape cs) :
    (cs.takeWhile fun c => !(c == 'e' || c == 'E')) =
        shape.whole ++ (shape.point ++ shape.fraction) ∧
      (cs.dropWhile fun c => !(c == 'e' || c == 'E')) = shape.exponent := by
  have hdigits : ∀ c, Text.isDigit c = true → (!(c == 'e' || c == 'E')) = true := by
    intro c hc
    have he : c ≠ 'e' := by rintro rfl; exact absurd hc (by decide)
    have hE : c ≠ 'E' := by rintro rfl; exact absurd hc (by decide)
    simp [he, hE]
  have hpoint : ∀ c ∈ shape.point, (!(c == 'e' || c == 'E')) = true := by
    rcases shape.pointed with h | ⟨h, -⟩ <;> simp [h]
  have hfront : ∀ c ∈ shape.whole ++ (shape.point ++ shape.fraction),
      (!(c == 'e' || c == 'E')) = true := by
    simp only [List.forall_mem_append]
    exact ⟨fun c hc => hdigits c (shape.whole_digits c hc), hpoint,
      fun c hc => hdigits c (shape.fraction_digits c hc)⟩
  have hcs : cs = (shape.whole ++ (shape.point ++ shape.fraction)) ++ shape.exponent := by
    simpa using shape.parts
  have hmark : ∀ c ∈ shape.exponent.head?, (!(c == 'e' || c == 'E')) = false := by
    intro c hc
    rcases isExponent_cases shape.exponent_fits with h | ⟨mark, rest, h, hmark, -⟩
    · rw [h] at hc
      cases hc
    · rw [h] at hc
      obtain rfl : mark = c := by simpa using hc
      simp only [List.mem_cons, List.not_mem_nil, or_false] at hmark
      rcases hmark with rfl | rfl <;> rfl
  have hcut := Sql.takeWhile_append_of_all hfront hmark
  rwa [← hcs] at hcut

theorem cut_at_point (shape : NumberShape cs) :
    (shape.whole ++ (shape.point ++ shape.fraction)).takeWhile (· != '.') = shape.whole ∧
      ((shape.whole ++ (shape.point ++ shape.fraction)).dropWhile (· != '.')).drop 1 =
        shape.fraction := by
  have hwhole : ∀ c ∈ shape.whole, (c != '.') = true := by
    intro c hc
    have hne : c ≠ '.' := by rintro rfl; exact absurd (shape.whole_digits _ hc) (by decide)
    simpa using hne
  have hmark : ∀ c ∈ (shape.point ++ shape.fraction).head?, (c != '.') = false := by
    intro c hc
    rcases shape.pointed with h | ⟨h, h'⟩
    · rw [h] at hc
      obtain rfl : '.' = c := by simpa using hc
      rfl
    · rw [h, h'] at hc
      cases hc
  have hcut := Sql.takeWhile_append_of_all hwhole hmark
  refine ⟨hcut.1, ?_⟩
  rw [hcut.2]
  rcases shape.pointed with h | ⟨h, h'⟩
  · rw [h]
    rfl
  · rw [h, h']
    rfl

theorem readUnsignedDouble?_isSome (shape : NumberShape cs) (negative : Bool) :
    (readUnsignedDouble? negative cs).isSome = true := by
  obtain ⟨ds, hds, hdsLength⟩ := optionalDigits?_isSome shape.whole_digits
  obtain ⟨es, hes, hesLength⟩ := optionalDigits?_isSome shape.fraction_digits
  have hsome : ¬(ds = [] ∧ es = []) := by
    rintro ⟨rfl, rfl⟩
    rcases shape.some_digit with h | h
    · exact h (List.length_eq_zero_iff.mp hdsLength.symm)
    · exact h (List.length_eq_zero_iff.mp hesLength.symm)
  unfold readUnsignedDouble?
  dsimp only
  rw [shape.cut_at_mark.1, shape.cut_at_mark.2, shape.cut_at_point.1, shape.cut_at_point.2, hds,
    hes]
  split
  · rfl
  · split
    · rfl
    · rcases isExponent_cases shape.exponent_fits with h | ⟨mark, rest, h, -, hdigits⟩
      · rw [h]
        simp [hsome]
      · obtain ⟨k, hk⟩ := Option.isSome_iff_exists.mp (readExponent?_isSome hdigits)
        rw [h]
        simp [hsome, hk]

end NumberShape

/-- **A number text is read as a floating-point number.** -/
theorem readDouble?_of_isNumberText {s : String} (h : isNumberText s.toList = true) :
    ∃ x, readDouble? s = some x := by
  obtain ⟨shape⟩ := numberShape_of_isNumberText h
  obtain ⟨negative, hread⟩ := readDouble?_eq s
  rw [hread, inner_of_isNumberText h]
  exact Option.isSome_iff_exists.mp (shape.readUnsignedDouble?_isSome negative)

end Query
end TableGate

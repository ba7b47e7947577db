/-
# Numbers are read back from their digits

A number is written in ASCII digits without zeros in front, and each of the
readers of digits gives the number back: `Decimal.natural?` always, and
`Number.readNatural?` as long as there are at most `maxDigits` of them.

Digits of any script, whatever stands in front, are read as well; what is read is
smaller than the power of ten that has one digit more than may be read.

Key theorems: `natural?_toDigits`, `readNatural?_toDigits`,
`readNatural?_of_all_isDigit`, `readInt?_natAbs_lt`.
-/
import Mathlib.Algebra.Ring.Nat
import TableGate.Number.Read

namespace TableGate
namespace Number

theorem isAsciiDigit_of_mem_toDigits {n : Nat} {c : Char} (h : c ∈ Nat.toDigits 10 n) :
    Text.isAsciiDigit c = true := by
  have hc := Nat.isDigit_of_mem_toDigits (by decide) (by decide) h
  simp only [Char.isDigit, Bool.and_eq_true, decide_eq_true_eq, UInt32.le_iff_toNat_le] at hc
  change 48 ≤ c.toNat ∧ c.toNat ≤ 57 at hc
  simp [Text.isAsciiDigit, hc]

theorem digitValue?_of_isAsciiDigit {c : Char} (h : Text.isAsciiDigit c = true) :
    Text.digitValue? c = some (c.toNat - 48) := by
  simp [Text.digitValue?, h]

theorem isDigit_of_mem_toDigits {n : Nat} {c : Char} (h : c ∈ Nat.toDigits 10 n) :
    Text.isDigit c = true := by
  simp [Text.isDigit, digitValue?_of_isAsciiDigit (isAsciiDigit_of_mem_toDigits h)]

theorem mapM_digitValue? : ∀ cs : List Char, (∀ c ∈ cs, Text.isAsciiDigit c = true) →
    cs.mapM Text.digitValue? = some (cs.map fun c => c.toNat - 48)
  | [], _ => rfl
  | c :: cs, h => by
    rw [List.mapM_cons, digitValue?_of_isAsciiDigit (h c (by simp)),
      mapM_digitValue? cs fun x hx => h x (by simp [hx])]
    rfl

theorem ofDigitValues_toDigits (n : Nat) :
    Decimal.ofDigitValues ((Nat.toDigits 10 n).map fun c => c.toNat - 48) = n := by
  have h := Nat.ofDigitChars_ten_toDigits (n := n)
  simpa [Decimal.ofDigitValues, List.foldl_map, Nat.ofDigitChars, Nat.mul_comm] using h

theorem natural?_toDigits (n : Nat) : Decimal.natural? (Nat.toDigits 10 n) = some n := by
  rw [Decimal.natural?, Decimal.digitValues?,
    mapM_digitValue? _ fun c hc => isAsciiDigit_of_mem_toDigits hc]
  simp [ofDigitValues_toDigits]

theorem groupedDigits?_of_isAsciiDigit : ∀ cs : List Char, cs ≠ [] →
    (∀ c ∈ cs, Text.isAsciiDigit c = true) →
    groupedDigits? cs = some (cs.map fun c => c.toNat - 48)
  | [], h, _ => absurd rfl h
  | [c], _, h => by simp [groupedDigits?, digitValue?_of_isAsciiDigit (h c (by simp))]
  | c :: d :: cs, _, h => by
    have hd : d ≠ '_' := by
      rintro rfl
      exact absurd (h '_' (by simp)) (by decide)
    have ih := groupedDigits?_of_isAsciiDigit (d :: cs) (by simp) fun x hx => h x (by simp [hx])
    rw [groupedDigits?.eq_4 _ _ (by simp) (by simpa using hd)]
    simp [digitValue?_of_isAsciiDigit (h c (by simp)), ih]

/-- A number is read back from its digits unless there are too many of them. -/
theorem readNatural?_toDigits (n : Nat) :
    readNatural? (Nat.toDigits 10 n) = if n < 10 ^ maxDigits then some n else none := by
  have hlen : (Nat.toDigits 10 n).length ≤ maxDigits ↔ n < 10 ^ maxDigits :=
    Nat.length_toDigits_le_iff (by decide) (by decide)
  rw [readNatural?, groupedDigits?_of_isAsciiDigit _ Nat.toDigits_ne_nil
    fun c hc => isAsciiDigit_of_mem_toDigits hc]
  by_cases h : n < 10 ^ maxDigits
  · simp only [bind, Option.bind, List.length_map, ofDigitValues_toDigits, if_pos h]
    rw [if_neg (Nat.not_lt.mpr (hlen.mpr h))]
  · simp only [bind, Option.bind, List.length_map, if_neg h]
    rw [if_pos (Nat.lt_of_not_le fun hl => h (hlen.mp hl))]

/-! ### Digits of any script -/

/-- A digit is one of the ten behind the zero of its script. -/
theorem exists_zero_of_digitValue? {c : Char} {d : Nat} (h : Text.digitValue? c = some d) :
    ∃ z ∈ 48 :: Text.digitZeros, c.toNat = z + d ∧ d < 10 := by
  unfold Text.digitValue? at h
  split at h
  · next hascii =>
    obtain rfl := Option.some.inj h
    simp only [Text.isAsciiDigit, Bool.and_eq_true, decide_eq_true_eq] at hascii
    exact ⟨48, List.mem_cons_self, by omega, by omega⟩
  · split at h
    · cases h
    · obtain ⟨z, hz, rfl⟩ := Option.map_eq_some_iff.mp h
      have hrange := List.find?_some hz
      simp only [Bool.and_eq_true, decide_eq_true_eq] at hrange
      exact ⟨z, List.mem_cons_of_mem _ (List.mem_of_find?_eq_some hz), by omega, by omega⟩

theorem digitValue?_lt {c : Char} {d : Nat} (h : Text.digitValue? c = some d) : d < 10 := by
  obtain ⟨z, -, -, hlt⟩ := exists_zero_of_digitValue? h
  exact hlt

theorem groupedDigits?_lt {cs : List Char} : ∀ {ds : List Nat}, groupedDigits? cs = some ds →
    ∀ d ∈ ds, d < 10 := by
  have hstep : ∀ {c : Char} {rest : List Char} {ds : List Nat},
      (∀ {ds : List Nat}, groupedDigits? rest = some ds → ∀ d ∈ ds, d < 10) →
      (do pure ((← Text.digitValue? c) :: (← groupedDigits? rest))) = some ds →
      ∀ d ∈ ds, d < 10 := by
    intro c rest ds ih h
    obtain ⟨d, hd, h⟩ := Option.bind_eq_some_iff.mp h
    obtain ⟨ds', hds, h⟩ := Option.bind_eq_some_iff.mp h
    obtain rfl := Option.some.inj h
    exact List.forall_mem_cons.mpr ⟨digitValue?_lt hd, ih hds⟩
  fun_induction groupedDigits? cs with
  | case1 => intro ds h; cases h
  | case2 c =>
    intro ds h
    obtain ⟨d, hd, rfl⟩ := Option.map_eq_some_iff.mp h
    simpa using digitValue?_lt hd
  | case3 c rest ih => exact fun h => hstep ih h
  | case4 c rest _ _ ih => exact fun h => hstep ih h

/-- A row of `k` digits stands for less than the power of ten with exponent `k`. -/
theorem ofDigitValues_lt {ds : List Nat} (h : ∀ d ∈ ds, d < 10) :
    Decimal.ofDigitValues ds < 10 ^ ds.length := by
  have hfold : ∀ (ds : List Nat) (n : Nat), (∀ d ∈ ds, d < 10) →
      ds.foldl (fun n d => n * 10 + d) n < (n + 1) * 10 ^ ds.length := by
    intro ds
    induction ds with
    | nil => intro n _; simp
    | cons d ds ih =>
      intro n h
      have hd : d < 10 := h d List.mem_cons_self
      calc ds.foldl (fun n d => n * 10 + d) (n * 10 + d)
          < (n * 10 + d + 1) * 10 ^ ds.length := ih _ fun e he => h e (List.mem_cons_of_mem _ he)
        _ ≤ ((n + 1) * 10) * 10 ^ ds.length := Nat.mul_le_mul_right _ (by omega)
        _ = (n + 1) * 10 ^ (d :: ds).length := by
          rw [List.length_cons, Nat.pow_succ, Nat.mul_assoc, Nat.mul_comm 10]
  simpa [Decimal.ofDigitValues] using hfold ds 0 h

theorem readNatural?_lt {cs : List Char} {n : Nat} (h : readNatural? cs = some n) :
    n < 10 ^ maxDigits := by
  obtain ⟨ds, hds, h⟩ := Option.bind_eq_some_iff.mp h
  split at h
  · cases h
  · next hlen =>
    obtain rfl := Option.some.inj h
    exact Nat.lt_of_lt_of_le (ofDigitValues_lt (groupedDigits?_lt hds))
      (Nat.pow_le_pow_right (by decide) (Nat.not_lt.mp hlen))

/-- **An integer that is read is not too long.** -/
theorem readInt?_natAbs_lt {s : String} {n : Int} (h : readInt? s = some n) :
    n.natAbs < 10 ^ maxDigits := by
  unfold readInt? at h
  split at h
  · obtain ⟨m, hm, rfl⟩ := Option.map_eq_some_iff.mp h
    obtain ⟨k, hk, hkm⟩ := Option.bind_eq_some_iff.mp hm
    obtain rfl := Option.some.inj hkm
    simpa using readNatural?_lt hk
  · obtain ⟨k, hk, rfl⟩ := Option.map_eq_some_iff.mp h
    simpa using readNatural?_lt hk
  · obtain ⟨k, hk, rfl⟩ := Option.map_eq_some_iff.mp h
    simpa using readNatural?_lt hk

theorem groupedDigits?_of_all_isDigit : ∀ {cs : List Char}, cs ≠ [] →
    (∀ c ∈ cs, Text.isDigit c = true) → ∃ ds, groupedDigits? cs = some ds ∧ ds.length = cs.length
  | [], h, _ => absurd rfl h
  | [c], _, h => by
    obtain ⟨d, hd⟩ := Option.isSome_iff_exists.mp (h c (by simp))
    exact ⟨[d], by simp [groupedDigits?, hd], rfl⟩
  | c :: e :: cs, _, h => by
    obtain ⟨d, hd⟩ := Option.isSome_iff_exists.mp (h c (by simp))
    have he : e ≠ '_' := by
      rintro rfl
      exact absurd (h '_' (by simp)) (by decide)
    have htail : ∀ x ∈ e :: cs, Text.isDigit x = true :=
      fun x hx => h x (List.mem_cons_of_mem _ hx)
    obtain ⟨ds, hds, hlen⟩ := groupedDigits?_of_all_isDigit (List.cons_ne_nil e cs) htail
    refine ⟨d :: ds, ?_, by simp [hlen]⟩
    rw [groupedDigits?.eq_4 _ _ (by simp) (by simpa using he)]
    simp [hd, hds]

theorem readNatural?_of_all_isDigit {cs : List Char} (hne : cs ≠ [])
    (h : ∀ c ∈ cs, Text.isDigit c = true) :
    (readNatural? cs).isSome = decide (cs.length ≤ maxDigits) := by
  obtain ⟨ds, hds, hlen⟩ := groupedDigits?_of_all_isDigit hne h
  rw [readNatural?, hds, ← hlen]
  by_cases hle : ds.length ≤ maxDigits
  · simp [hle, Nat.not_lt.mpr hle]
  · simp [hle, Nat.lt_of_not_le hle]

end Number
end TableGate

/-
# The text of a floating-point number is a decimal

A decimal is read from every text in the shape of a number whose parts are not
excessively long (`Decimal.read?_of_shape`). The text of a floating-point number has that
shape: the search for its digits ends within a few grids of the leading one, so there are
at most 1500 digits, and their scale is between -400 and 400 (`Double.shortestDigits_bounds`).
The bounds are far from sharp; they have to be below those of a decimal only.

So every floating-point number, the special values included, is a decimal once more
(`Double.read?_text`).

Key theorems: `Decimal.read?_of_shape`, `Double.shortestDigits_bounds`,
`Double.exists_shape_layOut`, `Double.read?_text`.
-/
import TableGate.Number.Shortest
import TableGate.Proofs.Query.Grammar

namespace TableGate
namespace Decimal

open Query

variable {cs : List Char}

/-! ### Reading what has the shape of a number -/

theorem digitValues?_of_isDigit : ∀ {cs : List Char}, (∀ c ∈ cs, Text.isDigit c = true) →
    ∃ ds, digitValues? cs = some ds ∧ ds.length = cs.length ∧ ∀ d ∈ ds, d < 10
  | [], _ => ⟨[], rfl, rfl, by simp⟩
  | c :: cs, h => by
    obtain ⟨hc, hcs⟩ := List.forall_mem_cons.mp h
    obtain ⟨d, hd⟩ := Option.isSome_iff_exists.mp hc
    obtain ⟨ds, hds, hlength, hlt⟩ := digitValues?_of_isDigit hcs
    refine ⟨d :: ds, ?_, by simp [hlength], List.forall_mem_cons.mpr ⟨Number.digitValue?_lt hd, hlt⟩⟩
    rw [digitValues?] at hds ⊢
    simp [List.mapM_cons, hd, hds]

theorem natural?_of_isDigit (h : ∀ c ∈ cs, Text.isDigit c = true) :
    ∃ n, natural? cs = some n ∧ n < 10 ^ cs.length := by
  obtain ⟨ds, hds, hlength, hlt⟩ := digitValues?_of_isDigit h
  refine ⟨ofDigitValues ds, by rw [natural?, hds]; rfl, ?_⟩
  rw [← hlength]
  exact Number.ofDigitValues_lt hlt

theorem readExponent?_of_isDigits (h : isDigits (dropSign cs) = true) :
    ∃ e, readExponent? cs = some e ∧ e.natAbs < 10 ^ cs.length := by
  obtain ⟨hne, hdigits⟩ := isDigits_iff.mp h
  obtain ⟨n, hn, hlt⟩ := natural?_of_isDigit hdigits
  have hempty : (dropSign cs).isEmpty = false := by simpa using hne
  unfold readExponent?
  split
  · next ds =>
    rw [show dropSign ('+' :: ds) = ds from rfl] at hempty hn hlt
    have hle : 10 ^ ds.length ≤ 10 ^ ('+' :: ds).length :=
      Nat.pow_le_pow_right (by decide) (Nat.le_succ _)
    exact ⟨n, by simp [hempty, hn], Nat.lt_of_lt_of_le hlt hle⟩
  · next ds =>
    rw [show dropSign ('-' :: ds) = ds from rfl] at hempty hn hlt
    have hle : 10 ^ ds.length ≤ 10 ^ ('-' :: ds).length :=
      Nat.pow_le_pow_right (by decide) (Nat.le_succ _)
    exact ⟨-n, by simp [hempty, hn], by simpa using Nat.lt_of_lt_of_le hlt hle⟩
  · next hplus hminus =>
    rw [dropSign_eq_self hminus hplus] at hempty hn hlt
    exact ⟨n, by simp [hempty, hn], hlt⟩

/-- The parts of a number are short enough for a decimal. -/
def Fits (shape : NumberShape cs) : Prop :=
  shape.whole.length + shape.fraction.length ≤ 10 ^ 17 ∧ shape.exponent.length ≤ 17

theorem readFinite?_of_shape (shape : NumberShape cs) (hfits : Fits shape) (negative : Bool) :
    ∃ d, readFinite? negative cs = some d := by
  obtain ⟨hlength, hshort⟩ := hfits
  have hdigits : ∀ c ∈ shape.whole ++ shape.fraction, Text.isDigit c = true :=
    List.forall_mem_append.mpr ⟨shape.whole_digits, shape.fraction_digits⟩
  obtain ⟨n, hn, hlt⟩ := natural?_of_isDigit hdigits
  have hpos : 0 < (shape.whole ++ shape.fraction).length := by
    rw [List.length_pos_iff]
    rcases shape.some_digit with h | h <;> simp [h]
  have hcount : (Nat.toDigits 10 n).length ≤ shape.whole.length + shape.fraction.length := by
    rw [← List.length_append]
    exact (Nat.length_toDigits_le_iff (by decide) hpos).mpr hlt
  have hsome : (shape.whole.isEmpty && shape.fraction.isEmpty) = false := by
    rcases shape.some_digit with h | h <;> simp [h]
  have hrange : ∀ e : Int, e.natAbs < 10 ^ 16 →
      ¬(e - shape.fraction.length + ((Nat.toDigits 10 n).length : Int) - 1 > maxExponent ∨
        e - shape.fraction.length < minLastExponent) := by
    intro e he
    unfold maxExponent minLastExponent
    omega
  unfold readFinite?
  dsimp only
  rw [shape.cut_at_mark.1, shape.cut_at_mark.2, shape.cut_at_point.1, shape.cut_at_point.2]
  rcases isExponent_cases shape.exponent_fits with h | ⟨mark, rest, h, -, hexponent⟩
  · have hrange := hrange 0 (by decide)
    rw [h]
    simp only [hn, hsome, Option.bind_eq_bind, Option.bind_some, Bool.false_eq_true, if_false,
      if_neg hrange]
    exact ⟨_, rfl⟩
  · obtain ⟨e, he, hlt⟩ := readExponent?_of_isDigits hexponent
    have hle : 10 ^ rest.length ≤ 10 ^ 16 := by
      rw [h, List.length_cons] at hshort
      exact Nat.pow_le_pow_right (by decide) (by omega)
    have hrange := hrange e (Nat.lt_of_lt_of_le hlt hle)
    rw [h]
    simp only [he, hn, hsome, Option.bind_eq_bind, Option.bind_some, Bool.false_eq_true, if_false,
      if_neg hrange]
    exact ⟨_, rfl⟩

theorem head_of_shape (shape : NumberShape cs) :
    ∃ c rest, cs = c :: rest ∧ (Text.isDigit c = true ∨ c = '.') := by
  have hparts := shape.parts
  cases hwhole : shape.whole with
  | cons c whole =>
    rw [hwhole] at hparts
    exact ⟨c, _, hparts, .inl (shape.whole_digits c (by simp [hwhole]))⟩
  | nil =>
    rw [hwhole] at hparts
    rcases shape.pointed with h | ⟨-, h⟩
    · rw [h] at hparts
      exact ⟨'.', _, hparts, .inr rfl⟩
    · rcases shape.some_digit with hsome | hsome
      · exact absurd hwhole hsome
      · exact absurd h hsome

theorem toLower_eq_self {c : Char} (h : Text.isDigit c = true ∨ c = '.') : c.toLower = c := by
  have hcapital : ¬(65 ≤ c.toNat ∧ c.toNat ≤ 90) := by
    rcases h with h | rfl
    · have hapart : ∀ z ∈ 48 :: Text.digitZeros, z + 9 < 65 ∨ 90 < z := by decide
      obtain ⟨d, hd⟩ := Option.isSome_iff_exists.mp h
      obtain ⟨z, hz, hvalue, hlt⟩ := Number.exists_zero_of_digitValue? hd
      have hdisjoint := hapart z hz
      omega
    · decide
  have hval : ¬(c.val ≥ 'A'.val ∧ c.val ≤ 'Z'.val) := by
    rw [ge_iff_le, UInt32.le_iff_toNat_le, UInt32.le_iff_toNat_le]
    exact hcapital
  exact dif_neg hval

theorem readUnsigned?_of_shape (shape : NumberShape cs) (hfits : Fits shape) (negative : Bool) :
    ∃ d, readUnsigned? negative cs = some d := by
  obtain ⟨d, hd⟩ := readFinite?_of_shape shape hfits negative
  obtain ⟨c, rest, rfl, hc⟩ := head_of_shape shape
  have hi : c ≠ 'i' := by rintro rfl; exact absurd hc (by decide)
  have hn : c ≠ 'n' := by rintro rfl; exact absurd hc (by decide)
  have hs : c ≠ 's' := by rintro rfl; exact absurd hc (by decide)
  refine ⟨d, ?_⟩
  rw [readUnsigned?, List.map_cons, toLower_eq_self hc, hd]
  simp [hi, hn.symm, hs.symm]

theorem read?_eq {s : String} (h : ∀ c ∈ s.toList, IsNumeral c) :
    ∃ negative, read? s = readUnsigned? negative (dropSign s.toList) := by
  have hblank : ∀ c ∈ s.toList, Text.isBlank c = false := fun c hc => isBlank_of_isNumeral (h c hc)
  have hscore : ∀ c ∈ s.toList, (c != '_') = true := by
    intro c hc
    have hne : c ≠ '_' := by
      rintro rfl
      exact absurd (h _ hc) (by unfold IsNumeral; decide)
    simpa using hne
  have hinner : (Text.trimChars s.toList).filter (· != '_') = s.toList := by
    rw [Text.trimChars, Text.dropWhile_eq_self fun c hc => hblank c (List.mem_of_mem_head? hc),
      Text.dropEndWhile_eq_self fun c hc => hblank c (List.mem_of_getLast? hc),
      List.filter_eq_self.mpr hscore]
  unfold read?
  rw [hinner]
  split
  · next cs heq => exact ⟨true, by rw [heq]; rfl⟩
  · next cs heq => exact ⟨false, by rw [heq]; rfl⟩
  · next cs hminus hplus => exact ⟨false, by rw [dropSign_eq_self hminus hplus]⟩

/-- **A decimal is read from every number whose parts are not excessively long.** -/
theorem read?_of_shape {s : String} (shape : NumberShape (dropSign s.toList))
    (hfits : Fits shape) : ∃ d, read? s = some d := by
  obtain ⟨negative, hread⟩ := read?_eq (isNumeral_of_dropSign shape.isNumeral)
  rw [hread]
  exact readUnsigned?_of_shape shape hfits negative

end Decimal
namespace Double

open Query

variable {x : Double}

/-! ### How many digits there are -/

theorem fractionField_lt (x : Double) : x.fractionField < 2 ^ 52 :=
  Nat.mod_lt _ (by decide)

theorem mantissa_lt (x : Double) : x.mantissa < 2 ^ 53 := by
  have hfraction := fractionField_lt x
  have hpow : Nat.pow 2 52 = 2 ^ 52 := rfl
  unfold mantissa
  split <;> omega

theorem exponent_bounds (x : Double) : -1074 ≤ x.exponent ∧ x.exponent ≤ 972 := by
  have hfield : x.exponentField < 2048 := Nat.mod_lt _ (by decide)
  unfold exponent
  split <;> omega

/-- The digits down to a place: those of the mantissa, one at most for each power of two,
and those behind the point. -/
theorem floorAt_lt (x : Double) (scale : Int) :
    x.floorAt scale < 10 ^ (53 + x.exponent.toNat + (-scale).toNat) := by
  have hmantissa : x.mantissa < 10 ^ 53 :=
    Nat.lt_of_lt_of_le (mantissa_lt x) (Nat.pow_le_pow_left (by decide) 53)
  have hexponent : 2 ^ x.exponent.toNat ≤ 10 ^ x.exponent.toNat :=
    Nat.pow_le_pow_left (by decide) _
  calc x.floorAt scale ≤ x.mantissa * 2 ^ x.exponent.toNat * 10 ^ (-scale).toNat :=
        Nat.div_le_self _ _
    _ < 10 ^ 53 * 10 ^ x.exponent.toNat * 10 ^ (-scale).toNat := by
        refine Nat.mul_lt_mul_of_pos_right ?_ (Nat.pow_pos (by decide))
        exact Nat.mul_lt_mul_of_lt_of_le hmantissa hexponent (Nat.pow_pos (by decide))
    _ = 10 ^ (53 + x.exponent.toNat + (-scale).toNat) := by rw [Nat.pow_add, Nat.pow_add]

theorem onGrid_le {scale : Int} {d : Nat} (h : x.onGrid scale = some d) :
    d ≤ x.floorAt scale + 1 := by
  unfold onGrid at h
  dsimp only at h
  split at h
  · obtain rfl := Option.some.inj h
    exact Nat.le_succ _
  · obtain rfl := Option.some.inj h
    exact Nat.le_refl _
  · cases h
  · split at h <;> obtain rfl := Option.some.inj h
    · exact Nat.le_succ _
    · exact Nat.le_refl _
    · split
      · exact Nat.le_succ _
      · exact Nat.le_refl _

theorem searchGrids_bounds (x : Double) (k : Int) : ∀ fuel n : Nat,
    (x.searchGrids k fuel n).1 ≤ x.floorAt (x.searchGrids k fuel n).2 + 1 ∧
      k - n - fuel ≤ (x.searchGrids k fuel n).2 ∧ (x.searchGrids k fuel n).2 ≤ k - n
  | 0, n => by simp [searchGrids]
  | fuel + 1, n => by
    unfold searchGrids
    cases hgrid : x.onGrid (k - n) with
    | some d =>
      refine ⟨onGrid_le hgrid, ?_, Int.le_refl _⟩
      dsimp only
      omega
    | none =>
      obtain ⟨hdigits, hlow, hhigh⟩ := searchGrids_bounds x k fuel (n + 1)
      refine ⟨hdigits, ?_, ?_⟩ <;> dsimp only <;> omega

theorem leadingScale_bounds (x : Double) : ∀ (fuel : Nat) (k : Int),
    k ≤ x.leadingScale fuel k ∧ x.leadingScale fuel k ≤ k + fuel
  | 0, k => by simp [leadingScale]
  | fuel + 1, k => by
    have ih := leadingScale_bounds x fuel (k + 1)
    unfold leadingScale
    split <;> omega

theorem stripZeros_bounds : ∀ (fuel d : Nat) (scale : Int),
    (stripZeros fuel d scale).1 ≤ d ∧ scale ≤ (stripZeros fuel d scale).2 ∧
      (stripZeros fuel d scale).2 ≤ scale + fuel
  | 0, d, scale => by simp [stripZeros]
  | fuel + 1, d, scale => by
    obtain ⟨hdigits, hlow, hhigh⟩ := stripZeros_bounds fuel (d / 10) (scale + 1)
    unfold stripZeros
    split
    · refine ⟨Nat.le_trans hdigits (Nat.div_le_self _ _), ?_, ?_⟩ <;> omega
    · refine ⟨Nat.le_refl _, ?_, ?_⟩ <;> dsimp only <;> omega

/-- There are at most 1500 digits, and their scale is between -400 and 400. -/
theorem shortestDigits_bounds (x : Double) :
    (∃ k ≤ 1500, 0 < k ∧ x.shortestDigits.1 < 10 ^ k) ∧
      -400 ≤ x.shortestDigits.2 ∧ x.shortestDigits.2 ≤ 400 := by
  unfold shortestDigits
  split
  · exact ⟨⟨1, by decide, by decide, by decide⟩, by decide, by decide⟩
  · next hmantissa =>
    have hlog : x.mantissa.log2 < 53 := (Nat.log2_lt hmantissa).mpr (mantissa_lt x)
    obtain ⟨hlow, hhigh⟩ := exponent_bounds x
    dsimp only
    generalize hstart : ((x.mantissa.log2 : Int) + x.exponent) * 30103 / 100000 - 1 = start
    obtain ⟨hk, hk'⟩ := leadingScale_bounds x 4 start
    generalize x.leadingScale 4 start = k at hk hk'
    obtain ⟨hdigits, hscale, hscale'⟩ := searchGrids_bounds x k 17 1
    generalize x.searchGrids k 17 1 = r at hdigits hscale hscale'
    obtain ⟨hstripped, hleft, hright⟩ := stripZeros_bounds 20 r.1 r.2
    have hfloor := floorAt_lt x r.2
    refine ⟨⟨53 + x.exponent.toNat + (-r.2).toNat + 1, by omega, Nat.succ_pos _, ?_⟩, by omega,
      by omega⟩
    calc (stripZeros 20 r.1 r.2).1 ≤ x.floorAt r.2 + 1 := Nat.le_trans hstripped hdigits
      _ ≤ 10 ^ (53 + x.exponent.toNat + (-r.2).toNat) := hfloor
      _ < 10 ^ (53 + x.exponent.toNat + (-r.2).toNat + 1) :=
        Nat.pow_lt_pow_right (by decide) (Nat.lt_succ_self _)

/-! ### The layout has the shape of a number -/

theorem isDigit_of_mem_digitText {n : Nat} : ∀ c ∈ digitText n, Text.isDigit c = true :=
  fun _ hc => Number.isDigit_of_mem_toDigits hc

theorem isDigit_of_mem_replicate {n : Nat} : ∀ c ∈ List.replicate n '0', Text.isDigit c = true := by
  intro c hc
  rw [List.eq_of_mem_replicate hc]
  decide

theorem isExponent_exponentText (e : Int) : isExponent ('e' :: exponentText e) = true := by
  have hdigits : isDigits (if (digitText e.natAbs).length < 2 then '0' :: digitText e.natAbs
      else digitText e.natAbs) = true := by
    rw [isDigits_iff]
    split
    · exact ⟨by simp, List.forall_mem_cons.mpr ⟨by decide, isDigit_of_mem_digitText⟩⟩
    · exact ⟨Nat.toDigits_ne_nil, isDigit_of_mem_digitText⟩
  have hsign : ∀ ds, dropSign ((if e < 0 then '-' else '+') :: ds) = ds := by
    intro ds
    split <;> rfl
  rw [isExponent, exponentText, hsign, hdigits]
  rfl

theorem length_exponentText_le (e : Int) :
    (exponentText e).length ≤ (digitText e.natAbs).length + 2 := by
  unfold exponentText
  rw [List.length_cons]
  split <;> simp

theorem exists_shape_pointed {whole fraction cs : List Char} (exponent : List Char) {n m : Nat}
    (hcs : whole ++ '.' :: (fraction ++ exponent) = cs)
    (hwhole : ∀ c ∈ whole, Text.isDigit c = true)
    (hfraction : ∀ c ∈ fraction, Text.isDigit c = true) (hexponent : isExponent exponent = true)
    (hsome : whole ≠ []) (hlength : whole.length + fraction.length ≤ n)
    (hshort : exponent.length ≤ m) :
    ∃ shape : NumberShape cs, shape.whole ≠ [] ∧
      shape.whole.length + shape.fraction.length ≤ n ∧ shape.exponent.length ≤ m := by
  have hparts : cs = whole ++ (['.'] ++ (fraction ++ exponent)) := by
    rw [← hcs, List.singleton_append]
  exact ⟨⟨whole, ['.'], fraction, exponent, hparts, hwhole, hfraction, .inl rfl, .inl hsome,
    hexponent⟩, hsome, hlength, hshort⟩

/-- Laid out, digits have the shape of a number, with a digit in front of the point. -/
theorem exists_shape_layOut {digits : List Char} (hdigits : ∀ c ∈ digits, Text.isDigit c = true)
    (hsome : digits ≠ []) (point : Int) :
    ∃ shape : NumberShape (layOut digits point), shape.whole ≠ [] ∧
      shape.whole.length + shape.fraction.length ≤ digits.length + 20 ∧
      shape.exponent.length ≤ (digitText (point - 1).natAbs).length + 3 := by
  have hzero : ∀ c ∈ ['0'], Text.isDigit c = true := by decide
  have hexponent := length_exponentText_le (point - 1)
  generalize hcs : layOut digits point = cs
  unfold layOut at hcs
  dsimp only at hcs
  split at hcs
  · next hrange =>
    split at hcs
    · -- Zeros in front of the digits.
      have hfraction : ∀ c ∈ List.replicate (-point).toNat '0' ++ digits, Text.isDigit c = true :=
        List.forall_mem_append.mpr ⟨isDigit_of_mem_replicate, hdigits⟩
      refine exists_shape_pointed [] ?_ hzero hfraction rfl (by simp) ?_ (Nat.zero_le _)
      · rw [← hcs]
        simp
      · simp only [List.length_append, List.length_replicate, List.length_singleton]
        omega
    · split at hcs
      · -- Zeros behind the digits.
        have hwhole : ∀ c ∈ digits ++ List.replicate (point.toNat - digits.length) '0',
            Text.isDigit c = true :=
          List.forall_mem_append.mpr ⟨hdigits, isDigit_of_mem_replicate⟩
        refine exists_shape_pointed [] ?_ hwhole hzero rfl (by simp [hsome]) ?_ (Nat.zero_le _)
        · rw [← hcs]
          simp
        · simp only [List.length_append, List.length_replicate, List.length_singleton]
          omega
      · -- The point among the digits.
        next hpositive hwithin =>
        have htake : digits.take point.toNat ≠ [] := by
          have hpoint : point.toNat ≠ 0 := by omega
          simp [hpoint, hsome]
        have hwhole : ∀ c ∈ digits.take point.toNat, Text.isDigit c = true := fun c hc =>
          hdigits c (List.mem_of_mem_take hc)
        have hfraction : ∀ c ∈ digits.drop point.toNat, Text.isDigit c = true := fun c hc =>
          hdigits c (List.mem_of_mem_drop hc)
        refine exists_shape_pointed [] ?_ hwhole hfraction rfl htake ?_ (Nat.zero_le _)
        · rw [← hcs, List.append_nil]
        · simp only [List.length_take, List.length_drop]
          omega
  · split at hcs
    · exact absurd rfl hsome
    · next d =>
      have hparts : cs = [d] ++ ([] ++ ([] ++ 'e' :: exponentText (point - 1))) := hcs.symm
      refine ⟨⟨[d], [], [], 'e' :: exponentText (point - 1), hparts, hdigits, by simp,
        .inr ⟨rfl, rfl⟩, .inl (by simp), isExponent_exponentText _⟩, by simp, by simp, ?_⟩
      rw [List.length_cons]
      omega
    · next d rest _ =>
      obtain ⟨hd, hrest⟩ := List.forall_mem_cons.mp hdigits
      refine exists_shape_pointed ('e' :: exponentText (point - 1)) ?_
        (List.forall_mem_singleton.mpr hd) hrest (isExponent_exponentText _) (by simp) ?_ ?_
      · rw [← hcs]
        simp
      · simp only [List.length_cons, List.length_nil]
        omega
      · rw [List.length_cons]
        omega

/-- A finite number is written with a minus or without a sign, and then its digits. -/
theorem toList_text (hnan : x.isNaN = false) (hfinite : x.isInfinite = false) :
    ∃ sign, IsSign sign ∧ x.text.toList = sign ++ layOut (digitText x.shortestDigits.1)
      (if x.shortestDigits.1 = 0 then 1
        else (digitText x.shortestDigits.1).length + x.shortestDigits.2) := by
  simp only [text, hnan, hfinite, Bool.false_eq_true, if_false, String.toList_append,
    String.toList_ofList]
  cases x.isNegative with
  | true => exact ⟨['-'], .inr (.inr rfl), rfl⟩
  | false => exact ⟨[], .inl rfl, rfl⟩

/-- The text of a finite number has the shape of a number and is short enough. -/
theorem exists_shape_text (hnan : x.isNaN = false) (hfinite : x.isInfinite = false) :
    ∃ shape : NumberShape (dropSign x.text.toList), Decimal.Fits shape := by
  obtain ⟨⟨k, hk, hpos, hdigits⟩, hlow, hhigh⟩ := shortestDigits_bounds x
  obtain ⟨sign, hsign, htext⟩ := toList_text hnan hfinite
  have hlength : (digitText x.shortestDigits.1).length ≤ k :=
    (Nat.length_toDigits_le_iff (by decide) hpos).mpr hdigits
  generalize hpoint : (if x.shortestDigits.1 = 0 then (1 : Int)
    else (digitText x.shortestDigits.1).length + x.shortestDigits.2) = point at htext
  have hrange : (point - 1).natAbs < 10 ^ 4 := by
    split at hpoint <;> omega
  have hexponent : (digitText (point - 1).natAbs).length ≤ 4 :=
    (Nat.length_toDigits_le_iff (by decide) (by decide)).mpr hrange
  have hdigit : ∀ c ∈ digitText x.shortestDigits.1, Text.isDigit c = true :=
    isDigit_of_mem_digitText
  obtain ⟨shape, hwhole, hparts, hscale⟩ := exists_shape_layOut hdigit Nat.toDigits_ne_nil point
  have hhead : ∀ c ∈ (layOut (digitText x.shortestDigits.1) point).head?, c ≠ '+' ∧ c ≠ '-' := by
    rw [shape.parts]
    exact AreDigits.head_ne_sign shape.whole_digits fun hnil => absurd hnil hwhole
  rw [htext, dropSign_append hsign hhead]
  refine ⟨shape, ?_, ?_⟩ <;> omega

/-- **The text of a floating-point number is read as a decimal.** -/
theorem read?_text (x : Double) : ∃ d, Decimal.read? x.text = some d := by
  cases hnan : x.isNaN with
  | true =>
    have htext : x.text = "nan" := by simp [text, hnan]
    rw [htext]
    exact ⟨.nan false false 0, by decide⟩
  | false =>
    cases hinfinite : x.isInfinite with
    | true =>
      have htext : x.text = if x.isNegative then "-inf" else "inf" := by
        simp only [text, hnan, hinfinite, Bool.false_eq_true, if_false, if_true]
        cases x.isNegative <;> rfl
      rw [htext]
      cases x.isNegative with
      | true => exact ⟨.infinite true, by decide⟩
      | false => exact ⟨.infinite false, by decide⟩
    | false =>
      obtain ⟨shape, hfits⟩ := exists_shape_text hnan hinfinite
      exact Decimal.read?_of_shape shape hfits

end Double
end TableGate

/-
# What a bound statement says

A driver that binds by position reads the text that it is handed from the left: two
percent signs are one, `%s` is the next of the values, and a percent sign with anything
else behind it is an error, as is a value too few or too many (`Sql.readFilled`).

What it reads is to be the statement with the parameter of its number in place of every
placeholder (`Sql.Substituted`), and it is, whatever stands around the placeholders,
percent signs included. Nothing is bound only if the placeholders and the parameters do
not fit: there are parameters and no placeholder, the numbers of the placeholders do not
go from zero up to the highest, or that one has no parameter (`Sql.Mismatched`).

The numbers are compared as the program does it: it counts the different ones and looks
at the highest. That no number is missing below the highest is what the count says
(`Sql.length_seen_iff`).

Key definitions: `Sql.readFilled`, `Sql.Substituted`, `Sql.Mismatched`.
Key theorems: `Sql.readFilled_positional`, `Sql.substituted_filled`,
`Sql.bindByPosition_reads`.
-/
import Mathlib.Data.Finset.Card
import Mathlib.Data.Finset.Range
import TableGate.Proofs.Number.Digits
import TableGate.Proofs.Sql.Occurrences

namespace TableGate
namespace Sql

/-! ### What the driver reads -/

/-- A character of a statement, or a value that is bound in it. -/
inductive Filled where
  | char (c : Char)
  | value (v : Value)

/-- The text as the driver reads it, with the values in their order. -/
def readFilled : List Char → List Value → Option (List Filled)
  | [], [] => some []
  | [], _ :: _ => none
  | '%' :: '%' :: cs, vs => (readFilled cs vs).map (.char '%' :: ·)
  | '%' :: 's' :: cs, v :: vs => (readFilled cs vs).map (.value v :: ·)
  | '%' :: _, _ => none
  | c :: cs, vs => (readFilled cs vs).map (.char c :: ·)

theorem readFilled_cons_ne {c : Char} (h : c ≠ '%') (cs : List Char) (vs : List Value) :
    readFilled (c :: cs) vs = (readFilled cs vs).map (.char c :: ·) := by
  rw [readFilled.eq_def]
  split <;> simp_all

/-- What is said by a character or a placeholder, if `f` gives the values of the
placeholders. -/
def Lexeme.filled (f : List Char → Value) : Lexeme → Filled
  | .char c => .char c
  | .slot digits => .value (f digits)

/-- **The marks are read back**: each `%s` is the placeholder that it was made of, and
every other percent sign is a character. -/
theorem readFilled_positional (f : List Char → Value) : ∀ ls : List Lexeme,
    readFilled (ls.flatMap Lexeme.positional) ((slotDigits ls).map f) =
      some (ls.map (Lexeme.filled f))
  | [] => rfl
  | .slot digits :: ls => by
    have ih := readFilled_positional f ls
    change readFilled ('%' :: 's' :: ls.flatMap Lexeme.positional)
      (f digits :: (slotDigits ls).map f) = _
    rw [readFilled, ih]
    rfl
  | .char c :: ls => by
    have ih := readFilled_positional f ls
    rw [List.flatMap_cons, Lexeme.positional, slotDigits]
    by_cases hc : c = '%'
    · rw [if_pos hc, List.cons_append, List.cons_append, List.nil_append, readFilled, ih, hc]
      rfl
    · rw [if_neg hc, List.cons_append, List.nil_append, readFilled_cons_ne hc, ih]
      rfl

/-! ### What the statement says -/

/-- The text with the parameter of its number in place of every placeholder. -/
inductive Substituted (params : List Value) : List Char → List Filled → Prop
  | nil : Substituted params [] []
  | value {cs digits after : List Char} {n : Nat} {v : Value} {fs : List Filled} :
      Stands cs digits after → Number.readNatural? digits = some n → params[n]? = some v →
      Substituted params after fs → Substituted params cs (.value v :: fs)
  | char {c : Char} {cs : List Char} {fs : List Filled} :
      (∀ digits after, ¬ Stands (c :: cs) digits after) →
      Substituted params cs fs → Substituted params (c :: cs) (.char c :: fs)

theorem Stands.unique {cs digits after digits' after' : List Char} (h : Stands cs digits after)
    (h' : Stands cs digits' after') : digits = digits' ∧ after = after' := by
  have hfound := placeholderAt?_eq_some_iff.mpr h
  rw [placeholderAt?_eq_some_iff.mpr h'] at hfound
  obtain ⟨rfl, rfl⟩ := Prod.mk.inj (Option.some.inj hfound)
  exact ⟨rfl, rfl⟩

theorem not_stands_nil {digits after : List Char} : ¬ Stands [] digits after :=
  fun h => by cases h.eq

theorem Substituted.unique {params : List Value} {cs : List Char} {fs gs : List Filled}
    (h : Substituted params cs fs) (h' : Substituted params cs gs) : fs = gs := by
  induction h generalizing gs with
  | nil =>
    cases h' with
    | nil => rfl
    | value hstands => exact absurd hstands not_stands_nil
  | value hstands hn hv _ ih =>
    cases h' with
    | nil => exact absurd hstands not_stands_nil
    | value hstands' hn' hv' hrest =>
      obtain ⟨rfl, rfl⟩ := hstands.unique hstands'
      obtain rfl := Option.some.inj (hn.symm.trans hn')
      obtain rfl := Option.some.inj (hv.symm.trans hv')
      rw [ih hrest]
    | char hnone => exact absurd hstands (hnone _ _)
  | char hnone _ ih =>
    cases h' with
    | value hstands => exact absurd hstands (hnone _ _)
    | char _ hrest => rw [ih hrest]

/-- The number of a placeholder. -/
def placeholderNumber (digits : List Char) : Nat := (Number.readNatural? digits).getD 0

def placeholderValue (params : List Value) (digits : List Char) : Value :=
  params.getD (placeholderNumber digits) .null

/-- **The search says what the statement says**, if the number of every placeholder can
be read and has a parameter. -/
theorem substituted_filled {params : List Value} : ∀ {cs : List Char},
    (∀ digits ∈ slotDigits (lexPlaceholders cs),
      Number.readNatural? digits = some (placeholderNumber digits) ∧
        placeholderNumber digits < params.length) →
    Substituted params cs ((lexPlaceholders cs).map (Lexeme.filled (placeholderValue params)))
  | [], _ => .nil
  | c :: cs, h => by
    rw [lexPlaceholders_cons] at h ⊢
    cases hfront : placeholderAt? (c :: cs) with
    | none =>
      simp only [hfront] at h ⊢
      refine .char (fun digits after hstands => ?_) (substituted_filled h)
      rw [placeholderAt?_eq_some_iff.mpr hstands] at hfront
      cases hfront
    | some found =>
      have hlt := length_after_lt hfront
      simp only [hfront] at h ⊢
      obtain ⟨hnumber, hparam⟩ := h found.1 List.mem_cons_self
      have hvalue : params[placeholderNumber found.1]? =
          some (placeholderValue params found.1) := by
        simp [placeholderValue, hparam]
      exact .value (placeholderAt?_eq_some_iff.mp hfront) hnumber hvalue
        (substituted_filled fun digits hdigits => h digits (List.mem_cons_of_mem _ hdigits))
termination_by cs => cs.length
decreasing_by
  · simp
  · exact hlt

/-! ### The numbers of the placeholders -/

theorem nodup_eraseDups : ∀ ns : List Nat, ns.eraseDups.Nodup
  | [] => List.nodup_nil
  | n :: ns => by
    have hshorter := List.length_filter_le (fun m => !m == n) ns
    rw [List.eraseDups_cons, List.nodup_cons]
    refine ⟨fun h => ?_, nodup_eraseDups _⟩
    simpa using List.mem_eraseDups.mp h
termination_by ns => ns.length

theorem le_foldl_max : ∀ (ns : List Nat) (start : Nat),
    start ≤ ns.foldl max start ∧ ∀ n ∈ ns, n ≤ ns.foldl max start
  | [], start => ⟨Nat.le_refl _, fun _ h => by cases h⟩
  | n :: ns, start => by
    obtain ⟨hstart, hall⟩ := le_foldl_max ns (max start n)
    refine ⟨Nat.le_trans (Nat.le_max_left _ _) hstart, ?_⟩
    intro m hm
    rcases List.mem_cons.mp hm with rfl | hm
    · exact Nat.le_trans (Nat.le_max_right _ _) hstart
    · exact hall m hm

theorem foldl_max_mem : ∀ (ns : List Nat) (start : Nat), ns.foldl max start ∈ start :: ns
  | [], _ => List.mem_singleton_self _
  | n :: ns, start => by
    have h := foldl_max_mem ns (max start n)
    rcases Nat.le_total start n with hle | hle
    · rw [Nat.max_eq_right hle] at h
      rw [List.foldl_cons, Nat.max_eq_right hle]
      exact List.mem_cons_of_mem _ h
    · rw [Nat.max_eq_left hle] at h
      rw [List.foldl_cons, Nat.max_eq_left hle]
      rcases List.mem_cons.mp h with h | h
      · rw [h]
        exact List.mem_cons_self
      · exact List.mem_cons_of_mem _ (List.mem_cons_of_mem _ h)

/-- Numbers that go from zero up to `m` have `m` as the highest. -/
theorem foldl_max_of_iff {ns : List Nat} {m : Nat} (h : ∀ n, n ∈ ns ↔ n ≤ m) :
    ns.foldl max 0 = m := by
  refine Nat.le_antisymm ?_ ((le_foldl_max ns 0).2 m ((h m).mpr (Nat.le_refl m)))
  rcases List.mem_cons.mp (foldl_max_mem ns 0) with hzero | hmem
  · rw [hzero]
    exact Nat.zero_le m
  · exact (h _).mp hmem

/-- **The count of the different numbers tells whether one is missing.** -/
theorem length_seen_iff (ns : List Nat) :
    ns.eraseDups.mergeSort.length = ns.foldl max 0 + 1 ↔ ∃ m, ∀ n, n ∈ ns ↔ n ≤ m := by
  have hcard : ns.eraseDups.mergeSort.length = ns.toFinset.card := by
    have hsame : ns.eraseDups.toFinset = ns.toFinset := by
      ext n
      simp [List.mem_eraseDups]
    rw [List.length_mergeSort, ← List.toFinset_card_of_nodup (nodup_eraseDups ns), hsame]
  have hsub : ns.toFinset ⊆ Finset.range (ns.foldl max 0 + 1) := by
    intro n hn
    have hle := (le_foldl_max ns 0).2 n (List.mem_toFinset.mp hn)
    exact Finset.mem_range.mpr (by omega)
  rw [hcard]
  constructor
  · intro hcount
    have heq := Finset.eq_of_subset_of_card_le hsub (by rw [hcount, Finset.card_range])
    refine ⟨ns.foldl max 0, fun n => ?_⟩
    rw [← List.mem_toFinset, heq, Finset.mem_range, Nat.lt_succ_iff]
  · rintro ⟨m, hm⟩
    have heq : ns.toFinset = Finset.range (m + 1) := by
      ext n
      rw [List.mem_toFinset, hm, Finset.mem_range, Nat.lt_succ_iff]
    rw [foldl_max_of_iff hm, heq, Finset.card_range]

/-! ### Bound by position -/

/-- A placeholder of the statement has the number. -/
def Refers (sql : String) (n : Nat) : Prop :=
  ∃ digits, Occurs sql.toList digits ∧ Number.readNatural? digits = some n

/-- The placeholders of a statement and the parameters do not fit. -/
inductive Mismatched (sql : String) (params : List Value) : Prop
  | unused : params ≠ [] → (¬ ∃ digits, Occurs sql.toList digits) → Mismatched sql params
  | gap : (∃ digits, Occurs sql.toList digits) → (¬ ∃ m, ∀ n, Refers sql n ↔ n ≤ m) →
      Mismatched sql params
  | tooFew (m : Nat) : (∀ n, Refers sql n ↔ n ≤ m) → params.length ≤ m → Mismatched sql params

section
variable {sql : String} {params : List Value}
  (hlen : ∀ digits, Occurs sql.toList digits → digits.length ≤ Number.maxDigits)
include hlen

theorem readNatural?_of_occurs {digits : List Char} (h : Occurs sql.toList digits) :
    Number.readNatural? digits = some (placeholderNumber digits) := by
  obtain ⟨front, rest, after, -, hstands⟩ := id h
  have hread := Number.readNatural?_of_all_isDigit hstands.ne_nil hstands.isDigit
  rw [decide_eq_true (hlen digits h)] at hread
  obtain ⟨n, hn⟩ := Option.isSome_iff_exists.mp hread
  rw [placeholderNumber, hn]
  rfl

theorem mapM_readNatural? : ∀ {ds : List (List Char)}, (∀ d ∈ ds, Occurs sql.toList d) →
    ds.mapM Number.readNatural? = some (ds.map placeholderNumber)
  | [], _ => rfl
  | d :: ds, h => by
    obtain ⟨hd, hds⟩ := List.forall_mem_cons.mp h
    rw [List.mapM_cons, readNatural?_of_occurs hlen hd, mapM_readNatural? hds]
    rfl

theorem refers_iff (n : Nat) :
    Refers sql n ↔ n ∈ (slotDigits (lexPlaceholders sql.toList)).map placeholderNumber := by
  rw [List.mem_map]
  refine exists_congr fun digits => ?_
  rw [mem_slotDigits_iff]
  refine and_congr_right fun hoccurs => ?_
  rw [readNatural?_of_occurs hlen hoccurs, Option.some.injEq]

theorem bindByPosition_of_occurs (hoccurs : ∃ digits, Occurs sql.toList digits) :
    let ds := slotDigits (lexPlaceholders sql.toList)
    let ns := ds.map placeholderNumber
    bindByPosition sql params =
      if ¬ ns.eraseDups.mergeSort.length = ns.foldl max 0 + 1 then
        .error (.refused (.placeholderGap (ns.foldl max 0) ns.eraseDups.mergeSort))
      else if params.length ≤ ns.foldl max 0 then
        .error (.refused (.tooFewParameters (ns.foldl max 0 + 1) params.length))
      else
        .ok (String.ofList ((lexPlaceholders sql.toList).flatMap Lexeme.positional),
          some (ds.map (placeholderValue params))) := by
  intro ds ns
  have hds : ds.isEmpty = false := by
    obtain ⟨digits, h⟩ := hoccurs
    have hmem : digits ∈ ds := mem_slotDigits_iff.mpr h
    rw [List.isEmpty_eq_false_iff]
    exact List.ne_nil_of_mem hmem
  have hns : ds.mapM Number.readNatural? = some ns :=
    mapM_readNatural? hlen fun d hd => mem_slotDigits_iff.mp hd
  have hvalues : (ns.map fun i => params.getD i .null) = ds.map (placeholderValue params) :=
    List.map_map
  unfold bindByPosition
  simp only [show slotDigits (lexPlaceholders sql.toList) = ds from rfl, hds, hns, hvalues]
  rfl

/-- Numbers that go from zero up to `m` are the numbers of the placeholders. -/
theorem length_seen_of_refers {m : Nat} (hm : ∀ n, Refers sql n ↔ n ≤ m) :
    let ns := (slotDigits (lexPlaceholders sql.toList)).map placeholderNumber
    ns.eraseDups.mergeSort.length = ns.foldl max 0 + 1 ∧ ns.foldl max 0 = m := by
  intro ns
  have hns : ∀ n, n ∈ ns ↔ n ≤ m := fun n => (refers_iff hlen n).symm.trans (hm n)
  exact ⟨(length_seen_iff ns).mpr ⟨m, hns⟩, foldl_max_of_iff hns⟩

theorem refused_of_mismatched (h : Mismatched sql params) :
    ∃ e, bindByPosition sql params = .error (.refused e) := by
  cases h with
  | unused hparams hnone =>
    refine ⟨.noPlaceholders, ?_⟩
    unfold bindByPosition
    simp [slotDigits_eq_nil_iff.mpr hnone, hparams]
  | gap hoccurs hgap =>
    rw [bindByPosition_of_occurs hlen hoccurs, if_pos]
    · exact ⟨_, rfl⟩
    · rw [length_seen_iff]
      rintro ⟨m, hm⟩
      exact hgap ⟨m, fun n => (refers_iff hlen n).trans (hm n)⟩
  | tooFew m hm hfew =>
    have hoccurs : ∃ digits, Occurs sql.toList digits := by
      obtain ⟨digits, hdigits, -⟩ := (hm m).mpr (Nat.le_refl m)
      exact ⟨digits, hdigits⟩
    obtain ⟨hseen, hhighest⟩ := length_seen_of_refers hlen hm
    rw [bindByPosition_of_occurs hlen hoccurs, if_neg (not_not.mpr hseen), hhighest, if_pos hfew]
    exact ⟨_, rfl⟩

theorem reads_of_not_mismatched (h : ¬ Mismatched sql params)
    (hoccurs : ∃ digits, Occurs sql.toList digits) :
    ∃ text bound said, bindByPosition sql params = .ok (text, some bound) ∧
      readFilled text.toList bound = some said ∧ Substituted params sql.toList said := by
  have hgapless : ∃ m, ∀ n, Refers sql n ↔ n ≤ m := not_not.mp fun hgap => h (.gap hoccurs hgap)
  obtain ⟨m, hm⟩ := hgapless
  have henough : ¬ params.length ≤ m := fun hfew => h (.tooFew m hm hfew)
  obtain ⟨hseen, hhighest⟩ := length_seen_of_refers hlen hm
  have hsaid : Substituted params sql.toList
      ((lexPlaceholders sql.toList).map (Lexeme.filled (placeholderValue params))) := by
    refine substituted_filled fun digits hmem => ?_
    have hdigits := mem_slotDigits_iff.mp hmem
    have hnumber := readNatural?_of_occurs hlen hdigits
    have hle : placeholderNumber digits ≤ m := (hm _).mp ⟨digits, hdigits, hnumber⟩
    exact ⟨hnumber, by omega⟩
  rw [bindByPosition_of_occurs hlen hoccurs, if_neg (not_not.mpr hseen), hhighest,
    if_neg henough]
  refine ⟨_, _, _, rfl, ?_, hsaid⟩
  rw [String.toList_ofList]
  exact readFilled_positional _ _

/-- **A statement is refused just if its placeholders and the parameters do not fit, and
otherwise the driver reads it with the parameters in place of the placeholders.** Without
any it is handed on as it is. -/
theorem bindByPosition_reads :
    ((∃ e, bindByPosition sql params = .error (.refused e)) ↔ Mismatched sql params) ∧
      (params = [] → (¬ ∃ digits, Occurs sql.toList digits) →
        bindByPosition sql params = .ok (sql, none)) ∧
      (¬ Mismatched sql params → (∃ digits, Occurs sql.toList digits) →
        ∃ text bound said, bindByPosition sql params = .ok (text, some bound) ∧
          readFilled text.toList bound = some said ∧
          ∀ other, Substituted params sql.toList other ↔ other = said) := by
  have hplain : params = [] → (¬ ∃ digits, Occurs sql.toList digits) →
      bindByPosition sql params = .ok (sql, none) := by
    rintro rfl hnone
    unfold bindByPosition
    simp [slotDigits_eq_nil_iff.mpr hnone]
  refine ⟨⟨?_, refused_of_mismatched hlen⟩, hplain, ?_⟩
  · rintro ⟨e, he⟩
    by_contra hfit
    by_cases hoccurs : ∃ digits, Occurs sql.toList digits
    · obtain ⟨text, bound, said, hok, -, -⟩ := reads_of_not_mismatched hlen hfit hoccurs
      rw [he] at hok
      cases hok
    · have hnil : params = [] := not_not.mp fun hparams => hfit (.unused hparams hoccurs)
      rw [he] at hplain
      cases hplain hnil hoccurs
  · intro hfit hoccurs
    obtain ⟨text, bound, said, hok, hread, hsaid⟩ := reads_of_not_mismatched hlen hfit hoccurs
    refine ⟨text, bound, said, hok, hread, fun other => ⟨fun h => h.unique hsaid, ?_⟩⟩
    rintro rfl
    exact hsaid

end

/-- A percent sign in a literal, and placeholders that are repeated and out of order. -/
theorem bindByPosition_reads_percent :
    let sql := "SELECT @param1, @param0 % 5, '7%s', @param1"
    let params : List Value := [.int 12, .text "x%"]
    (∀ digits, Occurs sql.toList digits → digits.length ≤ Number.maxDigits) ∧
      bindByPosition sql params = .ok ("SELECT %s, %s %% 5, '7%%s', %s",
        some [.text "x%", .int 12, .text "x%"]) ∧
      ∃ text bound said, bindByPosition sql params = .ok (text, some bound) ∧
        readFilled text.toList bound = some said ∧
        ∀ other, Substituted params sql.toList other ↔ other = said := by
  intro sql params
  have hlen : ∀ digits, Occurs sql.toList digits → digits.length ≤ Number.maxDigits :=
    fun digits h => Nat.le_trans h.length_le (by decide)
  have hdigits : slotDigits (lexPlaceholders sql.toList) = [['1'], ['0'], ['1']] := by decide
  have hnumbers : [['1'], ['0'], ['1']].mapM Number.readNatural? = some [1, 0, 1] := by decide
  have hseen : [1, 0, 1].eraseDups.mergeSort.length = 2 := by simp [List.eraseDups_cons]
  have htext : String.ofList ((lexPlaceholders sql.toList).flatMap Lexeme.positional) =
      "SELECT %s, %s %% 5, '7%%s', %s" := by decide
  have hbind : bindByPosition sql params = .ok ("SELECT %s, %s %% 5, '7%%s', %s",
      some [.text "x%", .int 12, .text "x%"]) := by
    unfold bindByPosition
    simp only [hdigits, hnumbers, hseen, htext]
    rfl
  obtain ⟨hrefused, -, hreads⟩ := @bindByPosition_reads sql params hlen
  refine ⟨hlen, hbind, hreads (fun hmismatched => ?_) ⟨['1'], mem_slotDigits_iff.mp ?_⟩⟩
  · obtain ⟨e, he⟩ := hrefused.mpr hmismatched
    rw [hbind] at he
    cases he
  · rw [hdigits]
    exact List.mem_cons_self

end Sql
end TableGate

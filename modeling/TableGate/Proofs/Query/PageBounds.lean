/-
# The bounds of a page

The last value under `limit` and the last one under `offset` are the bounds that a
query string gives (`bound?`). The statement for the page skips exactly the offset,
or nothing where none is given. It asks for one row or more and never for more than
the ceiling: for the ceiling where no limit is given, and for a limit above zero cut
to the ceiling. So greater limits do not ask for fewer rows, and no limit asks for
fewer than are returned.

A limit of zero breaks this law, and nothing else does: it asks for as many rows as
no limit at all (`select_bounds`).

Key definitions: `Query.bound?`.
Key theorems: `Query.read_bounds`, `Compiler.exists_select_iff`,
`Compiler.select_bounds`.
-/
import TableGate.Proofs.Query.Numeral
import TableGate.Proofs.Query.Pairs
import TableGate.Proofs.Query.ReadBack

namespace TableGate
namespace Query

open Number

/-! ### The bounds that are given -/

/-- The number that the last value under a key spells. -/
def bound? (key : String) (pairs : List (String × Value)) : Option Int :=
  (valuesOf key pairs).getLast?.bind fun v => readInt? (Text.trim v.shown)

variable {α : Type} {pairs : List (String × Value)} {f : Filter}

theorem readLast_eq_ok {readValue : Value → Except Fault α} {a : α} : ∀ {vs : List Value}
    {default : α}, readLast readValue default vs = .ok a →
      (vs = [] ∧ a = default) ∨ ∃ v, vs.getLast? = some v ∧ readValue v = .ok a
  | [], default, h => .inl ⟨rfl, (Except.ok.inj h).symm⟩
  | v :: vs, default, h => by
    rw [readLast_cons] at h
    obtain ⟨b, hb, h⟩ := Results.bind_eq_ok_iff.mp h
    rcases readLast_eq_ok h with ⟨rfl, rfl⟩ | ⟨w, hw, ha⟩
    · exact .inr ⟨v, rfl, hb⟩
    · exact .inr ⟨w, by rw [List.getLast?_cons, hw]; rfl, ha⟩

theorem readPageBound_eq_ok {name : String} {v : Value} {n : Int}
    (h : readPageBound name v = .ok n) : readInt? (Text.trim v.shown) = some n ∧ 0 ≤ n := by
  simp only [readPageBound] at h
  split at h
  · cases h
  · split at h
    · cases h
    · next m hm =>
      split at h
      · cases h
      · next hsign =>
        obtain rfl := Except.ok.inj h
        exact ⟨hm, Int.not_lt.mp hsign⟩

theorem bound?_of_readLast {key name : String} {b : Option Int}
    (h : readLast (fun v => some <$> readPageBound name v) none (valuesOf key pairs) = .ok b) :
    b = bound? key pairs ∧ (b = none ↔ valuesOf key pairs = []) ∧
      ∀ n ∈ b, 0 ≤ n ∧ n.natAbs < 10 ^ maxDigits := by
  rcases readLast_eq_ok h with ⟨hnone, rfl⟩ | ⟨v, hlast, hread⟩
  · refine ⟨?_, by simp [hnone], by simp⟩
    rw [bound?, hnone]
    rfl
  · obtain ⟨n, hn, rfl⟩ := Results.map_eq_ok_iff.mp hread
    obtain ⟨hspelled, hpositive⟩ := readPageBound_eq_ok hn
    refine ⟨?_, ?_, ?_⟩
    · rw [bound?, hlast, Option.bind_some, hspelled]
    · simp only [reduceCtorEq, false_iff]
      intro hnil
      rw [hnil] at hlast
      cases hlast
    · rintro m ⟨⟩
      exact ⟨hpositive, readInt?_natAbs_lt hspelled⟩

theorem valuesOf_eq_nil_iff {key : String} :
    valuesOf key pairs = [] ↔ ∀ pair ∈ pairs, pair.1 ≠ key := by
  simp [valuesOf, List.filter_eq_nil_iff]

/-- **The bounds that are read are those that are given.** They are not negative and
can be written down again; and none is read exactly if its key does not occur. -/
theorem read_bounds (h : read pairs = .ok f) :
    (f.limit = bound? "limit" pairs ∧ f.offset = bound? "offset" pairs) ∧
      ((bound? "limit" pairs = none ↔ ∀ pair ∈ pairs, pair.1 ≠ "limit") ∧
        (bound? "offset" pairs = none ↔ ∀ pair ∈ pairs, pair.1 ≠ "offset")) ∧
      ∀ n ∈ (bound? "limit" pairs).toList ++ (bound? "offset" pairs).toList,
        0 ≤ n ∧ n.natAbs < 10 ^ maxDigits := by
  obtain ⟨-, -, -, hlimit, hoffset⟩ := read_eq_ok_iff.mp h
  obtain ⟨hlimit, hlimit0, hlimits⟩ := bound?_of_readLast hlimit
  obtain ⟨hoffset, hoffset0, hoffsets⟩ := bound?_of_readLast hoffset
  rw [hlimit, valuesOf_eq_nil_iff] at hlimit0
  rw [hoffset, valuesOf_eq_nil_iff] at hoffset0
  rw [hlimit] at hlimits
  rw [hoffset] at hoffsets
  refine ⟨⟨hlimit, hoffset⟩, ⟨hlimit0, hoffset0⟩, fun n hn => ?_⟩
  rcases List.mem_append.mp hn with hn | hn
  · exact hlimits n (Option.mem_toList.mp hn)
  · exact hoffsets n (Option.mem_toList.mp hn)

end Query

namespace Compiler

open Query Number

variable {c : Compiler} {table : String} {schema : Option String} {f : Filter} {s : Statement}
  {pairs : List (String × Value)}

/-! ### The number of rows asked for -/

theorem effectiveLimit_none : c.effectiveLimit none = c.maxRows := rfl

theorem effectiveLimit_zero : c.effectiveLimit (some 0) = c.maxRows := rfl

theorem effectiveLimit_of_ne_zero {n : Int} (h : n ≠ 0) :
    c.effectiveLimit (some n) = min n c.maxRows := by
  rw [effectiveLimit, if_neg h]

/-- There is always a row to ask for, and never one above the ceiling. -/
theorem effectiveLimit_bounds {b : Option Int} (h : ∀ n ∈ b, 0 ≤ n) :
    1 ≤ c.effectiveLimit b ∧ c.effectiveLimit b ≤ c.maxRows := by
  have hceiling := c.maxRows_pos
  cases b with
  | none => rw [effectiveLimit_none]; omega
  | some n =>
    have hn := h n rfl
    by_cases hzero : n = 0
    · rw [hzero, effectiveLimit_zero]; omega
    · rw [effectiveLimit_of_ne_zero hzero]; omega

/-- The rows asked for are those of the limit, cut to the ceiling, unless the limit is
zero. -/
theorem effectiveLimit_eq_min_iff {b : Option Int} :
    c.effectiveLimit b = min (b.getD c.maxRows) c.maxRows ↔ b ≠ some 0 := by
  have hceiling := c.maxRows_pos
  cases b with
  | none => simp [effectiveLimit_none]
  | some n =>
    rw [Option.getD_some]
    by_cases hzero : n = 0
    · rw [hzero, effectiveLimit_zero]
      simp only [ne_eq, not_true_eq_false, iff_false]
      omega
    · rw [effectiveLimit_of_ne_zero hzero]
      simp [hzero]

/-- No more rows are asked for than a limit says, unless it is zero. -/
theorem effectiveLimit_le_iff {n : Int} : c.effectiveLimit (some n) ≤ n ↔ n ≠ 0 := by
  have hceiling := c.maxRows_pos
  by_cases hzero : n = 0
  · rw [hzero, effectiveLimit_zero]
    simp only [ne_eq, not_true_eq_false, iff_false]
    omega
  · rw [effectiveLimit_of_ne_zero hzero]
    simp only [hzero, ne_eq, not_false_eq_true, iff_true]
    omega

/-- The rows asked for are too many to be written down only if the ceiling is and is
asked for. -/
theorem effectiveLimit_natAbs_lt_iff {b : Option Int} {cap : Nat}
    (h : ∀ n ∈ b, 0 ≤ n ∧ n.natAbs < cap) :
    (c.effectiveLimit b).natAbs < cap ↔ (b.getD 0 = 0 → c.maxRows.natAbs < cap) := by
  have hceiling := c.maxRows_pos
  cases b with
  | none => simp [effectiveLimit_none]
  | some n =>
    obtain ⟨hpositive, hshort⟩ := h n rfl
    rw [Option.getD_some]
    by_cases hzero : n = 0
    · simp [hzero, effectiveLimit_zero]
    · rw [effectiveLimit_of_ne_zero hzero]
      simp only [hzero, false_imp_iff, iff_true]
      omega

/-- A greater limit does not ask for fewer rows, unless the smaller one is zero. -/
theorem effectiveLimit_mono {m n : Int} (hm : 0 < m) (h : m ≤ n) :
    c.effectiveLimit (some m) ≤ c.effectiveLimit (some n) := by
  rw [effectiveLimit_of_ne_zero (by omega), effectiveLimit_of_ne_zero (by omega)]
  omega

/-! ### The statement for a page -/

/-- A page is written if its conditions are and its bounds can be written down. -/
theorem exists_select_iff : (∃ s, c.select table f schema = .ok s) ↔
    (∃ tests, whereClause c.dialect f.conditions = .ok tests) ∧
      (c.effectiveLimit f.limit).natAbs < 10 ^ maxDigits ∧
      (f.offset.getD 0).natAbs < 10 ^ maxDigits := by
  simp only [← isTooLong_eq_false_iff]
  constructor
  · rintro ⟨s, h⟩
    obtain ⟨tests, htests, h⟩ := Results.bind_eq_ok_iff.mp h
    obtain ⟨page, hpage, -⟩ := Results.bind_eq_ok_iff.mp h
    refine ⟨⟨tests, htests⟩, ?_⟩
    rw [Dialect.paginate?] at hpage
    split at hpage
    · cases hpage
    · next hshort => simpa using hshort
  · rintro ⟨⟨tests, htests⟩, hlimit, hoffset⟩
    exact ⟨_, select_of_tests htests hlimit hoffset⟩

theorem text_append_text (d : Dialect) (s : Statement) (t : String) :
    Statement.text d (s ++ [.text t]) = s.text d ++ t := by
  rw [Statement.text, Statement.textFrom_append]
  simp [Statement.textFrom, Statement.text]

/-- The clause for the page is the end of the text, and its bounds are read back. -/
theorem page_select (h : c.select table f schema = .ok s) :
    readPage c.dialect (s.command c.dialect) = some (c.page table f schema) ∧
      ∃ front, (s.command c.dialect).text =
        front ++ " " ++ c.dialect.paginate (c.effectiveLimit f.limit) (f.offset.getD 0) := by
  constructor
  · rw [readPage, Statement.items_command c.dialect (select_spec h).1, readItems_select h]
  · obtain ⟨tests, -, rfl⟩ := select_ok h
    exact ⟨_, (text_append_text _ _ _).trans String.append_assoc.symm⟩

/-- **What is asked for with a page.** The statement is written if its conditions are
and the ceiling, where it is asked for, can be written down. It ends with its bounds:
the offset that is given, and from one row up to the ceiling. This is the limit that
is given, cut to the ceiling, unless that limit is zero; then it is the ceiling, as if
none were given. So no other limit asks for more rows than it says, and greater ones
do not ask for fewer. -/
theorem select_bounds (c : Compiler) (table : String) (schema : Option String)
    (hread : read pairs = .ok f) :
    ((∃ s, c.select table f schema = .ok s) ↔
      (∃ tests, whereClause c.dialect f.conditions = .ok tests) ∧
        ((bound? "limit" pairs).getD 0 = 0 → c.maxRows.natAbs < 10 ^ maxDigits)) ∧
    ∀ s, c.select table f schema = .ok s → ∃ page front,
      readPage c.dialect (s.command c.dialect) = some page ∧
      (s.command c.dialect).text = front ++ " " ++ c.dialect.paginate page.limit page.offset ∧
      (page.offset = (bound? "offset" pairs).getD 0 ∧ 0 ≤ page.offset) ∧
      (1 ≤ page.limit ∧ page.limit ≤ c.maxRows) ∧
      (page.limit = min ((bound? "limit" pairs).getD c.maxRows) c.maxRows ↔
        bound? "limit" pairs ≠ some 0) ∧
      (bound? "limit" pairs = some 0 → page.limit = c.maxRows) ∧
      (∀ n ∈ bound? "limit" pairs, page.limit ≤ n ↔ n ≠ 0) ∧
      ∀ pairs' f' s' page', read pairs' = .ok f' → c.select table f' schema = .ok s' →
        readPage c.dialect (s'.command c.dialect) = some page' →
        ∀ m ∈ bound? "limit" pairs, ∀ n ∈ bound? "limit" pairs', 0 < m → m ≤ n →
          page.limit ≤ page'.limit := by
  obtain ⟨⟨hlimit, hoffset⟩, -, hshort⟩ := read_bounds hread
  have hlimits : ∀ n ∈ bound? "limit" pairs, 0 ≤ n ∧ n.natAbs < 10 ^ maxDigits := fun n hn =>
    hshort n (List.mem_append_left _ (Option.mem_toList.mpr hn))
  have hoffsets : 0 ≤ (bound? "offset" pairs).getD 0 ∧
      ((bound? "offset" pairs).getD 0).natAbs < 10 ^ maxDigits := by
    cases hb : bound? "offset" pairs with
    | none => exact ⟨Int.le_refl 0, Nat.pow_pos (by decide)⟩
    | some n => exact hshort n (List.mem_append_right _ (by rw [hb]; simp))
  constructor
  · rw [exists_select_iff, hlimit, hoffset, effectiveLimit_natAbs_lt_iff hlimits]
    exact and_congr_right fun _ => and_iff_left hoffsets.2
  · intro s h
    obtain ⟨hpage, front, htext⟩ := page_select h
    refine ⟨c.page table f schema, front, hpage, htext, ?_⟩
    have hrows : (c.page table f schema).limit = c.effectiveLimit (bound? "limit" pairs) :=
      congrArg c.effectiveLimit hlimit
    have hskipped : (c.page table f schema).offset = (bound? "offset" pairs).getD 0 :=
      congrArg (·.getD 0) hoffset
    rw [hrows, hskipped]
    refine ⟨⟨rfl, hoffsets.1⟩, effectiveLimit_bounds fun n hn => (hlimits n hn).1,
      effectiveLimit_eq_min_iff, ?_, ?_, ?_⟩
    · intro hzero
      rw [hzero, effectiveLimit_zero]
    · intro n hn
      rw [Option.mem_def.mp hn]
      exact effectiveLimit_le_iff
    · intro pairs' f' s' page' hread' h' hpage' m hm n hn hpositive hle
      obtain ⟨⟨hlimit', -⟩, -⟩ := read_bounds hread'
      obtain rfl := Option.some.inj (hpage'.symm.trans (page_select h').1)
      rw [Option.mem_def.mp hm, page, hlimit', Option.mem_def.mp hn]
      exact effectiveLimit_mono hpositive hle

/-- A limit above the ceiling, an offset with a sign, blanks and a digit of another
script, and a limit that is replaced. -/
theorem select_bounds_capped :
    let c : Compiler := ⟨.sqlServer, 50, by decide⟩
    let pairs : List (String × Value) :=
      [("limit", .text "7"), ("offset", .text " +1٣ "), ("limit", .text "0060")]
    ∃ f s, read pairs = .ok f ∧ c.select "users" f none = .ok s ∧
      bound? "limit" pairs = some 60 ∧ bound? "offset" pairs = some 13 ∧
      ∃ page, readPage .sqlServer (s.command .sqlServer) = some page ∧
        page.limit = 50 ∧ page.offset = 13 := by
  intro c pairs
  have hread : read pairs = .ok { limit := some 60, offset := some 13 } := rfl
  have hlimit : bound? "limit" pairs = some 60 := by decide +kernel
  have hoffset : bound? "offset" pairs = some 13 := by decide +kernel
  obtain ⟨hwritten, hall⟩ := select_bounds c "users" none hread
  obtain ⟨s, h⟩ := hwritten.mpr ⟨⟨[], rfl⟩, by rw [hlimit]; decide⟩
  obtain ⟨page, front, hpage, -, ⟨hskipped, -⟩, -, hrows, -⟩ := hall s h
  refine ⟨_, s, hread, h, hlimit, hoffset, page, hpage, ?_, ?_⟩
  · rw [hrows.mpr (by rw [hlimit]; decide), hlimit]
    decide
  · rw [hskipped, hoffset]
    rfl

/-- Not every limit is kept: a limit of zero asks for all the rows up to the
ceiling. -/
theorem not_select_limit_zero :
    ¬∀ (c : Compiler) (table : String) (schema : Option String) (pairs : List (String × Value))
      (f : Filter) (s : Statement) (page : Page) (n : Int), read pairs = .ok f →
        c.select table f schema = .ok s → bound? "limit" pairs = some n →
        readPage c.dialect (s.command c.dialect) = some page → page.limit = min n c.maxRows := by
  intro hall
  let c : Compiler := ⟨.postgres, 1000, by decide⟩
  have hread : read [("limit", .text "0")] = .ok { limit := some 0 } := rfl
  have h : c.select "users" { limit := some 0 } none = .ok _ :=
    select_of_tests rfl (by decide +kernel) (by decide +kernel)
  have hzero := hall c "users" none _ _ _ _ 0 hread h (by decide +kernel) (page_select h).1
  exact absurd hzero (by decide)

end Compiler
end TableGate

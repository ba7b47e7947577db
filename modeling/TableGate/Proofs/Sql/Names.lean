/-
# Rows of names are read back

What a reader takes for a quoted name is one: the reader gives a name and what follows it
just if the text is that name, quoted, and then what follows, which does not go on with
another closing quote (`Dialect.readName?_eq_some_iff`). So there is one way to read a
quoted name, and one name that is quoted so, whatever characters it holds.

Names in a row, with a text between them that begins with no closing quote, are read one
after another as long as that text follows. A text is read as a row of names just if it is
these names, quoted, with the text between them (`Dialect.readNames?_eq_some_iff`). A
qualified name is such a row, of the schema if there is one and the name, with dots.

Key definitions: `Sql.qualifier?`, `Dialect.Separates`, `Dialect.quoteRow`,
`Dialect.readNames?`.
Key theorems: `Dialect.readName?_eq_some_iff`, `Dialect.readNames?_eq_some_iff`,
`Dialect.quotedNames_readBack`.
-/
import TableGate.Proofs.Sql.Quoted

namespace TableGate
namespace Sql

/-! ### What is read is what was written -/

/-- A name is read behind its opening quote just if it stands there with its closing quotes
doubled and is closed by one that no other follows. -/
theorem readName_eq_some_iff {close : Char} {cs name rest : List Char} :
    readName close cs = some (name, rest) ↔
      cs = Text.doubleChars close name ++ close :: rest ∧ rest.head? ≠ some close := by
  constructor
  · intro h
    fun_induction readName close cs generalizing name rest with
    | case1 => cases h
    | case2 =>
      obtain ⟨rfl, rfl⟩ := Prod.mk.inj (Option.some.inj h)
      exact ⟨rfl, by simp⟩
    | case3 => cases h
    | case4 rest' ih =>
      obtain ⟨⟨inner, after⟩, hread, hr⟩ := Option.map_eq_some_iff.mp h
      obtain ⟨rfl, rfl⟩ := Prod.mk.inj hr
      obtain ⟨rfl, hafter⟩ := ih hread
      exact ⟨by simp [Text.doubleChars], hafter⟩
    | case5 n rest' hn =>
      obtain ⟨rfl, rfl⟩ := Prod.mk.inj (Option.some.inj h)
      exact ⟨rfl, fun hhead => hn (Option.some.inj hhead)⟩
    | case6 c n rest' hc ih =>
      obtain ⟨⟨inner, after⟩, hread, hr⟩ := Option.map_eq_some_iff.mp h
      obtain ⟨rfl, rfl⟩ := Prod.mk.inj hr
      obtain ⟨hcs, hafter⟩ := ih hread
      exact ⟨by rw [hcs, Text.doubleChars, if_neg hc, List.cons_append], hafter⟩
  · rintro ⟨rfl, hrest⟩
    exact readName_quoted close name rest hrest

theorem skipText?_eq_some_iff {t : String} {cs rest : List Char} :
    skipText? t cs = some rest ↔ cs = t.toList ++ rest := by
  constructor
  · intro h
    rw [skipText?] at h
    split at h
    · rename_i hfront
      obtain ⟨after, rfl⟩ := List.isPrefixOf_iff_prefix.mp hfront
      rw [← Option.some.inj h, List.drop_left]
    · cases h
  · rintro rfl
    exact skipText?_append t rest

/-- The schema that a name is qualified by: none if it is absent or empty. -/
def qualifier? (schema : Option String) : Option String := schema.filter fun s => !s.isEmpty

theorem qualifier?_some (s : String) :
    qualifier? (some s) = if s.isEmpty then none else some s := by
  cases hs : s.isEmpty
  · exact Option.filter_some_pos (by rw [hs]; rfl)
  · exact Option.filter_some_neg (by rw [hs]; rfl)

theorem qualifier?_qualifier? (schema : Option String) :
    qualifier? (qualifier? schema) = qualifier? schema := by
  rw [qualifier?, qualifier?, Option.filter_filter]
  simp only [Bool.and_self]

end Sql

namespace Dialect

open Sql

variable (d : Dialect)

/-- **A name is read just where it is quoted**, whatever it holds: the text is the quoted
name and what follows, and that does not go on with the closing quote. -/
theorem readName?_eq_some_iff {cs rest : List Char} {name : String} :
    d.readName? cs = some (name, rest) ↔
      cs = (d.quote name).toList ++ rest ∧ rest.head? ≠ some d.quoteClose := by
  constructor
  · intro h
    cases cs with
    | nil => cases h
    | cons c cs =>
      rw [readName?, readBetween?] at h
      split at h
      · rename_i hopen
        obtain ⟨⟨inner, after⟩, hread, hr⟩ := Option.map_eq_some_iff.mp h
        obtain ⟨rfl, rfl⟩ := Prod.mk.inj hr
        obtain ⟨rfl, hafter⟩ := readName_eq_some_iff.mp hread
        exact ⟨by simp [quote, quoteChars, hopen], hafter⟩
      · cases h
  · rintro ⟨rfl, hrest⟩
    exact d.readName?_append name rest hrest

/-! ### Rows of names -/

/-- A text that can stand between quoted names: it begins, and not with the closing
quote. -/
def Separates (between : String) : Prop :=
  ∃ c ∈ between.toList.head?, c ≠ d.quoteClose

/-- Names as they are written in a row. -/
def quoteRow (between : String) (names : List String) : String :=
  Text.join between (names.map d.quote)

/-- Reads names, at least one, as long as `between` follows; `fuel` is at least their
number. -/
def readNamesFrom? (between : String) : Nat → List Char → Option (List String × List Char)
  | 0, _ => none
  | fuel + 1, cs =>
    (d.readName? cs).bind fun (name, rest) =>
      match skipText? between rest with
      | none => some ([name], rest)
      | some next =>
        (readNamesFrom? between fuel next).map fun (names, rest) => (name :: names, rest)

/-- Reads names with `between` between them; there are none if no name begins. -/
def readNames? (between : String) (cs : List Char) : Option (List String × List Char) :=
  if cs.head? = some d.quoteOpen then d.readNamesFrom? between cs.length cs else some ([], cs)

/-- What may follow a row of names: nothing that a name or the row could go on with. -/
def EndsRow (between : String) : List String → List Char → Prop
  | [], rest => rest.head? ≠ some d.quoteOpen
  | _ :: _, rest => rest.head? ≠ some d.quoteClose ∧ skipText? between rest = none

variable {d} {between : String} {cs rest : List Char} {names : List String}

theorem quoteRow_cons (name : String) (hne : names ≠ []) :
    d.quoteRow between (name :: names) =
      d.quote name ++ (between ++ d.quoteRow between names) := by
  obtain ⟨next, others, rfl⟩ := List.exists_cons_of_ne_nil hne
  simp only [quoteRow, List.map_cons, Text.join, String.append_assoc]

theorem Separates.head?_append (hb : d.Separates between) (tail : List Char) :
    (between.toList ++ tail).head? ≠ some d.quoteClose := by
  obtain ⟨c, hc, hne⟩ := hb
  rw [List.head?_append, Option.mem_def.mp hc, Option.some_or]
  exact fun h => hne (Option.some.inj h)

theorem Separates.skipText?_nil (hb : d.Separates between) : skipText? between [] = none := by
  obtain ⟨c, hc, -⟩ := hb
  cases hchars : between.toList with
  | nil =>
    rw [hchars] at hc
    cases hc
  | cons x xs => simp [skipText?, hchars]

theorem of_readNamesFrom? : ∀ {fuel : Nat} {cs rest : List Char} {names : List String},
    d.readNamesFrom? between fuel cs = some (names, rest) →
      names ≠ [] ∧ cs = (d.quoteRow between names).toList ++ rest ∧
        d.EndsRow between names rest
  | 0, _, _, _, h => by cases h
  | fuel + 1, cs, rest, names, h => by
    rw [readNamesFrom?] at h
    obtain ⟨⟨name, after⟩, hname, hmore⟩ := Option.bind_eq_some_iff.mp h
    obtain ⟨rfl, hclose⟩ := d.readName?_eq_some_iff.mp hname
    cases hskip : skipText? between after with
    | none =>
      simp only [hskip] at hmore
      obtain ⟨rfl, rfl⟩ := Prod.mk.inj (Option.some.inj hmore)
      exact ⟨List.cons_ne_nil _ _, rfl, hclose, hskip⟩
    | some next =>
      simp only [hskip] at hmore
      obtain ⟨⟨others, after'⟩, hothers, hr⟩ := Option.map_eq_some_iff.mp hmore
      obtain ⟨rfl, rfl⟩ := Prod.mk.inj hr
      obtain ⟨hne, rfl, hends⟩ := of_readNamesFrom? hothers
      refine ⟨List.cons_ne_nil _ _, ?_, ?_⟩
      · rw [skipText?_eq_some_iff.mp hskip, quoteRow_cons name hne]
        simp only [String.toList_append, List.append_assoc]
      · obtain ⟨next, others, rfl⟩ := List.exists_cons_of_ne_nil hne
        exact hends

theorem readNamesFrom?_quoteRow (hb : d.Separates between) :
    ∀ {names : List String}, names ≠ [] → d.EndsRow between names rest → ∀ {fuel : Nat},
      names.length ≤ fuel →
        d.readNamesFrom? between fuel ((d.quoteRow between names).toList ++ rest) =
          some (names, rest)
  | [], hne, _, _, _ => absurd rfl hne
  | _ :: _, _, _, 0, hfuel => absurd hfuel (Nat.not_succ_le_zero _)
  | [name], _, hends, fuel + 1, _ => by
    have hname : d.readName? ((d.quoteRow between [name]).toList ++ rest) = some (name, rest) :=
      d.readName?_append name rest hends.1
    simp only [readNamesFrom?, hname, Option.bind_some, hends.2]
  | name :: next :: others, _, hends, fuel + 1, hfuel => by
    have hothers := readNamesFrom?_quoteRow hb (List.cons_ne_nil next others) hends
      (Nat.le_of_succ_le_succ hfuel)
    have hname := d.readName?_append name _
      (hb.head?_append ((d.quoteRow between (next :: others)).toList ++ rest))
    rw [quoteRow_cons name (List.cons_ne_nil next others)]
    simp only [String.toList_append, List.append_assoc, readNamesFrom?, hname, Option.bind_some,
      skipText?_append, hothers, Option.map_some]

theorem length_le_quoteRow (d : Dialect) (between : String) : ∀ names : List String,
    names.length ≤ (d.quoteRow between names).toList.length
  | [] => Nat.zero_le _
  | [name] => by simp [quoteRow, Text.join, quote, quoteChars]
  | name :: next :: others => by
    have hothers := length_le_quoteRow d between (next :: others)
    have hname : 1 ≤ (d.quote name).toList.length := by simp [quote, quoteChars]
    rw [quoteRow_cons name (List.cons_ne_nil next others)]
    simp only [String.toList_append, List.length_append, List.length_cons] at *
    omega

theorem head?_quoteRow (name : String) (names : List String) (rest : List Char) :
    ((d.quoteRow between (name :: names)).toList ++ rest).head? = some d.quoteOpen := by
  have hquote : (d.quote name).toList.head? = some d.quoteOpen := by simp [quote, quoteChars]
  cases names with
  | nil => simp [quoteRow, Text.join, hquote]
  | cons next others => simp [quoteRow_cons, hquote]

/-- **A text is read as a row of names just if it is that row**, and what follows it can go
on neither a name nor the row. -/
theorem readNames?_eq_some_iff (hb : d.Separates between) :
    d.readNames? between cs = some (names, rest) ↔
      cs = (d.quoteRow between names).toList ++ rest ∧ d.EndsRow between names rest := by
  rw [readNames?]
  constructor
  · intro h
    split at h
    · exact (of_readNamesFrom? h).2
    · rename_i hopen
      obtain ⟨rfl, rfl⟩ := Prod.mk.inj (Option.some.inj h)
      exact ⟨rfl, hopen⟩
  · rintro ⟨rfl, hends⟩
    cases names with
    | nil => exact if_neg hends
    | cons name names =>
      have hfuel := length_le_quoteRow d between (name :: names)
      rw [if_pos (head?_quoteRow name names rest)]
      refine readNamesFrom?_quoteRow hb (List.cons_ne_nil name names) hends ?_
      rw [List.length_append]
      exact Nat.le_add_right_of_le hfuel

/-- A whole text is read as a row of names just if it is that row. -/
theorem readNames?_eq_all_iff (hb : d.Separates between) :
    d.readNames? between cs = some (names, []) ↔ cs = (d.quoteRow between names).toList := by
  have hends : d.EndsRow between names [] := by
    cases names with
    | nil => exact (Option.some_ne_none _).symm
    | cons name names => exact ⟨(Option.some_ne_none _).symm, hb.skipText?_nil⟩
  rw [readNames?_eq_some_iff hb, List.append_nil]
  exact and_iff_left hends

variable (d)

theorem separates_comma : d.Separates ", " := ⟨',', rfl, by cases d <;> decide⟩

theorem separates_dot : d.Separates "." := ⟨'.', rfl, by cases d <;> decide⟩

theorem quoteQualified_eq_quoteRow (name : String) (schema : Option String) :
    d.quoteQualified name schema = d.quoteRow "." ((qualifier? schema).toList ++ [name]) := by
  cases schema with
  | none => rfl
  | some s =>
    rw [quoteQualified, qualifier?_some]
    cases s.isEmpty <;> rfl

/-- **Quoted names are read back.** A name and what follows it are read just where the name
is quoted and no other closing quote follows. A qualified name gives the schema, if it is
not empty, and the name, and nothing is left. A whole text is read as a list of names just
if it is the quoted names with commas between them. -/
theorem quotedNames_readBack :
    (∀ (cs : List Char) (name : String) (rest : List Char),
      d.readName? cs = some (name, rest) ↔
        cs = (d.quote name).toList ++ rest ∧ rest.head? ≠ some d.quoteClose) ∧
    (∀ (name : String) (schema : Option String),
      d.readNames? "." (d.quoteQualified name schema).toList =
        some ((qualifier? schema).toList ++ [name], [])) ∧
    ∀ (cs : List Char) (names : List String),
      d.readNames? ", " cs = some (names, []) ↔
        cs = (Text.join ", " (names.map d.quote)).toList := by
  refine ⟨fun _ _ _ => d.readName?_eq_some_iff, fun name schema => ?_, fun cs names => ?_⟩
  · rw [quoteQualified_eq_quoteRow]
    exact (readNames?_eq_all_iff d.separates_dot).mpr rfl
  · exact readNames?_eq_all_iff d.separates_comma

/-- A name that is a quote, and one with a quote and a comma. -/
example : postgres.readNames? ", " "\"\"\"\", \"a, \"\"b\"".toList =
    some (["\"", "a, \"b"], []) := by
  decide

end Dialect
end TableGate

/-
# Quoted texts are read back

What stands between quotes is read back whatever it holds, quotes included, before
any text that does not go on with the closing quote: a literal
(`Sql.readLiteral?_append`), a name (`Dialect.readName?_append`), and a name with a
schema in front of it (`Dialect.readQualified?_append`). So names that are qualified
alike are the same names in the same schema, where an absent schema and an empty one
are no schema (`Dialect.quoteQualified_eq_iff`).

A reader of fixed text takes it off the front (`Sql.skipText?_append`), so a statement
is read by a row of readers, one for each of its parts.

Key definitions: `Sql.skipText?`, `Sql.readBetween?`, `Sql.readLiteral?`,
`Dialect.readName?`, `Dialect.readQualified?`.
Key theorems: `Sql.readBetween?_append`, `Dialect.readQualified?_append`,
`Dialect.quoteQualified_eq_iff`.
-/
import TableGate.Proofs.Sql.Scan
import TableGate.Sql.Literal

namespace TableGate

namespace Text

theorem mem_doubleChars {c x : Char} : ∀ {cs : List Char}, x ∈ doubleChars c cs ↔ x ∈ cs
  | [] => Iff.rfl
  | y :: cs => by
    have ih := @mem_doubleChars c x cs
    by_cases hy : y = c <;> simp [doubleChars, hy, ih]

end Text

namespace Sql

/-! ### Readers of characters -/

/-- What follows a text at the front. -/
def skipText? (t : String) (cs : List Char) : Option (List Char) :=
  if t.toList.isPrefixOf cs then some (cs.drop t.toList.length) else none

theorem skipText?_append (t : String) (rest : List Char) :
    skipText? t (t.toList ++ rest) = some rest := by
  rw [skipText?, if_pos (by simp), List.drop_left]

/-- Reads a text between quotes at the front: the text and what follows it. -/
def readBetween? (opening closing : Char) : List Char → Option (String × List Char)
  | [] => none
  | c :: cs =>
    if c = opening then (readName closing cs).map fun r => (String.ofList r.1, r.2) else none

/-- **A text between quotes is read back**, whatever it holds, unless another closing
quote follows. -/
theorem readBetween?_append (opening closing : Char) (s : String) {rest : List Char}
    (h : rest.head? ≠ some closing) :
    readBetween? opening closing
      (opening :: Text.doubleChars closing s.toList ++ closing :: rest) = some (s, rest) := by
  rw [List.cons_append, readBetween?, if_pos rfl, readName_quoted closing s.toList rest h]
  simp only [Option.map_some, String.ofList_toList]

/-- Reads a literal at the front: the text and what follows it. -/
def readLiteral? (cs : List Char) : Option (String × List Char) := readBetween? '\'' '\'' cs

theorem readLiteral?_append (s : String) (rest : List Char) (h : rest.head? ≠ some '\'') :
    readLiteral? ((textLiteral s).toList ++ rest) = some (s, rest) := by
  have hchars : (textLiteral s).toList ++ rest =
      '\'' :: Text.doubleChars '\'' s.toList ++ '\'' :: rest := by
    simp [textLiteral, Text.double]
  rw [hchars]
  exact readBetween?_append '\'' '\'' s h

/-- A literal has no characters but the quote and those of its text. -/
theorem notMem_textLiteral {c : Char} {s : String} (hc : c ≠ '\'') (h : c ∉ s.toList) :
    c ∉ (textLiteral s).toList := by
  simp [textLiteral, Text.double, Text.mem_doubleChars, hc, h]

end Sql

namespace Dialect

open Sql

variable (d : Dialect)

/-! ### Names -/

/-- Reads a quoted name at the front: the name and what follows it. -/
def readName? (cs : List Char) : Option (String × List Char) :=
  readBetween? d.quoteOpen d.quoteClose cs

theorem readName?_append (s : String) (rest : List Char) (h : rest.head? ≠ some d.quoteClose) :
    d.readName? ((d.quote s).toList ++ rest) = some (s, rest) := by
  have hchars : (d.quote s).toList ++ rest =
      d.quoteOpen :: Text.doubleChars d.quoteClose s.toList ++ d.quoteClose :: rest := by
    simp [quote, quoteChars]
  rw [hchars]
  exact readBetween?_append _ _ s h

/-- Reads a name at the front, and the schema that it is qualified by or an empty
one. -/
def readQualified? (cs : List Char) : Option ((String × String) × List Char) :=
  match d.readName? cs with
  | none => none
  | some (schema, '.' :: rest) => (d.readName? rest).map fun r => ((schema, r.1), r.2)
  | some (name, rest) => some (("", name), rest)

theorem readQualified?_of_name {cs rest : List Char} {name : String}
    (h : d.readName? cs = some (name, rest)) (hdot : rest.head? ≠ some '.') :
    d.readQualified? cs = some (("", name), rest) := by
  rw [readQualified?, h]
  cases rest with
  | nil => rfl
  | cons c rest =>
    have hc : c ≠ '.' := fun hc => hdot (by rw [hc]; rfl)
    split <;> simp_all

/-- **A qualified name is read back** into its schema and its name. -/
theorem readQualified?_append (name : String) (schema : Option String) (rest : List Char)
    (hclose : rest.head? ≠ some d.quoteClose) (hdot : rest.head? ≠ some '.') :
    d.readQualified? ((d.quoteQualified name schema).toList ++ rest) =
      some ((schema.getD "", name), rest) := by
  have hname := d.readName?_append name rest hclose
  unfold quoteQualified
  split
  · exact d.readQualified?_of_name hname hdot
  · rename_i s
    split
    · rename_i hempty
      rw [Option.getD_some, String.isEmpty_iff.mp hempty]
      exact d.readQualified?_of_name hname hdot
    · have hchars : (d.quote s ++ "." ++ d.quote name).toList ++ rest =
          (d.quote s).toList ++ '.' :: ((d.quote name).toList ++ rest) := by simp
      have hpoint : some '.' ≠ some d.quoteClose := by cases d <;> decide
      have hschema : d.readName? ((d.quote s).toList ++ '.' :: ((d.quote name).toList ++ rest)) =
          some (s, '.' :: ((d.quote name).toList ++ rest)) := d.readName?_append s _ hpoint
      rw [hchars, readQualified?, hschema]
      simp only [hname, Option.map_some, Option.getD_some]

/-- **Names that are qualified alike are the same**, and so are their schemas. -/
theorem quoteQualified_eq_iff {name name' : String} {schema schema' : Option String} :
    d.quoteQualified name schema = d.quoteQualified name' schema' ↔
      name = name' ∧ schema.getD "" = schema'.getD "" := by
  constructor
  · intro h
    have hread := d.readQualified?_append name schema [] (by simp) (by simp)
    have hread' := d.readQualified?_append name' schema' [] (by simp) (by simp)
    rw [h, hread'] at hread
    obtain ⟨hschema, hname⟩ := Prod.mk.inj (Prod.mk.inj (Option.some.inj hread)).1
    exact ⟨hname.symm, hschema.symm⟩
  · rintro ⟨rfl, hschema⟩
    have hplain : ∀ schema : Option String, d.quoteQualified name schema =
        d.quoteQualified name (some (schema.getD "")) := by
      intro schema
      cases schema <;> rfl
    rw [hplain schema, hschema, ← hplain schema']

/-- A qualified name has no characters but those of the names and what is put around
them. -/
theorem notMem_quoteQualified {c : Char} {name schema : String}
    (hc : c ∉ [d.quoteOpen, d.quoteClose, '.']) (hname : c ∉ name.toList)
    (hschema : c ∉ schema.toList) : c ∉ (d.quoteQualified name (some schema)).toList := by
  have hquote : ∀ s : String, c ∉ s.toList → c ∉ (d.quote s).toList := fun s hs => by
    simp_all [quote, quoteChars, Text.mem_doubleChars]
  rw [quoteQualified]
  split
  · exact hquote name hname
  · simp_all

/-- Brackets in a name do not make it a qualified one. -/
example : sqlServer.readQualified? "[a]].[b]()".toList = some (("", "a].[b"), "()".toList) := by
  decide

end Dialect
end TableGate

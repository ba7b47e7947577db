/-
# The script of tables, read back

The script of a schema that holds tables only is read back as the statements it was
made of, whatever the names in it: the tables in their order, then the foreign keys,
then the indexes other than that of the primary key, table by table (`split_tables`).
So nothing is cut inside of a name, and nothing is lost.

What stands outside of the names is fixed, but for the types and their lengths. If the
types are plain words and no column has a default, each statement is a calm text behind
its first word. The parts of statements are calm before a text that a word may stand
before (`KeepsCalm`); parts that begin with a blank or a parenthesis may themselves
stand behind a word (`KeepsEnd`).

Key definitions: `Statement.KeepsCalm`, `Statement.KeepsEnd`, `Ddl.withHead`.
Key theorems: `Statement.keepsCalm_joinPieces`, `Ddl.keepsCalm_columnDefinition`,
`Ddl.createTable_spec`, `Ddl.addForeignKey_spec`, `Ddl.createIndex_spec`,
`Ddl.split_tables`.
-/
import TableGate.Proofs.Schema.Export
import TableGate.Proofs.Sql.Calm

namespace TableGate

open Sql

namespace Statement

variable {d : Dialect} {s t : Statement}

/-! ### Calm parts of statements -/

/-- The text of the part is calm before a text that a word may stand before. -/
def KeepsCalm (d : Dialect) (s : Statement) : Prop :=
  ∀ index cs, CalmEnd d cs → Calm d ((textFrom d index s).toList ++ cs)

/-- The part may, besides, itself stand behind a word. -/
def KeepsEnd (d : Dialect) (s : Statement) : Prop :=
  ∀ index cs, CalmEnd d cs → CalmEnd d ((textFrom d index s).toList ++ cs)

theorem keepsEnd_nil (d : Dialect) : KeepsEnd d [] := fun _ _ h => h

theorem KeepsEnd.keepsCalm (h : KeepsEnd d s) : KeepsCalm d s :=
  fun index cs hcs => (h index cs hcs).1

theorem KeepsCalm.append (hs : KeepsCalm d s) (ht : KeepsEnd d t) : KeepsCalm d (s ++ t) := by
  intro index cs hcs
  rw [textFrom_append, String.toList_append, List.append_assoc]
  exact hs _ _ (ht _ _ hcs)

theorem KeepsEnd.append (hs : KeepsEnd d s) (ht : KeepsEnd d t) : KeepsEnd d (s ++ t) := by
  intro index cs hcs
  rw [textFrom_append, String.toList_append, List.append_assoc]
  exact hs _ _ (ht _ _ hcs)

theorem calm_name (n : String) {cs : List Char} (hcs : CalmEnd d cs) :
    Calm d ((d.quote n).toList ++ cs) := by
  have hclose : endsWord d.quoteClose = false := by cases d <;> decide
  rw [Dialect.quote, String.toList_ofList]
  refine .name ?_ hcs.1
  intro hhead
  have hends := hcs.2 _ hhead
  rw [hclose] at hends
  cases hends

theorem KeepsEnd.name (n : String) (hs : KeepsEnd d s) : KeepsCalm d (.name n :: s) := by
  intro index cs hcs
  rw [textFrom, String.toList_append, List.append_assoc]
  exact calm_name n (hs _ _ hcs)

theorem KeepsCalm.text {x : String} (hx : isCalmFrom [] x.toList = true)
    (hlast : ∀ c ∈ x.toList.getLast?, isInWord c = false) (hs : KeepsCalm d s) :
    KeepsCalm d (.text x :: s) := by
  intro index cs hcs
  rw [textFrom, String.toList_append, List.append_assoc]
  exact (hs _ _ hcs).text hx hlast

theorem KeepsEnd.text {x : String} (hx : isCalmFrom [] x.toList = true)
    (hlast : ∀ c ∈ x.toList.getLast?, isInWord c = false)
    (hfirst : x.toList.head?.any endsWord = true) (hs : KeepsCalm d s) :
    KeepsEnd d (.text x :: s) := by
  intro index cs hcs
  rw [textFrom, String.toList_append, List.append_assoc]
  exact (hs _ _ hcs).fixed hx hlast hfirst

theorem keepsEnd_singleton {x : String} (hx : isCalmFrom [] x.toList = true)
    (hfirst : ∀ c ∈ x.toList.head?, endsWord c = true) : KeepsEnd d [.text x] := by
  intro index cs hcs
  rw [Ddl.textFrom_singleton]
  exact hcs.fixed hx hfirst

theorem keepsCalm_qualifiedName (d : Dialect) (name : String) (schema : Option String) :
    KeepsCalm d (qualifiedName name schema) := by
  have hname : KeepsCalm d [.name name] := (keepsEnd_nil d).name name
  cases schema with
  | none => exact hname
  | some schema =>
    rw [qualifiedName]
    split
    · exact hname
    · intro index cs hcs
      have hpoint : ('.' :: ((d.quote name).toList ++ cs)).head? ≠ some d.quoteClose := by
        cases d <;> simp [Dialect.quoteClose]
      have hqualified : Calm d ('.' :: ((d.quote name).toList ++ cs)) :=
        .mark (by decide) (calm_name name hcs)
      have hchars : (textFrom d index [.name schema, .text ".", .name name]).toList ++ cs =
          d.quoteChars schema.toList ++ ('.' :: ((d.quote name).toList ++ cs)) := by
        simp [textFrom, Dialect.quote]
      rw [hchars]
      exact .name hpoint hqualified

theorem keepsCalm_joinPieces {between : String} (hx : isCalmFrom [] between.toList = true)
    (hlast : ∀ c ∈ between.toList.getLast?, isInWord c = false)
    (hfirst : between.toList.head?.any endsWord = true) (ss : List Statement)
    (h : ∀ s ∈ ss, KeepsCalm d s) : KeepsCalm d (joinPieces between ss) := by
  fun_induction joinPieces between ss with
  | case1 => exact (keepsEnd_nil d).keepsCalm
  | case2 s => exact h s List.mem_cons_self
  | case3 s t rest ih =>
    exact (h s List.mem_cons_self).append
      (.text hx hlast hfirst (ih fun u hu => h u (List.mem_cons_of_mem s hu)))

theorem keepsCalm_nameList (d : Dialect) (names : List String) :
    KeepsCalm d (nameList names) := by
  refine keepsCalm_joinPieces (by decide +kernel) (by decide) (by decide) _ fun s hs => ?_
  obtain ⟨n, -, rfl⟩ := List.mem_map.mp hs
  exact (keepsEnd_nil d).name n

end Statement

namespace Ddl

open Statement

variable {d : Dialect}

/-! ### Columns -/

theorem calmEnd_parentheses {x : String} {cs : List Char}
    (hx : ∀ cs, CalmEnd d cs → Calm d (x.toList ++ cs)) (hcs : CalmEnd d cs) :
    CalmEnd d (("(" ++ x ++ ")").toList ++ cs) := by
  have hclose : CalmEnd d (')' :: cs) := calmEnd_mark (by decide) hcs.1
  have hopen : CalmEnd d ('(' :: (x.toList ++ ')' :: cs)) :=
    calmEnd_mark (by decide) (hx _ hclose)
  simpa using hopen

/-- What stands behind a type begins with a parenthesis, if it is there. -/
theorem columnType_cases (d : Dialect) (c : Column) :
    ∃ suffix, columnType d c = c.dataType ++ suffix ∧
      ∀ cs, CalmEnd d cs → CalmEnd d (suffix.toList ++ cs) := by
  have hempty : ∀ cs, CalmEnd d cs → CalmEnd d ("".toList ++ cs) := fun cs hcs => hcs
  have hinteger : ∀ n : Int, ∀ cs, CalmEnd d cs →
      CalmEnd d (("(" ++ toString n ++ ")").toList ++ cs) :=
    fun n cs hcs => calmEnd_parentheses (fun _ h => h.integer n) hcs
  have hpair : ∀ p s : Int, ∀ cs, CalmEnd d cs →
      CalmEnd d (("(" ++ toString p ++ "," ++ toString s ++ ")").toList ++ cs) := by
    intro p s cs hcs
    have hinside : ∀ cs, CalmEnd d cs →
        Calm d ((toString p ++ "," ++ toString s).toList ++ cs) := by
      intro cs hcs
      have hcomma : CalmEnd d (',' :: ((toString s).toList ++ cs)) :=
        calmEnd_mark (by decide) (hcs.integer s)
      simpa using hcomma.integer p
    have hassoc : "(" ++ toString p ++ "," ++ toString s ++ ")" =
        "(" ++ (toString p ++ "," ++ toString s) ++ ")" := by simp only [String.append_assoc]
    rw [hassoc]
    exact calmEnd_parentheses hinside hcs
  have hlength : ∀ cs, CalmEnd d cs →
      CalmEnd d (((lengthSuffix? d c).getD "").toList ++ cs) := by
    unfold lengthSuffix?
    split
    · exact hempty
    split
    · exact fun cs hcs => hcs.fixed (by decide +kernel) (by decide)
    split
    · exact hinteger _
    · exact hempty
  have hprecision : ∀ cs, CalmEnd d cs →
      CalmEnd d (((precisionSuffix? c).getD "").toList ++ cs) := by
    unfold precisionSuffix?
    split
    · exact hempty
    · exact hinteger _
    · exact hpair _ _
  unfold columnType
  dsimp only
  split
  · exact ⟨"", String.append_empty.symm, hempty⟩
  split
  · exact ⟨_, rfl, hlength⟩
  split
  · exact ⟨_, rfl, hprecision⟩
  · exact ⟨"", String.append_empty.symm, hempty⟩

theorem keepsCalm_columnDefinition {c : Column} (htype : IsPlainType c.dataType)
    (hdefault : c.default = none) : KeepsCalm d (columnDefinition d c) := by
  refine KeepsEnd.name c.name fun index cs hcs => ?_
  obtain ⟨suffix, hcolumn, hsuffix⟩ := columnType_cases d c
  have hclause : defaultClause c = "" := by rw [defaultClause, hdefault]
  have hnull : CalmEnd d ((if c.nullable then "" else " NOT NULL").toList ++ cs) := by
    split
    · exact hcs
    · exact hcs.fixed (by decide +kernel) (by decide)
  have hidentity : CalmEnd d ((if c.isIdentity then identityWords d else "").toList ++
      ((if c.nullable then "" else " NOT NULL").toList ++ cs)) := by
    split
    · cases d
      · exact hnull.fixed (by decide +kernel) (by decide)
      · exact hnull.fixed (by decide +kernel) (by decide)
    · exact hnull
  have hblank := calmEnd_blank (by decide : Text.isBlank ' ' = true)
    ((hsuffix _ hidentity).text htype.isCalmFrom)
  rw [textFrom_singleton, hcolumn, hclause]
  simpa using hblank

/-! ### Statements -/

/-- The text begins and ends with characters that are no blanks. -/
def IsTrimmed (w : String) : Prop :=
  (∃ c ∈ w.toList.head?, Text.isBlank c = false) ∧ ∃ c ∈ w.toList.getLast?, Text.isBlank c = false

/-- The text is cut off by a semicolon as it stands. -/
def IsWhole (d : Dialect) (w : String) : Prop := IsStatement d.lexicon w.toList ∧ IsTrimmed w

/-- A calm text behind a first word that is no command makes it a statement. -/
theorem isWhole_of_keepsEnd {first x : String} {c : Char} {w : List Char}
    (hfirst : first.toList = c :: w) (hw : ∀ x ∈ c :: w, isInWord x = true)
    (hentry : ∀ rest, d.lexicon.entryAt? (c :: w ++ rest) = none)
    (hdigit : Text.isAsciiDigit c = false) (hkind : d.lexicon.wordKind (c :: w) = .other)
    {s : Statement} (hs : KeepsEnd d (.text x :: s))
    (hlast : ∃ c ∈ (textFrom d 0 (.text x :: s)).toList.getLast?, Text.isBlank c = false) :
    IsWhole d (Statement.text d (.text (first ++ x) :: s)) := by
  have hend := hs 0 [] ⟨.nil, by simp⟩
  rw [List.append_nil] at hend
  have hchars : (Statement.text d (.text (first ++ x) :: s)).toList =
      c :: w ++ (textFrom d 0 (.text x :: s)).toList := by
    rw [Statement.text, textFrom, textFrom, String.append_assoc, String.toList_append, hfirst]
  obtain ⟨z, hz, hblank⟩ := hlast
  refine ⟨?_, ⟨c, ?_, isBlank_of_isInWord (hw c List.mem_cons_self)⟩, z, ?_, hblank⟩
  · rw [hchars]
    exact isStatement_of_calm hw hentry hdigit hkind hend.2 hend.1
  · rw [hchars]
    rfl
  · rw [hchars, List.getLast?_append, Option.mem_def.mp hz]
    rfl

theorem isWhole_create {x : String} {s : Statement} (hs : KeepsEnd d (.text x :: s))
    (hlast : ∃ c ∈ (textFrom d 0 (.text x :: s)).toList.getLast?, Text.isBlank c = false) :
    IsWhole d (Statement.text d (.text ("CREATE" ++ x) :: s)) := by
  have hchars : "CREATE".toList = 'C' :: ['R', 'E', 'A', 'T', 'E'] := rfl
  refine isWhole_of_keepsEnd hchars (by decide) (fun rest => ?_) (by decide) ?_ hs hlast
  · cases d <;> rfl
  · cases d <;> decide +kernel

theorem isWhole_alter {x : String} {s : Statement} (hs : KeepsEnd d (.text x :: s))
    (hlast : ∃ c ∈ (textFrom d 0 (.text x :: s)).toList.getLast?, Text.isBlank c = false) :
    IsWhole d (Statement.text d (.text ("ALTER" ++ x) :: s)) := by
  have hchars : "ALTER".toList = 'A' :: ['L', 'T', 'E', 'R'] := rfl
  refine isWhole_of_keepsEnd hchars (by decide) (fun rest => ?_) (by decide) ?_ hs hlast
  · cases d <;> rfl
  · cases d <;> decide +kernel

theorem last_textFrom (d : Dialect) (index : Nat) (s : Statement) {z : String}
    (hz : ∃ c ∈ z.toList.getLast?, Text.isBlank c = false) :
    ∃ c ∈ (textFrom d index (s ++ [.text z])).toList.getLast?, Text.isBlank c = false := by
  obtain ⟨c, hc, hblank⟩ := hz
  refine ⟨c, ?_, hblank⟩
  rw [textFrom_append, textFrom_singleton, String.toList_append, List.getLast?_append,
    Option.mem_def.mp hc]
  rfl

/-- **A table of plain types is one statement.** -/
theorem createTable_spec {t : Table}
    (h : ∀ c ∈ t.columns, IsPlainType c.dataType ∧ c.default = none) :
    IsWhole d ((createTable d t).text d) := by
  have hlines : KeepsCalm d (joinPieces ",\n  "
      (t.columns.map (columnDefinition d) ++ primaryKeyClause t.primaryKeys)) := by
    refine keepsCalm_joinPieces (by decide +kernel) (by decide) (by decide) _ fun s hs => ?_
    rcases List.mem_append.mp hs with hcolumn | hkey
    · obtain ⟨c, hc, rfl⟩ := List.mem_map.mp hcolumn
      exact keepsCalm_columnDefinition (h c hc).1 (h c hc).2
    · rw [primaryKeyClause] at hkey
      split at hkey
      · cases hkey
      · obtain rfl := List.mem_singleton.mp hkey
        have hclose : KeepsEnd d [.text ")"] := keepsEnd_singleton (by decide +kernel) (by decide)
        exact ((keepsCalm_nameList d t.primaryKeys).append hclose).text (by decide +kernel)
          (by decide)
  have hclose : KeepsEnd d [.text "\n)"] := keepsEnd_singleton (by decide +kernel) (by decide)
  have hbody : KeepsCalm d (qualifiedName t.name (some t.schema) ++ .text " (\n  " ::
      joinPieces ",\n  " (t.columns.map (columnDefinition d) ++ primaryKeyClause t.primaryKeys) ++
      [.text "\n)"]) :=
    ((keepsCalm_qualifiedName d t.name (some t.schema)).append
      (.text (by decide +kernel) (by decide) (by decide) hlines)).append hclose
  have hword : "CREATE TABLE " = "CREATE" ++ " TABLE " := by simp
  have htable : KeepsEnd d (.text " TABLE " :: _) :=
    .text (by decide +kernel) (by decide) (by decide) hbody
  rw [createTable, hword]
  exact isWhole_create htable (last_textFrom d 0 (_ :: _) (by decide))

/-- **A foreign key is one statement**, whatever its names. -/
theorem addForeignKey_spec (d : Dialect) (table : String) (schema : Option String)
    (k : ForeignKey) : IsWhole d ((addForeignKey table schema k).text d) := by
  have hactions : KeepsEnd d
      [.text (") ON DELETE " ++ k.onDelete.text ++ " ON UPDATE " ++ k.onUpdate.text)] := by
    have hcalm : ∀ a : ReferentialAction, isCalmFrom [] a.text.toList = true := by
      intro a
      cases a <;> decide +kernel
    intro index cs hcs
    have hupdate : CalmEnd d (" ON UPDATE ".toList ++ (k.onUpdate.text.toList ++ cs)) :=
      (hcs.text (hcalm _)).fixed (by decide +kernel) (by decide) (by decide)
    have hdelete : CalmEnd d (") ON DELETE ".toList ++ (k.onDelete.text.toList ++
        (" ON UPDATE ".toList ++ (k.onUpdate.text.toList ++ cs)))) :=
      (hupdate.text (hcalm _)).fixed (by decide +kernel) (by decide) (by decide)
    rw [textFrom_singleton, String.toList_append, String.toList_append, String.toList_append,
      List.append_assoc, List.append_assoc, List.append_assoc]
    exact hdelete
  have hlast : ∃ c ∈ (") ON DELETE " ++ k.onDelete.text ++ " ON UPDATE " ++
      k.onUpdate.text).toList.getLast?, Text.isBlank c = false := by
    obtain ⟨c, hc, hblank⟩ : ∃ c ∈ k.onUpdate.text.toList.getLast?, Text.isBlank c = false := by
      cases k.onUpdate <;> decide
    refine ⟨c, ?_, hblank⟩
    rw [String.toList_append, List.getLast?_append, Option.mem_def.mp hc]
    rfl
  have hnames : KeepsEnd d (.text " FOREIGN KEY (" :: nameList k.columns) :=
    .text (by decide +kernel) (by decide) (by decide) (keepsCalm_nameList d k.columns)
  have hcolumns : KeepsEnd d (.text " ADD CONSTRAINT " :: .name k.name ::
      .text " FOREIGN KEY (" :: nameList k.columns) :=
    .text (by decide +kernel) (by decide) (by decide) (hnames.name k.name)
  have htarget : KeepsEnd d (.text ") REFERENCES " ::
      qualifiedName k.referencedTable (targetSchema k schema)) :=
    .text (by decide +kernel) (by decide) (by decide) (keepsCalm_qualifiedName d _ _)
  have hreferenced : KeepsEnd d (.text " (" :: nameList k.referencedColumns) :=
    .text (by decide +kernel) (by decide) (by decide) (keepsCalm_nameList d _)
  have hbody := ((((keepsCalm_qualifiedName d table schema).append hcolumns).append
    htarget).append hreferenced).append hactions
  have hword : "ALTER TABLE " = "ALTER" ++ " TABLE " := by simp
  have htable : KeepsEnd d (.text " TABLE " :: _) :=
    .text (by decide +kernel) (by decide) (by decide) hbody
  rw [addForeignKey, hword]
  exact isWhole_alter htable (last_textFrom d 0 (_ :: _) hlast)

/-- **An index is one statement**, whatever its names. -/
theorem createIndex_spec (d : Dialect) (table : String) (schema : Option String) (i : Index) :
    IsWhole d ((createIndex table schema i).text d) := by
  have htarget : KeepsEnd d (.text " ON " :: qualifiedName table schema) :=
    .text (by decide +kernel) (by decide) (by decide) (keepsCalm_qualifiedName d _ _)
  have hcolumns : KeepsEnd d (.text " (" :: nameList i.columns) :=
    .text (by decide +kernel) (by decide) (by decide) (keepsCalm_nameList d _)
  have hclose : KeepsEnd d [.text ")"] := keepsEnd_singleton (by decide +kernel) (by decide)
  have hbody := KeepsEnd.name i.name ((htarget.append hcolumns).append hclose)
  obtain ⟨words, hwords, hcalm, hlast, hfirst⟩ : ∃ words : String,
      (if i.isUnique then "CREATE UNIQUE INDEX " else "CREATE INDEX ") = "CREATE" ++ words ∧
        isCalmFrom [] words.toList = true ∧ (∀ c ∈ words.toList.getLast?, isInWord c = false) ∧
        words.toList.head?.any endsWord = true := by
    cases i.isUnique
    · exact ⟨" INDEX ", by simp, by decide +kernel, by decide, by decide⟩
    · exact ⟨" UNIQUE INDEX ", by simp, by decide +kernel, by decide, by decide⟩
  have hindex : KeepsEnd d (.text words :: _) := .text hcalm hlast hfirst hbody
  rw [createIndex, hwords]
  exact isWhole_create hindex (last_textFrom d 0 (_ :: _) (by decide))

/-! ### Scripts -/

/-- Statements as they stand in a script: the head is before the first one. -/
def withHead (schema generated : String) : List String → List String
  | [] => []
  | w :: ws => (exportHead schema generated ++ "\n\n" ++ w) :: ws

theorem IsTrimmed.trim_eq {w : String} (h : IsTrimmed w) : Text.trim w = w := by
  obtain ⟨⟨c, hc, hblank⟩, z, hz, hblank'⟩ := h
  refine Text.trim_eq_self (fun x hx => ?_) fun x hx => ?_
  · rw [Option.mem_def] at hc hx
    rwa [← Option.some.inj (hc.symm.trans hx)]
  · rw [Option.mem_def] at hz hx
    rwa [← Option.some.inj (hz.symm.trans hx)]

theorem isTrimmed_exportHead_append {w : String} (schema generated : String) (h : IsTrimmed w) :
    IsTrimmed (exportHead schema generated ++ "\n\n" ++ w) := by
  obtain ⟨-, z, hz, hblank⟩ := h
  have hhead : "-- Schema export for ".toList.head? = some '-' := by decide
  refine ⟨⟨'-', ?_, by decide⟩, z, ?_, hblank⟩
  · unfold exportHead
    simp only [String.append_assoc]
    rw [String.toList_append, List.head?_append, hhead, Option.some_or, Option.mem_def]
  · rw [String.toList_append, List.getLast?_append, Option.mem_def.mp hz]
    rfl

/-- Statements without blanks around them are read back as they stand. -/
theorem exported_of_isTrimmed {ws : List String} (schema generated : String)
    (h : ∀ w ∈ ws, IsTrimmed w) : exported schema generated ws = withHead schema generated ws := by
  cases ws with
  | nil => rfl
  | cons w ws =>
    have hfirst := isTrimmed_exportHead_append schema generated (h w List.mem_cons_self)
    have hrest : ws.map Text.trim = ws := by
      refine (List.map_congr_left fun x hx => ?_).trans (List.map_id ws)
      exact (h x (List.mem_cons_of_mem w hx)).trim_eq
    rw [exported_cons, hfirst.trim_eq, hrest, withHead]

theorem schemaStatements_tables (d : Dialect) (tables : List Table) :
    schemaStatements d tables [] [] =
      tables.map (fun t => (createTable d t).text d) ++
        tables.flatMap (fun t => t.foreignKeys.map fun k =>
          (addForeignKey t.name (some t.schema) k).text d) ++
        tables.flatMap (fun t => (t.indexes.filter fun i => !i.isPrimary).map fun i =>
          (createIndex t.name (some t.schema) i).text d) := by
  simp [schemaStatements, List.map_flatMap, Function.comp_def]

/-- **The script of tables is read back as its statements**: the tables in their order,
then the foreign keys, then the indexes other than that of the primary key. -/
theorem split_tables {d : Dialect} {schema generated : String} (hschema : IsLine schema)
    (hgenerated : IsLine generated) {tables : List Table}
    (htypes : ∀ t ∈ tables, ∀ c ∈ t.columns, IsPlainType c.dataType ∧ c.default = none) :
    splitStatements (schemaScript d schema generated tables [] []) (some d.name) =
      .ok (withHead schema generated
        (tables.map (fun t => (createTable d t).text d) ++
          tables.flatMap (fun t => t.foreignKeys.map fun k =>
            (addForeignKey t.name (some t.schema) k).text d) ++
          tables.flatMap (fun t => (t.indexes.filter fun i => !i.isPrimary).map fun i =>
            (createIndex t.name (some t.schema) i).text d))) := by
  have hwhole : ∀ w ∈ schemaStatements d tables [] [], IsWhole d w := by
    intro w hw
    rw [schemaStatements_tables, List.mem_append, List.mem_append, List.mem_map, List.mem_flatMap,
      List.mem_flatMap] at hw
    rcases hw with (⟨t, ht, rfl⟩ | ⟨t, -, hw⟩) | ⟨t, -, hw⟩
    · exact createTable_spec (htypes t ht)
    · obtain ⟨k, -, rfl⟩ := List.mem_map.mp hw
      exact addForeignKey_spec d _ _ k
    · obtain ⟨i, -, rfl⟩ := List.mem_map.mp hw
      exact createIndex_spec d _ _ i
  rw [← schemaStatements_tables,
    ← exported_of_isTrimmed schema generated fun w hw => (hwhole w hw).2]
  rw [splitStatements_eq]
  exact (split_schemaScript_iff hschema hgenerated tables [] []).mpr fun w hw => (hwhole w hw).1

/-- A table with a semicolon, a comment and words for blocks in its names. -/
def trickyTable : Table where
  schema := "a]b"
  name := "x; -- BEGIN"
  columns := [⟨"id", "int", false, none, true, none, none, none⟩,
    ⟨"CASE", "varchar", true, none, false, some 20, none, none⟩]
  primaryKeys := ["id"]
  foreignKeys := [⟨"fk;", ["CASE"], none, "END", ["k"], .cascade, .noAction, rfl⟩]
  indexes := [⟨"pk", ["id"], true, true⟩, ⟨"i'", ["CASE"], false, false⟩]
  keyed := by decide

theorem split_tables_tricky :
    IsLine "app" ∧ IsLine "now" ∧
      (∀ t ∈ [trickyTable], ∀ c ∈ t.columns, IsPlainType c.dataType ∧ c.default = none) ∧
      splitStatements (schemaScript .sqlServer "app" "now" [trickyTable] [] [])
          (some Dialect.sqlServer.name) =
        .ok [exportHead "app" "now" ++ "\n\nCREATE TABLE [a]]b].[x; -- BEGIN] (\n" ++
            "  [id] int IDENTITY(1,1) NOT NULL,\n  [CASE] varchar(20),\n  PRIMARY KEY ([id])\n)",
          "ALTER TABLE [a]]b].[x; -- BEGIN] ADD CONSTRAINT [fk;] FOREIGN KEY ([CASE]) " ++
            "REFERENCES [a]]b].[END] ([k]) ON DELETE CASCADE ON UPDATE NO ACTION",
          "CREATE INDEX [i'] ON [a]]b].[x; -- BEGIN] ([CASE])"] := by
  have hschema : IsLine "app" := by decide
  have hgenerated : IsLine "now" := by decide
  have htypes : ∀ t ∈ [trickyTable], ∀ c ∈ t.columns,
      IsPlainType c.dataType ∧ c.default = none := by decide +kernel
  refine ⟨hschema, hgenerated, htypes, ?_⟩
  have hsplit := split_tables (d := .sqlServer) hschema hgenerated htypes
  refine hsplit.trans (congrArg Except.ok ?_)
  decide +kernel

end Ddl
end TableGate

/-
# An exported schema that is read back

The script of a schema is a head of comment lines and the statements of its objects,
each with a semicolon behind it. Read back, it gives these statements, the first one
with the head before it, exactly if each of them is cut off by its semicolon
(`split_schemaScript_iff`).

The statements of views and functions hold text of the backend, which may end with a
comment that takes the semicolon along, or with a block that is still open. Then the
statement and the next one are read as one (`schemaScript_glued`), although each
definition by itself is one statement. So the condition is about a definition with the
semicolon behind it (`split_definitions_iff`), and it can be checked definition by
definition.

Key definitions: `IsLine`, `exportHead`, `exported`, `definitions`.
Key theorems: `isGap_exportHead`, `split_schemaScript_iff`, `statements_definitions`,
`split_definitions_iff`, `schemaScript_glued`.
-/
import TableGate.Proofs.Sql.Statements
import TableGate.Schema.Ddl

namespace TableGate
namespace Ddl

open Sql

/-! ### The head -/

/-- The text is written on one line. -/
def IsLine (s : String) : Prop := ∀ c ∈ s.toList, c ≠ '\n' ∧ c ≠ '\r'

instance (s : String) : Decidable (IsLine s) :=
  inferInstanceAs (Decidable (∀ c ∈ s.toList, c ≠ '\n' ∧ c ≠ '\r'))

theorem isLine_append {s t : String} (hs : IsLine s) (ht : IsLine t) : IsLine (s ++ t) := by
  intro c hc
  rw [String.toList_append] at hc
  exact (List.mem_append.mp hc).elim (hs c) (ht c)

theorem entryAt?_dashes (d : Dialect) (rest : List Char) :
    d.lexicon.entryAt? ('-' :: '-' :: rest) = some ⟨"--", .comment none, ['-', '-'], rest⟩ := by
  cases d <;> rfl

theorem isGap_comment (d : Dialect) {line : String} (hline : IsLine line) :
    IsGap d.lexicon ("--" ++ line ++ "\n").toList := by
  intro rest
  have hcomment : ∀ c ∈ line.toList, (c != '\n' && c != '\r') = true := by
    intro c hc
    simpa using hline c hc
  have hstop : (line.toList ++ '\n' :: rest).takeWhile (fun c => c != '\n' && c != '\r') =
      line.toList := by
    rw [List.takeWhile_append_of_pos hcomment]
    simp
  have hrest : (line.toList ++ '\n' :: rest).dropWhile (fun c => c != '\n' && c != '\r') =
      '\n' :: rest := by
    rw [List.dropWhile_append_of_pos hcomment]
    simp
  have hread : readSegment d.lexicon false '-' ('-' :: (line.toList ++ '\n' :: rest)) =
      .ok (.gap ('-' :: '-' :: line.toList), '\n' :: rest) := by
    have hquote : d.lexicon.nameQuotes.lookup '-' = none := by cases d <;> rfl
    rw [readSegment, if_neg (by decide), if_neg (by decide), hquote, entryAt?_dashes]
    simp only [lineComment, hstop, hrest]
    rfl
  have hbreak : readSegment d.lexicon false '\n' rest = .ok (.gap ['\n'], rest) := by
    rw [readSegment, if_pos (by decide)]
  refine ⟨[.gap ('-' :: '-' :: line.toList), .gap ['\n']], ?_, by simp [Segment.kind?]⟩
  have htext : ("--" ++ line ++ "\n").toList ++ rest =
      '-' :: '-' :: (line.toList ++ '\n' :: rest) := by simp
  rw [htext]
  exact .front (readFront_of_gap hread) (.single (readFront_of_gap hbreak))

/-- The comment lines at the head of a script. -/
def exportHead (schema generated : String) : String :=
  "-- Schema export for " ++ schema ++ "\n-- Generated: " ++ generated

theorem isGap_exportHead (d : Dialect) {schema generated : String} (hschema : IsLine schema)
    (hgenerated : IsLine generated) :
    IsGap d.lexicon (exportHead schema generated ++ "\n").toList := by
  have hfirst : "-- Schema export for " = "--" ++ " Schema export for " := by simp
  have hsecond : "\n-- Generated: " = "\n" ++ "--" ++ " Generated: " := by simp
  have hlines : exportHead schema generated ++ "\n" =
      ("--" ++ (" Schema export for " ++ schema) ++ "\n") ++
        ("--" ++ (" Generated: " ++ generated) ++ "\n") := by
    unfold exportHead
    simp only [hfirst, hsecond, String.append_assoc]
  rw [hlines, String.toList_append]
  have hfirst := isGap_comment d (isLine_append (by decide : IsLine " Schema export for ") hschema)
  have hsecond := isGap_comment d (isLine_append (by decide : IsLine " Generated: ") hgenerated)
  exact hfirst.append hsecond

/-! ### The script -/

/-- The statements of a script with the head before the first one, and a blank line
before each other. -/
def sections (schema generated : String) : List String → List (List Char)
  | [] => []
  | w :: ws => ((exportHead schema generated ++ "\n\n").toList ++ w.toList) ::
      ws.map fun w => '\n' :: '\n' :: w.toList

theorem toList_join_statements (head : String) (ws : List String) :
    (Text.join "\n\n" (head :: ws.map (· ++ ";"))).toList =
      head.toList ++ ws.flatMap fun w => '\n' :: '\n' :: w.toList ++ [';'] := by
  induction ws generalizing head with
  | nil => simp [Text.join]
  | cons w ws ih =>
    rw [List.map_cons, Text.join, String.toList_append, ih]
    simp

theorem toList_schemaScript (d : Dialect) (schema generated : String) (tables : List Table)
    (views : List View) (routines : List Routine) :
    (schemaScript d schema generated tables views routines).toList =
      (exportHead schema generated).toList ++
        ((schemaStatements d tables views routines).flatMap fun w =>
          '\n' :: '\n' :: w.toList ++ [';']) ++ ['\n'] := by
  rw [schemaScript, String.toList_append]
  exact congrArg (· ++ ['\n']) (toList_join_statements (exportHead schema generated) _)

theorem toList_schemaScript_of_ne_nil {d : Dialect} {tables : List Table} {views : List View}
    {routines : List Routine} (schema generated : String)
    (h : schemaStatements d tables views routines ≠ []) :
    (schemaScript d schema generated tables views routines).toList =
      script (sections schema generated (schemaStatements d tables views routines)) := by
  obtain ⟨w, ws, hws⟩ := List.exists_cons_of_ne_nil h
  rw [toList_schemaScript, hws, sections, script]
  simp [List.flatMap_map]

/-- What is read back of statements: the head stands before the first one. -/
def exported (schema generated : String) (ws : List String) : List String :=
  ((sections schema generated ws).map Text.trimChars).map String.ofList

/-- A blank line before a statement is no part of it. -/
theorem exported_cons (schema generated w : String) (ws : List String) :
    exported schema generated (w :: ws) =
      Text.trim (exportHead schema generated ++ "\n\n" ++ w) :: ws.map Text.trim := by
  have hblanks : ∀ w : String, Text.trimChars ('\n' :: '\n' :: w.toList) =
      Text.trimChars w.toList := by
    intro w
    have hline : ∀ c ∈ ['\n', '\n'], Text.isBlank c = true := by decide
    exact Text.trimChars_append hline w.toList
  rw [exported, sections, List.map_cons, List.map_cons, List.map_map, List.map_map, Text.trim,
    ← String.toList_append]
  refine congrArg _ (List.map_congr_left fun w _ => ?_)
  rw [Function.comp_apply, Function.comp_apply, hblanks]
  rfl

theorem startsBlank_of_mem_tail_sections {schema generated : String} {ws : List String}
    {x : List Char} (hx : x ∈ (sections schema generated ws).tail) : StartsBlank x := by
  cases ws with
  | nil => simp [sections] at hx
  | cons w ws =>
    obtain ⟨w', -, rfl⟩ := List.mem_map.mp hx
    exact ⟨'\n', rfl, by decide⟩

/-- What stands before the statements of a script does not matter for them. -/
theorem forall_sections_iff {d : Dialect} {schema generated : String} (hschema : IsLine schema)
    (hgenerated : IsLine generated) (ws : List String) :
    (∀ x ∈ sections schema generated ws, IsStatement d.lexicon x) ↔
      ∀ w ∈ ws, IsStatement d.lexicon w.toList := by
  have hl := isProper_lexicon d
  have hblanks : IsGap d.lexicon ['\n', '\n'] := isGap_of_isBlank (by decide)
  have hhead : IsGap d.lexicon (exportHead schema generated ++ "\n\n").toList := by
    have hend : (exportHead schema generated ++ "\n\n").toList =
        (exportHead schema generated ++ "\n").toList ++ ['\n'] := by simp
    rw [hend]
    exact (isGap_exportHead d hschema hgenerated).append (isGap_of_isBlank (by decide))
  cases ws with
  | nil => simp [sections]
  | cons w ws =>
    rw [sections, List.forall_mem_cons, List.forall_mem_cons, isStatement_append_iff hl hhead,
      List.forall_mem_map]
    refine and_congr_right fun _ => forall_congr' fun w' => imp_congr_right fun _ => ?_
    exact isStatement_append_iff hl hblanks

/-- **The script of a schema is read back as its statements exactly if each of them is
cut off by its semicolon.** -/
theorem split_schemaScript_iff {d : Dialect} {schema generated : String} (hschema : IsLine schema)
    (hgenerated : IsLine generated) (tables : List Table) (views : List View)
    (routines : List Routine) :
    splitScript d.lexicon (schemaScript d schema generated tables views routines) =
        .ok (exported schema generated (schemaStatements d tables views routines)) ↔
      ∀ w ∈ schemaStatements d tables views routines, IsStatement d.lexicon w.toList := by
  have hl := isProper_lexicon d
  rw [exported, splitScript_eq_ok_iff, ← forall_sections_iff hschema hgenerated]
  by_cases hnone : schemaStatements d tables views routines = []
  · -- Without a statement there is only the head, which is a gap.
    have hhead : (schemaScript d schema generated tables views routines).toList =
        (exportHead schema generated ++ "\n").toList := by
      rw [toList_schemaScript, hnone]
      simp
    rw [hhead, (isGap_exportHead d hschema hgenerated).statements_eq hl, hnone]
    simp [sections]
  · rw [toList_schemaScript_of_ne_nil schema generated hnone]
    exact statements_script_iff hl fun x => startsBlank_of_mem_tail_sections

/-! ### Views and functions -/

def known : Option String → Option String
  | none => none
  | some definition => if definition.isEmpty then none else some definition

/-- The definitions of views and functions that are there, in the order of their
statements. -/
def definitions (views : List View) (routines : List Routine) : List String :=
  (views.map View.definition).filterMap known ++ (routines.map Routine.definition).filterMap known

/-- The text ends with the definition, without blanks around it and semicolons behind
it. -/
def EndsWithDefinition (definition text : String) : Prop :=
  ∃ front, text = front ++ bareDefinition definition

theorem textFrom_singleton (d : Dialect) (index : Nat) (s : String) :
    Statement.textFrom d index [.text s] = s := String.append_empty

theorem createView?_cases (d : Dialect) (v : View) :
    (known v.definition = none ∧ createView? v = none) ∨
      ∃ definition s, known v.definition = some definition ∧ createView? v = some s ∧
        EndsWithDefinition definition (s.text d) ∧ (s.text d).isEmpty = false := by
  cases hdef : v.definition with
  | none => exact .inl ⟨rfl, by rw [createView?, hdef]⟩
  | some definition =>
    by_cases hempty : definition.isEmpty = true
    · exact .inl ⟨if_pos hempty, by rw [createView?, hdef]; exact if_pos hempty⟩
    refine .inr ⟨definition, ?_⟩
    have hknown : known (some definition) = some definition := if_neg hempty
    by_cases hcreate : Text.startsWith (Text.upper (bareDefinition definition)) "CREATE" = true
    · refine ⟨[.text (bareDefinition definition)], hknown, ?_, ⟨"", ?_⟩, ?_⟩
      · rw [createView?, hdef]
        simp [hempty, hcreate]
      · rw [Statement.text, textFrom_singleton, String.empty_append]
      · rw [Statement.text, textFrom_singleton, String.isEmpty_eq_false_iff]
        intro hbare
        rw [hbare] at hcreate
        revert hcreate
        decide +kernel
    · refine ⟨.text "CREATE VIEW " :: qualifiedName v.name (some v.schema) ++
        [.text (" AS\n" ++ bareDefinition definition)], hknown, ?_, ?_, ?_⟩
      · rw [createView?, hdef]
        simp [hempty, hcreate]
      · refine ⟨"CREATE VIEW " ++ Statement.textFrom d 0 (qualifiedName v.name (some v.schema)) ++
          " AS\n", ?_⟩
        rw [Statement.text, Statement.textFrom_append, textFrom_singleton, Statement.textFrom]
        simp only [String.append_assoc]
      · rw [Statement.text, List.cons_append, Statement.textFrom, String.isEmpty_eq_false_iff]
        simp

theorem createRoutine?_eq (r : Routine) :
    createRoutine? r = (known r.definition).map fun s => [.text (bareDefinition s)] := by
  rw [createRoutine?]
  cases r.definition with
  | none => rfl
  | some definition =>
    rw [known]
    dsimp only
    split <;> rfl

/-- **There is a statement for each definition**, in their order, and it ends with
it. -/
theorem statements_definitions (d : Dialect) (views : List View) (routines : List Routine) :
    List.Forall₂ EndsWithDefinition (definitions views routines)
      (schemaStatements d [] views routines) := by
  have hviews : ∀ views : List View,
      List.Forall₂ EndsWithDefinition ((views.map View.definition).filterMap known)
        (((views.filterMap createView?).filter fun s => !(s.text d).isEmpty).map
          (Statement.text d)) := by
    intro views
    induction views with
    | nil => exact .nil
    | cons v views ih =>
      rcases createView?_cases d v with ⟨hnone, hview⟩ | ⟨definition, s, hsome, hview, hends, hne⟩
      · rwa [List.map_cons, List.filterMap_cons_none hnone, List.filterMap_cons_none hview]
      · rw [List.map_cons, List.filterMap_cons_some hsome, List.filterMap_cons_some hview,
          List.filter_cons_of_pos (by simp [hne])]
        exact .cons hends ih
  have hroutines : List.Forall₂ EndsWithDefinition
      ((routines.map Routine.definition).filterMap known)
      ((routines.filterMap createRoutine?).map (Statement.text d)) := by
    induction routines with
    | nil => exact .nil
    | cons r routines ih =>
      cases hdef : known r.definition with
      | none =>
        have hroutine : createRoutine? r = none := by rw [createRoutine?_eq, hdef]; rfl
        rwa [List.map_cons, List.filterMap_cons_none hdef, List.filterMap_cons_none hroutine]
      | some definition =>
        have hroutine : createRoutine? r = some [.text (bareDefinition definition)] := by
          rw [createRoutine?_eq, hdef]
          rfl
        rw [List.map_cons, List.filterMap_cons_some hdef, List.filterMap_cons_some hroutine]
        refine .cons ⟨"", ?_⟩ ih
        rw [Statement.text, textFrom_singleton, String.empty_append]
  have hstatements : schemaStatements d [] views routines =
      ((views.filterMap createView?).filter fun s => !(s.text d).isEmpty).map (Statement.text d) ++
        (routines.filterMap createRoutine?).map (Statement.text d) := by
    simp [schemaStatements]
  rw [hstatements]
  exact List.rel_append (hviews views) hroutines

theorem endsWith_trim {definition w : String} (front : String)
    (h : EndsWithDefinition definition w) :
    Text.endsWith (Text.trim (front ++ w)) (Text.trim (bareDefinition definition)) = true := by
  obtain ⟨middle, rfl⟩ := h
  rw [Text.endsWith, List.isSuffixOf_iff_suffix, Text.trim, Text.trim, String.toList_ofList,
    String.toList_ofList, ← String.append_assoc, String.toList_append]
  exact Text.trimChars_suffix _ _

/-- What is read back of each statement holds its definition. -/
theorem exported_definitions {defs ws : List String} (schema generated : String)
    (h : List.Forall₂ EndsWithDefinition defs ws) :
    List.Forall₂ (fun definition out =>
      Text.endsWith out (Text.trim (bareDefinition definition)) = true) defs
      (exported schema generated ws) := by
  cases h with
  | nil => exact .nil
  | cons hfirst hrest =>
    rw [exported_cons]
    refine .cons (endsWith_trim _ hfirst) (List.forall₂_map_right_iff.mpr ?_)
    refine hrest.imp fun definition w hends => ?_
    have hend := endsWith_trim "" hends
    rwa [String.empty_append] at hend

/-- **The script of views and functions is read back as one statement for each
definition**, which ends with it, exactly if each statement with its semicolon is read
back as this one statement. -/
theorem split_definitions_iff {d : Dialect} {schema generated : String} (hschema : IsLine schema)
    (hgenerated : IsLine generated) (views : List View) (routines : List Routine) :
    List.Forall₂ (fun definition out =>
        Text.endsWith out (Text.trim (bareDefinition definition)) = true)
      (definitions views routines)
      (exported schema generated (schemaStatements d [] views routines)) ∧
    (splitStatements (schemaScript d schema generated [] views routines) (some d.name) =
        .ok (exported schema generated (schemaStatements d [] views routines)) ↔
      ∀ w ∈ schemaStatements d [] views routines,
        splitStatements (w ++ ";\n") (some d.name) = .ok [Text.trim w]) := by
  refine ⟨exported_definitions schema generated (statements_definitions d views routines), ?_⟩
  rw [splitStatements_eq, split_schemaScript_iff hschema hgenerated]
  refine forall₂_congr fun w _ => ?_
  rw [splitStatements_eq, isStatement_iff_splitScript (isProper_lexicon d)]

/-- A view, and a function with semicolons in its body. -/
def sampleViews : List View := [⟨"app", "a", some "SELECT 1;", []⟩]

def sampleRoutines : List Routine :=
  [⟨"app", "f", none, none, some "CREATE FUNCTION f() AS $$ BEGIN; END $$;", []⟩]

theorem split_definitions_iff_sample :
    IsLine "app" ∧ IsLine "now" ∧
      splitStatements (schemaScript .postgres "app" "now" [] sampleViews sampleRoutines)
          (some Dialect.postgres.name) =
        .ok [exportHead "app" "now" ++ "\n\nCREATE VIEW \"app\".\"a\" AS\nSELECT 1",
          "CREATE FUNCTION f() AS $$ BEGIN; END $$"] := by
  have hschema : IsLine "app" := by decide
  have hgenerated : IsLine "now" := by decide
  have hstatements : schemaStatements .postgres [] sampleViews sampleRoutines =
      ["CREATE VIEW \"app\".\"a\" AS\nSELECT 1", "CREATE FUNCTION f() AS $$ BEGIN; END $$"] := by
    decide +kernel
  have hcut : ∀ w ∈ schemaStatements .postgres [] sampleViews sampleRoutines,
      splitStatements (w ++ ";\n") (some Dialect.postgres.name) = .ok [Text.trim w] := by
    rw [hstatements, List.forall_mem_cons, List.forall_mem_singleton, splitStatements_eq,
      splitStatements_eq]
    exact ⟨Results.eq_ok_of_toOption (by decide +kernel),
      Results.eq_ok_of_toOption (by decide +kernel)⟩
  have hsplit :=
    (split_definitions_iff hschema hgenerated sampleViews sampleRoutines).2.mpr hcut
  rw [hstatements] at hsplit
  refine ⟨hschema, hgenerated, hsplit.trans (congrArg Except.ok ?_)⟩
  decide +kernel

/-- A view with a comment at its end, and another one. -/
def commentedViews : List View :=
  [⟨"app", "a", some "SELECT 1 -- one", []⟩, ⟨"app", "b", some "SELECT 2", []⟩]

/-- Each of the definitions is one statement, but the comment takes the semicolon along
and both are read back as one. -/
theorem schemaScript_glued :
    (∀ definition ∈ definitions commentedViews [],
      splitStatements definition (some Dialect.postgres.name) = .ok [definition]) ∧
    splitStatements
        (schemaScript .postgres "app" "2000-01-01T00:00:00+00:00" [] commentedViews [])
        (some Dialect.postgres.name) =
      .ok [exportHead "app" "2000-01-01T00:00:00+00:00" ++ "\n\n" ++
        "CREATE VIEW \"app\".\"a\" AS\nSELECT 1 -- one;\n\n" ++
        "CREATE VIEW \"app\".\"b\" AS\nSELECT 2"] := by
  simp only [splitStatements_eq]
  refine ⟨?_, Results.eq_ok_of_toOption (by decide +kernel)⟩
  have hdefinitions : definitions commentedViews [] = ["SELECT 1 -- one", "SELECT 2"] := by
    decide +kernel
  rw [hdefinitions, List.forall_mem_cons, List.forall_mem_singleton]
  exact ⟨Results.eq_ok_of_toOption (by decide +kernel),
    Results.eq_ok_of_toOption (by decide +kernel)⟩

end Ddl
end TableGate

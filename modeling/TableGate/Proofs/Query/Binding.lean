/-
# Statements are bound by position

A driver that binds by position is to be handed the text of a statement with
each placeholder that stands outside of quoted names replaced, every percent
sign doubled, and the parameters in their order (`BoundOutsideNames`).

The search for placeholders does not skip quoted names. So what is sent for a
request is bound in this way just if none of the names in it holds what passes
for a placeholder (`boundOutsideNames_iff`). Otherwise there are more
placeholders than parameters: a value is bound inside a name, or the statement
is refused.

Key definitions: `Sql.positionalText`, `Sql.quotedNames`,
`Command.BoundOutsideNames`.
Key theorems: `Sql.bindByPosition_numbered`, `Statement.boundOutsideNames_spaced`,
`Compiler.Request.boundOutsideNames_iff`.
-/
import TableGate.Proofs.Query.Request
import TableGate.Proofs.Sql.BoundText

namespace TableGate
namespace Sql

/-! ### What the driver is to be handed -/

/-- What stands in a statement, as the driver is to take it. -/
def Glyph.positional : Glyph → List Char
  | .char c => if c = '%' then ['%', '%'] else [c]
  | .name cs => Text.doubleChars '%' (Dialect.sqlServer.quoteChars cs)
  | .slot _ => ['%', 's']

/-- The text with the placeholders outside of names replaced, and every percent
sign doubled. -/
def positionalText (sql : String) : String :=
  String.ofList ((scan .sqlServer sql).flatMap Glyph.positional)

/-- The name that is quoted. -/
def Glyph.name? : Glyph → Option String
  | .name cs => some (String.ofList cs)
  | _ => none

/-- The quoted names in a text, from the left. -/
def quotedNames (d : Dialect) (sql : String) : List String := (scan d sql).filterMap Glyph.name?

end Sql

open Sql

/-- The text is handed on with the placeholders outside of names replaced, and
all the parameters in their order; without parameters it stays as it is. -/
def Command.BoundOutsideNames (cmd : Command) : Prop :=
  bindByPosition cmd.text cmd.params =
    .ok (if cmd.params.isEmpty then (cmd.text, none)
      else (positionalText cmd.text, some cmd.params))

namespace Sql

/-! ### Placeholders that are numbered on -/

theorem mapM_readNatural?_toDigits : ∀ ns : List Nat,
    (ns.map (Nat.toDigits 10)).mapM Number.readNatural? =
      if ∀ n ∈ ns, n < 10 ^ Number.maxDigits then some ns else none
  | [] => by simp
  | n :: ns => by
    rw [List.map_cons, List.mapM_cons, mapM_readNatural?_toDigits ns, Number.readNatural?_toDigits]
    -- the bound is never computed
    generalize 10 ^ Number.maxDigits = cap
    simp only [List.mem_cons, forall_eq_or_imp]
    by_cases hn : n < cap
    · by_cases hns : ∀ m ∈ ns, m < cap
      · simp only [hn, if_pos hns, if_true, true_and]
        rfl
      · simp only [hn, if_neg hns, if_true, true_and]
        rfl
    · simp only [hn, if_false, false_and]
      rfl

theorem length_of_mapM_eq_some {f : List Char → Option Nat} : ∀ {xs : List (List Char)}
    {ys : List Nat}, xs.mapM f = some ys → ys.length = xs.length
  | [], ys, h => by
    obtain rfl : [] = ys := Option.some.inj h
    rfl
  | x :: xs, ys, h => by
    rw [List.mapM_cons] at h
    obtain ⟨y, -, h⟩ := Option.bind_eq_some_iff.mp h
    obtain ⟨zs, hzs, h⟩ := Option.bind_eq_some_iff.mp h
    obtain rfl := Option.some.inj h
    rw [List.length_cons, List.length_cons, length_of_mapM_eq_some hzs]

/-- **Placeholders that are numbered on are bound to the parameters in their
order**, unless a number has too many digits. -/
theorem bindByPosition_numbered {sql : String} {params : List Value} (hp : params ≠ [])
    (hd : slotDigits (lexPlaceholders sql.toList) =
      (List.range params.length).map (Nat.toDigits 10)) :
    bindByPosition sql params =
      if params.length ≤ 10 ^ Number.maxDigits then
        .ok (String.ofList ((lexPlaceholders sql.toList).flatMap Lexeme.positional), some params)
      else .error (.refused .unreadable) := by
  obtain ⟨n, hn⟩ : ∃ n, params.length = n + 1 :=
    Nat.exists_eq_succ_of_ne_zero fun h => hp (List.length_eq_zero_iff.mp h)
  have hall : (∀ m ∈ List.range (n + 1), m < 10 ^ Number.maxDigits) ↔
      n + 1 ≤ 10 ^ Number.maxDigits := by
    simp only [List.mem_range]
    exact ⟨fun h => h n (by omega), fun h m hm => by omega⟩
  have hne : ((List.range (n + 1)).map (Nat.toDigits 10)).isEmpty = false := by simp
  have hrange : ∀ m, m ∈ List.range (n + 1) ↔ m ≤ n := fun m => by
    rw [List.mem_range, Nat.lt_succ_iff]
  have hhighest : (List.range (n + 1)).foldl max 0 = n := foldl_max_of_iff hrange
  have hseen : (List.range (n + 1)).eraseDups.mergeSort.length = n + 1 := by
    rw [(length_seen_iff _).mpr ⟨n, hrange⟩, hhighest]
  have hvalues : ((List.range (n + 1)).map fun i => params.getD i .null) = params := by
    refine List.ext_getElem (by simp [hn]) fun i hi hi' => ?_
    simp [List.getElem?_eq_getElem hi']
  unfold bindByPosition
  simp only [hd, hn, hne, Bool.false_eq_true, if_false, mapM_readNatural?_toDigits, hall]
  by_cases hcap : n + 1 ≤ 10 ^ Number.maxDigits
  · simp only [if_pos hcap, hhighest, hseen, hvalues]
    simp
  · simp only [if_neg hcap]

/-- How a statement comes to be bound: there is nothing to bind, or the numbers of
its placeholders are read, none is missing, and each has its parameter. -/
theorem bindByPosition_cases {sql text : String} {params : List Value} {bound : Option (List Value)}
    (h : bindByPosition sql params = .ok (text, bound)) :
    (slotDigits (lexPlaceholders sql.toList) = [] ∧ params = [] ∧ text = sql ∧ bound = none) ∨
      ∃ indices, (slotDigits (lexPlaceholders sql.toList)).mapM Number.readNatural? = some indices ∧
        indices.eraseDups.mergeSort.length = indices.foldl max 0 + 1 ∧
        indices.foldl max 0 < params.length ∧
        text = String.ofList ((lexPlaceholders sql.toList).flatMap Lexeme.positional) ∧
        bound = some (indices.map fun i => params.getD i .null) := by
  unfold bindByPosition at h
  dsimp only at h
  split at h
  · rename_i hdigits
    split at h
    · rename_i hparams
      obtain ⟨rfl, rfl⟩ := Prod.mk.inj (Except.ok.inj h)
      exact .inl ⟨List.isEmpty_iff.mp hdigits, List.isEmpty_iff.mp hparams, rfl, rfl⟩
    · simp at h
  · split at h
    · simp at h
    · rename_i indices hindices
      split at h
      · simp at h
      · rename_i hgap
        split at h
        · simp at h
        · rename_i hfew
          obtain ⟨htext, hbound⟩ := Prod.mk.inj (Except.ok.inj h)
          exact .inr ⟨indices, hindices, Decidable.not_not.mp hgap, Nat.lt_of_not_le hfew,
            htext.symm, hbound.symm⟩

/-- A statement that is bound outside of its names has as many placeholders as
parameters. -/
theorem length_slotDigits_of_bound {cmd : Command} (h : cmd.BoundOutsideNames) :
    (slotDigits (lexPlaceholders cmd.text.toList)).length = cmd.params.length := by
  unfold Command.BoundOutsideNames at h
  split at h
  · rcases bindByPosition_cases h with ⟨hdigits, hparams, -, -⟩ | ⟨_, -, -, -, -, hbound⟩
    · rw [hdigits, hparams]
      rfl
    · simp at hbound
  · rcases bindByPosition_cases h with ⟨-, -, -, hbound⟩ | ⟨indices, hindices, -, -, -, hbound⟩
    · simp at hbound
    · rw [Option.some.inj hbound, List.length_map, length_of_mapM_eq_some hindices]

end Sql

namespace Statement

open Sql

/-! ### Spaced statements -/

theorem flatMap_map_char (cs : List Char) :
    (cs.map Lexeme.char).flatMap Lexeme.positional = Text.doubleChars '%' cs := by
  induction cs with
  | nil => rfl
  | cons c cs ih =>
    rw [List.map_cons, List.flatMap_cons, ih, Text.doubleChars, Lexeme.positional]
    split <;> rfl

theorem quotedNames_text (d : Dialect) {s : Statement} (h : Spaced s) :
    quotedNames d (s.text d) = s.names := by
  have hfrom : ∀ (index : Nat) (s : Statement),
      (glyphsFrom d index s).filterMap Glyph.name? = s.names := by
    intro index s
    induction s generalizing index with
    | nil => rfl
    | cons p s ih =>
      cases p <;> simp [glyphsFrom, names, Glyph.name?, ih, List.filterMap_cons,
        List.filterMap_map, Function.comp_def]
  rw [quotedNames, scan, text, scan_text d 0 s h, hfrom]

/-- Where no name holds a placeholder, the search finds what a reader finds that
skips names. -/
theorem flatMap_lexemesFrom : ∀ (index : Nat) (s : Statement),
    (∀ n ∈ s.names, holdsMark n = false) →
    (lexemesFrom index s).flatMap Lexeme.positional =
      (glyphsFrom .sqlServer index s).flatMap Glyph.positional
  | _, [], _ => rfl
  | index, .text t :: s, h => by
    have hchars : (t.toList.map Lexeme.char).flatMap Lexeme.positional =
        (t.toList.map Glyph.char).flatMap Glyph.positional := by
      simp only [List.flatMap_map]
      rfl
    rw [lexemesFrom, glyphsFrom, List.flatMap_append, List.flatMap_append, hchars,
      flatMap_lexemesFrom index s h]
  | index, .name n :: s, h => by
    have hn : slotDigits (lexPlaceholders (Text.doubleChars ']' n.toList)) = [] := by
      rw [slotDigits_doubled]
      simpa [holdsMark] using h n (by simp [names])
    have hrest := flatMap_lexemesFrom index s fun m hm => h m (by simp [names, hm])
    have hname : Glyph.positional (.name n.toList) =
        '[' :: (Text.doubleChars '%' (Text.doubleChars ']' n.toList) ++ [']']) := by
      simp [Glyph.positional, Dialect.quoteChars, Dialect.quoteOpen, Dialect.quoteClose,
        doubleChars_append, Text.doubleChars]
    rw [lexemesFrom, glyphsFrom, lexPlaceholders_eq_map hn, List.flatMap_cons, List.flatMap_append,
      flatMap_map_char, List.flatMap_cons, List.flatMap_cons, hrest, hname]
    simp [Lexeme.positional]
  | index, .value _ :: s, h => by
    rw [lexemesFrom, glyphsFrom, List.flatMap_cons, List.flatMap_cons,
      flatMap_lexemesFrom (index + 1) s h]
    rfl

/-- If there is one placeholder for each value, none is left for the names. -/
theorem holdsMark_of_length {index : Nat} {s : Statement}
    (h : (slotDigits (lexemesFrom index s)).length = s.params.length) :
    ∀ n ∈ s.names, holdsMark n = false := by
  rw [length_slotDigits] at h
  have hsum : (s.names.map fun n => (slotDigits (lexPlaceholders n.toList)).length).sum = 0 := by
    omega
  intro n hn
  have hzero := List.sum_eq_zero_iff_forall_eq_nat.mp hsum _ (List.mem_map.mpr ⟨n, hn, rfl⟩)
  simp [holdsMark, List.length_eq_zero_iff.mp hzero]

/-- **A spaced statement is bound outside of its names just if none of them holds
a placeholder**, and the numbers of its parameters can be read. -/
theorem boundOutsideNames_spaced {s : Statement} (hs : Spaced s) :
    (s.command .sqlServer).BoundOutsideNames ↔
      (∀ n ∈ s.names, holdsMark n = false) ∧ s.params.length ≤ 10 ^ Number.maxDigits := by
  have hlex : lexPlaceholders (s.text .sqlServer).toList = lexemesFrom 0 s := lex_text 0 s hs
  have hscan : scan .sqlServer (s.text .sqlServer) = glyphsFrom .sqlServer 0 s :=
    scan_text .sqlServer 0 s hs
  -- without parameters nothing is rewritten, so a placeholder in a name is refused
  by_cases hp : s.params = []
  · constructor
    · intro h
      have hlen := length_slotDigits_of_bound h
      simp only [command, hlex] at hlen
      exact ⟨holdsMark_of_length hlen, by simp [hp]⟩
    · rintro ⟨hn, -⟩
      have hnone : slotDigits (lexemesFrom 0 s) = [] := by simp [slotDigits_lexemesFrom 0 s hn, hp]
      simp [Command.BoundOutsideNames, bindByPosition, command, hlex, hnone, hp]
  · have hnumbered : (∀ n ∈ s.names, holdsMark n = false) →
        slotDigits (lexPlaceholders (s.text .sqlServer).toList) =
          (List.range s.params.length).map (Nat.toDigits 10) := by
      intro hn
      rw [hlex, slotDigits_lexemesFrom 0 s hn, List.range_eq_range']
    constructor
    · intro h
      have hlen := length_slotDigits_of_bound h
      simp only [command, hlex] at hlen
      have hn := holdsMark_of_length hlen
      refine ⟨hn, Decidable.byContradiction fun hcap => ?_⟩
      simp only [Command.BoundOutsideNames, command,
        bindByPosition_numbered hp (hnumbered hn)] at h
      simp only [if_neg hcap] at h
      simp at h
    · rintro ⟨hn, hcap⟩
      simp only [Command.BoundOutsideNames, command,
        bindByPosition_numbered hp (hnumbered hn), positionalText, hscan, hlex,
        flatMap_lexemesFrom 0 s hn]
      simp only [if_pos hcap]
      simp [hp]

end Statement

namespace Compiler.Request

open Sql Statement Compiler

/-- **What is sent for a request is bound outside of its quoted names just if none
of them holds what passes for a placeholder** (and the numbers of the parameters
can be read). -/
theorem boundOutsideNames_iff {c : Compiler} {table : String} {schema : Option String}
    {r : Request} {s : Statement} (hd : c.dialect = .sqlServer)
    (h : r.statement c table schema = .ok s) :
    (s.command c.dialect).BoundOutsideNames ↔
      (∀ n ∈ quotedNames c.dialect (s.command c.dialect).text, holdsMark n = false) ∧
        (s.command c.dialect).params.length ≤ 10 ^ Number.maxDigits := by
  have hs := (statement_spec h).1
  rw [hd, boundOutsideNames_spaced hs]
  simp only [command, quotedNames_text .sqlServer hs]

/-- The percent sign in a name is doubled, and the name is no parameter. -/
theorem boundOutsideNames_percent :
    let c : Compiler := ⟨.sqlServer, 1000, by decide⟩
    let r : Request := .delete [⟨"100%@par", "in", .list [.int 2, .int 3]⟩]
    ∃ s, r.statement c "t" none = .ok s ∧
      (s.command .sqlServer).text = "DELETE FROM [t] WHERE [100%@par] IN (@param0, @param1)" ∧
      positionalText (s.command .sqlServer).text = "DELETE FROM [t] WHERE [100%%@par] IN (%s, %s)" ∧
      (s.command .sqlServer).BoundOutsideNames := by
  intro c r
  have h := @boundOutsideNames_iff c "t" none r _ rfl rfl
  refine ⟨_, rfl, by decide, by decide, h.mpr ⟨by decide, ?_⟩⟩
  exact Nat.one_lt_pow (by decide) (by decide)

/-- A column whose name holds a placeholder: its value is bound inside the name as
well. -/
theorem not_boundOutsideNames_placeholder :
    let c : Compiler := ⟨.sqlServer, 1000, by decide⟩
    let r : Request := .delete [⟨"a@param0", "eq", .int 1⟩]
    ∃ s, r.statement c "users" (some "dbo") = .ok s ∧
      bindByPosition (s.command .sqlServer).text (s.command .sqlServer).params =
        .ok ("DELETE FROM [dbo].[users] WHERE [a%s] = %s", some [.int 1, .int 1]) ∧
      ¬ (s.command .sqlServer).BoundOutsideNames := by
  intro c r
  let s : Statement := [.text "DELETE FROM ", .name "dbo", .text ".", .name "users",
    .text " WHERE ", .name "a@param0", .text " = ", .value (.int 1)]
  have htext : s.text .sqlServer = "DELETE FROM [dbo].[users] WHERE [a@param0] = @param0" := by
    decide
  have hdigits : slotDigits (lexPlaceholders
      "DELETE FROM [dbo].[users] WHERE [a@param0] = @param0".toList) = [['0'], ['0']] := by decide
  have hindices : [['0'], ['0']].mapM Number.readNatural? = some [0, 0] := by decide
  have hseen : [0, 0].eraseDups.mergeSort = [0] := by simp [List.eraseDups_cons]
  refine ⟨s, rfl, ?_, fun h => absurd (length_slotDigits_of_bound h) (by decide)⟩
  simp only [command, htext, bindByPosition, hdigits, hindices, hseen]
  rfl

end Compiler.Request
end TableGate

/-
# Placeholders are read piece by piece

The search for placeholders goes over the whole text of a statement and knows
nothing of quoted names. Still it works piece by piece: a placeholder that
begins in one part of a text never reaches into the next if that begins where a
word ends (`lexPlaceholders_append`). So in a spaced statement it finds one
placeholder for each value, and besides these the ones that stand inside a name
(`lex_text`), with the closing quotes of the name doubled or not
(`slotDigits_doubled`).

Key definitions: `Sql.EndsWord`, `Statement.lexemesFrom`, `Sql.holdsMark`,
`Statement.names`.
Key theorems: `Sql.lexPlaceholders_append`, `Sql.slotDigits_doubled`,
`Statement.lex_text`.
-/
import TableGate.Proofs.Sql.Scan
import TableGate.Sql.Placeholder

namespace TableGate
namespace Sql

/-! ### One placeholder -/

/-- A word and a number end in front of the text. -/
def EndsWord (cs : List Char) : Prop :=
  ∀ c ∈ cs.head?, Text.isWordChar c = false ∧ Text.isDigit c = false

theorem takeWhile_append_of_head? {p : Char → Bool} {rest : List Char}
    (h : ∀ c ∈ rest.head?, p c = false) : ∀ cs : List Char,
    (cs ++ rest).takeWhile p = cs.takeWhile p ∧ (cs ++ rest).dropWhile p = cs.dropWhile p ++ rest
  | [] => by
    cases rest with
    | nil => simp
    | cons c rest => simp [h c (by simp)]
  | c :: cs => by
    obtain ⟨ht, hd⟩ := takeWhile_append_of_head? h cs
    by_cases hc : p c = true <;> simp [hc, ht, hd]

/-- The characters of the mark behind its first are characters of a word. -/
theorem isWordChar_of_mem_mark {c : Char} (h : c ∈ placeholderMark.tail) :
    Text.isWordChar c = true := by
  simp only [placeholderMark, List.tail_cons, List.mem_cons, List.not_mem_nil, or_false] at h
  rcases h with rfl | rfl | rfl | rfl | rfl <;> decide

theorem mark_isPrefixOf_append {c : Char} {cs rest : List Char} (h : EndsWord rest) :
    placeholderMark.isPrefixOf (c :: cs ++ rest) = placeholderMark.isPrefixOf (c :: cs) := by
  rw [Bool.eq_iff_iff, List.isPrefixOf_iff_prefix, List.isPrefixOf_iff_prefix]
  refine ⟨fun hp => ?_, fun hp => hp.trans (List.prefix_append _ _)⟩
  rcases Nat.lt_or_ge (c :: cs).length placeholderMark.length with hlt | hge
  · -- the mark would go on with the first character of `rest`
    obtain ⟨m, hm⟩ := List.prefix_of_prefix_length_le (List.prefix_append _ _) hp (Nat.le_of_lt hlt)
    obtain ⟨t, ht⟩ := hp
    rw [← hm, List.append_assoc, List.append_cancel_left_eq] at ht
    cases m with
    | nil => simp [← hm] at hlt
    | cons x m =>
      have hx : x ∈ placeholderMark.tail := by
        rw [← hm]
        simp
      have hend := (h x (by simp [← ht])).1
      rw [isWordChar_of_mem_mark hx] at hend
      exact absurd hend (by decide)
  · exact List.prefix_of_prefix_length_le hp (List.prefix_append _ _) hge

/-- A placeholder at the front is the same whatever follows the end of a
word. -/
theorem placeholderAt?_append {c : Char} {cs rest : List Char} (h : EndsWord rest) :
    placeholderAt? (c :: cs ++ rest) =
      (placeholderAt? (c :: cs)).map fun p => (p.1, p.2 ++ rest) := by
  unfold placeholderAt?
  rw [mark_isPrefixOf_append h]
  by_cases hp : placeholderMark.isPrefixOf (c :: cs) = true
  · obtain ⟨tail, ht⟩ := List.isPrefixOf_iff_prefix.mp hp
    have hdigit : ∀ x ∈ rest.head?, Text.isDigit x = false := fun x hx => (h x hx).2
    obtain ⟨htake, hdrop⟩ := takeWhile_append_of_head? hdigit tail
    have hsix : (c :: cs ++ rest).drop 6 = tail ++ rest ∧ (c :: cs).drop 6 = tail := by
      rw [← ht]
      exact ⟨by simp [placeholderMark], by simp [placeholderMark]⟩
    have hhead : (tail.dropWhile Text.isDigit ++ rest).head?.any Text.isWordChar =
        (tail.dropWhile Text.isDigit).head?.any Text.isWordChar := by
      cases tail.dropWhile Text.isDigit with
      | cons x xs => rfl
      | nil =>
        cases hr : rest.head? with
        | none => simp [hr]
        | some x => simp [hr, (h x hr).1]
    simp only [hp, if_true, hsix.1, hsix.2, htake, hdrop, hhead]
    split <;> rfl
  · simp [hp]

theorem eq_of_placeholderAt? {cs digits after : List Char}
    (h : placeholderAt? cs = some (digits, after)) : cs = placeholderMark ++ digits ++ after := by
  unfold placeholderAt? at h
  split at h
  · rename_i hp
    obtain ⟨tail, rfl⟩ := List.isPrefixOf_iff_prefix.mp hp
    dsimp only at h
    split at h
    · simp at h
    · obtain ⟨rfl, rfl⟩ := Prod.mk.inj (Option.some.inj h)
      simp [placeholderMark]
  · simp at h

theorem placeholderAt?_of_ne {c : Char} (h : c ≠ '@') (cs : List Char) :
    placeholderAt? (c :: cs) = none := by
  simp [placeholderAt?, placeholderMark, h.symm]

theorem placeholderAt?_mark {digits rest : List Char} (hne : digits ≠ [])
    (hd : ∀ c ∈ digits, Text.isDigit c = true) (hr : EndsWord rest) :
    placeholderAt? (placeholderMark ++ digits ++ rest) = some (digits, rest) := by
  obtain ⟨htake, hdrop⟩ := takeWhile_append_of_all hd fun x hx => (hr x hx).2
  have hhead : rest.head?.any Text.isWordChar = false := by
    cases hx : rest.head? with
    | none => rfl
    | some x => exact (hr x hx).1
  have hsix : (placeholderMark ++ digits ++ rest).drop 6 = digits ++ rest := by
    simp [placeholderMark]
  have hp : placeholderMark.isPrefixOf (placeholderMark ++ digits ++ rest) = true := by
    simp [List.isPrefixOf_iff_prefix]
  rw [placeholderAt?, if_pos hp, hsix]
  simp [htake, hdrop, hhead, hne]

/-! ### A whole text -/

theorem length_after_lt {cs digits after : List Char}
    (h : placeholderAt? cs = some (digits, after)) : after.length < cs.length := by
  have hcs := congrArg List.length (eq_of_placeholderAt? h)
  simp only [List.length_append, placeholderMark, List.length_cons, List.length_nil] at hcs
  omega

/-- The fuel does not matter as long as it is at least the length. -/
theorem lexFrom_of_le : ∀ (fuel : Nat) (cs : List Char), cs.length ≤ fuel →
    lexFrom fuel cs = lexPlaceholders cs
  | 0, [], _ => rfl
  | _ + 1, [], _ => rfl
  | fuel + 1, c :: cs, h => by
    have hfuel : cs.length ≤ fuel := by simpa using h
    rw [lexPlaceholders, List.length_cons, lexFrom, lexFrom]
    cases hp : placeholderAt? (c :: cs) with
    | none =>
      simp only
      rw [lexFrom_of_le fuel cs hfuel, lexPlaceholders]
    | some p =>
      have hlt := length_after_lt hp
      simp only [List.length_cons] at hlt
      simp only
      rw [lexFrom_of_le fuel p.2 (by omega), lexFrom_of_le cs.length p.2 (by omega)]

theorem lexPlaceholders_cons (c : Char) (cs : List Char) :
    lexPlaceholders (c :: cs) =
      match placeholderAt? (c :: cs) with
      | some (digits, after) => .slot digits :: lexPlaceholders after
      | none => .char c :: lexPlaceholders cs := by
  rw [lexPlaceholders, List.length_cons, lexFrom]
  cases hp : placeholderAt? (c :: cs) with
  | none => rfl
  | some p =>
    have hlt := length_after_lt hp
    simp only [List.length_cons] at hlt
    simp only
    rw [lexFrom_of_le cs.length p.2 (by omega)]

/-- **What is found before the end of a word and what is found behind it is all
that there is.** -/
theorem lexPlaceholders_append {rest : List Char} (h : EndsWord rest) : ∀ cs : List Char,
    lexPlaceholders (cs ++ rest) = lexPlaceholders cs ++ lexPlaceholders rest
  | [] => rfl
  | c :: cs => by
    have hsplit := @placeholderAt?_append c cs _ h
    rw [List.cons_append] at hsplit ⊢
    rw [lexPlaceholders_cons, lexPlaceholders_cons, hsplit]
    cases hp : placeholderAt? (c :: cs) with
    | none =>
      simp only [Option.map_none]
      rw [lexPlaceholders_append h cs, List.cons_append]
    | some p =>
      have hlt := length_after_lt hp
      simp only [Option.map_some]
      rw [lexPlaceholders_append h p.2, List.cons_append]
termination_by cs => cs.length
decreasing_by
  · simp
  · exact length_after_lt hp

theorem lexPlaceholders_cons_ne {c : Char} (h : c ≠ '@') (cs : List Char) :
    lexPlaceholders (c :: cs) = .char c :: lexPlaceholders cs := by
  rw [lexPlaceholders_cons, placeholderAt?_of_ne h]

theorem lexPlaceholders_plain : ∀ {cs : List Char}, (∀ c ∈ cs, c ≠ '@') → ∀ rest,
    lexPlaceholders (cs ++ rest) = cs.map .char ++ lexPlaceholders rest
  | [], _, _ => rfl
  | c :: cs, h, rest => by
    rw [List.cons_append, lexPlaceholders_cons_ne (h c (by simp)),
      lexPlaceholders_plain (fun x hx => h x (by simp [hx])) rest]
    rfl

theorem lexPlaceholders_mark {digits rest : List Char} (hne : digits ≠ [])
    (hd : ∀ c ∈ digits, Text.isDigit c = true) (hr : EndsWord rest) :
    lexPlaceholders (placeholderMark ++ digits ++ rest) = .slot digits :: lexPlaceholders rest := by
  have hmark := placeholderAt?_mark hne hd hr
  rw [show placeholderMark ++ digits ++ rest =
    '@' :: (['p', 'a', 'r', 'a', 'm'] ++ digits ++ rest) from rfl] at hmark ⊢
  rw [lexPlaceholders_cons, hmark]

/-! ### Names -/

theorem slotDigits_append : ∀ ls ms : List Lexeme,
    slotDigits (ls ++ ms) = slotDigits ls ++ slotDigits ms
  | [], _ => rfl
  | .char _ :: ls, ms => slotDigits_append ls ms
  | .slot digits :: ls, ms => congrArg (digits :: ·) (slotDigits_append ls ms)

theorem slotDigits_map_char (cs : List Char) : slotDigits (cs.map .char) = [] := by
  induction cs with
  | nil => rfl
  | cons c cs ih => exact ih

/-- A text in which no placeholder is found is nothing but characters. -/
theorem lexPlaceholders_eq_map : ∀ {cs : List Char}, slotDigits (lexPlaceholders cs) = [] →
    lexPlaceholders cs = cs.map .char
  | [], _ => rfl
  | c :: cs, h => by
    rw [lexPlaceholders_cons] at h ⊢
    cases hp : placeholderAt? (c :: cs) with
    | none =>
      rw [hp] at h
      simp only
      rw [@lexPlaceholders_eq_map cs h]
      rfl
    | some p =>
      rw [hp] at h
      simp [slotDigits] at h

theorem doubleChars_of_notMem {q : Char} : ∀ {cs : List Char}, q ∉ cs → Text.doubleChars q cs = cs
  | [], _ => rfl
  | c :: cs, h => by
    obtain ⟨hc, hcs⟩ := List.ne_and_not_mem_of_not_mem_cons h
    rw [Text.doubleChars, if_neg (Ne.symm hc), doubleChars_of_notMem hcs]

theorem doubleChars_append (q : Char) : ∀ cs ds : List Char,
    Text.doubleChars q (cs ++ ds) = Text.doubleChars q cs ++ Text.doubleChars q ds
  | [], _ => rfl
  | c :: cs, ds => by
    by_cases hc : c = q <;> simp [Text.doubleChars, hc, doubleChars_append q cs ds]

theorem endsWord_bracket (cs : List Char) : EndsWord (']' :: cs) := by
  intro c hc
  obtain rfl : ']' = c := by simpa using hc
  decide

/-- **The quotes that a name doubles change nothing about the placeholders in
it.** -/
theorem slotDigits_doubled (cs : List Char) :
    slotDigits (lexPlaceholders (Text.doubleChars ']' cs)) = slotDigits (lexPlaceholders cs) := by
  by_cases hmem : ']' ∈ cs
  · -- the placeholders before the first quote, and those behind it
    obtain ⟨front, rest, rfl, hfront⟩ := List.eq_append_cons_of_mem hmem
    have ih := slotDigits_doubled rest
    have hquote : ']' ≠ '@' := by decide
    rw [doubleChars_append, doubleChars_of_notMem hfront, Text.doubleChars, if_pos rfl,
      lexPlaceholders_append (endsWord_bracket _), lexPlaceholders_append (endsWord_bracket _),
      slotDigits_append, slotDigits_append, lexPlaceholders_cons_ne hquote,
      lexPlaceholders_cons_ne hquote, lexPlaceholders_cons_ne hquote]
    exact congrArg _ ih
  · rw [doubleChars_of_notMem hmem]
termination_by cs.length
decreasing_by
  subst_vars
  simp only [List.length_append, List.length_cons]
  omega

/-- A name holds what passes for the placeholder of a parameter. -/
def holdsMark (name : String) : Bool := !(slotDigits (lexPlaceholders name.toList)).isEmpty

theorem holdsMark_of_notMem {s : String} (h : '@' ∉ s.toList) : holdsMark s = false := by
  have hplain : ∀ c ∈ s.toList, c ≠ '@' := fun c hc he => h (he ▸ hc)
  have hlexemes := lexPlaceholders_plain hplain []
  rw [List.append_nil] at hlexemes
  rw [holdsMark, hlexemes, slotDigits_append, slotDigits_map_char]
  rfl

end Sql

namespace Statement

open Sql

/-! ### Statements -/

/-- The names in a statement, from the left. -/
def names : Statement → List String
  | [] => []
  | .name n :: rest => n :: names rest
  | .text _ :: rest => names rest
  | .value _ :: rest => names rest

/-- What the search for placeholders finds in a statement, where `index` is the
index of the next parameter. -/
def lexemesFrom (index : Nat) : Statement → List Lexeme
  | [] => []
  | .text t :: rest => t.toList.map .char ++ lexemesFrom index rest
  | .name n :: rest =>
    .char '[' :: (lexPlaceholders (Text.doubleChars ']' n.toList) ++
      .char ']' :: lexemesFrom index rest)
  | .value _ :: rest => .slot (Nat.toDigits 10 index) :: lexemesFrom (index + 1) rest

/-- **The search goes over a spaced statement piece by piece.** -/
theorem lex_text : ∀ (index : Nat) (s : Statement), Spaced s →
    lexPlaceholders (textFrom .sqlServer index s).toList = lexemesFrom index s
  | _, [], _ => rfl
  | index, .text t :: s, h => by
    have hplain : ∀ c ∈ t.toList, c ≠ '@' := by
      rintro c hc rfl
      exact absurd (List.all_eq_true.mp h.1 _ hc) (by decide)
    rw [textFrom, String.toList_append, lexPlaceholders_plain hplain, lex_text index s h.2,
      lexemesFrom]
  | index, .name n :: s, h => by
    have hopen : '[' ≠ '@' := by decide
    have hclose : ']' ≠ '@' := by decide
    have hchars : (textFrom .sqlServer index (.name n :: s)).toList =
        '[' :: (Text.doubleChars ']' n.toList ++ ']' :: (textFrom .sqlServer index s).toList) := by
      simp [textFrom, Dialect.quote, Dialect.quoteChars, Dialect.quoteOpen, Dialect.quoteClose]
    rw [hchars, lexPlaceholders_cons_ne hopen, lexPlaceholders_append (endsWord_bracket _),
      lexPlaceholders_cons_ne hclose, lex_text index s h.2, lexemesFrom]
  | index, .value v :: s, h => by
    have hend : EndsWord (textFrom .sqlServer (index + 1) s).toList := by
      intro c hc
      have hb := isBreak_of_head? .sqlServer (index + 1) h.1 c hc
      simp only [isBreak, Bool.and_eq_true, Bool.not_eq_true'] at hb
      exact ⟨hb.1.2, hb.2⟩
    have hchars : (textFrom .sqlServer index (.value v :: s)).toList =
        placeholderMark ++ Nat.toDigits 10 index ++
          (textFrom .sqlServer (index + 1) s).toList := by
      simp [textFrom, Dialect.slot, Dialect.slotMark, Dialect.slotBase, placeholderMark]
    rw [hchars, lexPlaceholders_mark Nat.toDigits_ne_nil
      (fun c hc => Number.isDigit_of_mem_toDigits hc) hend, lex_text (index + 1) s h.2, lexemesFrom]

/-- There is a placeholder for each value, and one for each that a name
holds. -/
theorem length_slotDigits : ∀ (index : Nat) (s : Statement),
    (slotDigits (lexemesFrom index s)).length = s.params.length +
      (s.names.map fun n => (slotDigits (lexPlaceholders n.toList)).length).sum
  | _, [] => rfl
  | index, .text t :: s => by
    rw [lexemesFrom, slotDigits_append, slotDigits_map_char]
    exact length_slotDigits index s
  | index, .name n :: s => by
    have ih := length_slotDigits index s
    simp only [lexemesFrom, slotDigits, slotDigits_append, slotDigits_doubled, List.length_append,
      names, List.map_cons, List.sum_cons, params_name, ih]
    omega
  | index, .value v :: s => by
    have ih := length_slotDigits (index + 1) s
    simp only [lexemesFrom, slotDigits, List.length_cons, names, params_value, ih]
    omega

theorem slotDigits_lexemesFrom : ∀ (index : Nat) (s : Statement),
    (∀ n ∈ s.names, holdsMark n = false) →
    slotDigits (lexemesFrom index s) =
      (List.range' index s.params.length).map (Nat.toDigits 10)
  | _, [], _ => rfl
  | index, .text t :: s, h => by
    rw [lexemesFrom, slotDigits_append, slotDigits_map_char]
    exact slotDigits_lexemesFrom index s h
  | index, .name n :: s, h => by
    have hn : slotDigits (lexPlaceholders n.toList) = [] := by
      simpa [holdsMark] using h n (by simp [names])
    simp only [lexemesFrom, slotDigits, slotDigits_append, slotDigits_doubled, hn, List.nil_append]
    exact slotDigits_lexemesFrom index s fun m hm => h m (by simp [names, hm])
  | index, .value v :: s, h => by
    rw [lexemesFrom, slotDigits, slotDigits_lexemesFrom (index + 1) s h, params_value,
      List.length_cons, List.range'_succ, List.map_cons]

end Statement
end TableGate

/-
# Texts without blocks

A text of blanks, parentheses, commas, points, words, numbers and quoted names is read
with no token that opens or closes a block or ends a statement, whatever the names
hold, as long as no word is `BEGIN`, `CASE` or `END` (`reads_of_calm`). Behind a first
word that is no command it is a statement (`isStatement_of_calm`).

A name is read up to its closing quote, as the copies of it inside are doubled. A word
is read up to a blank, a parenthesis or a comma, unless an entry of the lexicon stands
in its place. Such an entry is a row of words, as `PRIMARY KEY` is, and ends where a
word of the text does (`calm_of_words`), so what follows it is a text of the same kind.

Calm texts are put together from the end: fixed texts, names, integers and types of
plain words before a text that is calm already.

Key definitions: `isInWord`, `endsWord`, `isCalmWord`, `Calm`, `CalmEnd`,
`IsPlainType`, `Segment.isCalm`.
Key theorems: `entry_of_word`, `CalmEnd.text`, `Calm.text`, `CalmEnd.integer`,
`readQuoted_quoteChars`, `readSegment_of_calm`, `reads_of_calm`, `isStatement_of_calm`.
-/
import TableGate.Proofs.Query.Numeral
import TableGate.Proofs.Sql.Statements

namespace TableGate
namespace Sql

variable {d : Dialect} {c : Char} {w cs rest : List Char}

/-! ### Words -/

/-- A character that goes on a word in any dialect. -/
def isInWord (c : Char) : Bool := !Text.isBlank c && !Lexicon.postgres.isPunctuation c

/-- A character that a word or a number ends before. -/
def endsWord (c : Char) : Bool := Text.isBlank c || ['(', ')', ',', ';'].contains c

/-- The words that open and close blocks. -/
def blockWords : List String := ["BEGIN", "CASE", "END"]

/-- A number, or a word that neither begins like one nor opens or closes a block. -/
def isCalmWord (w : List Char) : Bool :=
  w.all Text.isAsciiDigit ||
    !w.head?.any Text.isAsciiDigit && !blockWords.contains (Text.upper (String.ofList w))

theorem contains_eq_false {P : Char → Prop} {xs : List Char} (hall : ∀ x ∈ xs, ¬ P x)
    (hc : P c) : xs.contains c = false := by
  by_contra hmem
  rw [Bool.not_eq_false, List.contains_iff_mem] at hmem
  exact hall c hmem hc

theorem isAlpha_of_toUpper (h : c.toUpper.isUpper = true) : c.isAlpha = true := by
  unfold Char.toUpper at h
  split at h
  · rename_i hlower
    have hboth : c.isLower = true :=
      Bool.and_eq_true_iff.mpr ⟨decide_eq_true hlower.1, decide_eq_true hlower.2⟩
    exact Bool.or_eq_true_iff.mpr (.inr hboth)
  · exact Bool.or_eq_true_iff.mpr (.inl h)

theorem isInWord_of_range (h : (48 ≤ c.toNat ∧ c.toNat ≤ 57) ∨ (65 ≤ c.toNat ∧ c.toNat ≤ 90) ∨
    (97 ≤ c.toNat ∧ c.toNat ≤ 122)) : isInWord c = true := by
  have hblank : Text.isBlank c = false := Text.isBlank_of_isVisible (by omega)
  have hpunctuation : Lexicon.postgres.isPunctuation c = false := by
    have hall : ∀ p ∈ Lexicon.postgres.punctuation, ¬ ((48 ≤ p.toNat ∧ p.toNat ≤ 57) ∨
        (65 ≤ p.toNat ∧ p.toNat ≤ 90) ∨ (97 ≤ p.toNat ∧ p.toNat ≤ 122)) := by decide
    exact contains_eq_false hall h
  rw [isInWord, hblank, hpunctuation]
  rfl

theorem isInWord_of_isAlpha (h : c.isAlpha = true) : isInWord c = true := by
  rcases Bool.or_eq_true_iff.mp h with hupper | hlower
  · exact isInWord_of_range (.inr (.inl (of_decide_eq_true hupper)))
  · have hboth := (Bool.and_eq_true_iff.mp hlower).imp of_decide_eq_true of_decide_eq_true
    exact isInWord_of_range (.inr (.inr hboth))

theorem isInWord_of_isAsciiDigit (h : Text.isAsciiDigit c = true) : isInWord c = true := by
  rw [Text.isAsciiDigit, Bool.and_eq_true, decide_eq_true_eq, decide_eq_true_eq] at h
  exact isInWord_of_range (.inl h)

theorem isBlank_of_isInWord (h : isInWord c = true) : Text.isBlank c = false := by
  rw [isInWord, Bool.and_eq_true, Bool.not_eq_true'] at h
  exact h.1

theorem endsWord_of_isInWord (h : isInWord c = true) : endsWord c = false := by
  have hall : ∀ p ∈ ['(', ')', ',', ';'], ¬ isInWord p = true := by decide
  rw [endsWord, isBlank_of_isInWord h, Bool.false_or]
  exact contains_eq_false hall h

theorem isPunctuation_of_isInWord (d : Dialect) (h : isInWord c = true) :
    d.lexicon.isPunctuation c = false := by
  have hall : ∀ p ∈ d.lexicon.punctuation, ¬ isInWord p = true := by cases d <;> decide
  exact contains_eq_false hall h

theorem isPunctuation_of_isBlank (d : Dialect) (h : Text.isBlank c = true) :
    d.lexicon.isPunctuation c = false := by
  have hall : ∀ p ∈ d.lexicon.punctuation, ¬ Text.isBlank p = true := by cases d <;> decide
  exact contains_eq_false hall h

theorem continuesWord_of_isInWord (d : Dialect) (h : isInWord c = true) :
    d.lexicon.continuesWord c = true := by
  rw [Lexicon.continuesWord, isPunctuation_of_isInWord d h, isBlank_of_isInWord h]
  rfl

theorem continuesWord_of_endsWord (d : Dialect) (h : endsWord c = true) :
    d.lexicon.continuesWord c = false := by
  rw [endsWord, Bool.or_eq_true, List.contains_iff_mem] at h
  rcases h with hblank | hmem
  · rw [Lexicon.continuesWord, hblank]
    rfl
  · have hall : ∀ p ∈ ['(', ')', ',', ';'], d.lexicon.continuesWord p = false := by
      cases d <;> decide
    exact hall c hmem

theorem lookup_of_isInWord (d : Dialect) (h : isInWord c = true) :
    d.lexicon.nameQuotes.lookup c = none := by
  have hquotes : ∀ p ∈ d.lexicon.nameQuotes, isInWord p.1 = false := by cases d <;> decide
  rw [List.lookup_eq_none_iff]
  intro p hp
  rw [bne_iff_ne]
  rintro rfl
  rw [hquotes p hp] at h
  cases h

/-- A word ends before a text also where a semicolon follows that. -/
theorem endsWord_append_semicolon (h : ∀ x ∈ cs.head?, endsWord x = true) :
    ∀ x ∈ (cs ++ [';']).head?, endsWord x = true := by
  intro x hx
  cases cs with
  | nil =>
    obtain rfl := Option.some.inj hx
    decide
  | cons y cs => exact h x hx

/-! ### Entries -/

/-- A character of an entry that stands for one of a word. -/
def isKeyLetter (k : Char) : Bool := k.isUpper || k == '_'

/-- The entry is a row of words, or holds a character that no word goes on with and
none ends before. -/
def Entry.isCalm (key : List Char) (e : Entry) : Bool :=
  key.all (fun k => k == ' ' || isKeyLetter k) && (e == .symbol .other || e == .symbol .command) ||
    (key.dropWhile isKeyLetter).head?.any fun k => !isInWord k && !endsWord k

theorem isCalm_entries (d : Dialect) :
    ∀ e ∈ d.lexicon.entries, Entry.isCalm e.1.toList e.2 = true := by
  cases d <;> decide +kernel

theorem ne_blank_of_isKeyLetter {k : Char} (h : isKeyLetter k = true) : k ≠ ' ' := by
  rintro rfl
  exact absurd h (by decide)

theorem isInWord_of_isKeyLetter (h : isKeyLetter c.toUpper = true) : isInWord c = true := by
  rw [isKeyLetter, Bool.or_eq_true, beq_iff_eq] at h
  rcases h with hupper | hline
  · exact isInWord_of_isAlpha (isAlpha_of_toUpper hupper)
  · rw [eq_of_toUpper_eq (by decide) hline]
    decide

/-- Another character of an entry stands for itself. -/
theorem eq_of_toUpper {k : Char} (hk : isInWord k = false) (h : k = c.toUpper) : c = k := by
  have hupper : k.isUpper = false := by
    by_contra hupper
    rw [Bool.not_eq_false] at hupper
    have hword : isInWord k = true := isInWord_of_isAlpha (Bool.or_eq_true_iff.mpr (.inl hupper))
    rw [hk] at hword
    cases hword
  exact eq_of_toUpper_eq hupper h.symm

/-- An entry with a character before which no word ends does not stand where a word
does. -/
theorem readKey?_eq_none {k : Char} {key : List Char} (hk : isInWord k = false)
    (hends : endsWord k = false) (hrest : ∀ c ∈ rest.head?, endsWord c = true) :
    ∀ {letters w : List Char}, (∀ p ∈ letters, isKeyLetter p = true) →
      (∀ c ∈ w, isInWord c = true) →
      Lexicon.readKey? (letters ++ k :: key) (w ++ rest) = none
  | letters, [], hletters, _ => by
    cases rest with
    | nil => cases letters <;> rfl
    | cons r rest =>
      have hr : endsWord r = true := hrest r rfl
      cases letters with
      | nil =>
        have hblank : k ≠ ' ' := by
          rintro rfl
          exact absurd hends (by decide)
        have hne : k ≠ r.toUpper := by
          intro heq
          rw [eq_of_toUpper hk heq, hends] at hr
          cases hr
        rw [List.nil_append, List.nil_append, Lexicon.readKey?, if_neg hblank, if_neg hne]
      | cons p letters =>
        have hp := hletters p List.mem_cons_self
        have hne : p ≠ r.toUpper := by
          rintro rfl
          rw [endsWord_of_isInWord (isInWord_of_isKeyLetter hp)] at hr
          cases hr
        rw [List.cons_append, List.nil_append, Lexicon.readKey?,
          if_neg (ne_blank_of_isKeyLetter hp), if_neg hne]
  | [], c :: w, _, hw => by
    have hblank : k ≠ ' ' := by
      rintro rfl
      exact absurd hends (by decide)
    have hne : k ≠ c.toUpper := by
      intro heq
      have hc := hw c List.mem_cons_self
      rw [eq_of_toUpper hk heq, hk] at hc
      cases hc
    rw [List.nil_append, List.cons_append, Lexicon.readKey?, if_neg hblank, if_neg hne]
  | p :: letters, c :: w, hletters, hw => by
    have hp := hletters p List.mem_cons_self
    have hnone : Lexicon.readKey? (letters ++ k :: key) (w ++ rest) = none :=
      readKey?_eq_none hk hends hrest (fun p hp => hletters p (List.mem_cons_of_mem _ hp))
        fun c hc => hw c (List.mem_cons_of_mem _ hc)
    rw [List.cons_append, List.cons_append, Lexicon.readKey?, if_neg (ne_blank_of_isKeyLetter hp),
      hnone, Option.map_none, ite_self]

theorem words_of_readKey? : ∀ {key cs text rest : List Char},
    key.all (fun k => k == ' ' || isKeyLetter k) = true →
      Lexicon.readKey? key cs = some (text, rest) →
      ∀ c ∈ text, Text.isBlank c = true ∨ isInWord c = true
  | [], cs, _, _, _, h => by
    obtain ⟨rfl, -⟩ := Prod.mk.inj (Option.some.inj h)
    simp
  | _ :: _, [], _, _, _, h => by cases h
  | k :: key, c :: cs, text, rest, hkey, h => by
    rw [List.all_cons, Bool.and_eq_true, Bool.or_eq_true, beq_iff_eq] at hkey
    rw [Lexicon.readKey?] at h
    split at h
    · split at h
      · rename_i hblank
        obtain ⟨⟨text', rest'⟩, hread, hpair⟩ := Option.map_eq_some_iff.mp h
        obtain ⟨rfl, rfl⟩ := Prod.mk.inj hpair
        have hwords := words_of_readKey? hkey.2 hread
        intro x hx
        rcases List.mem_append.mp hx with hfront | hback
        · rcases List.mem_cons.mp hfront with rfl | hmem
          · exact .inl hblank
          · exact .inl (List.mem_takeWhile_imp hmem)
        · exact hwords x hback
      · cases h
    · rename_i hblank
      split at h
      · rename_i hc
        obtain ⟨⟨text', rest'⟩, hread, hpair⟩ := Option.map_eq_some_iff.mp h
        obtain ⟨rfl, rfl⟩ := Prod.mk.inj hpair
        have hwords := words_of_readKey? hkey.2 hread
        have hletter : isKeyLetter c.toUpper = true := hc ▸ hkey.1.resolve_left hblank
        rintro x hx
        rcases List.mem_cons.mp hx with rfl | hmem
        · exact .inr (isInWord_of_isKeyLetter hletter)
        · exact hwords x hmem
      · cases h

/-- **An entry that stands where a word does is a row of words.** -/
theorem entry_of_word (d : Dialect) {m : Lexicon.Match} (hw : ∀ c ∈ w, isInWord c = true)
    (hrest : ∀ c ∈ rest.head?, endsWord c = true) (h : d.lexicon.entryAt? (w ++ rest) = some m) :
    (m.entry = .symbol .other ∨ m.entry = .symbol .command) ∧
      (∀ c ∈ m.text, Text.isBlank c = true ∨ isInWord c = true) ∧ m.text ++ m.rest = w ++ rest := by
  obtain ⟨hmem, hread⟩ := entryAt?_eq_some h
  have hcalm := isCalm_entries d _ hmem
  rw [Entry.isCalm, Bool.or_eq_true, Bool.and_eq_true, Bool.or_eq_true, beq_iff_eq, beq_iff_eq]
    at hcalm
  rcases hcalm with ⟨hkey, hentry⟩ | hother
  · exact ⟨hentry, words_of_readKey? hkey hread, Lexicon.readKey?_append hread⟩
  · exfalso
    rw [Option.any_eq_true] at hother
    obtain ⟨k, hhead, hk⟩ := hother
    rw [Bool.and_eq_true, Bool.not_eq_true', Bool.not_eq_true'] at hk
    obtain ⟨key, hdrop⟩ := List.head?_eq_some_iff.mp hhead
    have hnone : Lexicon.readKey? (m.key.toList.takeWhile isKeyLetter ++ k :: key) (w ++ rest) =
        none := readKey?_eq_none hk.1 hk.2 hrest (fun p hp => List.mem_takeWhile_imp hp) hw
    rw [← hdrop, List.takeWhile_append_dropWhile, hread] at hnone
    cases hnone

/-! ### Calm texts -/

/-- A text outside of whose names no block is opened or closed and no statement ends. -/
inductive Calm (d : Dialect) : List Char → Prop
  | nil : Calm d []
  | blank {c : Char} {cs : List Char} (hc : Text.isBlank c = true) (h : Calm d cs) :
      Calm d (c :: cs)
  | mark {c : Char} {cs : List Char} (hc : c ∈ ['(', ')', ',', '.']) (h : Calm d cs) :
      Calm d (c :: cs)
  | minus {c : Char} {cs : List Char} (hc : Text.isAsciiDigit c = true) (h : Calm d (c :: cs)) :
      Calm d ('-' :: c :: cs)
  | word {c : Char} {w cs : List Char} (hw : ∀ x ∈ c :: w, isInWord x = true)
      (hcalm : isCalmWord (c :: w) = true) (hend : ∀ x ∈ cs.head?, endsWord x = true)
      (h : Calm d cs) : Calm d (c :: w ++ cs)
  | name {n cs : List Char} (hend : cs.head? ≠ some d.quoteClose) (h : Calm d cs) :
      Calm d (d.quoteChars n ++ cs)

theorem calm_of_words {r : List Char} (h : Calm d cs) :
    ∀ {t : List Char}, t ++ r = cs → (∀ c ∈ t, Text.isBlank c = true ∨ isInWord c = true) →
      (∀ c ∈ r.head?, isInWord c = false) → Calm d r := by
  induction h with
  | nil =>
    intro t hcs _ _
    rw [(List.append_eq_nil_iff.mp hcs).2]
    exact .nil
  | @blank c cs hc h ih =>
    intro t hcs ht hr
    cases t with
    | nil =>
      rw [List.nil_append] at hcs
      exact hcs ▸ .blank hc h
    | cons x t => exact ih (List.cons.inj hcs).2 (fun y hy => ht y (List.mem_cons_of_mem x hy)) hr
  | @mark c cs hc h ih =>
    intro t hcs ht hr
    cases t with
    | nil =>
      rw [List.nil_append] at hcs
      exact hcs ▸ .mark hc h
    | cons x t =>
      have hmarks : ∀ p ∈ ['(', ')', ',', '.'], ¬ (Text.isBlank p = true ∨ isInWord p = true) := by
        decide
      have hx := ht x List.mem_cons_self
      rw [(List.cons.inj hcs).1] at hx
      exact absurd hx (hmarks c hc)
  | @minus c cs hc h ih =>
    intro t hcs ht hr
    cases t with
    | nil =>
      rw [List.nil_append] at hcs
      exact hcs ▸ .minus hc h
    | cons x t =>
      have hx := ht x List.mem_cons_self
      rw [(List.cons.inj hcs).1] at hx
      exact absurd hx (by decide)
  | @word c w cs hw hcalm hend h ih =>
    intro t hcs ht hr
    rcases List.append_eq_append_iff.mp hcs with ⟨as, hword, hr'⟩ | ⟨as, rfl, hcs'⟩
    · cases as with
      | nil => exact hr' ▸ h
      | cons x as =>
        have hx : isInWord x = true := hw x (by simp [hword])
        rw [hr x (by rw [hr']; rfl)] at hx
        cases hx
    · exact ih hcs'.symm (fun y hy => ht y (List.mem_append_right _ hy)) hr
  | @name n cs hend h ih =>
    intro t hcs ht hr
    cases t with
    | nil =>
      rw [List.nil_append] at hcs
      exact hcs ▸ .name hend h
    | cons x t =>
      have hopen : ¬ (Text.isBlank d.quoteOpen = true ∨ isInWord d.quoteOpen = true) := by
        cases d <;> decide
      have hx := ht x List.mem_cons_self
      rw [(List.cons.inj hcs).1] at hx
      exact absurd hx hopen

/-! ### Putting calm texts together -/

/-- A calm text that a word may stand before. -/
def CalmEnd (d : Dialect) (cs : List Char) : Prop :=
  Calm d cs ∧ ∀ x ∈ cs.head?, endsWord x = true

/-- A text of blanks, parentheses, commas and calm words, where `word` holds what is
read of the current word, last character first. -/
def isCalmFrom (word : List Char) : List Char → Bool
  | [] => isCalmWord word.reverse
  | c :: cs =>
    if isInWord c then isCalmFrom (c :: word) cs
    else (Text.isBlank c || ['(', ')', ','].contains c) && isCalmWord word.reverse && isCalmFrom [] cs

theorem calmEnd_blank (hc : Text.isBlank c = true) (h : Calm d cs) : CalmEnd d (c :: cs) :=
  ⟨.blank hc h, by simp [endsWord, hc]⟩

theorem calmEnd_mark (hc : c ∈ ['(', ')', ',']) (h : Calm d cs) : CalmEnd d (c :: cs) := by
  have hmarks : ∀ p ∈ ['(', ')', ','], p ∈ ['(', ')', ',', '.'] ∧ endsWord p = true := by decide
  exact ⟨.mark (hmarks c hc).1 h, by simp [(hmarks c hc).2]⟩

theorem calm_word (hw : ∀ x ∈ w, isInWord x = true) (hcalm : isCalmWord w = true)
    (h : CalmEnd d cs) : Calm d (w ++ cs) := by
  cases w with
  | nil => exact h.1
  | cons c w => exact .word hw hcalm h.2 h.1

/-- A text that ends where a word may stand behind it keeps a text calm. -/
theorem calm_append_of_isCalmFrom (h : Calm d cs) : ∀ {t word : List Char},
    (∀ x ∈ word, isInWord x = true) → isCalmFrom word t = true →
      ((∀ x ∈ cs.head?, endsWord x = true) ∨
        ∀ x ∈ (word.reverse ++ t).getLast?, isInWord x = false) →
      Calm d (word.reverse ++ t ++ cs)
  | [], word, hword, ht, hend => by
    rw [List.append_nil]
    have hreverse : ∀ x ∈ word.reverse, isInWord x = true :=
      fun x hx => hword x (List.mem_reverse.mp hx)
    rcases hend with hend | hlast
    · exact calm_word hreverse ht ⟨h, hend⟩
    · cases word with
      | nil => exact h
      | cons x word =>
        have hx := hlast x (by simp)
        rw [hword x List.mem_cons_self] at hx
        cases hx
  | c :: t, word, hword, ht, hend => by
    rw [isCalmFrom] at ht
    split at ht
    · rename_i hc
      have hlist : word.reverse ++ c :: t = (c :: word).reverse ++ t := by simp
      rw [hlist] at hend ⊢
      refine calm_append_of_isCalmFrom h (List.forall_mem_cons.mpr ⟨hc, hword⟩) ht hend
    · rw [Bool.and_eq_true, Bool.and_eq_true, Bool.or_eq_true, List.contains_iff_mem] at ht
      obtain ⟨⟨hc, hcalm⟩, ht⟩ := ht
      have hend' : (∀ x ∈ cs.head?, endsWord x = true) ∨
          ∀ x ∈ ([].reverse ++ t).getLast?, isInWord x = false := by
        refine hend.imp_right fun hlast x hx => hlast x ?_
        have hlist : word.reverse ++ c :: t = (word.reverse ++ [c]) ++ t := by simp
        rw [List.reverse_nil, List.nil_append, Option.mem_def] at hx
        rw [hlist, List.getLast?_append, hx]
        rfl
      have hrest : Calm d (t ++ cs) := calm_append_of_isCalmFrom h (by simp) ht hend'
      have hbreak : CalmEnd d (c :: (t ++ cs)) :=
        hc.elim (fun hblank => calmEnd_blank hblank hrest) fun hmark => calmEnd_mark hmark hrest
      rw [List.append_assoc]
      exact calm_word (fun x hx => hword x (List.mem_reverse.mp hx)) hcalm hbreak

/-- A text before one that a word may stand before. -/
theorem CalmEnd.text {s : String} (hs : isCalmFrom [] s.toList = true) (h : CalmEnd d cs) :
    Calm d (s.toList ++ cs) := calm_append_of_isCalmFrom h.1 (by simp) hs (.inl h.2)

/-- A text that no word goes on behind. -/
theorem Calm.text {s : String} (hs : isCalmFrom [] s.toList = true)
    (hlast : ∀ x ∈ s.toList.getLast?, isInWord x = false) (h : Calm d cs) :
    Calm d (s.toList ++ cs) := calm_append_of_isCalmFrom h (by simp) hs (.inr hlast)

/-- A text that no word goes on with, before a calm one. -/
theorem calmEnd_append {t : List Char} (ht : ∀ x ∈ t.head?, endsWord x = true)
    (h : CalmEnd d cs) (hcalm : Calm d (t ++ cs)) : CalmEnd d (t ++ cs) := by
  refine ⟨hcalm, ?_⟩
  cases t with
  | nil => exact h.2
  | cons c t => exact ht

/-- A text that no word goes on with, before one of the same kind. -/
theorem CalmEnd.fixed {s : String} (hs : isCalmFrom [] s.toList = true)
    (hfirst : ∀ x ∈ s.toList.head?, endsWord x = true) (h : CalmEnd d cs) :
    CalmEnd d (s.toList ++ cs) := calmEnd_append hfirst h (h.text hs)

/-- A text that no word goes on with or behind, before a calm one. -/
theorem Calm.fixed {s : String} (hs : isCalmFrom [] s.toList = true)
    (hlast : ∀ x ∈ s.toList.getLast?, isInWord x = false)
    (hfirst : s.toList.head?.any endsWord = true) (h : Calm d cs) :
    CalmEnd d (s.toList ++ cs) := by
  refine ⟨h.text hs hlast, ?_⟩
  cases hchars : s.toList with
  | nil =>
    rw [hchars] at hfirst
    cases hfirst
  | cons c w =>
    intro x hx
    obtain rfl := Option.some.inj hx
    rwa [hchars] at hfirst

/-- An integer before a text that a word may stand before. -/
theorem CalmEnd.integer (n : Int) (h : CalmEnd d cs) : Calm d ((toString n).toList ++ cs) := by
  have hdigits : ∀ x ∈ Nat.toDigits 10 n.natAbs, Text.isAsciiDigit x = true :=
    fun x hx => Number.isAsciiDigit_of_mem_toDigits hx
  have hcalm : Calm d (Nat.toDigits 10 n.natAbs ++ cs) :=
    calm_word (fun x hx => isInWord_of_isAsciiDigit (hdigits x hx))
      (by simp [isCalmWord, List.all_eq_true.mpr hdigits]) h
  rcases Query.toList_toString n with ⟨-, hchars⟩ | ⟨-, hchars⟩
  · rwa [hchars]
  · rw [hchars]
    obtain ⟨c, w, hw⟩ := List.exists_cons_of_ne_nil (Nat.toDigits_ne_nil (n := n.natAbs) (b := 10))
    rw [hw] at hdigits hcalm ⊢
    exact .minus (hdigits c List.mem_cons_self) hcalm

/-- A type of words without punctuation, none of them for a block. -/
def IsPlainType (s : String) : Prop :=
  (∀ c ∈ s.toList, Text.isBlank c = true ∨ isInWord c = true) ∧
    ∀ w ∈ Text.words s, isCalmWord w.toList = true

instance (s : String) : Decidable (IsPlainType s) :=
  inferInstanceAs (Decidable (_ ∧ _))

theorem isCalmFrom_of_words : ∀ {cs word : List Char},
    (∀ c ∈ cs, Text.isBlank c = true ∨ isInWord c = true) →
      (∀ w ∈ Text.wordsFrom word cs, isCalmWord w = true) → isCalmFrom word cs = true
  | [], word, _, h => by
    cases word with
    | nil => rfl
    | cons c word => exact h (c :: word).reverse (by simp [Text.wordsFrom])
  | c :: cs, word, hcs, h => by
    have hrest : ∀ c ∈ cs, Text.isBlank c = true ∨ isInWord c = true :=
      fun x hx => hcs x (List.mem_cons_of_mem c hx)
    rw [isCalmFrom]
    rw [Text.wordsFrom] at h
    rcases hcs c List.mem_cons_self with hblank | hword
    · have hinside : isInWord c = false := by simp [isInWord, hblank]
      rw [if_pos hblank] at h
      rw [if_neg (by simp [hinside]), hblank, Bool.true_or, Bool.true_and, Bool.and_eq_true]
      cases word with
      | nil => exact ⟨rfl, isCalmFrom_of_words hrest h⟩
      | cons x word =>
        rw [if_neg (by simp), List.forall_mem_cons] at h
        exact ⟨h.1, isCalmFrom_of_words hrest h.2⟩
    · rw [if_neg (by simp [isBlank_of_isInWord hword])] at h
      rw [if_pos hword]
      exact isCalmFrom_of_words hrest h

theorem IsPlainType.isCalmFrom {s : String} (h : IsPlainType s) :
    isCalmFrom [] s.toList = true := by
  refine isCalmFrom_of_words h.1 fun w hw => ?_
  have hcalm := h.2 (String.ofList w) (List.mem_map_of_mem hw)
  rwa [String.toList_ofList] at hcalm

/-! ### Reading calm texts -/

/-- The segment neither opens nor closes a block nor ends a statement. -/
def Segment.isCalm : Segment → Bool
  | .gap _ => true
  | .token t => t.kind == .other || t.kind == .command

/-- **A quoted name is read up to its closing quote**, whatever it holds. -/
theorem readQuoted_quoteChars (d : Dialect) {rest : List Char} (hne : rest ≠ [])
    (hhead : rest.head? ≠ some d.quoteClose) : ∀ n : List Char,
      readQuoted d.lexicon (d.quoteClose :: d.lexicon.nameEscapes) [d.quoteClose]
          (Text.doubleChars d.quoteClose n ++ d.quoteClose :: rest) =
        .closed (Text.doubleChars d.quoteClose n) rest := by
  have hescapes : d.lexicon.nameEscapes = [] := by cases d <;> rfl
  rw [hescapes]
  intro n
  induction n with
  | nil =>
    obtain ⟨r, rest, rfl⟩ := List.exists_cons_of_ne_nil hne
    have hr : r ≠ d.quoteClose := fun heq => hhead (by rw [heq]; rfl)
    simp [Text.doubleChars, readQuoted, takesAlong, hr]
  | cons c n ih =>
    by_cases hc : c = d.quoteClose
    · subst hc
      simp [Text.doubleChars, readQuoted, takesAlong, ih, Quotation.prepend]
    · have hcons : Text.doubleChars d.quoteClose n ++ d.quoteClose :: rest ≠ [] := by simp
      obtain ⟨x, xs, hx⟩ := List.exists_cons_of_ne_nil hcons
      have hstays : takesAlong d.lexicon [d.quoteClose] [d.quoteClose] c x = false := by
        simp [takesAlong, hc]
      have hopen : [d.quoteClose].isPrefixOf (c :: x :: xs) = false := by
        simp [List.isPrefixOf, Ne.symm hc]
      rw [Text.doubleChars, if_neg hc, List.cons_append, hx, readQuoted,
        if_neg (Bool.not_eq_true _ ▸ hstays), if_neg (Bool.not_eq_true _ ▸ hopen), ← hx, ih]
      rfl

theorem punctuationOrWord_of_word (d : Dialect) (hw : ∀ x ∈ c :: w, isInWord x = true)
    (hrest : ∀ x ∈ rest.head?, endsWord x = true) :
    punctuationOrWord d.lexicon false c (w ++ rest) =
      bareToken (d.lexicon.wordKind (c :: w)) (c :: w) rest := by
  have hgoes : ∀ x ∈ w, d.lexicon.continuesWord x = true :=
    fun x hx => continuesWord_of_isInWord d (hw x (List.mem_cons_of_mem c hx))
  have hstops : rest.takeWhile d.lexicon.continuesWord = [] ∧
      rest.dropWhile d.lexicon.continuesWord = rest := by
    cases rest with
    | nil => exact ⟨rfl, rfl⟩
    | cons r rest =>
      have hr := continuesWord_of_endsWord d (hrest r rfl)
      exact ⟨List.takeWhile_cons_of_neg (by simp [hr]), List.dropWhile_cons_of_neg (by simp [hr])⟩
  have hc := isPunctuation_of_isInWord d (hw c List.mem_cons_self)
  rw [punctuationOrWord, if_neg (by simp [hc])]
  dsimp only
  rw [List.takeWhile_append_of_pos hgoes, List.dropWhile_append_of_pos hgoes, hstops.1, hstops.2,
    List.append_nil]
  rfl

theorem wordKind_of_calm (d : Dialect)
    (hw : blockWords.contains (Text.upper (String.ofList w)) = false) :
    d.lexicon.wordKind w = .other ∨ d.lexicon.wordKind w = .command := by
  have hbegin : d.lexicon.beginWords = ["BEGIN"] := by cases d <;> rfl
  have hend : d.lexicon.endWords = ["END"] := by cases d <;> rfl
  have hne : Text.upper (String.ofList w) ≠ "BEGIN" ∧ Text.upper (String.ofList w) ≠ "CASE" ∧
      Text.upper (String.ofList w) ≠ "END" := by
    simpa [blockWords] using hw
  unfold Lexicon.wordKind
  rw [hbegin, hend, if_neg (by simp [hne.1]), if_neg hne.2.1, if_neg (by simp [hne.2.2])]
  split
  · exact .inr rfl
  · exact .inl rfl

theorem numberTail_of_digits (l : Lexicon) (hrest : ∀ x ∈ rest.head?, endsWord x = true) :
    ∀ {w : List Char}, (∀ x ∈ w, Text.isAsciiDigit x = true) →
      numberTail l false false 0 (w ++ rest) = (w, rest)
  | [], _ => by
    cases rest with
    | nil => rfl
    | cons r rest =>
      have hr : endsWord r = true := hrest r rfl
      have hne : ∀ x, endsWord x = false → r ≠ x := by
        rintro x hx rfl
        rw [hx] at hr
        cases hr
      have hdigit : Text.isAsciiDigit r = false := by
        by_contra hdigit
        rw [Bool.not_eq_false] at hdigit
        rw [endsWord_of_isInWord (isInWord_of_isAsciiDigit hdigit)] at hr
        cases hr
      rw [List.nil_append, numberTail]
      simp [hdigit, hne '.' (by decide), hne 'e' (by decide), hne 'E' (by decide),
        hne '_' (by decide)]
  | c :: w, hw => by
    have hc := hw c List.mem_cons_self
    rw [List.cons_append, numberTail]
    simp [hc, numberTail_of_digits l hrest fun x hx => hw x (List.mem_cons_of_mem c hx)]

theorem numberToken_of_digits (d : Dialect) (hw : ∀ x ∈ w, Text.isAsciiDigit x = true)
    (hrest : ∀ x ∈ rest.head?, endsWord x = true) (c : Char) :
    numberToken d.lexicon false c (w ++ rest) = bareToken .other (c :: w) rest := by
  have hhead : ∀ x, Text.isAsciiDigit x = false → endsWord x = false → (w ++ rest).head? ≠ some x := by
    intro x hdigit hends hx
    cases w with
    | nil =>
      rw [hrest x hx] at hends
      cases hends
    | cons y w =>
      obtain rfl : y = x := Option.some.inj hx
      rw [hw y List.mem_cons_self] at hdigit
      cases hdigit
  have hnone : ∀ x y, Text.isAsciiDigit x = false → endsWord x = false →
      Text.isAsciiDigit y = false → endsWord y = false →
      (w ++ rest).head?.any (fun m => m == x || m == y) = false := by
    intro x y hx hx' hy hy'
    rw [Option.any_eq_false]
    intro m hm
    have hmx : m ≠ x := fun heq => hhead x hx hx' (heq ▸ hm)
    have hmy : m ≠ y := fun heq => hhead y hy hy' (heq ▸ hm)
    simp [hmx, hmy]
  have hnames : d.lexicon.digitNames = false := by cases d <;> rfl
  have hbinary := hnone 'b' 'B' (by decide) (by decide) (by decide) (by decide)
  have hhex := hnone 'x' 'X' (by decide) (by decide) (by decide) (by decide)
  unfold numberToken
  simp only [hbinary, hhex, Bool.and_false, Bool.false_and, numberTail_of_digits d.lexicon hrest hw,
    hnames]
  rfl

theorem readSegment_of_mark (d : Dialect) (hc : c ∈ ['(', ')', ',', '.']) (rest : List Char) :
    readSegment d.lexicon false c rest = .ok (bareToken .other [c] rest) := by
  simp only [List.mem_cons, List.not_mem_nil, or_false] at hc
  rcases hc with rfl | rfl | rfl | rfl <;> cases d <;> rfl

theorem mem_of_isAsciiDigit (hc : Text.isAsciiDigit c = true) :
    c ∈ ['0', '1', '2', '3', '4', '5', '6', '7', '8', '9'] := by
  rw [Text.isAsciiDigit, Bool.and_eq_true, decide_eq_true_eq, decide_eq_true_eq] at hc
  have hcode : c.toNat - 48 < 10 := by omega
  have hback : c = Char.ofNat (c.toNat - 48 + 48) := by
    rw [Nat.sub_add_cancel hc.1, Char.ofNat_toNat]
  have hall : ∀ n : Fin 10, Char.ofNat (n.val + 48) ∈
      ['0', '1', '2', '3', '4', '5', '6', '7', '8', '9'] := by decide
  rw [hback]
  exact hall ⟨_, hcode⟩

theorem readSegment_of_minus (d : Dialect) (hc : Text.isAsciiDigit c = true) (rest : List Char) :
    readSegment d.lexicon false '-' (c :: rest) = .ok (bareToken .other ['-'] (c :: rest)) := by
  have hdigit := mem_of_isAsciiDigit hc
  simp only [List.mem_cons, List.not_mem_nil, or_false] at hdigit
  rcases hdigit with rfl | rfl | rfl | rfl | rfl | rfl | rfl | rfl | rfl | rfl <;>
    cases d <;> rfl

theorem readSegment_of_digits (d : Dialect) (hw : ∀ x ∈ c :: w, Text.isAsciiDigit x = true)
    (hrest : ∀ x ∈ rest.head?, endsWord x = true) :
    readSegment d.lexicon false c (w ++ rest) = .ok (bareToken .other (c :: w) rest) := by
  have hc := hw c List.mem_cons_self
  have hblank := isBlank_of_isInWord (isInWord_of_isAsciiDigit hc)
  rw [readSegment, if_neg (by simp [hblank]), if_pos hc,
    numberToken_of_digits d (fun x hx => hw x (List.mem_cons_of_mem c hx)) hrest]

theorem readSegment_of_name (d : Dialect) (n : List Char) (hne : rest ≠ [])
    (hhead : rest.head? ≠ some d.quoteClose) :
    ∃ t : Token, readSegment d.lexicon false d.quoteOpen
        (Text.doubleChars d.quoteClose n ++ d.quoteClose :: rest) = .ok (.token t, rest) ∧
      t.kind = .other := by
  have hblank : Text.isBlank d.quoteOpen = false := by cases d <;> decide
  have hdigit : Text.isAsciiDigit d.quoteOpen = false := by cases d <;> decide
  have hquote : d.lexicon.nameQuotes.lookup d.quoteOpen = some d.quoteClose := by cases d <;> rfl
  refine ⟨⟨.other, [d.quoteOpen] ++ Text.doubleChars d.quoteClose n ++ [d.quoteClose],
    Text.doubleChars d.quoteClose n⟩, ?_, rfl⟩
  rw [readSegment, if_neg (by simp [hblank]), if_neg (by simp [hdigit]), hquote]
  dsimp only
  rw [readQuoted_quoteChars d hne hhead]
  rfl

theorem readSegment_of_word (d : Dialect) (hw : ∀ x ∈ c :: w, isInWord x = true)
    (hdigit : Text.isAsciiDigit c = false)
    (hkind : blockWords.contains (Text.upper (String.ofList (c :: w))) = false)
    (hrest : ∀ x ∈ rest.head?, endsWord x = true) :
    ∃ kind text rest',
      readSegment d.lexicon false c (w ++ rest) = .ok (bareToken kind text rest') ∧
      (kind = .other ∨ kind = .command) ∧ text ++ rest' = c :: w ++ rest ∧
      (∀ x ∈ text, Text.isBlank x = true ∨ isInWord x = true) ∧
      ∀ x ∈ rest'.head?, isInWord x = false := by
  have hc := hw c List.mem_cons_self
  have hword : ∃ kind text rest',
      (.ok (punctuationOrWord d.lexicon false c (w ++ rest)) : Except Fault _) =
        .ok (bareToken kind text rest') ∧
      (kind = .other ∨ kind = .command) ∧ text ++ rest' = c :: w ++ rest ∧
      (∀ x ∈ text, Text.isBlank x = true ∨ isInWord x = true) ∧
      ∀ x ∈ rest'.head?, isInWord x = false := by
    refine ⟨d.lexicon.wordKind (c :: w), c :: w, rest, ?_, wordKind_of_calm d hkind, rfl,
      fun x hx => .inr (hw x hx), fun x hx => ?_⟩
    · rw [punctuationOrWord_of_word d hw hrest]
    · by_contra hx'
      rw [Bool.not_eq_false] at hx'
      have hends := hrest x hx
      rw [endsWord_of_isInWord hx'] at hends
      cases hends
  rw [readSegment, if_neg (by simp [isBlank_of_isInWord hc]), if_neg (by simp [hdigit]),
    lookup_of_isInWord d hc]
  dsimp only
  cases hentry : d.lexicon.entryAt? (c :: (w ++ rest)) with
  | none => exact hword
  | some m =>
    obtain ⟨hkinds, hwords, happend⟩ := entry_of_word d (w := c :: w) hw hrest hentry
    have hsymbol : ∃ kind, m.entry = .symbol kind ∧ (kind = .other ∨ kind = .command) :=
      hkinds.elim (fun h => ⟨_, h, .inl rfl⟩) fun h => ⟨_, h, .inr rfl⟩
    obtain ⟨kind, hm, hkinds⟩ := hsymbol
    dsimp only
    rw [hm]
    dsimp only
    split
    · rename_i hends
      refine ⟨kind, m.text, m.rest, rfl, hkinds, happend, hwords, fun x hx => ?_⟩
      have hnone : m.text.any d.lexicon.isPunctuation = false := by
        rw [List.any_eq_false]
        intro y hy
        rcases hwords y hy with hblank | hinside
        · simp [isPunctuation_of_isBlank d hblank]
        · simp [isPunctuation_of_isInWord d hinside]
      rw [hnone, Bool.false_or, Lexicon.endsBefore, hx] at hends
      by_contra hinside
      rw [Bool.not_eq_false] at hinside
      simp [isBlank_of_isInWord hinside, isPunctuation_of_isInWord d hinside] at hends
    · exact hword

/-- **A calm text is read in calm segments**, one after the other. -/
theorem readSegment_of_calm (h : Calm d (c :: cs)) :
    ∃ s rest, readSegment d.lexicon false c (cs ++ [';']) = .ok (s, rest ++ [';']) ∧
      s.isCalm = true ∧ Calm d rest := by
  generalize htext : c :: cs = text at h
  cases h with
  | nil => cases htext
  | blank hc h =>
    obtain ⟨rfl, rfl⟩ := List.cons.inj htext
    exact ⟨.gap [c], cs, by rw [readSegment, if_pos hc], rfl, h⟩
  | mark hc h =>
    obtain ⟨rfl, rfl⟩ := List.cons.inj htext
    exact ⟨_, cs, readSegment_of_mark d hc _, rfl, h⟩
  | @minus c' cs' hc h =>
    obtain ⟨rfl, rfl⟩ := List.cons.inj htext
    exact ⟨_, c' :: cs', readSegment_of_minus d hc (cs' ++ [';']), rfl, h⟩
  | @word c' w cs' hw hcalm hend h =>
    obtain ⟨rfl, rfl⟩ : c = c' ∧ cs = w ++ cs' := List.cons.inj htext
    rw [List.append_assoc]
    by_cases hdigit : Text.isAsciiDigit c = true
    · have hdigits : ∀ x ∈ c :: w, Text.isAsciiDigit x = true := by
        simpa [isCalmWord, hdigit] using hcalm
      exact ⟨_, cs', readSegment_of_digits d hdigits (endsWord_append_semicolon hend), rfl, h⟩
    · have hkind : blockWords.contains (Text.upper (String.ofList (c :: w))) = false := by
        simpa [isCalmWord, hdigit] using hcalm
      obtain ⟨kind, text, rest, hread, hkinds, happend, hwords, hhead⟩ :=
        readSegment_of_word d hw (Bool.eq_false_iff.mpr hdigit) hkind (endsWord_append_semicolon hend)
      -- The words end before the semicolon, so they are words of the text.
      obtain ⟨r, rfl, htext⟩ : ∃ r, rest = r ++ [';'] ∧ text ++ r = c :: w ++ cs' := by
        rw [← List.append_assoc] at happend
        rcases List.append_eq_append_iff.mp happend with
          ⟨as, htext, hrest⟩ | ⟨_ | ⟨x, bs⟩, htext, hrest⟩
        · exact ⟨as, hrest, htext.symm⟩
        · exact ⟨[], hrest.symm, by rw [htext, List.append_nil, List.append_nil]⟩
        · have hsemi : ';' ∈ text := by rw [htext, ← (List.cons.inj hrest).1]; simp
          exact absurd (hwords ';' hsemi) (by decide)
      refine ⟨_, r, hread, ?_, ?_⟩
      · rcases hkinds with rfl | rfl <;> rfl
      · refine calm_of_words (.word hw hcalm hend h) htext hwords fun x hx => hhead x ?_
        cases r with
        | nil => cases hx
        | cons y r => exact hx
  | @name n cs' hend h =>
    obtain ⟨rfl, rfl⟩ : c = d.quoteOpen ∧
        cs = Text.doubleChars d.quoteClose n ++ [d.quoteClose] ++ cs' := List.cons.inj htext
    have hhead : (cs' ++ [';']).head? ≠ some d.quoteClose := by
      cases cs' with
      | nil => cases d <;> decide
      | cons x cs' => exact hend
    obtain ⟨t, hread, hkind⟩ := readSegment_of_name d n (by simp) hhead
    refine ⟨.token t, cs', ?_, by simp [Segment.isCalm, hkind], h⟩
    rw [List.append_assoc, List.append_assoc]
    exact hread

theorem readFront_of_calm {before : Option TokenKind} {s : Segment}
    (hstart : startsStatement before = false)
    (hmark : before ≠ some .parameter) (h : readSegment d.lexicon false c cs = .ok (s, rest))
    (hs : s.isCalm = true) :
    ∃ after, readFront d.lexicon before c cs = .ok ([s], after, rest) ∧
      startsStatement after = false ∧ after ≠ some .parameter := by
  have hbefore : (before == some .parameter) = false := by simpa using hmark
  rw [readFront, hbefore, h]
  cases s with
  | gap text => exact ⟨before, rfl, hstart, hmark⟩
  | token t =>
    refine ⟨some t.kind, ?_, ?_, ?_⟩
    · change (if t.isCommand d.lexicon && startsStatement before then _ else _) = _
      rw [hstart, Bool.and_false]
      rfl
    · rw [Segment.isCalm, Bool.or_eq_true, beq_iff_eq, beq_iff_eq] at hs
      rcases hs with hkind | hkind <;> rw [hkind] <;> rfl
    · rw [Segment.isCalm, Bool.or_eq_true, beq_iff_eq, beq_iff_eq] at hs
      rcases hs with hkind | hkind <;> rw [hkind] <;> decide

/-- **A calm text is read in calm segments** up to a semicolon behind it. -/
theorem reads_of_calm : ∀ {cs : List Char} {before : Option TokenKind}, Calm d cs →
    startsStatement before = false → before ≠ some .parameter →
      ∃ ss after, Reads d.lexicon before (cs ++ [';']) ss after [';'] ∧
        ∀ s ∈ ss, s.isCalm = true
  | [], before, _, _, _ => ⟨[], before, .done, by simp⟩
  | c :: cs, before, h, hstart, hmark => by
    obtain ⟨s, rest, hread, hs, hrest⟩ := readSegment_of_calm h
    obtain ⟨middle, hfront, hstart', hmark'⟩ := readFront_of_calm hstart hmark hread hs
    have hlength : rest.length ≤ cs.length := by
      simpa using length_le_of_readSegment (isProper_lexicon d) hread
    obtain ⟨ss, after, hreads, hss⟩ := reads_of_calm hrest hstart' hmark'
    exact ⟨s :: ss, after, .front hfront hreads, List.forall_mem_cons.mpr ⟨hs, hss⟩⟩
termination_by cs => cs.length
decreasing_by exact Nat.lt_succ_of_le hlength

theorem openBlocks_of_calm : ∀ {ss : List Segment}, (∀ s ∈ ss, s.isCalm = true) →
    openBlocks 0 ss = some 0
  | [], _ => rfl
  | .gap _ :: ss, h => by
    have hrest : openBlocks 0 ss = some 0 :=
      openBlocks_of_calm fun s hs => h s (List.mem_cons_of_mem _ hs)
    exact hrest
  | .token t :: ss, h => by
    have hrest : openBlocks 0 ss = some 0 :=
      openBlocks_of_calm fun s hs => h s (List.mem_cons_of_mem _ hs)
    have hkind := h (.token t) List.mem_cons_self
    rw [Segment.isCalm, Bool.or_eq_true, beq_iff_eq, beq_iff_eq] at hkind
    rcases hkind with hkind | hkind <;> simp [openBlocks, depthAfter, opensBlock, hkind, hrest]

/-- **A calm text behind a first word that is no command is a statement.** -/
theorem isStatement_of_calm (hw : ∀ x ∈ c :: w, isInWord x = true)
    (hentry : ∀ rest, d.lexicon.entryAt? (c :: w ++ rest) = none)
    (hdigit : Text.isAsciiDigit c = false) (hkind : d.lexicon.wordKind (c :: w) = .other)
    (hend : ∀ x ∈ cs.head?, endsWord x = true) (h : Calm d cs) :
    IsStatement d.lexicon (c :: w ++ cs) := by
  have hc := hw c List.mem_cons_self
  have hl := isProper_lexicon d
  have hread : readSegment d.lexicon false c (w ++ (cs ++ [';'])) =
      .ok (bareToken .other (c :: w) (cs ++ [';'])) := by
    rw [readSegment, if_neg (by simp [isBlank_of_isInWord hc]), if_neg (by simp [hdigit]),
      lookup_of_isInWord d hc]
    dsimp only
    rw [← List.cons_append, hentry]
    dsimp only
    rw [punctuationOrWord_of_word d hw (endsWord_append_semicolon hend), hkind]
  have hfront : readFront d.lexicon none c (w ++ (cs ++ [';'])) =
      .ok ([.token ⟨.other, c :: w, c :: w⟩], some .other, cs ++ [';']) := by
    have hnone : ((none : Option TokenKind) == some .parameter) = false := rfl
    rw [readFront, hnone, hread]
    have hcommand : Token.isCommand d.lexicon ⟨.other, c :: w, c :: w⟩ = false := by
      simp [Token.isCommand]
    change (if Token.isCommand d.lexicon ⟨.other, c :: w, c :: w⟩ && startsStatement none then _
      else _) = _
    rw [hcommand]
    rfl
  have hinside : startsStatement (some .other) = false := rfl
  obtain ⟨ss, after, hreads, hss⟩ := reads_of_calm h hinside (by decide)
  refine (isStatement_iff_reads hl).mpr
    ⟨.token ⟨.other, c :: w, c :: w⟩ :: ss, after, ?_, ?_, rfl⟩
  · rw [List.append_assoc]
    exact .front hfront hreads
  · exact openBlocks_of_calm (List.forall_mem_cons.mpr ⟨rfl, hss⟩)

end Sql
end TableGate

/-
# Messages that name an object

A failure without a code is told by its message, and the message may name an object. The
phrases of several words cannot be completed by a name, which has no blank: up to their
last blank they would have to stand in the wording (`frontWords_isInfix`). What is left
are the phrases of one word. So a name takes part in the choice in two ways only, both of
them for the categories that come late: `timeout` as a whole word of the name, and
`violates` anywhere in it (`category_of_named`).

The message of a missing relation and that of a denied table are told whatever the name
is. A repeated key is taken for a timeout, and an error of syntax for a timeout or a
broken constraint, if the name has such a word (`not_category_of_named`).

Key definitions: `Category.frontWords`, `Category.missingRelation`,
`Category.deniedTable`, `Category.repeatedKey`, `Category.syntaxNear`,
`Category.wordings`, `Fault.SpeaksByText`.
Key theorems: `Category.standsIn_append_cons`, `Category.wholeWords_standsIn_iff`,
`Category.ofMessage?_of_split`, `Category.standsIn_before`, `Fault.category_of_named`.
-/
import TableGate.Error.Classification
import TableGate.Proofs.Text.Cut
import TableGate.Proofs.Text.Lower
import Mathlib.Data.List.Infix

namespace TableGate
namespace Category

variable {piece text cs rest : List Char} {c : Char} {edgeBefore edgeAfter inWord : Bool}

/-! ### Where a piece stands -/

theorem isInfix_of_standsIn (h : standsIn piece edgeBefore edgeAfter inWord text = true) :
    piece <:+: text := by
  induction text generalizing inWord with
  | nil =>
    rw [standsIn, List.isEmpty_iff] at h
    exact h ▸ List.infix_rfl
  | cons c cs ih =>
    rw [standsIn, Bool.or_eq_true] at h
    rcases h with hfirst | hrest
    · rw [Bool.and_eq_true, Bool.and_eq_true, List.isPrefixOf_iff_prefix] at hfirst
      exact hfirst.1.1.isInfix
    · exact List.infix_cons (ih hrest)

/-- A piece that need not begin or end at an edge stands wherever its characters do. -/
theorem standsIn_of_isInfix (h : piece <:+: text) : standsIn piece false false inWord text = true := by
  induction text generalizing inWord with
  | nil => rw [List.infix_nil.mp h, standsIn, List.isEmpty_nil]
  | cons c cs ih =>
    rw [standsIn, Bool.or_eq_true]
    rcases List.infix_cons_iff.mp h with hfirst | hrest
    · refine .inl ?_
      simpa [List.isPrefixOf_iff_prefix] using hfirst
    · exact .inr (ih hrest)

theorem isPrefixOf_append_cons (hc : c ∉ piece) (cs rest : List Char) :
    piece.isPrefixOf (cs ++ c :: rest) = piece.isPrefixOf cs := by
  rw [Bool.eq_iff_iff, List.isPrefixOf_iff_prefix, List.isPrefixOf_iff_prefix]
  refine ⟨fun h => ?_, fun h => h.trans (List.prefix_append _ _)⟩
  rcases Nat.lt_or_ge cs.length piece.length with hlong | hshort
  · have hreach : cs ++ [c] <+: piece := by
      refine List.prefix_of_prefix_length_le ?_ h (by rw [List.length_append]; exact hlong)
      exact ⟨rest, by simp⟩
    exact absurd (hreach.subset (by simp)) hc
  · exact List.prefix_of_prefix_length_le h (List.prefix_append _ _) hshort

/-- A piece stands on one side of a character that is no word character and that it does
not have. -/
theorem standsIn_append_cons (hc : c ∉ piece) (hpiece : piece ≠ [])
    (hedge : Text.isWordChar c = false) (cs rest : List Char) :
    standsIn piece edgeBefore edgeAfter inWord (cs ++ c :: rest) =
      (standsIn piece edgeBefore edgeAfter inWord cs ||
        standsIn piece edgeBefore edgeAfter false rest) := by
  have hempty : piece.isEmpty = false := by simpa using hpiece
  induction cs generalizing inWord with
  | nil =>
    have hfirst : piece.isPrefixOf (c :: rest) = false := by
      rw [← List.nil_append (c :: rest), isPrefixOf_append_cons hc, Bool.eq_false_iff]
      simpa using hpiece
    simp [standsIn, hfirst, hempty, hedge]
  | cons x cs ih =>
    have hprefix := isPrefixOf_append_cons hc (x :: cs) rest
    rw [List.cons_append] at hprefix
    rw [List.cons_append, standsIn, standsIn, ih, hprefix, ← Bool.or_assoc]
    congr 2
    cases hstands : piece.isPrefixOf (x :: cs) with
    | false => simp
    | true =>
      have hlength := (List.isPrefixOf_iff_prefix.mp hstands).length_le
      rw [← List.cons_append, List.drop_append_of_le_length hlength]
      cases (x :: cs).drop piece.length with
      | nil => simp [hedge]
      | cons => rfl

theorem standsIn_enclosed (hc : c ∉ piece) (hpiece : piece ≠ [])
    (hedge : Text.isWordChar c = false) (cs rest : List Char) :
    standsIn piece edgeBefore edgeAfter inWord (cs ++ c :: (rest ++ [c])) =
      (standsIn piece edgeBefore edgeAfter inWord cs ||
        standsIn piece edgeBefore edgeAfter false rest) := by
  have hempty : standsIn piece edgeBefore edgeAfter false [] = false := by
    simpa [standsIn] using hpiece
  rw [standsIn_append_cons hc hpiece hedge, standsIn_append_cons hc hpiece hedge, hempty,
    Bool.or_false]

/-- Inside of a word no other word begins. -/
theorem standsIn_of_inWord (hpiece : piece ≠ []) (hword : ∀ c ∈ text, Text.isWordChar c = true) :
    standsIn piece true edgeAfter true text = false := by
  induction text with
  | nil => simpa [standsIn] using hpiece
  | cons c cs ih =>
    obtain ⟨hc, hcs⟩ := List.forall_mem_cons.mp hword
    rw [standsIn, hc, ih hcs]
    simp

theorem wholeWords_standsIn_iff (hpiece : piece ≠ [])
    (hword : ∀ c ∈ text, Text.isWordChar c = true) :
    standsIn piece true true false text = true ↔ text = piece := by
  cases text with
  | nil => rw [standsIn, List.isEmpty_iff, eq_comm]
  | cons c cs =>
    obtain ⟨hc, hcs⟩ := List.forall_mem_cons.mp hword
    rw [standsIn, hc, standsIn_of_inWord hpiece hcs, Bool.or_false]
    constructor
    · intro h
      simp only [Bool.and_eq_true, List.isPrefixOf_iff_prefix, Bool.not_eq_true'] at h
      obtain ⟨⟨⟨rest, hrest⟩, -⟩, hend⟩ := h
      cases rest with
      | nil => rw [← hrest, List.append_nil]
      | cons d rest =>
        have hd : Text.isWordChar d = true := hword d (by rw [← hrest]; simp)
        rw [← hrest, List.drop_left] at hend
        simp [hd] at hend
    · rintro rfl
      simp

/-! ### Phrases of several words -/

/-- The words of a piece up to its last blank. -/
def frontWords (piece : List Char) : List Char := Text.dropEndWhile (· != ' ') piece

theorem frontWords_isPrefix (piece : List Char) : frontWords piece <+: piece := by
  rw [frontWords, Text.dropEndWhile, ← List.reverse_suffix, List.reverse_reverse]
  exact List.dropWhile_suffix _

theorem frontWords_cases (piece : List Char) :
    frontWords piece = [] ∨ ∃ words, frontWords piece = words ++ [' '] := by
  rcases List.eq_nil_or_concat (frontWords piece) with h | ⟨words, last, h⟩
  · exact .inl h
  · have hhead : (piece.reverse.dropWhile (· != ' ')).head? = some last := by
      have hreverse : piece.reverse.dropWhile (· != ' ') = (words.concat last).reverse := by
        rw [← h, frontWords, Text.dropEndWhile, List.reverse_reverse]
      simp [hreverse]
    have hblank := List.head?_dropWhile_not (· != ' ') piece.reverse
    rw [hhead] at hblank
    obtain rfl : last = ' ' := by simpa using hblank
    exact .inr ⟨words, by rw [h, List.concat_eq_append]⟩

/-- What ends with a character that the end of a text does not have stands before it. -/
theorem isInfix_of_concat {words front back : List Char}
    (h : words ++ [c] <:+: front ++ back) (hback : c ∉ back) : words ++ [c] <:+: front := by
  obtain ⟨before, after, h⟩ := h
  rcases List.append_eq_append_iff.mp h with ⟨gap, hfront, -⟩ | ⟨gap, hpiece, hrest⟩
  · exact ⟨before, gap, hfront.symm⟩
  · rcases List.eq_nil_or_concat gap with rfl | ⟨gap, last, rfl⟩
    · exact ⟨before, [], by simpa using hpiece⟩
    · obtain rfl : c = last := by
        rw [← List.append_assoc, List.concat_eq_append, ← List.append_assoc] at hpiece
        exact (List.append_inj_right' hpiece rfl |> List.singleton_inj.mp)
      exact absurd (by simp [hrest]) hback

/-- A text without blanks does not complete a piece beyond its front words. -/
theorem frontWords_isInfix {front back : List Char} (h : piece <:+: front ++ back)
    (hback : ' ' ∉ back) : frontWords piece <:+: front := by
  have hwords := (frontWords_isPrefix piece).isInfix.trans h
  rcases frontWords_cases piece with hnil | ⟨words, hconcat⟩
  · rw [hnil]
    exact List.nil_infix
  · rw [hconcat] at hwords ⊢
    exact isInfix_of_concat hwords hback

namespace Phrase

variable {p : Phrase}

def chars : Phrase → List Char
  | .anywhere piece | .atWordStart piece | .wholeWords piece => piece.toList

theorem isInfix (h : p.standsIn text = true) : p.chars <:+: text := by
  cases p <;> exact isInfix_of_standsIn h

/-- The front words of the phrase do not stand in a wording. -/
def isForeign (wording : List Char) (p : Phrase) : Bool :=
  !Category.standsIn (frontWords p.chars) false false false wording

/-- A phrase that is foreign to a wording is not completed by a text without blanks. -/
theorem standsIn_eq_false {wording back : List Char} (hforeign : p.isForeign wording = true)
    (hback : ' ' ∉ back) : p.standsIn (wording ++ back) = false := by
  by_contra h
  rw [Bool.not_eq_false] at h
  have hfront : Category.standsIn (frontWords p.chars) false false false wording = true :=
    standsIn_of_isInfix (frontWords_isInfix (isInfix h) hback)
  rw [isForeign, hfront] at hforeign
  cases hforeign

/-- In a text with a name in quotation marks, a phrase stands in the wording before them or in
the name. -/
theorem standsIn_quoted (hquote : '"' ∉ p.chars) (hchars : p.chars ≠ []) (front name : List Char) :
    p.standsIn (front ++ '"' :: (name ++ ['"'])) = (p.standsIn front || p.standsIn name) := by
  cases p <;> exact standsIn_enclosed hquote hchars (by decide) front name

end Phrase

/-- The first phrases that stand in a message tell its category. -/
theorem ofMessage?_of_split {before after : List (Category × List Phrase)} {category : Category}
    {own : List Phrase} {message : String} (hsplit : phrases = before ++ (category, own) :: after)
    (hbefore : ∀ rule ∈ before, ∀ p ∈ rule.2, p.standsIn (Text.lower message).toList = false)
    (hown : ∃ p ∈ own, p.standsIn (Text.lower message).toList = true) :
    ofMessage? message = some category := by
  have hnone : before.find? (fun rule => rule.2.any fun p =>
      p.standsIn (Text.lower message).toList) = none := by
    rw [List.find?_eq_none]
    intro rule hrule
    rw [Bool.not_eq_true, List.any_eq_false]
    intro p hp
    rw [hbefore rule hrule p hp]
    exact Bool.false_ne_true
  have hany : (own.any fun p => p.standsIn (Text.lower message).toList) = true := by
    simpa using hown
  simp [ofMessage?, hsplit, List.find?_append, hnone, hany]

/-! ### The messages -/

/-- A name in quotation marks. -/
def inQuotes (name : String) : String := "\"" ++ name ++ "\""

def missingRelation (name : String) : String := "relation " ++ (inQuotes name ++ " does not exist")

/-- A table that may not be read or written. -/
def deniedTable (name : String) : String := "permission denied for table " ++ name

/-- A row whose key is there already; the name is that of the constraint. -/
def repeatedKey (name : String) : String :=
  "duplicate key value violates unique constraint " ++ inQuotes name

/-- A statement that is not understood; the name is where. -/
def syntaxNear (name : String) : String := "syntax error at or near " ++ inQuotes name

def namesTimeout (name : String) : Bool :=
  (Phrase.wholeWords "timeout").standsIn (Text.lower name).toList

/-- The name has the word of a broken constraint in it. -/
def namesViolation (name : String) : Bool :=
  (Phrase.anywhere "violates").standsIn (Text.lower name).toList

variable {name : String}

theorem namesViolation_iff :
    namesViolation name = true ↔ "violates".toList <:+: (Text.lower name).toList := by
  rw [namesViolation, Phrase.standsIn]
  exact ⟨isInfix_of_standsIn, standsIn_of_isInfix⟩

theorem namesTimeout_iff (hword : ∀ c ∈ (Text.lower name).toList, Text.isWordChar c = true) :
    namesTimeout name = true ↔ Text.lower name = "timeout" := by
  rw [namesTimeout, Phrase.standsIn, wholeWords_standsIn_iff (by decide) hword]
  exact String.toList_inj

/-! ### The wordings -/

/-- What stands before the names, each with the number of categories whose phrases are
looked for before its own. -/
def wordings : List (String × Nat) :=
  [("relation ", 0), ("permission denied for table ", 2),
    ("duplicate key value violates unique constraint ", 5), ("syntax error at or near ", 6)]

/-- A wording is in small letters and ends with a blank. Of the phrases that are looked for
before its own, those of several words are foreign to it. -/
theorem wordings_spec : ∀ w ∈ wordings, w.1.toList.getLast? = some ' ' ∧ Text.lower w.1 = w.1 ∧
    ∀ rule ∈ phrases.take w.2, ∀ p ∈ rule.2,
      p = .wholeWords "timeout" ∨ p = .anywhere "violates" ∨ p.isForeign w.1.toList = true := by
  decide +kernel

/-! ### Their lower case -/

theorem isNeutral_quote : Text.IsNeutral '"' := ⟨by decide, by decide +kernel, by decide⟩

theorem isNeutral_blank : Text.IsNeutral ' ' := ⟨by decide, by decide +kernel, by decide⟩

theorem toList_inQuotes (name : String) : (inQuotes name).toList = '"' :: (name.toList ++ ['"']) := by
  simp [inQuotes]

theorem lower_inQuotes (name : String) :
    Text.lower (inQuotes name) = inQuotes (Text.lower name) := by
  have hquote : Text.lower "\"" = "\"" := by decide
  rw [inQuotes, Text.lower_append_of_first isNeutral_quote _ rfl,
    Text.lower_append_of_last isNeutral_quote rfl, hquote, inQuotes]

/-- A wording stays as it is, and what stands behind it is put into lower case by itself. -/
theorem lower_worded {wording : String} {place : Nat} (hw : (wording, place) ∈ wordings)
    (about : String) : Text.lower (wording ++ about) = wording ++ Text.lower about := by
  obtain ⟨hlast, hlower, -⟩ := wordings_spec _ hw
  rw [Text.lower_append_of_last isNeutral_blank hlast, hlower]

theorem lower_missingRelation (name : String) :
    Text.lower (missingRelation name) = missingRelation (Text.lower name) := by
  have hfirst : " does not exist".toList.head? = some ' ' := by decide
  have hrest : Text.lower " does not exist" = " does not exist" := by decide
  have hname : Text.lower (inQuotes name ++ " does not exist") =
      inQuotes (Text.lower name) ++ " does not exist" := by
    rw [Text.lower_append_of_first isNeutral_blank _ hfirst, hrest, lower_inQuotes]
  exact (lower_worded (.head _) _).trans (congrArg _ hname)

theorem lower_deniedTable (name : String) :
    Text.lower (deniedTable name) = deniedTable (Text.lower name) :=
  lower_worded (.tail _ (.head _)) name

theorem lower_repeatedKey (name : String) :
    Text.lower (repeatedKey name) = repeatedKey (Text.lower name) :=
  (lower_worded (.tail _ (.tail _ (.head _))) _).trans (congrArg _ (lower_inQuotes name))

theorem lower_syntaxNear (name : String) :
    Text.lower (syntaxNear name) = syntaxNear (Text.lower name) :=
  (lower_worded (.tail _ (.tail _ (.tail _ (.head _)))) _).trans
    (congrArg _ (lower_inQuotes name))

/-! ### What they are taken for -/

theorem timeout_notMem : ∀ rule ∈ phrases.take 4, .wholeWords "timeout" ∉ rule.2 := by decide

theorem violates_notMem : ∀ rule ∈ phrases.take 5, .anywhere "violates" ∉ rule.2 := by decide

/-- Of the phrases before its own, none stands in a message, but for the two words that a
text without blanks behind the wording can have. -/
theorem standsIn_before {message wording : String} {place n : Nat} {back : List Char}
    (hw : (wording, place) ∈ wordings) (hn : n ≤ place)
    (hmessage : (Text.lower message).toList = wording.toList ++ back) (hback : ' ' ∉ back)
    (htimeout : n ≤ 4 ∨
      (Phrase.wholeWords "timeout").standsIn (Text.lower message).toList = false)
    (hviolation : n ≤ 5 ∨
      (Phrase.anywhere "violates").standsIn (Text.lower message).toList = false) :
    ∀ rule ∈ phrases.take n, ∀ p ∈ rule.2, p.standsIn (Text.lower message).toList = false := by
  intro rule hrule p hp
  have hforeign := (wordings_spec _ hw).2.2 rule
    ((List.take_prefix_take_left hn).subset hrule) p hp
  rcases hforeign with rfl | rfl | hforeign
  · refine htimeout.resolve_left fun hearly => ?_
    exact timeout_notMem rule ((List.take_prefix_take_left hearly).subset hrule) hp
  · refine hviolation.resolve_left fun hearly => ?_
    exact violates_notMem rule ((List.take_prefix_take_left hearly).subset hrule) hp
  · rw [hmessage]
    exact Phrase.standsIn_eq_false hforeign hback

theorem ofMessage?_missingRelation (name : String) :
    ofMessage? (missingRelation name) = some .undefinedObject := by
  have hsplit : phrases = [] ++ (.undefinedObject, _) :: phrases.tail := rfl
  have hphrase : "does not exist".toList <:+: " does not exist".toList := by decide
  refine ofMessage?_of_split hsplit (List.forall_mem_nil _)
    ⟨.anywhere "does not exist", by decide, standsIn_of_isInfix ?_⟩
  rw [lower_missingRelation, missingRelation, String.toList_append, String.toList_append]
  exact (hphrase.trans (List.suffix_append _ _).isInfix).trans (List.suffix_append _ _).isInfix

theorem ofMessage?_deniedTable (hname : ' ' ∉ name.toList) :
    ofMessage? (deniedTable name) = some .permission := by
  have hw : ("permission denied for table ", 2) ∈ wordings := .tail _ (.head _)
  have hphrase : "permission denied".toList <:+: "permission denied for table ".toList := by decide
  have hsplit : phrases = phrases.take 2 ++ (.permission, _) :: phrases.drop 3 := rfl
  have hmessage : (Text.lower (deniedTable name)).toList =
      "permission denied for table ".toList ++ (Text.lower name).toList := by
    rw [lower_deniedTable]
    exact String.toList_append
  refine ofMessage?_of_split hsplit ?_
    ⟨.anywhere "permission denied", by decide, standsIn_of_isInfix ?_⟩
  · exact standsIn_before hw le_rfl hmessage (Text.blank_notMem_lower hname)
      (.inl (by decide)) (.inl (by decide))
  · rw [hmessage]
    exact hphrase.trans (List.prefix_append _ _).isInfix

/-- The message is the wording and behind it the name in quotation marks, up to letter
case. -/
def Names (message wording name : String) : Prop :=
  (Text.lower message).toList = wording.toList ++ '"' :: ((Text.lower name).toList ++ ['"'])

theorem names_of_lower {message wording : String}
    (h : Text.lower message = wording ++ inQuotes (Text.lower name)) :
    Names message wording name := by
  rw [Names, h, ← toList_inQuotes]
  exact String.toList_append

section Names

variable {message wording : String} {place : Nat} {p : Phrase}

theorem blank_notMem_quoted (hname : ' ' ∉ name.toList) :
    ' ' ∉ '"' :: ((Text.lower name).toList ++ ['"']) := by
  simp [Text.blank_notMem_lower hname]

theorem Names.standsIn_eq (hmessage : Names message wording name) (hquote : '"' ∉ p.chars)
    (hchars : p.chars ≠ []) (hwording : p.standsIn wording.toList = false) :
    p.standsIn (Text.lower message).toList = p.standsIn (Text.lower name).toList := by
  rw [hmessage, Phrase.standsIn_quoted hquote hchars, hwording, Bool.false_or]

/-- A message with the word of a timeout is taken for one, if its own category comes later. -/
theorem Names.ofMessage?_timeout (hmessage : Names message wording name)
    (hname : ' ' ∉ name.toList) (hw : (wording, place) ∈ wordings) (hplace : 4 ≤ place)
    (htimeout : (Phrase.wholeWords "timeout").standsIn (Text.lower message).toList = true) :
    ofMessage? message = some .timeout := by
  have hsplit : phrases = phrases.take 4 ++ (.timeout, _) :: phrases.drop 5 := rfl
  refine ofMessage?_of_split hsplit ?_ ⟨.wholeWords "timeout", by decide, htimeout⟩
  exact standsIn_before hw hplace hmessage (blank_notMem_quoted hname)
    (.inl le_rfl) (.inl (by decide))

/-- A message with the word of a broken constraint and without that of a timeout is taken for
one, if its own category does not come earlier. -/
theorem Names.ofMessage?_constraint (hmessage : Names message wording name)
    (hname : ' ' ∉ name.toList) (hw : (wording, place) ∈ wordings) (hplace : 5 ≤ place)
    (htimeout : (Phrase.wholeWords "timeout").standsIn (Text.lower message).toList = false)
    (hviolation : (Phrase.anywhere "violates").standsIn (Text.lower message).toList = true) :
    ofMessage? message = some .constraint := by
  have hsplit : phrases = phrases.take 5 ++ (.constraint, _) :: phrases.drop 6 := rfl
  refine ofMessage?_of_split hsplit ?_ ⟨.anywhere "violates", by decide, hviolation⟩
  exact standsIn_before hw hplace hmessage (blank_notMem_quoted hname)
    (.inr htimeout) (.inl le_rfl)

end Names

theorem ofMessage?_repeatedKey (hname : ' ' ∉ name.toList) :
    ofMessage? (repeatedKey name) = some (if namesTimeout name then .timeout else .constraint) := by
  have hw : ("duplicate key value violates unique constraint ", 5) ∈ wordings :=
    .tail _ (.tail _ (.head _))
  have hmessage : Names (repeatedKey name) "duplicate key value violates unique constraint " name :=
    names_of_lower (lower_repeatedKey name)
  have hstands : (Phrase.wholeWords "timeout").standsIn (Text.lower (repeatedKey name)).toList =
      namesTimeout name :=
    hmessage.standsIn_eq (by decide) (by decide) (by decide)
  cases htimeout : namesTimeout name with
  | true => exact hmessage.ofMessage?_timeout hname hw (by decide) (hstands.trans htimeout)
  | false =>
    have hphrase : "violates".toList <:+:
        "duplicate key value violates unique constraint ".toList := by
      decide
    refine hmessage.ofMessage?_constraint hname hw le_rfl (hstands.trans htimeout)
      (standsIn_of_isInfix ?_)
    rw [hmessage]
    exact hphrase.trans (List.prefix_append _ _).isInfix

theorem ofMessage?_syntaxNear (hname : ' ' ∉ name.toList) :
    ofMessage? (syntaxNear name) = some (if namesTimeout name then .timeout
      else if namesViolation name then .constraint else .badSyntax) := by
  have hw : ("syntax error at or near ", 6) ∈ wordings := .tail _ (.tail _ (.tail _ (.head _)))
  have hmessage : Names (syntaxNear name) "syntax error at or near " name :=
    names_of_lower (lower_syntaxNear name)
  have hstands : (Phrase.wholeWords "timeout").standsIn (Text.lower (syntaxNear name)).toList =
      namesTimeout name :=
    hmessage.standsIn_eq (by decide) (by decide) (by decide)
  have hviolates : (Phrase.anywhere "violates").standsIn (Text.lower (syntaxNear name)).toList =
      namesViolation name :=
    hmessage.standsIn_eq (by decide) (by decide) (by decide)
  cases htimeout : namesTimeout name with
  | true => exact hmessage.ofMessage?_timeout hname hw (by decide) (hstands.trans htimeout)
  | false =>
    rw [htimeout] at hstands
    cases hviolation : namesViolation name with
    | true =>
      exact hmessage.ofMessage?_constraint hname hw (by decide) hstands
        (hviolates.trans hviolation)
    | false =>
      rw [hviolation] at hviolates
      have hphrase : "syntax error".toList <:+: "syntax error at or near ".toList := by decide
      have hsplit : phrases = phrases.take 6 ++ (.badSyntax, _) :: phrases.drop 7 := rfl
      refine ofMessage?_of_split hsplit ?_
        ⟨.anywhere "syntax error", by decide, standsIn_of_isInfix ?_⟩
      · exact standsIn_before hw le_rfl hmessage (blank_notMem_quoted hname)
          (.inr hstands) (.inr hviolates)
      · rw [hmessage]
        exact hphrase.trans (List.prefix_append _ _).isInfix

end Category

namespace Fault

/-- Neither a code nor the kind of the exception tells its category. -/
structure SpeaksByText (e : Fault) : Prop where
  code : e.unwrapped.codeCategory? = none
  system : e.unwrapped.systemCategory? = none

/-- An exception without a code that is no system error and not of the driver with the
numbers speaks by its text. -/
theorem speaksByText_of_plain {f : Foreign} (hstate : ∀ s, f.sqlState ≠ .text s)
    (hlineage : f.lineage = .plain) (hpymssql : Text.startsWith (Text.lower f.origin) "pymssql" = false)
    (hmssql : Text.startsWith (Text.lower f.origin) "_mssql" = false) :
    SpeaksByText (.foreign f none) := by
  refine ⟨?_, ?_⟩
  · have hcode : Category.ofSqlState? f.sqlState = none := by
      unfold Category.ofSqlState?
      split
      · next s heq => exact absurd heq (hstate s)
      · rfl
    simp [unwrapped, codeCategory?, hcode, hpymssql, hmssql]
  · simp [unwrapped, systemCategory?, hlineage]

theorem SpeaksByText.category_eq {e : Fault} {category : Category} (h : e.SpeaksByText)
    (hmessage : Category.ofMessage? e.unwrapped.text = some category) : e.category = category := by
  simp [Fault.category, h.code, h.system, hmessage]

variable {e : Fault} {name : String}

/-- **What a name does to the category of a message.** Nothing, if a relation is missing or a
table is denied. If a key is repeated, a name with the word of a timeout in it makes a
timeout of it; if the syntax is wrong, so does such a name, and one with `violates` in it
makes a broken constraint of it. -/
theorem category_of_named (h : e.SpeaksByText)
    (hname : ∀ c ∈ name.toList, Text.isWordChar c = true) :
    (e.unwrapped.text = Category.missingRelation name → e.category = .undefinedObject) ∧
    (e.unwrapped.text = Category.deniedTable name → e.category = .permission) ∧
    (e.unwrapped.text = Category.repeatedKey name →
      e.category = if Category.namesTimeout name then .timeout else .constraint) ∧
    (e.unwrapped.text = Category.syntaxNear name →
      e.category = if Category.namesTimeout name then .timeout
        else if Category.namesViolation name then .constraint else .badSyntax) := by
  have hblank : ' ' ∉ name.toList := fun hmem => absurd (hname _ hmem) (by decide)
  refine ⟨fun ht => h.category_eq ?_, fun ht => h.category_eq ?_, fun ht => h.category_eq ?_,
    fun ht => h.category_eq ?_⟩
  · rw [ht, Category.ofMessage?_missingRelation]
  · rw [ht, Category.ofMessage?_deniedTable hblank]
  · rw [ht, Category.ofMessage?_repeatedKey hblank]
  · rw [ht, Category.ofMessage?_syntaxNear hblank]

/-- An exception that has a message and nothing else to tell. -/
def raised (message : String) : Fault :=
  .foreign ⟨"RuntimeError", "builtins", .plain, none, [.text message], .null⟩ none

theorem speaksByText_raised (message : String) : (raised message).SpeaksByText := by
  have hpymssql : Text.startsWith (Text.lower "builtins") "pymssql" = false := by decide
  have hmssql : Text.startsWith (Text.lower "builtins") "_mssql" = false := by decide
  exact speaksByText_of_plain (fun s h => by cases h) rfl hpymssql hmssql

theorem text_raised (message : String) : (raised message).unwrapped.text = message := rfl

/-- The name of an option is no timeout: its word goes on. -/
theorem category_of_named_option :
    (raised (Category.repeatedKey "timeout_ms")).SpeaksByText ∧
      (∀ c ∈ "timeout_ms".toList, Text.isWordChar c = true) ∧
      (raised (Category.repeatedKey "timeout_ms")).category = .constraint := by
  have hspeaks := speaksByText_raised (Category.repeatedKey "timeout_ms")
  have hname : ∀ c ∈ "timeout_ms".toList, Text.isWordChar c = true := by decide
  have hnames : Category.namesTimeout "timeout_ms" = false := by decide
  have hcategory := (category_of_named hspeaks hname).2.2.1 (text_raised _)
  rw [hnames] at hcategory
  exact ⟨hspeaks, hname, hcategory⟩

/-- A constraint with the name `timeout` makes a timeout of a repeated key, and a name with
`violates` in it makes a broken constraint of wrong syntax. -/
theorem not_category_of_named :
    ¬(∀ (e : Fault) (name : String), e.SpeaksByText →
        (∀ c ∈ name.toList, Text.isWordChar c = true) →
        e.unwrapped.text = Category.repeatedKey name → e.category = .constraint) ∧
      ¬∀ (e : Fault) (name : String), e.SpeaksByText →
        (∀ c ∈ name.toList, Text.isWordChar c = true) →
        e.unwrapped.text = Category.syntaxNear name → e.category = .badSyntax := by
  constructor
  · intro hall
    have hname : ∀ c ∈ "timeout".toList, Text.isWordChar c = true := by decide
    have hblank : ' ' ∉ "timeout".toList := by decide
    have hnames : Category.namesTimeout "timeout" = true := by decide
    have hspeaks := speaksByText_raised (Category.repeatedKey "timeout")
    have hmessage := Category.ofMessage?_repeatedKey hblank
    rw [hnames, if_pos rfl, ← text_raised (Category.repeatedKey "timeout")] at hmessage
    have htimeout := hspeaks.category_eq hmessage
    have hconstraint := hall _ "timeout" hspeaks hname (text_raised _)
    cases htimeout.symm.trans hconstraint
  · intro hall
    have hname : ∀ c ∈ "violates".toList, Text.isWordChar c = true := by decide
    have hblank : ' ' ∉ "violates".toList := by decide
    have htimeout : Category.namesTimeout "violates" = false := by decide
    have hviolation : Category.namesViolation "violates" = true := by decide
    have hspeaks := speaksByText_raised (Category.syntaxNear "violates")
    have hmessage := Category.ofMessage?_syntaxNear hblank
    rw [htimeout, hviolation, if_neg Bool.false_ne_true, if_pos rfl,
      ← text_raised (Category.syntaxNear "violates")] at hmessage
    have hconstraint := hspeaks.category_eq hmessage
    have hsyntax := hall _ "violates" hspeaks hname (text_raised _)
    cases hconstraint.symm.trans hsyntax

end Fault
end TableGate

/-
# The text of a statement is read back into its pieces

A reader that knows only how names are quoted and parameters are marked goes
over the text of a statement from the left. It reads a quoted name to the quote
that closes it, two closing quotes standing for one, and so skips whatever the
name holds; outside of names it takes the mark of a parameter with all digits
behind it, and every other character by itself (`Sql.scan`).

In a statement whose fixed text neither quotes nor marks, and where something
that is no part of a word follows each name and each value (`Statement.Spaced`),
it finds exactly the pieces the statement was written from (`scan_text`). So no
name can pass for a parameter or for fixed text.

Key definitions: `Sql.readName`, `Sql.Glyph`, `Sql.scan`, `Statement.Spaced`,
`Statement.glyphsFrom`.
Key theorems: `Sql.readName_quoted`, `Statement.scan_text`,
`Statement.marks_text`.
-/
import Mathlib.Tactic.Set
import TableGate.Proofs.Number.Digits
import TableGate.Sql.Statement
import TableGate.Text.WordChar

namespace TableGate
namespace Sql

/-! ### Quoted names -/

/-- Reads a name behind its opening quote: the name and what follows it. -/
def readName (close : Char) : List Char → Option (List Char × List Char)
  | [] => none
  | [c] => if c = close then some ([], []) else none
  | c :: n :: rest =>
    if c = close then
      if n = close then (readName close rest).map fun r => (close :: r.1, r.2)
      else some ([], n :: rest)
    else (readName close (n :: rest)).map fun r => (c :: r.1, r.2)

theorem readName_cons_ne {close c : Char} (hc : c ≠ close) {cs : List Char} (hcs : cs ≠ []) :
    readName close (c :: cs) = (readName close cs).map fun r => (c :: r.1, r.2) := by
  cases cs with
  | nil => exact absurd rfl hcs
  | cons n rest => rw [readName, if_neg hc]

/-- **A quoted name is read back**, whatever it holds, unless another closing
quote follows. -/
theorem readName_quoted (close : Char) : ∀ (cs rest : List Char), rest.head? ≠ some close →
    readName close (Text.doubleChars close cs ++ close :: rest) = some (cs, rest)
  | [], [], _ => by simp [Text.doubleChars, readName]
  | [], n :: rest, h => by
    have hn : n ≠ close := fun hn => h (by simp [hn])
    simp [Text.doubleChars, readName, hn]
  | c :: cs, rest, h => by
    have ih := readName_quoted close cs rest h
    by_cases hc : c = close
    · subst hc
      simp [Text.doubleChars, readName, ih]
    · rw [Text.doubleChars, if_neg hc, List.cons_append,
        readName_cons_ne hc (by simp), ih]
      rfl

/-! ### The reader -/

/-- What stands in the text of a statement: a character, a quoted name, or the
mark of a parameter with the digits of its number. -/
inductive Glyph where
  | char (c : Char)
  | name (cs : List Char)
  | slot (digits : List Char)
deriving DecidableEq, Repr

/-- The digits of the parameter that is marked at the front. -/
def markedDigits? (mark cs : List Char) : Option (List Char) :=
  if mark.isPrefixOf cs then
    let digits := (cs.drop mark.length).takeWhile Text.isDigit
    if digits.isEmpty then none else some digits
  else none

/-- What stands at the front, and how many characters behind the first belong to
it. -/
def glyphAt (d : Dialect) (c : Char) (cs : List Char) : Glyph × Nat :=
  if c = d.quoteOpen then
    match readName d.quoteClose cs with
    | some (name, rest) => (.name name, cs.length - rest.length)
    | none => (.char c, 0)
  else
    match markedDigits? d.slotMark.toList (c :: cs) with
    | some digits => (.slot digits, d.slotMark.toList.length + digits.length - 1)
    | none => (.char c, 0)

/-- Reads on after `skip` characters that belong to what was read last. -/
def scanFrom (d : Dialect) : Nat → List Char → List Glyph
  | _, [] => []
  | skip + 1, _ :: cs => scanFrom d skip cs
  | 0, c :: cs => (glyphAt d c cs).1 :: scanFrom d (glyphAt d c cs).2 cs

/-- What stands in a text, from the left. -/
def scan (d : Dialect) (s : String) : List Glyph := scanFrom d 0 s.toList

/-- The mark of a parameter, as it is written. -/
def Glyph.mark? (d : Dialect) : Glyph → Option String
  | .slot digits => some (d.slotMark ++ String.ofList digits)
  | _ => none

/-- The marks of parameters in a text outside of names. -/
def marks (d : Dialect) (s : String) : List String := (scan d s).filterMap (Glyph.mark? d)

theorem scanFrom_append (d : Dialect) : ∀ front rest : List Char,
    scanFrom d front.length (front ++ rest) = scanFrom d 0 rest
  | [], _ => rfl
  | _ :: front, rest => by simpa [scanFrom] using scanFrom_append d front rest

/-- Characters that neither quote a name nor mark a parameter, in any
dialect. -/
def isPlain (c : Char) : Bool := !(['"', '[', ']', '$', '@'].contains c)

/-- Plain characters at which a word and a number end. -/
def isBreak (c : Char) : Bool := isPlain c && !Text.isWordChar c && !Text.isDigit c

theorem markedDigits?_plain (d : Dialect) {c : Char} (hc : isPlain c = true) (cs : List Char) :
    markedDigits? d.slotMark.toList (c :: cs) = none := by
  have h : c ≠ '$' ∧ c ≠ '@' := by simp_all [isPlain]
  cases d with
  | postgres => simp [markedDigits?, Dialect.slotMark, h.1.symm]
  | sqlServer => simp [markedDigits?, Dialect.slotMark, h.2.symm]

theorem ne_quoteOpen_of_isPlain (d : Dialect) {c : Char} (hc : isPlain c = true) :
    c ≠ d.quoteOpen := by
  cases d <;> simp_all [isPlain, Dialect.quoteOpen]

theorem ne_quoteClose_of_isPlain (d : Dialect) {c : Char} (hc : isPlain c = true) :
    c ≠ d.quoteClose := by
  cases d <;> simp_all [isPlain, Dialect.quoteClose]

theorem scanFrom_plain (d : Dialect) : ∀ {cs : List Char}, cs.all isPlain = true →
    ∀ rest, scanFrom d 0 (cs ++ rest) = cs.map .char ++ scanFrom d 0 rest
  | [], _, _ => rfl
  | c :: cs, h, rest => by
    simp only [List.all_cons, Bool.and_eq_true] at h
    obtain ⟨hc, hcs⟩ := h
    have hg : glyphAt d c (cs ++ rest) = (.char c, 0) := by
      simp [glyphAt, ne_quoteOpen_of_isPlain d hc, markedDigits?_plain d hc]
    simp [scanFrom, hg, scanFrom_plain d hcs rest]

theorem scanFrom_name (d : Dialect) (cs rest : List Char) (h : rest.head? ≠ some d.quoteClose) :
    scanFrom d 0 (d.quoteChars cs ++ rest) = .name cs :: scanFrom d 0 rest := by
  set inner := Text.doubleChars d.quoteClose cs ++ [d.quoteClose] with hinner
  have hread : readName d.quoteClose (inner ++ rest) = some (cs, rest) := by
    simpa [hinner] using readName_quoted d.quoteClose cs rest h
  have hg : glyphAt d d.quoteOpen (inner ++ rest) = (.name cs, inner.length) := by
    simp [glyphAt, hread]
  have hchars : d.quoteChars cs ++ rest = d.quoteOpen :: (inner ++ rest) := by
    simp [Dialect.quoteChars, hinner]
  rw [hchars, scanFrom, hg]
  simp [scanFrom_append]

theorem takeWhile_append_of_all {p : Char → Bool} {cs rest : List Char} (hp : ∀ c ∈ cs, p c = true)
    (hr : ∀ c ∈ rest.head?, p c = false) :
    (cs ++ rest).takeWhile p = cs ∧ (cs ++ rest).dropWhile p = rest := by
  rw [List.takeWhile_append_of_pos hp, List.dropWhile_append_of_pos hp]
  cases rest with
  | nil => simp
  | cons c rest => simp [hr c (by simp)]

theorem scanFrom_slot (d : Dialect) {digits rest : List Char} (hne : digits ≠ [])
    (hd : ∀ c ∈ digits, Text.isDigit c = true) (hr : ∀ c ∈ rest.head?, Text.isDigit c = false) :
    scanFrom d 0 (d.slotMark.toList ++ digits ++ rest) = .slot digits :: scanFrom d 0 rest := by
  have htake := (takeWhile_append_of_all hd hr).1
  have hfound : markedDigits? d.slotMark.toList (d.slotMark.toList ++ (digits ++ rest)) =
      some digits := by
    simp [markedDigits?, htake, hne]
  obtain ⟨c, ms, hmark, hopen⟩ : ∃ c ms, d.slotMark.toList = c :: ms ∧ c ≠ d.quoteOpen := by
    cases d with
    | postgres => exact ⟨'$', [], rfl, by decide⟩
    | sqlServer => exact ⟨'@', ['p', 'a', 'r', 'a', 'm'], rfl, by decide⟩
  rw [hmark] at hfound ⊢
  have hg : glyphAt d c (ms ++ digits ++ rest) = (.slot digits, (ms ++ digits).length) := by
    have hlen : ms.length + 1 + digits.length - 1 = ms.length + digits.length := by omega
    rw [glyphAt, if_neg hopen, hmark, List.append_assoc]
    simp only [List.cons_append] at hfound
    simp [hfound, hlen]
  rw [List.append_assoc, List.cons_append, ← List.append_assoc, scanFrom, hg]
  simp only [scanFrom_append]

end Sql

namespace Statement

open Sql

/-! ### Statements that are read back -/

/-- The statement is over, or goes on with text at whose first character a word
ends. -/
def opensWithBreak : Statement → Bool
  | [] => true
  | .text s :: _ => s.toList.head?.any isBreak
  | _ => false

/-- The fixed text is plain, and a break follows each name and each value. -/
def Spaced : Statement → Prop
  | [] => True
  | .text s :: rest => s.toList.all isPlain = true ∧ Spaced rest
  | .name _ :: rest => opensWithBreak rest = true ∧ Spaced rest
  | .value _ :: rest => opensWithBreak rest = true ∧ Spaced rest

/-- What the reader finds in a statement, where `index` is the index of the next
parameter. -/
def glyphsFrom (d : Dialect) (index : Nat) : Statement → List Glyph
  | [] => []
  | .text s :: rest => s.toList.map .char ++ glyphsFrom d index rest
  | .name s :: rest => .name s.toList :: glyphsFrom d index rest
  | .value _ :: rest =>
    .slot (Nat.toDigits 10 (index + d.slotBase)) :: glyphsFrom d (index + 1) rest

theorem opensWithBreak_append {s t : Statement} (hs : opensWithBreak s = true)
    (ht : opensWithBreak t = true) : opensWithBreak (s ++ t) = true := by
  cases s with
  | nil => exact ht
  | cons p s => cases p <;> simp_all [opensWithBreak]

theorem spaced_append : ∀ {s t : Statement}, Spaced s → Spaced t → opensWithBreak t = true →
    Spaced (s ++ t)
  | [], _, _, ht, _ => ht
  | .text _ :: _, _, hs, ht, hb => ⟨hs.1, spaced_append hs.2 ht hb⟩
  | .name _ :: _, _, hs, ht, hb => ⟨opensWithBreak_append hs.1 hb, spaced_append hs.2 ht hb⟩
  | .value _ :: _, _, hs, ht, hb => ⟨opensWithBreak_append hs.1 hb, spaced_append hs.2 ht hb⟩

/-- The text behind a name or a value begins with a break. -/
theorem isBreak_of_head? (d : Dialect) (index : Nat) {s : Statement}
    (hs : opensWithBreak s = true) : ∀ c ∈ (textFrom d index s).toList.head?, isBreak c = true := by
  intro c hc
  cases s with
  | nil => simp [textFrom] at hc
  | cons p s =>
    cases p with
    | text t =>
      cases ht : t.toList with
      | nil => simp [opensWithBreak, ht] at hs
      | cons x xs => simp_all [opensWithBreak, textFrom]
    | name | value => simp [opensWithBreak] at hs

/-- **The text of a spaced statement is read back into its pieces.** -/
theorem scan_text (d : Dialect) : ∀ (index : Nat) (s : Statement), Spaced s →
    scanFrom d 0 (textFrom d index s).toList = glyphsFrom d index s
  | _, [], _ => rfl
  | index, .text t :: s, h => by
    simp only [textFrom, String.toList_append, glyphsFrom]
    rw [scanFrom_plain d h.1, scan_text d index s h.2]
  | index, .name n :: s, h => by
    have hhead : (textFrom d index s).toList.head? ≠ some d.quoteClose := by
      intro hc
      have hb := isBreak_of_head? d index h.1 _ hc
      simp only [isBreak, Bool.and_eq_true] at hb
      exact ne_quoteClose_of_isPlain d hb.1.1 rfl
    simp only [textFrom, Dialect.quote, String.toList_append, String.toList_ofList, glyphsFrom]
    rw [scanFrom_name d _ _ hhead, scan_text d index s h.2]
  | index, .value _ :: s, h => by
    have hhead : ∀ c ∈ (textFrom d (index + 1) s).toList.head?, Text.isDigit c = false := by
      intro c hc
      have hb := isBreak_of_head? d (index + 1) h.1 c hc
      simp only [isBreak, Bool.and_eq_true, Bool.not_eq_true'] at hb
      exact hb.2
    simp only [textFrom, Dialect.slot, String.toList_append, glyphsFrom,
      Nat.toString_eq_ofList_toDigits, String.toList_ofList]
    rw [scanFrom_slot d Nat.toDigits_ne_nil (fun c hc => Number.isDigit_of_mem_toDigits hc) hhead,
      scan_text d (index + 1) s h.2]

theorem marks_glyphsFrom (d : Dialect) : ∀ (index : Nat) (s : Statement),
    (glyphsFrom d index s).filterMap (Glyph.mark? d) =
      (List.range' index s.params.length).map d.slot
  | _, [] => rfl
  | index, .text t :: s => by
    have hchars : (t.toList.map Glyph.char).filterMap (Glyph.mark? d) = [] := by
      simp [List.filterMap_map, Function.comp_def, Glyph.mark?]
    rw [glyphsFrom, List.filterMap_append, hchars, marks_glyphsFrom d index s]
    rfl
  | index, .name n :: s => by
    rw [glyphsFrom, List.filterMap_cons]
    exact marks_glyphsFrom d index s
  | index, .value v :: s => by
    rw [glyphsFrom, List.filterMap_cons, marks_glyphsFrom d (index + 1) s, params,
      List.length_cons, List.range'_succ, List.map_cons]
    rfl

/-- **Outside of names the parameters are marked in their order**, each
once. -/
theorem marks_text (d : Dialect) {s : Statement} (h : Spaced s) :
    marks d (s.text d) = (List.range s.params.length).map d.slot := by
  rw [marks, scan, text, scan_text d 0 s h, marks_glyphsFrom, List.range_eq_range']

end Statement
end TableGate

/-
# What stands in a command

The text of a command and its parameters together are a row of characters,
names and values: the reader that skips names finds the marks, and the
parameters go into these in their order (`Sql.items`). For a spaced statement
the row is that of its pieces (`Statement.items_command`), so what can be read
from the pieces can be read from what is sent.

The readers here take what stands at the front of such a row, and each is
stated with any rest behind: fixed text, a number, and a row with a text
between its members (`readSeq_join`).

Key definitions: `Sql.Item`, `Sql.items`, `Statement.items`, `Sql.skip?`,
`Sql.readInt`, `Sql.readSeq`.
Key theorems: `Statement.items_command`, `Sql.readInt_repr`, `Sql.readSeq_join`.
-/
import TableGate.Proofs.Except
import TableGate.Proofs.Sql.Scan

namespace TableGate
namespace Sql

/-! ### Items -/

/-- A character, a name or a value of a command. -/
inductive Item where
  | char (c : Char)
  | name (s : String)
  | value (v : Value)

/-- The values go into the marks in their order. -/
def fill : List Glyph → List Value → List Item
  | [], _ => []
  | .char c :: gs, vs => .char c :: fill gs vs
  | .name cs :: gs, vs => .name (String.ofList cs) :: fill gs vs
  | .slot _ :: gs, v :: vs => .value v :: fill gs vs
  | .slot _ :: _, [] => []

/-- What stands in a command, from the left. -/
def items (d : Dialect) (cmd : Command) : List Item := fill (scan d cmd.text) cmd.params

theorem fill_map_char (gs : List Glyph) (vs : List Value) : ∀ cs : List Char,
    fill (cs.map .char ++ gs) vs = cs.map .char ++ fill gs vs
  | [] => rfl
  | c :: cs => congrArg (Item.char c :: ·) (fill_map_char gs vs cs)

end Sql

namespace Statement

open Sql

/-- What stands in a statement, from the left. -/
def items : Statement → List Item
  | [] => []
  | .text t :: rest => t.toList.map .char ++ items rest
  | .name n :: rest => .name n :: items rest
  | .value v :: rest => .value v :: items rest

theorem items_append : ∀ s t : Statement, items (s ++ t) = items s ++ items t
  | [], _ => rfl
  | .text u :: s, t => by
    rw [List.cons_append, items, items, items_append s t, List.append_assoc]
  | .name n :: s, t => congrArg (Item.name n :: ·) (items_append s t)
  | .value v :: s, t => congrArg (Item.value v :: ·) (items_append s t)

theorem fill_glyphsFrom (d : Dialect) : ∀ (index : Nat) (s : Statement),
    fill (glyphsFrom d index s) s.params = s.items
  | _, [] => rfl
  | index, .text t :: s => by
    rw [glyphsFrom, params_text, fill_map_char, fill_glyphsFrom d index s, items]
  | index, .name n :: s => by
    rw [glyphsFrom, params_name, fill, fill_glyphsFrom d index s, items, String.ofList_toList]
  | index, .value v :: s => by
    rw [glyphsFrom, params_value, fill, fill_glyphsFrom d (index + 1) s, items]

/-- **A spaced statement is found in what is sent for it.** -/
theorem items_command (d : Dialect) {s : Statement} (h : Spaced s) :
    Sql.items d (s.command d) = s.items := by
  rw [Sql.items, command, scan, text, scan_text d 0 s h, fill_glyphsFrom]

end Statement

namespace Sql

/-! ### Readers -/

/-- Reads what stands at the front: the result and what follows it. -/
abbrev Reader (α : Type) := List Item → Option (α × List Item)

def skipChars? : List Char → List Item → Option (List Item)
  | [], rest => some rest
  | c :: cs, .char x :: rest => if c = x then skipChars? cs rest else none
  | _ :: _, _ => none

/-- What follows a text at the front. -/
def skip? (t : String) (rest : List Item) : Option (List Item) := skipChars? t.toList rest

def name? : Reader String
  | .name n :: rest => some (n, rest)
  | _ => none

def value? : Reader Value
  | .value v :: rest => some (v, rest)
  | _ => none

/-- The characters of a number at the front. -/
def numberChars : List Item → List Char × List Item
  | .char c :: rest =>
    if c = '-' || Text.isAsciiDigit c then (c :: (numberChars rest).1, (numberChars rest).2)
    else ([], .char c :: rest)
  | rest => ([], rest)

/-- The number that characters stand for. -/
def intOf? : List Char → Option Int
  | '-' :: cs => (Decimal.natural? cs).map fun n => -Int.ofNat n
  | cs => (Decimal.natural? cs).map Int.ofNat

def readInt : Reader Int := fun front =>
  (intOf? (numberChars front).1).map fun n => (n, (numberChars front).2)

/-- Reads one member, and more as long as the text between members follows;
`fuel` is at least the number of members. -/
def readSeqFrom {α : Type} (member : Reader α) (between : String) : Nat → Reader (List α)
  | 0, _ => none
  | fuel + 1, front =>
    (member front).bind fun (a, rest) =>
      match skip? between rest with
      | none => some ([a], rest)
      | some next => (readSeqFrom member between fuel next).map fun (as, rest) => (a :: as, rest)

/-- Reads members with a text between them. -/
def readSeq {α : Type} (member : Reader α) (between : String) : Reader (List α) := fun front =>
  readSeqFrom member between front.length front

theorem skipChars?_append (rest : List Item) : ∀ cs : List Char,
    skipChars? cs (cs.map .char ++ rest) = some rest
  | [] => rfl
  | c :: cs => by
    rw [List.map_cons, List.cons_append, skipChars?, if_pos rfl, skipChars?_append rest cs]

@[simp] theorem skip?_append (t : String) (rest : List Item) :
    skip? t (t.toList.map .char ++ rest) = some rest :=
  skipChars?_append rest t.toList

theorem numberChars_append {rest : List Item} (hr : (numberChars rest) = ([], rest)) :
    ∀ {cs : List Char}, (∀ c ∈ cs, c = '-' ∨ Text.isAsciiDigit c = true) →
    numberChars (cs.map .char ++ rest) = (cs, rest)
  | [], _ => hr
  | c :: cs, h => by
    have hc : (decide (c = '-') || Text.isAsciiDigit c) = true := by simpa using h c (by simp)
    rw [List.map_cons, List.cons_append, numberChars, if_pos hc,
      numberChars_append hr fun x hx => h x (by simp [hx])]

theorem intOf?_toDigits (n : Nat) : intOf? (Nat.toDigits 10 n) = some (n : Int) := by
  cases hcs : Nat.toDigits 10 n with
  | nil => exact absurd hcs Nat.toDigits_ne_nil
  | cons c cs =>
    have hc : c ≠ '-' := by
      rintro rfl
      have hmem : '-' ∈ Nat.toDigits 10 n := by simp [hcs]
      exact absurd (Number.isAsciiDigit_of_mem_toDigits hmem) (by decide)
    rw [intOf?.eq_2 _ (by simpa using hc), ← hcs, Number.natural?_toDigits]
    rfl

/-- **A number is read back** if it does not go on behind its digits. -/
theorem readInt_repr (n : Int) (rest : List Item) (hr : numberChars rest = ([], rest)) :
    readInt (n.repr.toList.map .char ++ rest) = some (n, rest) := by
  obtain ⟨cs, hcs, hchars, hint⟩ : ∃ cs, n.repr.toList = cs ∧
      (∀ c ∈ cs, c = '-' ∨ Text.isAsciiDigit c = true) ∧ intOf? cs = some n := by
    refine ⟨_, rfl, ?_⟩
    rw [Int.repr_eq_if]
    split
    · rename_i hn
      rw [Nat.toList_repr, intOf?_toDigits, Int.toNat_of_nonneg hn]
      exact ⟨fun c hc => .inr (Number.isAsciiDigit_of_mem_toDigits hc), rfl⟩
    · rename_i hn
      have hneg : -Int.ofNat (-n).toNat = n := by simp only [Int.ofNat_eq_natCast]; omega
      rw [String.toList_append, Nat.toList_repr, show "-".toList = ['-'] from rfl,
        List.singleton_append, intOf?, Number.natural?_toDigits, Option.map_some, hneg]
      refine ⟨fun c hc => ?_, rfl⟩
      rcases List.mem_cons.mp hc with rfl | hc
      · exact .inl rfl
      · exact .inr (Number.isAsciiDigit_of_mem_toDigits hc)
  rw [readInt, hcs, numberChars_append hr hchars, hint, Option.map_some]

theorem readSeqFrom_join {α : Type} {member : Reader α} {between : String} {rest : List Item}
    (hr : skip? between rest = none) {ss : List Statement} {as : List α}
    (h : List.Forall₂ (fun s a => ∀ rest, member (s.items ++ rest) = some (a, rest)) ss as) :
    ss ≠ [] → ∀ fuel, ss.length ≤ fuel →
      readSeqFrom member between fuel ((joinPieces between ss).items ++ rest) =
        some (as, rest) := by
  induction h with
  | nil => exact fun hne => absurd rfl hne
  | @cons s a ss as hs hss ih =>
    intro _ fuel hfuel
    obtain ⟨fuel, rfl⟩ := Nat.exists_eq_succ_of_ne_zero (Nat.pos_iff_ne_zero.mp
      (Nat.lt_of_lt_of_le (Nat.succ_pos _) hfuel))
    cases hss with
    | nil => simp [joinPieces, readSeqFrom, hs, hr]
    | @cons t b ss as ht hss =>
      have hnext := ih (by simp) fuel (by simpa using hfuel)
      simp only [joinPieces, Statement.items_append, Statement.items, List.append_assoc,
        readSeqFrom, hs, Option.bind_some, skip?_append, hnext, Option.map_some]

theorem length_le_items (between : String) (ss : List Statement) (h : ∀ s ∈ ss, s.items ≠ []) :
    ss.length ≤ (joinPieces between ss).items.length := by
  fun_induction joinPieces between ss with
  | case1 => exact Nat.zero_le _
  | case2 s => exact List.length_pos_iff.mpr (h s (by simp))
  | case3 s t rest ih =>
    have hs := List.length_pos_iff.mpr (h s (by simp))
    have hrest := ih fun u hu => h u (by simp [hu])
    simp only [Statement.items_append, Statement.items, List.length_append, List.length_cons] at *
    omega

/-- **Members with a text between them are read back** if the text does not
follow the last of them. -/
theorem readSeq_join {α : Type} {member : Reader α} {between : String} {rest : List Item}
    (hnil : member [] = none) (hr : skip? between rest = none) {ss : List Statement} {as : List α}
    (h : List.Forall₂ (fun s a => ∀ rest, member (s.items ++ rest) = some (a, rest)) ss as)
    (hne : ss ≠ []) :
    readSeq member between ((joinPieces between ss).items ++ rest) = some (as, rest) := by
  -- a member without items would be read from nothing, so the row is long enough as fuel
  have hmembers : ∀ s ∈ ss, s.items ≠ [] := by
    intro s hs hitems
    obtain ⟨a, -, ha⟩ := Results.exists_of_forall₂ h.flip hs
    have h0 := ha []
    rw [hitems, List.append_nil, hnil] at h0
    simp at h0
  refine readSeqFrom_join hr h hne _ ?_
  rw [List.length_append]
  exact Nat.le_add_right_of_le (length_le_items between ss hmembers)

theorem readSeq_map {α : Type} {member : Reader α} {between : String} {rest : List Item}
    {pieces : α → Statement}
    (hmember : ∀ a rest, member ((pieces a).items ++ rest) = some (a, rest))
    (hnil : member [] = none) (hr : skip? between rest = none) {as : List α} (hne : as ≠ []) :
    readSeq member between ((joinPieces between (as.map pieces)).items ++ rest) =
      some (as, rest) := by
  refine readSeq_join hnil hr ?_ (by simpa using hne)
  rw [List.forall₂_map_left_iff, List.forall₂_same]
  exact fun a _ => hmember a

end Sql
end TableGate

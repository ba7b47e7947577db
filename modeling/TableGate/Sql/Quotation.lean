/-
# Quotations

Texts, names and comments in a script run up to the row of characters that
closes them. In a text or a name, a character that escapes takes the quote
behind it along; a quote that escapes does so only for a copy of itself.
Comments may stand inside comments.

What is read and what follows it are together what there was to read
(`append_of_readQuoted`, `append_of_readComment?`).

Key definitions: `Quotation`, `readQuoted`, `readComment?`.
-/
import TableGate.Sql.Lexicon

namespace TableGate
namespace Sql

/-- How a quotation goes on behind its opening. -/
inductive Quotation where
  /-- `inner` stands before what closes it, and `rest` behind. -/
  | closed (inner rest : List Char)
  /-- The script ends before it is closed. -/
  | unclosed
  /-- The script ends with a quote that is taken along. -/
  | escapedEnd
deriving DecidableEq, Repr

/-- The quotation with `front` before it. -/
def Quotation.prepend (front : List Char) : Quotation → Quotation
  | .closed inner rest => .closed (front ++ inner) rest
  | q => q

/-- The character `c` takes `n` behind it along. -/
def takesAlong (l : Lexicon) (escapes close : List Char) (c n : Char) : Bool :=
  escapes.contains c && ([n] == close || escapes.contains n) && (!l.isTextQuote c || c == n)

/-- Reads up to `close`. -/
def readQuoted (l : Lexicon) (escapes close : List Char) : List Char → Quotation
  | [] => .unclosed
  | [c] => if [c] == close then .closed [] [] else .unclosed
  | c :: n :: rest =>
    if takesAlong l escapes close c n then
      if rest.isEmpty then .escapedEnd
      else (readQuoted l escapes close rest).prepend [c, n]
    else if close.isPrefixOf (c :: n :: rest) then .closed [] ((c :: n :: rest).drop close.length)
    else (readQuoted l escapes close (n :: rest)).prepend [c]

/-- Reads to the end of a comment in which `depth` others are open. The next
`skip` characters belong to an opening mark, and directly behind it (`fresh`) no
other one counts. -/
def readComment? (nested : Bool) (opening close : List Char) (fresh : Bool) :
    Nat → Nat → List Char → Option (List Char × List Char)
  | _, _, [] => none
  | skip + 1, depth, c :: cs =>
    (readComment? nested opening close fresh skip depth cs).map fun r => (c :: r.1, r.2)
  | 0, depth, c :: cs =>
    if cs.isEmpty then none
    else if close.isPrefixOf (c :: cs) then
      match depth with
      | 0 => some (close, (c :: cs).drop close.length)
      | depth + 1 =>
        (readComment? nested opening close false 0 depth cs).map fun r => (c :: r.1, r.2)
    else if nested && !fresh && opening.isPrefixOf (c :: cs) then
      (readComment? nested opening close true (opening.length - 1) (depth + 1) cs).map fun r =>
        (c :: r.1, r.2)
    else (readComment? nested opening close false 0 depth cs).map fun r => (c :: r.1, r.2)

theorem append_drop_of_isPrefixOf {front cs : List Char} (h : front.isPrefixOf cs = true) :
    front ++ cs.drop front.length = cs := by
  obtain ⟨rest, rfl⟩ := List.isPrefixOf_iff_prefix.1 h
  simp

theorem eq_closed_of_prepend {front inner rest : List Char} {q : Quotation}
    (h : q.prepend front = .closed inner rest) :
    ∃ inner', q = .closed inner' rest ∧ inner = front ++ inner' := by
  cases q <;> simp_all [Quotation.prepend]

theorem append_of_readQuoted {l : Lexicon} {escapes close cs inner rest : List Char}
    (h : readQuoted l escapes close cs = .closed inner rest) : inner ++ close ++ rest = cs := by
  fun_induction readQuoted l escapes close cs generalizing inner rest with
  | case1 => simp at h
  | case2 c hc => simp_all
  | case3 => simp at h
  | case4 => simp at h
  | case5 c n cs _ _ ih =>
    obtain ⟨inner', hq, rfl⟩ := eq_closed_of_prepend h
    simpa using ih hq
  | case6 c n cs _ hp =>
    obtain ⟨rfl, rfl⟩ := Quotation.closed.inj h
    simpa using append_drop_of_isPrefixOf hp
  | case7 c n cs _ _ ih =>
    obtain ⟨inner', hq, rfl⟩ := eq_closed_of_prepend h
    simpa using ih hq

theorem append_of_readComment? {nested fresh : Bool} {opening close cs text rest : List Char}
    {skip depth : Nat}
    (h : readComment? nested opening close fresh skip depth cs = some (text, rest)) :
    text ++ rest = cs := by
  fun_induction readComment? nested opening close fresh skip depth cs generalizing text rest with
  | case1 => simp at h
  | case3 => simp at h
  | case4 fresh c cs _ hp =>
    obtain ⟨rfl, rfl⟩ := Prod.mk.inj (Option.some.inj h)
    exact append_drop_of_isPrefixOf hp
  | case2 _ _ _ _ _ ih | case5 _ _ _ _ _ _ ih | case6 _ _ _ _ _ _ _ ih
  | case7 _ _ _ _ _ _ _ ih =>
    obtain ⟨⟨t, r⟩, hr, he⟩ := Option.map_eq_some_iff.1 h
    obtain ⟨rfl, rfl⟩ := Prod.mk.inj he
    simp [ih hr]

end Sql
end TableGate

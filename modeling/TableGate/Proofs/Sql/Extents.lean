/-
# Where the statements of a script stand

A script is cut at its places as well as by its segments: the statement between two
cuts stands from behind the first semicolon up to the second one (`cutAt`). Only
where tokens start is looked at, and where the semicolons stop that cut. So the rows
of tokens need not cover the text; they have to be in order, each has to start at a
character that is no blank, and a semicolon has to be one character long
(`InOrder`).

How many blocks are open before a token is counted from the start of the row
(`depthBefore`), and a semicolon cuts if there are none (`IsCut`). The text falls
into the extents between the cuts. Those that hold a token are statements, without
the blanks around them; and all that is claimed of the statements is read off the
extents (`cutAt_splits`).

Key definitions: `Placed`, `cutAt`, `InOrder`, `depthBefore`, `IsCut`, `Extent`,
`Splits`.
Key theorems: `cutFrom_eq_cutAt`, `mem_cuts_iff`, `cutAt_eq_flatMap`,
`exists_extentsBetween`, `cutAt_splits`.
-/
import TableGate.Proofs.Sql.Segments
import TableGate.Proofs.Text.Cut

namespace TableGate
namespace Sql

open Text

/-! ### Cutting at places -/

/-- A token with the place where it starts, and the one behind its end. -/
structure Placed extends Token where
  start : Nat
  stop : Nat
deriving DecidableEq, Repr

/-- The characters from one place up to another. -/
def slice (text : List Char) (start stop : Nat) : List Char := (text.take stop).drop start

theorem slice_append (front middle back : List Char) :
    slice (front ++ middle ++ back) front.length (front.length + middle.length) = middle := by
  rw [slice, ← List.length_append, List.take_left, List.drop_left]

/-- The tokens as a row of segments. -/
def segmentsOf (tokens : List Placed) : List Segment := tokens.map fun t => .token t.toToken

/-- The statements of a text with a row of tokens, where `depth` blocks are open and
the last cut stops at `start`. -/
def cutAt (text : List Char) (start : Nat) (hasToken : Bool) (depth : Nat) :
    List Placed → List (List Char)
  | [] => statementOf hasToken [text.drop start]
  | t :: rest =>
    if t.kind = .semicolon ∧ depth = 0 then
      statementOf hasToken [slice text start t.start] ++ cutAt text t.stop false 0 rest
    else cutAt text start true (depthAfter depth t.toToken (segmentsOf rest)) rest

/-- The tokens of a row of segments that starts at a place. -/
def placedFrom (start : Nat) : List Segment → List Placed
  | [] => []
  | .gap text :: rest => placedFrom (start + text.length) rest
  | .token t :: rest => ⟨t, start, start + t.text.length⟩ :: placedFrom (start + t.text.length) rest

theorem firstToken?_segmentsOf : ∀ tokens : List Placed,
    firstToken? (segmentsOf tokens) = tokens.head?.map Placed.toToken
  | [] => rfl
  | _ :: _ => rfl

theorem firstToken?_placedFrom : ∀ (ss : List Segment) (start : Nat),
    firstToken? (segmentsOf (placedFrom start ss)) = firstToken? ss
  | [], _ => rfl
  | .gap text :: ss, start => firstToken?_placedFrom ss (start + text.length)
  | .token _ :: _, _ => rfl

/-- What follows matters by its first token only. -/
theorem depthAfter_congr {ss ss' : List Segment} (h : firstToken? ss = firstToken? ss')
    (depth : Nat) (t : Token) : depthAfter depth t ss = depthAfter depth t ss' := by
  have hopens : opensBlock t ss = opensBlock t ss' := by rw [opensBlock, opensBlock, h]
  rw [depthAfter, depthAfter, hopens]

theorem statementOf_flatten (hasToken : Bool) (chunk : List (List Char)) :
    statementOf hasToken [chunk.reverse.flatten] = statementOf hasToken chunk := by
  simp [statementOf]

/-- **A row of segments is cut at the places of its tokens.** -/
theorem cutFrom_eq_cutAt : ∀ (ss : List Segment) (front : List Char) (chunk : List (List Char))
    (hasToken : Bool) (depth start : Nat), start ≤ front.length →
      chunk.reverse.flatten = front.drop start →
      cutFrom chunk hasToken depth ss =
        cutAt (front ++ textOf ss) start hasToken depth (placedFrom front.length ss)
  | [], front, chunk, hasToken, depth, start, _, hchunk => by
    rw [cutFrom, placedFrom, cutAt, ← statementOf_flatten, hchunk, textOf, List.flatMap_nil,
      List.append_nil]
  | s :: ss, front, chunk, hasToken, depth, start, hstart, hchunk => by
    have htext : front ++ textOf (s :: ss) = (front ++ s.text) ++ textOf ss := by
      rw [textOf, List.flatMap_cons, ← List.append_assoc]
      rfl
    have hlength : (front ++ s.text).length = front.length + s.text.length := List.length_append
    have hlonger : start ≤ (front ++ s.text).length := by omega
    have hadded : (s.text :: chunk).reverse.flatten = (front ++ s.text).drop start := by
      rw [List.drop_append_of_le_length hstart, ← hchunk]
      simp
    rw [htext]
    cases s with
    | gap text =>
      have hrest := cutFrom_eq_cutAt ss _ _ hasToken depth start hlonger hadded
      rw [hlength] at hrest
      exact hrest
    | token t =>
      rw [cutFrom, placedFrom, cutAt]
      by_cases hcut : t.kind = .semicolon ∧ depth = 0
      · have hrest := cutFrom_eq_cutAt ss (front ++ (Segment.token t).text) [] false 0 _
          (Nat.le_refl _) (by simp)
        have hslice : slice (front ++ (Segment.token t).text ++ textOf ss) start front.length =
            front.drop start := by
          rw [slice, List.append_assoc, List.take_left]
        rw [hlength] at hrest
        rw [if_pos hcut, if_pos hcut, hslice, ← hchunk, statementOf_flatten, hrest]
        rfl
      · have hrest := cutFrom_eq_cutAt ss _ _ true (depthAfter depth t ss) start hlonger hadded
        rw [hlength] at hrest
        rw [if_neg hcut, if_neg hcut,
          depthAfter_congr (firstToken?_placedFrom ss _) depth t]
        exact hrest

/-! ### Blocks and cuts -/

/-- The tokens are in order, none starts at a blank, and a semicolon is one
character. -/
structure InOrder (text : List Char) (tokens : List Placed) : Prop where
  ordered : tokens.Pairwise fun t u => t.start < u.start
  visible : ∀ t ∈ tokens, ∃ c, text[t.start]? = some c ∧ isBlank c = false
  semicolon : ∀ t ∈ tokens, t.kind = .semicolon → t.stop = t.start + 1

/-- The token at an index opens a block: it is `CASE`, or it is `BEGIN` and another
token follows that is no semicolon and no word of a transaction. -/
def opensAt (tokens : List Placed) (i : Nat) : Bool :=
  tokens[i]?.any fun t =>
    t.kind == .caseWord || t.kind == .beginWord && tokens[i + 1]?.any fun next =>
      next.kind != .semicolon && !transactionWords.contains (upper (String.ofList next.word))

/-- The token at an index is `END`. -/
def closesAt (tokens : List Placed) (i : Nat) : Bool :=
  tokens[i]?.any fun t => t.kind == .endWord

/-- The number of blocks that are open before an index; an `END` without a block
closes none. -/
def depthBefore (tokens : List Placed) : Nat → Nat
  | 0 => 0
  | i + 1 =>
    if opensAt tokens i then depthBefore tokens i + 1
    else if closesAt tokens i then depthBefore tokens i - 1
    else depthBefore tokens i

/-- At the index is a semicolon outside all blocks. -/
def IsCut (tokens : List Placed) (i : Nat) : Prop :=
  (∃ t, tokens[i]? = some t ∧ t.kind = .semicolon) ∧ depthBefore tokens i = 0

/-- Where the semicolons are that cut, if `depth` blocks are open. -/
def cuts (depth : Nat) : List Placed → List Nat
  | [] => []
  | t :: rest =>
    if t.kind = .semicolon ∧ depth = 0 then t.start :: cuts 0 rest
    else cuts (depthAfter depth t.toToken (segmentsOf rest)) rest

variable {text : List Char} {tokens passed rest : List Placed} {t u : Placed}

theorem opensAt_length : opensAt (passed ++ t :: rest) passed.length =
    opensBlock t.toToken (segmentsOf rest) := by
  have hnext : (passed ++ t :: rest)[passed.length + 1]? = rest.head? := by
    rw [List.getElem?_append_right (by omega), Nat.add_sub_cancel_left, List.getElem?_cons_succ,
      ← List.head?_eq_getElem?]
  have hhere : (passed ++ t :: rest)[passed.length]? = some t := by simp
  rw [opensAt, hhere, hnext, opensBlock, firstToken?_segmentsOf, Option.any_some]
  cases rest.head? with
  | none => cases t.kind <;> rfl
  | some next => cases t.kind <;> rfl

/-- The blocks that are open behind a token. -/
theorem depthBefore_succ :
    depthBefore (passed ++ t :: rest) (passed.length + 1) =
      depthAfter (depthBefore (passed ++ t :: rest) passed.length) t.toToken (segmentsOf rest) := by
  have hcloses : closesAt (passed ++ t :: rest) passed.length = (t.kind == .endWord) := by
    simp [closesAt]
  rw [depthBefore, opensAt_length, hcloses, depthAfter]
  simp only [beq_iff_eq]

theorem depthAfter_semicolon {t : Token} (h : t.kind = .semicolon) (depth : Nat)
    (ss : List Segment) : depthAfter depth t ss = depth := by
  have hopens : opensBlock t ss = false := by rw [opensBlock, h]
  rw [depthAfter, hopens, h]
  rfl

/-- **A place is cut if a semicolon starts there that is outside all blocks.** -/
theorem mem_cuts_iff : ∀ (rest passed : List Placed) {p : Nat},
    p ∈ cuts (depthBefore (passed ++ rest) passed.length) rest ↔
      ∃ i t, passed.length ≤ i ∧ (passed ++ rest)[i]? = some t ∧ t.start = p ∧
        IsCut (passed ++ rest) i
  | [], passed, p => by
    constructor
    · intro hp
      cases hp
    · rintro ⟨i, t, hi, ht, -⟩
      rw [List.append_nil, List.getElem?_eq_none hi] at ht
      cases ht
  | t :: rest, passed, p => by
    have hshift : passed ++ t :: rest = (passed ++ [t]) ++ rest := by simp
    have hhere : (passed ++ t :: rest)[passed.length]? = some t := by simp
    have hlength : (passed ++ [t]).length = passed.length + 1 := by simp
    -- what is left of the row is cut as it is cut in the whole
    have hrest : p ∈ cuts (depthBefore (passed ++ t :: rest) (passed.length + 1)) rest ↔
        ∃ i u, passed.length + 1 ≤ i ∧ (passed ++ t :: rest)[i]? = some u ∧ u.start = p ∧
          IsCut (passed ++ t :: rest) i := by
      rw [hshift, ← hlength]
      exact mem_cuts_iff rest (passed ++ [t])
    rw [depthBefore_succ] at hrest
    have hfirst : (∃ i u, passed.length ≤ i ∧ (passed ++ t :: rest)[i]? = some u ∧ u.start = p ∧
          IsCut (passed ++ t :: rest) i) ↔
        (t.start = p ∧ IsCut (passed ++ t :: rest) passed.length) ∨
          ∃ i u, passed.length + 1 ≤ i ∧ (passed ++ t :: rest)[i]? = some u ∧ u.start = p ∧
            IsCut (passed ++ t :: rest) i := by
      constructor
      · rintro ⟨i, u, hi, hu, hp, hcut⟩
        rcases Nat.eq_or_lt_of_le hi with rfl | hlt
        · obtain rfl := Option.some.inj (hhere.symm.trans hu)
          exact .inl ⟨hp, hcut⟩
        · exact .inr ⟨i, u, hlt, hu, hp, hcut⟩
      · rintro (⟨hp, hcut⟩ | ⟨i, u, hi, hu, hp, hcut⟩)
        · exact ⟨passed.length, t, Nat.le_refl _, hhere, hp, hcut⟩
        · exact ⟨i, u, by omega, hu, hp, hcut⟩
    have hcut : IsCut (passed ++ t :: rest) passed.length ↔
        t.kind = .semicolon ∧ depthBefore (passed ++ t :: rest) passed.length = 0 := by
      rw [IsCut, hhere]
      simp
    rw [hfirst, ← hrest, hcut, cuts]
    by_cases hhit : t.kind = .semicolon ∧ depthBefore (passed ++ t :: rest) passed.length = 0
    · rw [if_pos hhit, depthAfter_semicolon hhit.1, hhit.2]
      simp [hhit.1, eq_comm]
    · rw [if_neg hhit]
      simp [hhit]

/-! ### Extents -/

/-- A part of a text, from one place up to another. -/
structure Extent where
  start : Nat
  stop : Nat
deriving DecidableEq, Repr

namespace Extent

/-- The place lies in the extent. -/
def Contains (e : Extent) (p : Nat) : Prop := e.start ≤ p ∧ p < e.stop

instance (e : Extent) (p : Nat) : Decidable (e.Contains p) :=
  inferInstanceAs (Decidable (_ ∧ _))

def chars (text : List Char) (e : Extent) : List Char := slice text e.start e.stop

/-- A token starts in the extent. -/
def holds (tokens : List Placed) (e : Extent) : Bool :=
  tokens.any fun t => decide (e.Contains t.start)

/-- The extent without the blanks at both ends. -/
def trimmed (text : List Char) (e : Extent) : Extent :=
  let start := e.start + ((e.chars text).takeWhile isBlank).length
  ⟨start, start + (trimChars (e.chars text)).length⟩

/-- The first extent ends before the second one starts. -/
def Before (e f : Extent) : Prop := e.stop < f.start

variable {e f : Extent} {p : Nat} {c : Char}

theorem chars_parts (hle : e.start ≤ e.stop) (hstop : e.stop ≤ text.length) :
    (text.take e.start).length = e.start ∧ (e.chars text).length = e.stop - e.start ∧
      text = text.take e.start ++ e.chars text ++ text.drop e.stop := by
  refine ⟨by rw [List.length_take]; omega, ?_, ?_⟩
  · rw [chars, slice, List.length_drop, List.length_take]
    omega
  · have htake : text.take e.start = (text.take e.stop).take e.start := by
      rw [List.take_take, Nat.min_eq_left hle]
    rw [chars, slice, htake, List.take_append_drop, List.take_append_drop]

/-- **A trimmed extent has the trimmed characters**, and lies in the extent with all its
characters that are no blanks. -/
theorem trimmed_spec (hle : e.start ≤ e.stop) (hstop : e.stop ≤ text.length) :
    (e.trimmed text).chars text = trimChars (e.chars text) ∧
      (e.start ≤ (e.trimmed text).start ∧ (e.trimmed text).start ≤ (e.trimmed text).stop ∧
        (e.trimmed text).stop ≤ e.stop) ∧
      ∀ p c, text[p]? = some c → isBlank c = false → e.Contains p → (e.trimmed text).Contains p := by
  obtain ⟨hfront, hlength, htext⟩ := chars_parts hle hstop
  obtain ⟨back, hback, hparts⟩ := takeWhile_append_trimChars (e.chars text)
  set blanks := (e.chars text).takeWhile isBlank with hblanks
  set kept := trimChars (e.chars text) with hkept
  have hstart : (e.trimmed text).start = e.start + blanks.length := rfl
  have hend : (e.trimmed text).stop = e.start + blanks.length + kept.length := rfl
  have hsum : blanks.length + kept.length + back.length = e.stop - e.start := by
    rw [← hlength, ← hparts, List.length_append, List.length_append]
  have hwhole : text = (text.take e.start ++ blanks) ++ kept ++ (back ++ text.drop e.stop) := by
    rw [← hparts] at htext
    simpa only [List.append_assoc] using htext
  have hlengthFront : (text.take e.start ++ blanks).length = e.start + blanks.length := by
    rw [List.length_append, hfront]
  refine ⟨?_, by omega, fun p c hp hc hin => ?_⟩
  · calc (e.trimmed text).chars text
        = slice text (text.take e.start ++ blanks).length
            ((text.take e.start ++ blanks).length + kept.length) := by
          rw [chars, hstart, hend, hlengthFront]
      _ = slice ((text.take e.start ++ blanks) ++ kept ++ (back ++ text.drop e.stop))
            (text.take e.start ++ blanks).length
            ((text.take e.start ++ blanks).length + kept.length) := by rw [← hwhole]
      _ = kept := slice_append _ _ _
  · -- a character of the extent is one of its blanks in front, of what is kept, or behind
    obtain ⟨hlow, hhigh⟩ := hin
    have hinside : (e.chars text)[p - e.start]? = some c := by
      rw [htext, List.append_assoc, List.getElem?_append_right (by omega), hfront,
        List.getElem?_append_left (by omega)] at hp
      exact hp
    rw [← hparts, List.append_assoc] at hinside
    refine ⟨?_, ?_⟩
    · by_contra hbefore
      rw [List.getElem?_append_left (by omega)] at hinside
      have hblank : isBlank c = true := List.mem_takeWhile_imp (List.mem_of_getElem? hinside)
      rw [hblank] at hc
      cases hc
    · by_contra hbehind
      rw [List.getElem?_append_right (by omega), List.getElem?_append_right (by omega)] at hinside
      rw [hback c (List.mem_of_getElem? hinside)] at hc
      cases hc

/-- Of extents that lie one before the other, only one contains a place. -/
theorem eq_of_contains : ∀ {es : List Extent}, es.Pairwise Before → e ∈ es → f ∈ es →
    e.Contains p → f.Contains p → e = f
  | d :: es, h, he, hf, ⟨helow, hehigh⟩, ⟨hflow, hfhigh⟩ => by
    obtain ⟨hfirst, hrest⟩ := List.pairwise_cons.mp h
    rcases List.mem_cons.mp he with rfl | he'
    · rcases List.mem_cons.mp hf with rfl | hf'
      · rfl
      · have hbefore : e.stop < f.start := hfirst f hf'
        omega
    · rcases List.mem_cons.mp hf with rfl | hf'
      · have hbefore : f.stop < e.start := hfirst e he'
        omega
      · exact eq_of_contains hrest he' hf' ⟨helow, hehigh⟩ ⟨hflow, hfhigh⟩

end Extent

/-- The extents between cuts, from `start` up to `stop`. -/
def extentsBetween (start stop : Nat) : List Nat → List Extent
  | [] => [⟨start, stop⟩]
  | c :: cs => ⟨start, c⟩ :: extentsBetween (c + 1) stop cs

section Between

open Extent

variable {start stop p q c : Nat} {cs : List Nat} {e : Extent}

/-- Places in order, from `start` on and before `stop`. -/
structure Between (start stop : Nat) (cs : List Nat) : Prop where
  ordered : cs.Pairwise (· < ·)
  bounds : ∀ c ∈ cs, start ≤ c ∧ c < stop
  le : start ≤ stop

theorem Between.tail (h : Between start stop (c :: cs)) : Between (c + 1) stop cs := by
  obtain ⟨hfirst, hrest⟩ := List.pairwise_cons.mp h.ordered
  have hc := h.bounds c List.mem_cons_self
  refine ⟨hrest, fun d hd => ?_, by omega⟩
  have hlt := hfirst d hd
  have hd := h.bounds d (List.mem_cons_of_mem c hd)
  omega

/-- The extents lie where they should, and stop before the next cut. -/
theorem bounds_extentsBetween : ∀ {cs : List Nat} {start : Nat}, Between start stop cs →
    ∀ e ∈ extentsBetween start stop cs, start ≤ e.start ∧ e.start ≤ e.stop ∧ e.stop ≤ stop
  | [], start, h, e, he => by
    obtain rfl := List.mem_singleton.mp he
    exact ⟨Nat.le_refl _, h.le, Nat.le_refl _⟩
  | c :: cs, start, h, e, he => by
    have hc := h.bounds c List.mem_cons_self
    rcases List.mem_cons.mp he with rfl | he
    · exact ⟨Nat.le_refl _, hc.1, Nat.le_of_lt hc.2⟩
    · have hrest := bounds_extentsBetween h.tail e he
      omega

theorem pairwise_extentsBetween : ∀ {cs : List Nat} {start : Nat}, Between start stop cs →
    (extentsBetween start stop cs).Pairwise Before
  | [], start, _ => List.pairwise_singleton _ _
  | c :: cs, start, h => by
    refine List.pairwise_cons.mpr ⟨fun e he => ?_, pairwise_extentsBetween h.tail⟩
    have hbounds := bounds_extentsBetween h.tail e he
    simp only [Before]
    omega

theorem not_contains_cut : ∀ {cs : List Nat} {start : Nat}, Between start stop cs → c ∈ cs →
    ∀ e ∈ extentsBetween start stop cs, ¬e.Contains c
  | d :: cs, start, h, hc, e, he => by
    intro hcontains
    obtain ⟨hlow, hhigh⟩ := hcontains
    rcases List.mem_cons.mp he with rfl | he
    · rcases List.mem_cons.mp hc with rfl | hc
      · exact Nat.lt_irrefl c hhigh
      · have hlt := (List.pairwise_cons.mp h.ordered).1 c hc
        exact Nat.lt_irrefl c (Nat.lt_trans hhigh hlt)
    · rcases List.mem_cons.mp hc with rfl | hc
      · have hbounds := bounds_extentsBetween h.tail e he
        omega
      · exact not_contains_cut h.tail hc e he ⟨hlow, hhigh⟩

/-- **Two places with no cut from the one to the other are in one extent.** -/
theorem exists_extentsBetween : ∀ {cs : List Nat} {start : Nat}, Between start stop cs →
    start ≤ p → p ≤ q → q < stop → (∀ c ∈ cs, ¬(p ≤ c ∧ c ≤ q)) →
      ∃ e ∈ extentsBetween start stop cs, e.Contains p ∧ e.Contains q
  | [], start, _, hp, hpq, hq, _ =>
    ⟨_, List.mem_singleton_self _, ⟨hp, Nat.lt_of_le_of_lt hpq hq⟩, ⟨Nat.le_trans hp hpq, hq⟩⟩
  | c :: cs, start, h, hp, hpq, hq, hcuts => by
    have hc := hcuts c List.mem_cons_self
    by_cases hbefore : q < c
    · exact ⟨⟨start, c⟩, List.mem_cons_self, ⟨hp, Nat.lt_of_le_of_lt hpq hbefore⟩,
        ⟨Nat.le_trans hp hpq, hbefore⟩⟩
    · obtain ⟨e, he, hboth⟩ := exists_extentsBetween h.tail (by omega) hpq hq
        fun d hd => hcuts d (List.mem_cons_of_mem c hd)
      exact ⟨e, List.mem_cons_of_mem _ he, hboth⟩

end Between

/-! ### Statements are extents -/

section Statements

variable {depth start : Nat} {hasToken : Bool}

theorem start_mem_of_mem_cuts {p : Nat} : ∀ {tokens : List Placed} {depth : Nat},
    p ∈ cuts depth tokens → ∃ t ∈ tokens, t.start = p
  | t :: rest, depth, h => by
    rw [cuts] at h
    split at h
    · rcases List.mem_cons.mp h with rfl | h
      · exact ⟨t, List.mem_cons_self, rfl⟩
      · obtain ⟨u, hu, hp⟩ := start_mem_of_mem_cuts h
        exact ⟨u, List.mem_cons_of_mem t hu, hp⟩
    · obtain ⟨u, hu, hp⟩ := start_mem_of_mem_cuts h
      exact ⟨u, List.mem_cons_of_mem t hu, hp⟩

theorem pairwise_cuts : ∀ {tokens : List Placed} {depth : Nat},
    tokens.Pairwise (fun t u => t.start < u.start) → (cuts depth tokens).Pairwise (· < ·)
  | [], _, _ => List.Pairwise.nil
  | t :: rest, depth, h => by
    obtain ⟨hfirst, hrest⟩ := List.pairwise_cons.mp h
    rw [cuts]
    split
    · refine List.pairwise_cons.mpr ⟨fun p hp => ?_, pairwise_cuts hrest⟩
      obtain ⟨u, hu, rfl⟩ := start_mem_of_mem_cuts hp
      exact hfirst u hu
    · exact pairwise_cuts hrest

theorem InOrder.start_lt_length (h : InOrder text tokens) (ht : t ∈ tokens) :
    t.start < text.length := by
  obtain ⟨c, hc, -⟩ := h.visible t ht
  exact (List.getElem?_eq_some_iff.mp hc).1

theorem InOrder.between (h : InOrder text tokens) :
    Between 0 text.length (cuts 0 tokens) := by
  refine ⟨pairwise_cuts h.ordered, fun p hp => ?_, Nat.zero_le _⟩
  obtain ⟨t, ht, rfl⟩ := start_mem_of_mem_cuts hp
  exact ⟨Nat.zero_le _, h.start_lt_length ht⟩

/-- Of the tokens in order, those in an extent are the ones that start behind its
start. -/
theorem holds_eq {start stop : Nat} (hpassed : ∀ t ∈ passed, t.start < stop)
    (hrest : ∀ t ∈ rest, stop ≤ t.start) :
    Extent.holds (passed ++ rest) ⟨start, stop⟩ =
      passed.any fun t => decide (start ≤ t.start) := by
  rw [Bool.eq_iff_iff]
  simp only [Extent.holds, List.any_eq_true, decide_eq_true_eq, List.mem_append]
  constructor
  · rintro ⟨t, ht | ht, hlow, hhigh⟩
    · exact ⟨t, ht, hlow⟩
    · exact absurd (hrest t ht) (Nat.not_le.mpr hhigh)
  · rintro ⟨t, ht, hlow⟩
    exact ⟨t, .inl ht, hlow, hpassed t ht⟩

/-- **A text is cut into extents**: each that holds a token gives a statement. -/
theorem cutAt_eq_flatMap : ∀ (rest passed : List Placed) (start depth : Nat) (hasToken : Bool),
    InOrder text (passed ++ rest) → (∀ t ∈ rest, start ≤ t.start) →
      hasToken = passed.any (fun t => decide (start ≤ t.start)) →
      cutAt text start hasToken depth rest =
        (extentsBetween start text.length (cuts depth rest)).flatMap fun e =>
          statementOf (e.holds (passed ++ rest)) [e.chars text]
  | [], passed, start, depth, hasToken, h, _, hflag => by
    have hholds : Extent.holds (passed ++ []) ⟨start, text.length⟩ = hasToken := by
      rw [hflag]
      exact holds_eq (fun t ht => h.start_lt_length (List.mem_append_left _ ht)) (by simp)
    have hchars : Extent.chars text ⟨start, text.length⟩ = text.drop start := by
      rw [Extent.chars, slice, List.take_length]
    rw [cutAt, cuts, extentsBetween, List.flatMap_cons, List.flatMap_nil, List.append_nil, hholds,
      hchars]
  | t :: rest, passed, start, depth, hasToken, h, hstart, hflag => by
    have hshift : passed ++ t :: rest = (passed ++ [t]) ++ rest := by simp
    have ht : t ∈ passed ++ t :: rest := by simp
    obtain ⟨-, hordered, hpassed⟩ := List.pairwise_append.mp h.ordered
    have hbehind := (List.pairwise_cons.mp hordered).1
    -- the tokens since the last cut are the ones in `passed` that start behind it
    have hbefore : ∀ u ∈ passed, u.start < t.start := fun u hu => hpassed u hu t List.mem_cons_self
    have hfront : ∀ u ∈ t :: rest, t.start ≤ u.start := by
      intro u hu
      rcases List.mem_cons.mp hu with rfl | hu
      · exact Nat.le_refl _
      · exact Nat.le_of_lt (hbehind u hu)
    rw [cutAt, cuts]
    by_cases hcut : t.kind = .semicolon ∧ depth = 0
    · have hflag' : false = (passed ++ [t]).any fun u => decide (t.start + 1 ≤ u.start) := by
        rw [eq_comm, List.any_eq_false]
        intro u hu
        rcases List.mem_append.mp hu with hu | hu
        · have hlt := hbefore u hu
          simp only [decide_eq_true_eq]
          omega
        · rw [List.mem_singleton.mp hu]
          simp
      have hrest := cutAt_eq_flatMap rest (passed ++ [t]) (t.start + 1) 0 false (hshift ▸ h) hbehind
        hflag'
      rw [if_pos hcut, if_pos hcut, h.semicolon t ht hcut.1, extentsBetween, List.flatMap_cons,
        holds_eq hbefore hfront, ← hflag, hrest, hshift]
      rfl
    · have hflag' : true = (passed ++ [t]).any fun u => decide (start ≤ u.start) := by
        rw [eq_comm, List.any_eq_true]
        exact ⟨t, by simp, by simpa using hstart t List.mem_cons_self⟩
      have hrest := cutAt_eq_flatMap rest (passed ++ [t]) start
        (depthAfter depth t.toToken (segmentsOf rest)) true (hshift ▸ h) (fun u hu => hstart u (List.mem_cons_of_mem t hu)) hflag'
      rw [if_neg hcut, if_neg hcut, hrest, hshift]

/-- The extents of the statements: those between cuts that hold a token, trimmed. -/
def extents (text : List Char) (tokens : List Placed) : List Extent :=
  ((extentsBetween 0 text.length (cuts 0 tokens)).filter (Extent.holds tokens)).map
    (Extent.trimmed text)

theorem mem_extents_iff {e : Extent} : e ∈ extents text tokens ↔
    ∃ f ∈ extentsBetween 0 text.length (cuts 0 tokens), f.holds tokens = true ∧
      f.trimmed text = e := by
  simp only [extents, List.mem_map, List.mem_filter, and_assoc]

theorem mem_cuts_zero_iff {p : Nat} : p ∈ cuts 0 tokens ↔
    ∃ i t, tokens[i]? = some t ∧ t.start = p ∧ IsCut tokens i := by
  have hcuts := mem_cuts_iff tokens [] (p := p)
  simpa [depthBefore] using hcuts

theorem statementOf_chars (h : InOrder text tokens) {e : Extent} (hle : e.start ≤ e.stop)
    (hstop : e.stop ≤ text.length) :
    statementOf (e.holds tokens) [e.chars text] =
      if e.holds tokens then [(e.trimmed text).chars text] else [] := by
  obtain ⟨htrim, -, hkept⟩ := Extent.trimmed_spec hle hstop
  cases hholds : e.holds tokens with
  | false => simp [statementOf]
  | true =>
    obtain ⟨t, ht, hin⟩ := List.any_eq_true.mp hholds
    obtain ⟨c, hc, hblank⟩ := h.visible t ht
    obtain ⟨hlow, hhigh⟩ := hkept t.start c hc hblank (of_decide_eq_true hin)
    have hne : trimChars (e.chars text) ≠ [] := by
      intro hnil
      have hstop : (e.trimmed text).stop = (e.trimmed text).start := by
        change _ + (trimChars (e.chars text)).length = _
        rw [hnil]
        rfl
      omega
    rw [htrim]
    simp [statementOf, hne]

/-- **The statements are the characters of the extents.** -/
theorem cutAt_eq_map (h : InOrder text tokens) :
    cutAt text 0 false 0 tokens = (extents text tokens).map (Extent.chars text) := by
  have hpieces : ∀ es : List Extent, (∀ e ∈ es, e.start ≤ e.stop ∧ e.stop ≤ text.length) →
      (es.flatMap fun e => statementOf (e.holds tokens) [e.chars text]) =
        ((es.filter (Extent.holds tokens)).map (Extent.trimmed text)).map (Extent.chars text) := by
    intro es hes
    induction es with
    | nil => rfl
    | cons e es ih =>
      obtain ⟨hle, hstop⟩ := hes e List.mem_cons_self
      rw [List.flatMap_cons, statementOf_chars h hle hstop,
        ih fun f hf => hes f (List.mem_cons_of_mem e hf), List.filter_cons]
      split <;> rfl
  rw [cutAt_eq_flatMap tokens [] 0 0 false h (fun t _ => Nat.zero_le _) rfl, List.nil_append]
  exact hpieces _ fun e he => (bounds_extentsBetween h.between e he).2

end Statements

/-! ### What is known of the statements -/

/-- What holds of the extents of the statements in a text with a row of tokens. -/
structure Splits (text : List Char) (tokens : List Placed) (es : List Extent) : Prop where
  /-- The statements stand one behind the other, with a character between them. -/
  before : es.Pairwise Extent.Before
  /-- None is empty, and all are in the text. -/
  inside : ∀ e ∈ es, e.start < e.stop ∧ e.stop ≤ text.length
  /-- None begins or ends with a blank. -/
  trimmed : ∀ e ∈ es, ∀ c ∈ (e.chars text).head?.toList ++ (e.chars text).getLast?.toList,
    isBlank c = false
  /-- Each has a token. -/
  occupied : ∀ e ∈ es, ∃ t ∈ tokens, e.Contains t.start
  /-- Each token that is no cut is in one of them. -/
  held : ∀ i t, tokens[i]? = some t → ¬IsCut tokens i → ∃! e, e ∈ es ∧ e.Contains t.start
  /-- A token that is a cut is in none. -/
  cut : ∀ i t, tokens[i]? = some t → IsCut tokens i → ∀ e ∈ es, ¬e.Contains t.start
  /-- Two tokens are in the same one exactly if there is no cut between them. -/
  together : ∀ i j t u, i ≤ j → tokens[i]? = some t → tokens[j]? = some u →
    ¬IsCut tokens i → ¬IsCut tokens j →
      ((∃ e ∈ es, e.Contains t.start ∧ e.Contains u.start) ↔
        ∀ k, i < k → k < j → ¬IsCut tokens k)
  /-- What opens a block is in the same one as what follows before the block ends. -/
  block : ∀ i j t u, i ≤ j → tokens[i]? = some t → tokens[j]? = some u →
    opensAt tokens i = true → (∀ k, i < k → k ≤ j → 0 < depthBefore tokens k) →
      ∃ e ∈ es, e.Contains t.start ∧ e.Contains u.start
  /-- A character that is in none and no blank is a cut, or there is a cut between it and
  each token. -/
  leftOut : ∀ p c, text[p]? = some c → isBlank c = false → (∀ e ∈ es, ¬e.Contains p) →
    (∃ i t, tokens[i]? = some t ∧ t.start = p ∧ IsCut tokens i) ∨
      ∀ j u, tokens[j]? = some u → ¬IsCut tokens j →
        ∃ k v, tokens[k]? = some v ∧ IsCut tokens k ∧
          (p < v.start ∧ v.start < u.start ∨ u.start < v.start ∧ v.start < p)

namespace InOrder

variable {i j k p q : Nat} {c d : Char} {e : Extent}

theorem start_lt (h : InOrder text tokens) (ht : tokens[i]? = some t) (hu : tokens[j]? = some u)
    (hij : i < j) : t.start < u.start := by
  obtain ⟨hi, rfl⟩ := List.getElem?_eq_some_iff.mp ht
  obtain ⟨hj, rfl⟩ := List.getElem?_eq_some_iff.mp hu
  exact List.pairwise_iff_getElem.mp h.ordered i j hi hj hij

theorem lt_iff (h : InOrder text tokens) (ht : tokens[i]? = some t) (hu : tokens[j]? = some u) :
    i < j ↔ t.start < u.start := by
  refine ⟨h.start_lt ht hu, fun hlt => ?_⟩
  by_contra hge
  rcases Nat.eq_or_lt_of_le (Nat.not_lt.mp hge) with rfl | hji
  · obtain rfl := Option.some.inj (ht.symm.trans hu)
    exact Nat.lt_irrefl _ hlt
  · exact Nat.lt_asymm hlt (h.start_lt hu ht hji)

theorem isCut_iff (h : InOrder text tokens) (ht : tokens[i]? = some t) :
    IsCut tokens i ↔ t.start ∈ cuts 0 tokens := by
  rw [mem_cuts_zero_iff]
  constructor
  · exact fun hcut => ⟨i, t, ht, rfl, hcut⟩
  · rintro ⟨k, v, hv, heq, hcut⟩
    have hik := h.lt_iff ht hv
    have hki := h.lt_iff hv ht
    obtain rfl : i = k := by omega
    exact hcut

theorem not_contains_of_mem_cuts (h : InOrder text tokens) (hp : p ∈ cuts 0 tokens)
    (he : e ∈ extents text tokens) : ¬e.Contains p := by
  obtain ⟨f, hf, -, rfl⟩ := mem_extents_iff.mp he
  obtain ⟨-, hle, hstop⟩ := bounds_extentsBetween h.between f hf
  obtain ⟨-, ⟨hlow, -, hhigh⟩, -⟩ := Extent.trimmed_spec hle hstop
  rintro ⟨hstart, hend⟩
  exact not_contains_cut h.between hp f hf
    ⟨Nat.le_trans hlow hstart, Nat.lt_of_lt_of_le hend hhigh⟩

/-- Two characters that are no blanks are in one statement if there is a token from the
one to the other, and no cut. -/
theorem exists_extents (h : InOrder text tokens) (hp : text[p]? = some c)
    (hc : isBlank c = false) (hq : text[q]? = some d) (hd : isBlank d = false) (hpq : p ≤ q)
    (htoken : ∃ t ∈ tokens, p ≤ t.start ∧ t.start ≤ q)
    (hcuts : ∀ x ∈ cuts 0 tokens, ¬(p ≤ x ∧ x ≤ q)) :
    ∃ e ∈ extents text tokens, e.Contains p ∧ e.Contains q := by
  have hlength : q < text.length := (List.getElem?_eq_some_iff.mp hq).1
  obtain ⟨f, hf, hfp, hfq⟩ :=
    exists_extentsBetween h.between (Nat.zero_le p) hpq hlength hcuts
  obtain ⟨-, hle, hstop⟩ := bounds_extentsBetween h.between f hf
  obtain ⟨-, -, hkept⟩ := Extent.trimmed_spec hle hstop
  obtain ⟨t, ht, hpt, htq⟩ := htoken
  have hholds : f.holds tokens = true := by
    refine List.any_eq_true.mpr ⟨t, ht, decide_eq_true ?_⟩
    exact ⟨Nat.le_trans hfp.1 hpt, Nat.lt_of_le_of_lt htq hfq.2⟩
  exact ⟨f.trimmed text, mem_extents_iff.mpr ⟨f, hf, hholds, rfl⟩, hkept p c hp hc hfp,
    hkept q d hq hd hfq⟩

/-- Two tokens are in one statement if there is no cut from the one to the other. -/
theorem exists_extents_of_tokens (h : InOrder text tokens) (hij : i ≤ j)
    (ht : tokens[i]? = some t) (hu : tokens[j]? = some u)
    (hcuts : ∀ k, i ≤ k → k ≤ j → ¬IsCut tokens k) :
    ∃ e ∈ extents text tokens, e.Contains t.start ∧ e.Contains u.start := by
  have htmem : t ∈ tokens := List.mem_of_getElem? ht
  obtain ⟨c, hc, hcblank⟩ := h.visible t htmem
  obtain ⟨d, hd, hdblank⟩ := h.visible u (List.mem_of_getElem? hu)
  have hji := h.lt_iff hu ht
  refine h.exists_extents hc hcblank hd hdblank (by omega) ⟨t, htmem, Nat.le_refl _, by omega⟩ ?_
  rintro x hx ⟨hlow, hhigh⟩
  obtain ⟨k, v, hv, rfl, hcut⟩ := mem_cuts_zero_iff.mp hx
  have hki := h.lt_iff hv ht
  have hjk := h.lt_iff hu hv
  exact hcuts k (by omega) (by omega) hcut

/-- The statements stand one behind the other. -/
theorem pairwise_extents (h : InOrder text tokens) :
    (extents text tokens).Pairwise Extent.Before := by
  refine List.pairwise_map.mpr (List.Pairwise.filter _ ?_)
  refine (pairwise_extentsBetween h.between).imp_of_mem fun {e f} he hf hbefore => ?_
  obtain ⟨-, hele, hestop⟩ := bounds_extentsBetween h.between e he
  obtain ⟨-, hfle, hfstop⟩ := bounds_extentsBetween h.between f hf
  obtain ⟨-, ⟨-, -, hend⟩, -⟩ := Extent.trimmed_spec hele hestop
  obtain ⟨-, ⟨hstart, -, -⟩, -⟩ := Extent.trimmed_spec hfle hfstop
  exact Nat.lt_of_le_of_lt hend (Nat.lt_of_lt_of_le hbefore hstart)

/-- **The extents split the text as its tokens ask for.** -/
theorem splits (h : InOrder text tokens) : Splits text tokens (extents text tokens) where
  before := h.pairwise_extents
  inside e he := by
    obtain ⟨f, hf, hholds, rfl⟩ := mem_extents_iff.mp he
    obtain ⟨-, hle, hstop⟩ := bounds_extentsBetween h.between f hf
    obtain ⟨-, ⟨-, -, hend⟩, hkept⟩ := Extent.trimmed_spec hle hstop
    obtain ⟨t, ht, hin⟩ := List.any_eq_true.mp hholds
    obtain ⟨c, hc, hblank⟩ := h.visible t ht
    obtain ⟨hlow, hhigh⟩ := hkept t.start c hc hblank (of_decide_eq_true hin)
    omega
  trimmed e he c hc := by
    obtain ⟨f, hf, -, rfl⟩ := mem_extents_iff.mp he
    obtain ⟨-, hle, hstop⟩ := bounds_extentsBetween h.between f hf
    rw [(Extent.trimmed_spec hle hstop).1] at hc
    rcases List.mem_append.mp hc with hc | hc
    · exact isBlank_of_mem_head?_trimChars (Option.mem_toList.mp hc)
    · exact isBlank_of_mem_getLast?_trimChars (Option.mem_toList.mp hc)
  occupied e he := by
    obtain ⟨f, hf, hholds, rfl⟩ := mem_extents_iff.mp he
    obtain ⟨-, hle, hstop⟩ := bounds_extentsBetween h.between f hf
    obtain ⟨t, ht, hin⟩ := List.any_eq_true.mp hholds
    obtain ⟨c, hc, hblank⟩ := h.visible t ht
    exact ⟨t, ht, (Extent.trimmed_spec hle hstop).2.2 t.start c hc hblank (of_decide_eq_true hin)⟩
  held i t ht hcut := by
    obtain ⟨e, he, hin, -⟩ := h.exists_extents_of_tokens (Nat.le_refl i) ht ht fun k hik hki => by
      obtain rfl : k = i := Nat.le_antisymm hki hik
      exact hcut
    exact ⟨e, ⟨he, hin⟩, fun f ⟨hf, hfin⟩ => Extent.eq_of_contains h.pairwise_extents hf he hfin hin⟩
  cut i t ht hcut e he := h.not_contains_of_mem_cuts ((h.isCut_iff ht).mp hcut) he
  together i j t u hij ht hu hi hj := by
    constructor
    · rintro ⟨e, he, ⟨hlow, -⟩, -, hhigh⟩ k hik hkj hcut
      obtain ⟨v, hv, -⟩ := hcut.1
      have htv := h.start_lt ht hv hik
      have hvu := h.start_lt hv hu hkj
      exact h.not_contains_of_mem_cuts ((h.isCut_iff hv).mp hcut) he ⟨by omega, by omega⟩
    · intro hcuts
      refine h.exists_extents_of_tokens hij ht hu fun k hik hkj => ?_
      rcases Nat.eq_or_lt_of_le hik with rfl | hik
      · exact hi
      · rcases Nat.eq_or_lt_of_le hkj with rfl | hkj
        · exact hj
        · exact hcuts k hik hkj
  block i j t u hij ht hu hopens hdepth := by
    refine h.exists_extents_of_tokens hij ht hu fun k hik hkj hcut => ?_
    rcases Nat.eq_or_lt_of_le hik with rfl | hik
    · obtain ⟨v, hv, hkind⟩ := hcut.1
      simp [opensAt, hv, hkind] at hopens
    · have hpositive := hdepth k hik hkj
      rw [hcut.2] at hpositive
      exact Nat.lt_irrefl 0 hpositive
  leftOut p c hp hc hnone := by
    by_cases hpcut : p ∈ cuts 0 tokens
    · exact .inl (mem_cuts_zero_iff.mp hpcut)
    · refine .inr fun j u hu hj => ?_
      have humem : u ∈ tokens := List.mem_of_getElem? hu
      have hucut : u.start ∉ cuts 0 tokens := fun hmem => hj ((h.isCut_iff hu).mpr hmem)
      obtain ⟨d, hd, hblank⟩ := h.visible u humem
      by_contra hapart
      have hfree : ∀ x ∈ cuts 0 tokens, ¬(p < x ∧ x < u.start ∨ u.start < x ∧ x < p) := by
        rintro x hx hbetween
        obtain ⟨k, v, hv, rfl, hcut⟩ := mem_cuts_zero_iff.mp hx
        exact hapart ⟨k, v, hv, hcut, hbetween⟩
      have hne : ∀ x ∈ cuts 0 tokens, x ≠ p ∧ x ≠ u.start := by
        intro x hx
        constructor
        · rintro rfl
          exact hpcut hx
        · rintro rfl
          exact hucut hx
      rcases Nat.le_total p u.start with hle | hle
      · obtain ⟨e, he, hin, -⟩ := h.exists_extents hp hc hd hblank hle ⟨u, humem, hle, Nat.le_refl _⟩
          fun x hx hxin => by
            have hx0 := hne x hx
            have hx1 := hfree x hx
            omega
        exact hnone e he hin
      · obtain ⟨e, he, -, hin⟩ := h.exists_extents hd hblank hp hc hle ⟨u, humem, Nat.le_refl _, hle⟩
          fun x hx hxin => by
            have hx0 := hne x hx
            have hx1 := hfree x hx
            omega
        exact hnone e he hin

end InOrder

/-- **How a script is split.** The statements of a row of segments are cut out of its
text at the places of its tokens. And whatever the text and the tokens, as long as
these are in order: the statements are pieces of the text which no blank begins or
ends, one behind the other; two tokens are in the same one exactly if no semicolon
outside of blocks is between them, so no block is cut; and nothing is left out but
blanks, the semicolons that cut, and what has no token. -/
theorem cutAt_splits :
    (∀ ss, cutStatements ss = cutAt (textOf ss) 0 false 0 (placedFrom 0 ss)) ∧
      ∀ text tokens, InOrder text tokens →
        ∃ es : List Extent, cutAt text 0 false 0 tokens = es.map (Extent.chars text) ∧
          Splits text tokens es :=
  ⟨fun ss => cutFrom_eq_cutAt ss [] [] false 0 0 (Nat.le_refl 0) rfl,
    fun text tokens h => ⟨extents text tokens, cutAt_eq_map h, h.splits⟩⟩

/-- An `END` without a block, a block with a semicolon in it, and a comment without a
token. -/
theorem cutAt_splits_block :
    let text := "END; BEGIN a; END; /* */;".toList
    let word := fun kind (s : String) start =>
      Placed.mk ⟨kind, s.toList, s.toList⟩ start (start + s.length)
    let tokens := [word .endWord "END" 0, word .semicolon ";" 3, word .beginWord "BEGIN" 5,
      word .other "a" 11, word .semicolon ";" 12, word .endWord "END" 14, word .semicolon ";" 17,
      word .semicolon ";" 24]
    InOrder text tokens ∧ ∃ es : List Extent,
      es.map (Extent.chars text) = ["END".toList, "BEGIN a; END".toList] ∧
        Splits text tokens es := by
  intro text word tokens
  have horder : InOrder text tokens := by
    refine ⟨by decide, fun t ht => ?_, by decide⟩
    simp only [tokens, List.mem_cons, List.not_mem_nil, or_false] at ht
    rcases ht with rfl | rfl | rfl | rfl | rfl | rfl | rfl | rfl <;> exact ⟨_, rfl, by decide⟩
  obtain ⟨es, hes, hsplits⟩ := cutAt_splits.2 text tokens horder
  have hcut : cutAt text 0 false 0 tokens = ["END".toList, "BEGIN a; END".toList] := by decide
  exact ⟨horder, es, hes.symm.trans hcut, hsplits⟩

end Sql
end TableGate

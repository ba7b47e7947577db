/-
# Statements in a script

A script that consists of statements, each with a semicolon behind it and a blank
before it, is cut into these statements if each of them, by itself, is cut off by its
semicolon and by nothing before (`statements_script`). The semicolon may be part of a
comment at the end of the statement, or stand inside a block that is still open; then
the next statement is glued on. So the condition cannot be weakened: if the script is
cut into its statements, then each of them is cut off by its semicolon
(`isStatement_of_script`).

For the second part the characters that are no blanks are counted. Each cut takes one
away, and each statement but the last needs a cut. So if as many statements come out
as went in, nothing is lost but a semicolon for each of them.

Blanks and comments before a statement are part of it and change nothing
(`isStatement_append_iff`).

Key definitions: `openBlocks`, `IsStatement`, `statements`, `script`, `IsGap`.
Key theorems: `IsStatement.cut`, `statements_script`, `isStatement_of_script`,
`statements_script_iff`, `isStatement_append_iff`, `isStatement_iff_splitScript`.
-/
import TableGate.Proofs.Sql.Semicolon
import TableGate.Proofs.Text.Cut

namespace TableGate
namespace Sql

variable {l : Lexicon} {x y t : List Char} {ss back : List Segment}

/-! ### Cutting -/

/-- The row of segments holds a token. -/
def holdsToken (ss : List Segment) : Bool := ss.any fun s => s.kind?.isSome

/-- The number of open blocks behind a row of segments, unless it is cut before its
end. -/
def openBlocks (depth : Nat) : List Segment → Option Nat
  | [] => some depth
  | .gap _ :: rest => openBlocks depth rest
  | .token t :: rest =>
    if t.kind = .semicolon ∧ depth = 0 then none else openBlocks (depthAfter depth t rest) rest

/-- A semicolon opens no block, and neither does what stands directly before it. -/
theorem opensBlock_append_semicolon (t : Token) (ss back : List Segment) :
    opensBlock t (ss ++ semicolon :: back) = opensBlock t ss := by
  have hfirst : ∀ ss, firstToken? (ss ++ semicolon :: back) =
      some ((firstToken? ss).getD ⟨.semicolon, [';'], [';']⟩) := by
    intro ss
    induction ss with
    | nil => rfl
    | cons s ss ih =>
      cases s with
      | gap text => exact ih
      | token t => rfl
  unfold opensBlock
  rw [hfirst]
  cases firstToken? ss <;> rfl

theorem cutFrom_of_openBlocks : ∀ {ss : List Segment} {chunk : List (List Char)}
    {hasToken : Bool} {depth n : Nat}, openBlocks depth ss = some n →
      cutFrom chunk hasToken depth ss =
        statementOf (hasToken || holdsToken ss) ((ss.map Segment.text).reverse ++ chunk)
  | [], chunk, hasToken, depth, n, _ => by simp [cutFrom, holdsToken]
  | .gap text :: ss, chunk, hasToken, depth, n, h => by
    have hrest : openBlocks depth ss = some n := h
    rw [cutFrom, cutFrom_of_openBlocks hrest]
    simp [holdsToken, Segment.kind?, Segment.text]
  | .token t :: ss, chunk, hasToken, depth, n, h => by
    rw [openBlocks] at h
    split at h
    · cases h
    · rename_i hcut
      rw [cutFrom, if_neg hcut, cutFrom_of_openBlocks h]
      simp [holdsToken, Segment.kind?, Segment.text]

theorem depthAfter_append_semicolon (depth : Nat) (t : Token) (ss back : List Segment) :
    depthAfter depth t (ss ++ semicolon :: back) = depthAfter depth t ss := by
  rw [depthAfter, depthAfter, opensBlock_append_semicolon]

theorem cutFrom_append_semicolon : ∀ {ss : List Segment} {chunk : List (List Char)}
    {hasToken : Bool} {depth : Nat}, openBlocks depth ss = some 0 → ∀ back,
      cutFrom chunk hasToken depth (ss ++ semicolon :: back) =
        statementOf (hasToken || holdsToken ss) ((ss.map Segment.text).reverse ++ chunk) ++
          cutFrom [] false 0 back
  | [], chunk, hasToken, depth, h, back => by
    obtain rfl := Option.some.inj h
    rw [List.nil_append, semicolon, cutFrom, if_pos ⟨rfl, rfl⟩]
    simp [holdsToken]
  | .gap text :: ss, chunk, hasToken, depth, h, back => by
    have hrest : openBlocks depth ss = some 0 := h
    rw [List.cons_append, cutFrom, cutFrom_append_semicolon hrest]
    simp [holdsToken, Segment.kind?, Segment.text]
  | .token t :: ss, chunk, hasToken, depth, h, back => by
    rw [openBlocks] at h
    split at h
    · cases h
    · rename_i hcut
      rw [List.cons_append, cutFrom, if_neg hcut, depthAfter_append_semicolon,
        cutFrom_append_semicolon h]
      simp [holdsToken, Segment.kind?, Segment.text]

/-- A row of segments is one chunk, or is cut at its first semicolon with no block
open before it. -/
theorem openBlocks_cases : ∀ {ss : List Segment} (depth : Nat),
    (∀ s ∈ ss, s.kind? = some .semicolon → s = semicolon) →
      (∃ n, openBlocks depth ss = some n) ∨
        ∃ front back, ss = front ++ semicolon :: back ∧ openBlocks depth front = some 0
  | [], depth, _ => .inl ⟨depth, rfl⟩
  | .gap text :: ss, depth, h => by
    rcases openBlocks_cases depth fun s hs => h s (List.mem_cons_of_mem _ hs) with
      hwhole | ⟨front, back, rfl, hfront⟩
    · exact .inl hwhole
    · exact .inr ⟨.gap text :: front, back, rfl, hfront⟩
  | .token t :: ss, depth, h => by
    by_cases hcut : t.kind = .semicolon ∧ depth = 0
    · have hs : Segment.token t = semicolon :=
        h _ List.mem_cons_self (congrArg some hcut.1)
      exact .inr ⟨[], ss, by rw [hs]; rfl, by rw [openBlocks, hcut.2]⟩
    · rcases openBlocks_cases (depthAfter depth t ss) fun s hs => h s (List.mem_cons_of_mem _ hs)
        with ⟨n, hn⟩ | ⟨front, back, hss, hfront⟩
      · exact .inl ⟨n, by rw [openBlocks, if_neg hcut, hn]⟩
      · refine .inr ⟨.token t :: front, back, by rw [hss]; rfl, ?_⟩
        rw [hss, depthAfter_append_semicolon] at hfront
        rw [openBlocks, if_neg hcut, hfront]

/-! ### Statements -/

/-- The statements of a script after a token of the kind `before`. -/
def statements (l : Lexicon) (before : Option TokenKind) (cs : List Char) :
    Except Fault (List (List Char)) := cutStatements <$> segmentsAfter l before cs

/-- With a semicolon behind it, the text is cut off there and nowhere before. -/
def IsStatement (l : Lexicon) (x : List Char) : Prop :=
  ∃ ss, segmentsAfter l none (x ++ [';']) = .ok (ss ++ [semicolon]) ∧
    openBlocks 0 ss = some 0 ∧ holdsToken ss = true

/-- A script goes on behind a semicolon as it starts. -/
theorem segmentsAfter_semicolon (hl : l.IsProper) : ∀ cs : List Char,
    segmentsAfter l (some .semicolon) cs = segmentsAfter l none cs
  | [] => rfl
  | c :: cs => by
    rw [segmentsAfter_cons hl, segmentsAfter_cons hl, readFront, readFront]
    change (readSegment l false c cs >>= _) >>= _ = (readSegment l false c cs >>= _) >>= _
    cases hs : readSegment l false c cs with
    | error e => rfl
    | ok r =>
      obtain ⟨s, rest⟩ := r
      have hlength := length_le_of_readSegment hl hs
      cases s with
      | gap text =>
        change ([.gap text] ++ ·) <$> segmentsAfter l (some .semicolon) rest =
          ([.gap text] ++ ·) <$> segmentsAfter l none rest
        rw [segmentsAfter_semicolon hl rest]
      | token t => rfl
termination_by cs => cs.length
decreasing_by exact Nat.lt_succ_of_le hlength

theorem exists_solid_of_holdsToken (hl : l.IsProper) {before after : Option TokenKind}
    {cs rest : List Char} (h : Reads l before cs ss after rest) (hss : holdsToken ss = true) :
    ∃ c ∈ textOf ss, Text.isBlank c = false := by
  have htoken : ∀ {afterMark : Bool} {c : Char} {cs : List Char} {t : Token} {rest : List Char},
      readSegment l afterMark c cs = .ok (.token t, rest) →
      ∃ c ∈ t.text, Text.isBlank c = false := by
    intro afterMark c cs t rest hs
    obtain ⟨happend, hne, -⟩ := append_of_readSegment hl hs
    refine ⟨c, ?_, ?_⟩
    · obtain ⟨c', text, htext⟩ := List.exists_cons_of_ne_nil hne
      rw [htext] at happend
      obtain ⟨rfl, -⟩ := List.cons.inj happend
      have hmem : c' ∈ (Segment.token t).text := by rw [htext]; exact List.mem_cons_self
      exact hmem
    · by_contra hblank
      rw [readSegment, if_pos (by simpa using hblank)] at hs
      cases (Prod.mk.inj (Except.ok.inj hs)).1
  induction h with
  | done => cases hss
  | @front before middle after c cs rest rest' front ss hfront hreads ih =>
    rw [textOf, List.flatMap_append]
    rcases readFront_cases hfront with ⟨s, hs, rfl, -⟩ | ⟨t, rest₁, body, ht, -, -, hfront⟩
    · cases s with
      | gap text =>
        obtain ⟨c, hc, hblank⟩ := ih hss
        exact ⟨c, List.mem_append_right _ hc, hblank⟩
      | token t =>
        obtain ⟨c, hc, hblank⟩ := htoken hs
        refine ⟨c, List.mem_append_left _ ?_, hblank⟩
        simpa [Segment.text] using hc
    · obtain ⟨c, hc, hblank⟩ := htoken ht
      refine ⟨c, List.mem_append_left _ ?_, hblank⟩
      split at hfront <;> simp [hfront.1, Segment.text, hc]

theorem statementOf_texts (hasToken : Bool) (ss : List Segment) :
    statementOf hasToken (ss.map Segment.text).reverse = statementOf hasToken [textOf ss] := by
  simp [statementOf, textOf, List.flatMap_def]

theorem statementOf_of_holdsToken (hl : l.IsProper) {before after : Option TokenKind}
    {cs rest : List Char} (h : Reads l before cs ss after rest) (hss : holdsToken ss = true) :
    statementOf (holdsToken ss) [textOf ss] = [Text.trimChars (textOf ss)] := by
  obtain ⟨c, hc, hblank⟩ := exists_solid_of_holdsToken hl h hss
  have hne := Text.trimChars_ne_nil hc hblank
  simp [statementOf, hss, hne]

/-- What stands before the first cut is a statement, if it holds a token, and the rest
of the script is cut as if it stood alone. -/
theorem statements_of_reads (hl : l.IsProper) {cs rest : List Char} {after : Option TokenKind}
    (h : Reads l none cs ss after (';' :: rest)) (hopen : openBlocks 0 ss = some 0) :
    statements l none cs =
      (statementOf (holdsToken ss) [textOf ss] ++ ·) <$> statements l none rest := by
  rw [statements, statements, h.segmentsAfter_eq hl, segmentsAfter_cons hl,
    readFront_semicolon hl]
  change cutStatements <$> (ss ++ ·) <$> ([semicolon] ++ ·) <$>
    segmentsAfter l (some .semicolon) rest = _
  rw [segmentsAfter_semicolon hl]
  cases segmentsAfter l none rest with
  | error e => rfl
  | ok back =>
    refine congrArg Except.ok ?_
    rw [← statementOf_texts]
    change cutFrom [] false 0 (ss ++ semicolon :: back) = _
    rw [cutFrom_append_semicolon hopen, List.append_nil, Bool.false_or]
    rfl

theorem eq_nil_of_segmentsAfter (hl : l.IsProper) {before : Option TokenKind} {cs : List Char}
    (h : segmentsAfter l before cs = .ok []) : cs = [] := by
  obtain ⟨after, hreads⟩ := reads_of_segmentsAfter hl h
  exact (hreads.textOf_append hl).symm

theorem isStatement_iff_reads (hl : l.IsProper) :
    IsStatement l x ↔ ∃ ss after, Reads l none (x ++ [';']) ss after [';'] ∧
      openBlocks 0 ss = some 0 ∧ holdsToken ss = true := by
  constructor
  · rintro ⟨ss, hss, hopen, htoken⟩
    obtain ⟨after, rest, hreads, -, hrest⟩ := reads_of_append_semicolon hl (s := semicolon) rfl hss
    obtain rfl := eq_nil_of_segmentsAfter hl hrest
    exact ⟨ss, after, hreads, hopen, htoken⟩
  · rintro ⟨ss, after, hreads, hopen, htoken⟩
    refine ⟨ss, ?_, hopen, htoken⟩
    rw [hreads.segmentsAfter_eq hl, segmentsAfter_cons hl, readFront_semicolon hl]
    rfl

theorem textOf_eq (hl : l.IsProper) {before after : Option TokenKind}
    (h : Reads l before (x ++ ';' :: t) ss after (';' :: t)) : textOf ss = x :=
  List.append_cancel_right (h.textOf_append hl)

/-- **A statement is cut off by the semicolon behind it**, whatever follows. -/
theorem IsStatement.cut (hl : l.IsProper) (h : IsStatement l x) (ht : IsTail t) :
    statements l none (x ++ ';' :: t) = (Text.trimChars x :: ·) <$> statements l none t := by
  obtain ⟨ss, after, hreads, hopen, htoken⟩ := (isStatement_iff_reads hl).mp h
  have hread : Reads l none (x ++ ';' :: t) ss after (';' :: t) :=
    hreads.carry hl (by simp [EndsBlank]) ht
  rw [statements_of_reads hl hread hopen, statementOf_of_holdsToken hl hread htoken,
    textOf_eq hl hread]
  rfl

/-! ### Scripts of statements -/

/-- Statements with a semicolon behind each, and a line end. -/
def script (xs : List (List Char)) : List Char := xs.flatMap (· ++ [';']) ++ ['\n']

theorem script_cons (x : List Char) (xs : List (List Char)) :
    script (x :: xs) = x ++ ';' :: script xs := by simp [script]

/-- The text begins with a blank. -/
def StartsBlank (x : List Char) : Prop := ∃ c ∈ x.head?, Text.isBlank c = true

theorem isTail_script {xs : List (List Char)} (h : ∀ x ∈ xs.head?, StartsBlank x) :
    IsTail (script xs) := by
  refine ⟨?_, ?_⟩
  · cases xs with
    | nil => simp [script, show Text.isBlank '\n' = true by decide]
    | cons x xs =>
      obtain ⟨c, hc, hblank⟩ := h x rfl
      rw [script_cons]
      intro c' hc'
      rw [List.head?_append, hc] at hc'
      obtain rfl := Option.some.inj hc'
      exact hblank
  · intro c hc
    rw [script, List.getLast?_append] at hc
    obtain rfl := Option.some.inj hc
    decide

/-- **A script of statements is cut into them.** -/
theorem statements_script (hl : l.IsProper) : ∀ {xs : List (List Char)},
    (∀ x ∈ xs, IsStatement l x) → (∀ x ∈ xs.tail, StartsBlank x) →
      statements l none (script xs) = .ok (xs.map Text.trimChars)
  | [], _, _ => by
    rw [statements, script, List.flatMap_nil, List.nil_append, segmentsAfter_cons hl]
    rfl
  | x :: xs, h, hblank => by
    have htail : IsTail (script xs) :=
      isTail_script fun x hx => hblank x (List.mem_of_mem_head? hx)
    have hrest : statements l none (script xs) = .ok (xs.map Text.trimChars) :=
      statements_script hl (fun x hx => h x (List.mem_cons_of_mem _ hx))
        fun x hx => hblank x (List.mem_of_mem_tail hx)
    rw [script_cons, (h x List.mem_cons_self).cut hl htail, hrest]
    rfl

/-! ### Scripts that are cut into what they were made of -/

/-- A script is one chunk, or is cut at a semicolon into a chunk and a rest. -/
theorem statements_cases (hl : l.IsProper) {cs : List Char} {outs : List (List Char)}
    (h : statements l none cs = .ok outs) :
    (∃ ss, outs = statementOf (holdsToken ss) [cs]) ∨
      ∃ ss after rest outs', Reads l none cs ss after (';' :: rest) ∧ openBlocks 0 ss = some 0 ∧
        statements l none rest = .ok outs' ∧
        outs = statementOf (holdsToken ss) [textOf ss] ++ outs' := by
  obtain ⟨ss, hss, rfl⟩ := Results.map_eq_ok_iff.mp h
  obtain ⟨after, hreads⟩ := reads_of_segmentsAfter hl hss
  have hsemicolons : ∀ s ∈ ss, s.kind? = some .semicolon → s = semicolon := by
    intro s hs hkind
    obtain ⟨front, back, rfl⟩ := List.append_of_mem hs
    obtain ⟨-, -, -, heq, -⟩ := reads_of_append_semicolon hl hkind hss
    exact heq
  rcases openBlocks_cases 0 hsemicolons with ⟨n, hn⟩ | ⟨front, back, rfl, hfront⟩
  · refine .inl ⟨ss, ?_⟩
    rw [cutStatements, cutFrom_of_openBlocks hn, List.append_nil, Bool.false_or, statementOf_texts,
      ← List.append_nil (textOf ss), hreads.textOf_append hl]
  · obtain ⟨middle, rest, hfrontReads, -, hback⟩ :=
      reads_of_append_semicolon hl (s := semicolon) rfl hss
    refine .inr ⟨front, middle, rest, cutStatements back, hfrontReads, hfront, ?_, ?_⟩
    · rw [statements, ← segmentsAfter_semicolon hl, hback]
      rfl
    · rw [cutStatements, cutFrom_append_semicolon hfront, List.append_nil, Bool.false_or,
        statementOf_texts]
      rfl

/-- Each statement but the last needs a semicolon, and its other characters that are
no blanks come from the script. -/
theorem solid_statements (hl : l.IsProper) {cs : List Char} {outs : List (List Char)}
    (h : statements l none cs = .ok outs) :
    Text.solid outs.flatten + outs.length ≤ Text.solid cs + 1 := by
  have hone : ∀ b x, Text.solid (statementOf b [x]).flatten + (statementOf b [x]).length ≤
      Text.solid x + 1 := by
    intro b x
    have htext : [x].reverse.flatten = x := by simp
    rw [statementOf, htext]
    split
    · simp [Text.solid_trimChars]
    · simp [Text.solid]
  rcases statements_cases hl h with ⟨ss, rfl⟩ | ⟨ss, after, rest, outs', hreads, -, hrest, rfl⟩
  · exact hone _ _
  · have htext := hreads.textOf_append hl
    have hlength : rest.length < cs.length := by simp [← htext]; omega
    have hcount := solid_statements hl hrest
    have hfirst := hone (holdsToken ss) (textOf ss)
    rw [← htext, Text.solid_append, Text.solid_cons isBlank_semicolon]
    rw [List.flatten_append, Text.solid_append, List.length_append]
    omega
termination_by cs.length

theorem cutFrom_of_isBlank {blanks : List Char} (hblanks : ∀ c ∈ blanks, Text.isBlank c = true) :
    ∀ (ss : List Segment) (chunk : List (List Char)) {hasToken : Bool} {depth : Nat},
      cutFrom (chunk ++ [blanks]) hasToken depth ss = cutFrom chunk hasToken depth ss := by
  have hstatement : ∀ hasToken chunk,
      statementOf hasToken (chunk ++ [blanks]) = statementOf hasToken chunk := by
    intro hasToken chunk
    have htext : (chunk ++ [blanks]).reverse.flatten = blanks ++ chunk.reverse.flatten := by simp
    rw [statementOf, statementOf, htext, Text.trimChars_append hblanks]
  intro ss
  induction ss with
  | nil =>
    intro chunk hasToken depth
    exact hstatement hasToken chunk
  | cons s ss ih =>
    intro chunk hasToken depth
    cases s with
    | gap text => exact ih (text :: chunk)
    | token t =>
      rw [cutFrom, cutFrom, hstatement, ← List.cons_append, ih]

theorem statements_of_isBlank (hl : l.IsProper) {c : Char} (hc : Text.isBlank c = true)
    (cs : List Char) : statements l none (c :: cs) = statements l none cs := by
  have hfront : readFront l none c cs = .ok ([.gap [c]], none, cs) := by
    rw [readFront, readSegment, if_pos hc]
    rfl
  rw [statements, statements, segmentsAfter_cons hl, hfront]
  change cutStatements <$> ([.gap [c]] ++ ·) <$> segmentsAfter l none cs = _
  cases segmentsAfter l none cs with
  | error e => rfl
  | ok ss =>
    refine congrArg Except.ok ?_
    exact cutFrom_of_isBlank (by simpa using hc) ss []

theorem statements_semicolon (hl : l.IsProper) (cs : List Char) :
    statements l none (';' :: cs) = statements l none cs := by
  rw [statements_of_reads hl .done rfl]
  cases statements l none cs <;> rfl

/-- The first statement begins with a character that is no semicolon. -/
theorem head_of_statements (hl : l.IsProper) : ∀ {cs o : List Char} {os : List (List Char)},
    statements l none cs = .ok (o :: os) → ∃ c o', o = c :: o' ∧ c ≠ ';'
  | [], o, os, h => by
    rw [statements, segmentsAfter_nil] at h
    cases h
  | c :: cs, o, os, h => by
    by_cases hc : Text.isBlank c = true
    · rw [statements_of_isBlank hl hc] at h
      exact head_of_statements hl h
    by_cases hsemicolon : c = ';'
    · rw [hsemicolon, statements_semicolon hl] at h
      exact head_of_statements hl h
    -- A chunk that begins with another character gives a statement that begins with it.
    have hkept : ∀ b x o os, statementOf b [c :: x] = o :: os → ∃ c o', o = c :: o' ∧ c ≠ ';' := by
      intro b x o os ho
      obtain ⟨x', hx'⟩ := Text.trimChars_cons (Bool.eq_false_iff.mpr hc) x
      have htext : [c :: x].reverse.flatten = c :: x := by simp
      rw [statementOf, htext, hx'] at ho
      split at ho
      · exact ⟨c, x', (List.cons.inj ho).1.symm, hsemicolon⟩
      · cases ho
    rcases statements_cases hl h with ⟨ss, hss⟩ | ⟨ss, after, rest, os', hreads, -, hrest, hos⟩
    · exact hkept _ _ _ _ hss.symm
    · have happend := hreads.textOf_append hl
      have hlength : rest.length < cs.length + 1 := by
        rw [← List.length_cons (a := c), ← happend]
        simp
        omega
      cases htext : textOf ss with
      | nil =>
        rw [htext] at happend
        exact absurd (List.cons.inj happend).1.symm hsemicolon
      | cons c' x =>
        rw [htext] at happend
        obtain rfl : c' = c := (List.cons.inj happend).1
        rw [htext] at hos
        cases hchunk : statementOf (holdsToken ss) [c' :: x] with
        | nil =>
          rw [hchunk, List.nil_append] at hos
          subst hos
          exact head_of_statements hl hrest
        | cons o₁ os₁ =>
          rw [hchunk, List.cons_append] at hos
          obtain ⟨rfl, -⟩ := List.cons.inj hos
          exact hkept _ _ _ _ hchunk
termination_by cs => cs.length

theorem statementOf_cases (b : Bool) (x : List Char) :
    statementOf b [x] = [] ∨ statementOf b [x] = [Text.trimChars x] ∧ b = true := by
  have htext : [x].reverse.flatten = x := by simp
  rw [statementOf, htext]
  cases b with
  | false => exact .inl rfl
  | true => split <;> simp

/-- Two semicolons of a script are the same, or one stands before the other. -/
theorem semicolon_cases {u : List Char} (h : x ++ ';' :: t = y ++ ';' :: u) :
    (x = y ∧ t = u) ∨ (∃ z, y = x ++ ';' :: z) ∨ ∃ z, x = y ++ ';' :: z := by
  rcases List.append_eq_append_iff.mp h with ⟨_ | ⟨c, z⟩, hy, ht⟩ | ⟨_ | ⟨c, z⟩, hx, hu⟩
  · exact .inl ⟨by rw [hy, List.append_nil], (List.cons.inj ht).2⟩
  · exact .inr (.inl ⟨z, by rw [hy, (List.cons.inj ht).1]⟩)
  · exact .inl ⟨by rw [hx, List.append_nil], (List.cons.inj hu).2.symm⟩
  · exact .inr (.inr ⟨z, by rw [hx, (List.cons.inj hu).1]⟩)

theorem solid_append_semicolon (x z : List Char) :
    Text.solid (x ++ ';' :: z) = Text.solid x + Text.solid z + 1 := by
  rw [Text.solid_append, Text.solid_cons isBlank_semicolon, Nat.add_assoc]

theorem solid_script (xs : List (List Char)) :
    Text.solid (script xs) = Text.solid (xs.map Text.trimChars).flatten + xs.length := by
  induction xs with
  | nil => decide
  | cons x xs ih =>
    rw [script_cons, solid_append_semicolon, ih, List.map_cons, List.flatten_cons,
      Text.solid_append, Text.solid_trimChars, List.length_cons]
    omega

/-- **A script that is cut into what it was made of was made of statements.** -/
theorem isStatement_of_script (hl : l.IsProper) : ∀ {xs : List (List Char)},
    (∀ x ∈ xs.tail, StartsBlank x) →
      statements l none (script xs) = .ok (xs.map Text.trimChars) → ∀ x ∈ xs, IsStatement l x
  | [], _, _ => by simp
  | x :: xs, hblank, h => by
    have htail : IsTail (script xs) :=
      isTail_script fun x hx => hblank x (List.mem_of_mem_head? hx)
    rw [script_cons] at h
    rcases statements_cases hl h with
      ⟨ss, hss⟩ | ⟨ss, after, rest, outs, hreads, hopen, hrest, hout⟩
    · -- Without a cut the statement holds the semicolon, which `x` does not.
      rcases statementOf_cases (holdsToken ss) (x ++ ';' :: script xs) with hnone | ⟨hone, -⟩
      · rw [hnone] at hss
        cases hss
      · rw [hone, List.map_cons] at hss
        have hsolid := congrArg Text.solid (List.cons.inj hss).1
        rw [Text.solid_trimChars, Text.solid_trimChars, solid_append_semicolon] at hsolid
        omega
    have happend := hreads.textOf_append hl
    rcases statementOf_cases (holdsToken ss) (textOf ss) with hdropped | ⟨hkept, htoken⟩
    · -- Nothing but blanks can be lost with the first chunk, so `x` would begin with a semicolon.
      rw [hdropped, List.nil_append] at hout
      subst hout
      have hcount := solid_statements hl hrest
      have hwhole := congrArg Text.solid happend
      rw [← script_cons, solid_script, solid_append_semicolon] at hwhole
      rw [List.length_map] at hcount
      have hblanks : ∀ c ∈ textOf ss, Text.isBlank c = true := Text.solid_eq_zero_iff.mp (by omega)
      obtain ⟨c, o, ho, hc⟩ := head_of_statements hl hrest
      exfalso
      rcases semicolon_cases happend with ⟨hx, -⟩ | ⟨z, hx⟩ | ⟨z, hx⟩
      · rw [← hx, ← List.append_nil (textOf ss), Text.trimChars_append hblanks] at ho
        cases ho
      · rw [hx, Text.trimChars_append hblanks] at ho
        obtain ⟨o', ho'⟩ := Text.trimChars_cons isBlank_semicolon z
        rw [ho'] at ho
        exact hc (List.cons.inj ho).1.symm
      · exact ne_semicolon_of_isBlank (hblanks ';' (by simp [hx])) rfl
    · rw [hkept, List.map_cons, List.singleton_append] at hout
      obtain ⟨hfirst, rfl⟩ := List.cons.inj hout
      have hsolid : Text.solid (textOf ss) = Text.solid x := by
        rw [← Text.solid_trimChars, ← hfirst, Text.solid_trimChars]
      obtain ⟨rfl, rfl⟩ : textOf ss = x ∧ rest = script xs := by
        rcases semicolon_cases happend with heq | ⟨z, hx⟩ | ⟨z, hx⟩
        · exact heq
        · rw [hx, solid_append_semicolon] at hsolid
          omega
        · rw [hx, solid_append_semicolon] at hsolid
          omega
      rintro x' hx'
      rcases List.mem_cons.mp hx' with rfl | hmem
      · exact (isStatement_iff_reads hl).mpr
          ⟨ss, after, hreads.carry hl htail.2 (by simp [IsTail, EndsBlank]), hopen, htoken⟩
      · exact isStatement_of_script hl (fun x hx => hblank x (List.mem_of_mem_tail hx)) hrest
          x' hmem

/-- **A script is cut into what it was made of exactly if it was made of statements.** -/
theorem statements_script_iff (hl : l.IsProper) {xs : List (List Char)}
    (hblank : ∀ x ∈ xs.tail, StartsBlank x) :
    statements l none (script xs) = .ok (xs.map Text.trimChars) ↔ ∀ x ∈ xs, IsStatement l x :=
  ⟨isStatement_of_script hl hblank, fun h => statements_script hl h hblank⟩

/-! ### Gaps before a statement -/

/-- The text is read as gaps, whatever follows. -/
def IsGap (l : Lexicon) (g : List Char) : Prop :=
  ∀ rest, ∃ gs, Reads l none (g ++ rest) gs none rest ∧ ∀ s ∈ gs, s.kind? = none

theorem isGap_nil (l : Lexicon) : IsGap l [] := fun _ => ⟨[], .done, by simp⟩

theorem IsGap.append {g g' : List Char} (h : IsGap l g) (h' : IsGap l g') :
    IsGap l (g ++ g') := by
  intro rest
  obtain ⟨gs, hreads, hgaps⟩ := h (g' ++ rest)
  obtain ⟨gs', hreads', hgaps'⟩ := h' rest
  refine ⟨gs ++ gs', ?_, fun s hs => (List.mem_append.mp hs).elim (hgaps s) (hgaps' s)⟩
  rw [List.append_assoc]
  exact hreads.append hreads'

theorem readFront_of_gap {before : Option TokenKind} {c : Char} {cs text rest : List Char}
    (h : readSegment l (before == some .parameter) c cs = .ok (.gap text, rest)) :
    readFront l before c cs = .ok ([.gap text], before, rest) := by
  rw [readFront, h]
  rfl

theorem isGap_of_isBlank {g : List Char} (h : ∀ c ∈ g, Text.isBlank c = true) : IsGap l g := by
  induction g with
  | nil => exact isGap_nil l
  | cons c g ih =>
    have hone : IsGap l [c] := by
      intro rest
      have hc : Text.isBlank c = true := h c List.mem_cons_self
      exact ⟨[.gap [c]], .single (readFront_of_gap (by rw [readSegment, if_pos hc]; rfl)), by
        simp [Segment.kind?]⟩
    exact hone.append (ih fun c' hc' => h c' (List.mem_cons_of_mem _ hc'))

theorem openBlocks_gaps {gs : List Segment} (hgaps : ∀ s ∈ gs, s.kind? = none) (depth : Nat)
    (ss : List Segment) : openBlocks depth (gs ++ ss) = openBlocks depth ss := by
  induction gs with
  | nil => rfl
  | cons s gs ih =>
    have hs := hgaps s List.mem_cons_self
    cases s with
    | gap text => exact ih fun s hs => hgaps s (List.mem_cons_of_mem _ hs)
    | token t => cases hs

theorem holdsToken_gaps {gs : List Segment} (hgaps : ∀ s ∈ gs, s.kind? = none)
    (ss : List Segment) : holdsToken (gs ++ ss) = holdsToken ss := by
  have hnone : holdsToken gs = false := by
    rw [holdsToken, List.any_eq_false]
    intro s hs
    simp [hgaps s hs]
  rw [holdsToken, List.any_append]
  change (holdsToken gs || holdsToken ss) = _
  rw [hnone, Bool.false_or]

theorem IsGap.statements_eq (hl : l.IsProper) {g : List Char} (hg : IsGap l g) :
    statements l none g = .ok [] := by
  obtain ⟨gs, hreads, hgaps⟩ := hg []
  have hopen : openBlocks 0 gs = some 0 := by
    rw [← List.append_nil gs, openBlocks_gaps hgaps]
    rfl
  have htoken : holdsToken gs = false := by
    rw [← List.append_nil gs, holdsToken_gaps hgaps]
    rfl
  have hread := hreads.segmentsAfter_eq hl
  rw [List.append_nil, segmentsAfter_nil] at hread
  rw [statements, hread]
  change Except.ok (cutFrom [] false 0 (gs ++ [])) = .ok []
  rw [List.append_nil, cutFrom_of_openBlocks hopen, htoken]
  rfl

/-- **Gaps before a statement are part of it.** -/
theorem isStatement_append_iff (hl : l.IsProper) {g : List Char} (hg : IsGap l g) :
    IsStatement l (g ++ x) ↔ IsStatement l x := by
  obtain ⟨gs, hreads, hgaps⟩ := hg (x ++ [';'])
  have hsegments : segmentsAfter l none ((g ++ x) ++ [';']) =
      (gs ++ ·) <$> segmentsAfter l none (x ++ [';']) := by
    rw [List.append_assoc, hreads.segmentsAfter_eq hl]
  constructor
  · rintro ⟨ss, hss, hopen, htoken⟩
    rw [hsegments] at hss
    obtain ⟨back, hback, happend⟩ := Results.map_eq_ok_iff.mp hss
    obtain ⟨ss', rfl, rfl⟩ : ∃ ss', ss = gs ++ ss' ∧ back = ss' ++ [semicolon] := by
      rcases List.append_eq_append_iff.mp happend with ⟨as, hss', hback'⟩ | ⟨_ | ⟨s, bs⟩, hgs, hs⟩
      · exact ⟨as, hss', hback'⟩
      · exact ⟨[], by rw [hgs, List.append_nil, List.append_nil], hs.symm⟩
      · have hmem : s ∈ gs := by simp [hgs]
        rw [← (List.cons.inj hs).1] at hmem
        cases hgaps _ hmem
    rw [openBlocks_gaps hgaps] at hopen
    rw [holdsToken_gaps hgaps] at htoken
    exact ⟨ss', hback, hopen, htoken⟩
  · rintro ⟨ss, hss, hopen, htoken⟩
    refine ⟨gs ++ ss, ?_, by rw [openBlocks_gaps hgaps, hopen],
      by rw [holdsToken_gaps hgaps, htoken]⟩
    rw [hsegments, hss, List.append_assoc]
    rfl

/-! ### Scripts as texts -/

theorem splitScript_eq (l : Lexicon) (s : String) :
    splitScript l s = List.map String.ofList <$> statements l none s.toList := by
  rw [splitScript, segments, statements, segmentsAfter]
  cases segmentsFrom l (s.toList.length + 1) none s.toList <;> rfl

theorem splitScript_eq_ok_iff {s : String} {outs : List (List Char)} :
    splitScript l s = .ok (outs.map String.ofList) ↔ statements l none s.toList = .ok outs := by
  rw [splitScript_eq, Results.map_eq_ok_iff]
  constructor
  · rintro ⟨outs', h, hmap⟩
    rw [h, List.map_injective_iff.mpr (fun _ _ h => String.ofList_injective h) hmap]
  · exact fun h => ⟨outs, h, rfl⟩

theorem lexiconOf_name (d : Dialect) : lexiconOf (some d.name) = .ok d.lexicon := by
  cases d <;> rfl

theorem splitStatements_eq (d : Dialect) (s : String) :
    splitStatements s (some d.name) = splitScript d.lexicon s := by
  rw [splitStatements, lexiconOf_name]
  rfl

/-- A text is a statement exactly if it is cut off by a semicolon behind it. -/
theorem isStatement_iff_splitScript (hl : l.IsProper) {s : String} :
    IsStatement l s.toList ↔ splitScript l (s ++ ";\n") = .ok [Text.trim s] := by
  have hscript : (s ++ ";\n").toList = script [s.toList] := by simp [script]
  have hiff : statements l none (script [s.toList]) = .ok [Text.trimChars s.toList] ↔ _ :=
    statements_script_iff hl (by simp)
  change _ ↔ splitScript l (s ++ ";\n") = .ok ([Text.trimChars s.toList].map String.ofList)
  rw [splitScript_eq_ok_iff, hscript, hiff, List.forall_mem_singleton]

end Sql
end TableGate

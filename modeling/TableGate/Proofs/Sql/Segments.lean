/-
# The segments of a script

A script is read segment by segment, and each segment takes at least one character
with it, so that what is read and what is left are together what there was to read
(`append_of_readSegment`, `Reads.append`). So the number of segments that a reader
may read does not matter as long as there are more of them than characters
(`segmentsFrom_cons`).

A row of segments is read if each is read in its turn, with all that follows it in
place (`Reads`): how a token is read may depend on what stands behind it. Rows that
are read one after the other are read together, and the rest of the script is read
on from there (`Reads.segmentsFrom`).

Key definitions: `Lexicon.IsProper`, `readFront`, `Reads`.
Key theorems: `append_of_readSegment`, `segmentsFrom_cons`, `Reads.append`,
`Reads.segmentsFrom`, `reads_of_segmentsFrom`.
-/
import TableGate.Proofs.Except
import TableGate.Sql.Script

namespace TableGate
namespace Sql

/-! ### Entries -/

/-- No entry is empty, the semicolon is part of none, and a tag is opened by a dollar
sign that may also be the mark of a parameter. -/
def Entry.isProper (key : String) (e : Entry) : Bool :=
  !key.isEmpty && !key.toList.contains ';' &&
    match e with
    | .quoted close _ | .comment (some close) => !close.isEmpty && !close.toList.contains ';'
    | .tag required => !required && key == "$"
    | .symbol kind => kind != .semicolon
    | .digits _ | .comment none => true

/-- A lexicon in which the semicolon stands for itself. -/
structure Lexicon.IsProper (l : Lexicon) : Prop where
  entries : ∀ e ∈ l.entries, e.2.isProper e.1 = true
  isPunctuation : l.isPunctuation ';' = true
  not_continuesWord : l.continuesWord ';' = false
  nameQuotes : ∀ p ∈ l.nameQuotes, p.1 ≠ ';' ∧ p.2 ≠ ';'
  parameterMarks : ';' ∉ l.parameterMarks
  escapes : l.escapes = ['\'']

theorem isProper_lexicon (d : Dialect) : d.lexicon.IsProper := by
  cases d <;> exact ⟨by decide +kernel, by decide, by decide, by decide, by decide, by decide⟩

variable {l : Lexicon} {cs rest : List Char} {s : Segment}

/-- The longer of a match and an entry, if the entry stands at the front. -/
def Lexicon.longer (cs : List Char) (best : Option Lexicon.Match) (e : String × Entry) :
    Option Lexicon.Match :=
  match Lexicon.readKey? e.1.toList cs with
  | some (text, rest) =>
    if best.all fun m => m.key.length < e.1.length then some ⟨e.1, e.2, text, rest⟩ else best
  | none => best

theorem entryAt?_eq_some {m : Lexicon.Match} (h : l.entryAt? cs = some m) :
    (m.key, m.entry) ∈ l.entries ∧ Lexicon.readKey? m.key.toList cs = some (m.text, m.rest) := by
  let found (best : Option Lexicon.Match) : Prop := ∀ m ∈ best,
    (m.key, m.entry) ∈ l.entries ∧ Lexicon.readKey? m.key.toList cs = some (m.text, m.rest)
  have hstep : ∀ best, found best → ∀ e ∈ l.entries, found (Lexicon.longer cs best e) := by
    intro best hbest e he m hm
    unfold Lexicon.longer at hm
    split at hm
    · rename_i hread
      split at hm
      · obtain rfl := Option.some.inj hm
        exact ⟨he, hread⟩
      · exact hbest m hm
    · exact hbest m hm
  have hfound : found (l.entryAt? cs) :=
    List.foldlRecOn l.entries _ (motive := found) (fun m hm => by cases hm) hstep
  exact hfound m h

theorem entryAt?_eq_none (h : ∀ e ∈ l.entries, Lexicon.readKey? e.1.toList cs = none) :
    l.entryAt? cs = none := by
  cases hm : l.entryAt? cs with
  | none => rfl
  | some m =>
    obtain ⟨hmem, hread⟩ := entryAt?_eq_some hm
    have hnone := h _ hmem
    rw [hread] at hnone
    cases hnone

theorem ne_nil_of_readKey? {key text : List Char} (hkey : key ≠ [])
    (h : Lexicon.readKey? key cs = some (text, rest)) : text ≠ [] := by
  rintro rfl
  cases key with
  | nil => exact hkey rfl
  | cons k key =>
    cases cs with
    | nil => cases h
    | cons c cs =>
      rw [Lexicon.readKey?] at h
      split at h
      · split at h
        · simp at h
        · cases h
      · split at h
        · simp at h
        · cases h

/-- A character that is no capital letter is written in one way only. -/
theorem eq_of_toUpper_eq {c k : Char} (hk : k.isUpper = false) (h : c.toUpper = k) : c = k := by
  unfold Char.toUpper at h
  split at h
  · subst h
    have hrange := of_decide_eq_false hk
    grind
  · exact h

theorem text_of_readKey?_singleton {k : Char} (hblank : k ≠ ' ') (hk : k.isUpper = false)
    {text : List Char} (h : Lexicon.readKey? [k] cs = some (text, rest)) : text = [k] := by
  cases cs with
  | nil => cases h
  | cons c cs =>
    rw [Lexicon.readKey?, if_neg hblank] at h
    split at h
    · rename_i hc
      obtain ⟨rfl, -⟩ := Prod.mk.inj (Option.some.inj h)
      rw [eq_of_toUpper_eq hk hc.symm]
    · cases h

/-! ### What is read and what is left -/

def Segment.kind? : Segment → Option TokenKind
  | .gap _ => none
  | .token t => some t.kind

theorem append_of_numberTail (l : Lexicon) (afterMark : Bool) : ∀ (pointRead : Bool)
    (exponent : Nat) (cs : List Char), (numberTail l afterMark pointRead exponent cs).1 ++
      (numberTail l afterMark pointRead exponent cs).2 = cs
  | _, _, [] => rfl
  | pointRead, exponent, c :: cs => by
    have ih := fun pointRead exponent => append_of_numberTail l afterMark pointRead exponent cs
    unfold numberTail
    dsimp only
    repeat' split
    all_goals first | rfl | exact congrArg (c :: ·) (ih _ _)

theorem append_of_numberToken (l : Lexicon) (afterMark : Bool) (c : Char) (cs : List Char) :
    (numberToken l afterMark c cs).1.text ++ (numberToken l afterMark c cs).2 = c :: cs ∧
      (numberToken l afterMark c cs).1.text ≠ [] ∧
      (numberToken l afterMark c cs).1.kind? = some .other := by
  have hread := append_of_numberTail l afterMark false 0 cs
  unfold numberToken
  dsimp only
  repeat' split
  all_goals simp [bareToken, Segment.text, Segment.kind?, hread, List.takeWhile_append_dropWhile]

theorem wordKind_ne_semicolon (l : Lexicon) (word : List Char) : l.wordKind word ≠ .semicolon := by
  unfold Lexicon.wordKind
  dsimp only
  repeat' split
  all_goals decide

theorem append_of_punctuationOrWord (l : Lexicon) (afterMark : Bool) (c : Char) (cs : List Char) :
    (punctuationOrWord l afterMark c cs).1.text ++ (punctuationOrWord l afterMark c cs).2 =
        c :: cs ∧
      (punctuationOrWord l afterMark c cs).1.text ≠ [] ∧
      ((punctuationOrWord l afterMark c cs).1.kind? = some .semicolon → c = ';') := by
  unfold punctuationOrWord
  split
  · refine ⟨rfl, by simp [bareToken, Segment.text], fun h => ?_⟩
    by_contra hc
    simp only [bareToken, Segment.kind?, if_neg hc, Option.some.injEq] at h
    split at h <;> cases h
  · refine ⟨by simp [bareToken, Segment.text], by simp [bareToken, Segment.text], fun h => ?_⟩
    simp only [bareToken, Segment.kind?, Option.some.injEq] at h
    split at h
    · cases h
    · exact absurd h (wordKind_ne_semicolon l _)

theorem quotedToken_eq_ok {opening close : List Char} {q : Quotation}
    (h : quotedToken opening close q = .ok (s, rest)) :
    ∃ inner, q = .closed inner rest ∧ s = .token ⟨.other, opening ++ inner ++ close, inner⟩ := by
  unfold quotedToken at h
  split at h
  · obtain ⟨rfl, rfl⟩ := Prod.mk.inj (Except.ok.inj h)
    exact ⟨_, rfl, rfl⟩
  · cases h

theorem digitsToken_eq_ok {base : Nat} {opening : List Char} {q : Quotation}
    (h : digitsToken base opening q = .ok (s, rest)) :
    ∃ inner, q = .closed inner rest ∧ s = .token ⟨.other, opening ++ inner ++ ['\''], inner⟩ := by
  unfold digitsToken at h
  split at h
  · split at h
    · exact quotedToken_eq_ok h
    · cases h
  · cases h

theorem append_of_taggedToken {required : Bool} (h : taggedToken l required cs = .ok (s, rest)) :
    ∃ inner, s.text = '$' :: inner ∧ inner ++ rest = cs ∧ s.kind? ≠ some .semicolon := by
  have hbetween : ∀ tag body : List Char, taggedToken.between l tag body = .ok (s, rest) →
      ∃ inner, s.text = '$' :: inner ∧ inner ++ rest = tag ++ '$' :: body ∧
        s.kind? ≠ some .semicolon := by
    intro tag body h
    obtain ⟨inner, hq, rfl⟩ := quotedToken_eq_ok h
    have hbody := append_of_readQuoted hq
    exact ⟨tag ++ ['$'] ++ inner ++ '$' :: tag ++ ['$'], by simp [Segment.text], by simp [← hbody],
      by simp [Segment.kind?]⟩
  have hbare : ∀ inner rest' : List Char,
      (.ok (bareToken .parameter ('$' :: inner) rest') : Except Fault _) = .ok (s, rest) →
      ∃ inner', s.text = '$' :: inner' ∧ inner' ++ rest = inner ++ rest' ∧
        s.kind? ≠ some .semicolon := by
    intro inner rest' h
    obtain ⟨rfl, rfl⟩ := Prod.mk.inj (Except.ok.inj h)
    exact ⟨inner, rfl, rfl, by simp [Segment.kind?]⟩
  unfold taggedToken at h
  split at h
  · cases h
  · exact hbetween [] _ h
  · rename_i first after _
    split at h
    · cases h
    · split at h
      · cases h
      · exact hbare [] _ h
    · rename_i tag body hq
      have htag : tag ++ '$' :: body = first :: after := by simpa using append_of_readQuoted hq
      rw [← htag]
      split at h
      · exact hbetween tag body h
      · split at h
        · rw [htag]
          exact hbare [first] after h
        · split at h
          · rw [htag]
            exact hbare [] _ h
          · exact hbetween tag body h

/-- **What is read and what is left are what there was to read**, and something is
read; a semicolon is read only where one stands. -/
theorem append_of_readSegment (hl : l.IsProper) {afterMark : Bool} {c : Char}
    (h : readSegment l afterMark c cs = .ok (s, rest)) :
    s.text ++ rest = c :: cs ∧ s.text ≠ [] ∧ (s.kind? = some .semicolon → c = ';') := by
  unfold readSegment at h
  split at h
  · obtain ⟨rfl, rfl⟩ := Prod.mk.inj (Except.ok.inj h)
    exact ⟨rfl, by simp [Segment.text], by simp [Segment.kind?]⟩
  split at h
  · have hnumber := append_of_numberToken l afterMark c cs
    rw [Except.ok.inj h] at hnumber
    exact ⟨hnumber.1, hnumber.2.1, by simp [hnumber.2.2]⟩
  split at h
  · obtain ⟨inner, hq, rfl⟩ := quotedToken_eq_ok h
    have hcs := append_of_readQuoted hq
    simp [Segment.text, Segment.kind?, ← hcs]
  split at h
  · obtain ⟨rfl, rfl⟩ := Prod.mk.inj (Except.ok.inj h)
    exact append_of_punctuationOrWord l afterMark c cs
  · rename_i m hm
    obtain ⟨hmem, hread⟩ := entryAt?_eq_some hm
    have hproper : Entry.isProper m.key m.entry = true := hl.entries _ hmem
    have hkey : m.key.toList ≠ [] := by
      intro hnil
      simp [Entry.isProper, String.toList_eq_nil_iff.mp hnil] at hproper
    have happend : m.text ++ m.rest = c :: cs := Lexicon.readKey?_append hread
    have htext : m.text ≠ [] := ne_nil_of_readKey? hkey hread
    split at h
    · obtain ⟨inner, hq, rfl⟩ := quotedToken_eq_ok h
      have hrest := append_of_readQuoted hq
      simp [Segment.text, Segment.kind?, ← happend, ← hrest, htext]
    · obtain ⟨inner, hq, rfl⟩ := digitsToken_eq_ok h
      have hrest := append_of_readQuoted hq
      simp [Segment.text, Segment.kind?, ← happend, ← hrest, htext]
    · rename_i required hentry
      obtain ⟨inner, hs, hcs, hkind⟩ := append_of_taggedToken h
      have hdollar : m.text = ['$'] := by
        rw [hentry] at hproper
        have hkey : m.key = "$" := by simp_all [Entry.isProper]
        rw [hkey] at hread
        exact text_of_readKey?_singleton (by decide) (by decide) hread
      simp [hs, hcs, ← happend, hdollar, hkind]
    · obtain ⟨rfl, rfl⟩ := Prod.mk.inj (Except.ok.inj h)
      simp [Segment.text, Segment.kind?, happend, htext, List.takeWhile_append_dropWhile]
    · split at h
      · rename_i text rest' hcomment
        obtain ⟨rfl, rfl⟩ := Prod.mk.inj (Except.ok.inj h)
        have hrest := append_of_readComment? hcomment
        simp [Segment.text, Segment.kind?, ← happend, ← hrest, htext]
      · cases h
    · rename_i kind hentry
      split at h
      · obtain ⟨rfl, rfl⟩ := Prod.mk.inj (Except.ok.inj h)
        rw [hentry] at hproper
        have hkind : kind ≠ .semicolon := by simp_all [Entry.isProper]
        exact ⟨happend, htext, by simp [Segment.kind?, hkind]⟩
      · obtain ⟨rfl, rfl⟩ := Prod.mk.inj (Except.ok.inj h)
        exact append_of_punctuationOrWord l afterMark c cs

theorem length_le_of_readSegment (hl : l.IsProper) {afterMark : Bool} {c : Char}
    (h : readSegment l afterMark c cs = .ok (s, rest)) : rest.length ≤ cs.length := by
  obtain ⟨happend, hne, -⟩ := append_of_readSegment hl h
  have hpos : 0 < s.text.length := List.length_pos_iff.mpr hne
  have hlength := congrArg List.length happend
  rw [List.length_append, List.length_cons] at hlength
  omega

/-! ### The bodies of commands -/

theorem append_of_readCommandBody (hl : l.IsProper) : ∀ {fuel : Nat} {afterMark : Bool}
    {cs text rest : List Char}, readCommandBody l fuel afterMark cs = .ok (text, rest) →
      text ++ rest = cs
  | 0, _, _, _, _, h => by
    obtain ⟨rfl, rfl⟩ := Prod.mk.inj (Except.ok.inj h)
    rfl
  | _ + 1, _, [], _, _, h => by
    obtain ⟨rfl, rfl⟩ := Prod.mk.inj (Except.ok.inj h)
    rfl
  | fuel + 1, afterMark, c :: cs, text, rest, h => by
    rw [readCommandBody] at h
    split at h
    · obtain ⟨rfl, rfl⟩ := Prod.mk.inj (Except.ok.inj h)
      rfl
    · obtain ⟨⟨s, rest₁⟩, hs, h⟩ := Results.bind_eq_ok_iff.mp h
      obtain ⟨⟨text₂, rest₂⟩, hbody, h⟩ := Results.bind_eq_ok_iff.mp h
      obtain ⟨rfl, rfl⟩ := Prod.mk.inj (Except.ok.inj h)
      rw [List.append_assoc, append_of_readCommandBody hl hbody, (append_of_readSegment hl hs).1]

/-- More fuel than there are characters makes no difference. -/
theorem readCommandBody_of_lt (hl : l.IsProper) : ∀ {n n' : Nat} {afterMark : Bool}
    {cs : List Char}, cs.length < n → cs.length < n' →
      readCommandBody l n afterMark cs = readCommandBody l n' afterMark cs
  | 0, _, _, _, h, _ => absurd h (Nat.not_lt_zero _)
  | _, 0, _, _, _, h => absurd h (Nat.not_lt_zero _)
  | _ + 1, _ + 1, _, [], _, _ => rfl
  | n + 1, n' + 1, afterMark, c :: cs, h, h' => by
    rw [readCommandBody, readCommandBody]
    split
    · rfl
    · refine Results.bind_congr_of_ok fun ⟨s, rest⟩ hs => ?_
      have hlength := length_le_of_readSegment hl hs
      rw [List.length_cons] at h h'
      have hsame : ∀ m, readCommandBody l n m rest = readCommandBody l n' m rest :=
        fun m => readCommandBody_of_lt hl (by omega) (by omega)
      dsimp only
      rw [hsame]

/-! ### Semicolons -/

def semicolon : Segment := .token ⟨.semicolon, [';'], [';']⟩

theorem isBlank_semicolon : Text.isBlank ';' = false := by decide

theorem ne_semicolon_of_isBlank {c : Char} (h : Text.isBlank c = true) : c ≠ ';' := by
  rintro rfl
  rw [isBlank_semicolon] at h
  cases h

theorem readKey?_semicolon {key : List Char} (hne : key ≠ []) (hkey : ';' ∉ key)
    (cs : List Char) : Lexicon.readKey? key (';' :: cs) = none := by
  cases key with
  | nil => exact absurd rfl hne
  | cons k key =>
    have hk : ¬ k = Char.toUpper ';' := fun h => hkey (by rw [h]; exact List.mem_cons_self)
    rw [Lexicon.readKey?, if_neg hk, isBlank_semicolon]
    split <;> rfl

/-- **A semicolon is read by itself**, whatever stands before and behind it. -/
theorem readSegment_semicolon (hl : l.IsProper) (afterMark : Bool) (cs : List Char) :
    readSegment l afterMark ';' cs = .ok (semicolon, cs) := by
  have hquote : l.nameQuotes.lookup ';' = none := by
    rw [List.lookup_eq_none_iff]
    exact fun p hp => by simpa using (hl.nameQuotes p hp).1.symm
  have hentry : l.entryAt? (';' :: cs) = none := by
    refine entryAt?_eq_none fun e he => ?_
    have hproper := hl.entries e he
    simp only [Entry.isProper, Bool.and_eq_true, Bool.not_eq_true'] at hproper
    refine readKey?_semicolon ?_ ?_ cs
    · intro hnil
      simp [String.toList_eq_nil_iff.mp hnil] at hproper
    · simpa using hproper.1.2
  rw [readSegment, if_neg (by decide), if_neg (by decide), hquote, hentry]
  simp only [punctuationOrWord, hl.isPunctuation]
  rfl

theorem eq_semicolon_of_readSegment (hl : l.IsProper) {afterMark : Bool} {c : Char}
    (h : readSegment l afterMark c cs = .ok (s, rest)) (hs : s.kind? = some .semicolon) :
    c = ';' ∧ s = semicolon ∧ rest = cs := by
  obtain rfl := (append_of_readSegment hl h).2.2 hs
  rw [readSegment_semicolon hl] at h
  obtain ⟨rfl, rfl⟩ := Prod.mk.inj (Except.ok.inj h)
  exact ⟨rfl, rfl, rfl⟩

/-! ### Segments one after the other -/

/-- Reads what stands at the front: a segment, or a command and its body. What is
read comes with the kind of the last token. -/
def readFront (l : Lexicon) (before : Option TokenKind) (c : Char) (cs : List Char) :
    Except Fault (List Segment × Option TokenKind × List Char) := do
  let (s, rest) ← readSegment l (before == some .parameter) c cs
  match s with
  | .gap _ => pure ([s], before, rest)
  | .token t =>
    if t.isCommand l && startsStatement before then
      let (body, rest) ← readCommandBody l (rest.length + 1) false rest
      if (Text.trimChars body).isEmpty then pure ([s, .gap body], some t.kind, rest)
      else pure ([s, .token ⟨.other, body, Text.trimChars body⟩], some .other, rest)
    else pure ([s], some t.kind, rest)

/-- The segments of a script after a token of the kind `before`. -/
def segmentsAfter (l : Lexicon) (before : Option TokenKind) (cs : List Char) :
    Except Fault (List Segment) := segmentsFrom l (cs.length + 1) before cs

/-- The characters of a row of segments. -/
def textOf (ss : List Segment) : List Char := ss.flatMap Segment.text

variable {before after : Option TokenKind} {c : Char} {front ss : List Segment}

theorem readFront_cases (h : readFront l before c cs = .ok (front, after, rest)) :
    (∃ s, readSegment l (before == some .parameter) c cs = .ok (s, rest) ∧ front = [s] ∧
      match s with
      | .gap _ => after = before
      | .token t => (t.isCommand l && startsStatement before) = false ∧ after = some t.kind) ∨
    ∃ t rest₁ body, readSegment l (before == some .parameter) c cs = .ok (.token t, rest₁) ∧
      (t.isCommand l && startsStatement before) = true ∧
      readCommandBody l (rest₁.length + 1) false rest₁ = .ok (body, rest) ∧
      if (Text.trimChars body).isEmpty then
        front = [.token t, .gap body] ∧ after = some t.kind
      else
        front = [.token t, .token ⟨.other, body, Text.trimChars body⟩] ∧ after = some .other := by
  obtain ⟨⟨s, rest₁⟩, hs, h⟩ := Results.bind_eq_ok_iff.mp h
  cases s with
  | gap text =>
    obtain ⟨rfl, hpair⟩ := Prod.mk.inj (Except.ok.inj h)
    obtain ⟨rfl, rfl⟩ := Prod.mk.inj hpair
    exact .inl ⟨_, hs, rfl, rfl⟩
  | token t =>
    dsimp only at h
    split at h
    · rename_i hcommand
      obtain ⟨⟨body, rest₂⟩, hbody, h⟩ := Results.bind_eq_ok_iff.mp h
      dsimp only at h
      refine .inr ⟨t, rest₁, body, hs, hcommand, ?_⟩
      split at h
      · rename_i hempty
        obtain ⟨rfl, hpair⟩ := Prod.mk.inj (Except.ok.inj h)
        obtain ⟨rfl, rfl⟩ := Prod.mk.inj hpair
        exact ⟨hbody, by rw [if_pos hempty]; exact ⟨rfl, rfl⟩⟩
      · rename_i hempty
        obtain ⟨rfl, hpair⟩ := Prod.mk.inj (Except.ok.inj h)
        obtain ⟨rfl, rfl⟩ := Prod.mk.inj hpair
        exact ⟨hbody, by rw [if_neg hempty]; exact ⟨rfl, rfl⟩⟩
    · rename_i hcommand
      obtain ⟨rfl, hpair⟩ := Prod.mk.inj (Except.ok.inj h)
      obtain ⟨rfl, rfl⟩ := Prod.mk.inj hpair
      exact .inl ⟨_, hs, rfl, Bool.eq_false_iff.mpr hcommand, rfl⟩

theorem append_of_readFront (hl : l.IsProper)
    (h : readFront l before c cs = .ok (front, after, rest)) :
    textOf front ++ rest = c :: cs ∧ rest.length ≤ cs.length := by
  rcases readFront_cases h with ⟨s, hs, rfl, -⟩ | ⟨t, rest₁, body, hs, -, hbody, hfront⟩
  · refine ⟨?_, length_le_of_readSegment hl hs⟩
    rw [textOf, List.flatMap_singleton]
    exact (append_of_readSegment hl hs).1
  · have happend := append_of_readCommandBody hl hbody
    have htext : textOf front = t.text ++ body := by
      split at hfront <;> simp [hfront.1, textOf, Segment.text]
    have hfirst : t.text ++ rest₁ = c :: cs := (append_of_readSegment hl hs).1
    have hlength := length_le_of_readSegment hl hs
    rw [← happend, List.length_append] at hlength
    exact ⟨by rw [htext, List.append_assoc, happend, hfirst], by omega⟩

/-- **One step of reading a script**, with fuel for all that is left. -/
theorem segmentsFrom_cons (hl : l.IsProper) {fuel : Nat} (h : cs.length < fuel) :
    segmentsFrom l (fuel + 1) before (c :: cs) =
      readFront l before c cs >>= fun r => (r.1 ++ ·) <$> segmentsFrom l fuel r.2.1 r.2.2 := by
  rw [segmentsFrom, readFront]
  cases hs : readSegment l (before == some .parameter) c cs with
  | error e => rfl
  | ok r =>
    obtain ⟨s, rest⟩ := r
    have hlength := length_le_of_readSegment hl hs
    cases s with
    | gap text => rfl
    | token t =>
      change (if t.isCommand l && startsStatement before then _ else _) =
        (if t.isCommand l && startsStatement before then _ else _) >>= _
      split
      · rw [readCommandBody_of_lt hl (by omega : rest.length < fuel) (Nat.lt_succ_self _)]
        cases readCommandBody l (rest.length + 1) false rest with
        | error e => rfl
        | ok r =>
          obtain ⟨body, rest'⟩ := r
          change (if (Text.trimChars body).isEmpty then _ else _) =
            (if (Text.trimChars body).isEmpty then _ else _) >>= _
          split <;> rfl
      · rfl

theorem segmentsFrom_of_lt (hl : l.IsProper) : ∀ {n n' : Nat} {before : Option TokenKind}
    {cs : List Char}, cs.length < n → cs.length < n' →
      segmentsFrom l n before cs = segmentsFrom l n' before cs
  | 0, _, _, _, h, _ => absurd h (Nat.not_lt_zero _)
  | _, 0, _, _, _, h => absurd h (Nat.not_lt_zero _)
  | _ + 1, _ + 1, _, [], _, _ => rfl
  | n + 1, n' + 1, before, c :: cs, h, h' => by
    rw [List.length_cons] at h h'
    rw [segmentsFrom_cons hl (by omega), segmentsFrom_cons hl (by omega)]
    refine Results.bind_congr_of_ok fun ⟨front, after, rest⟩ hfront => ?_
    have hlength := (append_of_readFront hl hfront).2
    have hsame : segmentsFrom l n after rest = segmentsFrom l n' after rest :=
      segmentsFrom_of_lt hl (by omega) (by omega)
    dsimp only
    rw [hsame]

theorem segmentsAfter_nil (l : Lexicon) (before : Option TokenKind) :
    segmentsAfter l before [] = .ok [] := rfl

theorem segmentsAfter_cons (hl : l.IsProper) (before : Option TokenKind) (c : Char)
    (cs : List Char) :
    segmentsAfter l before (c :: cs) =
      readFront l before c cs >>= fun r => (r.1 ++ ·) <$> segmentsAfter l r.2.1 r.2.2 := by
  rw [segmentsAfter, List.length_cons, segmentsFrom_cons hl (Nat.lt_succ_self _)]
  refine Results.bind_congr_of_ok fun ⟨front, after, rest⟩ hfront => ?_
  have hlength := (append_of_readFront hl hfront).2
  have hsame : segmentsFrom l (cs.length + 1) after rest = segmentsAfter l after rest :=
    segmentsFrom_of_lt hl (by omega) (Nat.lt_succ_self _)
  dsimp only
  rw [hsame]

/-! ### Rows of segments -/

/-- Reading gives a row of segments and leaves a rest, where `before` and `after`
are the kinds of the last tokens. -/
inductive Reads (l : Lexicon) :
    Option TokenKind → List Char → List Segment → Option TokenKind → List Char → Prop
  | done {before : Option TokenKind} {cs : List Char} : Reads l before cs [] before cs
  | front {before middle after : Option TokenKind} {c : Char} {cs rest rest' : List Char}
      {front ss : List Segment} (h : readFront l before c cs = .ok (front, middle, rest))
      (hrest : Reads l middle rest ss after rest') :
      Reads l before (c :: cs) (front ++ ss) after rest'

variable {middle : Option TokenKind} {ss' : List Segment} {rest' : List Char}

theorem Reads.append (h : Reads l before cs ss middle rest)
    (h' : Reads l middle rest ss' after rest') : Reads l before cs (ss ++ ss') after rest' := by
  induction h with
  | done => exact h'
  | front hfront _ ih =>
    rw [List.append_assoc]
    exact .front hfront (ih h')

theorem Reads.single (h : readFront l before c cs = .ok (ss, after, rest)) :
    Reads l before (c :: cs) ss after rest := by
  have hreads := Reads.front h .done
  rwa [List.append_nil] at hreads

theorem Reads.textOf_append (hl : l.IsProper) (h : Reads l before cs ss after rest) :
    textOf ss ++ rest = cs := by
  induction h with
  | done => rfl
  | front hfront _ ih =>
    rw [textOf, List.flatMap_append, List.append_assoc]
    change textOf _ ++ (textOf _ ++ _) = _
    rw [ih, (append_of_readFront hl hfront).1]

/-- **The rest of a script is read on from where a row of segments ends.** -/
theorem Reads.segmentsAfter_eq (hl : l.IsProper) (h : Reads l before cs ss after rest) :
    segmentsAfter l before cs = (ss ++ ·) <$> segmentsAfter l after rest := by
  induction h with
  | done => cases segmentsAfter l _ _ <;> rfl
  | front hfront _ ih =>
    rw [segmentsAfter_cons hl, hfront]
    change (_ ++ ·) <$> segmentsAfter l _ _ = _
    rw [ih]
    cases segmentsAfter l _ _ with
    | error e => rfl
    | ok tail => exact congrArg Except.ok (List.append_assoc ..).symm

theorem readFront_semicolon (hl : l.IsProper) (before : Option TokenKind) (cs : List Char) :
    readFront l before ';' cs = .ok ([semicolon], some .semicolon, cs) := by
  rw [readFront, readSegment_semicolon hl]
  have hcommand : Token.isCommand l ⟨.semicolon, [';'], [';']⟩ = false := by
    simp [Token.isCommand]
  change (if Token.isCommand l ⟨.semicolon, [';'], [';']⟩ && startsStatement before then _ else _) =
    _
  rw [hcommand]
  rfl

theorem readFront_of_semicolon_mem (hl : l.IsProper)
    (h : readFront l before c cs = .ok (front, after, rest)) {s : Segment} (hs : s ∈ front)
    (hkind : s.kind? = some .semicolon) : c = ';' := by
  rcases readFront_cases h with ⟨s', hs', rfl, -⟩ | ⟨t, rest₁, body, ht, hcommand, -, hfront⟩
  · obtain rfl := List.mem_singleton.mp hs
    exact (eq_semicolon_of_readSegment hl hs' hkind).1
  · have hmem : s = .token t ∨ s = .gap body ∨ s = .token ⟨.other, body, Text.trimChars body⟩ := by
      split at hfront
      · rw [hfront.1] at hs
        simpa using Or.imp_right Or.inl (by simpa using hs)
      · rw [hfront.1] at hs
        exact Or.imp_right Or.inr (by simpa using hs)
    rcases hmem with rfl | rfl | rfl
    · exact (eq_semicolon_of_readSegment hl ht hkind).1
    · cases hkind
    · cases hkind

/-- **A script is read in rows of segments**, up to its end. -/
theorem reads_of_segmentsAfter (hl : l.IsProper) {before : Option TokenKind} :
    ∀ {cs : List Char} {ss : List Segment}, segmentsAfter l before cs = .ok ss →
      ∃ after, Reads l before cs ss after []
  | [], _, h => by
    obtain rfl := Except.ok.inj h
    exact ⟨before, .done⟩
  | c :: cs, ss, h => by
    rw [segmentsAfter_cons hl] at h
    obtain ⟨⟨front, middle, rest⟩, hfront, h⟩ := Results.bind_eq_ok_iff.mp h
    obtain ⟨ss', hss', rfl⟩ := Results.map_eq_ok_iff.mp h
    have hlength := (append_of_readFront hl hfront).2
    obtain ⟨after, hreads⟩ := reads_of_segmentsAfter hl hss'
    exact ⟨after, .front hfront hreads⟩
termination_by cs => cs.length
decreasing_by exact Nat.lt_succ_of_le hlength

/-- **A semicolon among the segments is one in the script**: those before it are
read before it, and those behind it from there on. -/
theorem reads_of_append_semicolon (hl : l.IsProper) {before : Option TokenKind} {s : Segment}
    (hs : s.kind? = some .semicolon) : ∀ {cs : List Char} {ss back : List Segment},
      segmentsAfter l before cs = .ok (ss ++ s :: back) →
      ∃ after rest, Reads l before cs ss after (';' :: rest) ∧ s = semicolon ∧
        segmentsAfter l (some .semicolon) rest = .ok back
  | [], ss, back, h => by
    have hnil : [] = ss ++ s :: back := Except.ok.inj h
    simp at hnil
  | c :: cs, ss, back, h => by
    rw [segmentsAfter_cons hl] at h
    obtain ⟨⟨front, middle, rest⟩, hfront, h⟩ := Results.bind_eq_ok_iff.mp h
    obtain ⟨ss', hss', happend⟩ := Results.map_eq_ok_iff.mp h
    dsimp only at hss' happend
    have hlength := (append_of_readFront hl hfront).2
    have hrec : ∀ ss₁, ss = front ++ ss₁ → ss' = ss₁ ++ s :: back →
        ∃ after rest, Reads l before (c :: cs) ss after (';' :: rest) ∧ s = semicolon ∧
          segmentsAfter l (some .semicolon) rest = .ok back := by
      rintro ss₁ rfl rfl
      obtain ⟨after, rest', hreads, hsemicolon, hrest⟩ := reads_of_append_semicolon hl hs hss'
      exact ⟨after, rest', .front hfront hreads, hsemicolon, hrest⟩
    -- The semicolon is behind what is read at the front, or is itself read there.
    rcases List.append_eq_append_iff.mp happend with ⟨ss₁, hss, hss₁⟩ | ⟨_ | ⟨s', bs⟩, hss, hback⟩
    · exact hrec ss₁ hss hss₁
    · exact hrec [] (by rw [hss, List.append_nil, List.append_nil]) hback.symm
    · obtain ⟨hs', htail⟩ := List.cons.inj hback
      subst hs'
      have hmem : s ∈ front := by rw [hss]; exact List.mem_append_right ss List.mem_cons_self
      obtain rfl := readFront_of_semicolon_mem hl hfront hmem hs
      rw [readFront_semicolon hl] at hfront
      obtain ⟨rfl, hpair⟩ := Prod.mk.inj (Except.ok.inj hfront)
      obtain ⟨rfl, rfl⟩ := Prod.mk.inj hpair
      rcases ss with _ | ⟨s', ss⟩
      · obtain ⟨rfl, rfl⟩ := List.cons.inj hss
        exact ⟨before, cs, .done, rfl, hss'.trans (congrArg Except.ok htail.symm)⟩
      · simp at hss
termination_by cs => cs.length
decreasing_by exact Nat.lt_succ_of_le hlength

end Sql
end TableGate

/-
# What follows a semicolon

What is read before a semicolon does not depend on what follows it, as long as the
semicolon itself is not taken along (`Reads.carry`). A number or a word ends before
it, an entry does not go across it, and a quotation or comment that is closed before
it is closed there whatever follows.

Only a dollar sign looks further: it opens the tag of a body if another one follows
and the tag between them holds no blank. So what follows is to begin with a blank.
It is also to end with one, as a script that ends with a dollar sign or in the middle
of a quotation is read in its own way.

Key definitions: `IsTail`, `Carries`.
Key theorems: `carries_readQuoted`, `carries_readComment?`, `carries_taggedToken`,
`carries_readSegment`, `Reads.carry`.
-/
import Mathlib.Data.List.TakeWhile
import TableGate.Proofs.Sql.Segments

namespace TableGate
namespace Sql

variable {l : Lexicon} {x y t t' : List Char}

/-- The text ends with a blank, if it is not empty. -/
def EndsBlank (t : List Char) : Prop := ∀ c ∈ t.getLast?, Text.isBlank c = true

/-- The text begins and ends with a blank, if it is not empty. -/
def IsTail (t : List Char) : Prop := (∀ c ∈ t.head?, Text.isBlank c = true) ∧ EndsBlank t

/-- What is read before a semicolon with `t` behind it is read so with `t'` behind
it. -/
def Carries (t t' : List Char) (r r' : Except Fault (Segment × List Char)) : Prop :=
  ∀ s y, r = .ok (s, y ++ ';' :: t) → r' = .ok (s, y ++ ';' :: t')

/-- What is read, with a semicolon and `t` behind what is left. -/
def withSemicolon {α : Type} (t : List Char) (r : α × List Char) : α × List Char :=
  (r.1, r.2 ++ ';' :: t)

theorem carries_ok (t t' : List Char) (r : Segment × List Char) :
    Carries t t' (.ok (withSemicolon t r)) (.ok (withSemicolon t' r)) := by
  intro s y h
  obtain ⟨rfl, hrest⟩ := Prod.mk.inj (Except.ok.inj h)
  obtain rfl := List.append_cancel_right hrest
  rfl

/-! ### Words, numbers and entries -/

theorem takeWhile_semicolon {p : Char → Bool} (hp : p ';' = false) (x t : List Char) :
    (x ++ ';' :: t).takeWhile p = x.takeWhile p := by
  induction x with
  | nil => simp [hp]
  | cons c x ih => simp [List.takeWhile_cons, ih]

theorem dropWhile_semicolon {p : Char → Bool} (hp : p ';' = false) (x t : List Char) :
    (x ++ ';' :: t).dropWhile p = x.dropWhile p ++ ';' :: t := by
  induction x with
  | nil => simp [hp]
  | cons c x ih =>
    rw [List.cons_append, List.dropWhile_cons, List.dropWhile_cons, ih]
    split <;> rfl

/-- A test that the semicolon fails does not see whether anything is there. -/
theorem head?_semicolon {p : Char → Bool} (hp : p ';' = false) (x t : List Char) :
    (x ++ ';' :: t).head?.any p = x.head?.any p := by
  cases x with
  | nil => simp [hp]
  | cons c x => rfl

theorem numberTail_semicolon (l : Lexicon) (afterMark : Bool) (t : List Char) :
    ∀ (pointRead : Bool) (exponent : Nat) (x : List Char),
      numberTail l afterMark pointRead exponent (x ++ ';' :: t) =
        withSemicolon t (numberTail l afterMark pointRead exponent x)
  | pointRead, exponent, [] => by
    simp [numberTail, withSemicolon, Text.isAsciiDigit]
  | pointRead, exponent, c :: x => by
    have ih := fun pointRead exponent => numberTail_semicolon l afterMark t pointRead exponent x
    have hdigit : (x ++ ';' :: t).head?.any Text.isAsciiDigit = x.head?.any Text.isAsciiDigit :=
      head?_semicolon (by decide) x t
    rw [List.cons_append, numberTail, numberTail]
    simp only [ih, hdigit]
    repeat' split
    all_goals rfl

theorem numberToken_semicolon (hl : l.IsProper) (afterMark : Bool) (c : Char) (x t : List Char) :
    numberToken l afterMark c (x ++ ';' :: t) = withSemicolon t (numberToken l afterMark c x) := by
  let isInside (c : Char) : Bool := !Text.isBlank c && !l.isPunctuation c
  have hinside : isInside ';' = false := by simp [isInside, hl.isPunctuation]
  have htake : ∀ y, (y ++ ';' :: t).takeWhile isInside = y.takeWhile isInside :=
    fun y => takeWhile_semicolon hinside y t
  have hdrop : ∀ y, (y ++ ';' :: t).dropWhile isInside = y.dropWhile isInside ++ ';' :: t :=
    fun y => dropWhile_semicolon hinside y t
  have hbinary : (x ++ ';' :: t).head?.any (fun m => m == 'b' || m == 'B') =
      x.head?.any (fun m => m == 'b' || m == 'B') := head?_semicolon rfl x t
  have hhex : (x ++ ';' :: t).head?.any (fun m => m == 'x' || m == 'X') =
      x.head?.any (fun m => m == 'x' || m == 'X') := head?_semicolon rfl x t
  have hname : ∀ y, (y ++ ';' :: t).head?.any startsName = y.head?.any startsName :=
    fun y => head?_semicolon (by decide) y t
  unfold numberToken
  simp only [numberTail_semicolon, withSemicolon, hbinary, hhex, hname]
  dsimp only [isInside] at htake hdrop
  simp only [htake, hdrop]
  repeat' split
  all_goals rfl

theorem punctuationOrWord_semicolon (hl : l.IsProper) (afterMark : Bool) (c : Char)
    (x t : List Char) :
    punctuationOrWord l afterMark c (x ++ ';' :: t) =
      withSemicolon t (punctuationOrWord l afterMark c x) := by
  unfold punctuationOrWord
  simp only [takeWhile_semicolon hl.not_continuesWord, dropWhile_semicolon hl.not_continuesWord]
  split <;> rfl

theorem readKey?_append_semicolon (t : List Char) : ∀ {key : List Char} (x : List Char),
    ';' ∉ key → Lexicon.readKey? key (x ++ ';' :: t) =
      (Lexicon.readKey? key x).map (withSemicolon t)
  | [], x, _ => by simp [Lexicon.readKey?, withSemicolon]
  | k :: key, [], h => by
    exact readKey?_semicolon (by simp) h t
  | k :: key, c :: x, h => by
    have hkey : ';' ∉ key := fun hmem => h (List.mem_cons_of_mem k hmem)
    rw [List.cons_append, Lexicon.readKey?, Lexicon.readKey?,
      takeWhile_semicolon isBlank_semicolon, dropWhile_semicolon isBlank_semicolon,
      readKey?_append_semicolon t _ hkey, readKey?_append_semicolon t _ hkey]
    split
    · split
      · rw [Option.map_map, Option.map_map]
        rfl
      · rfl
    · split
      · rw [Option.map_map, Option.map_map]
        rfl
      · rfl

theorem notMem_of_readKey? : ∀ {key cs text rest : List Char}, ';' ∉ key →
    Lexicon.readKey? key cs = some (text, rest) → ';' ∉ text
  | [], _, _, _, _, h => by
    obtain ⟨rfl, -⟩ := Prod.mk.inj (Option.some.inj h)
    simp
  | _ :: _, [], _, _, _, h => by cases h
  | k :: key, c :: cs, text, rest, hkey, h => by
    have hrest : ';' ∉ key := fun hmem => hkey (List.mem_cons_of_mem k hmem)
    rw [Lexicon.readKey?] at h
    split at h
    · split at h
      · rename_i hblank
        obtain ⟨⟨text', rest'⟩, hread, hpair⟩ := Option.map_eq_some_iff.mp h
        obtain ⟨rfl, rfl⟩ := Prod.mk.inj hpair
        have hrun : ';' ∉ cs.takeWhile Text.isBlank :=
          fun hmem => ne_semicolon_of_isBlank (List.mem_takeWhile_imp hmem) rfl
        simp [(ne_semicolon_of_isBlank hblank).symm, hrun, notMem_of_readKey? hrest hread]
      · cases h
    · split at h
      · rename_i hk
        obtain ⟨⟨text', rest'⟩, hread, hpair⟩ := Option.map_eq_some_iff.mp h
        obtain ⟨rfl, rfl⟩ := Prod.mk.inj hpair
        have hc : c ≠ ';' := by
          rintro rfl
          exact hkey (by rw [hk]; exact List.mem_cons_self)
        simp [hc.symm, notMem_of_readKey? hrest hread]
      · cases h

/-- A match, with a semicolon and `t` behind what is left. -/
def matchWithSemicolon (t : List Char) (m : Lexicon.Match) : Lexicon.Match :=
  { m with rest := m.rest ++ ';' :: t }

theorem longer_semicolon (t : List Char) (best : Option Lexicon.Match) {e : String × Entry}
    (he : ';' ∉ e.1.toList) (x : List Char) :
    Lexicon.longer (x ++ ';' :: t) (best.map (matchWithSemicolon t)) e =
      (Lexicon.longer x best e).map (matchWithSemicolon t) := by
  unfold Lexicon.longer
  rw [readKey?_append_semicolon t x he]
  cases Lexicon.readKey? e.1.toList x with
  | none => rfl
  | some r =>
    dsimp only [Option.map_some, withSemicolon]
    have hbest : (best.map (matchWithSemicolon t)).all (fun m => m.key.length < e.1.length) =
        best.all fun m => m.key.length < e.1.length := by cases best <;> rfl
    rw [hbest]
    split <;> rfl

theorem entryAt?_semicolon (hl : l.IsProper) (x t : List Char) :
    l.entryAt? (x ++ ';' :: t) = (l.entryAt? x).map (matchWithSemicolon t) := by
  have hkeys : ∀ e ∈ l.entries, ';' ∉ e.1.toList := by
    intro e he
    have hproper := hl.entries e he
    simp only [Entry.isProper, Bool.and_eq_true, Bool.not_eq_true'] at hproper
    simpa using hproper.1.2
  have hfold : ∀ (es : List (String × Entry)) (best : Option Lexicon.Match),
      (∀ e ∈ es, ';' ∉ e.1.toList) →
      es.foldl (Lexicon.longer (x ++ ';' :: t)) (best.map (matchWithSemicolon t)) =
        (es.foldl (Lexicon.longer x) best).map (matchWithSemicolon t) := by
    intro es
    induction es with
    | nil => exact fun _ _ => rfl
    | cons e es ih =>
      intro best hes
      rw [List.foldl_cons, List.foldl_cons, longer_semicolon t best (hes e List.mem_cons_self)]
      exact ih _ fun e' he' => hes e' (List.mem_cons_of_mem _ he')
  exact hfold l.entries none hkeys

/-! ### Quotations -/

/-- A copy of `close` that reaches across a semicolon with `t` behind it ends with the
semicolon. -/
def StopsAt (close t : List Char) : Prop :=
  ∀ x, close.isPrefixOf (x ++ ';' :: t) = true → close.isPrefixOf (x ++ [';']) = true

/-- A copy of `close` ends with the semicolon at the latest, or holds it and what
follows. -/
theorem prefix_semicolon_cases {close : List Char}
    (h : close.isPrefixOf (x ++ ';' :: t) = true) :
    close.isPrefixOf (x ++ [';']) = true ∨ ';' ∈ close ∧ ∃ c ∈ t.head?, c ∈ close := by
  rw [List.isPrefixOf_iff_prefix] at h ⊢
  obtain ⟨k, hk⟩ := h
  rw [← List.singleton_append, ← List.append_assoc] at hk
  rcases List.append_eq_append_iff.mp hk with ⟨as, hshort, -⟩ | ⟨_ | ⟨c, as⟩, hlong, ht⟩
  · exact .inl ⟨as, hshort.symm⟩
  · exact .inl ⟨[], by rw [hlong, List.append_nil, List.append_nil]⟩
  · exact .inr ⟨by simp [hlong], c, by simp [ht], by simp [hlong]⟩

/-- A mark without a semicolon does not reach across one. -/
theorem stopsAt_of_notMem {close : List Char} (h : ';' ∉ close) (t : List Char) :
    StopsAt close t := fun _ hx => (prefix_semicolon_cases hx).resolve_right fun hmem => h hmem.1

/-- A mark without a blank does not reach behind a semicolon that a blank follows. -/
theorem stopsAt_of_isTail {close : List Char} (h : ∀ c ∈ close, Text.isBlank c = false)
    (ht : IsTail t) : StopsAt close t := by
  refine fun _ hx => (prefix_semicolon_cases hx).resolve_right ?_
  rintro ⟨-, c, hc, hmem⟩
  have hblank := ht.1 c hc
  rw [h c hmem] at hblank
  cases hblank

theorem isPrefixOf_of_semicolon {mark : List Char} (h : mark.isPrefixOf (x ++ [';']) = true)
    (t : List Char) : mark.isPrefixOf (x ++ ';' :: t) = true := by
  rw [List.isPrefixOf_iff_prefix] at h ⊢
  refine h.trans ⟨t, ?_⟩
  rw [List.append_assoc, List.singleton_append]

/-- A mark without a semicolon stands before one whatever follows. -/
theorem isPrefixOf_semicolon {mark : List Char} (h : ';' ∉ mark) (x t t' : List Char) :
    mark.isPrefixOf (x ++ ';' :: t) = mark.isPrefixOf (x ++ ';' :: t') :=
  Bool.eq_iff_iff.mpr ⟨fun hx => isPrefixOf_of_semicolon (stopsAt_of_notMem h t x hx) t',
    fun hx => isPrefixOf_of_semicolon (stopsAt_of_notMem h t' x hx) t⟩

/-- What closes a quotation before a semicolon closes it whatever follows. -/
theorem closed_before {close : List Char} (hlen : close.length ≤ x.length)
    (h : close.isPrefixOf (x ++ ';' :: t) = true)
    (hdrop : (x ++ ';' :: t).drop close.length = y ++ ';' :: t) (t' : List Char) :
    close.isPrefixOf (x ++ ';' :: t') = true ∧
      (x ++ ';' :: t').drop close.length = y ++ ';' :: t' := by
  rw [List.isPrefixOf_iff_prefix] at h ⊢
  have hx : close <+: x := List.prefix_of_prefix_length_le h (List.prefix_append ..) hlen
  rw [List.drop_append_of_le_length hlen] at hdrop ⊢
  rw [List.append_cancel_right hdrop]
  exact ⟨hx.trans (List.prefix_append ..), rfl⟩

theorem length_of_readQuoted {escapes close inner : List Char}
    (h : readQuoted l escapes close (x ++ ';' :: t) = .closed inner (y ++ ';' :: t)) :
    inner.length + close.length + y.length = x.length := by
  have hlength := congrArg List.length (append_of_readQuoted h)
  simp only [List.length_append, List.length_cons] at hlength
  omega

/-- **A quotation that is closed before a semicolon is closed there** whatever
follows. -/
theorem carries_readQuoted {escapes close : List Char} (hne : close ≠ [])
    (hstop : StopsAt close t') : ∀ {x inner y : List Char},
      readQuoted l escapes close (x ++ ';' :: t) = .closed inner (y ++ ';' :: t) →
      readQuoted l escapes close (x ++ ';' :: t') = .closed inner (y ++ ';' :: t')
  | [], inner, y, h => by
    have hlength := length_of_readQuoted h
    have hpos := List.length_pos_iff.mpr hne
    rw [List.length_nil] at hlength
    omega
  | [c], inner, y, h => by
    have hlength := length_of_readQuoted h
    have hpos := List.length_pos_iff.mpr hne
    rw [List.length_singleton] at hlength
    rw [List.singleton_append, readQuoted] at h ⊢
    split at h
    · split at h
      · cases h
      · obtain ⟨inner', -, rfl⟩ := eq_closed_of_prepend h
        simp at hlength
        omega
    rename_i hplain
    rw [if_neg hplain]
    split at h
    · rename_i hclose
      obtain ⟨rfl, hdrop⟩ := Quotation.closed.inj h
      obtain ⟨hclose', hdrop'⟩ := closed_before (x := [c]) (by simp; omega) hclose hdrop t'
      rw [List.singleton_append] at hclose' hdrop'
      rw [if_pos hclose', hdrop']
    · obtain ⟨inner', -, rfl⟩ := eq_closed_of_prepend h
      simp at hlength
      omega
  | c :: n :: x, inner, y, h => by
    have hlength := length_of_readQuoted h
    rw [List.length_cons, List.length_cons] at hlength
    rw [List.cons_append, List.cons_append, readQuoted] at h ⊢
    split at h
    · rename_i htakes
      rw [if_neg (by simp)] at h
      obtain ⟨inner', hrest, rfl⟩ := eq_closed_of_prepend h
      rw [if_pos htakes, if_neg (by simp), carries_readQuoted hne hstop hrest]
      rfl
    rename_i hplain
    rw [if_neg hplain]
    split at h
    · rename_i hclose
      obtain ⟨rfl, hdrop⟩ := Quotation.closed.inj h
      obtain ⟨hclose', hdrop'⟩ := closed_before (x := c :: n :: x) (by simp; omega) hclose hdrop t'
      rw [List.cons_append, List.cons_append] at hclose' hdrop'
      rw [if_pos hclose', hdrop']
    · rename_i hclose
      obtain ⟨inner', hrest, rfl⟩ := eq_closed_of_prepend h
      have hclose' : ¬ close.isPrefixOf (c :: n :: (x ++ ';' :: t')) = true :=
        fun hopen => hclose (isPrefixOf_of_semicolon (hstop (c :: n :: x) hopen) t)
      have hinner := carries_readQuoted hne hstop (x := n :: x) hrest
      rw [List.cons_append] at hinner
      rw [if_neg hclose', hinner]
      rfl

/-! ### Comments -/

theorem ne_nil_of_readComment? {nested fresh : Bool} {opening close cs text rest : List Char}
    {skip depth : Nat} (hne : close ≠ [])
    (h : readComment? nested opening close fresh skip depth cs = some (text, rest)) :
    text ≠ [] := by
  unfold readComment? at h
  split at h
  · cases h
  · obtain ⟨r, -, hr⟩ := Option.map_eq_some_iff.mp h
    rw [← (Prod.mk.inj hr).1]
    simp
  · split at h
    · cases h
    split at h
    · split at h
      · rw [← (Prod.mk.inj (Option.some.inj h)).1]
        exact hne
      · obtain ⟨r, -, hr⟩ := Option.map_eq_some_iff.mp h
        rw [← (Prod.mk.inj hr).1]
        simp
    · split at h <;>
      · obtain ⟨r, -, hr⟩ := Option.map_eq_some_iff.mp h
        rw [← (Prod.mk.inj hr).1]
        simp

theorem carries_cons {r r' : Option (List Char × List Char)} {text : List Char} (c : Char)
    (h : ∀ text, r = some (text, y ++ ';' :: t) → r' = some (text, y ++ ';' :: t'))
    (hread : (r.map fun r => (c :: r.1, r.2)) = some (text, y ++ ';' :: t)) :
    (r'.map fun r => (c :: r.1, r.2)) = some (text, y ++ ';' :: t') := by
  obtain ⟨⟨text', rest⟩, hr, hrest⟩ := Option.map_eq_some_iff.mp hread
  obtain ⟨rfl, rfl⟩ := Prod.mk.inj hrest
  rw [h text' hr]
  rfl

/-- **A comment that is closed before a semicolon is closed there** whatever
follows. -/
theorem carries_readComment? {nested : Bool} {opening close : List Char} (hne : close ≠ [])
    (hopening : ';' ∉ opening) (hclose : ';' ∉ close) :
    ∀ {fresh : Bool} {skip depth : Nat} {x text y : List Char},
      readComment? nested opening close fresh skip depth (x ++ ';' :: t) =
        some (text, y ++ ';' :: t) →
      readComment? nested opening close fresh skip depth (x ++ ';' :: t') =
        some (text, y ++ ';' :: t')
  | _, _, _, [], text, y, h => by
    have htext := ne_nil_of_readComment? hne h
    have hlength := congrArg List.length (append_of_readComment? h)
    have hpos := List.length_pos_iff.mpr htext
    simp at hlength
    omega
  | _, skip + 1, _, c :: x, text, y, h => by
    rw [List.cons_append, readComment?] at h ⊢
    exact carries_cons c (fun _ => carries_readComment? hne hopening hclose) h
  | fresh, 0, 0, c :: x, text, y, h => by
    have hlength := congrArg List.length (append_of_readComment? h)
    rw [List.cons_append, readComment?, if_neg (by simp), ← List.cons_append] at h ⊢
    rw [isPrefixOf_semicolon hclose _ t' t, isPrefixOf_semicolon hopening _ t' t]
    split at h
    · rename_i hfound
      obtain ⟨rfl, hdrop⟩ := Prod.mk.inj (Option.some.inj h)
      have hlen : close.length ≤ (c :: x).length := by
        simp at hlength
        simp
        omega
      rw [if_pos hfound, (closed_before hlen hfound hdrop t').2]
    rename_i hfound
    rw [if_neg hfound]
    split at h
    · rename_i hopens
      rw [if_pos hopens]
      exact carries_cons c (fun _ => carries_readComment? hne hopening hclose) h
    · rename_i hopens
      rw [if_neg hopens]
      exact carries_cons c (fun _ => carries_readComment? hne hopening hclose) h
  | fresh, 0, depth + 1, c :: x, text, y, h => by
    rw [List.cons_append, readComment?, if_neg (by simp), ← List.cons_append] at h ⊢
    rw [isPrefixOf_semicolon hclose _ t' t, isPrefixOf_semicolon hopening _ t' t]
    split at h
    · rename_i hfound
      rw [if_pos hfound]
      exact carries_cons c (fun _ => carries_readComment? hne hopening hclose) h
    rename_i hfound
    rw [if_neg hfound]
    split at h
    · rename_i hopens
      rw [if_pos hopens]
      exact carries_cons c (fun _ => carries_readComment? hne hopening hclose) h
    · rename_i hopens
      rw [if_neg hopens]
      exact carries_cons c (fun _ => carries_readComment? hne hopening hclose) h

/-! ### Tags -/

theorem eq_escapedEnd_of_prepend {front : List Char} {q : Quotation}
    (h : q.prepend front = .escapedEnd) : q = .escapedEnd := by
  cases q with
  | escapedEnd => rfl
  | closed | unclosed => cases h

/-- A text that ends with a quote that is taken along ends with a quote. -/
theorem getLast?_of_escapedEnd {escapes close cs : List Char}
    (h : readQuoted l escapes close cs = .escapedEnd) :
    ∃ c ∈ cs.getLast?, [c] = close ∨ c ∈ escapes := by
  fun_induction readQuoted l escapes close cs with
  | case1 | case2 | case3 | case6 => cases h
  | case4 c n rest htakes hempty =>
    obtain rfl := List.isEmpty_iff.mp hempty
    exact ⟨n, rfl, by simp_all [takesAlong]⟩
  | case5 c n rest _ _ ih =>
    obtain ⟨d, hd, hquote⟩ := ih (eq_escapedEnd_of_prepend h)
    exact ⟨d, by rw [List.getLast?_cons_cons, List.getLast?_cons, Option.mem_def.mp hd]; rfl, hquote⟩
  | case7 c n rest _ _ ih =>
    obtain ⟨d, hd, hquote⟩ := ih (eq_escapedEnd_of_prepend h)
    exact ⟨d, by simpa using hd, hquote⟩

theorem getLast?_semicolon (ht : EndsBlank t) (x : List Char) :
    ∀ c ∈ (x ++ ';' :: t).getLast?, c ≠ '$' ∧ c ≠ '\'' := by
  intro c hc
  have hlast : c = ';' ∨ Text.isBlank c = true := by
    cases htail : t.getLast? with
    | none =>
      obtain rfl := List.getLast?_eq_none_iff.mp htail
      exact .inl (by simpa using hc.symm)
    | some d =>
      have hd : d = c := by
        rw [List.getLast?_append, List.getLast?_cons, htail] at hc
        exact Option.some.inj hc
      exact .inr (ht c (by rw [htail, hd]; rfl))
  constructor <;>
  · rintro rfl
    exact hlast.elim (by decide) (by decide)

/-- Where a dollar sign is the mark of a parameter, as what follows is no tag. -/
def HasNoTag (l : Lexicon) (cs : List Char) : Prop :=
  ∀ tag body, readQuoted l l.escapes ['$'] cs = .closed tag body →
    tag.all Text.isAnyDigit = true ∨ tag.any Text.isBlank = true

/-- Behind a dollar sign, a tag is looked for. -/
theorem taggedToken_semicolon (hl : l.IsProper) (ht : EndsBlank t)
    (hfirst : ∀ c ∈ x.head?, c ≠ '$') :
    taggedToken l false (x ++ ';' :: t) =
      match readQuoted l l.escapes ['$'] (x ++ ';' :: t) with
      | .closed tag body =>
        if tag.all Text.isAnyDigit || tag.any Text.isBlank then
          .ok (bareToken .parameter ['$'] (x ++ ';' :: t))
        else taggedToken.between l tag body
      | _ => .ok (bareToken .parameter ['$'] (x ++ ';' :: t)) := by
  have hescaped : readQuoted l l.escapes ['$'] (x ++ ';' :: t) ≠ .escapedEnd := by
    intro h
    obtain ⟨c, hc, hquote⟩ := getLast?_of_escapedEnd h
    have hne := getLast?_semicolon ht x c hc
    rw [hl.escapes] at hquote
    simp_all
  have hbody : ∀ tag body, readQuoted l l.escapes ['$'] (x ++ ';' :: t) = .closed tag body →
      body.isEmpty = false := by
    intro tag body h
    rw [Bool.eq_false_iff]
    intro hempty
    obtain rfl := List.isEmpty_iff.mp hempty
    have happend := append_of_readQuoted h
    refine (getLast?_semicolon ht x '$' ?_).1 rfl
    rw [← happend]
    simp
  obtain ⟨first, after, hcons⟩ : ∃ first after, x ++ ';' :: t = first :: after :=
    List.exists_cons_of_ne_nil (by simp)
  have hdollar : first ≠ '$' := by
    cases x with
    | nil =>
      obtain ⟨rfl, -⟩ := List.cons.inj hcons
      decide
    | cons c x =>
      obtain ⟨rfl, -⟩ := List.cons.inj hcons
      exact hfirst c rfl
  rw [hcons] at hescaped hbody ⊢
  unfold taggedToken
  split
  · rename_i hnil
    cases hnil
  · rename_i hcons'
    exact absurd (List.cons.inj hcons').1 hdollar
  · rename_i hcons'
    obtain ⟨rfl, rfl⟩ := List.cons.inj hcons'
    cases hq : readQuoted l l.escapes ['$'] (first :: after) with
    | escapedEnd => exact absurd hq hescaped
    | unclosed => rfl
    | closed tag body => simp only [hbody tag body hq, Bool.false_eq_true, if_false]

/-- What is no tag if `t` follows is none if `t'` does: a dollar sign further on closes
only what holds a blank. -/
theorem taggedToken_of_hasNoTag (hl : l.IsProper) (ht' : IsTail t')
    (hfirst : ∀ c ∈ x.head?, c ≠ '$') (h : HasNoTag l (x ++ ';' :: t)) :
    taggedToken l false (x ++ ';' :: t') = .ok (bareToken .parameter ['$'] (x ++ ';' :: t')) := by
  rw [taggedToken_semicolon hl ht'.2 hfirst]
  cases hq : readQuoted l l.escapes ['$'] (x ++ ';' :: t') with
  | escapedEnd | unclosed => rfl
  | closed tag body =>
    have hinside : ∀ v, body = v ++ ';' :: t' →
        tag.all Text.isAnyDigit = true ∨ tag.any Text.isBlank = true := by
      rintro v rfl
      exact h tag _ (carries_readQuoted (by simp) (stopsAt_of_notMem (by decide) t) hq)
    have htag : tag.all Text.isAnyDigit = true ∨ tag.any Text.isBlank = true := by
      rcases List.append_eq_append_iff.mp (append_of_readQuoted hq) with
        ⟨v, -, hv⟩ | ⟨_ | ⟨c, k⟩, htag, htail⟩
      · exact hinside v hv
      · exact hinside [] htail.symm
      · obtain ⟨rfl, htail'⟩ := List.cons.inj htail
        rcases k with _ | ⟨c, k⟩
        · have hlast := congrArg List.getLast? htag
          simp at hlast
        · have hblank : Text.isBlank c = true := ht'.1 c (by rw [htail']; rfl)
          have hmem : c ∈ tag ++ ['$'] := by simp [htag]
          rcases List.mem_append.mp hmem with hmem | hmem
          · exact .inr (List.any_eq_true.mpr ⟨c, hmem, hblank⟩)
          · obtain rfl := List.mem_singleton.mp hmem
            exact absurd hblank (by decide)
    rw [← Bool.or_eq_true] at htag
    simp only [htag, if_true]

theorem carries_taggedToken (hl : l.IsProper) (ht : EndsBlank t) (ht' : IsTail t') (x : List Char) :
    Carries t t' (taggedToken l false (x ++ ';' :: t)) (taggedToken l false (x ++ ';' :: t')) := by
  have hbetween : ∀ {tag v s y}, tag.any Text.isBlank = false →
      taggedToken.between l tag (v ++ ';' :: t) = .ok (s, y ++ ';' :: t) →
      taggedToken.between l tag (v ++ ';' :: t') = .ok (s, y ++ ';' :: t') := by
    intro tag v s y hblank h
    obtain ⟨inner, hq, rfl⟩ := quotedToken_eq_ok h
    have hmark : ∀ c ∈ '$' :: tag ++ ['$'], Text.isBlank c = false := by
      intro c hc
      rcases List.mem_append.mp hc with hc | hc
      · rcases List.mem_cons.mp hc with rfl | hc
        · decide
        · simpa using List.any_eq_false.mp hblank c hc
      · obtain rfl := List.mem_singleton.mp hc
        decide
    have hq' := carries_readQuoted (by simp) (stopsAt_of_isTail hmark ht') hq
    dsimp only [taggedToken.between]
    rw [hq']
    rfl
  intro s y h
  by_cases hdollar : x.head? = some '$'
  · obtain ⟨x, rfl⟩ : ∃ x', x = '$' :: x' := by
      cases x with
      | nil => cases hdollar
      | cons c x => exact ⟨x, by rw [Option.some.inj hdollar]⟩
    exact hbetween (by rfl) h
  have hfirst : ∀ c ∈ x.head?, c ≠ '$' := by
    rintro c hc rfl
    exact hdollar hc
  have hnone : HasNoTag l (x ++ ';' :: t) →
      (.ok (bareToken .parameter ['$'] (x ++ ';' :: t)) : Except Fault _) =
        .ok (s, y ++ ';' :: t) →
      taggedToken l false (x ++ ';' :: t') = .ok (s, y ++ ';' :: t') := by
    intro hnotag h
    obtain ⟨rfl, hy⟩ := Prod.mk.inj (Except.ok.inj h)
    obtain rfl := List.append_cancel_right hy
    exact taggedToken_of_hasNoTag hl ht' hfirst hnotag
  rw [taggedToken_semicolon hl ht hfirst] at h
  cases hq : readQuoted l l.escapes ['$'] (x ++ ';' :: t) with
  | escapedEnd | unclosed =>
    rw [hq] at h
    exact hnone (fun tag body hclosed => by rw [hq] at hclosed; cases hclosed) h
  | closed tag body =>
    simp only [hq] at h
    split at h
    · rename_i htag
      refine hnone (fun tag' body' hclosed => ?_) h
      rw [hq] at hclosed
      obtain ⟨rfl, -⟩ := Quotation.closed.inj hclosed
      exact Bool.or_eq_true_iff.mp htag
    · rename_i htag
      obtain ⟨hdigits, hblank⟩ := Bool.or_eq_false_iff.mp (Bool.eq_false_iff.mpr htag)
      -- The body ends before the semicolon, so it stands before it.
      obtain ⟨v, rfl⟩ : ∃ v, body = v ++ ';' :: t := by
        obtain ⟨inner, hinner, -⟩ := quotedToken_eq_ok h
        exact ⟨_, (by rw [← append_of_readQuoted hinner, ← List.append_assoc])⟩
      have hq' : readQuoted l l.escapes ['$'] (x ++ ';' :: t') = .closed tag (v ++ ';' :: t') :=
        carries_readQuoted (by simp) (stopsAt_of_notMem (by decide) t') hq
      rw [taggedToken_semicolon hl ht'.2 hfirst, hq']
      simp only [htag]
      exact hbetween hblank h

/-! ### Segments -/

theorem carries_quotedToken {escapes opening close : List Char} (hne : close ≠ [])
    (hclose : ';' ∉ close) (x : List Char) :
    Carries t t' (quotedToken opening close (readQuoted l escapes close (x ++ ';' :: t)))
      (quotedToken opening close (readQuoted l escapes close (x ++ ';' :: t'))) := by
  intro s y h
  obtain ⟨inner, hq, rfl⟩ := quotedToken_eq_ok h
  rw [carries_readQuoted hne (stopsAt_of_notMem hclose t') hq]
  rfl

theorem carries_digitsToken {base : Nat} {escapes opening : List Char} (x : List Char) :
    Carries t t' (digitsToken base opening (readQuoted l escapes ['\''] (x ++ ';' :: t)))
      (digitsToken base opening (readQuoted l escapes ['\''] (x ++ ';' :: t'))) := by
  intro s y h
  obtain ⟨inner, hq, rfl⟩ := digitsToken_eq_ok h
  have hdef : ∀ rest, digitsToken base opening (.closed inner rest) =
      if inner.isEmpty || isNumeral base (String.ofList inner) then
        quotedToken opening ['\''] (.closed inner rest)
      else unclosed := fun _ => rfl
  rw [hq, hdef] at h
  rw [carries_readQuoted (by simp) (stopsAt_of_notMem (by decide) t') hq, hdef]
  split at h
  · rename_i hdigits
    rw [if_pos hdigits]
    rfl
  · cases h

/-- A comment that ends with its line before a semicolon ends there. -/
theorem carries_lineComment (opening x : List Char) :
    Carries t t' (.ok (lineComment opening (x ++ ';' :: t)))
      (.ok (lineComment opening (x ++ ';' :: t'))) := by
  let isOnLine (c : Char) : Bool := c != '\n' && c != '\r'
  intro s y h
  have hdrop : (x ++ ';' :: t).dropWhile isOnLine = y ++ ';' :: t :=
    (Prod.mk.inj (Except.ok.inj h)).2
  -- The line ends before the semicolon, or else the comment goes on behind it.
  have hends : (x.dropWhile isOnLine).isEmpty = false := by
    rw [Bool.eq_false_iff]
    intro hempty
    rw [List.dropWhile_append, if_pos hempty, List.dropWhile_cons, if_pos (by decide)] at hdrop
    have hlength := (List.dropWhile_suffix isOnLine (l := t)).length_le
    rw [hdrop, List.length_append, List.length_cons] at hlength
    omega
  have hcomment : ∀ z, lineComment opening (x ++ ';' :: z) =
      (.gap (opening ++ x.takeWhile isOnLine), x.dropWhile isOnLine ++ ';' :: z) := by
    intro z
    have htake : (x ++ ';' :: z).takeWhile isOnLine = x.takeWhile isOnLine := by
      rw [List.takeWhile_append, if_neg]
      intro hlength
      have hsplit := congrArg List.length (List.takeWhile_append_dropWhile (p := isOnLine) (l := x))
      rw [List.length_append, hlength] at hsplit
      have hnil : x.dropWhile isOnLine = [] := List.eq_nil_of_length_eq_zero (by omega)
      rw [hnil] at hends
      cases hends
    have hdrop' : (x ++ ';' :: z).dropWhile isOnLine = x.dropWhile isOnLine ++ ';' :: z := by
      rw [List.dropWhile_append, if_neg (by simp [hends])]
    exact congrArg₂ Prod.mk (congrArg (fun cs => Segment.gap (opening ++ cs)) htake) hdrop'
  rw [hcomment] at h ⊢
  obtain ⟨rfl, hy⟩ := Prod.mk.inj (Except.ok.inj h)
  rw [List.append_cancel_right hy]

theorem carries_punctuationOrWord (hl : l.IsProper) (afterMark : Bool) (c : Char) (x : List Char) :
    Carries t t' (.ok (punctuationOrWord l afterMark c (x ++ ';' :: t)))
      (.ok (punctuationOrWord l afterMark c (x ++ ';' :: t'))) := by
  rw [punctuationOrWord_semicolon hl, punctuationOrWord_semicolon hl]
  exact carries_ok t t' _

/-- **A segment that is read before a semicolon is read so** whatever follows. -/
theorem carries_readSegment (hl : l.IsProper) (ht : EndsBlank t) (ht' : IsTail t')
    (afterMark : Bool) (c : Char) (x : List Char) :
    Carries t t' (readSegment l afterMark c (x ++ ';' :: t))
      (readSegment l afterMark c (x ++ ';' :: t')) := by
  unfold readSegment
  split
  · exact carries_ok t t' (.gap [c], x)
  split
  · rw [numberToken_semicolon hl, numberToken_semicolon hl]
    exact carries_ok t t' _
  split
  · rename_i close hquote
    have hclose : close ≠ ';' := by
      obtain ⟨front, back, hquotes, -⟩ := List.lookup_eq_some_iff.mp hquote
      exact (hl.nameQuotes (c, close) (by simp [hquotes])).2
    exact carries_quotedToken (by simp) (by simpa using hclose.symm) x
  rw [← List.cons_append, ← List.cons_append, entryAt?_semicolon hl, entryAt?_semicolon hl]
  cases hm : l.entryAt? (c :: x) with
  | none => exact carries_punctuationOrWord hl afterMark c x
  | some m =>
    obtain ⟨hmem, hread⟩ := entryAt?_eq_some hm
    have hproper : Entry.isProper m.key m.entry = true := hl.entries _ hmem
    simp only [Option.map_some, matchWithSemicolon]
    cases hentry : m.entry with
    | quoted close escapes =>
      rw [hentry] at hproper
      simp [Entry.isProper] at hproper
      exact carries_quotedToken (by simpa using hproper.2.1) hproper.2.2 m.rest
    | digits base => exact carries_digitsToken m.rest
    | tag required =>
      rw [hentry] at hproper
      obtain rfl : required = false := by simp_all [Entry.isProper]
      exact carries_taggedToken hl ht ht' m.rest
    | comment close =>
      cases close with
      | none => exact carries_lineComment m.text m.rest
      | some close =>
        rw [hentry] at hproper
        simp [Entry.isProper] at hproper
        have hopening : ';' ∉ m.text := notMem_of_readKey? hproper.1.2 hread
        intro s y h
        dsimp only at h ⊢
        split at h
        · rename_i text rest hcomment
          obtain ⟨rfl, rfl⟩ := Prod.mk.inj (Except.ok.inj h)
          rw [carries_readComment? (by simpa using hproper.2.1) hopening hproper.2.2 hcomment]
        · cases h
    | symbol kind =>
      dsimp only
      have hends : l.endsBefore (m.rest ++ ';' :: t) = l.endsBefore (m.rest ++ ';' :: t') := by
        cases m.rest <;> rfl
      rw [hends]
      split
      · exact carries_ok t t' (bareToken kind m.text m.rest)
      · exact carries_punctuationOrWord hl afterMark c x

theorem carries_readCommandBody (hl : l.IsProper) (ht : EndsBlank t) (ht' : IsTail t') :
    ∀ {n n' : Nat} {afterMark : Bool} {x text y : List Char},
      (x ++ ';' :: t).length < n → (x ++ ';' :: t').length < n' →
      readCommandBody l n afterMark (x ++ ';' :: t) = .ok (text, y ++ ';' :: t) →
      readCommandBody l n' afterMark (x ++ ';' :: t') = .ok (text, y ++ ';' :: t')
  | 0, _, _, _, _, _, hn, _, _ => absurd hn (Nat.not_lt_zero _)
  | _, 0, _, _, _, _, _, hn', _ => absurd hn' (Nat.not_lt_zero _)
  | n + 1, n' + 1, afterMark, [], text, y, _, _, h => by
    rw [List.nil_append, readCommandBody, if_pos rfl] at h ⊢
    obtain ⟨rfl, hy⟩ := Prod.mk.inj (Except.ok.inj h)
    obtain rfl := List.append_cancel_right (show [] ++ ';' :: t = y ++ ';' :: t from hy)
    rfl
  | n + 1, n' + 1, afterMark, c :: x, text, y, hn, hn', h => by
    rw [List.cons_append, readCommandBody] at h ⊢
    split at h
    · rename_i hc
      obtain ⟨rfl, hy⟩ := Prod.mk.inj (Except.ok.inj h)
      obtain rfl := List.append_cancel_right (show (c :: x) ++ ';' :: t = y ++ ';' :: t from hy)
      rw [if_pos hc]
      rfl
    · rename_i hc
      obtain ⟨⟨s, rest⟩, hs, h⟩ := Results.bind_eq_ok_iff.mp h
      obtain ⟨⟨text₂, rest₂⟩, hbody, h⟩ := Results.bind_eq_ok_iff.mp h
      obtain ⟨rfl, rfl⟩ := Prod.mk.inj (Except.ok.inj h)
      -- The body goes on before the semicolon, so its first segment ends before it.
      have hrest : rest = (text₂ ++ y) ++ ';' :: t := by
        rw [← append_of_readCommandBody hl hbody, List.append_assoc]
      subst hrest
      have hs' := carries_readSegment hl ht ht' afterMark c x s (text₂ ++ y) hs
      have hlength := length_le_of_readSegment hl hs
      have hlength' := length_le_of_readSegment hl hs'
      rw [List.cons_append, List.length_cons] at hn hn'
      have hbody' : readCommandBody l n' _ ((text₂ ++ y) ++ ';' :: t') =
          .ok (text₂, y ++ ';' :: t') :=
        carries_readCommandBody hl ht ht' (by omega) (by omega) hbody
      rw [if_neg hc, hs']
      change (readCommandBody l n' _ _ >>= _) = _
      rw [hbody']
      rfl

/-- **What is read at the front before a semicolon is read so** whatever follows. -/
theorem carries_readFront (hl : l.IsProper) (ht : EndsBlank t) (ht' : IsTail t')
    {before after : Option TokenKind} {c : Char} {front : List Segment}
    (h : readFront l before c (x ++ ';' :: t) = .ok (front, after, y ++ ';' :: t)) :
    readFront l before c (x ++ ';' :: t') = .ok (front, after, y ++ ';' :: t') := by
  have hcarries := carries_readSegment (t := t) hl ht ht' (before == some .parameter) c x
  rcases readFront_cases h with ⟨s, hs, rfl, hkind⟩ | ⟨t₁, rest₁, body, hs, hcommand, hbody, hfront⟩
  · rw [readFront, hcarries s y hs]
    cases s with
    | gap text =>
      obtain rfl := hkind
      rfl
    | token t₁ =>
      obtain ⟨hcommand, rfl⟩ := hkind
      change (if t₁.isCommand l && startsStatement before then _ else _) = _
      rw [hcommand]
      rfl
  · have hrest : rest₁ = (body ++ y) ++ ';' :: t := by
      rw [← append_of_readCommandBody hl hbody, List.append_assoc]
    subst hrest
    rw [readFront, hcarries _ _ hs]
    change (if t₁.isCommand l && startsStatement before then _ else _) = _
    have hbody' := carries_readCommandBody hl ht ht' (Nat.lt_succ_self _)
      (Nat.lt_succ_self ((body ++ y) ++ ';' :: t').length) hbody
    rw [hcommand, if_pos rfl, hbody']
    change (if (Text.trimChars body).isEmpty then _ else _) = _
    split at hfront
    · rename_i hempty
      rw [if_pos hempty, hfront.1, hfront.2]
      rfl
    · rename_i hempty
      rw [if_neg hempty, hfront.1, hfront.2]
      rfl

/-- **What is read up to a semicolon does not depend on what follows it**, if that
begins with a blank. -/
theorem Reads.carry (hl : l.IsProper) (ht : EndsBlank t) (ht' : IsTail t')
    {before after : Option TokenKind} {ss : List Segment}
    (h : Reads l before (x ++ ';' :: t) ss after (';' :: t)) :
    Reads l before (x ++ ';' :: t') ss after (';' :: t') := by
  generalize hcs : x ++ ';' :: t = cs at h
  generalize hrest : ';' :: t = rest at h
  induction h generalizing x with
  | done =>
    obtain rfl : x = [] := by simpa using hcs.trans hrest.symm
    exact .done
  | @front before middle after c cs rest rest' front ss hfront hreads ih =>
    subst hrest
    have hmiddle : rest = textOf ss ++ ';' :: t := (hreads.textOf_append hl).symm
    subst hmiddle
    rcases x with _ | ⟨c', x⟩
    · obtain ⟨rfl, rfl⟩ := List.cons.inj hcs
      have hlength := (append_of_readFront hl hfront).2
      rw [List.length_append, List.length_cons] at hlength
      omega
    · obtain ⟨rfl, rfl⟩ := List.cons.inj hcs
      exact .front (carries_readFront hl ht ht' hfront) (ih rfl rfl)

end Sql
end TableGate

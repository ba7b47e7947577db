/-
# Texts that are cut where they were joined

Texts with a character between them are split at that character into themselves,
as long as it stands in none of them and there is at least one (`splitAt_join`); a
text is cut into the two it was made of at the first copy of a character if the
front has none, and at the last one if the back has none.

A text stays as it is when it is trimmed if it neither begins nor ends with a
blank (`trim_eq_self`), and of a text with another character something is left
(`isEmpty_trim_iff`). Trimming takes nothing but blanks (`solid_trimChars`).

Key definitions: `Text.solid`.
Key theorems: `Text.splitAt_join`, `Text.cutFirst?_append`, `Text.cutFirst?_eq_some_iff`,
`Text.cutLast?_append`, `Text.trim_eq_self`, `Text.isEmpty_trim_iff`, `Text.exists_append_trimChars`,
`Text.solid_trimChars`.
-/
import Mathlib.Data.List.TakeWhile
import TableGate.Text.Blank
import TableGate.Text.Cut

namespace TableGate
namespace Text

variable {c : Char} {between : String}

/-! ### Deciding a statement about the characters of a text

What holds for every character of a list is decided along the list. The instance for a
statement about all characters there are would try each of them. -/

section

variable (p : Char → Prop) [DecidablePred p]

instance (priority := high) decidableForallMem (cs : List Char) : Decidable (∀ c ∈ cs, p c) :=
  List.decidableBAll p cs

instance (priority := high) decidableForallMemOption (c? : Option Char) :
    Decidable (∀ c ∈ c?, p c) :=
  Option.decidableForallMem c?

instance (priority := high) decidableExistsMemOption (c? : Option Char) :
    Decidable (∃ c ∈ c?, p c) :=
  Option.decidableExistsMem c?

end

/-! ### Joined and split -/

theorem join_concat (between : String) : ∀ {front : List String}, front ≠ [] → ∀ last : String,
    join between (front ++ [last]) = join between front ++ between ++ last
  | [], hne, _ => absurd rfl hne
  | [_], _, _ => rfl
  | s :: t :: rest, _, last => by
    have ih : join between (t :: rest ++ [last]) = join between (t :: rest) ++ between ++ last :=
      join_concat between (by simp) last
    rw [List.cons_append, List.cons_append, join, ← List.cons_append, ih, join]
    simp only [String.append_assoc]

theorem splitChars_of_notMem : ∀ {cs : List Char}, c ∉ cs → splitChars c cs = [cs]
  | [], _ => rfl
  | x :: cs, h => by
    have hx : x ≠ c := fun he => h (by simp [he])
    have ih : splitChars c cs = [cs] := splitChars_of_notMem fun hc => h (by simp [hc])
    rw [splitChars, if_neg hx, ih]

theorem splitChars_append : ∀ {front : List Char}, c ∉ front → ∀ back : List Char,
    splitChars c (front ++ c :: back) = front :: splitChars c back
  | [], _, back => by rw [List.nil_append, splitChars, if_pos rfl]
  | x :: front, h, back => by
    have hx : x ≠ c := fun he => h (by simp [he])
    have ih : splitChars c (front ++ c :: back) = front :: splitChars c back :=
      splitChars_append (fun hc => h (by simp [hc])) back
    rw [List.cons_append, splitChars, if_neg hx, ih]

/-- **Texts are split where they were joined.** -/
theorem splitAt_join (hb : between.toList = [c]) : ∀ {texts : List String}, texts ≠ [] →
    (∀ s ∈ texts, c ∉ s.toList) → splitAt c (join between texts) = texts
  | [], hne, _ => absurd rfl hne
  | [s], _, h => by
    rw [join, splitAt, splitChars_of_notMem (h s (by simp)), List.map_singleton,
      String.ofList_toList]
  | s :: t :: rest, _, h => by
    have ih : splitAt c (join between (t :: rest)) = t :: rest :=
      splitAt_join hb (by simp) fun u hu => h u (List.mem_cons_of_mem _ hu)
    have hparts : (join between (s :: t :: rest)).toList =
        s.toList ++ c :: (join between (t :: rest)).toList := by
      rw [join, String.toList_append, String.toList_append, hb, List.append_assoc,
        List.singleton_append]
    rw [splitAt, hparts, splitChars_append (h s (by simp)), List.map_cons, String.ofList_toList]
    exact congrArg (s :: ·) ih

/-! ### Cut in two -/

theorem cutFirstChars?_append : ∀ {front : List Char}, c ∉ front → ∀ back : List Char,
    cutFirstChars? c (front ++ c :: back) = some (front, back)
  | [], _, back => by rw [List.nil_append, cutFirstChars?, if_pos rfl]
  | x :: front, h, back => by
    have hx : x ≠ c := fun he => h (by simp [he])
    have ih : cutFirstChars? c (front ++ c :: back) = some (front, back) :=
      cutFirstChars?_append (fun hc => h (by simp [hc])) back
    rw [List.cons_append, cutFirstChars?, if_neg hx, ih, Option.map_some]

/-- A text is cut at the first copy of the character, and nowhere else. -/
theorem cutFirstChars?_eq_some_iff {cs front back : List Char} :
    cutFirstChars? c cs = some (front, back) ↔ cs = front ++ c :: back ∧ c ∉ front := by
  constructor
  · intro h
    induction cs generalizing front with
    | nil => cases h
    | cons x xs ih =>
      rw [cutFirstChars?] at h
      split at h
      · next hx =>
        obtain ⟨rfl, rfl⟩ := Prod.mk.inj (Option.some.inj h)
        exact ⟨by rw [hx]; rfl, List.not_mem_nil⟩
      · next hx =>
        obtain ⟨⟨front', back'⟩, hcut, hparts⟩ := Option.map_eq_some_iff.mp h
        obtain ⟨rfl, rfl⟩ := Prod.mk.inj hparts
        obtain ⟨rfl, hfront⟩ := ih hcut
        exact ⟨rfl, fun hmem => (List.mem_cons.mp hmem).elim (fun he => hx he.symm) hfront⟩
  · rintro ⟨rfl, hfront⟩
    exact cutFirstChars?_append hfront back

theorem cutLastChars?_eq_none : ∀ {cs : List Char}, c ∉ cs → cutLastChars? c cs = none
  | [], _ => rfl
  | x :: cs, h => by
    have hx : x ≠ c := fun he => h (by simp [he])
    have ih : cutLastChars? c cs = none := cutLastChars?_eq_none fun hc => h (by simp [hc])
    simp only [cutLastChars?, ih, if_neg hx]

theorem cutLastChars?_append {back : List Char} (h : c ∉ back) : ∀ front : List Char,
    cutLastChars? c (front ++ c :: back) = some (front, back)
  | [] => by simp only [List.nil_append, cutLastChars?, cutLastChars?_eq_none h, if_pos]
  | x :: front => by
    have ih := cutLastChars?_append h front
    simp only [List.cons_append, cutLastChars?, ih]

theorem toList_append_between (hb : between.toList = [c]) (front back : String) :
    (front ++ between ++ back).toList = front.toList ++ c :: back.toList := by
  rw [String.toList_append, String.toList_append, hb, List.append_assoc, List.singleton_append]

theorem cutFirst?_append (hb : between.toList = [c]) {front : String} (h : c ∉ front.toList)
    (back : String) : cutFirst? c (front ++ between ++ back) = some (front, back) := by
  rw [cutFirst?, toList_append_between hb, cutFirstChars?_append h, Option.map_some,
    String.ofList_toList, String.ofList_toList]

theorem cutFirst?_eq_some_iff (hb : between.toList = [c]) {s front back : String} :
    cutFirst? c s = some (front, back) ↔ s = front ++ between ++ back ∧ c ∉ front.toList := by
  rw [cutFirst?, Option.map_eq_some_iff]
  constructor
  · rintro ⟨⟨front', back'⟩, hcut, hparts⟩
    obtain ⟨rfl, rfl⟩ := Prod.mk.inj hparts
    obtain ⟨hchars, hfront⟩ := cutFirstChars?_eq_some_iff.mp hcut
    rw [String.toList_ofList]
    refine ⟨String.toList_injective ?_, hfront⟩
    rw [toList_append_between hb, String.toList_ofList, String.toList_ofList, hchars]
  · rintro ⟨rfl, hfront⟩
    refine ⟨(front.toList, back.toList), ?_, by simp⟩
    rw [toList_append_between hb, cutFirstChars?_append hfront]

theorem cutLast?_append (hb : between.toList = [c]) (front : String) {back : String}
    (h : c ∉ back.toList) : cutLast? c (front ++ between ++ back) = some (front, back) := by
  rw [cutLast?, toList_append_between hb, cutLastChars?_append h, Option.map_some,
    String.ofList_toList, String.ofList_toList]

/-! ### Trimmed -/

theorem isBlank_of_isVisible (h : 33 ≤ c.toNat ∧ c.toNat ≤ 126) : isBlank c = false := by
  have hapart : ∀ r ∈ blankRanges, r.2 < 33 ∨ 126 < r.1 := by decide
  refine List.any_eq_false.mpr fun r hr => ?_
  have hdisjoint := hapart r hr
  simp only [Bool.and_eq_true, decide_eq_true_eq]
  omega

theorem dropWhile_eq_self {p : Char → Bool} {cs : List Char} (h : ∀ x ∈ cs.head?, p x = false) :
    cs.dropWhile p = cs := by
  cases cs with
  | nil => rfl
  | cons x xs => rw [List.dropWhile_cons_of_neg (by simp [h x rfl])]

/-- What is dropped from the end stands behind the last character that stays. -/
theorem dropEndWhile_append {p : Char → Bool} {front back : List Char}
    (hback : ∀ x ∈ back, p x = true) (hfront : ∀ x ∈ front.getLast?, p x = false) :
    dropEndWhile p (front ++ back) = front := by
  have hkept : front.reverse.dropWhile p = front.reverse := by
    refine dropWhile_eq_self fun x hx => hfront x ?_
    rwa [List.head?_reverse] at hx
  rw [dropEndWhile, List.reverse_append,
    List.dropWhile_append_of_pos fun x hx => hback x (List.mem_reverse.mp hx), hkept,
    List.reverse_reverse]

theorem dropEndWhile_eq_self {p : Char → Bool} {cs : List Char}
    (h : ∀ x ∈ cs.getLast?, p x = false) : dropEndWhile p cs = cs := by
  have happend := dropEndWhile_append (List.forall_mem_nil _) h
  rwa [List.append_nil] at happend

/-- **A text that neither begins nor ends with a blank is trimmed.** -/
theorem trim_eq_self {s : String} (hfirst : ∀ x ∈ s.toList.head?, isBlank x = false)
    (hlast : ∀ x ∈ s.toList.getLast?, isBlank x = false) : trim s = s := by
  rw [trim, trimChars, dropWhile_eq_self hfirst, dropEndWhile_eq_self hlast, String.ofList_toList]

theorem trim_of_all {s : String} (h : ∀ x ∈ s.toList, isBlank x = false) : trim s = s :=
  trim_eq_self (fun x hx => h x (List.mem_of_mem_head? hx))
    fun x hx => h x (List.mem_of_mem_getLast? hx)

/-- Nothing is left of a text only if it is blank. -/
theorem isEmpty_trim_iff {s : String} :
    (trim s).isEmpty = true ↔ ∀ x ∈ s.toList, isBlank x = true := by
  have hdropped : ∀ cs : List Char, dropEndWhile isBlank cs = [] ↔ ∀ x ∈ cs, isBlank x = true := by
    intro cs
    rw [dropEndWhile, List.reverse_eq_nil_iff, List.dropWhile_eq_nil_iff]
    simp
  rw [trim, String.isEmpty_iff, String.ofList_eq_empty_iff, trimChars, hdropped]
  constructor
  · intro h
    by_contra hsome
    have hne : s.toList.dropWhile isBlank ≠ [] :=
      fun hnil => hsome (List.dropWhile_eq_nil_iff.mp hnil)
    have hhead : isBlank ((s.toList.dropWhile isBlank).head hne) = false := by
      simpa using List.head_dropWhile_not isBlank hne
    rw [h _ (List.head_mem hne)] at hhead
    cases hhead
  · exact fun h x hx => h x ((List.dropWhile_suffix _).subset hx)

/-- A trimmed text stands behind the blanks at the front and before those at the end. -/
theorem takeWhile_append_trimChars (cs : List Char) :
    ∃ back, (∀ x ∈ back, isBlank x = true) ∧ cs.takeWhile isBlank ++ trimChars cs ++ back = cs := by
  refine ⟨((cs.dropWhile isBlank).reverse.takeWhile isBlank).reverse,
    fun x hx => List.mem_takeWhile_imp (List.mem_reverse.mp hx), ?_⟩
  rw [trimChars, dropEndWhile, List.append_assoc, ← List.reverse_append,
    List.takeWhile_append_dropWhile, List.reverse_reverse, List.takeWhile_append_dropWhile]

/-- A trimmed text is what is left between the blanks at both ends. -/
theorem exists_append_trimChars (cs : List Char) :
    ∃ front back, (∀ x ∈ front, isBlank x = true) ∧ (∀ x ∈ back, isBlank x = true) ∧
      front ++ trimChars cs ++ back = cs := by
  obtain ⟨back, hback, happend⟩ := takeWhile_append_trimChars cs
  exact ⟨_, back, fun x hx => List.mem_takeWhile_imp hx, hback, happend⟩

/-- Blanks before a text are trimmed off. -/
theorem trimChars_append {front : List Char} (h : ∀ x ∈ front, isBlank x = true)
    (cs : List Char) : trimChars (front ++ cs) = trimChars cs := by
  rw [trimChars, List.dropWhile_append_of_pos h, trimChars]

theorem trimChars_cons {c : Char} (hc : isBlank c = false) (cs : List Char) :
    ∃ cs', trimChars (c :: cs) = c :: cs' := by
  obtain ⟨front, back, hfront, hback, happend⟩ := exists_append_trimChars (c :: cs)
  have hkept : ∀ xs, (∀ x ∈ xs, isBlank x = true) → ∀ ys, xs ++ ys = c :: cs → xs = [] := by
    rintro (_ | ⟨x, xs⟩) hxs ys hys
    · rfl
    · obtain ⟨rfl, -⟩ := List.cons.inj hys
      rw [hxs _ List.mem_cons_self] at hc
      cases hc
  obtain rfl := hkept front hfront _ ((List.append_assoc ..).symm.trans happend)
  rw [List.nil_append] at happend
  cases htrim : trimChars (c :: cs) with
  | nil =>
    rw [htrim] at happend
    obtain rfl := hkept back hback [] (by simpa using happend)
    cases happend
  | cons c' cs' =>
    rw [htrim] at happend
    exact ⟨cs', by rw [(List.cons.inj happend).1]⟩

theorem isBlank_of_mem_head?_trimChars {cs : List Char} {c : Char}
    (h : c ∈ (trimChars cs).head?) : isBlank c = false := by
  have hfirst := List.head?_dropWhile_not isBlank cs
  cases hkept : cs.dropWhile isBlank with
  | nil =>
    rw [trimChars, hkept] at h
    cases h
  | cons x rest =>
    rw [hkept] at hfirst
    have hx : isBlank x = false := by simpa using hfirst
    have hagain : trimChars cs = trimChars (x :: rest) := by
      rw [trimChars, hkept, trimChars, List.dropWhile_cons_of_neg (by simp [hx])]
    obtain ⟨rest', hcons⟩ := trimChars_cons hx rest
    rw [hagain, hcons] at h
    rw [← Option.some.inj h]
    exact hx

theorem isBlank_of_mem_getLast?_trimChars {cs : List Char} {c : Char}
    (h : c ∈ (trimChars cs).getLast?) : isBlank c = false := by
  rw [trimChars, dropEndWhile, List.getLast?_reverse] at h
  have hlast := List.head?_dropWhile_not isBlank (cs.dropWhile isBlank).reverse
  rw [Option.mem_def.mp h] at hlast
  simpa using hlast

/-- What is left of the end of a text is left at the end of the whole. -/
theorem dropEndWhile_suffix (p : Char → Bool) (front back : List Char) :
    dropEndWhile p back <:+ dropEndWhile p (front ++ back) := by
  rw [dropEndWhile, dropEndWhile, List.reverse_append, List.reverse_suffix, List.dropWhile_append]
  split
  · rename_i hnone
    rw [List.isEmpty_iff.mp hnone]
    exact List.nil_prefix
  · exact List.prefix_append ..

/-- The end of a text, trimmed by itself, stands at the end of the trimmed whole. -/
theorem trimChars_suffix (front back : List Char) :
    trimChars back <:+ trimChars (front ++ back) := by
  rw [trimChars, trimChars, List.dropWhile_append]
  split
  · exact List.suffix_refl _
  · have hparts : back.takeWhile isBlank ++ back.dropWhile isBlank = back :=
      List.takeWhile_append_dropWhile
    have hwhole := dropEndWhile_suffix isBlank
      (front.dropWhile isBlank ++ back.takeWhile isBlank) (back.dropWhile isBlank)
    rwa [List.append_assoc, hparts] at hwhole

/-- The number of characters that are no blanks. -/
def solid (cs : List Char) : Nat := cs.countP fun c => !isBlank c

@[simp] theorem solid_append (cs cs' : List Char) : solid (cs ++ cs') = solid cs + solid cs' :=
  List.countP_append

theorem solid_cons {c : Char} (hc : isBlank c = false) (cs : List Char) :
    solid (c :: cs) = solid cs + 1 := List.countP_cons_of_pos (by simp [hc])

theorem solid_eq_zero_iff {cs : List Char} : solid cs = 0 ↔ ∀ x ∈ cs, isBlank x = true := by
  simp [solid, List.countP_eq_zero]

theorem solid_trimChars (cs : List Char) : solid (trimChars cs) = solid cs := by
  obtain ⟨front, back, hfront, hback, happend⟩ := exists_append_trimChars cs
  have hsolid := congrArg solid happend
  rw [solid_append, solid_append, solid_eq_zero_iff.mpr hfront, solid_eq_zero_iff.mpr hback]
    at hsolid
  omega

theorem trimChars_ne_nil {cs : List Char} {c : Char} (hmem : c ∈ cs) (hc : isBlank c = false) :
    trimChars cs ≠ [] := by
  intro hnil
  have hsolid := solid_trimChars cs
  rw [hnil] at hsolid
  rw [solid_eq_zero_iff.mp hsolid.symm c hmem] at hc
  cases hc

end Text
end TableGate

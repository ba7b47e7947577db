/-
# Lower case, piece by piece

The form of a capital sigma depends on what stands around it, so the lower case of a text
is in general not that of its characters. It is that of its pieces, wherever the text is
cut at a character that has no case and that is not passed over when a neighbour with a
case is looked for (`IsNeutral`): a blank, a quotation mark.

Lower case never makes a blank.

Key definitions: `Text.IsNeutral`.
Key theorems: `Text.lower_append_of_last`, `Text.lower_append_of_first`,
`Text.blank_notMem_lower`.
-/
import TableGate.Text.Case

namespace TableGate
namespace Text

variable {c q : Char}

/-- A character at which a text may be cut before it is put into lower case. -/
structure IsNeutral (c : Char) : Prop where
  uncased : isCased c = false
  counts : isCaseIgnorable c = false
  lower_eq : lowerChar c = [c]

/-! ### Cutting at a neutral character -/

theorem IsNeutral.ne_sigma (hq : IsNeutral q) : q.toNat ≠ 0x3A3 := by
  intro h
  have hcased : isCased (Char.ofNat 0x3A3) = true := by decide
  rw [← h, Char.ofNat_toNat, hq.uncased] at hcased
  cases hcased

theorem casedNeighbour_append_cons (hq : IsNeutral q) (cs rest : List Char) :
    casedNeighbour (cs ++ q :: rest) = casedNeighbour cs := by
  induction cs with
  | nil => simp [casedNeighbour, hq.counts, hq.uncased]
  | cons c cs ih =>
    cases hc : isCaseIgnorable c with
    | false => simp [casedNeighbour, hc]
    | true => simpa [casedNeighbour, hc] using ih

/-- What stands before a neutral character does not matter behind it. -/
theorem lowerFrom_before (hq : IsNeutral q) (rest : List Char) :
    ∀ before cs : List Char, lowerFrom (before ++ q :: rest) cs = lowerFrom before cs
  | _, [] => rfl
  | before, c :: cs => by
    have ih := lowerFrom_before hq rest (c :: before) cs
    rw [List.cons_append] at ih
    simp only [lowerFrom, casedNeighbour_append_cons hq, ih]

theorem lowerFrom_append_cons (hq : IsNeutral q) (rest : List Char) :
    ∀ before cs : List Char,
      lowerFrom before (cs ++ q :: rest) = lowerFrom before cs ++ q :: lowerFrom [] rest
  | before, [] => by
    have hbehind : lowerFrom (q :: before) rest = lowerFrom [] rest :=
      lowerFrom_before hq before [] rest
    simp [lowerFrom, hq.ne_sigma, hq.lower_eq, hbehind]
  | before, c :: cs => by
    have ih := lowerFrom_append_cons hq rest (c :: before) cs
    simp only [List.cons_append, lowerFrom, casedNeighbour_append_cons hq, ih]
    split <;> simp

variable {front back : String}

/-- Lower case after a neutral character starts anew. -/
theorem lower_append_of_last (hq : IsNeutral q) (hlast : front.toList.getLast? = some q)
    (back : String) : lower (front ++ back) = lower front ++ lower back := by
  obtain ⟨cs, hfront⟩ := List.getLast?_eq_some_iff.mp hlast
  have hwhole := lowerFrom_append_cons hq back.toList [] cs
  have halone := lowerFrom_append_cons hq [] [] cs
  apply String.toList_inj.mp
  simp [lower, hfront, hwhole, halone, lowerFrom]

/-- Lower case before a neutral character ends there. -/
theorem lower_append_of_first (hq : IsNeutral q) (front : String)
    (hfirst : back.toList.head? = some q) : lower (front ++ back) = lower front ++ lower back := by
  obtain ⟨cs, hback⟩ := List.head?_eq_some_iff.mp hfirst
  have hwhole := lowerFrom_append_cons hq cs [] front.toList
  have halone := lowerFrom_append_cons hq cs [] []
  rw [List.nil_append] at halone
  apply String.toList_inj.mp
  simp [lower, hback, hwhole, halone, lowerFrom]

/-! ### Blanks -/

theorem Run.exists_of_find? {n m : Nat} : ∀ {runs : List Run}, Run.find? runs n = some m →
    ∃ r ∈ runs, r.first ≤ n ∧ m = (n + r.shift).toNat
  | r :: runs, h => by
    rw [Run.find?] at h
    split at h
    · next hr => exact ⟨r, List.mem_cons_self, hr.1, (Option.some.inj h).symm⟩
    · obtain ⟨r', hr', hm⟩ := Run.exists_of_find? h
      exact ⟨r', List.mem_cons_of_mem _ hr', hm⟩

/-- The small letters of the tables stand behind the blank. -/
theorem lt_of_find?_lowerRuns {n m : Nat} (h : Run.find? lowerRuns n = some m) : 32 < m := by
  have hruns : ∀ r ∈ lowerRuns, (32 : Int) < r.first + r.shift := by decide +kernel
  obtain ⟨r, hr, hfirst, rfl⟩ := Run.exists_of_find? h
  have hlt := hruns r hr
  omega

theorem ofNat_ne_blank {n : Nat} (h : 32 < n) : Char.ofNat n ≠ ' ' := by
  intro hblank
  have hcode : (Char.ofNat n).toNat = 32 := congrArg Char.toNat hblank
  by_cases hvalid : n.isValidChar
  · have hself : (Char.ofNat n).toNat = n := by rw [Char.ofNat, dif_pos hvalid]; rfl
    omega
  · have hzero : (Char.ofNat n).toNat = 0 := by rw [Char.ofNat, dif_neg hvalid]; rfl
    omega

theorem blank_notMem_lowerChar (hc : c ≠ ' ') : ' ' ∉ lowerChar c := by
  have hascii : ∀ n < 128, Char.ofNat n ≠ ' ' → (Char.ofNat n).toLower ≠ ' ' := by decide
  unfold lowerChar
  split
  · next hlt =>
    have hlower := hascii c.toNat hlt
    rw [Char.ofNat_toNat] at hlower
    simpa using (hlower hc).symm
  · split
    · decide
    · cases hfind : Run.find? lowerRuns c.toNat with
      | none => simpa using hc.symm
      | some n => simpa using (ofNat_ne_blank (lt_of_find?_lowerRuns hfind)).symm

theorem blank_notMem_lowerFrom :
    ∀ (before : List Char) {cs : List Char}, ' ' ∉ cs → ' ' ∉ lowerFrom before cs
  | _, [], h => h
  | before, c :: cs, h => by
    rw [List.mem_cons, not_or] at h
    obtain ⟨hc, hcs⟩ := h
    have ih := blank_notMem_lowerFrom (c :: before) hcs
    unfold lowerFrom
    split
    · have hsigma : ∀ last : Bool, ' ' ≠ Char.ofNat (if last then 0x3C2 else 0x3C3) := by decide
      rw [List.mem_cons, not_or]
      exact ⟨hsigma _, ih⟩
    · rw [List.mem_append, not_or]
      exact ⟨blank_notMem_lowerChar (Ne.symm hc), ih⟩

theorem blank_notMem_lower {s : String} (h : ' ' ∉ s.toList) : ' ' ∉ (lower s).toList := by
  rw [lower, String.toList_ofList]
  exact blank_notMem_lowerFrom [] h

end Text
end TableGate

/-
# Values under keys

The value under a key of a mapping is the first one there. Where entries are merged
by their keys, what was written last under a key is found under it
(`Value.lookup?_mergeKeys`).

A model is read if each of its fields is: one that has to be there is, and is read,
and so is any other that is there.

Key definitions: `Value.at?`.
Key theorems: `Value.lookup?_insert`, `Value.lookup?_mergeKeys`,
`Reader.fits_required`, `Reader.fits_defaulted`.
-/
import Mathlib.Data.List.Induction
import TableGate.Schema.Reader

namespace TableGate

/-! ### Keys of mappings -/

namespace Value

/-- The value under a key of a mapping. -/
def at? (v : Value) (key : String) : Option Value :=
  match v with
  | .mapping entries => lookup? entries key
  | _ => none

theorem lookup?_cons (e : String × Value) (entries : List (String × Value)) (key : String) :
    lookup? (e :: entries) key = if e.1 = key then some e.2 else lookup? entries key := by
  by_cases h : e.1 = key <;> simp [lookup?, h]

/-- What is written under a key is found under it, and nothing else changes. -/
theorem lookup?_insert (entries : List (String × Value)) (key : String) (v : Value)
    (other : String) :
    lookup? (insert entries key v) other = if key = other then some v else lookup? entries other := by
  induction entries with
  | nil => rw [insert, lookup?_cons]
  | cons e rest ih =>
    by_cases hkey : e.1 = key
    · rw [insert, if_pos (by simpa using hkey), lookup?_cons, lookup?_cons, hkey]
      by_cases hother : key = other <;> simp [hother]
    · rw [insert, if_neg (by simpa using hkey), lookup?_cons, lookup?_cons, ih]
      by_cases hother : e.1 = other
      · have hne : key ≠ other := fun h => hkey (hother.trans h.symm)
        rw [if_pos hother, if_pos hother, if_neg hne]
      · rw [if_neg hother, if_neg hother]

/-- **Of values under one key the last counts.** -/
theorem lookup?_mergeKeys (entries : List (String × Value)) (key : String) :
    lookup? (mergeKeys entries) key = lookup? entries.reverse key := by
  induction entries using List.reverseRecOn with
  | nil => rfl
  | append_singleton entries e ih =>
    have hlast : mergeKeys (entries ++ [e]) = insert (mergeKeys entries) e.1 e.2 := by
      rw [mergeKeys, List.foldl_append]
      rfl
    rw [hlast, lookup?_insert, ih, List.reverse_append, List.reverse_singleton,
      List.singleton_append, lookup?_cons]

theorem lookup?_eq_some {entries : List (String × Value)} {key : String} {v : Value}
    (hmem : (key, v) ∈ entries) (hall : ∀ e ∈ entries, e.1 = key → e.2 = v) :
    lookup? entries key = some v := by
  obtain ⟨e, he⟩ : ∃ e, entries.find? (fun e => e.1 == key) = some e :=
    Option.isSome_iff_exists.mp (List.find?_isSome.mpr ⟨_, hmem, by simp⟩)
  have hkey : e.1 = key := by simpa using List.find?_some he
  rw [lookup?, he, Option.map_some, hall e (List.mem_of_find?_eq_some he) hkey]

theorem lookup?_eq_none {entries : List (String × Value)} {key : String}
    (h : ∀ e ∈ entries, e.1 ≠ key) : lookup? entries key = none := by
  rw [lookup?, Option.map_eq_none_iff, List.find?_eq_none]
  exact fun e he => by simpa using h e he

end Value

/-! ### Fields of models -/

namespace Checked

variable {α β : Type}

theorem fits_map {x : Checked α} {a : α} (f : α → β) (h : x = .fits a) : f <$> x = .fits (f a) := by
  rw [h]
  rfl

theorem fits_seq {f : Checked (α → β)} {x : Checked α} {g : α → β} {a : α} (hf : f = .fits g)
    (hx : x = .fits a) : f <*> x = .fits (g a) := by
  rw [hf, hx]
  rfl

theorem thenCheck_id {x : Checked (Checked α)} {y : Checked α} (h : x = .fits y) :
    x.thenCheck id = y := by
  rw [h, thenCheck, id_eq]

end Checked

namespace Reader

variable {α : Type} {es : Entries} {name : String} {read : Value → Checked α} {v : Value} {a : α}

theorem fits_required (hv : Value.lookup? es name = some v) (ha : read v = .fits a) :
    required es name read = .fits a := by
  simp only [required, hv, ha]
  rfl

theorem fits_defaulted (default : α) (hv : Value.lookup? es name = some v)
    (ha : read v = .fits a) : defaulted es name default read = .fits a := by
  simp only [defaulted, hv, ha]
  rfl

theorem fits_texts (texts : List String) : list text (.list (texts.map .text)) = .fits texts := by
  have hitems : ∀ (texts : List String) (k : Nat), items text k (texts.map .text) = .fits texts := by
    intro texts
    induction texts with
    | nil => intro k; rfl
    | cons s texts ih =>
      intro k
      rw [List.map_cons, items, ih]
      rfl
  exact hitems texts 0

end Reader

end TableGate

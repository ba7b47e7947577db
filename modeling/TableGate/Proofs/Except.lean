/-
# Results that may be failures

A computation of several steps succeeds if each of them does, and a computation
over a list if it does for each item. Two computations end alike (`Alike`) if their
steps do.

Key definitions: `Alike`.
Key theorems: `bind_eq_ok_iff`, `mapM_eq_ok_iff`, `mapM_eq_error_iff`,
`foldlM_eq_error_iff`, `Alike.bind`, `Alike.mapM`.
-/
import Mathlib.Data.List.Forall2

namespace TableGate
namespace Results

variable {ε α β : Type}

/-- Two steps succeed if the first does and the second does with its result. -/
theorem bind_eq_ok_iff {x : Except ε α} {f : α → Except ε β} {b : β} :
    x >>= f = .ok b ↔ ∃ a, x = .ok a ∧ f a = .ok b := by
  cases x with
  | error e => simp [bind, Except.bind]
  | ok a => simp [bind, Except.bind]

/-- What comes next matters only for what the first step gives. -/
theorem bind_congr_of_ok {x : Except ε α} {f g : α → Except ε β} (h : ∀ a, x = .ok a → f a = g a) :
    x >>= f = x >>= g := by
  cases x with
  | error e => rfl
  | ok a => exact h a rfl

theorem map_eq_ok_iff {x : Except ε α} {f : α → β} {b : β} :
    f <$> x = .ok b ↔ ∃ a, x = .ok a ∧ f a = b := by
  cases x with
  | error e => simp [Functor.map, Except.map]
  | ok a => simp [Functor.map, Except.map]

theorem pure_eq_ok_iff {a b : α} : (pure a : Except ε α) = .ok b ↔ a = b := by
  simp [pure, Except.pure]

theorem eq_ok_of_toOption {x : Except ε α} {a : α} (h : x.toOption = some a) : x = .ok a := by
  cases x with
  | error e => cases h
  | ok b => exact congrArg Except.ok (Option.some.inj h)

/-- Where the second step cannot fail, the first one does. -/
theorem eq_error_of_bind_pure {x : Except ε α} {k : α → β} {e : ε}
    (h : (x >>= fun a => pure (k a)) = .error e) : x = .error e := by
  cases x with
  | error e' => exact congrArg Except.error (Except.error.inj h)
  | ok a => cases h

/-- A list is gone through if each item gives its result. -/
theorem mapM_eq_ok_iff (f : α → Except ε β) : ∀ (xs : List α) (ys : List β),
    xs.mapM f = .ok ys ↔ List.Forall₂ (fun x y => f x = .ok y) xs ys
  | [], ys => by cases ys <;> simp [pure, Except.pure]
  | x :: xs, ys => by
    rw [List.mapM_cons, bind_eq_ok_iff]
    constructor
    · rintro ⟨y, hy, h⟩
      obtain ⟨zs, hzs, h⟩ := bind_eq_ok_iff.mp h
      obtain rfl := pure_eq_ok_iff.mp h
      exact .cons hy ((mapM_eq_ok_iff f xs zs).mp hzs)
    · intro h
      cases h with
      | cons hy hys => exact ⟨_, hy, bind_eq_ok_iff.mpr ⟨_, (mapM_eq_ok_iff f xs _).mpr hys, rfl⟩⟩

/-- A list is gone through if each item is known to give its result. -/
theorem mapM_of_forall {f : α → Except ε β} {g : α → β} {xs : List α}
    (h : ∀ x ∈ xs, f x = .ok (g x)) : xs.mapM f = .ok (xs.map g) :=
  (mapM_eq_ok_iff f xs _).mpr (List.forall₂_map_right_iff.mpr (List.forall₂_same.mpr h))

/-- A list is gone through if each item gives a result. -/
theorem exists_mapM {f : α → Except ε β} {R : α → β → Prop} {xs : List α}
    (h : ∀ x ∈ xs, ∃ y, f x = .ok y ∧ R x y) :
    ∃ ys, xs.mapM f = .ok ys ∧ List.Forall₂ R xs ys := by
  have hall : ∃ ys, List.Forall₂ (fun x y => f x = .ok y ∧ R x y) xs ys := by
    induction xs with
    | nil => exact ⟨[], .nil⟩
    | cons x xs ih =>
      obtain ⟨y, hy⟩ := h x List.mem_cons_self
      obtain ⟨ys, hys⟩ := ih fun x hx => h x (List.mem_cons_of_mem _ hx)
      exact ⟨y :: ys, .cons hy hys⟩
  obtain ⟨ys, hys⟩ := hall
  exact ⟨ys, (mapM_eq_ok_iff f xs ys).mpr (hys.imp fun _ _ h => h.1), hys.imp fun _ _ h => h.2⟩

/-- What each step succeeds with and keeps is there at the end of a list. -/
theorem exists_foldlM {f : β → α → Except ε β} {inv : β → Prop} : ∀ {xs : List α} {b : β},
    (∀ x ∈ xs, ∀ b, inv b → ∃ b', f b x = .ok b' ∧ inv b') → inv b →
      ∃ b', xs.foldlM f b = .ok b' ∧ inv b'
  | [], b, _, hb => ⟨b, rfl, hb⟩
  | x :: xs, b, h, hb => by
    obtain ⟨b', hstep, hb'⟩ := h x List.mem_cons_self b hb
    rw [List.foldlM_cons, hstep]
    exact exists_foldlM (fun x hx => h x (List.mem_cons_of_mem _ hx)) hb'

/-- What stands opposite a member of the second list. -/
theorem exists_of_forall₂ {R : α → β → Prop} {xs : List α} {ys : List β}
    (h : List.Forall₂ R xs ys) {y : β} (hy : y ∈ ys) : ∃ x ∈ xs, R x y := by
  induction h with
  | nil => simp at hy
  | cons hxy _ ih =>
    rcases List.mem_cons.mp hy with rfl | hy
    · exact ⟨_, List.mem_cons_self, hxy⟩
    · obtain ⟨x, hx, hR⟩ := ih hy
      exact ⟨x, List.mem_cons_of_mem _ hx, hR⟩

/-- What stands opposite a list in two parts has two parts. -/
theorem append_of_forall₂ {R : α → β → Prop} : ∀ {xs xs' : List α} {zs : List β},
    List.Forall₂ R (xs ++ xs') zs →
      ∃ ys ys', zs = ys ++ ys' ∧ List.Forall₂ R xs ys ∧ List.Forall₂ R xs' ys'
  | [], xs', zs, h => ⟨[], zs, rfl, .nil, h⟩
  | x :: xs, xs', _, h => by
    obtain ⟨y, zs, hxy, hrest, rfl⟩ := List.forall₂_cons_left_iff.mp h
    obtain ⟨ys, ys', rfl, hys, hys'⟩ := append_of_forall₂ hrest
    exact ⟨y :: ys, ys', rfl, .cons hxy hys, hys'⟩

/-- Where a list cannot be gone through, one of its items fails. -/
theorem exists_of_mapM_eq_error {f : α → Except ε β} {e : ε} : ∀ {xs : List α},
    xs.mapM f = .error e → ∃ x ∈ xs, f x = .error e
  | [], h => by cases h
  | x :: xs, h => by
    rw [List.mapM_cons] at h
    cases hx : f x with
    | error e' =>
      rw [hx] at h
      obtain rfl : e' = e := Except.error.inj h
      exact ⟨x, List.mem_cons_self, hx⟩
    | ok b =>
      rw [hx] at h
      obtain ⟨y, hy, hfails⟩ := exists_of_mapM_eq_error (eq_error_of_bind_pure h)
      exact ⟨y, List.mem_cons_of_mem _ hy, hfails⟩

/-- Where all items that fail fail alike, a list cannot be gone through if one of them
does. -/
theorem mapM_eq_error_iff {f : α → Except ε β} {e₀ e : ε} {p : α → Prop}
    (h : ∀ x e, f x = .error e ↔ e = e₀ ∧ p x) {xs : List α} :
    xs.mapM f = .error e ↔ e = e₀ ∧ ∃ x ∈ xs, p x := by
  constructor
  · intro hxs
    obtain ⟨x, hx, hfails⟩ := exists_of_mapM_eq_error hxs
    obtain ⟨rfl, hp⟩ := (h x e).mp hfails
    exact ⟨rfl, x, hx, hp⟩
  · rintro ⟨rfl, x, hx, hp⟩
    cases hxs : xs.mapM f with
    | ok ys =>
      obtain ⟨y, -, hy⟩ := exists_of_forall₂ ((mapM_eq_ok_iff f xs ys).mp hxs).flip hx
      cases hy.symm.trans ((h x e).mpr ⟨rfl, hp⟩)
    | error e' =>
      obtain ⟨y, -, hfails⟩ := exists_of_mapM_eq_error hxs
      rw [((h y e').mp hfails).1]

/-- Steps stop at the first that fails. -/
theorem foldlM_eq_error_iff {f : β → α → Except ε β} {e : ε} : ∀ {xs : List α} {b : β},
    xs.foldlM f b = .error e ↔ ∃ front x back b', xs = front ++ x :: back ∧
      front.foldlM f b = .ok b' ∧ f b' x = .error e
  | [], b => by simp [pure, Except.pure]
  | x :: xs, b => by
    rw [List.foldlM_cons]
    cases hx : f b x with
    | error e' =>
      constructor
      · rintro ⟨⟩
        exact ⟨[], x, xs, b, rfl, rfl, hx⟩
      · rintro ⟨_ | ⟨y, front⟩, z, back, b', hparts, hfront, hz⟩
        · obtain ⟨rfl, -⟩ := List.cons.inj hparts
          obtain rfl : b = b' := Except.ok.inj hfront
          exact hx.symm.trans hz
        · obtain ⟨rfl, -⟩ := List.cons.inj hparts
          rw [List.foldlM_cons, hx] at hfront
          cases hfront
    | ok c =>
      change xs.foldlM f c = .error e ↔ _
      rw [foldlM_eq_error_iff]
      constructor
      · rintro ⟨front, z, back, b', rfl, hfront, hz⟩
        exact ⟨x :: front, z, back, b', rfl, by rw [List.foldlM_cons, hx]; exact hfront, hz⟩
      · rintro ⟨_ | ⟨y, front⟩, z, back, b', hparts, hfront, hz⟩
        · obtain ⟨rfl, -⟩ := List.cons.inj hparts
          obtain rfl : b = b' := Except.ok.inj hfront
          cases hx.symm.trans hz
        · obtain ⟨rfl, rfl⟩ := List.cons.inj hparts
          rw [List.foldlM_cons, hx] at hfront
          exact ⟨front, z, back, b', rfl, hfront, hz⟩

theorem exists_of_foldlM_eq_error {f : β → α → Except ε β} {e : ε} {xs : List α} {b : β}
    (h : xs.foldlM f b = .error e) : ∃ x ∈ xs, ∃ b', f b' x = .error e := by
  obtain ⟨front, x, back, b', rfl, -, hx⟩ := foldlM_eq_error_iff.mp h
  exact ⟨x, List.mem_append_right _ List.mem_cons_self, b', hx⟩

/-! ### Results that are alike -/

/-- The results are the same failure, or successes of which `R` holds. -/
inductive Alike (R : α → β → Prop) : Except ε α → Except ε β → Prop where
  | error (e : ε) : Alike R (.error e) (.error e)
  | ok {a : α} {b : β} (h : R a b) : Alike R (.ok a) (.ok b)

namespace Alike

variable {γ δ : Type} {R : α → β → Prop} {S : γ → δ → Prop} {x : Except ε α} {y : Except ε β}

theorem refl {R : α → α → Prop} (h : ∀ a, R a a) : ∀ x : Except ε α, Alike R x x
  | .error e => .error e
  | .ok a => .ok (h a)

/-- What is known of each success may be used for both. -/
theorem imp {S : α → β → Prop} (h : Alike R x y)
    (hS : ∀ a b, x = .ok a → y = .ok b → R a b → S a b) : Alike S x y := by
  cases h with
  | error e => exact .error e
  | ok hR => exact .ok (hS _ _ rfl rfl hR)

/-- **Two steps end alike if the first ones do, and the second ones with what the
first ones give.** -/
theorem bind {f : α → Except ε γ} {g : β → Except ε δ} (h : Alike R x y)
    (hnext : ∀ a b, R a b → Alike S (f a) (g b)) : Alike S (x >>= f) (y >>= g) := by
  cases h with
  | error e => exact .error e
  | ok hR => exact hnext _ _ hR

/-- Two lists are gone through alike if the items that stand opposite are. -/
theorem mapM_of_forall₂ {ι κ : Type} {f : ι → Except ε α} {g : κ → Except ε β} {xs : List ι}
    {ys : List κ} (h : List.Forall₂ (fun x y => Alike R (f x) (g y)) xs ys) :
    Alike (List.Forall₂ R) (xs.mapM f) (ys.mapM g) := by
  induction h with
  | nil => exact .ok .nil
  | cons hxy _ hrest =>
    rw [List.mapM_cons, List.mapM_cons]
    exact hxy.bind fun a b hab => hrest.bind fun as bs habs => .ok (.cons hab habs)

theorem mapM {ι : Type} {f : ι → Except ε α} {g : ι → Except ε β} {xs : List ι}
    (h : ∀ x ∈ xs, Alike R (f x) (g x)) : Alike (List.Forall₂ R) (xs.mapM f) (xs.mapM g) :=
  mapM_of_forall₂ (List.forall₂_same.mpr h)

end Alike

end Results
end TableGate

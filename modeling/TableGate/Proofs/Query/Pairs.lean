/-
# Query strings are read key by key

What is read of a query string does not depend on how its keys are mixed: the
values of each reserved key are read by themselves, the last of them counts, and
the conditions are read in the order of their pairs. All of them have to be read
(`read_eq_ok_iff`); where something is not, the fault is that of one of the pairs
(`fault_of_read`).

Key definitions: `Query.valuesOf`, `Query.readLast`, `Query.ReadsFrom`.
Key theorems: `Query.read_eq_ok_iff`, `Query.fault_of_read`.
-/
import Mathlib.Tactic.MkIffOfInductiveProp
import TableGate.Proofs.Query.Reading

namespace TableGate
namespace Query

variable {α : Type} {pair : String × Value} {pairs : List (String × Value)} {f g : Filter}

/-! ### Pairs by their keys -/

/-- The pair is a condition. -/
def isCondition (pair : String × Value) : Bool := !reservedKeys.contains pair.1

/-- The values under a key, in order. -/
def valuesOf (key : String) (pairs : List (String × Value)) : List Value :=
  (pairs.filter fun pair => pair.1 == key).map Prod.snd

/-- All values are read, and the last one counts; without any there is a default. -/
def readLast (readValue : Value → Except Fault α) (default : α) (vs : List Value) :
    Except Fault α :=
  vs.foldlM (fun _ v => readValue v) default

theorem valuesOf_cons (key : String) (pair : String × Value) (pairs : List (String × Value)) :
    valuesOf key (pair :: pairs) =
      if pair.1 = key then pair.2 :: valuesOf key pairs else valuesOf key pairs := by
  by_cases h : pair.1 = key <;> simp [valuesOf, h]

theorem valuesOf_append (key : String) (front back : List (String × Value)) :
    valuesOf key (front ++ back) = valuesOf key front ++ valuesOf key back := by
  rw [valuesOf, List.filter_append, List.map_append]
  rfl

theorem readLast_cons (readValue : Value → Except Fault α) (default : α) (v : Value)
    (vs : List Value) :
    readLast readValue default (v :: vs) =
      readValue v >>= fun a => readLast readValue a vs := rfl

theorem readLast_singleton (readValue : Value → Except Fault α) (default : α) (v : Value) :
    readLast readValue default [v] = readValue v := by
  rw [readLast_cons]
  cases readValue v <;> rfl

/-! ### What each key is read as -/

/-- The filter is what the pairs add to another one, key by key. -/
@[mk_iff] structure ReadsFrom (pairs : List (String × Value)) (f g : Filter) : Prop where
  conditions : ∃ cs, (pairs.filter isCondition).mapM (fun pair => readCondition pair.1 pair.2) =
    .ok cs ∧ g.conditions = f.conditions ++ cs
  select : readLast (fun v => .ok (readSelect v.shown)) f.select (valuesOf "select" pairs) =
    .ok g.select
  order : readLast (fun v => readOrder v.shown) f.order (valuesOf "order" pairs) = .ok g.order
  limit : readLast (fun v => some <$> readPageBound "limit" v) f.limit (valuesOf "limit" pairs) =
    .ok g.limit
  offset : readLast (fun v => some <$> readPageBound "offset" v) f.offset
    (valuesOf "offset" pairs) = .ok g.offset

theorem readsFrom_nil : ReadsFrom [] f g ↔ f = g := by
  constructor
  · rintro ⟨⟨cs, hcs, hconditions⟩, hselect, horder, hlimit, hoffset⟩
    obtain rfl := Results.pure_eq_ok_iff.mp hcs
    obtain ⟨select, conditions, order, limit, offset⟩ := f
    obtain ⟨select', conditions', order', limit', offset'⟩ := g
    obtain rfl : conditions = conditions' := by simpa using hconditions.symm
    obtain rfl : select = select' := Except.ok.inj hselect
    obtain rfl : order = order' := Except.ok.inj horder
    obtain rfl : limit = limit' := Except.ok.inj hlimit
    obtain rfl : offset = offset' := Except.ok.inj hoffset
    rfl
  · rintro rfl
    exact ⟨⟨[], rfl, by simp⟩, rfl, rfl, rfl, rfl⟩

theorem readsFrom_cons_of_mem {key : String} {v : Value} (hkey : key ∈ reservedKeys) :
    ReadsFrom ((key, v) :: pairs) f g ↔
      ∃ f', readPair f (key, v) = .ok f' ∧ ReadsFrom pairs f' g := by
  have hcondition : List.filter isCondition ((key, v) :: pairs) = pairs.filter isCondition := by
    simp [isCondition, hkey]
  simp only [reservedKeys, List.mem_cons, List.not_mem_nil, or_false] at hkey
  rcases hkey with rfl | rfl | rfl | rfl
  · simp [readPair, readsFrom_iff, hcondition, valuesOf_cons, readLast_cons, bind, Except.bind]
  · cases h : readOrder v.shown <;>
      simp [readPair, readsFrom_iff, hcondition, valuesOf_cons, readLast_cons, bind, Except.bind,
        pure, Except.pure, h]
  · cases h : readPageBound "limit" v <;>
      simp [readPair, readsFrom_iff, hcondition, valuesOf_cons, readLast_cons, bind, Except.bind,
        pure, Except.pure, h]
  · cases h : readPageBound "offset" v <;>
      simp [readPair, readsFrom_iff, hcondition, valuesOf_cons, readLast_cons, bind, Except.bind,
        pure, Except.pure, h]

theorem readsFrom_cons_of_notMem {key : String} {v : Value} (hkey : key ∉ reservedKeys) :
    ReadsFrom ((key, v) :: pairs) f g ↔
      ∃ f', readPair f (key, v) = .ok f' ∧ ReadsFrom pairs f' g := by
  have hcondition : List.filter isCondition ((key, v) :: pairs) =
      (key, v) :: pairs.filter isCondition := by
    simp [isCondition, hkey]
  have hvalues : ∀ name ∈ reservedKeys, valuesOf name ((key, v) :: pairs) = valuesOf name pairs := by
    intro name hname
    rw [valuesOf_cons, if_neg]
    rintro rfl
    exact hkey hname
  have hselect := hvalues "select" (by decide)
  have horder := hvalues "order" (by decide)
  have hlimit := hvalues "limit" (by decide)
  have hoffset := hvalues "offset" (by decide)
  rw [readPair_condition f hkey]
  cases h : readCondition key v with
  | error e => simp [readsFrom_iff, hcondition, h, bind, Except.bind]
  | ok c =>
    have hadded : (∃ cs, (List.filter isCondition ((key, v) :: pairs)).mapM
          (fun pair => readCondition pair.1 pair.2) = .ok cs ∧
          g.conditions = f.conditions ++ cs) ↔
        ∃ cs, (pairs.filter isCondition).mapM (fun pair => readCondition pair.1 pair.2) = .ok cs ∧
          g.conditions = (f.conditions ++ [c]) ++ cs := by
      rw [hcondition]
      constructor
      · rintro ⟨cs, hcs, hg⟩
        rw [List.mapM_cons] at hcs
        obtain ⟨c', hc', hcs⟩ := Results.bind_eq_ok_iff.mp hcs
        obtain ⟨rest, hrest, hcs⟩ := Results.bind_eq_ok_iff.mp hcs
        obtain rfl := Results.pure_eq_ok_iff.mp hcs
        obtain rfl : c = c' := Except.ok.inj (h.symm.trans hc')
        exact ⟨rest, hrest, by rw [hg, List.append_assoc, List.singleton_append]⟩
      · rintro ⟨rest, hrest, hg⟩
        refine ⟨c :: rest, ?_, by rw [hg, List.append_assoc, List.singleton_append]⟩
        rw [List.mapM_cons]
        exact Results.bind_eq_ok_iff.mpr ⟨c, h, Results.bind_eq_ok_iff.mpr ⟨rest, hrest, rfl⟩⟩
    simp [readsFrom_iff, hadded, hselect, horder, hlimit, hoffset, bind, Except.bind, pure,
      Except.pure]

/-- **A pair adds what it is read as, and to its own key only.** -/
theorem readsFrom_cons :
    ReadsFrom (pair :: pairs) f g ↔ ∃ f', readPair f pair = .ok f' ∧ ReadsFrom pairs f' g := by
  by_cases hkey : pair.1 ∈ reservedKeys
  · exact readsFrom_cons_of_mem hkey
  · exact readsFrom_cons_of_notMem hkey

theorem foldlM_readPair_iff : ∀ {pairs : List (String × Value)} {f g : Filter},
    pairs.foldlM readPair f = .ok g ↔ ReadsFrom pairs f g
  | [], f, g => by rw [readsFrom_nil, List.foldlM_nil, Results.pure_eq_ok_iff]
  | pair :: pairs, f, g => by
    rw [List.foldlM_cons, Results.bind_eq_ok_iff, readsFrom_cons]
    refine exists_congr fun f' => and_congr_right fun _ => ?_
    exact foldlM_readPair_iff

/-- **A query string is read if each of its keys is**, and as that. -/
theorem read_eq_ok_iff : read pairs = .ok f ↔
    (pairs.filter isCondition).mapM (fun pair => readCondition pair.1 pair.2) = .ok f.conditions ∧
      readLast (fun v => .ok (readSelect v.shown)) none (valuesOf "select" pairs) =
        .ok f.select ∧
      readLast (fun v => readOrder v.shown) [] (valuesOf "order" pairs) = .ok f.order ∧
      readLast (fun v => some <$> readPageBound "limit" v) none (valuesOf "limit" pairs) =
        .ok f.limit ∧
      readLast (fun v => some <$> readPageBound "offset" v) none (valuesOf "offset" pairs) =
        .ok f.offset := by
  have hconditions : (∃ cs, (pairs.filter isCondition).mapM
        (fun pair => readCondition pair.1 pair.2) = .ok cs ∧ f.conditions = [] ++ cs) ↔
      (pairs.filter isCondition).mapM (fun pair => readCondition pair.1 pair.2) =
        .ok f.conditions := by
    simp
  rw [read, foldlM_readPair_iff, readsFrom_iff, hconditions]

theorem fault_of_read {e : Fault} (h : read pairs = .error e) :
    ∃ pair ∈ pairs, ∃ f, readPair f pair = .error e :=
  Results.exists_of_foldlM_eq_error h

end Query
end TableGate

/-
# Logs of changes

A log of changes stands in a world that goes on, and what it holds after a cursor
are the changes whose positions are greater. Where the positions strictly
increase and the log grows at its end only, a reader that goes on from the
position of the last change that it took takes the changes one after another
(`ChangeLog.append_prefix_after`).

Key definitions: `ChangeLog`, `ChangeLog.IsOrdered`, `ChangeLog.after`,
`lastPosition`.
Key theorems: `ChangeLog.after_grows`, `ChangeLog.append_prefix_after`,
`ChangeLog.prefix_after_of_append`, `ChangeLog.eq_nil_of_prefix_after`.
-/
import Mathlib.Data.List.Infix
import Mathlib.Order.Lattice
import TableGate.Schema.Change

namespace TableGate

variable {τ ι : Type}

/-- The position of the last of some changes, or a cursor that was there before. -/
def lastPosition (cursor : Value) (events : List ChangeEvent) : Value :=
  (events.getLast?.map ChangeEvent.position).getD cursor

@[simp] theorem lastPosition_nil (cursor : Value) : lastPosition cursor [] = cursor := rfl

@[simp] theorem lastPosition_concat (cursor : Value) (events : List ChangeEvent)
    (e : ChangeEvent) : lastPosition cursor (events ++ [e]) = e.position := by
  simp [lastPosition]

theorem lastPosition_append (cursor : Value) (front rest : List ChangeEvent) :
    lastPosition cursor (front ++ rest) = lastPosition (lastPosition cursor front) rest := by
  cases rest with
  | nil => simp
  | cons e rest => simp [lastPosition, List.getLast?_append, List.getLast?_cons]

/-- A log of changes in a world, oldest first, and the order of positions. -/
structure ChangeLog (τ ι : Type) where
  entries : τ → List ChangeEvent
  /-- Where a position stands in the order. -/
  rank : Value → ι

namespace ChangeLog

variable [LinearOrder ι] {log : ChangeLog τ ι} {c : Value} {t u : τ}

/-- The positions strictly increase. -/
def IsOrdered (log : ChangeLog τ ι) (t : τ) : Prop :=
  (log.entries t).Pairwise fun d e => log.rank d.position < log.rank e.position

/-- What the log holds after a cursor. -/
def after (log : ChangeLog τ ι) (cursor : Value) (t : τ) : List ChangeEvent :=
  (log.entries t).filter fun e => log.rank cursor < log.rank e.position

theorem IsOrdered.of_grows (h : log.IsOrdered u) (hgrows : log.entries t <+: log.entries u) :
    log.IsOrdered t := h.sublist hgrows.sublist

theorem IsOrdered.after (h : log.IsOrdered t) :
    (log.after c t).Pairwise fun d e => log.rank d.position < log.rank e.position := h.filter _

theorem after_grows (hgrows : log.entries t <+: log.entries u) (c : Value) :
    log.after c t <+: log.after c u := hgrows.filter _

/-- After a change there is what stands behind it. -/
theorem after_of_after_eq {front rest : List ChangeEvent} {e : ChangeEvent} (h : log.IsOrdered t)
    (heq : log.after c t = front ++ e :: rest) : log.after e.position t = rest := by
  have hafter := h.after (c := c)
  rw [heq] at hafter
  obtain ⟨-, hback, hfront⟩ := List.pairwise_append.mp hafter
  have he : log.rank c < log.rank e.position := by
    have hmem : e ∈ log.after c t := by simp [heq]
    simpa [ChangeLog.after] using (List.mem_filter.mp hmem).2
  have hagain : log.after e.position t =
      (log.after c t).filter fun d => log.rank e.position < log.rank d.position := by
    rw [ChangeLog.after, ChangeLog.after, List.filter_filter]
    refine List.filter_congr fun d _ => ?_
    rw [Bool.eq_iff_iff, Bool.and_eq_true, decide_eq_true_iff, decide_eq_true_iff]
    exact ⟨fun hd => ⟨hd, he.trans hd⟩, And.left⟩
  have hbefore : front.filter (fun d => log.rank e.position < log.rank d.position) = [] := by
    refine List.filter_eq_nil_iff.mpr fun d hd => ?_
    simpa using (hfront d hd e List.mem_cons_self).le
  have hbehind : rest.filter (fun d => log.rank e.position < log.rank d.position) = rest :=
    List.filter_eq_self.mpr fun d hd => by simpa using List.rel_of_pairwise_cons hback hd
  rw [hagain, heq, List.filter_append, hbefore, List.filter_cons_of_neg (by simp), hbehind]
  rfl

/-- **What follows the last of some first changes goes on where they end.** -/
theorem append_prefix_after {done more : List ChangeEvent} (h : log.IsOrdered t)
    (hdone : done <+: log.after c t) (hmore : more <+: log.after (lastPosition c done) t) :
    done ++ more <+: log.after c t := by
  rcases List.eq_nil_or_concat' done with rfl | ⟨front, e, rfl⟩
  · exact hmore
  · obtain ⟨rest, hrest⟩ := hdone
    rw [lastPosition_concat, after_of_after_eq h (by rw [← hrest, List.append_assoc]; rfl)] at hmore
    rw [← hrest]
    exact (List.prefix_append_right_inj _).mpr hmore

/-- What stands behind some first changes follows the last of them. -/
theorem prefix_after_of_append {done more : List ChangeEvent} (h : log.IsOrdered t)
    (hall : done ++ more <+: log.after c t) : more <+: log.after (lastPosition c done) t := by
  rcases List.eq_nil_or_concat' done with rfl | ⟨front, e, rfl⟩
  · exact hall
  · obtain ⟨rest, hrest⟩ := hall
    have heq : log.after c t = front ++ e :: (more ++ rest) := by rw [← hrest]; simp
    rw [lastPosition_concat, after_of_after_eq h heq]
    exact List.prefix_append _ _

/-- Nothing stands between a cursor and the first change after it. -/
theorem eq_nil_of_prefix_after {front more rest : List ChangeEvent} {e : ChangeEvent}
    (h : log.IsOrdered t) (hfirst : e :: rest <+: log.after c t)
    (hlater : front ++ e :: more <+: log.after c t) : front = [] := by
  cases front with
  | nil => rfl
  | cons d front =>
    obtain ⟨behind, hbehind⟩ := hfirst
    have hordered := h.after.sublist hlater.sublist
    rw [← hbehind, List.cons_append, List.cons_append, List.cons_prefix_cons] at hlater
    obtain ⟨rfl, -⟩ := hlater
    exact absurd (List.rel_of_pairwise_cons hordered (by simp)) (lt_irrefl _)

end ChangeLog

end TableGate

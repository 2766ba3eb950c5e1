import Mathlib.Analysis.Convex.Segment
import Mathlib.Topology.Algebra.Affine
import Mathlib.Topology.Order.Real
import Mathlib.LinearAlgebra.AffineSpace.AffineMap
import Mathlib.Topology.Instances.Real.Lemmas

/-!
# Polylines in time

A point that comes through places at given times, straight on between two of them. Before the first
time and after the last one it holds its place.
-/

namespace SwitchRemake.Lib

variable {E : Type} [AddCommGroup E] [Module ℝ E]

abbrev Knot (E : Type) := ℝ × E

open scoped Classical in
noncomputable def polyline (a : Knot E) : List (Knot E) → ℝ → E
  | [], _ => a.2
  | b :: later, t =>
    if t ≤ b.1 then AffineMap.lineMap a.2 b.2 (max 0 ((t - a.1) / (b.1 - a.1))) else polyline b later t

/-- The times rise. -/
def Rising (knots : List (Knot E)) : Prop := knots.Pairwise (·.1 < ·.1)

variable {a : Knot E} {later : List (Knot E)} {t : ℝ}

theorem polyline_before (rising : Rising (a :: later)) (early : t ≤ a.1) : polyline a later t = a.2 := by
  cases later with
  | nil => rfl
  | cons b later =>
    have rises : a.1 < b.1 := List.rel_of_pairwise_cons rising List.mem_cons_self
    have fraction : (t - a.1) / (b.1 - a.1) ≤ 0 :=
      div_nonpos_of_nonpos_of_nonneg (sub_nonpos.mpr early) (sub_pos.mpr rises).le
    rw [polyline, if_pos (early.trans rises.le), max_eq_left fraction, AffineMap.lineMap_apply_zero]

theorem polyline_after {last : Knot E} (rising : Rising (a :: later))
    (ends : (a :: later).getLast? = some last) (late : last.1 ≤ t) : polyline a later t = last.2 := by
  induction later generalizing a with
  | nil =>
    cases ends
    rfl
  | cons b later ih =>
    have rises : a.1 < b.1 := List.rel_of_pairwise_cons rising List.mem_cons_self
    have rest : Rising (b :: later) := rising.of_cons
    rw [List.getLast?_cons_cons] at ends
    rw [polyline]
    split
    · rename_i early
      -- Only at the last knot itself is there no knot behind.
      have here : last = b := by
        rcases List.mem_cons.mp (List.mem_of_getLast? ends) with here | behind
        · exact here
        · have order := List.rel_of_pairwise_cons rest behind
          exact absurd (late.trans early) order.not_ge
      subst here
      rw [le_antisymm early late, div_self (sub_pos.mpr rises).ne', max_eq_right zero_le_one,
        AffineMap.lineMap_apply_one]
    · exact ih rest ends

/-- Between the first and the last time the point is on the segment of two neighbours. -/
theorem polyline_between {last : Knot E} (ends : (a :: later).getLast? = some last)
    (early : a.1 ≤ t) (late : t < last.1) :
    ∃ before x y after, a :: later = before ++ x :: y :: after ∧ x.1 ≤ t ∧ t ≤ y.1 ∧
      polyline a later t ∈ segment ℝ x.2 y.2 := by
  induction later generalizing a with
  | nil =>
    cases ends
    exact absurd early late.not_ge
  | cons b later ih =>
    rw [List.getLast?_cons_cons] at ends
    rw [polyline]
    split
    · rename_i within
      refine ⟨[], a, b, later, rfl, early, within, ?_⟩
      have small : (t - a.1) / (b.1 - a.1) ≤ 1 :=
        div_le_one_of_le₀ (sub_le_sub_right within _) (sub_nonneg.mpr (early.trans within))
      rw [segment_eq_image_lineMap]
      exact ⟨_, ⟨le_max_left _ _, max_le zero_le_one small⟩, rfl⟩
    · rename_i past
      obtain ⟨before, x, y, after, split, since, til, on⟩ := ih ends (not_le.mp past).le
      exact ⟨a :: before, x, y, after, by rw [split]; rfl, since, til, on⟩

variable [TopologicalSpace E] [ContinuousAdd E] [ContinuousSMul ℝ E]

theorem continuous_polyline (rising : Rising (a :: later)) : Continuous (polyline a later) := by
  induction later generalizing a with
  | nil => exact continuous_const
  | cons b later ih =>
    have rises : a.1 < b.1 := List.rel_of_pairwise_cons rising List.mem_cons_self
    have rest : Rising (b :: later) := rising.of_cons
    have straight : Continuous fun t : ℝ =>
        AffineMap.lineMap a.2 b.2 (max 0 ((t - a.1) / (b.1 - a.1))) := by
      simp only [AffineMap.lineMap_apply_module']
      fun_prop
    refine Continuous.if_le straight (ih rest) continuous_id continuous_const fun t meets => ?_
    -- The two pieces meet in the knot.
    have here : t = b.1 := meets
    rw [polyline_before rest here.le, here, div_self (sub_pos.mpr rises).ne',
      max_eq_right zero_le_one, AffineMap.lineMap_apply_one]

end SwitchRemake.Lib

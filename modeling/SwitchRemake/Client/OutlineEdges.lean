import SwitchRemake.Client.RegionOutline
import SwitchRemake.Lib.Trails
import Mathlib.Data.List.Perm.Basic
import Mathlib.Data.List.Nodup
import Mathlib.Data.List.Count
import Mathlib.Tactic.FinCases

/-!
# The edges of a set of cells

Every edge has a cell of the set on its right and none on its left, and as many of them leave a point as
come to it.
-/

namespace SwitchRemake.Client
open Lib

def rightCell (v : Point) : Fin 4 → Point
  | 0 => v
  | 1 => (v.1 - 1, v.2)
  | 2 => (v.1 - 1, v.2 - 1)
  | 3 => (v.1, v.2 - 1)

def leftCell (v : Point) : Fin 4 → Point
  | 0 => (v.1, v.2 - 1)
  | 1 => v
  | 2 => (v.1 - 1, v.2)
  | 3 => (v.1 - 1, v.2 - 1)

def sideTo (v : Point) (d : Fin 4) : Edge := ⟨v - unitStep d, v, d⟩

/-- The edge leads from its start to the next point, between a cell of the set and a cell outside. -/
structure IsBoundary (tiles : List Point) (e : Edge) : Prop where
  straight : e.goal = e.start + unitStep e.direction
  inside : rightCell e.start e.direction ∈ tiles
  outside : leftCell e.start e.direction ∉ tiles

variable {tiles : List Point} {e : Edge}

theorem mem_cellsOf {p : Point} : p ∈ (cellsOf tiles).entries ↔ p ∈ tiles := by
  induction tiles using List.reverseRecOn with
  | nil => rfl
  | append_singleton tiles q ih =>
    rw [cellsOf, List.foldl_concat, ← cellsOf, KeyedList.mem_set, ih, List.mem_append,
      List.mem_singleton]
    by_cases same : p = q <;> simp [same]

theorem has_cellsOf {p : Point} : (cellsOf tiles).has p = true ↔ p ∈ tiles := by
  rw [KeyedList.has_iff]
  constructor
  · rintro ⟨q, inside, same⟩
    obtain rfl : q = p := same
    exact mem_cellsOf.mp inside
  · exact fun inside => ⟨p, mem_cellsOf.mpr inside, rfl⟩

theorem mem_edgesAround {c : Point} : e ∈ edgesAround (cellsOf tiles) c ↔
    e.goal = e.start + unitStep e.direction ∧ rightCell e.start e.direction = c ∧
      leftCell e.start e.direction ∉ tiles := by
  obtain ⟨⟨v, w⟩, ⟨v', w'⟩, d⟩ := e
  obtain ⟨x, y⟩ := c
  have absent (p : Point) : (!(cellsOf tiles).has p) = true ↔ p ∉ tiles := by
    rw [Bool.not_eq_true', ← Bool.not_eq_true, has_cellsOf]
  simp only [edgesAround, absent, List.mem_append, List.mem_ite_nil_right, List.mem_singleton,
    Edge.mk.injEq, Prod.mk.injEq]
  fin_cases d <;> simp [unitStep, rightCell, leftCell]
  all_goals
    constructor
    · rintro ⟨free, ⟨rfl, rfl⟩, rfl, rfl⟩
      simp [free]
    · rintro ⟨⟨rfl, rfl⟩, ⟨rfl, rfl⟩, free⟩
      simp_all [sub_eq_add_neg]

theorem mem_edgesOf : e ∈ edgesOf tiles ↔ IsBoundary tiles e := by
  simp only [edgesOf, List.mem_flatMap, mem_cellsOf, mem_edgesAround]
  constructor
  · rintro ⟨c, inside, straight, rfl, outside⟩
    exact ⟨straight, inside, outside⟩
  · exact fun edge => ⟨_, edge.inside, edge.straight, rfl, edge.outside⟩

theorem edgesOf_nodup (tiles : List Point) : (edgesOf tiles).Nodup := by
  refine List.nodup_flatMap.mpr ⟨fun c _ => ?_, ?_⟩
  · refine List.Nodup.of_map Edge.direction ?_
    simp only [edgesAround]
    split_ifs <;> simp
  · have apart : (cellsOf tiles).entries.Pairwise (· ≠ ·) := by
      have distinct := (cellsOf tiles).distinct
      rwa [List.map_id] at distinct
    refine apart.imp fun {c c'} other e first second => other ?_
    rw [← (mem_edgesAround.mp first).2.1, (mem_edgesAround.mp second).2.1]

/-! ## Balance -/

theorem isBoundary_sideFrom {v : Point} {d : Fin 4} :
    IsBoundary tiles (sideFrom v d) ↔ rightCell v d ∈ tiles ∧ leftCell v d ∉ tiles :=
  ⟨fun edge => ⟨edge.inside, edge.outside⟩, fun cells => ⟨rfl, cells.1, cells.2⟩⟩

theorem isBoundary_sideTo {v : Point} {d : Fin 4} :
    IsBoundary tiles (sideTo v d) ↔ rightCell (v - unitStep d) d ∈ tiles ∧
      leftCell (v - unitStep d) d ∉ tiles :=
  ⟨fun edge => ⟨edge.inside, edge.outside⟩, fun cells => ⟨(sub_add_cancel v _).symm, cells.1, cells.2⟩⟩

theorem IsBoundary.eq_sideFrom (edge : IsBoundary tiles e) : e = sideFrom e.start e.direction := by
  obtain ⟨v, w, d⟩ := e
  exact congrArg (Edge.mk v · d) edge.straight

theorem IsBoundary.eq_sideTo (edge : IsBoundary tiles e) : e = sideTo e.goal e.direction := by
  obtain ⟨v, w, d⟩ := e
  obtain rfl : w = v + unitStep d := edge.straight
  exact congrArg (Edge.mk · _ d) (add_sub_cancel_right v _).symm

/-- The edges with a property are those of the possible ones that are there. -/
theorem filter_edgesOf {P : Edge → Prop} [DecidablePred P] {possible : List Edge}
    (distinct : possible.Nodup) (complete : ∀ e ∈ edgesOf tiles, P e → e ∈ possible)
    (sound : ∀ e ∈ possible, P e) :
    ((edgesOf tiles).filter P).Perm (possible.filter (· ∈ edgesOf tiles)) := by
  refine (List.perm_ext_iff_of_nodup ((edgesOf_nodup tiles).filter _) (distinct.filter _)).mpr ?_
  intro e
  simp only [List.mem_filter, decide_eq_true_eq]
  exact ⟨fun ⟨inside, has⟩ => ⟨complete e inside has, inside⟩,
    fun ⟨inside, has⟩ => ⟨has, sound e inside⟩⟩

theorem leaving (v : Point) : ((edgesOf tiles).filter fun e => e.start = v).length =
    (([0, 1, 2, 3].map (sideFrom v)).filter (· ∈ edgesOf tiles)).length := by
  refine (filter_edgesOf ?_ ?_ ?_).length_eq
  · exact List.Nodup.of_map Edge.direction (by simp [sideFrom])
  · intro e inside here
    have edge := (mem_edgesOf.mp inside).eq_sideFrom
    rw [here] at edge
    rw [edge]
    exact List.mem_map_of_mem (by generalize e.direction = d; fin_cases d <;> simp)
  · intro e possible
    obtain ⟨d, _, rfl⟩ := List.mem_map.mp possible
    rfl

theorem coming (v : Point) : ((edgesOf tiles).filter fun e => e.goal = v).length =
    (([0, 1, 2, 3].map (sideTo v)).filter (· ∈ edgesOf tiles)).length := by
  refine (filter_edgesOf ?_ ?_ ?_).length_eq
  · exact List.Nodup.of_map Edge.direction (by simp [sideTo])
  · intro e inside here
    have edge := (mem_edgesOf.mp inside).eq_sideTo
    rw [here] at edge
    rw [edge]
    exact List.mem_map_of_mem (by generalize e.direction = d; fin_cases d <;> simp)
  · intro e possible
    obtain ⟨d, _, rfl⟩ := List.mem_map.mp possible
    rfl

/-- Around a point the set begins as often as it ends. -/
theorem edgesOf_balanced (tiles : List Point) : Balanced Edge.start Edge.goal (edgesOf tiles) := by
  refine List.perm_iff_count.mpr fun v => ?_
  have counts (f : Edge → Point) : ((edgesOf tiles).map f).count v =
      ((edgesOf tiles).filter fun e => f e = v).length := by
    rw [List.count_eq_countP, List.countP_map, List.countP_eq_length_filter]
    exact congrArg List.length (List.filter_congr fun e _ => beq_eq_decide (f e) v)
  rw [counts, counts, leaving, coming]
  obtain ⟨x, y⟩ := v
  simp only [List.map_cons, List.map_nil, List.filter_cons, List.filter_nil, mem_edgesOf,
    isBoundary_sideFrom, isBoundary_sideTo, decide_eq_true_eq]
  simp only [rightCell, leftCell, unitStep, Prod.mk_sub_mk, sub_zero, sub_neg_eq_add,
    add_sub_cancel_right]
  by_cases southEast : (x, y) ∈ tiles <;> by_cases southWest : (x - 1, y) ∈ tiles <;>
    by_cases northEast : (x, y - 1) ∈ tiles <;> by_cases northWest : (x - 1, y - 1) ∈ tiles <;>
    simp [southEast, southWest, northEast, northWest]

theorem opposite : ∀ d d' : Fin 4, unitStep d + unitStep d' = 0 → d' = d + 2 := by decide

theorem rightCell_opposite (v : Point) (d : Fin 4) :
    rightCell (v + unitStep d) (d + 2) = leftCell v d := by
  obtain ⟨x, y⟩ := v
  fin_cases d <;> simp [rightCell, leftCell, unitStep, sub_eq_add_neg]

/-- Of an edge and its way back at most one is there. -/
theorem IsBoundary.one_way {e' : Edge} (edge : IsBoundary tiles e) (edge' : IsBoundary tiles e')
    (there : e'.start = e.goal) : e'.goal ≠ e.start := by
  intro back
  have around : e.start + (unitStep e.direction + unitStep e'.direction) = e.start := by
    rw [← add_assoc, ← edge.straight, ← there, ← edge'.straight, back]
  have turns := opposite _ _ (add_eq_left.mp around)
  have inside := edge'.inside
  rw [there, edge.straight, turns, rightCell_opposite] at inside
  exact edge.outside inside

theorem IsBoundary.goal_ne (edge : IsBoundary tiles e) : e.goal ≠ e.start := by
  intro same
  exact edge.one_way edge same.symm same

end SwitchRemake.Client

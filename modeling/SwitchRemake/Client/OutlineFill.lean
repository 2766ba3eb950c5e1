import SwitchRemake.Client.OutlineCorners
import SwitchRemake.Lib.Parity
import Mathlib.Algebra.Order.Floor.Ring

/-!
# Filled outlines

A ray to the left of a point crosses the outlines an odd number of times just when the cell of the point
is one of the set.
-/

namespace SwitchRemake.Client
open Lib

/-! ## Rays -/

/-- The side meets the ray that goes left from a point. -/
def CrossesRay (u v : ℝ) (side : Point × Point) : Prop :=
  ¬ ((side.1.2 : ℝ) ≤ v ↔ (side.2.2 : ℝ) ≤ v) ∧
    side.1.1 + (v - side.1.2) * (side.2.1 - side.1.1) / (side.2.2 - side.1.2) ≤ u

open Classical in
/-- The even-odd rule. -/
def Filled (loops : List (List Point)) (u v : ℝ) : Prop :=
  Odd ((loops.flatMap sidesOf).countP fun side => CrossesRay u v side)

/-- The same for a side along the grid and the ray of a cell. -/
def crosses (a b : Int) (side : Point × Point) : Bool :=
  decide (side.1.1 ≤ a) && (decide (side.1.2 ≤ b) != decide (side.2.2 ≤ b))

theorem unitStep_axis : ∀ d : Fin 4, (unitStep d).1 = 0 ∨ (unitStep d).2 = 0 := by decide

theorem Straight.axis {side : Point × Point} (straight : Straight side) :
    side.1.1 = side.2.1 ∨ side.1.2 = side.2.2 := by
  obtain ⟨d, n, ends⟩ := straight
  rw [ends, Prod.fst_add, Prod.snd_add, Prod.smul_fst, Prod.smul_snd]
  rcases unitStep_axis d with zero | zero <;> simp [zero]

theorem crossesRay_iff {u v : ℝ} {side : Point × Point} (straight : Straight side) :
    CrossesRay u v side ↔ crosses ⌊u⌋ ⌊v⌋ side = true := by
  obtain ⟨⟨x, y⟩, ⟨x', y'⟩⟩ := side
  have rows : crosses ⌊u⌋ ⌊v⌋ ((x, y), (x', y')) = true ↔
      ¬ ((y : ℝ) ≤ v ↔ (y' : ℝ) ≤ v) ∧ (x : ℝ) ≤ u := by
    simp only [crosses, Bool.and_eq_true, decide_eq_true_eq, bne_iff_ne, ne_eq, decide_eq_decide,
      Int.le_floor]
    exact and_comm
  rw [rows]
  unfold CrossesRay
  dsimp only
  rcases straight.axis with same | same
  · obtain rfl : x = x' := same
    rw [sub_self, mul_zero, zero_div, add_zero]
  · obtain rfl : y = y' := same
    simp

/-- Along a line the crossings of two sides are those of the one they make. -/
theorem crosses_join {a b : Int} {p q r : Point}
    (axis : p.1 = q.1 ∨ p.2 = q.2 ∧ q.2 = r.2) :
    crosses a b (p, r) = (crosses a b (p, q) != crosses a b (q, r)) := by
  unfold crosses
  rcases axis with same | ⟨same, same'⟩
  · rw [same]
    dsimp only
    cases decide (q.1 ≤ a) <;> cases decide (p.2 ≤ b) <;> cases decide (q.2 ≤ b) <;>
      cases decide (r.2 ≤ b) <;> rfl
  · dsimp only
    rw [same, same']
    simp

theorem crosses_stretch (a b : Int) (d : Fin 4) (n : Nat) (p : Point) :
    crosses a b (p, p + n • unitStep d) =
      oddly (fun e => crosses a b (e.start, e.goal)) (stretch d n p) := by
  induction n generalizing p with
  | zero => simp [crosses, stretch, oddly]
  | succ n ih =>
    have further : p + (n + 1) • unitStep d = p + unitStep d + n • unitStep d := by
      rw [add_assoc, ← succ_nsmul']
    rw [stretch, oddly, ← ih, further]
    refine crosses_join (q := p + unitStep d) ?_
    rw [Prod.fst_add, Prod.snd_add, Prod.snd_add, Prod.snd_add, Prod.smul_snd]
    rcases unitStep_axis d with zero | zero <;> simp [zero]

/-! ## The edges left of a cell -/

variable {tiles : List Point} {e : Edge}

/-- The edge stands in the row at the left side of the cell. -/
def touches (a b : Int) (e : Edge) : Bool :=
  decide (e.start.1 = a) && (decide (e.start.2 ≤ b) != decide (e.goal.2 ≤ b))

theorem crosses_next (a b : Int) (e : Edge) : crosses a b (e.start, e.goal) =
    (crosses (a - 1) b (e.start, e.goal) != touches a b e) := by
  have column : decide (e.start.1 ≤ a) =
      (decide (e.start.1 ≤ a - 1) != decide (e.start.1 = a)) := by
    by_cases less : e.start.1 ≤ a - 1
    · simp [less, show e.start.1 ≤ a by omega, show e.start.1 ≠ a by omega]
    · by_cases same : e.start.1 = a
      · simp [same]
      · simp [less, same, show ¬ e.start.1 ≤ a by omega]
  unfold crosses touches
  dsimp only
  rw [column]
  cases decide (e.start.1 ≤ a - 1) <;> cases decide (e.start.1 = a) <;>
    cases decide (e.start.2 ≤ b) != decide (e.goal.2 ≤ b) <;> rfl

/-- Left of a cell there is an edge when one of the two cells is in the set and one is not. -/
theorem oddly_touches (a b : Int) : oddly (touches a b) (edgesOf tiles) =
    (decide ((a - 1, b) ∈ tiles) != decide ((a, b) ∈ tiles)) := by
  have found : ((edgesOf tiles).filter fun e => touches a b e = true).Perm
      ([sideFrom (a, b) 1, sideFrom (a, b + 1) 3].filter (· ∈ edgesOf tiles)) := by
    refine filter_edgesOf (by simp [sideFrom]) (fun e inside here => ?_) (fun e possible => ?_)
    · have edge := (mem_edgesOf.mp inside).eq_sideFrom
      rw [edge] at here ⊢
      generalize e.start = v at here ⊢
      generalize e.direction = d at here ⊢
      obtain ⟨x, y⟩ := v
      have place : (decide (x = a) && (decide (y ≤ b) != decide (y + (unitStep d).2 ≤ b))) = true :=
        here
      simp only [Bool.and_eq_true, decide_eq_true_eq, bne_iff_ne, ne_eq, decide_eq_decide] at place
      obtain ⟨rfl, row⟩ := place
      fin_cases d
      · simp [unitStep] at row
      · have same : y = b := by
          simp [unitStep] at row
          omega
        simp [same]
      · simp [unitStep] at row
      · have same : y = b + 1 := by
          simp [unitStep] at row
          omega
        simp [same]
    · simp only [List.mem_cons, List.not_mem_nil, or_false] at possible
      rcases possible with rfl | rfl <;> simp [touches, sideFrom, unitStep]
  have number := found.length_eq
  simp only [Bool.decide_eq_true] at number
  rw [Bool.eq_iff_iff, oddly_iff, List.countP_eq_length_filter, number]
  simp only [List.filter_cons, List.filter_nil, mem_edgesOf, isBoundary_sideFrom, decide_eq_true_eq,
    rightCell, leftCell, add_sub_cancel_right]
  by_cases left : (a - 1, b) ∈ tiles <;> by_cases right : (a, b) ∈ tiles <;> simp [left, right]

theorem exists_left (tiles : List Point) (a : Int) : ∃ m ≤ a, ∀ p ∈ tiles, m < p.1 := by
  induction tiles with
  | nil => exact ⟨a, le_rfl, nofun⟩
  | cons p tiles ih =>
    obtain ⟨m, below, left⟩ := ih
    refine ⟨min m (p.1 - 1), (min_le_left _ _).trans below, fun q inside => ?_⟩
    rcases List.mem_cons.mp inside with rfl | other
    · omega
    · have := left q other
      omega

/-- From a cell to the next one the edges between them are counted. -/
theorem oddly_edges (tiles : List Point) (a b : Int) :
    oddly (fun e => crosses a b (e.start, e.goal)) (edgesOf tiles) = decide ((a, b) ∈ tiles) := by
  obtain ⟨m, below, left⟩ := exists_left tiles a
  induction a, below using Int.leInduction with
  | base =>
    have outside : (m, b) ∉ tiles := fun inside => (left _ inside).false
    rw [decide_eq_false outside]
    refine oddly_none fun e inside => ?_
    have edge := mem_edgesOf.mp inside
    have behind := left _ edge.inside
    have straight := edge.straight
    obtain ⟨⟨x, y⟩, w, d⟩ := e
    dsimp only at straight
    subst straight
    fin_cases d <;> simp_all [crosses, unitStep, rightCell]
    omega
  | succ a below ih =>
    have each : oddly (fun e => crosses (a + 1) b (e.start, e.goal)) (edgesOf tiles) =
        oddly (fun e => crosses a b (e.start, e.goal) != touches (a + 1) b e) (edgesOf tiles) :=
      oddly_congr fun e _ => by rw [crosses_next, add_sub_cancel_right]
    rw [each, oddly_bne, ih, oddly_touches, add_sub_cancel_right]
    cases decide ((a, b) ∈ tiles) <;> cases decide ((a + 1, b) ∈ tiles) <;> rfl

/-! ## The outlines -/

/-- The loops are closed chains of the edges between the set and the rest, every edge on one of them
and once; they keep the corners, and they enclose the cells of the set. -/
theorem region_outlines (tiles : List Point) (extra : Nat) : ∃ loops chains,
    traceRegionOutlines ℝ ((edgesOf tiles).length + extra) tiles = some loops ∧
    List.Forall₂ OutlineOf chains loops ∧
    (loops.flatMap loopEdges).Nodup ∧ (∀ e, e ∈ loops.flatMap loopEdges ↔ IsBoundary tiles e) ∧
    ∀ u v : ℝ, Filled loops u v ↔ (⌊u⌋, ⌊v⌋) ∈ tiles := by
  classical
  obtain ⟨chains, traces, once, each⟩ := traced_chains (K := ℝ) tiles (Nat.le_add_right _ extra)
  have outline : ∀ chain ∈ chains,
      OutlineOf chain (simplifyCollinear ℝ (chain.map Edge.start)) := by
    intro chain among
    obtain ⟨some_, v, closed⟩ := each chain among
    refine simplify_outline (fun e inside => ?_) closed some_
    exact (mem_edgesOf.mp (once.mem_iff.mp (List.mem_flatten_of_mem among inside))).straight
  have edges : ((chains.map fun chain => simplifyCollinear ℝ (chain.map Edge.start)).flatMap
      loopEdges).Perm (edgesOf tiles) := by
    refine List.Perm.trans ?_ once
    rw [List.flatMap_map, ← List.flatMap_id']
    exact List.Perm.flatMap_left _ fun chain among => (outline chain among).edges
  refine ⟨_, chains, traces, ?_, ?_, fun e => ?_, fun u v => ?_⟩
  · rw [List.forall₂_map_right_iff, List.forall₂_same]
    exact outline
  · exact edges.nodup_iff.mpr (edgesOf_nodup tiles)
  · rw [edges.mem_iff, mem_edgesOf]
  · have straight : ∀ side ∈ (chains.map fun chain =>
        simplifyCollinear ℝ (chain.map Edge.start)).flatMap sidesOf, Straight side := by
      intro side among
      obtain ⟨loop, inside, on⟩ := List.mem_flatMap.mp among
      obtain ⟨chain, among', rfl⟩ := List.mem_map.mp inside
      exact (outline chain among').straight side on
    generalize (chains.map fun chain => simplifyCollinear ℝ (chain.map Edge.start)) = loops at *
    have parity : oddly (crosses ⌊u⌋ ⌊v⌋) (loops.flatMap sidesOf) = decide ((⌊u⌋, ⌊v⌋) ∈ tiles) := by
      rw [← oddly_edges, ← oddly_perm edges]
      unfold loopEdges
      rw [← List.flatMap_assoc]
      refine (oddly_flatMap fun side among => ?_).symm
      obtain ⟨d, n, ends⟩ := straight side among
      obtain ⟨p, q⟩ := side
      obtain rfl : q = p + n • unitStep d := ends
      rw [segmentEdges_stretch, crosses_stretch]
    have count : (loops.flatMap sidesOf).countP (crosses ⌊u⌋ ⌊v⌋) = (loops.flatMap sidesOf).countP
        fun side => decide (CrossesRay u v side) := by
      refine List.countP_congr fun side among => ?_
      rw [decide_eq_true_eq, crossesRay_iff (straight side among)]
    unfold Filled
    rw [← count, ← oddly_iff, parity, decide_eq_true_eq]

end SwitchRemake.Client

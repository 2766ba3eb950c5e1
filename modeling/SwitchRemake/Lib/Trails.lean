import Mathlib.Data.List.Perm.Basic

/-!
# Trails

Walks along directed edges that use no edge twice. What a walk has left is balanced but for the two ends
of the walk, so it can only end where it began.
-/

namespace SwitchRemake.Lib

variable {V E : Type} {tail head : E → V}

/-- The edges lead from one vertex to another. -/
def Trail (tail head : E → V) : V → List E → V → Prop
  | v, [], w => v = w
  | v, e :: edges, w => tail e = v ∧ Trail tail head (head e) edges w

theorem Trail.append {v w : V} {edges edges' : List E} (first : Trail tail head v edges w) {z : V}
    (second : Trail tail head w edges' z) : Trail tail head v (edges ++ edges') z := by
  induction edges generalizing v with
  | nil =>
    obtain rfl : v = w := first
    exact second
  | cons e edges ih => exact ⟨first.1, ih first.2⟩

theorem Trail.split {v z : V} {edges edges' : List E}
    (whole : Trail tail head v (edges ++ edges') z) :
    ∃ w, Trail tail head v edges w ∧ Trail tail head w edges' z := by
  induction edges generalizing v with
  | nil => exact ⟨v, rfl, whole⟩
  | cons e edges ih =>
    obtain ⟨w, first, second⟩ := ih whole.2
    exact ⟨w, ⟨whole.1, first⟩, second⟩

theorem Trail.map {E' : Type} {f : E' → E} {v w : V} {edges : List E'}
    (trail : Trail (tail ∘ f) (head ∘ f) v edges w) : Trail tail head v (edges.map f) w := by
  induction edges generalizing v with
  | nil => exact trail
  | cons e edges ih => exact ⟨trail.1, ih trail.2⟩

/-- As many edges leave a vertex as come to it. -/
def Balanced (tail head : E → V) (edges : List E) : Prop := (edges.map tail).Perm (edges.map head)

/-- The edges are balanced once there is one more from the second vertex to the first. -/
def BalancedBut (tail head : E → V) (start current : V) (edges : List E) : Prop :=
  (start :: edges.map tail).Perm (current :: edges.map head)

theorem Balanced.of_map {E' : Type} {f : E' → E} {edges : List E'}
    (balanced : Balanced tail head (edges.map f)) : Balanced (tail ∘ f) (head ∘ f) edges := by
  unfold Balanced at balanced ⊢
  rwa [List.map_map, List.map_map] at balanced

theorem Balanced.starts {edges : List E} (balanced : Balanced tail head edges) (v : V) :
    BalancedBut tail head v v edges := balanced.cons v

theorem BalancedBut.ends {edges : List E} {v : V} (balanced : BalancedBut tail head v v edges) :
    Balanced tail head edges := balanced.cons_inv

theorem BalancedBut.step {edges left : List E} {start : V} {e : E} (rest : edges.Perm (e :: left))
    (balanced : BalancedBut tail head start (tail e) edges) :
    BalancedBut tail head start (head e) left := by
  have first : (tail e :: start :: left.map tail).Perm (tail e :: head e :: left.map head) :=
    calc
      List.Perm (tail e :: start :: left.map tail) (start :: tail e :: left.map tail) := .swap _ _ _
      List.Perm _ (start :: edges.map tail) := ((rest.map tail).symm).cons start
      List.Perm _ (tail e :: edges.map head) := balanced
      List.Perm _ (tail e :: head e :: left.map head) := (rest.map head).cons (tail e)
  exact first.cons_inv

/-- Away from its start a walk can go on. -/
theorem BalancedBut.continues {edges : List E} {start current : V} (away : current ≠ start)
    (balanced : BalancedBut tail head start current edges) : ∃ e ∈ edges, tail e = current := by
  have inside : current ∈ start :: edges.map tail := balanced.mem_iff.mpr List.mem_cons_self
  rcases List.mem_cons.mp inside with same | later
  · exact absurd same away
  · exact List.mem_map.mp later

end SwitchRemake.Lib

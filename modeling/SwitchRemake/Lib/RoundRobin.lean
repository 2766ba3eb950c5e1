import Mathlib.Data.List.Sort
import Mathlib.Order.Basic

/-!
# Round robin

A cursor in a linear order: what is above it comes first, and then what is not, each part in order.
Whoever serves the first few and moves the cursor to the last of them comes to everybody.
-/

namespace SwitchRemake.Lib

variable {α : Type} [LinearOrder α] {cursor last x y z : α}

/-- The cursor comes by `x` on its way to `y`. -/
def Ahead (cursor x y : α) : Prop :=
  if cursor < y then cursor < x ∧ x < y else cursor < x ∨ x < y

instance (cursor x y : α) : Decidable (Ahead cursor x y) := by
  unfold Ahead
  infer_instance

theorem Ahead.irrefl (cursor y : α) : ¬ Ahead cursor y y := by
  unfold Ahead
  split
  · exact fun both => lt_irrefl y both.2
  · rename_i behind
    exact fun either => either.elim behind (lt_irrefl y)

theorem Ahead.asymm (first : Ahead cursor x y) : ¬ Ahead cursor y x := by
  unfold Ahead at *
  grind

/-- From `last`, which the cursor comes by, no more lies ahead than did. -/
theorem Ahead.of_last (between : Ahead cursor last y) (ahead : Ahead last x y) : Ahead cursor x y := by
  unfold Ahead at *
  grind

/-- What the cursor has come by before `last` lies behind it. -/
theorem Ahead.passed (between : Ahead cursor last y) (before : x = last ∨ Ahead cursor x last) :
    ¬ Ahead last x y := by
  unfold Ahead at *
  grind

/-- What is above the cursor, and then the rest. -/
theorem pairwise_ahead {low high : List α} (ascending : (low ++ high).Pairwise (· < ·))
    (below : ∀ x ∈ low, ¬ cursor < x) (above : ∀ x ∈ high, cursor < x) :
    (high ++ low).Pairwise (Ahead cursor) := by
  obtain ⟨first, second, _⟩ := List.pairwise_append.mp ascending
  refine List.pairwise_append.mpr ⟨?_, ?_, ?_⟩
  · refine second.imp_of_mem fun {x y} inside inside' less => ?_
    exact (if_pos (above y inside')).mpr ⟨above x inside, less⟩
  · refine first.imp_of_mem fun {x y} _ inside less => ?_
    exact (if_neg (below y inside)).mpr (.inr less)
  · intro x inside y inside'
    exact (if_neg (below y inside')).mpr (.inl (above x inside))

/-- Either `y` is served, or the cursor comes nearer to it by as many as are served. -/
theorem served_or_nearer {xs : List α} {limit : Nat} (order : xs.Pairwise (Ahead cursor))
    (inside : y ∈ xs) (positive : 0 < limit) :
    y ∈ xs.take limit ∨ ∃ last, (xs.take limit).getLast? = some last ∧ Ahead cursor last y ∧
      (xs.filter (Ahead last · y)).length + limit ≤ (xs.filter (Ahead cursor · y)).length := by
  by_cases served : y ∈ xs.take limit
  · exact .inl served
  right
  have split : xs.take limit ++ xs.drop limit = xs := List.take_append_drop limit xs
  have later : y ∈ xs.drop limit := by
    rw [← split] at inside
    exact (List.mem_append.mp inside).resolve_left served
  have count : (xs.take limit).length = limit := by
    have some_ := List.length_pos_of_mem later
    rw [List.length_drop] at some_
    rw [List.length_take]
    omega
  rw [← split] at order
  obtain ⟨front, _, across⟩ := List.pairwise_append.mp order
  have ahead : ∀ x ∈ xs.take limit, Ahead cursor x y := fun x member => across x member y later
  obtain ⟨rest, last, ends⟩ := (List.eq_nil_or_concat (xs.take limit)).resolve_left
    (List.ne_nil_of_length_pos (count.symm ▸ positive : 0 < (xs.take limit).length))
  rw [List.concat_eq_append] at ends
  have between : Ahead cursor last y := ahead last (ends ▸ List.mem_append_right _ (by simp))
  have passed : ∀ x ∈ xs.take limit, ¬ Ahead last x y := by
    intro x member
    refine between.passed ?_
    rw [ends] at member front
    rcases List.mem_append.mp member with before | same
    · exact .inr ((List.pairwise_append.mp front).2.2 x before last (List.mem_singleton_self _))
    · exact .inl (List.mem_singleton.mp same)
  refine ⟨last, by rw [ends, List.getLast?_concat], between, ?_⟩
  have gone : (xs.take limit).filter (Ahead last · y) = [] :=
    List.filter_eq_nil_iff.mpr fun x member => by simpa using passed x member
  have all : (xs.take limit).filter (Ahead cursor · y) = xs.take limit :=
    List.filter_eq_self.mpr fun x member => by simpa using ahead x member
  have fewer : ((xs.drop limit).filter (Ahead last · y)).length ≤
      ((xs.drop limit).filter (Ahead cursor · y)).length :=
    (List.monotone_filter_right _ fun x nearer => by
      simpa using Ahead.of_last between (by simpa using nearer)).length_le
  calc (xs.filter (Ahead last · y)).length + limit
      = ((xs.drop limit).filter (Ahead last · y)).length + limit := by
        rw [← congrArg (List.filter (Ahead last · y)) split, List.filter_append, gone,
          List.nil_append]
    _ ≤ (xs.take limit).length + ((xs.drop limit).filter (Ahead cursor · y)).length := by omega
    _ = (xs.filter (Ahead cursor · y)).length := by
        rw [← congrArg (List.filter (Ahead cursor · y)) split, List.filter_append, all,
          List.length_append]

end SwitchRemake.Lib

import Mathlib.Algebra.Ring.Parity
import Mathlib.Data.List.Count
import Mathlib.Tactic.Common

/-!
# Counting by twos

Whether an odd number of the elements of a list have a property. Odd and odd make even, so what is
counted may be cut into pieces and put together again.
-/

namespace SwitchRemake.Lib

variable {α β : Type}

/-- An odd number of the elements have the property. -/
def oddly (has : α → Bool) : List α → Bool
  | [] => false
  | a :: later => has a != oddly has later

variable {has has' : α → Bool}

theorem oddly_iff (has : α → Bool) (l : List α) : oddly has l = true ↔ Odd (l.countP has) := by
  induction l with
  | nil => simp [oddly]
  | cons a l ih =>
    rw [oddly, List.countP_cons]
    cases has a
    · simpa using ih
    · rw [if_pos rfl, Nat.odd_add_one, ← ih]
      simp

theorem oddly_perm {l l' : List α} (same : l.Perm l') : oddly has l = oddly has l' := by
  rw [Bool.eq_iff_iff, oddly_iff, oddly_iff, same.countP_eq]

theorem oddly_append (l l' : List α) : oddly has (l ++ l') = (oddly has l != oddly has l') := by
  induction l with
  | nil => simp [oddly]
  | cons a l ih => rw [List.cons_append, oddly, oddly, ih, Bool.bne_assoc]

theorem oddly_bne (l : List α) :
    oddly (fun a => has a != has' a) l = (oddly has l != oddly has' l) := by
  induction l with
  | nil => rfl
  | cons a l ih =>
    rw [oddly, oddly, oddly, ih]
    cases has a <;> cases has' a <;> cases oddly has l <;> cases oddly has' l <;> rfl

theorem oddly_congr {l : List α} (same : ∀ a ∈ l, has a = has' a) : oddly has l = oddly has' l := by
  rw [Bool.eq_iff_iff, oddly_iff, oddly_iff, List.countP_congr fun a inside => by rw [same a inside]]

theorem oddly_none {l : List α} (none_ : ∀ a ∈ l, has a = false) : oddly has l = false := by
  rw [← Bool.not_eq_true, oddly_iff, List.countP_eq_zero.mpr fun a inside => by rw [none_ a inside]; nofun]
  decide

theorem oddly_flatMap {f : β → List α} {l : List β} {has : α → Bool} {each : β → Bool}
    (same : ∀ b ∈ l, each b = oddly has (f b)) : oddly has (l.flatMap f) = oddly each l := by
  induction l with
  | nil => rfl
  | cons b l ih =>
    rw [List.flatMap_cons, oddly_append, oddly, same b List.mem_cons_self,
      ih fun c inside => same c (List.mem_cons_of_mem _ inside)]

end SwitchRemake.Lib

import Mathlib.Algebra.BigOperators.Intervals
import Mathlib.Data.List.Count

/-!
# Counters in a ring

A ring of cells counts what has happened in each of the last so many seconds. A cell is cleared when
the second it stands for comes, so that the cells together count a window that slides.
-/

namespace SwitchRemake.Lib

/-- `cells` by place, the place of the current second and that second. -/
structure Ring (size : Nat) where
  cells : Vector Nat size
  cursor : Nat
  second : Nat

namespace Ring
variable {size : Nat}

def start (size second : Nat) : Ring size := ⟨.replicate size 0, 0, second⟩

def cell (r : Ring size) (place : Nat) : Nat := r.cells[place]?.getD 0

/-- The next second comes and its cell is cleared. -/
def next (r : Ring size) : Ring size :=
  let cursor := (r.cursor + 1) % size
  { cells := r.cells.setIfInBounds cursor 0, cursor, second := r.second + 1 }

def nexts (r : Ring size) : Nat → Ring size
  | 0 => r
  | steps + 1 => (nexts r steps).next

/-- The clock is read. One that stands or goes back changes nothing. -/
def advance (r : Ring size) (second : Nat) : Ring size :=
  if second ≤ r.second then r
  else if size ≤ second - r.second then ⟨.replicate size 0, 0, second⟩
  else r.nexts (second - r.second)

def bump (r : Ring size) : Ring size :=
  { r with cells := r.cells.setIfInBounds r.cursor (r.cell r.cursor + 1) }

def total (r : Ring size) : Nat := r.cells.toList.sum

end Ring

/-- What the ring stands for: every event with the latest second that had been read. -/
structure SecondLog where
  second : Nat
  events : List Nat

namespace SecondLog

def advance (log : SecondLog) (second : Nat) : SecondLog := { log with second := max log.second second }

def bump (log : SecondLog) : SecondLog := { log with events := log.second :: log.events }

/-- The events of the last `size` seconds. -/
def recent (log : SecondLog) (size : Nat) : Nat := log.events.countP fun event => log.second < event + size

end SecondLog

namespace Ring
variable {size : Nat} {r : Ring size} {log : SecondLog}

/-- The cell `back` places behind the cursor counts the events of so many seconds ago. -/
structure Counts (r : Ring size) (log : SecondLog) : Prop where
  cursor : r.cursor < size
  second : r.second = log.second
  past : ∀ event ∈ log.events, event ≤ log.second
  cells : ∀ back < size, r.cell ((r.cursor + size - back) % size) =
    log.events.countP fun event => event + back = log.second

theorem Counts.clear (positive : 0 < size) {second : Nat} (past : ∀ event ∈ log.events,
    event + size ≤ second) : Counts (⟨.replicate size 0, 0, second⟩ : Ring size)
      { log with second } where
  cursor := positive
  second := rfl
  past event inside := Nat.le_trans (Nat.le_add_right _ _) (past event inside)
  cells back below := by
    have none_ : log.events.countP (fun event => event + back = second) = 0 := by
      refine List.countP_eq_zero.mpr fun event inside => ?_
      have := past event inside
      rw [decide_eq_true_eq]
      omega
    rw [none_, cell, Vector.getElem?_replicate]
    split <;> rfl

theorem start_counts (positive : 0 < size) (second : Nat) :
    Counts (start size second) ⟨second, []⟩ :=
  have none_ : ∀ event ∈ (SecondLog.mk second []).events, event + size ≤ second := by nofun
  Counts.clear positive none_

theorem cell_set (r : Ring size) {place other value cursor second : Nat} (room : place < size) :
    cell (⟨r.cells.setIfInBounds place value, cursor, second⟩ : Ring size) other =
      if place = other then value else r.cell other := by
  rw [cell, Vector.getElem?_setIfInBounds, if_pos room]
  split <;> rfl

/-- Places behind the cursor are different. -/
theorem behind_inj {cursor a b : Nat} (below : a < size) (below' : b < size)
    (same : (cursor + size - a) % size = (cursor + size - b) % size) (small : cursor < size) : a = b := by
  have turn {c : Nat} (less : c < size) : (cursor + size - c) % size =
      if c ≤ cursor then cursor - c else cursor + size - c := by
    split
    · rw [show cursor + size - c = cursor - c + size by omega, Nat.add_mod_right]
      exact Nat.mod_eq_of_lt (by omega)
    · exact Nat.mod_eq_of_lt (by omega)
  rw [turn below, turn below'] at same
  split at same <;> split at same <;> omega

theorem Counts.next (counts : Counts r log) :
    Counts r.next { log with second := log.second + 1 } where
  cursor := Nat.mod_lt _ (Nat.lt_of_le_of_lt (Nat.zero_le _) counts.cursor)
  second := congrArg (· + 1) counts.second
  past event inside := Nat.le_succ_of_le (counts.past event inside)
  cells back below := by
    have small := counts.cursor
    have room : (r.cursor + 1) % size < size := Nat.mod_lt _ (by omega)
    show cell (⟨r.cells.setIfInBounds _ 0, _, _⟩ : Ring size)
      (((r.cursor + 1) % size + size - back) % size) = _
    have first : ((r.cursor + 1) % size + size - 0) % size = (r.cursor + 1) % size := by
      rw [Nat.sub_zero, Nat.add_mod_right, Nat.mod_mod]
    rw [cell_set r room]
    by_cases now : back = 0
    · subst now
      rw [if_pos first.symm]
      refine (List.countP_eq_zero.mpr fun event inside => ?_).symm
      have := counts.past event inside
      rw [decide_eq_true_eq]
      show ¬ event + 0 = log.second + 1
      omega
    · have other : (r.cursor + 1) % size ≠ ((r.cursor + 1) % size + size - back) % size := fun same =>
        now (behind_inj below (by omega) (same.symm.trans first.symm) room)
      have before : ((r.cursor + 1) % size + size - back) % size =
          (r.cursor + size - (back - 1)) % size := by
        by_cases last : r.cursor + 1 = size
        · rw [last, Nat.mod_self, Nat.zero_add,
            show r.cursor + size - (back - 1) = size - back + size by omega, Nat.add_mod_right]
        · rw [Nat.mod_eq_of_lt (show r.cursor + 1 < size by omega),
            show r.cursor + 1 + size - back = r.cursor + size - (back - 1) by omega]
      rw [if_neg other, before, counts.cells (back - 1) (by omega)]
      refine List.countP_congr fun event _ => ?_
      rw [decide_eq_true_eq, decide_eq_true_eq]
      show event + (back - 1) = log.second ↔ event + back = log.second + 1
      omega

theorem Counts.bump (counts : Counts r log) : Counts r.bump log.bump where
  cursor := counts.cursor
  second := counts.second
  past event inside := by
    rcases List.mem_cons.mp inside with rfl | before
    · exact Nat.le_refl _
    · exact counts.past event before
  cells back below := by
    show cell (⟨r.cells.setIfInBounds _ _, _, _⟩ : Ring size) ((r.cursor + size - back) % size) = _
    rw [cell_set r counts.cursor, SecondLog.bump, List.countP_cons]
    have first : (r.cursor + size - 0) % size = r.cursor := by
      rw [Nat.sub_zero, Nat.add_mod_right, Nat.mod_eq_of_lt counts.cursor]
    by_cases now : back = 0
    · subst now
      rw [if_pos first.symm]
      have := counts.cells 0 below
      rw [first] at this
      simp [this]
    · have other : r.cursor ≠ (r.cursor + size - back) % size := fun same =>
        now (behind_inj below (by omega) (same.symm.trans first.symm) counts.cursor)
      rw [if_neg other, counts.cells back below]
      simp [now]

theorem Counts.nexts (counts : Counts r log) (steps : Nat) :
    Counts (r.nexts steps) { log with second := log.second + steps } := by
  induction steps with
  | zero => exact counts
  | succ steps ih => exact ih.next

theorem Counts.advance (counts : Counts r log) (second : Nat) :
    Counts (r.advance second) (log.advance second) := by
  have same := counts.second
  rw [Ring.advance, SecondLog.advance]
  split
  · rename_i back
    rw [Nat.max_eq_left (same ▸ back)]
    exact counts
  · rename_i on
    rw [Nat.max_eq_right (by omega)]
    split
    · refine Counts.clear (Nat.lt_of_le_of_lt (Nat.zero_le _) counts.cursor) fun event inside => ?_
      have := counts.past event inside
      omega
    · have later := counts.nexts (second - r.second)
      rwa [show log.second + (second - r.second) = second by omega] at later

theorem sum_eq_range (xs : List Nat) :
    xs.sum = ∑ place ∈ Finset.range xs.length, xs[place]?.getD 0 := by
  induction xs with
  | nil => rfl
  | cons x xs ih =>
    rw [List.sum_cons, List.length_cons, Finset.sum_range_succ', ih, Nat.add_comm]
    rfl

/-- Each event of the window is in one cell. -/
theorem sum_countP {events : List Nat} {second : Nat} (past : ∀ event ∈ events, event ≤ second) :
    ∑ back ∈ Finset.range size, events.countP (fun event => event + back = second) =
      events.countP fun event => second < event + size := by
  induction events with
  | nil => exact Finset.sum_const_zero
  | cons event rest ih =>
    have here := past event List.mem_cons_self
    have one : ∑ back ∈ Finset.range size, (if event + back = second then 1 else 0) =
        if second < event + size then 1 else 0 := by
      have same (back : Nat) : (event + back = second) = (second - event = back) := by
        rw [eq_iff_iff]
        omega
      simp only [same, Finset.sum_ite_eq, Finset.mem_range]
      congr 1
      rw [eq_iff_iff]
      omega
    simp only [List.countP_cons, Finset.sum_add_distrib, decide_eq_true_eq, one,
      ih fun other inside => past other (List.mem_cons_of_mem _ inside)]

theorem Counts.total (counts : Counts r log) : r.total = log.recent size := by
  have cells : r.total = ∑ place ∈ Finset.range size, r.cell place := by
    rw [Ring.total, sum_eq_range, Vector.length_toList]
    refine Finset.sum_congr rfl fun place _ => ?_
    rw [Ring.cell, Vector.getElem?_toList]
  have inside (back : Nat) (below : back ∈ Finset.range size) :
      (r.cursor + size - back) % size ∈ Finset.range size :=
    Finset.mem_range.mpr (Nat.mod_lt _ (Nat.lt_of_le_of_lt (Nat.zero_le _) (Finset.mem_range.mp below)))
  have injective : Set.InjOn (fun back => (r.cursor + size - back) % size) (Finset.range size) :=
    fun a below b below' same => behind_inj (Finset.mem_range.mp below) (Finset.mem_range.mp below')
      same counts.cursor
  calc r.total = ∑ place ∈ Finset.range size, r.cell place := cells
    _ = ∑ back ∈ Finset.range size, r.cell ((r.cursor + size - back) % size) :=
        (Finset.sum_nbij (fun back => (r.cursor + size - back) % size) inside injective
          (Finset.surjOn_of_injOn_of_card_le _ inside injective (Nat.le_refl _)) fun _ _ => rfl).symm
    _ = ∑ back ∈ Finset.range size, log.events.countP fun event => event + back = log.second :=
        Finset.sum_congr rfl fun back below => counts.cells back (Finset.mem_range.mp below)
    _ = log.recent size := sum_countP counts.past

end Ring
end SwitchRemake.Lib

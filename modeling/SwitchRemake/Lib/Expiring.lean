/-!
# Keys that expire

One key of a store: a value and the millisecond at which it is last there.
-/

namespace SwitchRemake.Lib

structure Timed (α : Type) where
  value : α
  expiresAt : Nat
deriving DecidableEq

abbrev Cell (α : Type) := Option (Timed α)

namespace Cell
variable {α : Type} {now later ttl : Nat} {c : Cell α} {v w : α}

def get (now : Nat) (c : Cell α) : Option α :=
  match c with
  | some entry => if now ≤ entry.expiresAt then some entry.value else none
  | none => none

def put (now ttl : Nat) (value : α) : Cell α := some ⟨value, now + ttl⟩

/-- What is left of a key that is there. -/
def remaining (now : Nat) (c : Cell α) : Nat :=
  match c with
  | some entry => entry.expiresAt - now
  | none => 0

/-- The counter goes up and keeps its lifetime; one that is not there begins at 1. -/
def bump (now ttl : Nat) (c : Cell Nat) : Cell Nat :=
  match c with
  | some entry =>
    if now ≤ entry.expiresAt then some { entry with value := entry.value + 1 } else put now ttl 1
  | none => put now ttl 1

@[simp] theorem get_none : get now (none : Cell α) = none := rfl

@[simp] theorem get_put : get now (put now ttl v) = some v := by
  simp [get, put]

theorem eq_some_of_get (there : get now c = some v) :
    ∃ entry, c = some entry ∧ entry.value = v ∧ now ≤ entry.expiresAt := by
  cases c with
  | none => cases there
  | some entry =>
    by_cases alive : now ≤ entry.expiresAt
    · simp [get, alive] at there
      exact ⟨entry, rfl, there, alive⟩
    · simp [get, alive] at there

theorem get_of_later (le : now ≤ later) (there : get later c = some v) : get now c = some v := by
  obtain ⟨entry, rfl, rfl, alive⟩ := eq_some_of_get there
  simp [get, Nat.le_trans le alive]

theorem get_bump {c : Cell Nat} : get now (bump now ttl c) = some ((get now c).getD 0 + 1) := by
  cases c with
  | none => simp [bump]
  | some entry =>
    by_cases alive : now ≤ entry.expiresAt
    · simp [bump, get, alive]
    · simp [bump, get, alive, put]

end Cell
end SwitchRemake.Lib

import Mathlib.Algebra.Group.Nat.Defs

/-!
# The rounds of the human check

`humanCheck/round.ts`: the server rebuilds a round from its seed and judges the number and the time.
The paths that are only drawn come after these in the generator and are left out.
-/

namespace SwitchRemake.HumanCheck

/-- The generator's next state and value; the value counts parts of 2³². -/
def seededRandom (state : UInt32) : UInt32 × UInt32 :=
  let state := state + 0x6d2b79f5
  let t := (state ^^^ (state >>> 15)) * (state ||| 1)
  let t := t ^^^ (t + (t ^^^ (t >>> 7)) * (t ||| 61))
  (state, t ^^^ (t >>> 14))

/-- `Math.floor(random() * n)`. -/
def floorOf (value : UInt32) (n : Nat) : Nat := value.toNat * n / 2 ^ 32

def intBetween (state : UInt32) (min max : Nat) : UInt32 × Nat :=
  let drawn := seededRandom state
  (drawn.1, min + floorOf drawn.2 (max - min + 1))

def swap (slots : List Nat) (i j : Nat) : List Nat :=
  (slots.set i (slots.getD j 0)).set j (slots.getD i 0)

def shuffledSlots (state : UInt32) : UInt32 × List Nat :=
  [7, 6, 5, 4, 3, 2, 1].foldl (fun drawn i =>
    let next := seededRandom drawn.1
    (next.1, swap drawn.2 i (floorOf next.2 (i + 1)))) (state, [1, 2, 3, 4, 5, 6, 7, 8])

def graceMs : Nat := 150

structure SwitchRound where
  openAt : Nat
  caughtAt : Nat
  target : Nat
deriving DecidableEq

/-- The third slot is the runner that stays in range. -/
def buildSwitchRound (seed : Nat) : SwitchRound :=
  let slots := shuffledSlots (UInt32.ofNat seed)
  let runnerCount := seededRandom slots.1
  let openAt := intBetween runnerCount.1 1900 2600
  let caught := intBetween openAt.1 1000 1300
  { openAt := openAt.2, caughtAt := openAt.2 + caught.2, target := slots.2.getD 2 0 }

inductive SwitchVerdict where
  | ok
  | early
  | late
  | wrong
deriving DecidableEq

def checkSwitchAnswer (round : SwitchRound) (slot : Nat) (atMs : Int) : SwitchVerdict :=
  if atMs < round.openAt - graceMs then .early
  else if atMs > round.caughtAt + graceMs then .late
  else if slot = round.target then .ok else .wrong

theorem checkSwitchAnswer_ok {round : SwitchRound} {slot : Nat} {atMs : Int} :
    checkSwitchAnswer round slot atMs = .ok ↔ slot = round.target ∧
      round.openAt - graceMs ≤ atMs ∧ atMs ≤ round.caughtAt + graceMs := by
  unfold checkSwitchAnswer
  split
  · simp
    omega
  · split
    · simp
      omega
    · rename_i late early
      split <;> simp <;> omega

def minElapsedMs : Nat := 6000

def buildRadioRound (seed : Nat) : Nat := (shuffledSlots (UInt32.ofNat seed)).2.getD 2 0

end SwitchRemake.HumanCheck

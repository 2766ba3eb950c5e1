import SwitchRemake.Lib.JsNumber
import SwitchRemake.Config
import Mathlib.Data.Fintype.Pi
import Mathlib.Data.List.Sort

/-!
# The world of one match

`simulation/world.ts`. Every number that may be fractional is of a type `K`; ticks, slots and tile
indices are natural numbers. The mutable objects of the source are values here, and every update
returns the new world.
-/

namespace SwitchRemake.Simulation
open Lib

inductive TilePhysics where
  | floor | wall | bush | gas
  deriving DecidableEq, Repr

inductive EffectType where
  | dash | frenzy | exhaust
  deriving DecidableEq, Repr

inductive SkillId where
  | dash | flash | exhaust | switch
  deriving DecidableEq, Repr

instance : Fintype EffectType := ⟨{.dash, .frenzy, .exhaust}, by intro e; cases e <;> decide⟩

instance : Fintype SkillId := ⟨{.dash, .flash, .exhaust, .switch}, by intro s; cases s <;> decide⟩

inductive SkillRejection where
  | notAlive | noSkill | onCooldown | role | outOfRange | noTarget | noTagger
  deriving DecidableEq, Repr

structure Effect (K : Type) where
  endTick : Nat
  magnitude : K
  deriving DecidableEq

structure Emoji where
  emojiId : Nat
  expiresAtTick : Nat
  deriving DecidableEq

structure MatchStats where
  tagCount : Nat
  taggedCount : Nat
  switchTry : Nat
  switchSuccess : Nat
  eliminatedAtTick : Option Nat
  deriving DecidableEq

def emptyStats : MatchStats := ⟨0, 0, 0, 0, none⟩

/-- The two records `effects` and `cooldowns` are partial functions of their key. -/
structure PlayerState (K : Type) where
  playerId : Nat
  x : K
  y : K
  vx : K
  vy : K
  facingX : K
  facingY : K
  radius : K
  sightRange : K
  colorIndex : Nat
  alive : Bool
  isTagger : Bool
  connected : Bool
  effects : EffectType → Option (Effect K)
  cooldowns : SkillId → Option K
  loadout : SkillId
  emoji : Option Emoji
  stats : MatchStats
  deriving DecidableEq

structure ResolvedInput (K : Type) where
  playerId : Nat
  moveX : K
  moveY : K
  heldActions : Nat
  lastProcessedSequence : Nat
  deriving DecidableEq

structure TileChange where
  x : Nat
  y : Nat
  physics : TilePhysics
  deriving DecidableEq

abbrev Tiles := List (List TilePhysics)

structure WorldMap (K : Type) where
  mapId : String
  cols : Nat
  rows : Nat
  tileSize : K
  tiles : Tiles
  barrierSpeed : K
  timeline : Nat → List TileChange

structure StormRect (K : Type) where
  x : K
  y : K
  width : K
  height : K
  deriving DecidableEq

structure World (K : Type) where
  tick : Nat
  simulationHz : Nat
  map : WorldMap K
  players : List (PlayerState K)
  storm : Option (StormRect K)
  tileChanges : List TileChange
  taggerChangedAtTick : Nat
  randomState : BitVec 32

structure SkillArea (K : Type) where
  skill : SkillId
  playerId : Nat
  fromX : K
  fromY : K
  targetPlayerId : Option Nat
  deriving DecidableEq

inductive WorldEvent (K : Type) where
  | tagged (playerId : Nat) (source : Option Nat)
  | eliminated (playerId : Nat) (source : Option Nat)
  | blinked (playerId : Nat) (fromX fromY : K)
  | skillArea (area : SkillArea K)
  deriving DecidableEq

structure Rejection where
  playerId : Nat
  slot : Nat
  reason : SkillRejection
  deriving DecidableEq

structure AuthoritativeFrame (K : Type) where
  tick : Nat
  world : World K
  events : List (WorldEvent K)
  skillRejections : List Rejection

variable {K : Type}

/-! ## The generator -/

/-- mulberry32: the next state and the 32-bit draw. -/
def mulberry32 (state : BitVec 32) : BitVec 32 × BitVec 32 :=
  let next := state + 0x6d2b79f5#32
  let t := (next ^^^ (next >>> 15)) * (next ||| 1#32)
  let t := t ^^^ (t + (t ^^^ (t >>> 7)) * (t ||| 61#32))
  (next, t ^^^ (t >>> 14))

/-- `floor(u / 2^32 * exclusiveMax)`, which is exact in doubles for every list of players. -/
def World.nextRandomInt (w : World K) (exclusiveMax : Nat) : Nat × World K :=
  if exclusiveMax = 0 then (0, w)
  else
    let drawn := mulberry32 w.randomState
    (drawn.2.toNat * exclusiveMax / 2 ^ 32, { w with randomState := drawn.1 })

theorem nextRandomInt_lt (w : World K) {n : Nat} (positive : 0 < n) :
    (w.nextRandomInt n).1 < n := by
  have nonzero : n ≠ 0 := by omega
  simp only [World.nextRandomInt, nonzero, if_false]
  generalize (mulberry32 w.randomState).2 = draw
  have bound : draw.toNat < 2 ^ 32 := draw.isLt
  apply Nat.div_lt_of_lt_mul
  exact (Nat.mul_lt_mul_right positive).mpr bound

theorem nextRandomInt_world (w : World K) (n : Nat) :
    ∃ state, (w.nextRandomInt n).2 = { w with randomState := state } := by
  unfold World.nextRandomInt
  by_cases zero : n = 0
  · exact ⟨w.randomState, by simp [zero]⟩
  · exact ⟨(mulberry32 w.randomState).1, by simp only [zero, if_false]⟩

/-! ## Players by slot -/

def World.find (w : World K) (id : Nat) : Option (PlayerState K) :=
  w.players.find? (fun p => p.playerId = id)

/-- A write through the object of slot `id`. Slots are distinct in the worlds of the program. -/
def World.update (w : World K) (id : Nat) (f : PlayerState K → PlayerState K) : World K :=
  { w with players := w.players.map fun p => if p.playerId = id then f p else p }

/-- `sort((a, b) => a.playerId - b.playerId)`, which is stable. -/
def sortById {α : Type} (slot : α → Nat) (xs : List α) : List α :=
  xs.insertionSort fun a b => slot a ≤ slot b

theorem mem_sortById {α : Type} {slot : α → Nat} {xs : List α} {a : α} :
    a ∈ sortById slot xs ↔ a ∈ xs :=
  (List.perm_insertionSort _ xs).mem_iff

theorem sortById_perm {α : Type} (slot : α → Nat) (xs : List α) : (sortById slot xs).Perm xs :=
  List.perm_insertionSort _ xs

def DistinctIds (players : List (PlayerState K)) : Prop :=
  (players.map PlayerState.playerId).Nodup

instance (players : List (PlayerState K)) : Decidable (DistinctIds players) :=
  inferInstanceAs (Decidable (players.map PlayerState.playerId).Nodup)

def survivors (w : World K) : List (PlayerState K) := w.players.filter PlayerState.alive

/-- The players left share the win once there are at most two of them. -/
def isFinished (w : World K) : Bool := (survivors w).length ≤ Gameplay.survivorsToWin

end SwitchRemake.Simulation

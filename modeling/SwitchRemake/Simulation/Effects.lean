import SwitchRemake.Simulation.World

/-!
# Effects, cooldowns and movement

`simulation/effects.ts` and `simulation/movement.ts`.
-/

namespace SwitchRemake.Simulation
open Lib

variable {K : Type} [JsNumber K]

def msToTicks (ms : K) (simulationHz : Nat) : Nat :=
  (max 1 (JsNumber.round (ms / JsNumber.ofRat 1000 * JsNumber.ofInt simulationHz))).toNat

/-- An effect of the same type is renewed: the later end and the larger magnitude. -/
def applyEffect (w : World K) (player : PlayerState K) (type : EffectType)
    (magnitude durationMs : K) : PlayerState K :=
  let endTick := w.tick + msToTicks durationMs w.simulationHz
  let renewed : Effect K := match player.effects type with
    | some existing => ⟨max existing.endTick endTick, max existing.magnitude magnitude⟩
    | none => ⟨endTick, magnitude⟩
  { player with effects := Function.update player.effects type (some renewed) }

def expireEffects (w : World K) (player : PlayerState K) : PlayerState K :=
  { player with effects := fun type => (player.effects type).filter fun e => ¬ e.endTick ≤ w.tick }

/-- Two effects speed up and one slows down, so the order the source adds them in is immaterial. -/
def currentSpeed (player : PlayerState K) : K :=
  let magnitude (type : EffectType) : K := (player.effects type).elim 0 Effect.magnitude
  let increase := 0 + magnitude .dash + magnitude .frenzy
  let decrease := 0 + magnitude .exhaust
  let slowFactor := max (JsNumber.ofRat Gameplay.speedDecreaseFloor) (1 - decrease)
  JsNumber.ofRat Gameplay.baseMoveSpeedPxPerSec * (1 + increase) * slowFactor

def tickCooldowns (player : PlayerState K) (rate : K) : PlayerState K :=
  { player with
    cooldowns := fun skill => ((player.cooldowns skill).map (· - rate)).filter fun left => ¬ left ≤ 0 }

def isReady (player : PlayerState K) (skill : SkillId) : Bool :=
  (player.cooldowns skill).getD 0 ≤ 0

def startCooldown (w : World K) (player : PlayerState K) (skill : SkillId) (cooldownMs : K) :
    PlayerState K :=
  { player with
    cooldowns := Function.update player.cooldowns skill
      (some (JsNumber.ofInt (msToTicks cooldownMs w.simulationHz))) }

/-- The player with its new velocity and facing, and the position it aims at. -/
def integrate (player : PlayerState K) (input : ResolvedInput K) : PlayerState K × K × K :=
  let speed := currentSpeed player
  let vx := input.moveX * speed
  let vy := input.moveY * speed
  let moved := { player with vx, vy }
  let turned :=
    if input.moveX ≠ 0 ∨ input.moveY ≠ 0 then
      { moved with facingX := input.moveX, facingY := input.moveY }
    else moved
  let dt := JsNumber.ofRat Network.simulationStepMs / JsNumber.ofRat 1000
  (turned, player.x + vx * dt, player.y + vy * dt)

def substepCount (fromX fromY toX toY : K) : Nat :=
  let distance := JsNumber.hypot (toX - fromX) (toY - fromY)
  (max 1 (JsNumber.ceil (distance / JsNumber.ofRat Gameplay.maxSubstepDistancePx))).toNat

theorem substepCount_pos (fromX fromY toX toY : K) : 0 < substepCount fromX fromY toX toY := by
  unfold substepCount
  exact Int.pos_iff_toNat_pos.mp (lt_of_lt_of_le Int.one_pos (le_max_left 1 _))

end SwitchRemake.Simulation

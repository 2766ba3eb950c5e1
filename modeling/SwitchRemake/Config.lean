import Mathlib.Data.Rat.Defs
import Mathlib.Tactic.NormNum

/-!
# Balance and network constants

Every number is the rational literal of the source.
-/

namespace SwitchRemake

def tilePx : ℚ := 256

namespace Network

def simulationHz : Nat := 60
def snapshotHz : Nat := 30
def maxJsonCommandsPerSec : Nat := 20
def socketBufferSoftLimitBytes : Nat := 64 * 1024
def seatReservationTtlMs : Nat := 15000
def reconnectGraceMs : Nat := 5000
def countdownMs : Nat := 9000
def postGameMs : Nat := 10000
def startLockOnJoinMs : Nat := 5000
def startLockOnMapChangeMs : Nat := 10000
def startLockJoinBudgetMs : Nat := 15000
def startLockJoinBudgetWindowMs : Nat := 60000
def operationResultTtlMs : Nat := 60000
def simulationStepMs : ℚ := 1000 / simulationHz
/-- `Math.round(SIMULATION_HZ / SNAPSHOT_HZ)`. -/
def snapshotIntervalTicks : Nat := 2

end Network

namespace Gameplay

def emojiDisplayMs : ℚ := 3000
def playerRadiusPx : ℚ := 2 / 5 * tilePx
def baseMoveSpeedPxPerSec : ℚ := 21 / 10 * tilePx
def maxSubstepDistancePx : ℚ := 48
def pushBasePower : ℚ := 1
def pushSpeedFactor : ℚ := 1 / 100
def playerCollisionIterations : Nat := 4
def sightRangePx : ℚ := 16 * tilePx
def taggerChangeCooldownMs : ℚ := 15000
def minPlayersToStart : Nat := 3
def maxPlayers : Nat := 8
def survivorsToWin : Nat := 2
def maxMatchDurationTicks : Nat := 20 * 60 * Network.simulationHz
def speedDecreaseFloor : ℚ := 3 / 10

end Gameplay

namespace Skills

def nearTaggerCooldownBonus : ℚ := 1 / 2
def nearTaggerRadiusPx : ℚ := 6 * tilePx

namespace Dash
def speedIncrease : ℚ := 1 / 2
def durationMs : ℚ := 4000
def cooldownMs : ℚ := 13000
end Dash

namespace Flash
def distancePx : ℚ := 7 / 2 * tilePx
def wallExitMaxPx : ℚ := 2 * tilePx
def cooldownMs : ℚ := 10000
end Flash

namespace Exhaust
def speedDecrease : ℚ := 1 / 4
def durationMs : ℚ := 4000
def rangePx : ℚ := 9 / 5 * tilePx
def cooldownMs : ℚ := 18000
def selfDecrease : ℚ := 1 / 10
def selfDurationMs : ℚ := 2500
end Exhaust

namespace Switch
def rangePx : ℚ := 7 / 5 * tilePx
def cooldownMs : ℚ := 4000
end Switch

namespace Frenzy
def speedIncrease : ℚ := 1 / 5
def durationMs : ℚ := 5000
def tagBonusIncrease : ℚ := 1 / 20
def tagBonusMs : ℚ := 5000
end Frenzy

namespace SwitchVictim
def speedDecrease : ℚ := 1 / 10
def durationMs : ℚ := 4000
end SwitchVictim

end Skills
end SwitchRemake

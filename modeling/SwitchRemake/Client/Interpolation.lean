import SwitchRemake.Client.SceneView
import SwitchRemake.Lib.Runs

/-!
# The clock between two samples

`internal/entityInterpolation.ts` and the calls of `internal/WorldScene.ts`: a frame of the screen is
drawn at a tick that follows the snapshots with a delay, and a player stands on the line between its
samples.
-/

namespace SwitchRemake.Client
open Lib Simulation Wire

variable {K : Type} [JsNumber K]

def PositionSample.place (sample : PositionSample K) : K × K := (sample.x, sample.y)

/-- The loop over the samples; `none` when the render tick lies behind them all. -/
def interpolateBetween (renderTick : K) : List (PositionSample K) → Option (K × K)
  | start :: goal :: later =>
    if goal.tick < renderTick then interpolateBetween renderTick (goal :: later)
    else
      let span := goal.tick - start.tick
      if span ≤ 0 then some goal.place
      else
        let alpha := (renderTick - start.tick) / span
        some (start.x + (goal.x - start.x) * alpha, start.y + (goal.y - start.y) * alpha)
  | _ => none

def interpolateEntityPosition (samples : List (PositionSample K)) (renderTick : K) : Option (K × K) :=
  match samples with
  | [] => none
  | first :: later =>
    if later = [] ∨ renderTick ≤ first.tick then some first.place
    else
      let last := later.getLastD first
      if last.tick ≤ renderTick then some last.place
      else some ((interpolateBetween renderTick (first :: later)).getD last.place)

/-! ## The clock -/

def entityInterpolationDelayMs : ℚ := 1000 / 30

def renderTickMaxDeltaMs : ℚ := 100

def renderTickConvergencePerSecond : ℚ := 1

def renderTickMaxRateAdjustment : ℚ := 1 / 20

def renderTickHardResetMs : ℚ := 500

def seconds (ms : K) : K := ms / JsNumber.ofRat 1000

def targetTick (latestSnapshotTick simulationHz delayMs : K) : K :=
  latestSnapshotTick - seconds delayMs * simulationHz

/-- What the clock adds without correction. -/
def normalAdvance (deltaMs simulationHz : K) : K :=
  seconds (min (max 0 deltaMs) (JsNumber.ofRat renderTickMaxDeltaMs)) * simulationHz

/-- The clock is too far from its target to be led there. -/
def hardResets (renderTick latestSnapshotTick simulationHz delayMs : K) : Prop :=
  let error := targetTick latestSnapshotTick simulationHz delayMs - renderTick
  seconds (JsNumber.ofRat renderTickHardResetMs) * simulationHz < max error (-error)

instance (renderTick latestSnapshotTick simulationHz delayMs : K) :
    Decidable (hardResets renderTick latestSnapshotTick simulationHz delayMs) :=
  inferInstanceAs (Decidable (_ < _))

def advanceRenderTick (renderTick : Option K) (latestSnapshotTick deltaMs simulationHz delayMs : K) :
    K :=
  let target := targetTick latestSnapshotTick simulationHz delayMs
  match renderTick with
  | none => target
  | some renderTick =>
    if hardResets renderTick latestSnapshotTick simulationHz delayMs then target
    else
      let elapsedSeconds := seconds (min (max 0 deltaMs) (JsNumber.ofRat renderTickMaxDeltaMs))
      let normalAdvance := normalAdvance deltaMs simulationHz
      let uncorrectedTick := renderTick + normalAdvance
      let correction := max (-normalAdvance * JsNumber.ofRat renderTickMaxRateAdjustment)
        (min (normalAdvance * JsNumber.ofRat renderTickMaxRateAdjustment)
          ((target - uncorrectedTick) * JsNumber.ofRat renderTickConvergencePerSecond *
            elapsedSeconds))
      uncorrectedTick + correction

/-! ## A scene on one timeline -/

/-- A list of players as it came with a snapshot. -/
structure PlayersSection (K : Type) where
  tick : K
  forceSnapIds : List K
  players : List (SnapshotPlayer K)

structure Playback (K : Type) [JsNumber K] where
  latestSnapshotTick : Option K
  renderTick : Option K
  buffers : PositionBuffers K

/-- A snapshot without its players leaves the samples as they are. -/
inductive PlaybackEvent (K : Type) where
  | snapshot (tick : K) (players : Option (List K × List (SnapshotPlayer K)))
  | frame (deltaMs : K)

/-- What stays the same on one timeline. -/
structure Pacing (K : Type) where
  simulationHz : K
  delayMs : K
  maxInterpolationDistance : K

/-- The pacing of a scene. -/
def pacingAt (simulationHz : K) : Pacing K :=
  { simulationHz, delayMs := JsNumber.ofRat entityInterpolationDelayMs
    maxInterpolationDistance := JsNumber.ofRat maxInterpolationDistancePx }

namespace Playback

def start : Playback K := ⟨none, none, .empty⟩

def apply (pacing : Pacing K) (s : Playback K) : PlaybackEvent K → Playback K
  | .snapshot tick players =>
    let lower := s.latestSnapshotTick.any (tick < ·)
    let buffers := if lower then .empty else s.buffers
    let renderTick := if lower then none else s.renderTick
    { latestSnapshotTick := some tick
      renderTick :=
        some (renderTick.getD (advanceRenderTick none tick 0 pacing.simulationHz pacing.delayMs))
      buffers := players.elim buffers fun section_ =>
        (bufferEntityPositions pacing.maxInterpolationDistance buffers tick section_.1 section_.2).1 }
  | .frame deltaMs =>
    match s.latestSnapshotTick with
    | none => s
    | some tick =>
      { s with
        renderTick :=
          some (advanceRenderTick s.renderTick tick deltaMs pacing.simulationHz pacing.delayMs) }

/-- The ticks of the snapshots do not go back, and time does not either. -/
def Orderly (s : Playback K) : PlaybackEvent K → Prop
  | .snapshot tick _ => ∀ latest ∈ s.latestSnapshotTick, latest ≤ tick
  | .frame deltaMs => 0 ≤ deltaMs

/-- The event sets the clock anew. -/
def Resets (pacing : Pacing K) (s : Playback K) : PlaybackEvent K → Prop
  | .snapshot .. => s.renderTick = none
  | .frame _ => ∃ latest ∈ s.latestSnapshotTick, ∀ renderTick ∈ s.renderTick,
      hardResets renderTick latest pacing.simulationHz pacing.delayMs

end Playback
end SwitchRemake.Client

import SwitchRemake.Shared.Snapshot
import SwitchRemake.Simulation.Skills

/-!
# One viewer's snapshot

`game/snapshot-view.ts`.
-/

namespace SwitchRemake.Game
open Lib Simulation Visibility Protocol

variable {K : Type} [JsNumber K]

structure RosterEntry where
  playerId : Nat
  nickname : String
  deriving DecidableEq

structure ViewerContext where
  playerId : Option Nat
  access : SnapshotAccess
  full : Bool

/-- What is left of each effect, measured in seconds and cut at one. -/
def effectRatios (player : PlayerState K) (tick simulationHz : Nat) (type : EffectType) : Option K :=
  (player.effects type).map fun effect =>
    min 1 (JsNumber.ofInt (max 0 ((effect.endTick : Int) - tick)) / JsNumber.ofInt simulationHz)

def toSnapshotPlayer (player : PlayerState K) (obscured : Bool) (tick simulationHz : Nat) :
    SnapshotPlayer K :=
  { id := player.playerId
    x := JsNumber.round player.x
    y := JsNumber.round player.y
    facingX := player.facingX
    facingY := player.facingY
    colorIndex := player.colorIndex
    obscured
    isTagger := player.isTagger
    effects := effectRatios player tick simulationHz
    emojiId := (player.emoji.filter fun e => tick < e.expiresAtTick).map Emoji.emojiId }

/-- The version, the tick, the storm and the map sections, which are the same for every viewer. -/
def sharedSections (frame : AuthoritativeFrame K) (full : Bool) (roster : List RosterEntry)
    (tileChanges : List TileChange) : Snapshot K :=
  let map := frame.world.map
  { version := Protocol.protocolVersion
    full
    tick := frame.tick
    storm := some frame.world.storm
    map := if full then some ⟨map.cols, map.rows, map.tiles⟩ else none
    roster := if full then some (roster.map fun r => ⟨r.playerId, r.nickname⟩) else none
    tileChanges := if full ∨ tileChanges = [] then none else some tileChanges }

def ownCooldowns (self : PlayerState K) (simulationHz : Nat) : List SlotCooldown :=
  [slotSwitch, slotMovement].filterMap fun slot =>
    (skillInSlot self slot).map fun skill =>
      let remainingTicks := max 0 ((self.cooldowns skill).getD 0)
      { slot
        remainingMs := min 0xffff (JsNumber.round
          (remainingTicks / JsNumber.ofInt simulationHz * JsNumber.ofRat 1000)) }

/-- `tileChanges` is the list gathered since the last publication, or else that of the frame. -/
def buildSnapshot (frame : AuthoritativeFrame K) (viewer : ViewerContext)
    (roster : List RosterEntry) (tileChanges : Option (List TileChange)) : Snapshot K :=
  let w := frame.world
  let base := sharedSections frame viewer.full roster (tileChanges.getD w.tileChanges)
  let unfiltered : Snapshot K := { base with
    players := some ((w.players.filter PlayerState.alive).map fun p =>
      toSnapshotPlayer p false frame.tick w.simulationHz) }
  match viewer.access, viewer.playerId with
  | .unfiltered, _ => unfiltered
  | _, none => unfiltered
  | _, some viewerId =>
    let visibility := computeVisibility (toVisibilityWorld w) viewerId
    { base with
      players := some ((w.players.filter fun p =>
          p.alive && visibility.visiblePlayerIds.contains p.playerId).map fun p =>
        toSnapshotPlayer p (visibility.obscuredPlayerIds.contains p.playerId) frame.tick
          w.simulationHz)
      tileAlphas := some visibility.tileAlphas
      selfId := some viewerId
      cooldowns := (w.find viewerId).map fun self => ownCooldowns self w.simulationHz }

def encodeForViewer (frame : AuthoritativeFrame K) (viewer : ViewerContext)
    (roster : List RosterEntry) (tileChanges : Option (List TileChange)) : Bytes :=
  encodeSnapshot (buildSnapshot frame viewer roster tileChanges)

end SwitchRemake.Game

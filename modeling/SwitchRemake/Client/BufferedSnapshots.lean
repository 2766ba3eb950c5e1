import SwitchRemake.Client.WorldScene
import SwitchRemake.Shared.SnapshotWired

/-!
# Frames that wait for a renderer

`BufferedSnapshots.ts`: the frames that arrive before the scene is there are merged into one, which
is encoded again when the scene takes it.
-/

namespace SwitchRemake.Client
open Lib Simulation Wire
open Protocol (Bytes)

variable {K : Type} [JsNumber K]

/-- The check of the buffer before it writes into a row. -/
def patchCell (row : List K) (x value : K) : List K :=
  if 0 ≤ x ∧ x < JsNumber.ofInt row.length then writeCell row x value else row

def patchTile (tiles : List (List K)) (c : TileChange K) : List (List K) :=
  match index? c.y with
  | none => tiles
  | some y => tiles.modify y fun row => patchCell row c.x c.physics

def TileChange.place (c : TileChange K) : K × K := (c.x, c.y)

/-- The later change of a tile replaces the earlier one. -/
def overlayChanges (previous next : List (TileChange K)) : List (TileChange K) :=
  let tiles : KeyedList (TileChange.place (K := K)) := previous.foldl KeyedList.set .empty
  (next.foldl KeyedList.set tiles).entries

/-- `{ ...previous, ...next }`. -/
def merged (previous next : Snapshot K) : Snapshot K :=
  { version := next.version
    full := next.full
    tick := next.tick
    map := next.map.or previous.map
    tileChanges := next.tileChanges.or previous.tileChanges
    tileAlphas := next.tileAlphas.or previous.tileAlphas
    storm := next.storm.or previous.storm
    players := next.players.or previous.players
    regions := next.regions.or previous.regions
    selfId := next.selfId.or previous.selfId
    cooldowns := next.cooldowns.or previous.cooldowns
    roster := next.roster.or previous.roster }

/-- A full frame, and one with a lower tick, begins anew. -/
def keptBy (snapshot : Option (Snapshot K)) (next : Snapshot K) : Option (Snapshot K) :=
  snapshot.filter fun previous => !(next.full || next.tick < previous.tick)

def joined (snapshot : Option (Snapshot K)) (next : Snapshot K) : Snapshot K :=
  (keptBy snapshot next).elim next fun previous => merged previous next

/-- What the buffer holds after `next`. Changes are written into the map once there is one. -/
def pushed (snapshot : Option (Snapshot K)) (next : Snapshot K) : Snapshot K :=
  let whole := joined snapshot next
  match next.tileChanges, whole.map with
  | none, _ => whole
  | some changes, some map =>
    { whole with
      map := some { map with tiles := changes.foldl patchTile map.tiles }
      tileChanges := none }
  | some changes, none =>
    { whole with tileChanges := match keptBy snapshot next with
      | some previous => some (overlayChanges (previous.tileChanges.getD []) changes)
      | none => whole.tileChanges }

abbrev FrameFault := Fault SnapshotDecodeError

def push (snapshot : Option (Snapshot K)) (frame : Bytes) :
    Except FrameFault (Option (Snapshot K)) := do
  return some (pushed snapshot (← decodeSnapshot frame))

/-- The buffer is empty afterwards. -/
def take (snapshot : Option (Snapshot K)) : Option Bytes := snapshot.map encodeSnapshot

/-! ## Two renderers -/

def receive (simulationHz : Option K) (s : WorldScene K) (frame : Bytes) :
    Except FrameFault (WorldScene K) := do
  return s.applySnapshot (← decodeSnapshot frame) simulationHz

/-- The scene was there from the start. -/
def earlyRenderer (simulationHz : Option K) (frames : List Bytes) :
    Except FrameFault (WorldScene K) :=
  frames.foldlM (receive simulationHz) .fresh

/-- The scene takes what was buffered, and then the frames that come. -/
def lateRenderer (simulationHz : Option K) (before after : List Bytes) :
    Except FrameFault (WorldScene K) := do
  let buffered : Option (Snapshot K) ← before.foldlM push none
  let first ← (take buffered).elim (.ok .fresh) (receive simulationHz .fresh)
  after.foldlM (receive simulationHz) first

end SwitchRemake.Client

import SwitchRemake.Lib.KeyedList
import SwitchRemake.Shared.SnapshotReaders

/-!
# The scene a client draws

`internal/WorldScene.ts`, `internal/MapLayer.ts` and `internal/entityInterpolation.ts`: what a decoded
frame does to the map, to the sprites and to the names that wait for a sprite. The clock between two
samples is a machine of its own; cameras, emojis and smoke decide only how this is painted.
-/

namespace SwitchRemake.Client
open Lib Simulation Wire
open Protocol (effectBits)

structure PositionSample (K : Type) where
  tick : K
  x : K
  y : K
  deriving DecidableEq

structure EntityPositions (K : Type) where
  id : K
  samples : List (PositionSample K)
  deriving DecidableEq

/-- The visual state of a sprite. -/
structure PlayerSprite (K : Type) where
  id : K
  x : K
  y : K
  facingX : K
  facingY : K
  colorIndex : K
  nickname : String
  isTagger : Bool
  isSelf : Bool
  obscured : Bool
  effects : EffectType → Option K
  deriving DecidableEq

variable {K : Type} [JsNumber K]

def TileAlpha.place (a : TileAlpha K) : K × K := (a.x, a.y)

structure WorldScene (K : Type) [JsNumber K] where
  map : Option (SnapshotMap K)
  tileAlphas : KeyedList (TileAlpha.place (K := K))
  storm : Option (Storm K)
  selfId : Option K
  taggerId : Option K
  players : KeyedList (PlayerSprite.id (K := K))
  pendingNicknames : KeyedList (RosterName.id (K := K))
  entityPositionBuffers : KeyedList (EntityPositions.id (K := K))
  /-- The players of whom a blink was announced. -/
  pendingBlinks : List K
  simulationHz : Option K
  latestSnapshotTick : Option K

def WorldScene.fresh : WorldScene K :=
  { map := none, tileAlphas := .empty, storm := none, selfId := none, taggerId := none
    players := .empty, pendingNicknames := .empty, entityPositionBuffers := .empty
    pendingBlinks := [], simulationHz := none, latestSnapshotTick := none }

/-! ## The map layer -/

/-- The position of an array that a number names. -/
def index? (v : K) : Option Nat :=
  let n := (JsNumber.round v).toNat
  if JsNumber.ofInt n = v then some n else none

/-- `row[x] = value`. A row that is written behind its end grows; a hole is read as floor. -/
def writeCell (row : List K) (x value : K) : List K :=
  match index? x with
  | none => row
  | some i => if i < row.length then row.set i value
      else row ++ List.replicate (i - row.length) 0 ++ [value]

def writeTile (tiles : List (List K)) (c : TileChange K) : List (List K) :=
  match index? c.y with
  | none => tiles
  | some y => tiles.modify y fun row => writeCell row c.x c.physics

def setTiles (map : Option (SnapshotMap K)) (changes : List (TileChange K)) :
    Option (SnapshotMap K) :=
  map.map fun view => { view with tiles := changes.foldl writeTile view.tiles }

def alphaQuantSteps : ℚ := 32

def quantiseAlpha (alpha : K) : K :=
  let clamped := max 0 (min 1 alpha)
  JsNumber.ofInt (JsNumber.round (clamped * JsNumber.ofRat alphaQuantSteps)) /
    JsNumber.ofRat alphaQuantSteps

/-- The whole set is replaced. -/
def setTileAlphas (overrides : List (TileAlpha K)) : KeyedList (TileAlpha.place (K := K)) :=
  overrides.foldl (fun next a => next.set { a with alpha := quantiseAlpha a.alpha }) .empty

/-! ## The samples of a player's position -/

def maxSamplesPerEntity : Nat := 8

/-- Three tiles. -/
def maxInterpolationDistancePx : ℚ := 768

def distanceSquared (a b : PositionSample K) : K :=
  let dx := b.x - a.x
  let dy := b.y - a.y
  dx * dx + dy * dy

/-- The samples of one player, and whether it is put where the frame says at once. -/
def bufferPosition (maxInterpolationDistance : K) (existing : List (PositionSample K))
    (forceSnap : Bool) (next : PositionSample K) : List (PositionSample K) × Bool :=
  match existing.getLast? with
  | none => ([next], true)
  | some latest =>
    let limit := maxInterpolationDistance * maxInterpolationDistance
    if forceSnap || limit ≤ distanceSquared latest next || next.tick < latest.tick then ([next], true)
    else if next.tick = latest.tick then (existing.dropLast ++ [next], false)
    else
      let samples := existing ++ [next]
      (samples.drop (samples.length - maxSamplesPerEntity), false)

abbrev PositionBuffers (K : Type) [JsNumber K] := KeyedList (EntityPositions.id (K := K))

def samplesOf (buffers : PositionBuffers K) (id : K) : List (PositionSample K) :=
  (buffers.get? id).elim [] EntityPositions.samples

def bufferEntity (maxInterpolationDistance : K) (previous : PositionBuffers K) (tick : K)
    (forceSnapIds : List K) (p : SnapshotPlayer K) : List (PositionSample K) × Bool :=
  bufferPosition maxInterpolationDistance (samplesOf previous p.id) (p.id ∈ forceSnapIds)
    ⟨tick, p.x, p.y⟩

/-- The new buffers hold only players the frame lists. -/
def bufferEntityPositions (maxInterpolationDistance : K) (previous : PositionBuffers K) (tick : K)
    (forceSnapIds : List K) (positions : List (SnapshotPlayer K)) : PositionBuffers K × List K :=
  positions.foldl (fun built p =>
    let entity := bufferEntity maxInterpolationDistance previous tick forceSnapIds p
    (built.1.set ⟨p.id, entity.1⟩, if entity.2 then p.id :: built.2 else built.2)) (.empty, [])

/-! ## Sprites -/

/-- The visual state as the frame has it, the position only when the sprite snaps. -/
def PlayerSprite.follow (sprite : PlayerSprite K) (snaps : Bool) (p : SnapshotPlayer K) :
    PlayerSprite K :=
  { sprite with
    x := if snaps then p.x else sprite.x
    y := if snaps then p.y else sprite.y
    facingX := p.facingX
    facingY := p.facingY
    colorIndex := p.colorIndex
    obscured := p.obscured
    isTagger := p.isTagger
    effects := fun type => if type ∈ effectBits then p.effects type else sprite.effects type }

omit [JsNumber K] in
theorem PlayerSprite.follow_id (sprite : PlayerSprite K) (snaps : Bool) (p : SnapshotPlayer K) :
    (sprite.follow snaps p).id = sprite.id := rfl

namespace WorldScene

def spawnPlayer (s : WorldScene K) (id x y colorIndex : K) (nickname : Option String) :
    WorldScene K :=
  let sprite : PlayerSprite K := (s.players.get? id).getD
    { id, x := 0, y := 0, facingX := 0, facingY := 1, colorIndex := 0, nickname := ""
      isTagger := false, isSelf := false, obscured := false, effects := fun _ => none }
  { s with
    players := s.players.set
      { sprite with
        id, x, y, facingX := 0, facingY := 1, colorIndex
        nickname := nickname.getD sprite.nickname
        isTagger := s.taggerId = some id
        isSelf := s.selfId = some id } }

def removePlayer (s : WorldScene K) (id : K) : WorldScene K :=
  if s.players.has id then
    { s with
      players := s.players.delete id
      entityPositionBuffers := s.entityPositionBuffers.delete id
      pendingBlinks := s.pendingBlinks.filter (· ≠ id)
      taggerId := if s.taggerId = some id then none else s.taggerId }
  else s

def markSelf (s : WorldScene K) (id : K) (isSelf : Bool) : WorldScene K :=
  let players := s.players.modify id (fun sprite => { sprite with isSelf }) fun _ => rfl
  { s with players }

def setSelf (s : WorldScene K) (id : K) : WorldScene K :=
  let cleared := s.selfId.elim s fun previous => s.markSelf previous false
  { cleared with selfId := some id }.markSelf id true

/-- A blink is announced by an event, before the frame that shows it. -/
def markPlayerBlinked (s : WorldScene K) (id : K) : WorldScene K :=
  { s with pendingBlinks := s.pendingBlinks.filter (· ≠ id) ++ [id] }

/-! ## A frame -/

/-- Another rate, or a lower tick, begins the samples anew. -/
def enterTimeline (s : WorldScene K) (tick : K) (simulationHz : Option K) : WorldScene K :=
  let paced := match simulationHz with
    | some hz =>
      if 0 < hz ∧ some hz ≠ s.simulationHz then
        { s with simulationHz := some hz, entityPositionBuffers := .empty, latestSnapshotTick := none }
      else s
    | none => s
  let lower := paced.latestSnapshotTick.any (tick < ·)
  { paced with
    entityPositionBuffers := if lower then .empty else paced.entityPositionBuffers
    latestSnapshotTick := some tick }

def applyTiles (s : WorldScene K) (snapshot : Snapshot K) : WorldScene K :=
  let map := snapshot.map.or s.map
  { s with
    map := match snapshot.tileChanges with
      | some changes => setTiles map changes
      | none => map
    tileAlphas := snapshot.tileAlphas.elim s.tileAlphas setTileAlphas
    storm := snapshot.storm.getD s.storm }

def applyName (s : WorldScene K) (entry : RosterName K) : WorldScene K :=
  if s.players.has entry.id then
    let players := s.players.modify entry.id
      (fun sprite => { sprite with nickname := entry.nickname }) fun _ => rfl
    { s with players }
  else { s with pendingNicknames := s.pendingNicknames.set entry }

/-- One player of the list; `snaps` when its sprite is put at the position of the frame. -/
def drawPlayer (s : WorldScene K) (snaps : K → Bool) (p : SnapshotPlayer K) : WorldScene K :=
  let spawned :=
    if s.players.has p.id then s
    else
      let named := s.spawnPlayer p.id p.x p.y p.colorIndex
        (some ((s.pendingNicknames.get? p.id).elim "" RosterName.nickname))
      { named with pendingNicknames := named.pendingNicknames.delete p.id }
  let players := spawned.players.modify p.id (·.follow (snaps p.id) p)
    fun sprite => sprite.follow_id (snaps p.id) p
  { spawned with
    players
    pendingBlinks := spawned.pendingBlinks.filter (· ≠ p.id) }

/-- The list is authoritative: who is not on it is removed. -/
def applyPlayers (s : WorldScene K) (tick : K) (players : List (SnapshotPlayer K)) : WorldScene K :=
  let seen := players.map SnapshotPlayer.id
  let buffered := bufferEntityPositions (JsNumber.ofRat maxInterpolationDistancePx)
    s.entityPositionBuffers tick s.pendingBlinks players
  let paced := s.simulationHz.isSome
  let framed := if paced then { s with entityPositionBuffers := buffered.1 } else s
  let drawn := players.foldl (fun scene p =>
    scene.drawPlayer (fun id => !paced || id ∈ buffered.2) p) framed
  let kept := ((drawn.players.entries.map PlayerSprite.id).filter (· ∉ seen)).foldl removePlayer drawn
  { kept with
    pendingBlinks := kept.pendingBlinks.filter (· ∈ seen)
    taggerId := ((players.filter SnapshotPlayer.isTagger).getLast?).map SnapshotPlayer.id }

/-- Sections that are absent leave what they describe as it is. -/
def applySnapshot (s : WorldScene K) (snapshot : Snapshot K) (simulationHz : Option K) :
    WorldScene K :=
  let tiled := (s.enterTimeline snapshot.tick simulationHz).applyTiles snapshot
  let own := snapshot.selfId.elim tiled tiled.setSelf
  let named := (snapshot.roster.getD []).foldl applyName own
  snapshot.players.elim named (named.applyPlayers snapshot.tick)

end WorldScene

/-! ## What the frames list -/

/-- A decoded frame and the rate it is applied with. -/
abbrev PacedFrame (K : Type) := Snapshot K × Option K

def listed (snapshot : Snapshot K) (p : K) : Option Bool :=
  snapshot.players.map fun players => p ∈ players.map SnapshotPlayer.id

/-- The latest list of players has the player on it. -/
def shown (frames : List (PacedFrame K)) (p : K) : Bool :=
  ((frames.filterMap fun frame => frame.1.players).getLast?).any fun players =>
    p ∈ players.map SnapshotPlayer.id

end SwitchRemake.Client

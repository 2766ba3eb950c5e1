import SwitchRemake.Game.GameSession
import SwitchRemake.Rooms.Room

/-!
# A room and its match

`game/game-lifecycle.ts`. A room and the session registered under its id call each other while they
run, so one state holds both. Sessions of one room are told apart by a serial number: the source
compares the objects.
-/

namespace SwitchRemake.Game
open Lib Simulation Rooms

variable {K : Type}

/-- A map of the bundle, with the start positions for each number of players. -/
structure ServerMap (K : Type) where
  map : WorldMap K
  startPositions : Nat → List (K × K)

/-- What `startGame` draws on besides the snapshot. The dummies are those the constructor of the
training ground adds, with their names. -/
structure StartEnv (K : Type) where
  bundle : String → ServerMap K
  seed : BitVec 32
  dummies : List (PlayerState K)
  dummyRoster : List RosterEntry

structure Registered (K : Type) where
  serial : Nat
  game : GameSession K

structure HostedRoom (K : Type) where
  room : Room
  session : Option (Registered K)
  /-- How many sessions the room has had. -/
  serials : Nat
  /-- Sessions that have finished and whose replay is being stored. -/
  storing : List Nat

variable [JsNumber K]

/-- The centre of the first tile that is no wall, from the middle of the map outwards. -/
def nearestFloorToCenter (map : WorldMap K) : K × K :=
  let center : Int := (map.cols : Int) / 2
  let half : K := map.tileSize / JsNumber.ofRat 2
  let point (tx ty : Int) : K × K :=
    (JsNumber.ofInt tx * map.tileSize + half, JsNumber.ofInt ty * map.tileSize + half)
  let open_ (tx ty : Int) : Bool :=
    decide (0 ≤ tx) && decide (0 ≤ ty) &&
      (tileAt map.tiles tx.toNat ty.toNat).any fun physics => physics ≠ .wall
  let ring (radius : Nat) : List (Int × Int) :=
    (intRange (-radius) radius).flatMap fun dy =>
      ((intRange (-radius) radius).filter fun dx => max dx.natAbs dy.natAbs = radius).map
        fun dx => (center + dx, center + dy)
  match ((List.range map.cols).flatMap ring).find? fun tile => open_ tile.1 tile.2 with
  | some tile => point tile.1 tile.2
  | none => point center center

def startPositions (serverMap : ServerMap K) (count : Nat) (index : Nat) : K × K :=
  ((serverMap.startPositions count)[index]?).getD (nearestFloorToCenter serverMap.map)

/-- Slots in ascending order take the start positions in theirs. -/
def placePlayers (serverMap : ServerMap K) (players : List RoomStartPlayer) :
    List (PlayerState K) :=
  (sortById RoomStartPlayer.playerId players).mapIdx fun index start =>
    let spawn := startPositions serverMap players.length index
    { playerId := start.playerId
      x := spawn.1
      y := spawn.2
      vx := 0
      vy := 0
      facingX := 0
      facingY := 1
      radius := JsNumber.ofRat Gameplay.playerRadiusPx
      sightRange := JsNumber.ofRat Gameplay.sightRangePx
      colorIndex := start.playerId - 1
      alive := true
      isTagger := false
      connected := true
      effects := fun _ => none
      cooldowns := fun _ => none
      loadout := start.loadout
      emoji := none
      stats := emptyStats }

omit [JsNumber K] in
def createWorld (map : WorldMap K) (players : List (PlayerState K)) (seed : BitVec 32) : World K :=
  { tick := 0
    simulationHz := Network.simulationHz
    map
    players
    storm := none
    tileChanges := []
    taggerChangedAtTick := 0
    randomState := seed }

/-- In a match one player is drawn to be the tagger; with no player at all the start fails. -/
def drawTagger (w : World K) : Option (World K) :=
  let drawn := w.nextRandomInt w.players.length
  ((w.players[drawn.1]?).or w.players.head?).map fun tagger =>
    drawn.2.update tagger.playerId fun p => grantTaggerFrenzy w { p with isTagger := true }

namespace HostedRoom

def participantsOf (room : Room) : List Participant :=
  room.members.map fun m => ⟨m.playerId, m.userId, m.nickname, m.colorIndex, m.guest⟩

def rosterEntries (room : Room) (snapshot : RoomStartSnapshot) : List RosterEntry :=
  snapshot.players.map fun p =>
    ⟨p.playerId, ((room.roster.getByPlayerId p.playerId).map LobbyMember.nickname).getD
      s!"P{p.playerId}"⟩

/-- `GameLifecycle.startGame`; `none` is its exception. -/
def startGame (h : HostedRoom K) (env : StartEnv K) (snapshot : RoomStartSnapshot) :
    Option (HostedRoom K) :=
  let serverMap := env.bundle snapshot.mapId
  let training := snapshot.mode = RoomMode.training
  let map := if training then { serverMap.map with barrierSpeed := 0, timeline := fun _ => [] }
    else serverMap.map
  let players := placePlayers serverMap snapshot.players ++ if training then env.dummies else []
  let world := createWorld map players env.seed
  (if training then some world else drawTagger world).map fun world =>
    let game := GameSession.start snapshot.roomId snapshot.matchId snapshot.mode world
      (rosterEntries h.room snapshot ++ if training then env.dummyRoster else [])
      (participantsOf h.room)
      (snapshot.maxMatchDurationTicks.getD Gameplay.maxMatchDurationTicks)
    { h with session := some ⟨h.serials, game⟩, serials := h.serials + 1 }

omit [JsNumber K] in
def mapGame (h : HostedRoom K) (f : GameSession K → GameSession K) : HostedRoom K :=
  { h with session := h.session.map fun s => { s with game := f s.game } }

omit [JsNumber K] in
def connectionChanged (h : HostedRoom K) (playerId : Nat) (connected : Bool) : HostedRoom K :=
  h.mapGame fun game => game.connectionChanged playerId connected

omit [JsNumber K] in
def requestFullSnapshot (h : HostedRoom K) (playerId : Nat) : HostedRoom K :=
  h.mapGame fun game => game.requestFullSnapshot playerId

omit [JsNumber K] in
def stopRoom (h : HostedRoom K) : HostedRoom K := { h with session := none }

omit [JsNumber K] in
/-- `Room.close`. -/
def close (h : HostedRoom K) : HostedRoom K :=
  if h.room.state = .closed then h
  else
    let stopped := h.stopRoom
    let emptied : Room := { stopped.room with roster := stopped.room.roster.clearHolds }
    { stopped with room := emptied.transition .closed }

omit [JsNumber K] in
/-- What the session's notices do to the room. A match that cannot be settled closes its room. -/
def notice (now : Int) (serial : Nat) (h : HostedRoom K) : RoomNotice K → HostedRoom K
  | .event (.eliminated playerId _) => { h with room := h.room.markEliminated playerId }
  | .finishGame winnerIds =>
    match h.room.finishGame now winnerIds with
    | none => h.close
    | some (_, false) => h
    | some (room, true) => { h with room, storing := h.storing ++ [serial] }
  | _ => h

omit [JsNumber K] in
def notices (h : HostedRoom K) (now : Int) (serial : Nat) (ns : List (RoomNotice K)) :
    HostedRoom K :=
  ns.foldl (notice now serial) h

/-- `participantDisconnected` and `participantRemoved`. -/
def eliminate (h : HostedRoom K) (now : Int) (playerId : Nat) : HostedRoom K :=
  match h.session with
  | none => h
  | some s =>
    let departed := s.game.eliminateDisconnected playerId
    ({ h with session := some { s with game := departed.session } }).notices now s.serial
      departed.notices

omit [JsNumber K] in
/-- `onFinished`: the replay is stored. Only the session itself is taken off the list. -/
def stored (h : HostedRoom K) (serial : Nat) : HostedRoom K :=
  if serial ∈ h.storing then
    { h with
      storing := h.storing.erase serial
      session := h.session.filter fun s => s.serial ≠ serial }
  else h

end HostedRoom
end SwitchRemake.Game

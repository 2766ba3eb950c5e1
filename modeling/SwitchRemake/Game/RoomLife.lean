import SwitchRemake.Game.SeatRun

/-!
# The life of a room

A room with its match over the servers that have it one after the other: its operations, the
commands for its seats, the publications of the registry and the committed hand-offs, as they come.
Of `redis/registry.ts` the maps of this room, and of Redis its keys that keep users out. A
publication is one step.
-/

namespace SwitchRemake.Game
open Lib Simulation Rooms

/-- `REJOIN_COOLDOWN_MS`. -/
def rejoinCooldownMs : Int := 60000

/-- `HEARTBEAT_TTL_MS`. -/
def heartbeatTtlMs : Int := 6000

/-! ## The registry -/

structure PendingRelease where
  userId : ActorId
  cooldown : Bool
  kicked : Bool
  releasedAt : Int
  deriving DecidableEq

/-- `trackedSeats` tells of each user whether they have joined. -/
structure SeatRegistry where
  trackedSeats : KeyedList (Prod.fst : ActorId × Bool → ActorId)
  pendingReleases : KeyedList PendingRelease.userId
  kickedByRoom : List ActorId

/-- The keys of Redis for a user and this room, with the time they last to. -/
structure RoomKeys where
  roomRejoin : ActorId → Int
  roomKicked : ActorId → Int

def RoomKeys.none : RoomKeys := ⟨fun _ => 0, fun _ => 0⟩

namespace SeatRegistry

def empty : SeatRegistry := ⟨.empty, .empty, []⟩

def trackSeat (g : SeatRegistry) (userId : ActorId) : SeatRegistry :=
  { g with
    pendingReleases :=
      if (g.pendingReleases.get? userId).any fun release => !release.kicked then
        g.pendingReleases.delete userId
      else g.pendingReleases
    trackedSeats := if g.trackedSeats.has userId then g.trackedSeats
      else g.trackedSeats.set (userId, false) }

def noteReleased (g : SeatRegistry) (userId : ActorId) (cooldown : Bool) (now : Int) :
    SeatRegistry :=
  let previous := g.pendingReleases.get? userId
  { g with
    pendingReleases := g.pendingReleases.set
      { userId
        cooldown := cooldown || (previous.map PendingRelease.cooldown).getD false
        kicked := decide (userId ∈ g.kickedByRoom) ||
          (previous.map PendingRelease.kicked).getD false
        releasedAt := (previous.map PendingRelease.releasedAt).getD now }
    trackedSeats := g.trackedSeats.delete userId }

def noteKicked (g : SeatRegistry) (userId : ActorId) : SeatRegistry :=
  { g with
    kickedByRoom := if userId ∈ g.kickedByRoom then g.kickedByRoom else g.kickedByRoom ++ [userId]
    pendingReleases := g.pendingReleases.modify userId
      (fun release => { release with kicked := true }) fun _ => rfl }

/-- A turn of `#flushPendingReleases`. `room` is what the manager has under the id. -/
def flushRelease (room : Option Room) (now : Int) (keys : RoomKeys) (release : PendingRelease) :
    RoomKeys :=
  if !release.kicked && room.any fun r => r.hasUser release.userId then keys
  else
    { roomRejoin := fun userId =>
        if userId = release.userId ∧ release.cooldown ∧ now < release.releasedAt + rejoinCooldownMs
        then release.releasedAt + rejoinCooldownMs else keys.roomRejoin userId
      roomKicked := fun userId =>
        if userId = release.userId ∧ release.kicked then now + heartbeatTtlMs
        else keys.roomKicked userId }

def flushPendingReleases (room : Option Room) (now : Int) (s : SeatRegistry × RoomKeys) :
    SeatRegistry × RoomKeys :=
  ({ s.1 with pendingReleases := .empty },
    s.1.pendingReleases.entries.foldl (flushRelease room now) s.2)

/-- A turn of `#synchronizeTrackedSeats`. -/
def synchronizeSeat (room : Option Room) (now : Int) (g : SeatRegistry) (seat : ActorId × Bool) :
    SeatRegistry :=
  let joined := seat.2 || (room.bind fun r => r.roster.getByUser seat.1).isSome
  if room.any fun r => r.hasUser seat.1 then
    { g with trackedSeats := g.trackedSeats.set (seat.1, joined) }
  else
    let kicked := room.any fun r => r.isKicked seat.1
    let noted := if kicked then g.noteKicked seat.1 else g
    { noted with
      pendingReleases := noted.pendingReleases.set
        ⟨seat.1, room.isSome && joined, kicked, now⟩
      trackedSeats := noted.trackedSeats.delete seat.1 }

def publishKickMarkers (room : Option Room) (now : Int) (s : SeatRegistry × RoomKeys) :
    SeatRegistry × RoomKeys :=
  if room.isNone then ({ s.1 with kickedByRoom := [] }, s.2)
  else (s.1, { s.2 with roomKicked := fun userId =>
    if userId ∈ s.1.kickedByRoom then now + heartbeatTtlMs else s.2.roomKicked userId })

/-- `#publishOnce`, as far as it is about these maps. -/
def publish (room : Option Room) (now : Int) (s : SeatRegistry × RoomKeys) :
    SeatRegistry × RoomKeys :=
  let flushed := flushPendingReleases room now s
  let synchronized := flushed.1.trackedSeats.entries.foldl (synchronizeSeat room now) flushed.1
  publishKickMarkers room now (flushPendingReleases room now (synchronized, flushed.2))

end SeatRegistry

/-! ## The life -/

/-- A room on the server that has it, and who was kicked from it, here or on a server before. -/
structure RoomLife (K : Type) where
  host : HostedRoom K
  registry : SeatRegistry
  keys : RoomKeys
  kicked : List ActorId

inductive LifeOp (K : Type) where
  | op (op : HostOp K)
  | train (now : Int) (inputs : List (ResolvedInput K)) (training : TrainingTurn K)
      (publication : Option (Nat → Nat))
  | reserveJoin (draining : Bool) (env : StartEnv K) (now : Int) (reservation : SeatReservation)
      (password : Option String)
  | kickUser (now : Int) (userId : ActorId)
  | releaseSeat (now : Int) (userId : ActorId)
  | publish (now : Int)
  /-- A hand-off that is committed; `options` are those of the new server. -/
  | handOff (options : RoomOptions) (adoptedAt committedAt : Int)

/-- What the adopting server takes from the payload. -/
def adoptedOptions (payload : AdoptRoomPayload) (options : RoomOptions) : RoomOptions :=
  { options with
    id := payload.roomId
    roomCode := payload.roomCode
    name := payload.name
    password := payload.password
    mode := payload.mode
    minPlayersToStart :=
      if payload.mode = RoomMode.training then 1 else Gameplay.minPlayersToStart }

namespace HostedRoom

variable {K : Type}

/-- `RoomManager.get`: a closed room is not there any more. -/
def managed (h : HostedRoom K) : Option Room :=
  if h.room.state = .closed then none else some h.room

variable [JsNumber K]

/-- Whom an operation kicks. -/
def kicks (h : HostedRoom K) : HostOp K → List ActorId
  | .kick now requester playerId =>
    if (h.kick now requester playerId).2 = none then
      ((h.room.roster.getByPlayerId playerId).map LobbyMember.userId).toList
    else []
  | .forceKick _ userId => [userId]
  | _ => []

end HostedRoom

namespace RoomLife

variable {K : Type}

def start (options : RoomOptions) (capacity : Nat) (mapId : String) (matchId : MatchId)
    (owner : SeatReservation) : RoomLife K :=
  { host := unplayed (Room.create options capacity mapId matchId owner)
    registry := SeatRegistry.empty.trackSeat owner.userId
    keys := .none
    kicked := [] }

variable [JsNumber K]

/-- RESERVE_JOIN, through the command consumer and the room manager. -/
def reserveJoin (r : RoomLife K) (draining : Bool) (env : StartEnv K) (now : Int)
    (reservation : SeatReservation) (password : Option String) :
    RoomLife K × Option ControlErrorCode :=
  if draining then (r, some .serverDraining)
  else if now < r.keys.roomRejoin reservation.userId then (r, some .rejoinCooldown)
  else if now < r.keys.roomKicked reservation.userId then (r, some .kickedFromRoom)
  else if r.host.room.handingOff then (r, some .roomLocked)
  else
    let reserved := r.host.reserveJoin env now reservation password
    match reserved.2 with
    | some code => ({ r with host := reserved.1 }, some code)
    | none => ({ r with
        host := reserved.1
        registry := r.registry.trackSeat reservation.userId }, none)

/-- KICK_USER. -/
def kickUser (r : RoomLife K) (now : Int) (userId : ActorId) : RoomLife K :=
  if r.host.room.handingOff ∨ r.host.room.state = .closed then r
  else
    let joined := (r.host.room.roster.getByUser userId).isSome
    { r with
      host := (r.host.forceKick now userId).1
      registry := (r.registry.noteKicked userId).noteReleased userId joined now
      kicked := r.kicked ++ [userId] }

/-- RELEASE_SEAT. -/
def releaseSeat (r : RoomLife K) (now : Int) (userId : ActorId) : RoomLife K :=
  if r.host.room.handingOff ∨ r.host.room.state = .closed then r
  else
    let joined := (r.host.room.roster.getByUser userId).isSome
    { r with
      host := (r.host.releaseSeat now userId).1
      registry := r.registry.noteReleased userId joined now }

/-- The new server knows of the members, and Redis stays as it is. -/
def handOff (r : RoomLife K) (options : RoomOptions) (adoptedAt committedAt : Int) : RoomLife K :=
  if r.host.room.handingOff then
    let payload := r.host.room.exportForHandOff
    let adopted := adoptedRoom (adoptedOptions payload options) adoptedAt payload
    { r with
      host := unplayed (adopted.refreshHandOffGrace committedAt)
      registry := payload.members.foldl (fun g m => g.trackSeat m.userId) .empty }
  else r

def apply (r : RoomLife K) : LifeOp K → RoomLife K
  | .op op => { r with host := r.host.apply op, kicked := r.kicked ++ r.host.kicks op }
  | .train now inputs training publication =>
    { r with host := (r.host.tick now inputs training publication).host }
  | .reserveJoin draining env now reservation password =>
    (r.reserveJoin draining env now reservation password).1
  | .kickUser now userId => r.kickUser now userId
  | .releaseSeat now userId => r.releaseSeat now userId
  | .publish now =>
    let published := SeatRegistry.publish r.host.managed now (r.registry, r.keys)
    { r with registry := published.1, keys := published.2 }
  | .handOff options adoptedAt committedAt => r.handOff options adoptedAt committedAt

omit [JsNumber K] in
/-- A hand-off takes nobody's kick along, so it is fine where there is none. -/
def Allowed (r : RoomLife K) : LifeOp K → Prop
  | .handOff .. => r.host.room.handingOff = true → r.host.room.kickedUsers = ∅
  | _ => True

/-- Nobody who was kicked is given a seat again. -/
def KicksHold (r : RoomLife K) : Prop :=
  ∀ draining env now reservation password, reservation.userId ∈ r.kicked →
    (r.reserveJoin draining env now reservation password).2 ≠ none

end RoomLife

end SwitchRemake.Game

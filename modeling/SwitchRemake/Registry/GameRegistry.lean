import SwitchRemake.Lib.KeyedList
import SwitchRemake.Redis.Scripts
import SwitchRemake.Shared.Protocol
import Mathlib.Logic.Function.Basic

/-!
# GameRegistry

A server's room directory entries, its users' active-room claims and the loop that publishes both.
A loop stands at one place of its code: before a command it has sent, or after the answer. What the
server holds may change while it stands there.
-/

namespace SwitchRemake.Registry
open Lib Redis

def HEARTBEAT_TTL_MS : Nat := 6_000
def ACTIVE_ROOM_TTL_MS : Nat := 30_000
def HAND_OFF_TTL_MS : Nat := 86_400_000

structure RoomProjection where
  roomId : String
  roomCode : String
  mode : RoomMode
  state : RoomState
  locked : Bool
deriving DecidableEq

structure RoomDirectoryValue where
  projection : RoomProjection
  serverId : String
  updatedAt : Nat
deriving DecidableEq

inductive ActiveRoomClaim where
  | reservation (requestId : String)
  | assigned (requestId roomId serverId : String)
deriving DecidableEq

def ActiveRoomClaim.serverId : ActiveRoomClaim → Option String
  | .reservation _ => none
  | .assigned _ _ serverId => some serverId

inductive HandOffState where
  | pending
  | committed
  | cancelled
deriving DecidableEq

structure Keys where
  now : Nat
  room : String → Cell RoomDirectoryValue
  userActiveRoom : ActorId → Cell ActiveRoomClaim
  handoff : String → Cell HandOffState

namespace Keys

def entry (k : Keys) (roomId : String) : Option RoomDirectoryValue := (k.room roomId).get k.now

def claim (k : Keys) (userId : ActorId) : Option ActiveRoomClaim :=
  (k.userActiveRoom userId).get k.now

def handOffState (k : Keys) (transferId : String) : Option HandOffState :=
  (k.handoff transferId).get k.now

def setRoom (k : Keys) (roomId : String) (cell : Cell RoomDirectoryValue) : Keys :=
  { k with room := Function.update k.room roomId cell }

def setClaim (k : Keys) (userId : ActorId) (cell : Cell ActiveRoomClaim) : Keys :=
  { k with userActiveRoom := Function.update k.userActiveRoom userId cell }

def setHandOff (k : Keys) (transferId : String) (cell : Cell HandOffState) : Keys :=
  { k with handoff := Function.update k.handoff transferId cell }

end Keys

/-! ## What a server holds -/

/-- A room object. One that has left the manager is still held by the code that has it at hand. -/
structure RoomObject where
  roomCode : String
  mode : RoomMode
  state : RoomState
  locked : Bool
  handingOff : Bool
  members : List ActorId
  held : List ActorId
  kickedUsers : List ActorId
deriving DecidableEq

namespace RoomObject

def hasUser (r : RoomObject) (userId : ActorId) : Bool :=
  decide (userId ∈ r.members ∨ userId ∈ r.held)

def projection (r : RoomObject) (roomId : String) : RoomProjection :=
  ⟨roomId, r.roomCode, r.mode, r.state, r.locked⟩

end RoomObject

structure Managed where
  roomId : String
  object : Nat
deriving DecidableEq

structure TrackedSeat where
  roomId : String
  userId : ActorId
  joined : Bool
  requestId : String
deriving DecidableEq

structure PendingRelease where
  roomId : String
  userId : ActorId
  cooldown : Bool
  kicked : Bool
  releasedAt : Nat
deriving DecidableEq

def TrackedSeat.key (seat : TrackedSeat) : String × ActorId := (seat.roomId, seat.userId)
def PendingRelease.key (release : PendingRelease) : String × ActorId :=
  (release.roomId, release.userId)

/-- Where the publishing loop stands. `again` tells the flush at the end of the seats from the one
before them; `current` are the rooms captured for this round. -/
inductive Loop where
  | idle
  | flush (again : Bool)
  | releaseGet (again : Bool) (release : PendingRelease)
  | releaseGot (again : Bool) (release : PendingRelease) (raw : Option ActiveRoomClaim)
  | releaseDelete (again : Bool) (release : PendingRelease) (raw : ActiveRoomClaim)
  | seats (walk : Option (String × Option Nat))
  | seatGet (walk : String × Option Nat) (seat : TrackedSeat) (object : Nat)
  | seatGot (walk : String × Option Nat) (seat : TrackedSeat) (object : Nat)
      (currentClaim : Option ActiveRoomClaim)
  | seatExpire (walk : String × Option Nat) (seat : TrackedSeat) (object : Nat)
      (currentClaim : ActiveRoomClaim)
  | seatExpired (walk : String × Option Nat) (seat : TrackedSeat) (object : Nat) (refreshed : Bool)
  | seatClaim (walk : String × Option Nat) (seat : TrackedSeat)
  | rooms (left : List RoomProjection) (current : List String)
  | roomGet (projection : RoomProjection) (left : List RoomProjection) (current : List String)
  | roomGot (projection : RoomProjection) (previous : Option RoomDirectoryValue)
      (left : List RoomProjection) (current : List String)
  | roomSet (projection : RoomProjection) (previous : Option RoomDirectoryValue)
      (left : List RoomProjection) (current : List String)
  | old (left current : List String)
  | oldGet (oldRoomId : String) (left current : List String)
  | oldGot (oldRoomId : String) (oldValue : Option RoomDirectoryValue) (left current : List String)
  | oldDelete (oldRoomId : String) (oldValue : RoomDirectoryValue) (left current : List String)
deriving DecidableEq

/-- `#rooms` is RoomManager's map and `objects` the rooms there have been. `released` are the rooms
that have left the manager after a committed hand-off and have not come back, `overtaken` those of
them that left it since the running loop captured its rooms. -/
structure GameServer where
  serverId : String
  rooms : KeyedList Managed.roomId
  objects : List RoomObject
  trackedSeats : KeyedList TrackedSeat.key
  pendingReleases : KeyedList PendingRelease.key
  kickedByRoom : List (String × ActorId)
  lastProjectedRooms : List String
  publishedAt : Nat
  loop : Loop
  released : List String
  overtaken : List String

namespace GameServer

def object? (s : GameServer) (roomId : String) : Option Nat :=
  (s.rooms.get? roomId).map (·.object)

/-- `RoomManager.get`. -/
def get (s : GameServer) (roomId : String) : Option RoomObject :=
  (s.object? roomId).bind (s.objects[·]?)

def projections (s : GameServer) : List RoomProjection :=
  s.rooms.entries.filterMap fun managed =>
    s.objects[managed.object]?.map (·.projection managed.roomId)

def trackSeat (s : GameServer) (roomId : String) (userId : ActorId) (requestId : String) :
    GameServer :=
  let pending := s.pendingReleases.get? (roomId, userId)
  { s with
    pendingReleases :=
      if pending.any fun release => !release.kicked then s.pendingReleases.delete (roomId, userId)
      else s.pendingReleases
    trackedSeats :=
      if s.trackedSeats.has (roomId, userId) then s.trackedSeats
      else s.trackedSeats.set ⟨roomId, userId, false, requestId⟩ }

def noteReleased (s : GameServer) (roomId : String) (userId : ActorId) (cooldown : Bool)
    (now : Nat) : GameServer :=
  let kicked := decide ((roomId, userId) ∈ s.kickedByRoom)
  let previous := s.pendingReleases.get? (roomId, userId)
  { s with
    pendingReleases := s.pendingReleases.set
      { roomId, userId
        cooldown := cooldown || (previous.map (·.cooldown)).getD false
        kicked := kicked || (previous.map (·.kicked)).getD false
        releasedAt := (previous.map (·.releasedAt)).getD now }
    trackedSeats := s.trackedSeats.delete (roomId, userId) }

def noteKicked (s : GameServer) (roomId : String) (userId : ActorId) : GameServer :=
  { s with
    kickedByRoom :=
      if (roomId, userId) ∈ s.kickedByRoom then s.kickedByRoom
      else s.kickedByRoom ++ [(roomId, userId)]
    pendingReleases := s.pendingReleases.modify (roomId, userId)
      (fun release => { release with kicked := true }) fun _ => rfl }

def forgetRoom (s : GameServer) (roomId : String) : GameServer :=
  { s with
    lastProjectedRooms := s.lastProjectedRooms.filter (· ≠ roomId)
    trackedSeats := s.trackedSeats.filter (·.roomId ≠ roomId)
    pendingReleases := s.pendingReleases.filter (·.roomId ≠ roomId) }

def claimBelongsToSeat (s : GameServer) (roomId requestId : String) : ActiveRoomClaim → Bool
  | .reservation claimed => claimed == requestId
  | .assigned _ claimed serverId => claimed == roomId && serverId == s.serverId

/-! ## The loop -/

/-- The next release of the walk. A walk over a Map that changes under it comes to any entry, and an
entry whose user is back is dropped. -/
def flushStep (s : GameServer) (again : Bool) : Option PendingRelease → GameServer
  | none =>
    if again then
      let projections := s.projections.filter fun p => p.state ≠ .allocating && p.state ≠ .closed
      { s with loop := .rooms projections (projections.map (·.roomId)), overtaken := [] }
    else { s with loop := .seats none }
  | some release =>
    if !release.kicked && (s.get release.roomId).any (·.hasUser release.userId) then
      { s with pendingReleases := s.pendingReleases.delete release.key }
    else { s with loop := .releaseGet again release }

/-- The room of a seat is looked up where the walk enters it. -/
def seatRoom (s : GameServer) (walk : Option (String × Option Nat)) (roomId : String) :
    Option Nat :=
  match walk with
  | some (entered, object) => if entered = roomId then object else s.object? roomId
  | none => s.object? roomId

/-- A tracked seat whose user the room does not have becomes a pending release. -/
def noteDeparted (s : GameServer) (seat : TrackedSeat) (room : Option RoomObject) (now : Nat) :
    GameServer :=
  let kicked := room.any fun r => decide (seat.userId ∈ r.kickedUsers)
  let noted := if kicked then s.noteKicked seat.roomId seat.userId else s
  { noted with
    pendingReleases := noted.pendingReleases.set
      { roomId := seat.roomId, userId := seat.userId, cooldown := room.isSome && seat.joined
        kicked, releasedAt := now }
    trackedSeats := noted.trackedSeats.delete seat.key }

def seatStep (s : GameServer) (walk : Option (String × Option Nat)) (now : Nat) :
    Option TrackedSeat → GameServer
  | none => { s with loop := .flush true }
  | some seat =>
    let object := s.seatRoom walk seat.roomId
    let room := object.bind (s.objects[·]?)
    let joined := seat.joined || room.any fun r => decide (seat.userId ∈ r.members)
    let seat := { seat with joined }
    let s := { s with trackedSeats := s.trackedSeats.set seat }
    match object, room.any (·.hasUser seat.userId) with
    | some ref, true => { s with loop := .seatGet (seat.roomId, object) seat ref }
    | _, _ => { s.noteDeparted seat room now with loop := .seats (some (seat.roomId, object)) }

def heartbeatClaim (s : GameServer) (roomId : String) : ActiveRoomClaim :=
  .assigned ("heartbeat:" ++ s.serverId ++ ":" ++ roomId) roomId s.serverId

def directoryValue (s : GameServer) (projection : RoomProjection) : RoomDirectoryValue :=
  ⟨projection, s.serverId, s.publishedAt⟩

/-- One command of the loop or the code after its answer. `place` is where a walk over a Map
goes, and `now` the server's clock. -/
def turn (s : GameServer) (keys : Keys) (place now : Nat) : GameServer × Keys :=
  match s.loop with
  | .idle => (s, keys)
  | .flush again => (s.flushStep again s.pendingReleases.entries[place]?, keys)
  | .releaseGet again release =>
    ({ s with loop := .releaseGot again release (keys.claim release.userId) }, keys)
  | .releaseGot again release raw =>
    match raw with
    | some (.assigned requestId roomId serverId) =>
      if roomId = release.roomId ∧ serverId = s.serverId then
        ({ s with loop := .releaseDelete again release (.assigned requestId roomId serverId) }, keys)
      else
        ({ s with
            loop := .flush again
            pendingReleases := s.pendingReleases.delete release.key }, keys)
    | _ =>
      ({ s with
          loop := .flush again
          pendingReleases := s.pendingReleases.delete release.key }, keys)
  | .releaseDelete again release raw =>
    ({ s with
        loop := .flush again
        pendingReleases := s.pendingReleases.delete release.key },
      keys.setClaim release.userId
        (compareAndDelete keys.now (keys.userActiveRoom release.userId) raw).2)
  | .seats walk => (s.seatStep walk now s.trackedSeats.entries[place]?, keys)
  | .seatGet walk seat object =>
    ({ s with loop := .seatGot walk seat object (keys.claim seat.userId) }, keys)
  | .seatGot walk seat object currentClaim =>
    match currentClaim with
    | some claim =>
      if s.claimBelongsToSeat seat.roomId seat.requestId claim then
        ({ s with loop := .seatExpire walk seat object claim }, keys)
      else ({ s with loop := .seatExpired walk seat object false }, keys)
    | none => ({ s with loop := .seatExpired walk seat object false }, keys)
  | .seatExpire walk seat object claim =>
    let expired :=
      compareAndExpire keys.now (keys.userActiveRoom seat.userId) claim ACTIVE_ROOM_TTL_MS
    ({ s with loop := .seatExpired walk seat object expired.1 },
      keys.setClaim seat.userId expired.2)
  | .seatExpired walk seat object refreshed =>
    if !refreshed && seat.joined && !(s.objects[object]?.any (·.handingOff)) then
      ({ s with loop := .seatClaim walk seat }, keys)
    else ({ s with loop := .seats (some walk) }, keys)
  | .seatClaim walk seat =>
    ({ s with loop := .seats (some walk) },
      keys.setClaim seat.userId (setPxIfAbsent keys.now (keys.userActiveRoom seat.userId)
        (s.heartbeatClaim seat.roomId) ACTIVE_ROOM_TTL_MS).2)
  | .rooms left current =>
    match left with
    | projection :: rest => ({ s with loop := .roomGet projection rest current }, keys)
    | [] => ({ s with loop := .old s.lastProjectedRooms current }, keys)
  | .roomGet projection left current =>
    ({ s with loop := .roomGot projection (keys.entry projection.roomId) left current }, keys)
  | .roomGot projection previous left current =>
    match previous with
    | some value =>
      if value.serverId ≠ s.serverId then ({ s with loop := .rooms left current }, keys)
      else ({ s with loop := .roomSet projection (some value) left current }, keys)
    | none =>
      -- a room that has left the manager has no `handingOff`
      if (s.get projection.roomId).any (·.handingOff) then
        ({ s with loop := .rooms left current }, keys)
      else ({ s with loop := .roomSet projection none left current }, keys)
  | .roomSet projection previous left current =>
    let key := keys.room projection.roomId
    let published := match previous with
      | none => setPxIfAbsent keys.now key (s.directoryValue projection) HEARTBEAT_TTL_MS
      | some value =>
        compareAndSetPx keys.now key value (s.directoryValue projection) HEARTBEAT_TTL_MS
    ({ s with loop := .rooms left current }, keys.setRoom projection.roomId published.2)
  | .old left current =>
    match left with
    | oldRoomId :: rest =>
      -- a room forgotten meanwhile has left the set that is walked
      if oldRoomId ∈ current ∨ oldRoomId ∉ s.lastProjectedRooms then
        ({ s with loop := .old rest current }, keys)
      else ({ s with loop := .oldGet oldRoomId rest current }, keys)
    | [] => ({ s with loop := .idle, lastProjectedRooms := current }, keys)
  | .oldGet oldRoomId left current =>
    ({ s with loop := .oldGot oldRoomId (keys.entry oldRoomId) left current }, keys)
  | .oldGot oldRoomId oldValue left current =>
    match oldValue with
    | some value =>
      if value.serverId ≠ s.serverId then ({ s with loop := .old left current }, keys)
      else ({ s with loop := .oldDelete oldRoomId value left current }, keys)
    | none => ({ s with loop := .old left current }, keys)
  | .oldDelete oldRoomId oldValue left current =>
    ({ s with loop := .old left current },
      keys.setRoom oldRoomId (compareAndDelete keys.now (keys.room oldRoomId) oldValue).2)

end GameServer
end SwitchRemake.Registry

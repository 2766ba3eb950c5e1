import SwitchRemake.Lib.KeyedList
import SwitchRemake.Shared.Protocol
import SwitchRemake.Simulation.World

/-!
# The roster of a room

`rooms/lobby-state.ts`. Times are milliseconds of the process clock, which is an argument wherever
the source reads it. The last input of a member, which only the simulation reads, and its way of
playing, which only messages carry, are left out.
-/

namespace SwitchRemake.Rooms
open Lib Simulation

/-- What the lobby shows of a player's record, in tenths of a percent. -/
structure LobbyStats where
  games : Nat
  wins : Nat
  winRate : Nat
  switchSuccessRate : Nat
  deriving DecidableEq

/-- `gateway/ticket-store.ts`. -/
structure SeatReservation where
  userId : ActorId
  nickname : String
  lobbyStats : Option LobbyStats
  roomId : String
  serverId : String
  issuedAt : Int
  expiresAt : Int
  resume : Bool
  deriving DecidableEq

/-- An authenticated socket. -/
structure Connection where
  id : Nat
  userId : ActorId
  playerId : Nat
  roomId : String
  resume : Bool
  deriving DecidableEq

structure SeatHold where
  reservation : SeatReservation
  playerId : Nat
  slot : Nat
  deriving DecidableEq

def SeatHold.userId (hold : SeatHold) : ActorId := hold.reservation.userId

structure LobbyMember where
  userId : ActorId
  playerId : Nat
  slot : Nat
  nickname : String
  guest : Bool
  stats : Option LobbyStats
  loadout : SkillId
  joinedOrder : Nat
  colorIndex : Nat
  role : PlayerRole
  spectatorEligible : Bool
  inCurrentGame : Bool
  connection : Option Connection
  admissionPendingUntil : Option Int
  reconnectUntil : Option Int
  deriving DecidableEq

/-- A member as a room that moves carries it along. -/
structure AdoptedRoomMember where
  userId : ActorId
  playerId : Nat
  slot : Nat
  nickname : String
  guest : Bool
  stats : Option LobbyStats
  loadout : SkillId
  joinedOrder : Nat
  colorIndex : Nat
  isHost : Bool
  deriving DecidableEq

inductive HoldFailure where
  | duplicate | full
  deriving DecidableEq

inductive MoveSlotResult where
  | moved | notFound | outOfRange | occupied
  deriving DecidableEq

def maxPlayersPerRoom : Nat := 8

structure LobbyRoster where
  capacity : Nat
  holds : KeyedList SeatHold.userId
  membersByUser : KeyedList LobbyMember.userId
  joinOrder : Nat
  hostUserId : Option ActorId

namespace LobbyRoster

def empty (capacity : Nat) : LobbyRoster :=
  { capacity, holds := .empty, membersByUser := .empty, joinOrder := 0, hostUserId := none }

def size (r : LobbyRoster) : Nat := r.membersByUser.size

def occupiedSize (r : LobbyRoster) : Nat := r.membersByUser.size + r.holds.size

def members (r : LobbyRoster) : List LobbyMember :=
  sortById LobbyMember.joinedOrder r.membersByUser.entries

def getByUser (r : LobbyRoster) (userId : ActorId) : Option LobbyMember :=
  r.membersByUser.get? userId

def getByPlayerId (r : LobbyRoster) (playerId : Nat) : Option LobbyMember :=
  r.members.find? fun m => m.playerId = playerId

/-- The slot of the host. -/
def hostId (r : LobbyRoster) : Option Nat :=
  r.hostUserId.bind fun userId => (r.getByUser userId).map LobbyMember.playerId

def hasUser (r : LobbyRoster) (userId : ActorId) : Bool :=
  r.membersByUser.has userId || r.holds.has userId

def isHost (r : LobbyRoster) (userId : ActorId) : Bool := r.hostUserId = some userId

def slotOccupied (r : LobbyRoster) (slot : Nat) (exceptUserId : Option ActorId) : Bool :=
  r.holds.entries.any (fun hold => some hold.userId ≠ exceptUserId ∧ hold.slot = slot) ||
    r.membersByUser.entries.any fun m => some m.userId ≠ exceptUserId ∧ m.slot = slot

def firstFreeSeat (r : LobbyRoster) (blockedPlayerIds : List Nat) : Option Nat :=
  (List.range' 1 (min r.capacity maxPlayersPerRoom)).find? fun seat =>
    !blockedPlayerIds.contains seat && !r.slotOccupied seat none

def hold (r : LobbyRoster) (reservation : SeatReservation) (blockedPlayerIds : List Nat) :
    LobbyRoster × Except HoldFailure Nat :=
  if r.hasUser reservation.userId then (r, .error .duplicate)
  else match r.firstFreeSeat blockedPlayerIds with
    | none => (r, .error .full)
    | some seat => ({ r with holds := r.holds.set ⟨reservation, seat, seat⟩ }, .ok seat)

def heldSeat (r : LobbyRoster) (userId : ActorId) : Option SeatHold := r.holds.get? userId

def releaseHold (r : LobbyRoster) (userId : ActorId) : LobbyRoster × Bool :=
  ({ r with holds := r.holds.delete userId }, r.holds.has userId)

def seated (hold : SeatHold) (joinedOrder : Nat) (role : PlayerRole) : LobbyMember :=
  { userId := hold.userId
    playerId := hold.playerId
    slot := hold.slot
    nickname := hold.reservation.nickname
    guest := isGuestActor hold.userId
    stats := hold.reservation.lobbyStats
    loadout := .dash
    joinedOrder
    colorIndex := hold.playerId - 1
    role
    spectatorEligible := false
    inCurrentGame := role = .player
    connection := none
    admissionPendingUntil := some hold.reservation.expiresAt
    reconnectUntil := none }

def claim (r : LobbyRoster) (userId : ActorId) (now : Int) (role : PlayerRole) :
    LobbyRoster × Option LobbyMember :=
  match r.holds.get? userId with
  | none => (r, none)
  | some hold =>
    let released := { r with holds := r.holds.delete userId }
    if hold.reservation.expiresAt ≤ now then (released, none)
    else
      let member := seated hold r.joinOrder role
      ({ released with
          membersByUser := r.membersByUser.set member
          joinOrder := r.joinOrder + 1
          hostUserId := r.hostUserId.or (some userId) }, some member)

/-- A member that came with its room is seated as somebody who lost the connection. -/
def adopt (r : LobbyRoster) (member : AdoptedRoomMember) (reconnectUntil : Int) : LobbyRoster :=
  let seated : LobbyMember :=
    { userId := member.userId
      playerId := member.playerId
      slot := member.slot
      nickname := member.nickname
      guest := member.guest
      stats := member.stats
      loadout := member.loadout
      joinedOrder := member.joinedOrder
      colorIndex := member.colorIndex
      role := .player
      spectatorEligible := false
      inCurrentGame := false
      connection := none
      admissionPendingUntil := none
      reconnectUntil := some reconnectUntil }
  { r with
    membersByUser := r.membersByUser.set seated
    joinOrder := max r.joinOrder (member.joinedOrder + 1)
    hostUserId := if member.isHost then some member.userId else r.hostUserId }

def clearHolds (r : LobbyRoster) : LobbyRoster := { r with holds := .empty }

def purgeExpiredHolds (r : LobbyRoster) (now : Int) : LobbyRoster :=
  { r with holds := r.holds.filter fun hold => !decide (hold.reservation.expiresAt ≤ now) }

/-- The host's seat passes to whoever joined first of those who are left. -/
def remove (r : LobbyRoster) (userId : ActorId) : LobbyRoster × Option LobbyMember :=
  match r.membersByUser.get? userId with
  | none => (r, none)
  | some member =>
    let left := { r with membersByUser := r.membersByUser.delete userId }
    (if r.hostUserId = some userId then
        { left with hostUserId := left.members.head?.map LobbyMember.userId }
      else left, some member)

def passHost (r : LobbyRoster) (requester : ActorId) (playerId : Nat) : LobbyRoster × Bool :=
  if r.hostUserId ≠ some requester then (r, false)
  else match r.getByPlayerId playerId with
    | none => (r, false)
    | some target => ({ r with hostUserId := some target.userId }, true)

/-- A member's record changes, and not whose it is. -/
def update (r : LobbyRoster) (userId : ActorId) (f : LobbyMember → LobbyMember)
    (keeps : ∀ m, (f m).userId = m.userId) : LobbyRoster :=
  { r with membersByUser := r.membersByUser.modify userId f keeps }

def updateAll (r : LobbyRoster) (f : LobbyMember → LobbyMember)
    (keeps : ∀ m, (f m).userId = m.userId) : LobbyRoster :=
  { r with membersByUser := r.membersByUser.mapEntries f keeps }

def moveSlot (r : LobbyRoster) (userId : ActorId) (target : Nat) : LobbyRoster × MoveSlotResult :=
  if ¬ r.membersByUser.has userId then (r, .notFound)
  else if target < 1 ∨ r.capacity < target then (r, .outOfRange)
  else if r.slotOccupied target (some userId) then (r, .occupied)
  else
    (r.update userId (fun m =>
      { m with slot := target, playerId := target, colorIndex := target - 1 }) fun _ => rfl, .moved)

end LobbyRoster

/-! ## The start lock -/

structure LockGrant where
  at_ : Int
  durationMs : Int
  deriving DecidableEq

structure StartLock where
  joinLockMs : Int
  joinBudgetMs : Int
  joinBudgetWindowMs : Int
  mapLockMs : Int
  joinGrants : List LockGrant
  unlocksAt : Int
  deriving DecidableEq

namespace StartLock

def prune (l : StartLock) (now : Int) : StartLock :=
  { l with joinGrants := l.joinGrants.dropWhile fun g => l.joinBudgetWindowMs ≤ now - g.at_ }

def applyJoin (l : StartLock) (now : Int) : StartLock :=
  let pruned := l.prune now
  let used := (pruned.joinGrants.map LockGrant.durationMs).sum
  let grant := min l.joinLockMs (max 0 (l.joinBudgetMs - used))
  if 0 < grant then
    { pruned with
      joinGrants := pruned.joinGrants ++ [⟨now, grant⟩]
      unlocksAt := max l.unlocksAt (now + grant) }
  else pruned

def applyMapChange (l : StartLock) (now : Int) : StartLock :=
  { l with unlocksAt := max l.unlocksAt (now + l.mapLockMs) }

def remainingMs (l : StartLock) (now : Int) : Int := max 0 (l.unlocksAt - now)

end StartLock
end SwitchRemake.Rooms

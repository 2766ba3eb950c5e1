import SwitchRemake.Rooms.LobbyState

/-!
# The state of a room

`rooms/room.ts` and `rooms/room-state.ts`, as far as the room does not call the game. Messages to
the sockets and the notices to the directory are left out; an operation that the source refuses
returns the reason with the room as it was.
-/

namespace SwitchRemake.Rooms
open Lib Simulation

structure RoomStartPlayer where
  playerId : Nat
  loadout : SkillId
  deriving DecidableEq

structure RoomStartSnapshot where
  roomId : String
  matchId : MatchId
  mapId : String
  mode : RoomMode
  players : List RoomStartPlayer
  /-- `rules.MAX_MATCH_DURATION_TICKS`, where the rules have it. -/
  maxMatchDurationTicks : Option Nat
  deriving DecidableEq

def RoomStartSnapshot.playerIds (snapshot : RoomStartSnapshot) : List Nat :=
  snapshot.players.map RoomStartPlayer.playerId

structure RoomTiming where
  countdownMs : Int
  postGameMs : Int
  reconnectGraceMs : Int
  startLockOnJoinMs : Int
  startLockOnMapChangeMs : Int
  startLockJoinBudgetMs : Int
  startLockJoinBudgetWindowMs : Int
  deriving DecidableEq

/-- What a room is built with and never changes. -/
structure RoomOptions where
  id : String
  roomCode : String
  name : String
  password : Option String
  mode : RoomMode
  minPlayersToStart : Nat
  maxMatchDurationTicks : Option Nat
  timing : RoomTiming
  isKnownMap : String → RoomMode → Bool

structure Room where
  options : RoomOptions
  state : RoomState
  roster : LobbyRoster
  startLock : StartLock
  kickedUsers : Finset ActorId
  mapId : String
  matchId : MatchId
  grantedMatchId : Option MatchId
  playedGames : Nat
  locked : Bool
  countdownEndsAt : Option Int
  postGameEndsAt : Option Int
  startSnapshot : Option RoomStartSnapshot
  handingOff : Bool

/-- `AdoptRoomPayload`, without the addresses of the transfer. -/
structure AdoptRoomPayload where
  roomId : String
  roomCode : String
  matchId : MatchId
  playedGames : Nat
  grantedMatchId : Option MatchId
  locked : Bool
  name : String
  password : Option String
  capacity : Nat
  mapId : String
  mode : RoomMode
  members : List AdoptedRoomMember
  deriving DecidableEq

structure Admission where
  playerId : Nat
  roomState : RoomState
  role : PlayerRole
  deriving DecidableEq

/-- `TRANSITIONS` of the state machine. -/
def canTransition : RoomState → RoomState → Bool
  | .allocating, .waiting | .waiting, .countdown | .countdown, .playing | .playing, .postGame
  | .postGame, .waiting => true
  | .closed, _ => false
  | _, .closed => true
  | _, _ => false

namespace Room

abbrev id (r : Room) : String := r.options.id
abbrev mode (r : Room) : RoomMode := r.options.mode
abbrev members (r : Room) : List LobbyMember := r.roster.members

def transition (r : Room) (next : RoomState) : Room :=
  if canTransition r.state next then { r with state := next } else r

/-- The constructor for a room that already had a life elsewhere, or, with no members yet, here. -/
def construct (options : RoomOptions) (capacity : Nat) (mapId : String) (matchId : MatchId)
    (playedGames : Nat) (grantedMatchId : Option MatchId) (locked : Bool) : Room :=
  let timing := options.timing
  { options
    state := .allocating
    roster := .empty capacity
    startLock :=
      { joinLockMs := timing.startLockOnJoinMs
        joinBudgetMs := timing.startLockJoinBudgetMs
        joinBudgetWindowMs := timing.startLockJoinBudgetWindowMs
        mapLockMs := timing.startLockOnMapChangeMs
        joinGrants := []
        unlocksAt := 0 }
    kickedUsers := ∅
    mapId, matchId, grantedMatchId, playedGames, locked
    countdownEndsAt := none
    postGameEndsAt := none
    startSnapshot := none
    handingOff := false }

/-- The constructor for a new room, which holds a seat for its owner. -/
def create (options : RoomOptions) (capacity : Nat) (mapId : String) (matchId : MatchId)
    (owner : SeatReservation) : Room :=
  let room := construct options capacity mapId matchId 0 none false
  { room with roster := (room.roster.hold owner []).1 }

def hasUser (r : Room) (userId : ActorId) : Bool := r.roster.hasUser userId
def isKicked (r : Room) (userId : ActorId) : Bool := decide (userId ∈ r.kickedUsers)

/-- Only the id of a match that has not been played is pending. -/
def pendingMatchId (r : Room) : Option MatchId :=
  if r.playedGames = 0 then some r.matchId else r.grantedMatchId

def updateMember (r : Room) (userId : ActorId) (f : LobbyMember → LobbyMember)
    (keeps : ∀ m, (f m).userId = m.userId) : Room :=
  { r with roster := r.roster.update userId f keeps }

/-! ## Seats -/

/-- The seats of the running match stay blocked, also when their players have left. -/
def lockedPlayerIds (r : Room) : List Nat :=
  if r.state = .playing then r.startSnapshot.elim [] RoomStartSnapshot.playerIds else []

/-- `passwordMatches` compares digests; equal digests are taken for equal passwords. -/
def passwordRefused (r : Room) (password : Option String) : Bool :=
  match r.options.password with
  | none => false
  | some expected => password ≠ some expected

/-- `reserveJoin` once the room has caught up with the clock. -/
def reserveJoin (r : Room) (now : Int) (reservation : SeatReservation) (password : Option String) :
    Room × Option ControlErrorCode :=
  if r.state = .closed then (r, some .roomNotFound)
  else if reservation.roomId ≠ r.id ∨ reservation.resume ∨ reservation.expiresAt ≤ now then
    (r, some .expired)
  else if (r.state ≠ .waiting ∧ r.state ≠ .playing) ∨ r.locked then (r, some .roomLocked)
  else if reservation.userId ∈ r.kickedUsers then (r, some .kickedFromRoom)
  else if r.passwordRefused password then (r, some .badPassword)
  else
    let held := r.roster.hold reservation r.lockedPlayerIds
    match held.2 with
    | .error .duplicate => (r, some .alreadyInRoom)
    | .error .full => (r, some .roomFull)
    | .ok _ => ({ r with roster := held.1 }, none)

def canReserveResume (r : Room) (now : Int) (userId : ActorId) : Option ControlErrorCode :=
  if r.state = .closed then some .roomNotFound
  else match r.roster.getByUser userId with
    | none => some .noGraceSlot
    | some member =>
      if member.connection ≠ none ∨ member.admissionPendingUntil ≠ none then some .noGraceSlot
      else if member.reconnectUntil.any fun t => decide (now < t) then none
      else some .noGraceSlot

/-- `admitReservation` once the room has caught up with the clock. -/
def admitReservation (r : Room) (now : Int) (reservation : SeatReservation) :
    Room × Option Admission :=
  if reservation.roomId ≠ r.id ∨ reservation.expiresAt ≤ now ∨ r.state = .closed then (r, none)
  else if reservation.resume then
    if r.canReserveResume now reservation.userId ≠ none then (r, none)
    else match r.roster.getByUser reservation.userId with
      | none => (r, none)
      | some member =>
        (r.updateMember reservation.userId
          (fun m => { m with admissionPendingUntil := some reservation.expiresAt }) fun _ => rfl,
          some ⟨member.playerId, r.state, member.role⟩)
  else if r.state ≠ .allocating ∧ r.state ≠ .waiting ∧ r.state ≠ .playing then (r, none)
  else match r.roster.heldSeat reservation.userId with
    | none => (r, none)
    | some held =>
      if held.reservation.issuedAt ≠ reservation.issuedAt ∨
          held.reservation.expiresAt ≠ reservation.expiresAt ∨
          held.reservation.serverId ≠ reservation.serverId then (r, none)
      else
        let role := if r.state = .playing then PlayerRole.waiting else PlayerRole.player
        let claimed := r.roster.claim reservation.userId now role
        match claimed.2 with
        | none => ({ r with roster := claimed.1 }, none)
        | some member =>
          let seated := { r with roster := claimed.1, startLock := r.startLock.applyJoin now }
          let waiting := if seated.state = .allocating then seated.transition .waiting else seated
          (waiting, some ⟨member.playerId, waiting.state, member.role⟩)

/-- `bindConnection`, but for the notice to the game. -/
def bindConnection (r : Room) (now : Int) (connection : Connection) : Room × Bool :=
  match r.roster.getByUser connection.userId with
  | none => (r, false)
  | some member =>
    if member.playerId ≠ connection.playerId ∨ member.connection ≠ none ∨
        member.admissionPendingUntil.all (fun t => decide (t ≤ now)) then (r, false)
    else if connection.resume ≠ member.reconnectUntil.isSome then (r, false)
    else
      (r.updateMember connection.userId (fun m =>
        { m with
          connection := some connection
          admissionPendingUntil := none
          reconnectUntil := none }) fun _ => rfl, true)

/-! ## The lobby -/

def passHost (r : Room) (requester : ActorId) (playerId : Nat) : Room × Option ErrorCode :=
  if r.state ≠ .waiting then (r, some .badState)
  else if ¬ r.roster.isHost requester then (r, some .notHost)
  else
    let passed := r.roster.passHost requester playerId
    if passed.2 then ({ r with roster := passed.1 }, none) else (r, some .invalidPayload)

def setLocked (r : Room) (requester : ActorId) (locked : Bool) : Room × Option ErrorCode :=
  if r.state ≠ .waiting then (r, some .badState)
  else if ¬ r.roster.isHost requester then (r, some .notHost)
  else ({ r with locked }, none)

def setMap (r : Room) (now : Int) (requester : ActorId) (mapId : String) :
    Room × Option ErrorCode :=
  if r.state ≠ .waiting then (r, some .badState)
  else if ¬ r.roster.isHost requester then (r, some .notHost)
  else if ¬ r.options.isKnownMap mapId r.mode then (r, some .invalidPayload)
  else if mapId = r.mapId then (r, none)
  else ({ r with mapId, startLock := r.startLock.applyMapChange now }, none)

def lobbyEditable (r : Room) : Bool := r.state = .waiting || r.state = .postGame

def setLoadout (r : Room) (userId : ActorId) (loadout : SkillId) : Room × Option ErrorCode :=
  if ¬ r.lobbyEditable then (r, some .badState)
  else match r.roster.getByUser userId with
    | none => (r, some .badState)
    | some member =>
      if member.role ≠ .player then (r, some .badState)
      else (r.updateMember userId (fun m => { m with loadout }) fun _ => rfl, none)

/-- `none` stands for `'bad-state'`. -/
def moveSlot (r : Room) (userId : ActorId) (slot : Nat) : Room × Option MoveSlotResult :=
  if ¬ r.lobbyEditable then (r, none)
  else
    let moved := r.roster.moveSlot userId slot
    ({ r with roster := moved.1 }, some moved.2)

/-! ## Start and finish -/

/-- What the room reads of its process when somebody wants to start. -/
structure StartGate where
  isDraining : Bool
  canStartGame : Bool

def participants (r : Room) : List LobbyMember :=
  r.members.filter fun m => m.connection.isSome

def requestStart (r : Room) (now : Int) (requester : ActorId) (gate : StartGate) :
    Room × Option ErrorCode :=
  if r.state ≠ .waiting then (r, some .badState)
  else if ¬ r.roster.isHost requester then (r, some .notHost)
  else if gate.isDraining then (r, some .serverDraining)
  else if 0 < r.startLock.remainingMs now then (r, some .startLocked)
  else if r.participants.length < r.options.minPlayersToStart then (r, some .badState)
  else if ¬ gate.canStartGame then (r, some .resultBacklog)
  else
    let rematch := 0 < r.playedGames ∧ r.mode = .match
    if rematch ∧ r.grantedMatchId = none then (r, some .resultBacklog)
    else
      let matchId := if rematch then r.grantedMatchId.getD r.matchId else r.matchId
      let started : Room :=
        { r with
          matchId
          grantedMatchId := if rematch then none else r.grantedMatchId
          playedGames := r.playedGames + 1
          roster := r.roster.clearHolds
          startSnapshot := some
            { roomId := r.id
              matchId
              mapId := r.mapId
              mode := r.mode
              players := r.participants.map fun m => ⟨m.playerId, m.loadout⟩
              maxMatchDurationTicks := r.options.maxMatchDurationTicks }
          countdownEndsAt := some (now + r.options.timing.countdownMs) }
      (started.transition .countdown, none)

/-- `none` is the exception that invalid winners raise. -/
def finishGame (r : Room) (now : Int) (winnerIds : List Nat) : Option (Room × Bool) :=
  if r.state ≠ .playing then some (r, false)
  else
    let playerIds := r.startSnapshot.elim [] RoomStartSnapshot.playerIds
    if ¬ winnerIds.Nodup ∨ ¬ winnerIds.all playerIds.contains then none
    else
      let ended := { r with postGameEndsAt := some (now + r.options.timing.postGameMs) }
      some (ended.transition .postGame, true)

def grantMatchId (r : Room) (matchId : MatchId) : Room :=
  if matchId = r.matchId then r else { r with grantedMatchId := some matchId }

/-! ## The running match -/

def markEliminatedMember (r : Room) (userId : ActorId) : Room :=
  r.updateMember userId (fun m => { m with spectatorEligible := true, role := .spectator })
    fun _ => rfl

def markEliminated (r : Room) (playerId : Nat) : Room :=
  if r.state ≠ .playing then r
  else match r.roster.getByPlayerId playerId with
    | none => r
    | some member =>
      if ¬ member.inCurrentGame ∨ member.spectatorEligible then r
      else r.markEliminatedMember member.userId

def setSpectating (r : Room) (userId : ActorId) (spectating : Bool) : Room × Option ErrorCode :=
  if r.state ≠ .playing then (r, some .badState)
  else match r.roster.getByUser userId with
    | none => (r, some .spectateDenied)
    | some member =>
      if ¬ member.spectatorEligible then (r, some .spectateDenied)
      else
        (r.updateMember userId (fun m =>
          { m with role := if spectating then .spectator else .waiting }) fun _ => rfl, none)

/-- `snapshotAccess`, of a member. -/
def memberAccess (r : Room) (member : LobbyMember) : SnapshotAccess :=
  if r.state ≠ .playing then .none
  else if member.connection = none then .none
  else if member.role = .spectator ∧ member.spectatorEligible then .unfiltered
  else if member.role = .player ∧ member.inCurrentGame ∧ ¬ member.spectatorEligible then .filtered
  else .none

def snapshotAccess (r : Room) (userId : ActorId) : SnapshotAccess :=
  match r.roster.getByUser userId with
  | none => .none
  | some member => r.memberAccess member

structure SnapshotTarget where
  member : LobbyMember
  connection : Connection
  access : SnapshotAccess
  deriving DecidableEq

def snapshotTargets (r : Room) : List SnapshotTarget :=
  if r.state ≠ .playing then []
  else r.members.filterMap fun member =>
    member.connection.bind fun connection =>
      let access := r.snapshotAccess member.userId
      if access = .none then none else some ⟨member, connection, access⟩

/-! ## Hand-off -/

def canHandOff (r : Room) : Bool :=
  !r.handingOff && r.state = .waiting &&
    (r.mode ≠ .match || r.playedGames = 0 || r.grantedMatchId.isSome) &&
    r.roster.occupiedSize = r.members.length &&
    r.members.all (fun m => m.admissionPendingUntil.isNone) &&
    r.members.any fun m => m.connection.isSome

def freezeForHandOff (r : Room) : Room × Bool :=
  if r.canHandOff then ({ r with handingOff := true }, true) else (r, false)

def cancelHandOff (r : Room) : Room := { r with handingOff := false }

def exportMember (hostId : Option Nat) (m : LobbyMember) : AdoptedRoomMember :=
  { userId := m.userId
    playerId := m.playerId
    slot := m.slot
    nickname := m.nickname
    guest := m.guest
    stats := m.stats
    loadout := m.loadout
    joinedOrder := m.joinedOrder
    colorIndex := m.colorIndex
    isHost := some m.playerId = hostId }

def exportForHandOff (r : Room) : AdoptRoomPayload :=
  { roomId := r.id
    roomCode := r.options.roomCode
    matchId := r.matchId
    playedGames := r.playedGames
    grantedMatchId := r.grantedMatchId
    locked := r.locked
    name := r.options.name
    password := r.options.password
    capacity := r.roster.capacity
    mapId := r.mapId
    mode := r.mode
    members := r.members.map (exportMember r.roster.hostId) }

def releaseAfterHandOff (r : Room) : Room :=
  let left := r.roster.updateAll (fun m => { m with connection := none }) fun _ => rfl
  ({ r with roster := left } : Room).transition .closed

def refreshHandOffGrace (r : Room) (now : Int) : Room :=
  let until_ := now + r.options.timing.reconnectGraceMs
  let refreshed := r.roster.updateAll
    (fun m => if m.connection = none then { m with reconnectUntil := some until_ } else m)
    fun m => by split <;> rfl
  { r with roster := refreshed }

def adoptMembers (r : Room) (now : Int) (members : List AdoptedRoomMember) : Room :=
  let until_ := now + r.options.timing.reconnectGraceMs
  let roster := members.foldl (fun roster m => roster.adopt m until_) r.roster
  let adopted : Room := { r with roster }
  let waiting := if adopted.state = .allocating then adopted.transition .waiting else adopted
  { waiting with startLock := waiting.startLock.applyJoin now }

end Room
end SwitchRemake.Rooms

import SwitchRemake.Game.GameLifecycle
import SwitchRemake.Lib.Runs

/-!
# The operations of a room with its match

The functions of `rooms/room.ts` that call the game, in the order of their calls, and the tick of
the scheduler for the session of the room.
-/

namespace SwitchRemake.Game.HostedRoom
open Lib Simulation Rooms GameSession

variable {K : Type}

def mapRoom (h : HostedRoom K) (f : Room → Room) : HostedRoom K := { h with room := f h.room }

def closeIfEmpty (h : HostedRoom K) : HostedRoom K :=
  if h.room.roster.size = 0 then h.close else h

/-- `bindConnection`, with the notice to the game. -/
def bindConnection (h : HostedRoom K) (now : Int) (connection : Connection) :
    HostedRoom K × Bool :=
  let bound := h.room.bindConnection now connection
  if bound.2 then
    (({ h with room := bound.1 } : HostedRoom K).connectionChanged connection.playerId true, true)
  else (h, false)

variable [JsNumber K]

def removeMember (h : HostedRoom K) (now : Int) (userId : ActorId) (notifyLifecycle : Bool) :
    HostedRoom K × Bool :=
  let removed := h.room.roster.remove userId
  match removed.2 with
  | none => (h, false)
  | some member =>
    let left := h.mapRoom fun room => { room with roster := removed.1 }
    let notified := if notifyLifecycle then left.eliminate now member.playerId else left
    (notified.closeIfEmpty, true)

theorem waits_userId (until_ : Int) (m : LobbyMember) :
    ({ m with connection := none, admissionPendingUntil := none, reconnectUntil := some until_ } :
      LobbyMember).userId = m.userId := rfl

/-- A match player whose socket closes is out at once; its seat is kept for a while. -/
def disconnect (h : HostedRoom K) (now : Int) (connection : Connection) : HostedRoom K :=
  match h.room.roster.getByUser connection.userId with
  | none => h
  | some member =>
    if member.connection.map Connection.id ≠ some connection.id then h
    else
      let until_ := now + h.room.options.timing.reconnectGraceMs
      let left := h.mapRoom fun room => room.updateMember connection.userId (fun m =>
        { m with connection := none, admissionPendingUntil := none, reconnectUntil := some until_ })
        fun _ => rfl
      let noted := left.connectionChanged member.playerId false
      if noted.room.state = .playing ∧ member.inCurrentGame ∧ ¬ member.spectatorEligible then
        (noted.mapRoom fun room => room.markEliminatedMember connection.userId).eliminate now
          member.playerId
      else noted

def releaseSeat (h : HostedRoom K) (now : Int) (userId : ActorId) : HostedRoom K × Bool :=
  let released := h.room.roster.releaseHold userId
  if released.2 then
    let freed := h.mapRoom fun room => { room with roster := released.1 }
    (if freed.room.roster.occupiedSize = 0 then freed.close else freed, true)
  else h.removeMember now userId true

def kick (h : HostedRoom K) (now : Int) (requester : ActorId) (playerId : Nat) :
    HostedRoom K × Option ErrorCode :=
  if h.room.state ≠ .waiting then (h, some .badState)
  else if ¬ h.room.roster.isHost requester then (h, some .notHost)
  else match h.room.roster.getByPlayerId playerId with
    | none => (h, some .invalidPayload)
    | some target =>
      if target.userId = requester then (h, some .invalidPayload)
      else
        let banned := h.mapRoom fun room =>
          { room with kickedUsers := insert target.userId room.kickedUsers }
        ((banned.removeMember now target.userId true).1, none)

def forceKick (h : HostedRoom K) (now : Int) (userId : ActorId) : HostedRoom K × Bool :=
  let banned := h.mapRoom fun room =>
    { room with
      kickedUsers := insert userId room.kickedUsers
      roster := (room.roster.releaseHold userId).1 }
  match banned.room.roster.getByUser userId with
  | none => (banned, false)
  | some _ => ((banned.removeMember now userId true).1, true)

/-! ## The clock -/

omit [JsNumber K] in
/-- A seat kept for a member that is not connected has run out. -/
def seatExpired (now : Int) (m : LobbyMember) : Bool :=
  m.connection.isNone && m.reconnectUntil.any fun t => decide (t ≤ now)

omit [JsNumber K] in
def admissionExpired (now : Int) (m : LobbyMember) : Bool :=
  m.connection.isNone && m.admissionPendingUntil.any fun t => decide (t ≤ now)

/-- The body of the first loop of `#advance`. Nobody is told that a seat ran out. -/
def expireMember (now : Int) (h : HostedRoom K) (m : LobbyMember) : HostedRoom K :=
  if admissionExpired now m ∧ m.reconnectUntil = none then (h.removeMember now m.userId false).1
  else
    let settled := if admissionExpired now m then
        h.mapRoom fun room => room.updateMember m.userId
          (fun m => { m with admissionPendingUntil := none }) fun _ => rfl
      else h
    if seatExpired now m then (settled.removeMember now m.userId false).1 else settled

def expireMembers (h : HostedRoom K) (now : Int) : HostedRoom K :=
  let purged := h.mapRoom fun room =>
    { room with roster := room.roster.purgeExpiredHolds now }
  purged.room.members.foldl (expireMember now) purged

omit [JsNumber K] in
/-- The locked players enter the match, and everybody else waits. -/
def enterGame (room : Room) (snapshot : RoomStartSnapshot) : Room :=
  let roster := room.roster.updateAll (fun m =>
    { m with
      inCurrentGame := snapshot.playerIds.contains m.playerId
      role := if snapshot.playerIds.contains m.playerId then .player else .waiting
      spectatorEligible := false }) fun _ => rfl
  ({ room with roster, countdownEndsAt := none } : Room).transition .playing

omit [JsNumber K] in
def backToLobby (room : Room) : Room :=
  let roster := room.roster.updateAll (fun m =>
    { m with role := .player, spectatorEligible := false, inCurrentGame := false }) fun _ => rfl
  ({ room with roster, postGameEndsAt := none, startSnapshot := none } : Room).transition .waiting

def startIfDue (h : HostedRoom K) (env : StartEnv K) (now : Int) : HostedRoom K :=
  if h.room.state = .countdown ∧ h.room.countdownEndsAt.any (fun t => decide (t ≤ now)) then
    match h.room.startSnapshot with
    | none => h
    | some snapshot =>
      match h.startGame env snapshot with
      | none => h
      | some started => started.mapRoom fun room => enterGame room snapshot
  else h

omit [JsNumber K] in
def returnIfDue (h : HostedRoom K) (now : Int) : HostedRoom K :=
  if h.room.state = .postGame ∧ h.room.postGameEndsAt.any (fun t => decide (t ≤ now)) then
    h.mapRoom backToLobby
  else h

/-- `Room.advance`. A frozen room stands still. -/
def advance (h : HostedRoom K) (env : StartEnv K) (now : Int) : HostedRoom K :=
  if h.room.handingOff ∨ h.room.state = .closed then h
  else
    let expired := h.expireMembers now
    if expired.room.roster.size = 0 then
      if expired.room.state ≠ .allocating ∨ expired.room.roster.occupiedSize = 0 then expired.close
      else expired
    else (expired.startIfDue env now).returnIfDue now

def reserveJoin (h : HostedRoom K) (env : StartEnv K) (now : Int) (reservation : SeatReservation)
    (password : Option String) : HostedRoom K × Option ControlErrorCode :=
  let h := h.advance env now
  let reserved := h.room.reserveJoin now reservation password
  ({ h with room := reserved.1 }, reserved.2)

def canReserveResume (h : HostedRoom K) (env : StartEnv K) (now : Int) (userId : ActorId) :
    HostedRoom K × Option ControlErrorCode :=
  let h := h.advance env now
  (h, h.room.canReserveResume now userId)

def admitReservation (h : HostedRoom K) (env : StartEnv K) (now : Int)
    (reservation : SeatReservation) : HostedRoom K × Option Admission :=
  let h := h.advance env now
  let admitted := h.room.admitReservation now reservation
  ({ h with room := admitted.1 }, admitted.2)

/-! ## The tick of the scheduler -/

/-- The targets of a publication, with the bytes each socket still has to send. -/
def publicationTargets (room : Room) (bufferedBytes : Nat → Nat) : List Target :=
  room.snapshotTargets.map fun t =>
    ⟨t.member.playerId, t.access, bufferedBytes t.connection.id⟩

structure HostTick (K : Type) where
  host : HostedRoom K
  deliveries : List (Delivery K)

/-- `Scheduler.stepAll` for the session of this room. -/
def tick (h : HostedRoom K) (now : Int) (inputs : List (ResolvedInput K))
    (training : TrainingTurn K) (publication : Option (Nat → Nat)) : HostTick K :=
  match h.session with
  | none => ⟨h, []⟩
  | some s =>
    let stepped := s.game.step inputs training
    let moved := ({ h with session := some { s with game := stepped.session } }).notices now
      s.serial stepped.notices
    match stepped.frame, publication with
    | some frame, some bufferedBytes =>
      let sent := stepped.session.publish frame (publicationTargets moved.room bufferedBytes)
      ⟨moved.mapGame fun _ => sent.1, sent.2⟩
    | _, _ => ⟨moved, []⟩

end SwitchRemake.Game.HostedRoom

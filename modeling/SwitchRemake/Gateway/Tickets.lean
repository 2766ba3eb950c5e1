import SwitchRemake.Game.SeatRun

/-!
# Tickets and connections

`gateway/ticket-store.ts`, `gateway/connection-manager.ts` and `gateway/ticket-auth.ts`, with the
rooms they lead to. The reservations stand under the digests of their tickets; the digest is a
parameter.
-/

namespace SwitchRemake.Tickets
open Lib Simulation Rooms Game

/-- A reservation under the digest of its ticket. -/
structure HeldTicket where
  digest : String
  reservation : SeatReservation
deriving DecidableEq

def seatReservationTtlMs : Int := 15000
def sweepIntervalMs : Int := 10000

structure TicketStore where
  reservations : KeyedList HeldTicket.digest
  nextSweepAt : Int

namespace TicketStore

def empty : TicketStore := ⟨.empty, 0⟩

def live (now : Int) (held : HeldTicket) : Bool := !decide (held.reservation.expiresAt ≤ now)

def deleteExpired (store : TicketStore) (now : Int) : TicketStore :=
  { store with reservations := store.reservations.filter (live now) }

def sweepExpired (store : TicketStore) (now : Int) : TicketStore :=
  if now < store.nextSweepAt then store
  else ({ store with nextSweepAt := now + sweepIntervalMs } : TicketStore).deleteExpired now

def delete (store : TicketStore) (digest : String) : TicketStore :=
  { store with reservations := store.reservations.delete digest }

/-- `none` is the exception; the sweep has been made by then. -/
def issue (store : TicketStore) (now : Int) (digest : String) (reservation : SeatReservation) :
    TicketStore × Option HeldTicket :=
  let swept := store.sweepExpired now
  if reservation.expiresAt ≤ reservation.issuedAt ∨ reservation.expiresAt ≤ now ∨
      seatReservationTtlMs < reservation.expiresAt - reservation.issuedAt then (swept, none)
  else
    ({ swept with reservations := swept.reservations.set ⟨digest, reservation⟩ },
      some ⟨digest, reservation⟩)

end TicketStore

structure ConnectionRecord where
  id : Nat
  ip : String
  userId : Option ActorId
deriving DecidableEq

structure ConnectionLimits where
  maxConnections : Nat
  maxUnauthenticatedPerIp : Nat
  maxAuthenticatedPerIp : Nat

/-- A user stands in `activeUsers` under the id of its connection. -/
structure ConnectionManager where
  limits : ConnectionLimits
  connections : KeyedList ConnectionRecord.id
  unauthenticatedByIp : String → Nat
  authenticatedByIp : String → Nat
  activeUsers : ActorId → Option Nat
  nextId : Nat

namespace ConnectionManager

def start (limits : ConnectionLimits) : ConnectionManager where
  limits
  connections := .empty
  unauthenticatedByIp _ := 0
  authenticatedByIp _ := 0
  activeUsers _ := none
  nextId := 1

def bump (counts : String → Nat) (ip : String) : String → Nat :=
  fun other => if other = ip then counts ip + 1 else counts other

def decrement (counts : String → Nat) (ip : String) : String → Nat :=
  fun other => if other = ip then counts ip - 1 else counts other

def canOpen (m : ConnectionManager) (ip : String) : Bool :=
  m.connections.size < m.limits.maxConnections &&
    m.unauthenticatedByIp ip < m.limits.maxUnauthenticatedPerIp

def openConnection (m : ConnectionManager) (ip : String) : ConnectionManager :=
  if m.canOpen ip then
    { m with
      connections := m.connections.set ⟨m.nextId, ip, none⟩
      unauthenticatedByIp := bump m.unauthenticatedByIp ip
      nextId := m.nextId + 1 }
  else m

def canAuthenticate (m : ConnectionManager) (id : Nat) (userId : ActorId) : Bool :=
  match m.connections.get? id with
  | none => false
  | some record => record.userId.isNone && (m.activeUsers userId).isNone &&
      m.authenticatedByIp record.ip < m.limits.maxAuthenticatedPerIp

def authenticate (m : ConnectionManager) (id : Nat) (userId : ActorId) : ConnectionManager × Bool :=
  match m.connections.get? id with
  | none => (m, false)
  | some record =>
    if m.canAuthenticate id userId then
      ({ m with
          connections := m.connections.set { record with userId := some userId }
          unauthenticatedByIp := decrement m.unauthenticatedByIp record.ip
          authenticatedByIp := bump m.authenticatedByIp record.ip
          activeUsers := fun other => if other = userId then some id else m.activeUsers other }, true)
    else (m, false)

def close (m : ConnectionManager) (id : Nat) : ConnectionManager :=
  match m.connections.get? id with
  | none => m
  | some record =>
    let left := { m with connections := m.connections.delete id }
    match record.userId with
    | none => { left with unauthenticatedByIp := decrement m.unauthenticatedByIp record.ip }
    | some userId =>
      { left with
        authenticatedByIp := decrement m.authenticatedByIp record.ip
        activeUsers := fun other =>
          if other = userId ∧ m.activeUsers userId = some id then none else m.activeUsers other }

end ConnectionManager

structure AuthenticatedPrincipal where
  playerId : Nat
  roomState : RoomState
  role : PlayerRole
  userId : ActorId
  nickname : String
  roomId : String
  isGuest : Bool
  lobbyStats : Option LobbyStats
  resume : Bool
deriving DecidableEq

def principalOf (reservation : SeatReservation) (seat : Admission) : AuthenticatedPrincipal :=
  { playerId := seat.playerId
    roomState := seat.roomState
    role := seat.role
    userId := reservation.userId
    nickname := reservation.nickname
    roomId := reservation.roomId
    isGuest := isGuestActor reservation.userId
    lobbyStats := reservation.lobbyStats
    resume := reservation.resume }

/-- `/^[A-Za-z0-9_-]{43}$/u`. -/
def wellFormed (ticket : String) : Bool :=
  ticket.length = 43 && ticket.toList.all fun c =>
    ('A' ≤ c && c ≤ 'Z') || ('a' ≤ c && c ≤ 'z') || ('0' ≤ c && c ≤ '9') || c = '_' || c = '-'

/-- How an attempt ends: with the exception of a match that could not be started, with `null`, or
with a principal. -/
inductive Attempt where
  | thrown
  | refused
  | admitted (principal : AuthenticatedPrincipal)
deriving DecidableEq

/-- The process: its clock, the tickets, the connections and the rooms. -/
structure Gateway (K : Type) where
  now : Int
  tickets : TicketStore
  connections : ConnectionManager
  rooms : String → Option (HostRun K)

structure GatewayOptions where
  serverId : String
  hashTicket : String → String

variable {K : Type} [JsNumber K]

/-- The catch-up with the clock raises an exception: the match that is due does not start. -/
def startThrows (h : HostedRoom K) (env : StartEnv K) (now : Int) : Bool :=
  if h.room.handingOff ∨ h.room.state = .closed then false
  else
    let expired := h.expireMembers now
    expired.room.roster.size ≠ 0 && expired.room.state = .countdown &&
      expired.room.countdownEndsAt.any (fun t => decide (t ≤ now)) &&
      (expired.room.startSnapshot.bind (expired.startGame env)).isNone

namespace Gateway

omit [JsNumber K] in
def setRoom (g : Gateway K) (roomId : String) (room : Option (HostRun K)) : Gateway K :=
  { g with rooms := fun other => if other = roomId then room else g.rooms other }

/-- `RoomManager.admitReservation`; the inner `none` is `null`. -/
def admitReservation (g : Gateway K) (env : StartEnv K) (reservation : SeatReservation) :
    Gateway K × Option (Option Admission) :=
  match g.rooms reservation.roomId with
  | none => (g, some none)
  | some run =>
    if run.host.room.handingOff then (g, some none)
    else if startThrows run.host env g.now then
      (g.setRoom reservation.roomId (some (run.apply (.advance env g.now))), none)
    else
      (g.setRoom reservation.roomId (some (run.apply (.admitReservation env g.now reservation))),
        some (run.host.admitReservation env g.now reservation).2)

/-- The callback that `authenticate` hands to the store. -/
def admitHeld (options : GatewayOptions) (g : Gateway K) (env : StartEnv K) (connectionId : Nat)
    (reservation : SeatReservation) : Gateway K × Attempt :=
  if reservation.expiresAt ≤ g.now ∨ reservation.serverId ≠ options.serverId ∨
      g.connections.canAuthenticate connectionId reservation.userId = false then (g, .refused)
  else
    let seated := g.admitReservation env reservation
    match seated.2 with
    | none => (seated.1, .thrown)
    | some none => (seated.1, .refused)
    | some (some seat) =>
      let bound := seated.1.connections.authenticate connectionId reservation.userId
      if bound.2 then
        ({ seated.1 with connections := bound.1 }, .admitted (principalOf reservation seat))
      else (seated.1, .refused)

/-- `consumeWhen` with that callback. -/
def consumeWhen (options : GatewayOptions) (g : Gateway K) (env : StartEnv K) (connectionId : Nat)
    (ticket : String) : Gateway K × Attempt :=
  let swept := { g with tickets := g.tickets.sweepExpired g.now }
  match swept.tickets.reservations.get? (options.hashTicket ticket) with
  | none => (swept, .refused)
  | some held =>
    let gone (g : Gateway K) : Gateway K := { g with tickets := g.tickets.delete held.digest }
    if held.reservation.expiresAt ≤ g.now then (gone swept, .refused)
    else
      let tried := swept.admitHeld options env connectionId held.reservation
      match tried.2 with
      | .admitted principal => (gone tried.1, .admitted principal)
      | failed => (tried.1, failed)

/-- The synchronous part of `authenticate`. Before it the attempt has only yielded, and after it it
only waits. -/
def authenticate (options : GatewayOptions) (g : Gateway K) (env : StartEnv K) (connectionId : Nat)
    (ticket : String) : Gateway K × Attempt :=
  if wellFormed ticket then g.consumeWhen options env connectionId ticket else (g, .refused)

end Gateway

/-! ## Runs -/

/-- A principal that an attempt has returned, and for which ticket. -/
structure Entrance where
  digest : String
  connectionId : Nat
  principal : AuthenticatedPrincipal
  clock : Int
deriving DecidableEq

structure GatewayRun (K : Type) where
  gateway : Gateway K
  issued : List HeldTicket
  entered : List Entrance

inductive GatewayOp (K : Type) where
  | tick (ms : Nat)
  | sweep
  | openSocket (ip : String)
  | closeSocket (id : Nat)
  | issue (ticket : String) (reservation : SeatReservation)
  | authenticate (env : StartEnv K) (connectionId : Nat) (ticket : String)
  | openRoom (roomId : String) (room : HostRun K)
  | dropRoom (roomId : String)
  | room (roomId : String) (op : HostOp K)
  | roomTick (roomId : String) (inputs : List (ResolvedInput K)) (training : TrainingTurn K)
      (publication : Option (Nat → Nat))

namespace GatewayRun

omit [JsNumber K] in
def start (limits : ConnectionLimits) : GatewayRun K where
  gateway := ⟨0, .empty, .start limits, fun _ => none⟩
  issued := []
  entered := []

def changeRoom (g : Gateway K) (roomId : String) (f : HostRun K → HostRun K) : Gateway K :=
  g.setRoom roomId ((g.rooms roomId).map f)

def apply (options : GatewayOptions) (s : GatewayRun K) : GatewayOp K → GatewayRun K
  | .tick ms => { s with gateway := { s.gateway with now := s.gateway.now + ms } }
  | .sweep =>
    { s with gateway :=
        { s.gateway with tickets := s.gateway.tickets.deleteExpired s.gateway.now } }
  | .openSocket ip =>
    { s with gateway := { s.gateway with connections := s.gateway.connections.openConnection ip } }
  | .closeSocket id =>
    { s with gateway := { s.gateway with connections := s.gateway.connections.close id } }
  | .issue ticket reservation =>
    let sold := s.gateway.tickets.issue s.gateway.now (options.hashTicket ticket) reservation
    { s with
      gateway := { s.gateway with tickets := sold.1 }
      issued := s.issued ++ sold.2.toList }
  | .authenticate env connectionId ticket =>
    let tried := s.gateway.authenticate options env connectionId ticket
    { s with
      gateway := tried.1
      entered := s.entered ++ match tried.2 with
        | .admitted principal =>
          [⟨options.hashTicket ticket, connectionId, principal, s.gateway.now⟩]
        | _ => [] }
  | .openRoom roomId room => { s with gateway := s.gateway.setRoom roomId (some room) }
  | .dropRoom roomId => { s with gateway := s.gateway.setRoom roomId none }
  | .room roomId op => { s with gateway := changeRoom s.gateway roomId fun run => run.apply op }
  | .roomTick roomId inputs training publication =>
    { s with gateway := changeRoom s.gateway roomId fun run =>
        { run with host := (run.host.tick s.gateway.now inputs training publication).host } }

/-- The digest of a new ticket is new, and a room that is put up has lived like a room. -/
def Allowed (options : GatewayOptions) (s : GatewayRun K) : GatewayOp K → Prop
  | .issue ticket _ => options.hashTicket ticket ∉ s.issued.map HeldTicket.digest
  | .openRoom _ room => Lived room
  | _ => True

end GatewayRun
end SwitchRemake.Tickets

import SwitchRemake.Game.HostedRoom
import SwitchRemake.Simulation.Living

/-!
# The runs of a room

Everything that can happen to a match room on one server, in any order. Beside the state, a run
remembers what the claims about it talk of: who was locked in by the last start, and the ids of the
matches started so far.
-/

namespace SwitchRemake.Game
open Lib Simulation Rooms

variable {K : Type}

inductive HostOp (K : Type) where
  | reserveJoin (env : StartEnv K) (now : Int) (reservation : SeatReservation)
      (password : Option String)
  | canReserveResume (env : StartEnv K) (now : Int) (userId : ActorId)
  | admitReservation (env : StartEnv K) (now : Int) (reservation : SeatReservation)
  | bindConnection (now : Int) (connection : Connection)
  | disconnect (now : Int) (connection : Connection)
  | releaseSeat (now : Int) (userId : ActorId)
  | kick (now : Int) (requester : ActorId) (playerId : Nat)
  | forceKick (now : Int) (userId : ActorId)
  | passHost (requester : ActorId) (playerId : Nat)
  | setLocked (requester : ActorId) (locked : Bool)
  | setMap (now : Int) (requester : ActorId) (mapId : String)
  | setLoadout (userId : ActorId) (loadout : SkillId)
  | moveSlot (userId : ActorId) (slot : Nat)
  | requestStart (now : Int) (requester : ActorId) (gate : Room.StartGate)
  | grantMatchId (matchId : MatchId)
  | markEliminated (playerId : Nat)
  | setSpectating (userId : ActorId) (spectating : Bool)
  | finishGame (now : Int) (winnerIds : List Nat)
  | freezeForHandOff
  | cancelHandOff
  | requestFullSnapshot (playerId : Nat)
  | queueSkill (request : SkillRequest)
  | queueEmoji (request : EmojiRequest)
  | advance (env : StartEnv K) (now : Int)
  | tick (now : Int) (inputs : List (ResolvedInput K)) (publication : Option (Nat → Nat))
  | stored (serial : Nat)
  | close

namespace HostedRoom
variable [JsNumber K]

def apply (h : HostedRoom K) : HostOp K → HostedRoom K
  | .reserveJoin env now reservation password => (h.reserveJoin env now reservation password).1
  | .canReserveResume env now userId => (h.canReserveResume env now userId).1
  | .admitReservation env now reservation => (h.admitReservation env now reservation).1
  | .bindConnection now connection => (h.bindConnection now connection).1
  | .disconnect now connection => h.disconnect now connection
  | .releaseSeat now userId => (h.releaseSeat now userId).1
  | .kick now requester playerId => (h.kick now requester playerId).1
  | .forceKick now userId => (h.forceKick now userId).1
  | .passHost requester playerId => h.mapRoom fun room => (room.passHost requester playerId).1
  | .setLocked requester locked => h.mapRoom fun room => (room.setLocked requester locked).1
  | .setMap now requester mapId => h.mapRoom fun room => (room.setMap now requester mapId).1
  | .setLoadout userId loadout => h.mapRoom fun room => (room.setLoadout userId loadout).1
  | .moveSlot userId slot => h.mapRoom fun room => (room.moveSlot userId slot).1
  | .requestStart now requester gate =>
    h.mapRoom fun room => (room.requestStart now requester gate).1
  | .grantMatchId matchId => h.mapRoom fun room => room.grantMatchId matchId
  | .markEliminated playerId => h.mapRoom fun room => room.markEliminated playerId
  | .setSpectating userId spectating =>
    h.mapRoom fun room => (room.setSpectating userId spectating).1
  | .finishGame now winnerIds =>
    h.mapRoom fun room => ((room.finishGame now winnerIds).map Prod.fst).getD room
  | .freezeForHandOff => h.mapRoom fun room => room.freezeForHandOff.1
  | .cancelHandOff => h.mapRoom Room.cancelHandOff
  | .requestFullSnapshot playerId => h.requestFullSnapshot playerId
  | .queueSkill request => h.mapGame fun game => (game.queueSkill request).1
  | .queueEmoji request => h.mapGame fun game => (game.queueEmoji request).1
  | .advance env now => h.advance env now
  | .tick now inputs publication => (h.tick now inputs noTraining publication).host
  | .stored serial => h.stored serial
  | .close => h.close

omit [JsNumber K] in
/-- No player of this slot is alive in the match that is on here. -/
def OutOfMatch (h : HostedRoom K) (playerId : Nat) : Prop :=
  ∀ s, h.session = some s → s.game.finished = false → DistinctIds s.game.world.players →
    playerId ∉ living s.game.world

omit [JsNumber K] in
/-- Only the game marks anybody as eliminated, and only whoever it has just eliminated. -/
def Allows (h : HostedRoom K) : HostOp K → Prop
  | .markEliminated playerId => h.OutOfMatch playerId
  | _ => True

end HostedRoom

/-- A participant as the last start found it. -/
structure Starter where
  userId : ActorId
  playerId : Nat
  joinedOrder : Nat
  deriving DecidableEq

def Starter.of (m : LobbyMember) : Starter := ⟨m.userId, m.playerId, m.joinedOrder⟩

structure HostRun (K : Type) where
  host : HostedRoom K
  starters : List Starter
  /-- Everybody who has joined since the last start has at least this number. -/
  startOrder : Nat
  games : List MatchId

namespace HostRun

def start (host : HostedRoom K) : HostRun K := ⟨host, [], 0, []⟩

variable [JsNumber K]

def apply (r : HostRun K) (op : HostOp K) : HostRun K :=
  let host := r.host.apply op
  match op with
  | .requestStart now requester gate =>
    if (r.host.room.requestStart now requester gate).2 = none then
      { host
        starters := r.host.room.participants.map Starter.of
        startOrder := r.host.room.roster.joinOrder
        games := r.games ++ [host.room.matchId] }
    else { r with host }
  | _ => { r with host }

omit [JsNumber K] in
def Allows (r : HostRun K) (op : HostOp K) : Prop := r.host.Allows op

end HostRun
end SwitchRemake.Game

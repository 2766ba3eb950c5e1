import SwitchRemake.Rooms.Room

/-!
# What a room tells its members

The messages `rooms/room.ts` sends while a match runs. A message goes to a member with a socket, and
what the member may see of the match is noted beside it.
-/

namespace SwitchRemake.Rooms
open Lib Simulation

variable {K : Type}

inductive RoomMessage (K : Type) where
  | skillRejected (slot : Nat) (reason : SkillRejection)
  | eliminated (playerId source : Nat)
  | spectateChanged (playerId : Nat) (spectating : Bool)
  /-- `lobby.state`, which is read off the room. -/
  | lobbyState (selfId : Nat) (now : Int) (room : Room)
  | tagged (playerId source : Nat)
  | blinked (playerId : Nat) (fromX fromY : K)
  | skillArea (area : SkillArea K)
  | gameEnded (matchId : MatchId) (winnerIds : List Nat) (returnsAt : Int)

/-- One call of `sendJson`. -/
structure Sent (K : Type) where
  member : LobbyMember
  access : SnapshotAccess
  message : RoomMessage K

namespace Room

def sendJson (r : Room) (message : LobbyMember → RoomMessage K) (receives : LobbyMember → Bool) :
    List (Sent K) :=
  (r.members.filter fun m => m.connection.isSome && receives m).map fun m =>
    ⟨m, r.snapshotAccess m.userId, message m⟩

def broadcastCurrentGame (r : Room) (message : RoomMessage K) : List (Sent K) :=
  r.sendJson (fun _ => message) LobbyMember.inCurrentGame

/-- Whoever plays gets it if it sees the source, and the source always does. -/
def viewerReceives (r : Room) (sourcePlayerId : Nat) (canSee : Nat → Bool) (m : LobbyMember) :
    Bool :=
  match r.snapshotAccess m.userId with
  | .none => false
  | .unfiltered => true
  | .filtered => m.playerId = sourcePlayerId || canSee m.playerId

def broadcastToViewers (r : Room) (message : RoomMessage K) (sourcePlayerId : Nat)
    (canSee : Nat → Bool) : List (Sent K) :=
  r.sendJson (fun _ => message) (r.viewerReceives sourcePlayerId canSee)

def broadcastTagged (r : Room) (playerId : Nat) (source : Option Nat) : List (Sent K) :=
  r.broadcastCurrentGame (.tagged playerId (source.getD playerId))

def broadcastBlinked (r : Room) (playerId : Nat) (fromX fromY : K) (canSee : Nat → Bool) :
    List (Sent K) :=
  r.broadcastToViewers (.blinked playerId fromX fromY) playerId canSee

def broadcastSkillArea (r : Room) (area : SkillArea K) (canSee : Nat → Bool) : List (Sent K) :=
  r.broadcastToViewers (.skillArea area) area.playerId canSee

def sendSkillRejected (r : Room) (rejection : Rejection) : List (Sent K) :=
  match r.roster.getByPlayerId rejection.playerId with
  | none => []
  | some member =>
    if member.connection = none then []
    else [⟨member, r.snapshotAccess member.userId, .skillRejected rejection.slot rejection.reason⟩]

def broadcastLobbyState (r : Room) (now : Int) : List (Sent K) :=
  if r.state = .closed ∨ r.roster.hostId = none then []
  else r.sendJson (fun m => .lobbyState m.playerId now r) fun _ => true

/-- What `markEliminated` sends, once the member is marked. -/
def eliminationMessages (r : Room) (now : Int) (playerId source : Nat) : List (Sent K) :=
  if r.state ≠ .playing then []
  else match r.roster.getByPlayerId playerId with
    | none => []
    | some member =>
      if ¬ member.inCurrentGame ∨ member.spectatorEligible then []
      else
        let marked := r.markEliminatedMember member.userId
        marked.broadcastCurrentGame (.eliminated member.playerId source) ++
          marked.broadcastCurrentGame (.spectateChanged member.playerId true) ++
          marked.broadcastLobbyState now

/-- What `finishGame` sends. -/
def finishMessages (r : Room) (now : Int) (winnerIds : List Nat) : List (Sent K) :=
  match r.finishGame now winnerIds with
  | some (ended, true) =>
    ended.broadcastCurrentGame
      (.gameEnded r.matchId (sortById (fun winner => winner) winnerIds) (now + r.options.timing.postGameMs))
  | _ => []

end Room
end SwitchRemake.Rooms

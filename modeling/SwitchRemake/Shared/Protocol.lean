/-!
# Names the processes share

`shared/protocol/events.ts` and `shared/control/commands.ts`.
-/

namespace SwitchRemake

/-- An account has a number, a guest a string. -/
inductive ActorId where
  | account (id : Nat)
  | guest (id : String)
  deriving DecidableEq, Repr

def isGuestActor : ActorId → Bool
  | .account _ => false
  | .guest _ => true

inductive RoomState where
  | allocating | waiting | countdown | playing | postGame | closed
  deriving DecidableEq, Repr

inductive RoomMode where
  | «match» | training
  deriving DecidableEq, Repr

inductive PlayerRole where
  | player | waiting | spectator
  deriving DecidableEq, Repr

inductive SnapshotAccess where
  | none | filtered | unfiltered
  deriving DecidableEq, Repr

abbrev MatchId := String

/-- Why a command of the matching server is refused. -/
inductive ControlErrorCode where
  | serverDraining | serverFull | invalidMap | roomNotFound | roomFull | roomLocked | badPassword
  | alreadyInRoom | kickedFromRoom | rejoinCooldown | noGraceSlot | expired | internal
  deriving DecidableEq, Repr

/-- Why a request of a client is refused, as far as a room refuses it. -/
inductive ErrorCode where
  | badState | notHost | serverDraining | startLocked | resultBacklog | invalidPayload
  | spectateDenied | kicked
  deriving DecidableEq, Repr

end SwitchRemake

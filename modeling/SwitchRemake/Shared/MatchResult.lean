import SwitchRemake.Shared.Protocol

/-!
# The result of a match

`shared/control/results.ts`: what a game server reports once a match is over.
-/

namespace SwitchRemake

def matchResultVersion : Nat := 1
def protocolVersion : Nat := 2
def visibilityCoreVersion : Nat := 1

structure MatchParticipantResult where
  userId : Option Nat
  playerId : Nat
  nickname : String
  colorIndex : Nat
  isGuest : Bool
  tagCount : Nat
  taggedCount : Nat
  switchTry : Nat
  switchSuccess : Nat
  survivedMs : Int
  deriving DecidableEq

structure ReplayHandleInfo where
  storageKey : String
  formatVersion : Nat
  chunkCount : Nat
  sizeBytes : Nat
  rootHash : String
  deriving DecidableEq

structure MatchResultMessage where
  v : Nat
  matchId : MatchId
  roomId : String
  serverId : String
  mapId : String
  startedAt : Int
  endedAt : Int
  durationTicks : Nat
  buildId : String
  protocolVersion : Nat
  rulesVersion : String
  mapBundleHash : String
  visibilityCoreVersion : Nat
  winnerPlayerIds : List Nat
  replay : Option ReplayHandleInfo
  players : List MatchParticipantResult
  deriving DecidableEq

def statsEligible (players : List MatchParticipantResult) : List MatchParticipantResult :=
  players.filter fun p => p.userId.isSome && !p.isGuest

/-- `new Map(...)` keeps the last row of a slot. -/
def winnerUserIds (result : MatchResultMessage) : List Nat :=
  result.winnerPlayerIds.filterMap fun id =>
    (result.players.reverse.find? fun p => p.playerId = id).bind MatchParticipantResult.userId

end SwitchRemake

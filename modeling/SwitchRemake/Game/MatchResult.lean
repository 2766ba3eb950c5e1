import SwitchRemake.Game.GameSession
import SwitchRemake.Shared.MatchResult

/-!
# What a session reports

`#buildResult` of `game/game-session.ts`.
-/

namespace SwitchRemake.Game.GameSession
open Lib Simulation

variable {K : Type} [JsNumber K]

/-- The stamps a session is given when it starts, and the rules it runs. -/
structure Meta where
  serverId : String
  buildId : String
  mapId : String
  mapBundleHash : String
  rulesVersion : String

omit [JsNumber K] in
def identityOf (s : GameSession K) (playerId : Nat) : Option Participant :=
  s.identities.find? fun p => p.playerId = playerId

def survivedMs (s : GameSession K) (player : PlayerState K) : Int :=
  let msPerTick : K := JsNumber.ofRat 1000 / JsNumber.ofInt s.world.simulationHz
  let endTick := player.stats.eliminatedAtTick.getD s.world.tick
  JsNumber.round (JsNumber.ofInt endTick * msPerTick)

/-- Only participants of the start have a row. A guest has no account behind it. -/
def participantResult (s : GameSession K) (player : PlayerState K) : Option MatchParticipantResult :=
  (s.identityOf player.playerId).map fun identity =>
    { userId := match identity.guest, identity.userId with
        | false, .account id => some id
        | _, _ => none
      playerId := player.playerId
      nickname := identity.nickname
      colorIndex := player.colorIndex
      isGuest := identity.guest
      tagCount := player.stats.tagCount
      taggedCount := player.stats.taggedCount
      switchTry := player.stats.switchTry
      switchSuccess := player.stats.switchSuccess
      survivedMs := s.survivedMs player }

def buildResult (s : GameSession K) (info : Meta) (startedAt endedAt : Int) (winners : List Nat)
    (replay : Option ReplayHandleInfo) : MatchResultMessage :=
  { v := matchResultVersion
    matchId := s.matchId
    roomId := s.id
    serverId := info.serverId
    mapId := info.mapId
    startedAt, endedAt
    durationTicks := s.world.tick
    buildId := info.buildId
    protocolVersion := SwitchRemake.protocolVersion
    rulesVersion := info.rulesVersion
    mapBundleHash := info.mapBundleHash
    visibilityCoreVersion := SwitchRemake.visibilityCoreVersion
    winnerPlayerIds := winners
    replay
    players := s.world.players.filterMap s.participantResult }

end SwitchRemake.Game.GameSession

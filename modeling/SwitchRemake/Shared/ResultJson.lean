import SwitchRemake.Lib.JsonRoundTrip
import SwitchRemake.Shared.MatchResult

/-!
# A result as text

The messages of `shared/control/results.ts` the way `JSON.stringify` meets their fields.
-/

namespace SwitchRemake
open Lib

variable {K : Type} [JsNumber K]

def whole (n : Int) : Json K := .num (JsNumber.ofInt n)

def orNull {α : Type} (toJson : α → Json K) : Option α → Json K
  | none => .null
  | some x => toJson x

def MatchParticipantResult.toJson (p : MatchParticipantResult) : Json K := .obj [
  ("userId", orNull (fun id : Nat => whole id) p.userId),
  ("playerId", whole p.playerId),
  ("nickname", .str p.nickname),
  ("colorIndex", whole p.colorIndex),
  ("isGuest", .bool p.isGuest),
  ("tagCount", whole p.tagCount),
  ("taggedCount", whole p.taggedCount),
  ("switchTry", whole p.switchTry),
  ("switchSuccess", whole p.switchSuccess),
  ("survivedMs", whole p.survivedMs)]

def ReplayHandleInfo.toJson (replay : ReplayHandleInfo) : Json K := .obj [
  ("storageKey", .str replay.storageKey),
  ("formatVersion", whole replay.formatVersion),
  ("chunkCount", whole replay.chunkCount),
  ("sizeBytes", whole replay.sizeBytes),
  ("rootHash", .str replay.rootHash)]

def MatchResultMessage.toJson (result : MatchResultMessage) : Json K := .obj [
  ("v", whole result.v),
  ("matchId", .str result.matchId),
  ("roomId", .str result.roomId),
  ("serverId", .str result.serverId),
  ("mapId", .str result.mapId),
  ("startedAt", whole result.startedAt),
  ("endedAt", whole result.endedAt),
  ("durationTicks", whole result.durationTicks),
  ("buildId", .str result.buildId),
  ("protocolVersion", whole result.protocolVersion),
  ("rulesVersion", .str result.rulesVersion),
  ("mapBundleHash", .str result.mapBundleHash),
  ("visibilityCoreVersion", whole result.visibilityCoreVersion),
  ("winnerPlayerIds", .arr (result.winnerPlayerIds.map fun id => whole id)),
  ("replay", orNull ReplayHandleInfo.toJson result.replay),
  ("players", .arr (result.players.map MatchParticipantResult.toJson))]

end SwitchRemake

import SwitchRemake.Lib.Json
import SwitchRemake.Rooms.LobbyState
import SwitchRemake.Shared.MatchResult

/-!
# Reading a result

`server-match/results/result.codec.ts`.
-/

namespace SwitchRemake.Matching
open Lib

def sanityMaxPlayers : Nat := 8
def sanityMaxDurationMs : Nat := 60 * 60 * 1000
def sanityMaxTagsPerPlayer : Nat := 1000
def survivedMsClockSkewToleranceMs : Nat := 2000

/-- `text.length` counts UTF-16 units. -/
def textLength (text : String) : Nat :=
  (text.toList.map fun c => if c.toNat < 0x10000 then 1 else 2).sum

def isHexDigit (c : Char) : Bool := (Json.hexValue c).isSome

/-- The UUIDs of version 4, with capital letters or without. -/
def isUuid (text : String) : Bool :=
  match text.splitOn "-" with
  | [a, b, c, d, e] =>
    [a, b, c, d, e].map String.length = [8, 4, 4, 4, 12] &&
      (a ++ b ++ c ++ d ++ e).toList.all isHexDigit && c.toList.head? = some '4' &&
      d.toList.head?.any fun first => "89abAB".toList.contains first
  | _ => false

def isSha256 (text : String) : Bool :=
  text.length = 64 && text.toList.all fun c => '0' ≤ c ∧ c ≤ '9' ∨ 'a' ≤ c ∧ c ≤ 'f'

section
variable {K : Type} [JsNumber K]

def wholeNumber : Json K → Option Int
  | .num n => if JsNumber.ofInt (JsNumber.floor n) = n then some (JsNumber.floor n) else none
  | _ => none

def nonNegativeInteger (j : Json K) : Option Nat := do
  let n ← wholeNumber j
  if 0 ≤ n ∧ n ≤ 9007199254740991 then some n.toNat else none

def positiveInteger (j : Json K) : Option Nat := (nonNegativeInteger j).filter fun n => 0 < n

omit [JsNumber K] in
def text : Json K → Option String
  | .str s => some s
  | _ => none

omit [JsNumber K] in
def shortString (j : Json K) : Option String :=
  (text j).filter fun s => 0 < textLength s && textLength s ≤ 255

omit [JsNumber K] in
def list : Json K → Option (List (Json K))
  | .arr items => some items
  | _ => none

def truthy : Json K → Bool
  | .null => false
  | .bool b => b
  | .num n => n ≠ 0
  | .str s => s ≠ ""
  | _ => true

omit [JsNumber K] in
def field (value : Json K) (name : String) {α : Type} (read : Json K → Option α) : Option α :=
  (value.member? name).bind read

/-- A guest has no account, which only `isGuest: true` claims. Later code asks whether it is truthy. -/
def userIdOf (value : Json K) : Option (Option Nat) :=
  match value.member? "isGuest", value.member? "userId" with
  | some (.bool true), some .null => some none
  | some (.bool true), _ => none
  | _, some userId => ((wholeNumber userId).filter fun n => 0 < n).map fun n => some n.toNat
  | _, none => none

def isParticipant (value : Json K) : Option MatchParticipantResult := do
  let userId ← userIdOf value
  let playerId ← field value "playerId" positiveInteger
  guard (playerId ≤ Rooms.maxPlayersPerRoom)
  let nickname ← field value "nickname" text
  guard (0 < textLength nickname ∧ textLength nickname ≤ 20)
  let colorIndex ← field value "colorIndex" nonNegativeInteger
  guard (colorIndex < sanityMaxPlayers)
  let tagCount ← field value "tagCount" nonNegativeInteger
  guard (tagCount ≤ sanityMaxTagsPerPlayer)
  let taggedCount ← field value "taggedCount" nonNegativeInteger
  guard (taggedCount ≤ sanityMaxTagsPerPlayer)
  let switchTry ← field value "switchTry" nonNegativeInteger
  let switchSuccess ← field value "switchSuccess" nonNegativeInteger
  guard (switchSuccess ≤ switchTry)
  let survivedMs ← field value "survivedMs" nonNegativeInteger
  guard (survivedMs ≤ sanityMaxDurationMs)
  return { userId, playerId, nickname, colorIndex, tagCount, taggedCount, switchTry, switchSuccess
           isGuest := ((value.member? "isGuest").map truthy).getD false
           survivedMs := survivedMs }

def isReplay : Json K → Option (Option ReplayHandleInfo)
  | .null => some none
  | value => do
    let storageKey ← field value "storageKey" text
    guard (0 < textLength storageKey ∧ textLength storageKey ≤ 1024)
    let formatVersion ← field value "formatVersion" positiveInteger
    let chunkCount ← field value "chunkCount" positiveInteger
    let sizeBytes ← field value "sizeBytes" positiveInteger
    let rootHash ← field value "rootHash" text
    guard (isSha256 rootHash)
    return some { storageKey, formatVersion, chunkCount, sizeBytes, rootHash }

end

def accountIds (players : List MatchParticipantResult) : List Nat :=
  players.filterMap MatchParticipantResult.userId

/-- What the fields of a result have to do with each other. -/
structure Consistent (result : MatchResultMessage) : Prop where
  forward : result.startedAt ≤ result.endedAt
  bounded : result.endedAt - result.startedAt ≤ sanityMaxDurationMs
  inhabited : result.players ≠ []
  few : result.players.length ≤ sanityMaxPlayers
  fewWinners : result.winnerPlayerIds.length ≤ sanityMaxPlayers
  survived : ∀ player ∈ result.players, player.survivedMs ≤
    result.endedAt - result.startedAt + survivedMsClockSkewToleranceMs
  slots : (result.players.map MatchParticipantResult.playerId).Nodup
  winners : result.winnerPlayerIds.Nodup
  winnersPlay : ∀ id ∈ result.winnerPlayerIds,
    id ∈ result.players.map MatchParticipantResult.playerId
  accounts : (accountIds result.players).Nodup

instance (result : MatchResultMessage) : Decidable (Consistent result) :=
  decidable_of_iff
    (result.startedAt ≤ result.endedAt ∧
      result.endedAt - result.startedAt ≤ sanityMaxDurationMs ∧
      result.players ≠ [] ∧ result.players.length ≤ sanityMaxPlayers ∧
      result.winnerPlayerIds.length ≤ sanityMaxPlayers ∧
      (∀ player ∈ result.players, player.survivedMs ≤
        result.endedAt - result.startedAt + survivedMsClockSkewToleranceMs) ∧
      (result.players.map MatchParticipantResult.playerId).Nodup ∧
      result.winnerPlayerIds.Nodup ∧
      (∀ id ∈ result.winnerPlayerIds, id ∈ result.players.map MatchParticipantResult.playerId) ∧
      (accountIds result.players).Nodup)
    ⟨fun ⟨a, b, c, d, e, f, g, h, i, j⟩ => ⟨a, b, c, d, e, f, g, h, i, j⟩,
      fun ⟨a, b, c, d, e, f, g, h, i, j⟩ => ⟨a, b, c, d, e, f, g, h, i, j⟩⟩

section
variable {K : Type} [JsNumber K]

def matchResultFields (value : Json K) : Option MatchResultMessage := do
  let v ← field value "v" nonNegativeInteger
  guard (v = matchResultVersion)
  let matchId ← field value "matchId" text
  guard (isUuid matchId)
  let roomId ← field value "roomId" shortString
  let serverId ← field value "serverId" shortString
  let mapId ← field value "mapId" shortString
  let startedAt ← field value "startedAt" nonNegativeInteger
  let endedAt ← field value "endedAt" nonNegativeInteger
  let durationTicks ← field value "durationTicks" nonNegativeInteger
  let buildId ← field value "buildId" shortString
  let protocolVersion ← field value "protocolVersion" nonNegativeInteger
  let rulesVersion ← field value "rulesVersion" shortString
  let mapBundleHash ← field value "mapBundleHash" shortString
  let visibilityCoreVersion ← field value "visibilityCoreVersion" nonNegativeInteger
  let winnerPlayerIds ← (← field value "winnerPlayerIds" list).mapM nonNegativeInteger
  let replay ← field value "replay" isReplay
  let players ← (← field value "players" list).mapM isParticipant
  return { v, matchId, roomId, serverId, mapId, durationTicks, buildId, protocolVersion
           rulesVersion, mapBundleHash, visibilityCoreVersion, winnerPlayerIds, replay, players
           startedAt := startedAt
           endedAt := endedAt }

def isMatchResult (value : Json K) : Option MatchResultMessage :=
  (matchResultFields value).filter fun result => Consistent result

def decodeMatchResult (K : Type) [JsNumber K] [JsonNumber K] (raw : String) :
    Except String MatchResultMessage :=
  match (Json.parse raw : Option (Json K)) with
  | none => .error "Result is not valid JSON"
  | some parsed =>
    match isMatchResult parsed with
    | none => .error "Result does not satisfy MatchResultMessage"
    | some result => .ok result

end

theorem consistent_of_decode {K : Type} [JsNumber K] [JsonNumber K] {raw : String}
    {result : MatchResultMessage} (decodes : decodeMatchResult K raw = .ok result) :
    Consistent result := by
  unfold decodeMatchResult at decodes
  split at decodes
  · cases decodes
  · split at decodes
    · cases decodes
    · rename_i reads
      cases decodes
      exact of_decide_eq_true (Option.filter_eq_some_iff.mp reads).2

end SwitchRemake.Matching

import SwitchRemake.Lib.KeyedList
import SwitchRemake.Lib.JsNumber
import SwitchRemake.Shared.MatchResult

/-!
# The tables of the matching server

`server-match/database/schema.ts`, as far as the results of matches go.
-/

namespace SwitchRemake.Matching
open Lib

def toLowerCase (text : String) : String := String.ofList (text.toList.map Char.toLower)

/-- What a `uuid` column holds of a text. It knows no capital letters. -/
def uuid (text : String) : MatchId := toLowerCase text

inductive AccountStatus where
  | active | banned | deleted
  deriving DecidableEq, Repr

/-- `users.stats`. A key that is absent counts as 0. -/
structure AccountStats where
  games : Int := 0
  wins : Int := 0
  swTry : Int := 0
  swSu : Int := 0
  kill : Int := 0
  survivedMs : Int := 0
  survivedGames : Int := 0
  xp : Int := 0
  deriving DecidableEq

structure UserRow where
  id : Nat
  accountStatus : AccountStatus
  stats : AccountStats
  deriving DecidableEq

structure MatchRow where
  matchId : MatchId
  roomId : Option String
  serverId : String
  mapId : String
  startedAt : Option Int
  endedAt : Option Int
  durationTicks : Option Nat
  buildId : Option String
  protocolVersion : Option Nat
  rulesVersion : Option String
  mapBundleHash : Option String
  visibilityCoreVersion : Option Nat
  createdAt : Int
  resultRecordedAt : Option Int
  deriving DecidableEq

structure AssignmentRow where
  matchId : MatchId
  actorId : String
  userId : Option Nat
  nickname : String
  isGuest : Bool
  deriving DecidableEq

def AssignmentRow.key (a : AssignmentRow) : MatchId × String := (a.matchId, a.actorId)

structure ParticipantRow where
  matchId : MatchId
  userId : Option Nat
  playerId : Nat
  nickname : String
  colorIndex : Nat
  isGuest : Bool
  isWinner : Bool
  tagCount : Nat
  taggedCount : Nat
  switchTry : Nat
  switchSuccess : Nat
  survivedMs : Int
  deriving DecidableEq

def ParticipantRow.key (p : ParticipantRow) : MatchId × Nat := (p.matchId, p.playerId)

/-- The checks of `match_participants`. -/
def ParticipantRow.checked (p : ParticipantRow) : Bool :=
  (!p.isGuest || p.userId.isNone) && 0 ≤ p.survivedMs && p.switchSuccess ≤ p.switchTry

structure ReplayRow where
  matchId : MatchId
  storageKey : String
  formatVersion : Nat
  chunkCount : Nat
  sizeBytes : Nat
  rootHash : String
  deriving DecidableEq

/-- The checks of `replays`. -/
def ReplayRow.checked (r : ReplayRow) : Bool :=
  r.rootHash.length = 64 && r.rootHash.toList.all (fun c => '0' ≤ c ∧ c ≤ '9' ∨ 'a' ≤ c ∧ c ≤ 'f') &&
    0 < r.formatVersion && 0 < r.chunkCount && 0 < r.sizeBytes

structure Database where
  users : KeyedList UserRow.id
  matchRows : KeyedList MatchRow.matchId
  matchAssignments : KeyedList AssignmentRow.key
  matchParticipants : KeyedList ParticipantRow.key
  replays : KeyedList ReplayRow.matchId

def emptyDatabase : Database := ⟨.empty, .empty, .empty, .empty, .empty⟩

end SwitchRemake.Matching

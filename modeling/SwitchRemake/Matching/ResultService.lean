import SwitchRemake.Shared.Progression
import SwitchRemake.Shared.ReplayFormat
import SwitchRemake.Matching.Database

/-!
# The result service

`server-match/results/result.service.ts`. A function that opens a transaction takes the tables as
the transaction finds them. It returns none where it throws, and then nothing is committed.
-/

namespace SwitchRemake.Matching
open Lib
open Protocol (Bytes)

structure AssignedActor where
  id : ActorId
  nickname : String
  guest : Bool
  deriving DecidableEq

inductive RecordResult where
  | stored | duplicate | invalid
  deriving DecidableEq

/-- The same id for every attempt: 16 bytes of the hash, marked as a version 4 UUID. -/
def nextMatchId (sha256 : Bytes → Bytes) (finishedMatchId : String) : String :=
  let text := "switch:next-match:v1:" ++ toLowerCase finishedMatchId
  let bytes := (sha256 (utf8 text)).take 16
  let bytes := bytes.modify 6 fun byte => (byte &&& 0x0f) ||| 0x40
  let bytes := bytes.modify 8 fun byte => (byte &&& 0x3f) ||| 0x80
  let hex := (Replay.toHex bytes).toList
  let slice (first last : Nat) : String := String.ofList ((hex.take last).drop first)
  slice 0 8 ++ "-" ++ slice 8 12 ++ "-" ++ slice 12 16 ++ "-" ++ slice 16 20 ++ "-" ++
    String.ofList (hex.drop 20)

structure AccountStatsDelta where
  userId : Nat
  won : Bool
  games : Int
  wins : Int
  switchTry : Int
  switchSuccess : Int
  tagCount : Int
  survivedMs : Int
  xp : Int
  deriving DecidableEq

section
variable (K : Type) [JsNumber K]

def accountStatsDelta (winningUsers : List Nat) (player : MatchParticipantResult) :
    Option AccountStatsDelta :=
  player.userId.map fun userId =>
    let won := winningUsers.contains userId
    { userId
      won
      games := 1
      wins := if won then 1 else 0
      switchTry := player.switchTry
      switchSuccess := player.switchSuccess
      tagCount := player.tagCount
      survivedMs := player.survivedMs
      xp := matchXp (K := K)
        { won
          tagCount := JsNumber.ofInt player.tagCount
          switchSuccess := JsNumber.ofInt player.switchSuccess
          survivedMs := some (JsNumber.ofInt player.survivedMs) } }

def accountStatsDeltas (result : MatchResultMessage) : List AccountStatsDelta :=
  (statsEligible result.players).filterMap (accountStatsDelta K (winnerUserIds result))

end

def linkedParticipantUserId (player : MatchParticipantResult) (activeUserIds : Nat → Bool) :
    Option Nat :=
  if player.isGuest then none else player.userId.filter activeUserIds

/-! ## Rows -/

/-- `String(actorId)`. -/
def actorText : ActorId → String
  | .account id => toString id
  | .guest id => id

def assignment (matchId : MatchId) (actor : AssignedActor) : AssignmentRow :=
  { matchId
    actorId := actorText actor.id
    userId := match actor.guest, actor.id with
      | false, .account id => some id
      | _, _ => none
    nickname := actor.nickname
    isGuest := actor.guest }

def issuedRow (matchId : MatchId) (serverId mapId : String) (roomId : Option String) (now : Int) :
    MatchRow :=
  { matchId, roomId, serverId, mapId
    startedAt := none
    endedAt := none
    durationTicks := none
    buildId := none
    protocolVersion := none
    rulesVersion := none
    mapBundleHash := none
    visibilityCoreVersion := none
    createdAt := now
    resultRecordedAt := none }

def MatchRow.unrecorded (row : MatchRow) : Bool := row.resultRecordedAt.isNone

def Database.assignmentsOf (db : Database) (matchId : MatchId) : List AssignmentRow :=
  db.matchAssignments.entries.filter fun a => a.matchId = matchId

def Database.isActive (db : Database) (userId : Nat) : Bool :=
  (db.users.get? userId).any fun user => user.accountStatus = .active

/-! ## Issuing -/

def issueMatch (matchId serverId mapId : String) (owner : AssignedActor) (now : Int)
    (db : Database) : Option Database := do
  let matchRows ← db.matchRows.insert? (issuedRow (uuid matchId) serverId mapId none now)
  let matchAssignments ← db.matchAssignments.insert? (assignment (uuid matchId) owner)
  return { db with matchRows, matchAssignments }

/-- It asks neither for a result nor for a room that the row has. -/
def confirmRoom (matchId roomId mapId : String) (db : Database) : Database :=
  { db with
    matchRows := db.matchRows.modify (uuid matchId)
      (fun row => { row with roomId := some roomId, mapId }) fun _ => rfl }

/-- The rows that refer to the match go with it. -/
def discardIssuedMatch (matchId : String) (db : Database) : Database :=
  if (db.matchRows.get? (uuid matchId)).any MatchRow.unrecorded then
    { db with
      matchRows := db.matchRows.delete (uuid matchId)
      matchAssignments := db.matchAssignments.filter fun a => a.matchId ≠ uuid matchId
      matchParticipants := db.matchParticipants.filter fun p => p.matchId ≠ uuid matchId
      replays := db.replays.delete (uuid matchId) }
  else db

def reassignPendingMatch (matchId roomId serverId : String) (db : Database) : Database :=
  { db with
    matchRows := db.matchRows.modify (uuid matchId)
      (fun row => if row.roomId = some roomId && row.unrecorded then { row with serverId } else row)
      fun _ => by split <;> rfl }

/-- A match without a result first, then the youngest. -/
def MatchRow.before (a b : MatchRow) : Bool :=
  if a.unrecorded = b.unrecorded then b.createdAt < a.createdAt else a.unrecorded

def currentMatch (roomId : String) (db : Database) : Option MatchRow :=
  (db.matchRows.entries.filter fun row => row.roomId = some roomId).foldl
    (fun best row => match best with
      | none => some row
      | some first => if row.before first then some row else some first) none

def addAssignmentByRoom (roomId : String) (actor : AssignedActor) (db : Database) :
    Option MatchId × Database :=
  match currentMatch roomId db with
  | none => (none, db)
  | some row => (some row.matchId,
    { db with matchAssignments := db.matchAssignments.insertNew (assignment row.matchId actor) })

/-- The id is one that `addAssignmentByRoom` read from the column. -/
def removeAssignment (matchId : MatchId) (actorId : ActorId) (db : Database) : Database :=
  { db with matchAssignments := db.matchAssignments.delete (matchId, actorText actorId) }

/-! ## Recording -/

/-- `new Map(...).get(userId)`: the last row of an account counts. -/
def accountAssignment (assignments : List AssignmentRow) (userId : Nat) : Option String :=
  ((assignments.filter fun item => !item.isGuest).reverse.find? fun item =>
    item.userId = some userId).map AssignmentRow.nickname

def guestNames (assignments : List AssignmentRow) (nickname : String) : Nat :=
  (assignments.filter fun item => item.isGuest && item.nickname = nickname).length

/-- Each guest takes one guest row of that name. -/
def assignedParticipants (accounts : Nat → Option String) :
    (String → Nat) → List MatchParticipantResult → Bool
  | _, [] => true
  | guests, player :: rest =>
    if player.isGuest then
      if guests player.nickname = 0 then false
      else assignedParticipants accounts
        (Function.update guests player.nickname (guests player.nickname - 1)) rest
    else match player.userId with
      | none => false
      | some userId =>
        if accounts userId ≠ some player.nickname then false
        else assignedParticipants accounts guests rest

def isAssignedParticipantSubset (result : MatchResultMessage) (assignments : List AssignmentRow) :
    Bool :=
  assignedParticipants (accountAssignment assignments) (guestNames assignments) result.players

def recordedRow (result : MatchResultMessage) (committedAt : Int) (row : MatchRow) : MatchRow :=
  { row with
    roomId := some result.roomId
    mapId := result.mapId
    startedAt := some result.startedAt
    endedAt := some result.endedAt
    durationTicks := some result.durationTicks
    buildId := some result.buildId
    protocolVersion := some result.protocolVersion
    rulesVersion := some result.rulesVersion
    mapBundleHash := some result.mapBundleHash
    visibilityCoreVersion := some result.visibilityCoreVersion
    resultRecordedAt := some committedAt }

theorem recordedRow_matchId (result : MatchResultMessage) (committedAt : Int) (row : MatchRow) :
    (recordedRow result committedAt row).matchId = row.matchId := rfl

def participantRow (result : MatchResultMessage) (activeUserIds : Nat → Bool)
    (player : MatchParticipantResult) : ParticipantRow :=
  { matchId := uuid result.matchId
    userId := linkedParticipantUserId player activeUserIds
    playerId := player.playerId
    nickname := player.nickname
    colorIndex := player.colorIndex
    isGuest := player.isGuest
    isWinner := result.winnerPlayerIds.contains player.playerId
    tagCount := player.tagCount
    taggedCount := player.taggedCount
    switchTry := player.switchTry
    switchSuccess := player.switchSuccess
    survivedMs := player.survivedMs }

def replayRow (result : MatchResultMessage) (replay : ReplayHandleInfo) : ReplayRow :=
  { matchId := uuid result.matchId
    storageKey := replay.storageKey
    formatVersion := replay.formatVersion
    chunkCount := replay.chunkCount
    sizeBytes := replay.sizeBytes
    rootHash := replay.rootHash }

def AccountStats.add (stats : AccountStats) (delta : AccountStatsDelta) : AccountStats :=
  { games := stats.games + delta.games
    wins := stats.wins + delta.wins
    swTry := stats.swTry + delta.switchTry
    swSu := stats.swSu + delta.switchSuccess
    kill := stats.kill + delta.tagCount
    survivedMs := stats.survivedMs + delta.survivedMs
    survivedGames := stats.survivedGames + 1
    xp := stats.xp + delta.xp }

/-- One `UPDATE users`. Only an active account is counted for. -/
def addStats (users : KeyedList UserRow.id) (delta : AccountStatsDelta) : KeyedList UserRow.id :=
  users.modify delta.userId
    (fun user => if user.accountStatus = .active then { user with stats := user.stats.add delta }
      else user)
    fun _ => by split <;> rfl

def insertChecked {α κ : Type} {key : α → κ} [DecidableEq κ] (rows : KeyedList key)
    (checked : α → Bool) (news : List α) : Option (KeyedList key) :=
  if news.all checked then rows.insertAll? news else none

section
variable (K : Type) [JsNumber K]

def writeResult (result : MatchResultMessage) (committedAt : Int) (db : Database) :
    Option Database := do
  let matchParticipants ← insertChecked db.matchParticipants ParticipantRow.checked
    (result.players.map (participantRow result db.isActive))
  let replays ← insertChecked db.replays ReplayRow.checked
    (result.replay.toList.map (replayRow result))
  return {
    users := (accountStatsDeltas K result).foldl addStats db.users
    matchRows := db.matchRows.modify (uuid result.matchId) (recordedRow result committedAt)
      (recordedRow_matchId result committedAt)
    matchAssignments := db.matchAssignments
    matchParticipants
    replays }

/-- The row of the match is locked, so the update that asks again whether it has a result hits it. -/
def record (result : MatchResultMessage) (now : Int) (db : Database) :
    Option (RecordResult × Database) :=
  match db.matchRows.get? (uuid result.matchId) with
  | none => some (.invalid, db)
  | some row =>
    if row.resultRecordedAt.isSome then some (.duplicate, db)
    else if (row.roomId.isSome && row.roomId ≠ some result.roomId) || row.serverId ≠ result.serverId then
      some (.invalid, db)
    else if !isAssignedParticipantSubset result (db.assignmentsOf (uuid result.matchId)) then
      some (.invalid, db)
    else (writeResult K result now db).map fun db => (.stored, db)

end

/-! ## The next match -/

def issueNextMatch (sha256 : Bytes → Bytes) (finished : MatchResultMessage) (ownerServerId : String)
    (now : Int) (db : Database) : Option (Option String × Database) :=
  match db.matchRows.get? (uuid finished.matchId) with
  | none => some (none, db)
  | some source =>
    if source.unrecorded || source.roomId ≠ some finished.roomId ||
        source.serverId ≠ finished.serverId then
      some (none, db)
    else
      let matchId := nextMatchId sha256 finished.matchId
      match db.matchRows.get? (uuid matchId) with
      | some existing =>
        if !existing.unrecorded || existing.roomId ≠ source.roomId then some (none, db)
        else some (some matchId, db)
      | none =>
        let assignments := db.assignmentsOf (uuid finished.matchId)
        if assignments.isEmpty then some (none, db)
        else do
          let matchRows ← db.matchRows.insert?
            (issuedRow (uuid matchId) ownerServerId source.mapId (some finished.roomId) now)
          let matchAssignments ← db.matchAssignments.insertAll?
            (assignments.map fun a => { a with matchId := uuid matchId })
          return (some matchId, { db with matchRows, matchAssignments })

end SwitchRemake.Matching

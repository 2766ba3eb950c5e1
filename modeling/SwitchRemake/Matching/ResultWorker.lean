import SwitchRemake.Lib.Runs
import SwitchRemake.Matching.ResultLaws

/-!
# The result worker

`server-match/results/result.worker.ts`. A delivery of an entry is a task, and each call of
`processEntry` that leaves the process is a step of it. Any number of tasks of any workers run side by
side. A task that crashes or whose call throws is gone; its entry stays on the stream and can be
delivered again.
-/

namespace SwitchRemake.Matching
open Lib
open Protocol (Bytes)

def grantDeadlineMs : Int := 15000

structure GrantMatchPayload where
  roomId : String
  matchId : String
  deriving DecidableEq

structure GrantMatchCommand where
  requestId : String
  issuedAt : Int
  deadlineAt : Int
  payload : GrantMatchPayload
  deriving DecidableEq

inductive Task where
  | received (raw : Option String)
  | decoded (result : MatchResultMessage)
  | recorded (result : MatchResultMessage)
  | owned (result : MatchResultMessage) (ownerServerId : String)
  | issued (result : MatchResultMessage) (ownerServerId matchId : String)
  | reassigned (result : MatchResultMessage) (ownerServerId matchId : String)
  | granted (result : MatchResultMessage)
  | processed

structure Delivery where
  entryId : String
  task : Task

/-- The last two fields keep what has happened: the results that were stored, and the additions to
accounts with the match each was for. -/
structure MatchServer where
  db : Database
  deliveries : List Delivery
  commands : List (String × GrantMatchCommand)
  receipts : List MatchId
  acknowledged : List String
  stored : List MatchResultMessage
  counted : List (MatchId × AccountStatsDelta)

def MatchServer.start (db : Database) : MatchServer := ⟨db, [], [], [], [], [], []⟩

/-- `/^[A-Za-z0-9_-]{1,128}$/u`. -/
def isServerId (text : String) : Bool :=
  1 ≤ text.length && text.length ≤ 128 && text.toList.all fun c => c.isAlphanum || c = '_' || c = '-'

/-- The server of the directory entry, or the one that reported where there is no sound entry. -/
def ownerServerId (K : Type) [JsonNumber K] (result : MatchResultMessage)
    (rawRoom : Option String) : String :=
  match rawRoom.bind fun raw => (Json.parse raw : Option (Json K)) with
  | none => result.serverId
  | some directory =>
    match directory.member? "roomId", directory.member? "serverId" with
    | some (.str roomId), some (.str serverId) =>
      if roomId = result.roomId && isServerId serverId then serverId else result.serverId
    | _, _ => result.serverId

/-- What a step finds outside: the clock, a new id and the directory entry of the room. -/
structure Surroundings where
  now : Int
  requestId : String
  rawRoom : Option String

section
variable (K : Type) [JsNumber K] [JsonNumber K] (sha256 : Bytes → Bytes)

/-- One step of `processEntry`: what it leaves behind, and where the delivery stands then. -/
def processEntry (env : Surroundings) (entryId : String) (m : MatchServer) :
    Task → MatchServer × Option Task
  | .received none => (m, some .processed)
  | .received (some raw) =>
    match decodeMatchResult K raw with
    | .error _ => (m, some .processed)
    | .ok result => (m, some (.decoded result))
  | .decoded result =>
    match record K result env.now m.db with
    | none => (m, none)
    | some (.invalid, db) => ({ m with db }, some .processed)
    | some (.duplicate, db) => ({ m with db }, some (.recorded result))
    | some (.stored, db) =>
      ({ m with
        db
        stored := m.stored ++ [result]
        counted := m.counted ++
          (countedDeltas K result m.db).map fun delta => (uuid result.matchId, delta) },
        some (.recorded result))
  | .recorded result => (m, some (.owned result (ownerServerId K result env.rawRoom)))
  | .owned result owner =>
    match issueNextMatch sha256 result owner env.now m.db with
    | none => (m, none)
    | some (none, db) => ({ m with db }, some (.granted result))
    | some (some matchId, db) => ({ m with db }, some (.issued result owner matchId))
  | .issued result owner matchId =>
    ({ m with db := reassignPendingMatch matchId result.roomId owner m.db },
      some (.reassigned result owner matchId))
  | .reassigned result owner matchId =>
    ({ m with commands := m.commands ++ [(owner,
        { requestId := env.requestId, issuedAt := env.now, deadlineAt := env.now + grantDeadlineMs
          payload := { roomId := result.roomId, matchId } })] },
      some (.granted result))
  | .granted result => ({ m with receipts := m.receipts ++ [result.matchId] }, some .processed)
  | .processed => ({ m with acknowledged := m.acknowledged ++ [entryId] }, none)

/-- The other transactions on these tables, and the deliveries. -/
inductive MatchingEvent where
  | deliver (entryId : String) (raw : Option String)
  | proceed (index : Nat) (env : Surroundings)
  | lose (index : Nat)
  | issueMatch (matchId serverId mapId : String) (owner : AssignedActor) (now : Int)
  | confirmRoom (matchId roomId mapId : String)
  | discardIssuedMatch (matchId : String)
  | reassignPendingMatch (matchId roomId serverId : String)
  | addAssignmentByRoom (roomId : String) (actor : AssignedActor)
  | removeAssignment (matchId : String) (actorId : ActorId)
  | register (userId : Nat)
  | setAccountStatus (userId : Nat) (status : AccountStatus)

/-- A deleted account stays deleted, and its statistics are gone. -/
def UserRow.withStatus (status : AccountStatus) (user : UserRow) : UserRow :=
  if user.accountStatus = .deleted then user
  else if status = .deleted then { user with accountStatus := .deleted, stats := {} }
  else { user with accountStatus := status }

theorem UserRow.withStatus_id (status : AccountStatus) (user : UserRow) :
    (user.withStatus status).id = user.id := by
  unfold withStatus
  split
  · rfl
  · split <;> rfl

def setAccountStatus (userId : Nat) (status : AccountStatus) (db : Database) : Database :=
  { db with
    users := db.users.modify userId (UserRow.withStatus status) (UserRow.withStatus_id status) }

def register (userId : Nat) (db : Database) : Database :=
  { db with users := db.users.insertNew { id := userId, accountStatus := .active, stats := {} } }

def MatchServer.apply (m : MatchServer) : MatchingEvent → MatchServer
  | .deliver entryId raw => { m with deliveries := m.deliveries ++ [⟨entryId, .received raw⟩] }
  | .proceed index env =>
    match m.deliveries[index]? with
    | none => m
    | some ⟨entryId, task⟩ =>
      let (after, next) := processEntry K sha256 env entryId m task
      { after with
        deliveries := match next with
          | some task => m.deliveries.set index ⟨entryId, task⟩
          | none => m.deliveries.eraseIdx index }
  | .lose index => { m with deliveries := m.deliveries.eraseIdx index }
  | .issueMatch matchId serverId mapId owner now =>
    { m with db := (issueMatch matchId serverId mapId owner now m.db).getD m.db }
  | .confirmRoom matchId roomId mapId => { m with db := confirmRoom matchId roomId mapId m.db }
  | .discardIssuedMatch matchId => { m with db := discardIssuedMatch matchId m.db }
  | .reassignPendingMatch matchId roomId serverId =>
    { m with db := reassignPendingMatch matchId roomId serverId m.db }
  | .addAssignmentByRoom roomId actor => { m with db := (addAssignmentByRoom roomId actor m.db).2 }
  | .removeAssignment matchId actorId => { m with db := removeAssignment matchId actorId m.db }
  | .register userId => { m with db := register userId m.db }
  | .setAccountStatus userId status => { m with db := setAccountStatus userId status m.db }

theorem MatchServer.apply_proceed {m : MatchServer} {index : Nat} {env : Surroundings} {entryId : String}
    {task : Task} (here : m.deliveries[index]? = some ⟨entryId, task⟩) :
    m.apply K sha256 (.proceed index env) =
      { (processEntry K sha256 env entryId m task).1 with
        deliveries := match (processEntry K sha256 env entryId m task).2 with
          | some task => m.deliveries.set index ⟨entryId, task⟩
          | none => m.deliveries.eraseIdx index } := by
  unfold MatchServer.apply
  simp only [here]

end
end SwitchRemake.Matching

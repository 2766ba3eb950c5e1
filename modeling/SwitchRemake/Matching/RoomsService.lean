import SwitchRemake.Matching.ResultLaws

/-!
# Joining a room

`join` and `quickJoin` of `server-match/rooms/rooms.service.ts`. What the calls to Redis and to the
game server come to is given; what the attempt does to the tables is computed.
-/

namespace SwitchRemake.Matching
open Lib

/-- What `claimActiveRoom` and, where the claim is held, `existingRoomResponse` come to. -/
inductive ClaimOutcome where
  | claimed | alreadyAssigned | failed
  deriving DecidableEq

/-- An answer to `RESERVE_JOIN`. -/
structure ReserveReply where
  ok : Bool
  payload : Bool
  code : Option ControlErrorCode
  deriving DecidableEq

def ReserveReply.grants (reply : ReserveReply) : Bool := reply.ok && reply.payload

/-- `admitted`: the account may play, and no rate limit, kick or cooldown stands against the attempt.
`reply` is none on a timeout. A flag that is false is a call that throws. -/
structure JoinCalls where
  admitted : Bool
  live : Bool
  claim : ClaimOutcome
  adds : Bool
  reply : Option ReserveReply
  releases : Bool
  removes : Bool
  assigns : Bool
  releasesLast : Bool
  removesLast : Bool
  deriving DecidableEq

inductive JoinOutcome where
  | granted | alreadyAssigned | failed
  deriving DecidableEq

/-- The `catch` block of `join`. -/
def joinCaught (calls : JoinCalls) (actor : AssignedActor) (assignedMatchId : Option MatchId)
    (db : Database) : JoinOutcome × Database :=
  match assignedMatchId with
  | none => (.failed, db)
  | some matchId =>
    if calls.releasesLast && calls.removesLast then (.failed, removeAssignment matchId actor.id db)
    else (.failed, db)

def join (calls : JoinCalls) (roomId : String) (actor : AssignedActor) (db : Database) :
    JoinOutcome × Database :=
  if !calls.admitted || !calls.live then (.failed, db)
  else match calls.claim with
    | .failed => (.failed, db)
    | .alreadyAssigned => (.alreadyAssigned, db)
    | .claimed =>
      if !calls.adds then joinCaught calls actor none db
      else match addAssignmentByRoom roomId actor db with
        | (none, db) => joinCaught calls actor none db
        | (some matchId, db) =>
          match calls.reply with
          | none => joinCaught calls actor (some matchId) db
          | some reply =>
            if !reply.grants then
              if !calls.releases || !calls.removes then joinCaught calls actor (some matchId) db
              else joinCaught calls actor none (removeAssignment matchId actor.id db)
            else if calls.assigns then (.granted, db)
            else joinCaught calls actor (some matchId) db

/-- What the calls for one candidate of a quick join come to. `joinable`: the room is live, without a
password, and has a vacancy. -/
structure CandidateCalls where
  roomId : String
  joinable : Option Bool
  blocked : Option Bool
  adds : Bool
  reply : Option ReserveReply
  removes : Bool
  assigns : Bool
  deriving DecidableEq

/-- The `catch` block of `quickJoin`. -/
def quickJoinCaught (removesLast : Bool) (actor : AssignedActor) (pendingAssignment : Option MatchId)
    (db : Database) : JoinOutcome × Database :=
  match pendingAssignment with
  | none => (.failed, db)
  | some matchId =>
    if removesLast then (.failed, removeAssignment matchId actor.id db) else (.failed, db)

/-- The loop over the candidates. -/
def tryCandidates (removesLast : Bool) (actor : AssignedActor) :
    List CandidateCalls → Database → JoinOutcome × Database
  | [], db => quickJoinCaught removesLast actor none db
  | calls :: rest, db =>
    match calls.joinable, calls.blocked with
    | some false, _ => tryCandidates removesLast actor rest db
    | some true, some true => tryCandidates removesLast actor rest db
    | some true, some false =>
      if !calls.adds then quickJoinCaught removesLast actor none db
      else match addAssignmentByRoom calls.roomId actor db with
        | (none, db) => tryCandidates removesLast actor rest db
        | (some matchId, db) =>
          match calls.reply with
          | none => quickJoinCaught removesLast actor (some matchId) db
          | some reply =>
            if reply.grants then
              if calls.assigns then (.granted, db)
              else quickJoinCaught removesLast actor (some matchId) db
            else if calls.removes then
              tryCandidates removesLast actor rest (removeAssignment matchId actor.id db)
            else quickJoinCaught removesLast actor (some matchId) db
    | _, _ => quickJoinCaught removesLast actor none db

structure QuickJoinCalls where
  admitted : Bool
  claim : ClaimOutcome
  candidates : List CandidateCalls
  removesLast : Bool
  deriving DecidableEq

def quickJoin (calls : QuickJoinCalls) (actor : AssignedActor) (db : Database) :
    JoinOutcome × Database :=
  if !calls.admitted then (.failed, db)
  else match calls.claim with
    | .failed => (.failed, db)
    | .alreadyAssigned => (.alreadyAssigned, db)
    | .claimed => tryCandidates calls.removesLast actor calls.candidates db

/-! ## Which attempts take a row back -/

/-- The current match of the room is this one. -/
def playsNow (db : Database) (roomId : String) (matchId : MatchId) : Bool :=
  (currentMatch roomId db).any fun row => row.matchId = matchId

/-- The attempt came as far as the assignment, was not granted, and its compensation went through. -/
def JoinCalls.takesBack (calls : JoinCalls) : Bool :=
  calls.admitted && calls.live && calls.claim = .claimed && calls.adds &&
    match calls.reply with
    | none => calls.releasesLast && calls.removesLast
    | some reply =>
      if reply.grants then !calls.assigns && calls.releasesLast && calls.removesLast
      else (calls.releases && calls.removes) || (calls.releasesLast && calls.removesLast)

/-- The same for one candidate that the loop comes to. -/
def CandidateCalls.takesBack (calls : CandidateCalls) (removesLast : Bool) : Bool :=
  calls.joinable = some true && calls.blocked = some false && calls.adds &&
    match calls.reply with
    | none => removesLast
    | some reply =>
      if reply.grants then !calls.assigns && removesLast else calls.removes || removesLast

/-- The loop goes on to the next candidate. -/
def CandidateCalls.passes (calls : CandidateCalls) (db : Database) : Bool :=
  calls.joinable = some false ||
    (calls.joinable = some true && (calls.blocked = some true ||
      (calls.blocked = some false && calls.adds && ((currentMatch calls.roomId db).isNone ||
        (calls.reply.any (fun reply => !reply.grants) && calls.removes)))))

/-- A candidate that the loop comes to has the match for its current one and takes the row back. -/
def takesBackAny (db : Database) (matchId : MatchId) (removesLast : Bool) : List CandidateCalls → Bool
  | [] => false
  | calls :: rest =>
    (calls.takesBack removesLast && playsNow db calls.roomId matchId) ||
      (calls.passes db && takesBackAny db matchId removesLast rest)

def QuickJoinCalls.takesBack (calls : QuickJoinCalls) (db : Database) (matchId : MatchId) : Bool :=
  calls.admitted && calls.claim = .claimed &&
    takesBackAny db matchId calls.removesLast calls.candidates

end SwitchRemake.Matching

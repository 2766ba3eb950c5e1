import SwitchRemake.Game.MatchIds
import SwitchRemake.Matching.ResultWorker

/-!
# The next match of a room

The result worker, the journal and the command consumer of one server and a room of it that stays
there, in any order of their steps. The journal is what `redis/result-outbox.ts` keeps, the results
stream and the command stream are what is on them, and a command is known by its place.
-/

namespace SwitchRemake.Matching
open Lib Game Rooms
open Protocol (Bytes)

/-- The server and the room. -/
structure Site where
  serverId : String
  roomId : String

/-- The last two fields keep what has happened: the results that the room has reported, and the
matches that `issueNextMatch` had no next match for. `remembered` are the commands whose reply the
consumer still has, and `answered` those that it has replied to at all. -/
structure RematchRun (K : Type) where
  matching : MatchServer
  entries : List (String × Option String)
  room : HostRun K
  journal : List MatchResultMessage
  remembered : List Nat
  answered : List Nat
  acked : List Nat
  reported : List MatchResultMessage
  refused : List MatchId

inductive RematchOp (K : Type) where
  | host (op : HostOp K)
  | report (result : MatchResultMessage)
  | publish (entryId : String) (raw : Option String)
  | forget (matchId : MatchId)
  | matching (event : MatchingEvent)
  | receive (place : Nat) (now : Int)
  | expireReply (place : Nat)
  | ack (place : Nat)

namespace RematchRun

variable {K : Type}

def start (db : Database) (host : HostedRoom K) : RematchRun K :=
  { matching := .start db, entries := [], room := .start host, journal := [], remembered := []
    answered := [], acked := [], reported := [], refused := [] }

/-- The match that a step of the worker finds no next match for. -/
def refusal (sha256 : Bytes → Bytes) (m : MatchServer) : MatchingEvent → List MatchId
  | .proceed index env =>
    match m.deliveries[index]? with
    | some ⟨_, .owned result owner⟩ =>
      match issueNextMatch sha256 result owner env.now m.db with
      | some (none, _) => [result.matchId]
      | _ => []
    | _ => []
  | _ => []

variable [JsNumber K]

/-- `#replyFor` of a GRANT_MATCH. Only the last branch gets to the room. -/
def receive (site : Site) (s : RematchRun K) (place : Nat) (now : Int) : RematchRun K :=
  match s.matching.commands[place]? with
  | none => s
  | some (serverId, command) =>
    let replied := { s with answered := place :: s.answered, remembered := place :: s.remembered }
    if serverId ≠ site.serverId ∨ place ∈ s.remembered then replied
    else if command.deadlineAt < now then replied
    else if command.payload.roomId ≠ site.roomId ∨ s.room.host.room.state = .closed then replied
    else if s.room.host.room.handingOff then replied
    else { replied with room := s.room.apply (.grantMatchId command.payload.matchId) }

def apply [JsonNumber K] (sha256 : Bytes → Bytes) (site : Site) (s : RematchRun K) :
    RematchOp K → RematchRun K
  | .host op => { s with room := s.room.apply op }
  | .report result =>
    { s with journal := s.journal ++ [result], reported := s.reported ++ [result] }
  | .publish entryId raw => { s with entries := s.entries ++ [(entryId, raw)] }
  | .forget matchId =>
    if matchId ∈ s.matching.receipts then
      { s with journal := s.journal.filter fun result => result.matchId ≠ matchId }
    else s
  | .matching event =>
    { s with
      matching := s.matching.apply K sha256 event
      refused := s.refused ++ refusal sha256 s.matching event }
  | .receive place now => s.receive site place now
  | .expireReply place => { s with remembered := s.remembered.filter (· ≠ place) }
  | .ack place => { s with acked := place :: s.acked }

/-- What the parties do. A room reports the match it has started last, under its own server. Only
results of the journal get on the stream, and only what is on it is delivered. The directory names
the server of the room. Only replies allow an acknowledgement, and the room stays open. -/
def Allowed [JsonNumber K] (site : Site) (s : RematchRun K) : RematchOp K → Prop
  | .host op => s.room.Allows op ∧ ∀ matchId, op ≠ .grantMatchId matchId
  | .report result => result.matchId = s.room.host.room.matchId ∧ result.matchId ∈ s.room.games ∧
      result.serverId = site.serverId ∧ result.roomId = site.roomId
  | .publish _ raw => ∀ text, raw = some text → ∀ result,
      decodeMatchResult K text = .ok result → result ∈ s.journal
  | .matching (.deliver entryId raw) => (entryId, raw) ∈ s.entries
  | .matching (.proceed index env) => ∀ entryId result,
      s.matching.deliveries[index]? = some ⟨entryId, .recorded result⟩ →
        ownerServerId K result env.rawRoom = site.serverId
  | .receive .. => s.room.host.room.state ≠ .closed
  | .ack place => place ∈ s.answered
  | _ => True

/-- A grant is carried out when it first comes, by its deadline and in a room that is not frozen,
and never in a room that has started its match before the present one. -/
def Timely (s : RematchRun K) : RematchOp K → Prop
  | .receive place now => ∀ serverId command,
      s.matching.commands[place]? = some (serverId, command) → place ∉ s.remembered →
        (place ∉ s.answered → now ≤ command.deadlineAt ∧ s.room.host.room.handingOff = false) ∧
        (now ≤ command.deadlineAt → s.room.host.room.handingOff = false →
          command.payload.matchId = s.room.host.room.matchId ∨
            command.payload.matchId ∉ s.room.games)
  | _ => True

/-- The match is over and recorded, its result is not in the journal any more, and nothing on the
streams is left. -/
structure Settled (s : RematchRun K) (matchId : MatchId) : Prop where
  reported : ∃ result ∈ s.reported, result.matchId = matchId
  recorded : Recorded s.matching.db (uuid matchId)
  entries : ∀ entry ∈ s.entries, entry.1 ∈ s.matching.acknowledged
  commands : ∀ place < s.matching.commands.length, place ∈ s.acked
  journal : ∀ result ∈ s.journal, result.matchId ≠ matchId

/-- A room whose match is settled has a next id, or there is none for it. -/
def Supplied (s : RematchRun K) : Prop :=
  s.Settled s.room.host.room.matchId →
    s.room.host.room.grantedMatchId ≠ none ∨ s.room.host.room.matchId ∈ s.refused

end RematchRun

end SwitchRemake.Matching

import SwitchRemake.Lib.Runs
import SwitchRemake.Matching.Sanctions

/-!
# Reports

`server-match/reports/reports.service.ts`: `create`, `sanction` and `updateStatus`. The two that
change a status read the case's row `FOR UPDATE` and hold it to the end of their transaction.
-/

namespace SwitchRemake.Matching
open Lib

inductive ReportStatus where
  | OPEN | TRIAGED | REVIEWING | ACTIONED | DISMISSED | CLOSED
  deriving DecidableEq, Repr

def ReportStatus.text : ReportStatus → String
  | .OPEN => "OPEN"
  | .TRIAGED => "TRIAGED"
  | .REVIEWING => "REVIEWING"
  | .ACTIONED => "ACTIONED"
  | .DISMISSED => "DISMISSED"
  | .CLOSED => "CLOSED"

def ALLOWED_TRANSITIONS : ReportStatus → List ReportStatus
  | .OPEN => [.TRIAGED, .DISMISSED]
  | .TRIAGED => [.REVIEWING, .DISMISSED]
  | .REVIEWING => [.ACTIONED, .DISMISSED]
  | .ACTIONED => [.CLOSED]
  | .DISMISSED => [.CLOSED]
  | .CLOSED => []

inductive ReportCategory where
  | CHEAT | ABUSE | GRIEFING | NICKNAME
  deriving DecidableEq, Repr

structure ModerationCase where
  id : String
  matchId : MatchId
  targetUserId : Option Nat
  targetPlayerId : Option Nat
  targetNickname : Option String
  status : ReportStatus
  note : Option String
  reportCount : Nat
  updatedAt : Int
  deriving DecidableEq

structure ReportRow where
  caseId : String
  reporterUserId : Nat
  category : ReportCategory
  tick : Option Nat
  description : String
  deriving DecidableEq

/-- `reports_case_id_reporter_user_id_unique`. -/
def ReportRow.key (r : ReportRow) : String × Nat := (r.caseId, r.reporterUserId)

inductive AuditAction where
  | reportSanction (sanctionId : String) (type : SanctionType)
  | reportStatus (previousStatus nextStatus : ReportStatus)
  deriving DecidableEq

structure AuditRow where
  actor : String
  action : AuditAction
  targetId : String
  reason : String
  deriving DecidableEq

inductive ReportError where
  | badRequest (code message : String)
  | forbidden (code message : String)
  | notFound (code message : String)
  | conflict (code message : String)
  | sanction (error : SanctionError)
  | failed (message : String)
  deriving DecidableEq

structure CreateReportDto where
  matchId : MatchId
  targetPlayerId : Nat
  category : ReportCategory
  description : String
  tick : Option Nat
  deriving DecidableEq

/-- What the query of `create` answers from matches, participants and replays. -/
structure ReportContextRow where
  endedAt : Option Int
  reporterParticipates : Bool
  reporterPlayerId : Option Nat
  targetUserId : Option Nat
  targetPlayerId : Option Nat
  targetNickname : Option String
  replayStatus : Option String
  deriving DecidableEq

structure SanctionReportDto where
  type : SanctionType
  days : Option Nat
  reason : String
  deriving DecidableEq

structure UpdateReportStatusDto where
  status : ReportStatus
  note : Option String
  deriving DecidableEq

def LIVE_REPLAY_STATUSES : List String := ["recording", "finalizing", "available"]

/-! ## Creation -/

/-- Before the first write of `create`. -/
def checkContext (reporterUserId : Nat) (dto : CreateReportDto) (context : Option ReportContextRow)
    (replayHours : Nat) (now : Int) : Except ReportError ReportContextRow :=
  match context with
  | none =>
    .error (.forbidden "REPORTER_NOT_MATCH_PARTICIPANT" "The reporter did not participate in this match")
  | some context =>
    if !context.reporterParticipates then
      .error (.forbidden "REPORTER_NOT_MATCH_PARTICIPANT"
        "The reporter did not participate in this match")
    else if context.targetPlayerId = none then
      .error (.badRequest "INVALID_REPORT_TARGET" "The target did not participate in this match")
    else if context.reporterPlayerId = some dto.targetPlayerId ∨
        context.targetUserId = some reporterUserId then
      .error (.badRequest "SELF_REPORT" "A participant cannot report themselves")
    else if context.targetUserId = none ∧ context.targetNickname = none then
      .error (.badRequest "INVALID_REPORT_TARGET" "The target did not participate in this match")
    else match context.endedAt, context.replayStatus with
      | some _, some replayStatus =>
        if replayStatus ∉ LIVE_REPLAY_STATUSES then
          .error (.badRequest "REPLAY_UNAVAILABLE"
            "The replay for this match is no longer retained")
        else .ok context
      | some endedAt, none =>
        if replayHours * 60 * 60 * 1000 < now - endedAt then
          .error (.badRequest "REPORT_WINDOW_EXPIRED"
            "The report window for this match has expired")
        else .ok context
      | none, _ => .ok context

/-- The unique index the insert of this target runs into. -/
def sameTarget (matchId : MatchId) (context : ReportContextRow) (row : ModerationCase) : Bool :=
  match context.targetUserId with
  | some userId => row.matchId = matchId && row.targetUserId = some userId
  | none => row.matchId = matchId && row.targetUserId.isNone &&
      row.targetPlayerId = context.targetPlayerId

structure ReportTables where
  moderationCases : KeyedList ModerationCase.id
  reports : KeyedList ReportRow.key
  accounts : Tables
  adminAuditLog : List AuditRow

namespace ReportTables

def empty : ReportTables := ⟨.empty, .empty, .empty, []⟩

/-- `INSERT … ON CONFLICT … DO UPDATE … RETURNING id`. -/
def upsertCase (t : ReportTables) (matchId : MatchId) (context : ReportContextRow)
    (newCaseId : String) (now : Int) : Option (String × KeyedList ModerationCase.id) :=
  match t.moderationCases.entries.find? (sameTarget matchId context) with
  | some row =>
    let nickname := if context.targetUserId.isSome then row.targetNickname else context.targetNickname
    some (row.id, t.moderationCases.modify row.id
      (fun row => { row with targetNickname := nickname }) fun _ => rfl)
  | none =>
    (t.moderationCases.insert?
      { id := newCaseId
        matchId
        targetUserId := context.targetUserId
        targetPlayerId := if context.targetUserId.isSome then none else context.targetPlayerId
        targetNickname := if context.targetUserId.isSome then none else context.targetNickname
        status := .OPEN
        note := none
        reportCount := 0
        updatedAt := now }).map fun cases => (newCaseId, cases)

def create (reporterUserId : Nat) (dto : CreateReportDto) (context : Option ReportContextRow)
    (replayHours : Nat) (newCaseId : String) (now : Int) (t : ReportTables) :
    Except ReportError ReportTables := do
  let context ← checkContext reporterUserId dto context replayHours now
  match t.upsertCase dto.matchId context newCaseId now with
  | none => .error (.failed "Failed to create moderation case")
  | some (caseId, cases) =>
    let report : ReportRow := ⟨caseId, reporterUserId, dto.category, dto.tick, dto.description⟩
    match t.reports.insert? report with
    | none => .error (.conflict "DUPLICATE_REPORT" "This reporter already reported this case")
    | some reports =>
      let reportCount := reports.entries.countP (·.caseId = caseId)
      .ok { t with
        moderationCases := cases.modify caseId
          (fun row => { row with reportCount, updatedAt := now }) fun _ => rfl
        reports }

/-! ## Sanction and status -/

def caseNotFound : ReportError := .notFound "REPORT_CASE_NOT_FOUND" "Moderation case not found"

/-- `sanction` up to the row it locks. -/
def checkSanction (caseId : String) (dto : SanctionReportDto) (t : ReportTables) :
    Except ReportError ModerationCase :=
  if dto.type = .warn ∧ dto.days ≠ none then
    .error (.badRequest "INVALID_SANCTION_DURATION" "WARN sanctions cannot have a duration")
  else match t.moderationCases.get? caseId with
    | none => .error caseNotFound
    | some moderationCase =>
      if moderationCase.status = .CLOSED then
        .error (.conflict "REPORT_CASE_CLOSED" "Closed moderation cases cannot be sanctioned")
      else if moderationCase.status = .ACTIONED then
        .error (.conflict "REPORT_CASE_ALREADY_ACTIONED"
          "This moderation case already has a sanction")
      else if moderationCase.targetUserId = none then
        .error (.badRequest "GUEST_TARGET_NOT_SANCTIONABLE"
          "Guest report targets do not have an account to sanction")
      else .ok moderationCase

def setCase (t : ReportTables) (caseId : String) (status : ReportStatus) (note : Option String)
    (now : Int) : KeyedList ModerationCase.id :=
  t.moderationCases.modify caseId
    (fun row => { row with status, note := note.or row.note, updatedAt := now }) fun _ => rfl

/-- The rest of the transaction: the account's row and the new rows are its own as well. -/
def finishSanction (moderationCase : ModerationCase) (actorUserId : Nat) (dto : SanctionReportDto)
    (sanctionId : String) (now : Int) (t : ReportTables) : Except ReportError ReportTables :=
  match moderationCase.targetUserId with
  | none => .error caseNotFound
  | some userId =>
    let expiresAt := dto.days.map fun days => now + days * 24 * 60 * 60 * 1000
    match t.accounts.apply { userId, type := dto.type, startsAt := some now, expiresAt } sanctionId now with
    | .error error => .error (.sanction error)
    | .ok accounts =>
      .ok { t with
        accounts
        moderationCases := t.setCase moderationCase.id .ACTIONED none now
        adminAuditLog := t.adminAuditLog ++
          [{ actor := "admin:" ++ toString actorUserId
             action := .reportSanction sanctionId dto.type
             targetId := moderationCase.id
             reason := dto.reason }] }

def checkStatus (caseId : String) (dto : UpdateReportStatusDto) (t : ReportTables) :
    Except ReportError ModerationCase :=
  match t.moderationCases.get? caseId with
  | none => .error caseNotFound
  | some current =>
    if dto.status ∉ ALLOWED_TRANSITIONS current.status then
      .error (.conflict "INVALID_REPORT_STATUS_TRANSITION"
        ("Cannot transition a report from " ++ current.status.text ++ " to " ++ dto.status.text))
    else .ok current

def finishStatus (current : ModerationCase) (actorUserId : Nat) (dto : UpdateReportStatusDto)
    (now : Int) (t : ReportTables) : ReportTables :=
  let transition := current.status.text ++ "→" ++ dto.status.text
  let reason := (dto.note.map trim).getD ""
  { t with
    moderationCases := t.setCase current.id dto.status dto.note now
    adminAuditLog := t.adminAuditLog ++
      [{ actor := toString actorUserId
         action := .reportStatus current.status dto.status
         targetId := current.id
         reason := if reason = "" then transition else reason }] }

end ReportTables

/-! ## Operators at work -/

/-- A transaction that holds the row it has read. -/
inductive OpenCase where
  | sanction (row : ModerationCase) (actorUserId : Nat) (dto : SanctionReportDto)
  | status (row : ModerationCase) (actorUserId : Nat) (dto : UpdateReportStatusDto)
  deriving DecidableEq

def OpenCase.row : OpenCase → ModerationCase
  | .sanction row _ _ => row
  | .status row _ _ => row

structure ReportDesk where
  tables : ReportTables
  transactions : List OpenCase

inductive ReportOp where
  | create (reporterUserId : Nat) (dto : CreateReportDto) (context : Option ReportContextRow)
      (replayHours : Nat) (newCaseId : String) (now : Int)
  | sanction (caseId : String) (actorUserId : Nat) (dto : SanctionReportDto)
  | updateStatus (caseId : String) (actorUserId : Nat) (dto : UpdateReportStatusDto)
  | finish (place : Nat) (sanctionId : String) (now : Int)
  | rollback (place : Nat)
  /-- Whatever else writes accounts, sanctions and revocations. -/
  | others (accounts : Tables)

namespace ReportDesk

def start : ReportDesk := ⟨.empty, []⟩

/-- A statement waits for a row that another transaction holds. -/
def Allowed (s : ReportDesk) : ReportOp → Prop
  | .create reporterUserId dto context replayHours _ now =>
    ∀ found ∈ (checkContext reporterUserId dto context replayHours now).toOption,
      ∀ row ∈ s.tables.moderationCases.entries, sameTarget dto.matchId found row = true →
        row.id ∉ s.transactions.map (·.row.id)
  | .sanction caseId _ _ => caseId ∉ s.transactions.map (·.row.id)
  | .updateStatus caseId _ _ => caseId ∉ s.transactions.map (·.row.id)
  | _ => True

instance (s : ReportDesk) : ∀ op, Decidable (s.Allowed op)
  | .create reporterUserId dto context replayHours _ now =>
    inferInstanceAs (Decidable (∀ found ∈
      (checkContext reporterUserId dto context replayHours now).toOption,
      ∀ row ∈ s.tables.moderationCases.entries, sameTarget dto.matchId found row = true →
        row.id ∉ s.transactions.map (·.row.id)))
  | .sanction _ _ _ => inferInstanceAs (Decidable (_ ∉ _))
  | .updateStatus _ _ _ => inferInstanceAs (Decidable (_ ∉ _))
  | .finish _ _ _ | .rollback _ | .others _ => isTrue trivial

def close (s : ReportDesk) (place : Nat) : ReportDesk :=
  { s with transactions := s.transactions.eraseIdx place }

def finishCase (tables : ReportTables) (sanctionId : String) (now : Int) :
    OpenCase → Except ReportError ReportTables
  | .sanction row actorUserId dto => tables.finishSanction row actorUserId dto sanctionId now
  | .status row actorUserId dto => .ok (tables.finishStatus row actorUserId dto now)

/-- The next state, and the error the operation is refused with. A transaction that throws is rolled
back. -/
def step (s : ReportDesk) : ReportOp → ReportDesk × Option ReportError
  | .create reporterUserId dto context replayHours newCaseId now =>
    match s.tables.create reporterUserId dto context replayHours newCaseId now with
    | .ok tables => ({ s with tables }, none)
    | .error error => (s, some error)
  | .sanction caseId actorUserId dto =>
    match s.tables.checkSanction caseId dto with
    | .ok row => ({ s with transactions := s.transactions ++ [.sanction row actorUserId dto] }, none)
    | .error error => (s, some error)
  | .updateStatus caseId actorUserId dto =>
    match s.tables.checkStatus caseId dto with
    | .ok row => ({ s with transactions := s.transactions ++ [.status row actorUserId dto] }, none)
    | .error error => (s, some error)
  | .finish place sanctionId now =>
    match s.transactions[place]? with
    | none => (s, none)
    | some transaction =>
      match finishCase s.tables sanctionId now transaction with
      | .ok tables => ({ s.close place with tables }, none)
      | .error error => (s.close place, some error)
  | .rollback place => (s.close place, none)
  | .others accounts => ({ s with tables := { s.tables with accounts } }, none)

def apply (s : ReportDesk) (op : ReportOp) : ReportDesk := (s.step op).1

end ReportDesk
end SwitchRemake.Matching

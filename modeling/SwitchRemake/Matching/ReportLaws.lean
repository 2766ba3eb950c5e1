import SwitchRemake.Matching.Reports

/-!
# The workflow of reports

A status moves along the table, or a sanction takes its case to `ACTIONED`.
-/

namespace SwitchRemake.Matching
open Lib

namespace ReportTables
variable {t t' : ReportTables} {caseId : String}

def statusOf (t : ReportTables) (caseId : String) : Option ReportStatus :=
  (t.moderationCases.get? caseId).map (·.status)

/-- The sanctions a case has led to. -/
def sanctionsOf (t : ReportTables) (caseId : String) : List AuditRow :=
  t.adminAuditLog.filter fun row => row.targetId = caseId &&
    match row.action with
    | .reportSanction _ _ => true
    | .reportStatus _ _ => false

/-! ## What each operation does to the statuses -/

theorem status_modify {cases : KeyedList ModerationCase.id} {f : ModerationCase → ModerationCase}
    {keeps : ∀ row, (f row).id = row.id} (same : ∀ row, (f row).status = row.status)
    (id other : String) :
    ((cases.modify id f keeps).get? other).map (·.status) = (cases.get? other).map (·.status) := by
  rw [KeyedList.get?_modify]
  split
  · cases cases.get? other <;> simp [same]
  · rfl

theorem statusOf_setCase (t : ReportTables) (id : String) (status : ReportStatus)
    (note : Option String) (now : Int) (other : String) :
    ((t.setCase id status note now).get? other).map (·.status) =
      if other = id then (t.statusOf other).map fun _ => status else t.statusOf other := by
  rw [setCase, KeyedList.get?_modify, statusOf]
  split
  · cases t.moderationCases.get? other <;> simp
  · rfl

theorem upsertCase_status {matchId : MatchId} {context : ReportContextRow} {newCaseId id : String}
    {now : Int} {cases : KeyedList ModerationCase.id}
    (done : t.upsertCase matchId context newCaseId now = some (id, cases)) (other : String) :
    (cases.get? other).map (·.status) = t.statusOf other ∨
      t.statusOf other = none ∧ (cases.get? other).map (·.status) = some .OPEN := by
  unfold upsertCase at done
  split at done
  · simp only [Option.some.injEq, Prod.mk.injEq] at done
    obtain ⟨-, rfl⟩ := done
    exact .inl (status_modify (by simp) _ other)
  · simp only [Option.map_eq_some_iff, Prod.mk.injEq] at done
    obtain ⟨inserted, inserts, -, rfl⟩ := done
    rw [KeyedList.get?_insert inserts]
    by_cases same : other = newCaseId
    · right
      rw [if_pos same, statusOf, same, (KeyedList.insert?_eq_some.mp inserts).1]
      exact ⟨rfl, rfl⟩
    · rw [if_neg same]
      exact .inl rfl

theorem create_ok {reporterUserId replayHours : Nat} {dto : CreateReportDto}
    {context : Option ReportContextRow} {newCaseId : String} {now : Int}
    (creates : t.create reporterUserId dto context replayHours newCaseId now = .ok t') :
    t'.adminAuditLog = t.adminAuditLog ∧
      ∀ id, t'.statusOf id = t.statusOf id ∨ t.statusOf id = none ∧ t'.statusOf id = some .OPEN := by
  unfold create at creates
  cases checks : checkContext reporterUserId dto context replayHours now with
  | error e => simp [checks, bind, Except.bind] at creates
  | ok found =>
    simp only [checks, bind, Except.bind] at creates
    split at creates
    · cases creates
    · rename_i caseId cases upserts
      split at creates
      · cases creates
      · cases creates
        refine ⟨rfl, fun id => ?_⟩
        rw [statusOf, status_modify (by simp)]
        exact upsertCase_status upserts id

theorem checkSanction_ok {dto : SanctionReportDto} {row : ModerationCase}
    (checks : t.checkSanction caseId dto = .ok row) :
    t.moderationCases.get? caseId = some row ∧ row.status ≠ .CLOSED ∧ row.status ≠ .ACTIONED := by
  unfold checkSanction at checks
  split at checks
  · cases checks
  · split at checks
    · cases checks
    · rename_i found
      split at checks
      · cases checks
      · rename_i notClosed
        split at checks
        · cases checks
        · rename_i notActioned
          split at checks
          · cases checks
          · cases checks
            exact ⟨found, notClosed, notActioned⟩

theorem checkStatus_ok {dto : UpdateReportStatusDto} {row : ModerationCase}
    (checks : t.checkStatus caseId dto = .ok row) :
    t.moderationCases.get? caseId = some row ∧ dto.status ∈ ALLOWED_TRANSITIONS row.status := by
  unfold checkStatus at checks
  split at checks
  · cases checks
  · rename_i found
    split at checks
    · cases checks
    · rename_i listed
      cases checks
      exact ⟨found, not_not.mp listed⟩

theorem finishSanction_ok {row : ModerationCase} {actorUserId : Nat} {dto : SanctionReportDto}
    {sanctionId : String} {now : Int}
    (finishes : t.finishSanction row actorUserId dto sanctionId now = .ok t') :
    (∃ entry, entry.targetId = row.id ∧ t'.adminAuditLog = t.adminAuditLog ++ [entry]) ∧
      t'.moderationCases = t.setCase row.id .ACTIONED none now := by
  unfold finishSanction at finishes
  split at finishes
  · cases finishes
  · dsimp only at finishes
    split at finishes
    · cases finishes
    · cases finishes
      exact ⟨⟨_, rfl, rfl⟩, rfl⟩

theorem sanctionsOf_append {entry : AuditRow}
    (appended : t'.adminAuditLog = t.adminAuditLog ++ [entry]) (elsewhere : entry.targetId ≠ caseId) :
    t'.sanctionsOf caseId = t.sanctionsOf caseId := by
  simp [sanctionsOf, appended, elsewhere]

end ReportTables

namespace OpenCase

/-- What a transaction has checked of the row it holds. -/
def Checked : OpenCase → Prop
  | .sanction row _ _ => row.status ≠ .CLOSED ∧ row.status ≠ .ACTIONED
  | .status row _ dto => dto.status ∈ ALLOWED_TRANSITIONS row.status

end OpenCase

namespace ReportDesk
open ReportTables
variable {s : ReportDesk} {op : ReportOp} {caseId : String}

/-- The operation is the end of a sanction of this case. -/
def Sanctions (s : ReportDesk) (caseId : String) : ReportOp → Prop
  | .finish place _ _ => ∃ row actor dto, s.transactions[place]? = some (.sanction row actor dto) ∧
      row.id = caseId
  | _ => False

/-- From one status of a case to the next one. -/
def Follows (s : ReportDesk) (op : ReportOp) (caseId : String) (before after : ReportStatus) :
    Prop :=
  after = before ∨ after ∈ ALLOWED_TRANSITIONS before ∨
    s.Sanctions caseId op ∧ before ≠ .ACTIONED ∧ before ≠ .CLOSED ∧ after = .ACTIONED

structure Kept (s : ReportDesk) : Prop where
  locks : (s.transactions.map (·.row.id)).Nodup
  read : ∀ held ∈ s.transactions, s.tables.statusOf held.row.id = some held.row.status
  checked : ∀ held ∈ s.transactions, held.Checked
  acted : ∀ caseId, s.tables.sanctionsOf caseId ≠ [] →
    s.tables.statusOf caseId = some .ACTIONED ∨ s.tables.statusOf caseId = some .CLOSED
  once : ∀ caseId, (s.tables.sanctionsOf caseId).length ≤ 1

theorem kept_start : start.Kept where
  locks := List.nodup_nil
  read := by simp [start]
  checked := by simp [start]
  acted := by simp [start, sanctionsOf, ReportTables.empty]
  once := by simp [start, sanctionsOf, ReportTables.empty]

theorem kept_close (kept : s.Kept) (place : Nat) : (s.close place).Kept where
  locks := by
    rw [close, ← List.eraseIdx_map]
    exact kept.locks.eraseIdx place
  read held mem := kept.read held (List.mem_of_mem_eraseIdx mem)
  checked held mem := kept.checked held (List.mem_of_mem_eraseIdx mem)
  acted := kept.acted
  once := kept.once

theorem kept_hold (kept : s.Kept) {held : OpenCase} (free : held.row.id ∉ s.transactions.map (·.row.id))
    (read : s.tables.moderationCases.get? held.row.id = some held.row) (checked : held.Checked) :
    Kept { s with transactions := s.transactions ++ [held] } where
  locks := by
    rw [List.map_append, List.nodup_append]
    refine ⟨kept.locks, List.nodup_singleton _, fun id mem other now same => free ?_⟩
    rw [List.map_singleton, List.mem_singleton] at now
    exact now ▸ same ▸ mem
  read other mem := by
    rcases List.mem_append.mp mem with before | now
    · exact kept.read other before
    · rw [List.mem_singleton.mp now, statusOf, read]
      rfl
  checked other mem := by
    rcases List.mem_append.mp mem with before | now
    · exact kept.checked other before
    · exact List.mem_singleton.mp now ▸ checked
  acted := kept.acted
  once := kept.once

/-! ## One step -/

theorem acted_next {status next : ReportStatus} (acted : status = .ACTIONED ∨ status = .CLOSED)
    (listed : next ∈ ALLOWED_TRANSITIONS status) : next = .ACTIONED ∨ next = .CLOSED := by
  rcases acted with rfl | rfl
  · exact .inr (List.mem_singleton.mp listed)
  · cases listed

theorem create_kept (kept : s.Kept) {tables : ReportTables}
    (log : tables.adminAuditLog = s.tables.adminAuditLog)
    (status : ∀ id, tables.statusOf id = s.tables.statusOf id ∨
      s.tables.statusOf id = none ∧ tables.statusOf id = some .OPEN) :
    Kept { s with tables } where
  locks := kept.locks
  read held mem := by
    have before := kept.read held mem
    rcases status held.row.id with same | ⟨absent, -⟩
    · exact same.trans before
    · rw [absent] at before
      cases before
  checked := kept.checked
  acted caseId led := by
    have before := kept.acted caseId (by simpa [sanctionsOf, log] using led)
    rcases status caseId with same | ⟨absent, -⟩
    · exact same ▸ before
    · rw [absent] at before
      simp at before
  once caseId := by simpa [sanctionsOf, log] using kept.once caseId

/-- The transaction at a place writes its case and ends. -/
theorem finish_kept (kept : s.Kept) {place : Nat} {held : OpenCase} {tables : ReportTables}
    {status : ReportStatus} {entry : AuditRow} (found : s.transactions[place]? = some held)
    (moved : ∀ id, tables.statusOf id =
      if id = held.row.id then (s.tables.statusOf id).map fun _ => status else s.tables.statusOf id)
    (log : tables.adminAuditLog = s.tables.adminAuditLog ++ [entry])
    (target : entry.targetId = held.row.id)
    (led : tables.sanctionsOf held.row.id ≠ [] → status = .ACTIONED ∨ status = .CLOSED)
    (once : (tables.sanctionsOf held.row.id).length ≤ 1) :
    Kept { s.close place with tables } := by
  have closed := kept_close kept place
  have mem := List.mem_of_getElem? found
  have elsewhere : ∀ other ∈ (s.close place).transactions, other.row.id ≠ held.row.id := by
    intro other rest same
    obtain ⟨inside, rfl⟩ := List.getElem?_eq_some_iff.mp found
    obtain ⟨i, differs, here⟩ := List.mem_eraseIdx_iff_getElem?.mp rest
    have both : (s.transactions.map (·.row.id))[i]? = (s.transactions.map (·.row.id))[place]? := by
      simp [here, same, List.getElem?_eq_getElem inside]
    exact differs
      ((List.getElem?_inj (by simpa using (List.getElem?_eq_some_iff.mp here).1) kept.locks).mp both)
  refine ⟨closed.locks, fun other rest => ?_, closed.checked, fun caseId any => ?_, fun caseId => ?_⟩
  · rw [moved, if_neg (elsewhere other rest)]
    exact closed.read other rest
  · rw [moved]
    by_cases same : caseId = held.row.id
    · subst same
      rw [if_pos rfl, kept.read held mem]
      simpa using led any
    · rw [if_neg same]
      have any : tables.sanctionsOf caseId ≠ [] := any
      rw [sanctionsOf_append log (target ▸ Ne.symm same)] at any
      exact kept.acted caseId any
  · by_cases same : caseId = held.row.id
    · exact same ▸ once
    · show (tables.sanctionsOf caseId).length ≤ 1
      rw [sanctionsOf_append log (target ▸ Ne.symm same)]
      exact kept.once caseId

theorem kept_apply (kept : s.Kept) (may : s.Allowed op) : (s.apply op).Kept := by
  cases op with
  | create reporterUserId dto context replayHours newCaseId now =>
    simp only [apply, step]
    split
    · rename_i tables creates
      obtain ⟨log, status⟩ := create_ok creates
      exact create_kept kept log status
    · exact kept
  | sanction caseId actor dto =>
    simp only [apply, step]
    split
    · rename_i row checks
      obtain ⟨found, checked⟩ := checkSanction_ok checks
      obtain rfl := (KeyedList.mem_of_get? found).2
      exact kept_hold kept may found checked
    · exact kept
  | updateStatus caseId actor dto =>
    simp only [apply, step]
    split
    · rename_i row checks
      obtain ⟨found, checked⟩ := checkStatus_ok checks
      obtain rfl := (KeyedList.mem_of_get? found).2
      exact kept_hold kept may found checked
    · exact kept
  | finish place sanctionId now =>
    simp only [apply, step]
    split
    · exact kept
    · rename_i held found
      have read := kept.read held (List.mem_of_getElem? found)
      have checked := kept.checked held (List.mem_of_getElem? found)
      split
      · rename_i tables finishes
        cases held with
        | sanction row actor dto =>
          have read : s.tables.statusOf row.id = some row.status := read
          obtain ⟨⟨entry, target, log⟩, cases⟩ := finishSanction_ok finishes
          have untouched : s.tables.sanctionsOf row.id = [] := by
            by_contra led
            rcases kept.acted row.id led with acted | closed
            · exact checked.2 (by simpa [acted] using read.symm)
            · exact checked.1 (by simpa [closed] using read.symm)
          refine finish_kept kept found (fun id => ?_) log target (fun _ => .inl rfl) ?_
          · rw [statusOf, cases]
            exact statusOf_setCase _ _ _ _ _ _
          · show (tables.sanctionsOf row.id).length ≤ 1
            rw [sanctionsOf, log, List.filter_append, ← sanctionsOf, untouched]
            exact List.length_filter_le _ _
        | status row actor dto =>
          have read : s.tables.statusOf row.id = some row.status := read
          have listed : dto.status ∈ ALLOWED_TRANSITIONS row.status := checked
          cases finishes
          have same : (s.tables.finishStatus row actor dto now).sanctionsOf row.id =
              s.tables.sanctionsOf row.id := by
            simp [sanctionsOf, finishStatus]
          refine finish_kept kept found (fun id => statusOf_setCase _ _ _ _ _ _) rfl rfl (fun led => ?_)
            (same ▸ kept.once row.id)
          have led : s.tables.sanctionsOf row.id ≠ [] := same ▸ led
          refine acted_next ?_ listed
          simpa only [read, Option.some.injEq] using kept.acted row.id led
      · exact kept_close kept place
  | rollback place => exact kept_close kept place
  | others accounts => exact ⟨kept.locks, kept.read, kept.checked, kept.acted, kept.once⟩

theorem follows_finish (kept : s.Kept) {place : Nat} {held : OpenCase} {sanctionId : String}
    {now : Int} {tables : ReportTables} (found : s.transactions[place]? = some held)
    (finishes : finishCase s.tables sanctionId now held = .ok tables) {before : ReportStatus}
    (stood : s.tables.statusOf caseId = some before) :
    ∃ after, tables.statusOf caseId = some after ∧
      s.Follows (.finish place sanctionId now) caseId before after := by
  have read := kept.read held (List.mem_of_getElem? found)
  have checked := kept.checked held (List.mem_of_getElem? found)
  cases held with
  | sanction row actor dto =>
    have read : s.tables.statusOf row.id = some row.status := read
    obtain ⟨-, cases⟩ := finishSanction_ok finishes
    rw [statusOf, cases, statusOf_setCase, stood]
    split
    · rename_i same
      obtain rfl : row.status = before := by
        rw [same, read, Option.some.injEq] at stood
        exact stood
      exact ⟨_, rfl, .inr (.inr ⟨⟨row, actor, dto, found, same.symm⟩, checked.2, checked.1, rfl⟩)⟩
    · exact ⟨before, rfl, .inl rfl⟩
  | status row actor dto =>
    have read : s.tables.statusOf row.id = some row.status := read
    cases finishes
    have moved : (s.tables.finishStatus row actor dto now).statusOf caseId = _ :=
      statusOf_setCase s.tables row.id dto.status dto.note now caseId
    rw [moved, stood]
    split
    · rename_i same
      obtain rfl : row.status = before := by
        rw [same, read, Option.some.injEq] at stood
        exact stood
      exact ⟨_, rfl, .inr (.inl checked)⟩
    · exact ⟨before, rfl, .inl rfl⟩

theorem follows_apply (kept : s.Kept) (op : ReportOp) {before : ReportStatus}
    (stood : s.tables.statusOf caseId = some before) :
    ∃ after, (s.apply op).tables.statusOf caseId = some after ∧ s.Follows op caseId before after := by
  cases op with
  | create reporterUserId dto context replayHours newCaseId now =>
    simp only [apply, step]
    split
    · rename_i tables creates
      obtain ⟨-, status⟩ := create_ok creates
      rcases status caseId with same | ⟨absent, -⟩
      · exact ⟨before, same.trans stood, .inl rfl⟩
      · rw [absent] at stood
        cases stood
    · exact ⟨before, stood, .inl rfl⟩
  | sanction caseId actor dto =>
    simp only [apply, step]
    split <;> exact ⟨before, stood, .inl rfl⟩
  | updateStatus caseId actor dto =>
    simp only [apply, step]
    split <;> exact ⟨before, stood, .inl rfl⟩
  | finish place sanctionId now =>
    simp only [apply, step]
    split
    · exact ⟨before, stood, .inl rfl⟩
    · rename_i held found
      split
      · rename_i tables finishes
        exact follows_finish kept found finishes stood
      · exact ⟨before, stood, .inl rfl⟩
  | rollback place => exact ⟨before, stood, .inl rfl⟩
  | others accounts => exact ⟨before, stood, .inl rfl⟩

theorem refused_apply {error : ReportError} (refused : (s.step op).2 = some error) :
    (s.apply op).tables = s.tables := by
  cases op with
  | finish place sanctionId now =>
    simp only [step, apply] at refused ⊢
    split at refused
    · cases refused
    · split at refused
      · cases refused
      · rfl
  | create | sanction | updateStatus =>
    simp only [step, apply] at refused ⊢
    split at refused
    · cases refused
    · rfl
  | rollback | others => cases refused

/-! ## Every run -/

/-- In every state of every run a case has led to at most one sanction; each operation leaves its
status, moves it along the table or, as the sanction of a case that is neither `ACTIONED` nor
`CLOSED`, to `ACTIONED`; and what is refused writes nothing. -/
theorem report_workflow (run : Reach Allowed apply start s) :
    (∀ caseId, (s.tables.sanctionsOf caseId).length ≤ 1) ∧
      ∀ op, s.Allowed op →
        (∀ caseId before, s.tables.statusOf caseId = some before →
          ∃ after, (s.apply op).tables.statusOf caseId = some after ∧
            s.Follows op caseId before after) ∧
        ∀ error, (s.step op).2 = some error → (s.apply op).tables = s.tables := by
  have kept : s.Kept := run.invariant kept_start fun _ _ => kept_apply
  exact ⟨kept.once, fun op _ => ⟨fun _ _ => follows_apply kept op, fun _ => refused_apply⟩⟩

def sampleContext : ReportContextRow :=
  ⟨none, true, some 1, some 2, some 2, some "target", none⟩

def sampleAccounts : Tables := { Tables.empty with users := .set .empty ⟨2, "t@x", .active, none⟩ }

/-- A case is opened and dismissed, and then its target is sanctioned. -/
def dismissedOps : List ReportOp :=
  [.others sampleAccounts, .create 1 ⟨"m", 2, .CHEAT, "description", none⟩ (some sampleContext) 24 "c" 0,
    .updateStatus "c" 9 ⟨.DISMISSED, none⟩, .finish 0 "" 1, .sanction "c" 9 ⟨.warn, none, "reason"⟩]

theorem report_workflow_dismissed :
    Reach Allowed apply start (dismissedOps.foldl apply start) ∧
      ((dismissedOps.foldl apply start).tables.sanctionsOf "c").length ≤ 1 := by
  have run : Reach Allowed apply start (dismissedOps.foldl apply start) :=
    Reach.of_list (by decide +kernel)
  exact ⟨run, (report_workflow run).1 "c"⟩

/-- The sanction moves the dismissed case to `ACTIONED`, which the table does not list. -/
theorem dismissed_then_actioned :
    Reach Allowed apply start (dismissedOps.foldl apply start) ∧
      (dismissedOps.foldl apply start).tables.statusOf "c" = some .DISMISSED ∧
      ((dismissedOps.foldl apply start).apply (.finish 0 "s" 2)).tables.statusOf "c" = some .ACTIONED ∧
      ReportStatus.ACTIONED ∉ ALLOWED_TRANSITIONS .DISMISSED := by
  refine ⟨Reach.of_list (by decide +kernel), ?_⟩
  decide +kernel

end ReportDesk
end SwitchRemake.Matching

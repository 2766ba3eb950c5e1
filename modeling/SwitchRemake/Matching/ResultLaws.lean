import SwitchRemake.Matching.ResultCodec
import SwitchRemake.Matching.ResultService

/-!
# What the transactions of the result service do
-/

namespace SwitchRemake.Matching
open Lib
open Protocol (Bytes)

/-- The row of the id stands on this server, and on this room if it stands on one. -/
def IssuedTo (db : Database) (matchId : MatchId) (serverId roomId : String) : Prop :=
  ∃ row, db.matchRows.get? matchId = some row ∧ row.unrecorded = true ∧ row.serverId = serverId ∧
    (row.roomId = none ∨ row.roomId = some roomId)

def Recorded (db : Database) (matchId : MatchId) : Prop :=
  ∃ row, db.matchRows.get? matchId = some row ∧ row.unrecorded = false

def Database.statsOf (db : Database) (userId : Nat) : Option AccountStats :=
  (db.users.get? userId).map UserRow.stats

/-- The additions of a result that find an active account. -/
def countedDeltas (K : Type) [JsNumber K] (result : MatchResultMessage) (db : Database) :
    List AccountStatsDelta :=
  (accountStatsDeltas K result).filter fun delta => db.isActive delta.userId

/-! ## Accounts -/

theorem get?_addStats (users : KeyedList UserRow.id) (delta : AccountStatsDelta) (userId : Nat) :
    (addStats users delta).get? userId = (users.get? userId).map fun user =>
      if user.accountStatus = .active ∧ delta.userId = userId then
        { user with stats := user.stats.add delta }
      else user := by
  unfold addStats
  rw [KeyedList.get?_modify]
  split
  · rename_i same
    subst same
    congr 1
    funext user
    simp
  · rename_i differs
    have other : delta.userId ≠ userId := fun same => differs same.symm
    simp [other]

theorem get?_foldl_addStats (deltas : List AccountStatsDelta) (users : KeyedList UserRow.id)
    (userId : Nat) :
    (deltas.foldl addStats users).get? userId = (users.get? userId).map fun user =>
      if user.accountStatus = .active then
        { user with
          stats := (deltas.filter fun delta => delta.userId = userId).foldl AccountStats.add
            user.stats }
      else user := by
  induction deltas generalizing users with
  | nil => simp
  | cons delta rest ih =>
    rw [List.foldl_cons, ih, get?_addStats, Option.map_map]
    congr 1
    funext user
    by_cases active : user.accountStatus = .active
    · by_cases same : delta.userId = userId
      · simp [active, same]
      · simp [active, same]
    · simp [active]

section
variable {K : Type} [JsNumber K] {result : MatchResultMessage} {now : Int} {db after : Database}

/-! ## Recording -/

theorem writeResult_some (writes : writeResult K result now db = some after) :
    after.users = (accountStatsDeltas K result).foldl addStats db.users ∧
      after.matchRows = db.matchRows.modify (uuid result.matchId) (recordedRow result now)
        (recordedRow_matchId result now) ∧
      after.matchAssignments = db.matchAssignments := by
  unfold writeResult at writes
  simp only [Option.bind_eq_bind, Option.bind_eq_some_iff, Option.pure_def,
    Option.some.injEq] at writes
  obtain ⟨_, _, _, _, rfl⟩ := writes
  exact ⟨rfl, rfl, rfl⟩

/-- A result is recorded for a row that waits for one from this server, or nothing happens. -/
theorem record_cases {outcome : RecordResult}
    (records : record K result now db = some (outcome, after)) :
    (outcome ≠ .stored ∧ after = db) ∨
    (outcome = .stored ∧ IssuedTo db (uuid result.matchId) result.serverId result.roomId ∧
      isAssignedParticipantSubset result (db.assignmentsOf (uuid result.matchId)) = true ∧
      writeResult K result now db = some after) := by
  unfold record at records
  split at records
  · cases records
    exact .inl ⟨by decide, rfl⟩
  · rename_i row found
    split at records
    · cases records
      exact .inl ⟨by decide, rfl⟩
    · rename_i open'
      split at records
      · cases records
        exact .inl ⟨by decide, rfl⟩
      · rename_i authority
        split at records
        · cases records
          exact .inl ⟨by decide, rfl⟩
        · rename_i subset
          obtain ⟨written, writes, same⟩ := Option.map_eq_some_iff.mp records
          cases same
          refine .inr ⟨rfl, ⟨row, found, by simpa [MatchRow.unrecorded] using open', ?_⟩,
            by simpa using subset, writes⟩
          cases row_room : row.roomId <;> simp_all

theorem get?_matchRows_of_write (writes : writeResult K result now db = some after)
    (matchId : MatchId) :
    after.matchRows.get? matchId = if matchId = uuid result.matchId then
      (db.matchRows.get? matchId).map (recordedRow result now) else db.matchRows.get? matchId := by
  rw [(writeResult_some writes).2.1, KeyedList.get?_modify]

theorem recorded_of_write (writes : writeResult K result now db = some after)
    (found : (db.matchRows.get? (uuid result.matchId)).isSome) :
    Recorded after (uuid result.matchId) := by
  obtain ⟨row, stands⟩ := Option.isSome_iff_exists.mp found
  refine ⟨recordedRow result now row, ?_, rfl⟩
  rw [get?_matchRows_of_write writes, if_pos rfl, stands, Option.map_some]

theorem statsOf_of_write (writes : writeResult K result now db = some after) (userId : Nat) :
    after.statsOf userId = (db.statsOf userId).map fun stats =>
      ((countedDeltas K result db).filter fun delta => delta.userId = userId).foldl
        AccountStats.add stats := by
  unfold Database.statsOf
  rw [(writeResult_some writes).1, get?_foldl_addStats, Option.map_map, Option.map_map]
  unfold countedDeltas
  rw [List.filter_filter]
  cases found : db.users.get? userId with
  | none => rfl
  | some user =>
    have here : ∀ delta : AccountStatsDelta,
        (decide (delta.userId = userId) && db.isActive delta.userId) =
          (decide (delta.userId = userId) && decide (user.accountStatus = .active)) := by
      intro delta
      by_cases same : delta.userId = userId
      · rw [same, Database.isActive, found, Option.any_some]
      · simp [same]
    simp only [Option.map_some, Function.comp_apply, Option.some.injEq, here]
    by_cases active : user.accountStatus = .active
    · simp [active]
    · simp [active]

end

theorem accountStatsDeltas_userIds (K : Type) [JsNumber K] (result : MatchResultMessage) :
    (accountStatsDeltas K result).map AccountStatsDelta.userId =
      accountIds (statsEligible result.players) := by
  unfold accountStatsDeltas accountIds
  rw [List.map_filterMap]
  congr 1
  funext player
  unfold accountStatsDelta
  cases player.userId <;> rfl

/-- Every account is counted for once in a result that has each account once. -/
theorem accountStatsDeltas_nodup (K : Type) [JsNumber K] {result : MatchResultMessage}
    (consistent : Consistent result) :
    ((accountStatsDeltas K result).map AccountStatsDelta.userId).Nodup := by
  rw [accountStatsDeltas_userIds]
  exact consistent.accounts.sublist (List.filter_sublist.filterMap _)

/-! ## The next match -/

section
variable {sha256 : Bytes → Bytes} {finished : MatchResultMessage} {owner : String} {now : Int}
  {db after : Database}

/-- What is issued is always the id of the finished match, and it waits for its result. -/
theorem issueNextMatch_some {successor : Option String}
    (issues : issueNextMatch sha256 finished owner now db = some (successor, after)) :
    (after = db ∨
      ∃ row, row.unrecorded = true ∧ db.matchRows.insert? row = some after.matchRows ∧
        after.users = db.users) ∧
    ∀ matchId, successor = some matchId → matchId = nextMatchId sha256 finished.matchId ∧
      ∃ row, after.matchRows.get? (uuid matchId) = some row ∧ row.unrecorded = true ∧
        row.roomId = some finished.roomId := by
  unfold issueNextMatch at issues
  split at issues
  · cases issues
    exact ⟨.inl rfl, fun _ none => by cases none⟩
  · rename_i source found
    split at issues
    · cases issues
      exact ⟨.inl rfl, fun _ none => by cases none⟩
    · rename_i authority
      dsimp only at issues
      split at issues
      · rename_i existing there
        split at issues
        · cases issues
          exact ⟨.inl rfl, fun _ none => by cases none⟩
        · rename_i waits
          cases issues
          refine ⟨.inl rfl, ?_⟩
          intro matchId same
          rw [← Option.some.inj same]
          simp only [Bool.or_eq_true, Bool.not_eq_true', decide_eq_true_eq, not_or,
            Bool.not_eq_false, not_not] at authority waits
          exact ⟨rfl, existing, there, waits.1, waits.2.trans authority.1.2⟩
      · split at issues
        · cases issues
          exact ⟨.inl rfl, fun _ none => by cases none⟩
        · simp only [Option.bind_eq_bind, Option.bind_eq_some_iff, Option.pure_def,
            Option.some.injEq] at issues
          obtain ⟨rows, inserts, _, _, same⟩ := issues
          cases same
          refine ⟨.inr ⟨_, rfl, inserts, rfl⟩, ?_⟩
          intro matchId same
          rw [← Option.some.inj same]
          exact ⟨rfl, _, (KeyedList.get?_insert inserts _).trans (if_pos rfl), rfl, rfl⟩

end
end SwitchRemake.Matching

import SwitchRemake.Matching.ResultWorker

/-!
# Results are recorded once

An id that is recorded stays recorded, so no later transaction records it again.
-/

namespace SwitchRemake.Matching
open Lib
open Protocol (Bytes)

variable {K : Type} [JsNumber K] {sha256 : Bytes → Bytes}

/-! ## What a transaction leaves alone -/

/-- The transaction takes back no record and touches no account. -/
structure Spares (db after : Database) : Prop where
  recorded : ∀ matchId, Recorded db matchId → Recorded after matchId
  users : after.users = db.users

theorem Spares.refl (db : Database) : Spares db db := ⟨fun _ => id, rfl⟩

theorem spares_insert {db after : Database} {row : MatchRow}
    (inserts : db.matchRows.insert? row = some after.matchRows) (users : after.users = db.users) :
    Spares db after := by
  refine ⟨?_, users⟩
  rintro matchId ⟨old, found, done⟩
  refine ⟨old, ?_, done⟩
  rw [KeyedList.get?_insert inserts, if_neg ?_]
  · exact found
  · rintro rfl
    rw [(KeyedList.insert?_eq_some.mp inserts).1] at found
    cases found

theorem spares_modify {db after : Database} {matchId : MatchId} {f : MatchRow → MatchRow}
    (keeps : ∀ row, (f row).matchId = row.matchId)
    (rows : after.matchRows = db.matchRows.modify matchId f keeps) (users : after.users = db.users)
    (done : ∀ row, row.unrecorded = false → (f row).unrecorded = false) : Spares db after := by
  refine ⟨?_, users⟩
  rintro id ⟨row, found, recorded⟩
  rw [Recorded, rows, KeyedList.get?_modify]
  split
  · exact ⟨f row, by rw [found]; rfl, done row recorded⟩
  · exact ⟨row, found, recorded⟩

theorem spares_issueMatch (matchId serverId mapId : String) (owner : AssignedActor) (now : Int)
    (db : Database) : Spares db ((issueMatch matchId serverId mapId owner now db).getD db) := by
  cases issues : issueMatch matchId serverId mapId owner now db with
  | none => exact .refl db
  | some after =>
    unfold issueMatch at issues
    simp only [Option.bind_eq_bind, Option.bind_eq_some_iff, Option.pure_def,
      Option.some.injEq] at issues
    obtain ⟨rows, inserts, _, _, rfl⟩ := issues
    exact spares_insert inserts rfl

theorem spares_confirmRoom (matchId roomId mapId : String) (db : Database) :
    Spares db (confirmRoom matchId roomId mapId db) :=
  spares_modify (f := fun row => { row with roomId := some roomId, mapId }) (fun _ => rfl) rfl rfl
    fun _ done => done

theorem spares_reassignPendingMatch (matchId roomId serverId : String) (db : Database) :
    Spares db (reassignPendingMatch matchId roomId serverId db) := by
  refine spares_modify (fun row => ?_) rfl rfl fun row done => ?_
  · split <;> rfl
  split
  · exact done
  · exact done

theorem spares_discardIssuedMatch (matchId : String) (db : Database) :
    Spares db (discardIssuedMatch matchId db) := by
  unfold discardIssuedMatch
  split
  · rename_i pending
    refine ⟨?_, rfl⟩
    rintro id ⟨row, found, done⟩
    refine ⟨row, ?_, done⟩
    dsimp only
    rw [KeyedList.get?_delete, if_neg ?_]
    · exact found
    · rintro rfl
      rw [found, Option.any_some, done] at pending
      cases pending
  · exact .refl db

theorem spares_addAssignmentByRoom (roomId : String) (actor : AssignedActor) (db : Database) :
    Spares db (addAssignmentByRoom roomId actor db).2 := by
  unfold addAssignmentByRoom
  split
  · exact .refl db
  · exact ⟨fun _ => id, rfl⟩

theorem spares_issueNextMatch {finished : MatchResultMessage} {owner : String} {now : Int}
    {db after : Database} {successor : Option String}
    (issues : issueNextMatch sha256 finished owner now db = some (successor, after)) :
    Spares db after := by
  rcases (issueNextMatch_some issues).1 with rfl | ⟨_, _, inserts, users⟩
  · exact .refl _
  · exact spares_insert inserts users

theorem recorded_writeResult {result : MatchResultMessage} {now : Int} {db after : Database}
    (writes : writeResult K result now db = some after) {matchId : MatchId}
    (recorded : Recorded db matchId) : Recorded after matchId := by
  obtain ⟨row, found, done⟩ := recorded
  rw [Recorded, get?_matchRows_of_write writes]
  split
  · exact ⟨recordedRow result now row, by rw [found]; rfl, rfl⟩
  · exact ⟨row, found, done⟩

/-! ## The books of a run -/

/-- The statistics an account had at the start, or has when it registers. -/
def statsAtStart (start : Database) (userId : Nat) : AccountStats :=
  ((start.users.get? userId).map UserRow.stats).getD {}

def countedFor (counted : List (MatchId × AccountStatsDelta)) (userId : Nat) :
    List AccountStatsDelta :=
  (counted.map Prod.snd).filter fun delta => delta.userId = userId

structure Books (K : Type) [JsNumber K] (start : Database) (m : MatchServer) : Prop where
  consistent : ∀ d ∈ m.deliveries, ∀ result, d.task = .decoded result → Consistent result
  recorded : ∀ result ∈ m.stored, Recorded m.db (uuid result.matchId)
  once : (m.stored.map fun result => uuid result.matchId).Nodup
  source : ∀ entry ∈ m.counted, ∃ result ∈ m.stored, uuid result.matchId = entry.1 ∧
    entry.2 ∈ accountStatsDeltas K result
  countedOnce : (m.counted.map fun entry => (entry.1, entry.2.userId)).Nodup
  known : ∀ entry ∈ m.counted, (m.db.users.get? entry.2.userId).isSome
  present : ∀ userId, (start.users.get? userId).isSome → (m.db.users.get? userId).isSome
  stats : ∀ userId user, m.db.users.get? userId = some user → user.accountStatus ≠ .deleted →
    user.stats = (countedFor m.counted userId).foldl AccountStats.add (statsAtStart start userId)

theorem books_start (start : Database) : Books K start (MatchServer.start start) where
  consistent _ member := (List.not_mem_nil member).elim
  recorded _ member := (List.not_mem_nil member).elim
  once := List.nodup_nil
  source _ member := (List.not_mem_nil member).elim
  countedOnce := List.nodup_nil
  known _ member := (List.not_mem_nil member).elim
  present _ there := there
  stats userId user found _ := by
    change user.stats = statsAtStart start userId
    rw [statsAtStart, show start.users.get? userId = some user from found]
    rfl

/-- A transaction that spares records and accounts keeps the books. -/
theorem Books.spared {start db : Database} {m : MatchServer} {deliveries : List Delivery}
    {commands : List (String × GrantMatchCommand)} {receipts : List MatchId}
    {acknowledged : List String} (books : Books K start m) (spares : Spares m.db db)
    (consistent : ∀ d ∈ deliveries, ∀ result, d.task = .decoded result → Consistent result) :
    Books K start ⟨db, deliveries, commands, receipts, acknowledged, m.stored, m.counted⟩ where
  consistent := consistent
  recorded result member := spares.recorded _ (books.recorded result member)
  once := books.once
  source := books.source
  countedOnce := books.countedOnce
  known entry member := by
    dsimp only
    rw [spares.users]
    exact books.known entry member
  present userId there := by
    dsimp only
    rw [spares.users]
    exact books.present userId there
  stats userId user found alive := books.stats userId user (spares.users ▸ found) alive

theorem mem_countedDeltas {result : MatchResultMessage} {db : Database} {delta : AccountStatsDelta}
    (member : delta ∈ countedDeltas K result db) :
    delta ∈ accountStatsDeltas K result ∧ (db.users.get? delta.userId).isSome := by
  obtain ⟨inside, active⟩ := List.mem_filter.mp member
  refine ⟨inside, ?_⟩
  unfold Database.isActive at active
  cases found : db.users.get? delta.userId with
  | none =>
    rw [found] at active
    cases active
  | some user => rfl

/-- The id of a result that is stored was not recorded, so it is new in the books. -/
theorem Books.store {start after : Database} {m : MatchServer} {result : MatchResultMessage}
    {now : Int} (books : Books K start m) (consistent : Consistent result)
    (issued : IssuedTo m.db (uuid result.matchId) result.serverId result.roomId)
    (writes : writeResult K result now m.db = some after) {deliveries : List Delivery}
    (others : ∀ d ∈ deliveries, ∀ result, d.task = .decoded result → Consistent result) :
    Books K start { m with
      db := after
      deliveries
      stored := m.stored ++ [result]
      counted := m.counted ++
        (countedDeltas K result m.db).map fun delta => (uuid result.matchId, delta) } := by
  obtain ⟨row, found, pending, _⟩ := issued
  have fresh : ∀ old ∈ m.stored, uuid old.matchId ≠ uuid result.matchId := by
    intro old member same
    obtain ⟨recorded, stands, done⟩ := books.recorded old member
    rw [same, found] at stands
    cases stands
    rw [pending] at done
    cases done
  have someUsers : ∀ userId, (after.users.get? userId).isSome = (m.db.users.get? userId).isSome := by
    intro userId
    have stats := congrArg Option.isSome (statsOf_of_write writes userId)
    simpa [Database.statsOf] using stats
  have deltasOnce : ((countedDeltas K result m.db).map AccountStatsDelta.userId).Nodup :=
    (accountStatsDeltas_nodup K consistent).sublist (List.filter_sublist.map _)
  refine ⟨others, ?_, ?_, ?_, ?_, ?_, ?_, ?_⟩
  · intro old member
    rcases List.mem_append.mp member with before | here
    · exact recorded_writeResult writes (books.recorded old before)
    · rw [List.mem_singleton.mp here]
      exact recorded_of_write writes (found.symm ▸ rfl)
  · dsimp only
    rw [List.map_append, List.map_singleton]
    refine List.nodup_append.mpr ⟨books.once, List.nodup_singleton _, ?_⟩
    intro id member other single
    obtain ⟨old, before, rfl⟩ := List.mem_map.mp member
    rw [List.mem_singleton.mp single]
    exact fresh old before
  · intro entry member
    rcases List.mem_append.mp member with before | here
    · obtain ⟨old, inside, facts⟩ := books.source entry before
      exact ⟨old, List.mem_append_left _ inside, facts⟩
    · obtain ⟨delta, counts, rfl⟩ := List.mem_map.mp here
      exact ⟨result, List.mem_append_right _ (List.mem_singleton_self _), rfl,
        (mem_countedDeltas counts).1⟩
  · dsimp only
    rw [List.map_append, List.map_map]
    refine List.nodup_append.mpr ⟨books.countedOnce, ?_, ?_⟩
    · have keys : (countedDeltas K result m.db).map
          ((fun entry : MatchId × AccountStatsDelta => (entry.1, entry.2.userId)) ∘
            fun delta => (uuid result.matchId, delta)) =
          ((countedDeltas K result m.db).map AccountStatsDelta.userId).map
            fun userId => (uuid result.matchId, userId) := by
        rw [List.map_map]
        rfl
      rw [keys]
      exact deltasOnce.map fun _ _ same => (Prod.mk.inj same).2
    · intro key member other there same
      obtain ⟨entry, before, rfl⟩ := List.mem_map.mp member
      obtain ⟨delta, _, rfl⟩ := List.mem_map.mp there
      obtain ⟨old, inside, origin, _⟩ := books.source entry before
      exact fresh old inside (origin.trans (Prod.mk.inj same).1)
  · intro entry member
    dsimp only
    rw [someUsers]
    rcases List.mem_append.mp member with before | here
    · exact books.known entry before
    · obtain ⟨delta, counts, rfl⟩ := List.mem_map.mp here
      exact (mem_countedDeltas counts).2
  · intro userId there
    dsimp only
    rw [someUsers]
    exact books.present userId there
  · intro userId user stands alive
    dsimp only at stands ⊢
    rw [(writeResult_some writes).1, get?_foldl_addStats] at stands
    obtain ⟨before, inside, rfl⟩ := Option.map_eq_some_iff.mp stands
    have sameStatus : before.accountStatus ≠ .deleted := by
      split at alive <;> exact alive
    have old := books.stats userId before inside sameStatus
    have total := statsOf_of_write writes userId
    unfold Database.statsOf at total
    rw [(writeResult_some writes).1, get?_foldl_addStats, inside] at total
    simp only [Option.map_some, Option.some.injEq] at total
    rw [total, old, countedFor, countedFor, List.map_append, List.filter_append, List.foldl_append,
      List.map_map]
    have plain : Prod.snd ∘ (fun delta : AccountStatsDelta => (uuid result.matchId, delta)) = id := rfl
    rw [plain, List.map_id]

/-! ## Runs -/

/-- An operator's change of an account and a registration leave the statistics of the accounts that
stay. -/
theorem Books.accounts {start db : Database} {m : MatchServer} (books : Books K start m)
    (rows : db.matchRows = m.db.matchRows)
    (known : ∀ userId, (m.db.users.get? userId).isSome → (db.users.get? userId).isSome)
    (stats : ∀ userId user, db.users.get? userId = some user → user.accountStatus ≠ .deleted →
      (∃ old, m.db.users.get? userId = some old ∧ old.accountStatus ≠ .deleted ∧
        user.stats = old.stats) ∨
      (m.db.users.get? userId = none ∧ user.stats = {})) :
    Books K start { m with db } where
  consistent := books.consistent
  recorded result member := by
    obtain ⟨row, found, done⟩ := books.recorded result member
    exact ⟨row, rows.symm ▸ found, done⟩
  once := books.once
  source := books.source
  countedOnce := books.countedOnce
  known entry member := known _ (books.known entry member)
  present userId there := known _ (books.present userId there)
  stats userId user found alive := by
    rcases stats userId user found alive with ⟨old, stands, same, equal⟩ | ⟨absent, empty⟩
    · exact equal.trans (books.stats userId old stands same)
    · -- Nothing was counted for an account that was not there.
      have nothing : countedFor m.counted userId = [] := by
        rw [countedFor, List.filter_eq_nil_iff]
        intro delta member whose
        obtain ⟨entry, inside, rfl⟩ := List.mem_map.mp member
        have there := books.known entry inside
        rw [of_decide_eq_true whose, absent] at there
        cases there
      have fresh : start.users.get? userId = none := by
        cases there : start.users.get? userId with
        | none => rfl
        | some old =>
          have stays := books.present userId (there.symm ▸ rfl)
          rw [absent] at stays
          cases stays
      dsimp only
      rw [nothing, empty, statsAtStart, fresh]
      rfl

theorem books_register {start : Database} {m : MatchServer} (books : Books K start m)
    (userId : Nat) : Books K start { m with db := register userId m.db } := by
  have users : ∀ other, (register userId m.db).users.get? other =
      if other = userId then (m.db.users.get? other).or
        (some { id := userId, accountStatus := .active, stats := {} })
      else m.db.users.get? other :=
    fun other => KeyedList.get?_insertNew ..
  refine books.accounts rfl ?_ ?_
  · intro other there
    rw [users]
    split
    · rw [Option.isSome_or, there, Bool.true_or]
    · exact there
  · intro other user found alive
    rw [users] at found
    split at found
    · cases before : m.db.users.get? other with
      | none =>
        rw [before, Option.none_or] at found
        cases found
        exact .inr ⟨rfl, rfl⟩
      | some old =>
        rw [before, Option.some_or] at found
        cases found
        exact .inl ⟨_, rfl, alive, rfl⟩
    · exact .inl ⟨user, found, alive, rfl⟩

theorem books_setAccountStatus {start : Database} {m : MatchServer} (books : Books K start m)
    (userId : Nat) (status : AccountStatus) :
    Books K start { m with db := setAccountStatus userId status m.db } := by
  have users : ∀ other, (setAccountStatus userId status m.db).users.get? other =
      if other = userId then (m.db.users.get? other).map (UserRow.withStatus status)
      else m.db.users.get? other :=
    fun other => @KeyedList.get?_modify _ _ _ _ m.db.users _ (UserRow.withStatus_id status) userId other
  refine books.accounts rfl ?_ ?_
  · intro other there
    rw [users]
    split
    · rw [Option.isSome_map]
      exact there
    · exact there
  · intro other user found alive
    rw [users] at found
    split at found
    · obtain ⟨old, before, rfl⟩ := Option.map_eq_some_iff.mp found
      refine .inl ⟨old, before, ?_⟩
      unfold UserRow.withStatus at alive ⊢
      split at alive
      · contradiction
      · rename_i standing
        refine ⟨standing, ?_⟩
        split at alive
        · exact absurd rfl alive
        · rename_i kept
          rw [if_neg standing, if_neg kept]
    · exact .inl ⟨user, found, alive, rfl⟩

variable [JsonNumber K]

/-- A step of a delivery keeps the books, and a result that goes on was read by the decoder. -/
theorem books_processEntry {start : Database} {m : MatchServer} (books : Books K start m)
    {env : Surroundings} {entryId : String} {task : Task}
    (reads : ∀ result, task = .decoded result → Consistent result) :
    (∀ deliveries, (∀ d ∈ deliveries, ∀ result, d.task = .decoded result → Consistent result) →
      Books K start { (processEntry K sha256 env entryId m task).1 with deliveries }) ∧
    ∀ result, (processEntry K sha256 env entryId m task).2 = some (.decoded result) →
      Consistent result := by
  have spared : ∀ (after : MatchServer) (next : Option Task),
      processEntry K sha256 env entryId m task = (after, next) → Spares m.db after.db →
      after.stored = m.stored → after.counted = m.counted →
      (∀ result, next ≠ some (.decoded result)) →
      (∀ deliveries, (∀ d ∈ deliveries, ∀ result, d.task = .decoded result → Consistent result) →
        Books K start { (processEntry K sha256 env entryId m task).1 with deliveries }) ∧
      ∀ result, (processEntry K sha256 env entryId m task).2 = some (.decoded result) →
        Consistent result := by
    intro after next step spares stored counted other
    rw [step]
    refine ⟨fun deliveries others => ?_, fun result decoded => absurd decoded (other result)⟩
    dsimp only
    rw [stored, counted]
    exact books.spared spares others
  cases task with
  | received raw =>
    cases raw with
    | none => exact spared m (some .processed) rfl (.refl _) rfl rfl nofun
    | some raw =>
      cases decodes : decodeMatchResult K raw with
      | error _ =>
        exact spared m (some .processed) (by simp only [processEntry, decodes]) (.refl _) rfl rfl
          nofun
      | ok result =>
        have step : processEntry K sha256 env entryId m (.received (some raw)) =
            (m, some (.decoded result)) := by simp only [processEntry, decodes]
        rw [step]
        refine ⟨fun _ others => books.spared (.refl _) others, ?_⟩
        rintro _ ⟨⟩
        exact consistent_of_decode decodes
  | decoded result =>
    cases records : record K result env.now m.db with
    | none =>
      exact spared m none (by simp only [processEntry, records]) (.refl _) rfl rfl nofun
    | some outcome =>
      obtain ⟨outcome, after⟩ := outcome
      rcases record_cases records with ⟨notStored, rfl⟩ | ⟨rfl, issued, _, writes⟩
      · cases outcome with
        | stored => exact absurd rfl notStored
        | duplicate =>
          exact spared m (some (.recorded result)) (by simp only [processEntry, records]) (.refl _)
            rfl rfl nofun
        | invalid =>
          exact spared m (some .processed) (by simp only [processEntry, records]) (.refl _) rfl rfl
            nofun
      · simp only [processEntry, records]
        exact ⟨fun _ others => books.store (reads result rfl) issued writes others, nofun⟩
  | recorded result => exact spared m _ rfl (.refl _) rfl rfl nofun
  | owned result owner =>
    cases issues : issueNextMatch sha256 result owner env.now m.db with
    | none => exact spared m none (by simp only [processEntry, issues]) (.refl _) rfl rfl nofun
    | some outcome =>
      obtain ⟨successor, after⟩ := outcome
      have spares := spares_issueNextMatch issues
      cases successor with
      | none =>
        exact spared { m with db := after } (some (.granted result))
          (by simp only [processEntry, issues]) spares rfl rfl nofun
      | some matchId =>
        exact spared { m with db := after } (some (.issued result owner matchId))
          (by simp only [processEntry, issues]) spares rfl rfl nofun
  | issued result owner matchId =>
    exact spared _ _ rfl (spares_reassignPendingMatch ..) rfl rfl nofun
  | reassigned result owner matchId => exact spared _ _ rfl (.refl _) rfl rfl nofun
  | granted result => exact spared _ _ rfl (.refl _) rfl rfl nofun
  | processed => exact spared _ _ rfl (.refl _) rfl rfl nofun

theorem books_apply {start : Database} {m : MatchServer} (books : Books K start m)
    (event : MatchingEvent) : Books K start (m.apply K sha256 event) := by
  cases event with
  | deliver entryId raw =>
    refine books.spared (.refl _) ?_
    intro d member result decoded
    rcases List.mem_append.mp member with before | here
    · exact books.consistent d before result decoded
    · rw [List.mem_singleton.mp here] at decoded
      cases decoded
  | proceed index env =>
    unfold MatchServer.apply
    dsimp only
    split
    · exact books
    · rename_i entryId task found
      have inside : ⟨entryId, task⟩ ∈ m.deliveries := List.mem_of_getElem? found
      obtain ⟨step, next⟩ := books_processEntry books fun result decoded => books.consistent _ inside result decoded
      refine step _ ?_
      intro d member result decoded
      split at member
      · rename_i task' goesOn
        rcases List.mem_or_eq_of_mem_set member with before | rfl
        · exact books.consistent d before result decoded
        · exact next result (goesOn.trans (congrArg some decoded))
      · exact books.consistent d (List.mem_of_mem_eraseIdx member) result decoded
  | lose index =>
    exact books.spared (.refl _) fun d member =>
      books.consistent d (List.mem_of_mem_eraseIdx member)
  | issueMatch matchId serverId mapId owner now =>
    exact books.spared (spares_issueMatch ..) books.consistent
  | confirmRoom matchId roomId mapId => exact books.spared (spares_confirmRoom ..) books.consistent
  | discardIssuedMatch matchId => exact books.spared (spares_discardIssuedMatch ..) books.consistent
  | reassignPendingMatch matchId roomId serverId =>
    exact books.spared (spares_reassignPendingMatch ..) books.consistent
  | addAssignmentByRoom roomId actor =>
    exact books.spared (spares_addAssignmentByRoom ..) books.consistent
  | removeAssignment matchId actorId =>
    exact books.spared ⟨fun _ => id, rfl⟩ books.consistent
  | register userId => exact books_register books userId
  | setAccountStatus userId status => exact books_setAccountStatus books userId status

theorem nextMatchId_congr {first second : String} (same : uuid first = uuid second) :
    nextMatchId sha256 first = nextMatchId sha256 second := by
  unfold uuid at same
  unfold nextMatchId
  rw [same]

/-- In every run each match is recorded once and counted once for an account, a result is recorded
for an id that stands on its server and on no other room, and a finished match has one successor,
which waits for its result. -/
theorem results_recorded_once {start : Database} {m : MatchServer}
    (run : Reach (fun _ _ => True) (MatchServer.apply K sha256) (MatchServer.start start) m) :
    (m.stored.map fun result => uuid result.matchId).Nodup ∧
    ((m.counted.map fun entry => (entry.1, entry.2.userId)).Nodup ∧
      (∀ entry ∈ m.counted, ∃ result ∈ m.stored, uuid result.matchId = entry.1 ∧
        entry.2 ∈ accountStatsDeltas K result) ∧
      ∀ userId user, m.db.users.get? userId = some user → user.accountStatus ≠ .deleted →
        user.stats =
          (countedFor m.counted userId).foldl AccountStats.add (statsAtStart start userId)) ∧
    (∀ result now after, record K result now m.db = some (.stored, after) →
      IssuedTo m.db (uuid result.matchId) result.serverId result.roomId ∧
      isAssignedParticipantSubset result (m.db.assignmentsOf (uuid result.matchId)) = true ∧
      ∀ old ∈ m.stored, uuid old.matchId ≠ uuid result.matchId) ∧
    (∀ finished owner now after matchId,
      issueNextMatch sha256 finished owner now m.db = some (some matchId, after) →
      (∀ other db owner now after matchId', uuid other.matchId = uuid finished.matchId →
        issueNextMatch sha256 other owner now db = some (some matchId', after) →
        matchId' = matchId) ∧
      ¬Recorded m.db (uuid matchId) ∧ ∀ old ∈ m.stored, uuid old.matchId ≠ uuid matchId) := by
  have books : Books K start m :=
    run.invariant (books_start start) fun _ event before _ => books_apply before event
  refine ⟨books.once, ⟨books.countedOnce, books.source, books.stats⟩, ?_, ?_⟩
  · intro result now after records
    rcases record_cases records with ⟨notStored, _⟩ | ⟨_, issued, subset, _⟩
    · exact absurd rfl notStored
    · refine ⟨issued, subset, ?_⟩
      intro old member same
      obtain ⟨row, found, pending, _⟩ := issued
      obtain ⟨recorded, stands, done⟩ := books.recorded old member
      rw [same, found] at stands
      cases stands
      rw [pending] at done
      cases done
  · intro finished owner now after matchId issues
    obtain ⟨same, row, found, pending, _⟩ := (issueNextMatch_some issues).2 matchId rfl
    have waits : ¬Recorded m.db (uuid matchId) := by
      intro recorded
      obtain ⟨old, stands, done⟩ := (spares_issueNextMatch issues).recorded _ recorded
      rw [found] at stands
      cases stands
      rw [pending] at done
      cases done
    refine ⟨?_, waits, ?_⟩
    · intro other db owner' now' after' matchId' sameMatch issuesToo
      rw [((issueNextMatch_some issuesToo).2 matchId' rfl).1, same]
      exact nextMatchId_congr sameMatch
    · intro old member equal
      exact waits (equal ▸ books.recorded old member)

/-! ## A match that has no room yet -/

def hostGuest : AssignedActor := ⟨.guest "guest:host", "host", true⟩

def hostResult (roomId : String) : MatchResultMessage :=
  { v := 1, matchId := "m", roomId, serverId := "server", mapId := "map", startedAt := 0, endedAt := 9
    durationTicks := 1, buildId := "b", protocolVersion := 2, rulesVersion := "r"
    mapBundleHash := "h", visibilityCoreVersion := 1, winnerPlayerIds := [1], replay := none
    players := [⟨none, 1, "host", 0, true, 0, 0, 0, 0, 0⟩] }

def issuedServer : MatchServer :=
  (MatchServer.start emptyDatabase).apply ℚ id (.issueMatch "m" "server" "map" hostGuest 0)

theorem unconfirmed_room_is_recorded :
    (record ℚ (hostResult "another room") 5 issuedServer.db).map Prod.fst = some .stored ∧
      (issuedServer.db.matchRows.get? "m").map MatchRow.roomId = some none := by
  decide +kernel

theorem confirmed_room_is_recorded :
    ∃ after, record ℚ (hostResult "room") 5
        (issuedServer.apply ℚ id (.confirmRoom "m" "room" "map")).db = some (.stored, after) ∧
      IssuedTo (issuedServer.apply ℚ id (.confirmRoom "m" "room" "map")).db "m" "server" "room" := by
  have stores : (record ℚ (hostResult "room") 5
      (issuedServer.apply ℚ id (.confirmRoom "m" "room" "map")).db).map Prod.fst = some .stored := by
    decide +kernel
  obtain ⟨⟨outcome, after⟩, records, same⟩ := Option.map_eq_some_iff.mp stores
  cases same
  exact ⟨after, records, ((results_recorded_once (.step (.step .refl trivial) trivial)).2.2.1 _ _ _
    records).1⟩

end SwitchRemake.Matching

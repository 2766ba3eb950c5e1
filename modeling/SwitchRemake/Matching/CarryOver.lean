import SwitchRemake.Matching.JoinLaws
import SwitchRemake.Matching.ResultRun

/-!
# Who is on the list of the next match

The transactions on one room with each statement on what is committed when it starts. A join picks a
row, waits for its lock and asks again only whether the row is of the room. What the others do is one
step, for they pick their rows by id.
-/

namespace SwitchRemake.Matching
open Lib
open Protocol (Bytes)

variable {K : Type} [JsNumber K] {sha256 : Bytes → Bytes} {db after : Database} {roomId : String}
  {matchId : MatchId}

/-! ## The steps -/

structure PendingJoin where
  actor : AssignedActor
  matchId : MatchId
  deriving DecidableEq

/-- `admitted` keeps the actors that have joined and have not been taken off the list of the room's match
since. -/
structure RoomTables where
  db : Database
  joins : List PendingJoin
  admitted : List AssignedActor

inductive RoomTransaction where
  | select (actor : AssignedActor)
  | insert (index : Nat)
  | removeAssignment (matchId : MatchId) (actorId : ActorId)
  | record (result : MatchResultMessage) (now : Int)
  | issueNextMatch (finished : MatchResultMessage) (ownerServerId : String) (now : Int)

/-- `addAssignmentByRoom` once it has the lock. -/
def insertAssignment (roomId : String) (join : PendingJoin) (db : Database) : Option Database :=
  if (db.matchRows.get? join.matchId).any fun row => row.roomId = some roomId then
    some (withAssignment db join.matchId join.actor)
  else none

def RoomTables.apply (K : Type) [JsNumber K] (sha256 : Bytes → Bytes) (roomId : String)
    (t : RoomTables) : RoomTransaction → RoomTables
  | .select actor =>
    match currentMatch roomId t.db with
    | none => t
    | some row => { t with joins := t.joins ++ [⟨actor, row.matchId⟩] }
  | .insert index =>
    match t.joins[index]? with
    | none => t
    | some join =>
      match insertAssignment roomId join t.db with
      | none => { t with joins := t.joins.eraseIdx index }
      | some db => ⟨db, t.joins.eraseIdx index, t.admitted ++ [join.actor]⟩
  | .removeAssignment matchId actorId =>
    { t with
      db := removeAssignment matchId actorId t.db
      admitted := if playsNow t.db roomId matchId then
          t.admitted.filter fun actor => actorText actor.id ≠ actorText actorId
        else t.admitted }
  | .record result now =>
    match record K result now t.db with
    | none => t
    | some (_, db) => { t with db }
  | .issueNextMatch finished ownerServerId now =>
    match issueNextMatch sha256 finished ownerServerId now t.db with
    | none => t
    | some (_, db) => { t with db }

/-- Everyone who has been admitted is on the list of the room's match. -/
def Carried (roomId : String) (t : RoomTables) : Prop :=
  ∀ actor ∈ t.admitted, ∀ row, currentMatch roomId t.db = some row →
    (t.db.matchAssignments.get? (row.matchId, actorText actor.id)).isSome

instance Carried.decidable (roomId : String) (t : RoomTables) : Decidable (Carried roomId t) :=
  decidable_of_iff (∀ actor ∈ t.admitted, (currentMatch roomId t.db).all (fun row =>
    (t.db.matchAssignments.get? (row.matchId, actorText actor.id)).isSome) = true) <| by
    unfold Carried
    cases currentMatch roomId t.db <;> simp

/-- The row that a join has picked is still the room's match when the join gets its lock, and a match is
created later than those there are. -/
def Undisturbed (roomId : String) (t : RoomTables) : RoomTransaction → Prop
  | .insert index => ∀ join ∈ t.joins[index]?, playsNow t.db roomId join.matchId = true
  | .issueNextMatch _ _ now => ∀ row ∈ t.db.matchRows.entries, row.createdAt < now
  | _ => True

instance Undisturbed.decidable (roomId : String) (t : RoomTables) :
    ∀ step, Decidable (Undisturbed roomId t step)
  | .select _ => isTrue trivial
  | .insert index =>
    decidable_of_iff ((t.joins[index]?).all (fun join => playsNow t.db roomId join.matchId) = true)
      (Option.all_eq_true ..)
  | .removeAssignment _ _ => isTrue trivial
  | .record _ _ => isTrue trivial
  | .issueNextMatch _ _ now =>
    inferInstanceAs (Decidable (∀ row ∈ t.db.matchRows.entries, row.createdAt < now))

/-! ## The matches of a room -/

/-- The room's matches follow each other, and only the last may wait for its result. -/
structure Chain (sha256 : Bytes → Bytes) (roomId : String) (newest : MatchRow) (db : Database) :
    Prop where
  found : db.matchRows.get? newest.matchId = some newest
  room : newest.roomId = some roomId
  older : ∀ row ∈ db.matchRows.entries, row.roomId = some roomId → row.matchId ≠ newest.matchId →
    row.unrecorded = false ∧ row.createdAt < newest.createdAt ∧
      ∀ matchId, uuid matchId = row.matchId →
        (db.matchRows.get? (uuid (nextMatchId sha256 matchId))).isSome
  confirmed : ∀ row ∈ db.matchRows.entries, row.roomId.isSome

theorem fold_before {newest : MatchRow} (rows : List MatchRow)
    (first : ∀ row ∈ rows, row.matchId ≠ newest.matchId →
      newest.before row = true ∧ row.before newest = false)
    (unique : ∀ row ∈ rows, row.matchId = newest.matchId → row = newest) :
    ∀ best : Option MatchRow, (best = some newest ∨ newest ∈ rows ∧ ∀ row ∈ best,
        newest.before row = true) →
      rows.foldl (fun best row => match best with
        | none => some row
        | some first => if row.before first then some row else some first) best = some newest := by
  induction rows with
  | nil =>
    rintro best (rfl | ⟨none, _⟩)
    · rfl
    · cases none
  | cons row rest ih =>
    intro best stands
    have later := ih (fun other member => first other (List.mem_cons_of_mem _ member))
      (fun other member => unique other (List.mem_cons_of_mem _ member))
    rw [List.foldl_cons]
    apply later
    by_cases same : row.matchId = newest.matchId
    · left
      obtain rfl := unique row List.mem_cons_self same
      rcases stands with rfl | ⟨_, behind⟩
      · dsimp only
        split <;> rfl
      · cases best with
        | none => rfl
        | some old =>
          dsimp only
          rw [if_pos (behind old rfl)]
    · obtain ⟨ahead, behind⟩ := first row List.mem_cons_self same
      rcases stands with rfl | ⟨member, before⟩
      · left
        dsimp only
        rw [if_neg (Bool.eq_false_iff.mp behind)]
      · right
        refine ⟨(List.mem_cons.mp member).resolve_left fun here => same (here ▸ rfl), ?_⟩
        cases best with
        | none =>
          rintro _ ⟨⟩
          exact ahead
        | some old =>
          intro other chosen
          dsimp only at chosen
          split at chosen
          · cases chosen
            exact ahead
          · cases chosen
            exact before old rfl

theorem Chain.currentMatch {newest : MatchRow} (chain : Chain sha256 roomId newest db) :
    currentMatch roomId db = some newest := by
  obtain ⟨member, _⟩ := KeyedList.mem_of_get? chain.found
  have inRoom : newest ∈ db.matchRows.entries.filter fun row => row.roomId = some roomId :=
    List.mem_filter.mpr ⟨member, decide_eq_true chain.room⟩
  unfold Matching.currentMatch
  apply fold_before
  · intro row inside differs
    obtain ⟨inside, room⟩ := List.mem_filter.mp inside
    obtain ⟨recorded, older, _⟩ := chain.older row inside (of_decide_eq_true room) differs
    unfold MatchRow.before
    rw [recorded]
    cases newest.unrecorded with
    | false => simp [older, Int.le_of_lt older]
    | true => simp
  · intro row inside same
    exact KeyedList.eq_of_key (List.mem_filter.mp inside).1 member same
  · right
    exact ⟨inRoom, fun _ chosen => by cases chosen⟩

theorem Chain.playsNow {newest : MatchRow} (chain : Chain sha256 roomId newest db)
    {matchId : MatchId} : playsNow db roomId matchId = true ↔ newest.matchId = matchId := by
  rw [playsNow_iff, chain.currentMatch]
  simp

theorem Chain.congr {newest : MatchRow} (chain : Chain sha256 roomId newest db)
    (same : after.matchRows = db.matchRows) : Chain sha256 roomId newest after := by
  constructor
  · rw [same]
    exact chain.found
  · exact chain.room
  · rw [same]
    exact chain.older
  · rw [same]
    exact chain.confirmed

/-! ## Recording and issuing -/

theorem Chain.record {newest : MatchRow} (chain : Chain sha256 roomId newest db)
    {result : MatchResultMessage} {now : Int}
    (writes : writeResult K result now db = some after)
    (issued : IssuedTo db (uuid result.matchId) result.serverId result.roomId) :
    ∃ newest', newest'.matchId = newest.matchId ∧ newest'.createdAt = newest.createdAt ∧
      Chain sha256 roomId newest' after := by
  -- a stored result leaves the row in its room
  have stands : ∀ matchId row, db.matchRows.get? matchId = some row → ∃ row',
      after.matchRows.get? matchId = some row' ∧ row'.matchId = row.matchId ∧
        row'.roomId = row.roomId ∧ row'.createdAt = row.createdAt := by
    intro matchId row found
    rw [get?_matchRows_of_write writes, found]
    split
    · rename_i same
      obtain ⟨old, there, _, _, room⟩ := issued
      rw [← same, found] at there
      cases there
      refine ⟨_, rfl, rfl, ?_, rfl⟩
      have confirmed := chain.confirmed row (KeyedList.mem_of_get? found).1
      rcases room with none | room
      · rw [none] at confirmed
        cases confirmed
      · exact room.symm
    · exact ⟨row, rfl, rfl, rfl, rfl⟩
  have before : ∀ row ∈ after.matchRows.entries, ∃ old ∈ db.matchRows.entries,
      row.matchId = old.matchId ∧ row.roomId = old.roomId ∧ row.createdAt = old.createdAt ∧
        (old.unrecorded = false → row.unrecorded = false) := by
    intro row member
    have found := KeyedList.get?_of_mem member
    rw [get?_matchRows_of_write writes] at found
    split at found
    · obtain ⟨old, there, rfl⟩ := Option.map_eq_some_iff.mp found
      obtain ⟨row', now, _, room, _⟩ := stands _ old there
      rw [get?_matchRows_of_write writes, if_pos (by assumption), there] at now
      cases now
      exact ⟨old, (KeyedList.mem_of_get? there).1, rfl, room, rfl, fun _ => rfl⟩
    · exact ⟨row, (KeyedList.mem_of_get? found).1, rfl, rfl, rfl, id⟩
  obtain ⟨newest', found, same, room, created⟩ := stands _ newest chain.found
  refine ⟨newest', same, created, ?_⟩
  constructor
  · rw [same]
    exact found
  · rw [room]
    exact chain.room
  · intro row member inRoom differs
    obtain ⟨old, inside, id, room', time, recorded⟩ := before row member
    obtain ⟨done, earlier, next⟩ :=
      chain.older old inside (room' ▸ inRoom) (by rw [← id, ← same]; exact differs)
    refine ⟨recorded done, by rw [time, created]; exact earlier, ?_⟩
    intro matchId named
    obtain ⟨successor, present⟩ := Option.isSome_iff_exists.mp (next matchId (named.trans id))
    obtain ⟨row', there, _⟩ := stands _ successor present
    rw [there]
    rfl
  · intro row member
    obtain ⟨old, inside, _, room', _⟩ := before row member
    rw [room']
    exact chain.confirmed old inside

/-- A successor is created from a recorded match of the room, and takes over its list. -/
theorem issueNextMatch_cases {finished : MatchResultMessage} {owner : String} {now : Int}
    {successor : Option String}
    (issues : issueNextMatch sha256 finished owner now db = some (successor, after)) :
    after = db ∨ ∃ source row, db.matchRows.get? (uuid finished.matchId) = some source ∧
      ¬source.unrecorded = true ∧ source.roomId = some finished.roomId ∧
      row.matchId = uuid (nextMatchId sha256 finished.matchId) ∧ row.roomId = some finished.roomId ∧
      row.createdAt = now ∧ db.matchRows.insert? row = some after.matchRows ∧
      db.matchAssignments.insertAll? ((db.assignmentsOf (uuid finished.matchId)).map fun a =>
        { a with matchId := row.matchId }) = some after.matchAssignments := by
  unfold issueNextMatch at issues
  split at issues
  · cases issues
    exact .inl rfl
  · rename_i source found
    split at issues
    · cases issues
      exact .inl rfl
    · rename_i authority
      dsimp only at issues
      split at issues
      · left
        split at issues
        · cases issues
          rfl
        · cases issues
          rfl
      · split at issues
        · cases issues
          exact .inl rfl
        · simp only [Option.bind_eq_bind, Option.bind_eq_some_iff, Option.pure_def,
            Option.some.injEq, Prod.mk.injEq] at issues
          obtain ⟨rows, inserts, lists, copies, _, rfl⟩ := issues
          simp only [Bool.or_eq_true, decide_eq_true_eq, not_or, not_not] at authority
          right
          exact ⟨source, issuedRow (uuid (nextMatchId sha256 finished.matchId)) owner source.mapId
            (some finished.roomId) now, found, authority.1.1, authority.1.2, rfl, rfl, rfl, inserts,
            copies⟩

theorem Chain.issue {newest : MatchRow} (chain : Chain sha256 roomId newest db)
    {finished : MatchResultMessage} {owner : String} {now : Int} {successor : Option String}
    (later : ∀ row ∈ db.matchRows.entries, row.createdAt < now)
    (issues : issueNextMatch sha256 finished owner now db = some (successor, after)) :
    ∃ newest', Chain sha256 roomId newest' after ∧ ∀ actorId,
      (db.matchAssignments.get? (newest.matchId, actorId)).isSome →
        (after.matchAssignments.get? (newest'.matchId, actorId)).isSome := by
  rcases issueNextMatch_cases issues with
    rfl | ⟨source, row, found, done, room, id, room', created, inserts, copies⟩
  · exact ⟨newest, chain, fun _ => id⟩
  obtain ⟨absent, rows⟩ := KeyedList.insert?_eq_some.mp inserts
  obtain ⟨sourceMember, sourceId⟩ := KeyedList.mem_of_get? found
  have stands : ∀ {matchId}, (db.matchRows.get? matchId).isSome →
      (after.matchRows.get? matchId).isSome := by
    intro matchId there
    rw [KeyedList.get?_insert inserts]
    split
    · rfl
    · exact there
  have inserted : after.matchRows.get? row.matchId = some row := by
    rw [KeyedList.get?_insert inserts, if_pos rfl]
  have before : ∀ other ∈ after.matchRows.entries, other = row ∨ other ∈ db.matchRows.entries := by
    intro other member
    have there := KeyedList.get?_of_mem member
    rw [KeyedList.get?_insert inserts] at there
    split at there
    · cases there
      exact .inl rfl
    · exact .inr (KeyedList.mem_of_get? there).1
  have confirmed : ∀ other ∈ after.matchRows.entries, other.roomId.isSome := by
    intro other member
    rcases before other member with rfl | old
    · rw [room']
      rfl
    · exact chain.confirmed other old
  by_cases here : finished.roomId = roomId
  · -- The finished match is the room's newest, or it would have a successor.
    have last : source.matchId = newest.matchId := by
      by_contra differs
      obtain ⟨_, _, next⟩ := chain.older source sourceMember (here ▸ room) differs
      have taken := next finished.matchId sourceId.symm
      rw [← id, absent] at taken
      cases taken
    obtain rfl := KeyedList.eq_of_key sourceMember (KeyedList.mem_of_get? chain.found).1 last
    refine ⟨row, ⟨inserted, here ▸ room', ?_, confirmed⟩, ?_⟩
    · intro other member inRoom differs
      rcases before other member with rfl | old
      · exact absurd rfl differs
      · by_cases same : other.matchId = source.matchId
        · obtain rfl := KeyedList.eq_of_key old sourceMember same
          refine ⟨Bool.eq_false_iff.mpr done, by rw [created]; exact later other old, ?_⟩
          intro matchId named
          rw [nextMatchId_congr (named.trans sourceId), ← id, inserted]
          rfl
        · obtain ⟨recorded, _, next⟩ := chain.older other old inRoom same
          exact ⟨recorded, by rw [created]; exact later other old,
            fun matchId named => stands (next matchId named)⟩
    · intro actorId listed
      obtain ⟨old, listed⟩ := Option.isSome_iff_exists.mp listed
      obtain ⟨member, key⟩ := KeyedList.mem_of_get? listed
      have copied : after.matchAssignments.get? (row.matchId, actorId) =
          some { old with matchId := row.matchId } := by
        apply KeyedList.get?_insertAll copies
        right
        refine ⟨List.mem_map.mpr ⟨old, List.mem_filter.mpr ⟨member, ?_⟩, rfl⟩, ?_⟩
        · rw [decide_eq_true_eq]
          exact (congrArg Prod.fst key).trans sourceId
        · exact congrArg (row.matchId, ·) (congrArg Prod.snd key)
      rw [copied]
      rfl
  · -- A match of another room.
    refine ⟨newest, ⟨?_, chain.room, ?_, confirmed⟩, ?_⟩
    · rw [KeyedList.get?_insert inserts, if_neg, chain.found]
      intro same
      have found := chain.found
      rw [same] at found
      cases absent.symm.trans found
    · intro other member inRoom differs
      rcases before other member with rfl | old
      · exact absurd (Option.some.inj (room'.symm.trans inRoom)) here
      · obtain ⟨recorded, earlier, next⟩ := chain.older other old inRoom differs
        exact ⟨recorded, earlier, fun matchId named => stands (next matchId named)⟩
    · intro actorId listed
      obtain ⟨old, listed⟩ := Option.isSome_iff_exists.mp listed
      rw [KeyedList.get?_insertAll copies (.inl listed)]
      rfl

/-! ## Runs -/

/-- Whoever has been admitted is on the list of the newest match, and that is the room's. -/
def Listed (sha256 : Bytes → Bytes) (roomId : String) (t : RoomTables) : Prop :=
  ∃ newest, Chain sha256 roomId newest t.db ∧ ∀ actor ∈ t.admitted,
    (t.db.matchAssignments.get? (newest.matchId, actorText actor.id)).isSome

theorem isSome_withAssignment {matchId : MatchId} {actor : AssignedActor}
    {key : MatchId × String}
    (here : (db.matchAssignments.get? key).isSome ∨ key = (matchId, actorText actor.id)) :
    ((withAssignment db matchId actor).matchAssignments.get? key).isSome := by
  unfold withAssignment KeyedList.insertNew
  split
  · rename_i held
    rcases here with there | rfl
    · exact there
    · rw [KeyedList.has_eq_isSome] at held
      exact held
  · rw [KeyedList.get?_set]
    split
    · rfl
    · rename_i differs
      exact here.resolve_right fun same => differs same

theorem isSome_removeAssignment {matchId : MatchId} {actorId : ActorId} {key : MatchId × String}
    (there : (db.matchAssignments.get? key).isSome) (differs : key ≠ (matchId, actorText actorId)) :
    ((removeAssignment matchId actorId db).matchAssignments.get? key).isSome := by
  unfold removeAssignment
  rw [KeyedList.get?_delete, if_neg differs]
  exact there

theorem listed_insert {t : RoomTables} {index : Nat} (listed : Listed sha256 roomId t)
    (settled : Undisturbed roomId t (.insert index)) :
    Listed sha256 roomId (t.apply K sha256 roomId (.insert index)) := by
  obtain ⟨newest, chain, admitted⟩ := listed
  cases picked : t.joins[index]? with
  | none =>
    simp only [RoomTables.apply, picked]
    exact ⟨newest, chain, admitted⟩
  | some join =>
    have same := chain.playsNow.mp (settled join picked)
    cases inserts : insertAssignment roomId join t.db with
    | none =>
      simp only [RoomTables.apply, picked, inserts]
      exact ⟨newest, chain, admitted⟩
    | some after =>
      simp only [RoomTables.apply, picked, inserts]
      unfold insertAssignment at inserts
      split at inserts
      · cases inserts
        refine ⟨newest, chain.congr rfl, ?_⟩
        intro actor member
        rcases List.mem_append.mp member with old | new
        · exact isSome_withAssignment (.inl (admitted actor old))
        · obtain rfl := List.mem_singleton.mp new
          exact isSome_withAssignment (.inr (by rw [same]))
      · cases inserts

theorem listed_removeAssignment {t : RoomTables} {matchId : MatchId} {actorId : ActorId}
    (listed : Listed sha256 roomId t) :
    Listed sha256 roomId (t.apply K sha256 roomId (.removeAssignment matchId actorId)) := by
  obtain ⟨newest, chain, admitted⟩ := listed
  refine ⟨newest, chain.congr rfl, ?_⟩
  intro actor member
  dsimp only [RoomTables.apply] at member ⊢
  split at member
  · obtain ⟨old, differs⟩ := List.mem_filter.mp member
    apply isSome_removeAssignment (admitted actor old)
    intro same
    exact of_decide_eq_true differs (congrArg Prod.snd same)
  · rename_i other
    apply isSome_removeAssignment (admitted actor member)
    intro same
    exact other (chain.playsNow.mpr (congrArg Prod.fst same))

theorem listed_record {t : RoomTables} {result : MatchResultMessage} {now : Int}
    (listed : Listed sha256 roomId t) :
    Listed sha256 roomId (t.apply K sha256 roomId (.record result now)) := by
  obtain ⟨newest, chain, admitted⟩ := listed
  cases records : record K result now t.db with
  | none =>
    simp only [RoomTables.apply, records]
    exact ⟨newest, chain, admitted⟩
  | some recorded =>
    obtain ⟨outcome, after⟩ := recorded
    simp only [RoomTables.apply, records]
    rcases record_cases records with ⟨_, rfl⟩ | ⟨_, issued, _, writes⟩
    · exact ⟨newest, chain, admitted⟩
    · obtain ⟨newest', same, _, chain'⟩ := chain.record writes issued
      refine ⟨newest', chain', ?_⟩
      intro actor member
      rw [(writeResult_some writes).2.2, same]
      exact admitted actor member

theorem listed_issueNextMatch {t : RoomTables} {finished : MatchResultMessage} {owner : String}
    {now : Int} (listed : Listed sha256 roomId t)
    (later : ∀ row ∈ t.db.matchRows.entries, row.createdAt < now) :
    Listed sha256 roomId (t.apply K sha256 roomId (.issueNextMatch finished owner now)) := by
  obtain ⟨newest, chain, admitted⟩ := listed
  cases issues : issueNextMatch sha256 finished owner now t.db with
  | none =>
    simp only [RoomTables.apply, issues]
    exact ⟨newest, chain, admitted⟩
  | some issued =>
    obtain ⟨successor, after⟩ := issued
    simp only [RoomTables.apply, issues]
    obtain ⟨newest', chain', carried⟩ := chain.issue later issues
    exact ⟨newest', chain', fun actor member => carried _ (admitted actor member)⟩

theorem listed_apply {t : RoomTables} {step : RoomTransaction} (listed : Listed sha256 roomId t)
    (settled : Undisturbed roomId t step) :
    Listed sha256 roomId (t.apply K sha256 roomId step) := by
  cases step with
  | select actor =>
    dsimp only [RoomTables.apply]
    split
    · exact listed
    · exact listed
  | insert index => exact listed_insert listed settled
  | removeAssignment matchId actorId => exact listed_removeAssignment listed
  | record result now => exact listed_record listed
  | issueNextMatch finished owner now => exact listed_issueNextMatch listed settled

/-! ## The check of the participants -/

/-- The id of an account is the text of its row's key. -/
def Keyed (db : Database) : Prop :=
  ∀ row ∈ db.matchAssignments.entries, ∀ userId, row.userId = some userId →
    row.actorId = toString userId

theorem keyed_withAssignment {matchId : MatchId} {actor : AssignedActor} (keyed : Keyed db) :
    Keyed (withAssignment db matchId actor) := by
  intro row member userId account
  unfold withAssignment KeyedList.insertNew at member
  split at member
  · exact keyed row member userId account
  · rcases KeyedList.mem_set.mp member with rfl | ⟨old, _⟩
    · obtain ⟨id, nickname, guest⟩ := actor
      cases guest <;> cases id <;> simp_all [assignment, actorText]
    · exact keyed row old userId account

theorem keyed_apply {t : RoomTables} {step : RoomTransaction} (keyed : Keyed t.db) :
    Keyed (t.apply K sha256 roomId step).db := by
  cases step with
  | select actor =>
    dsimp only [RoomTables.apply]
    split
    · exact keyed
    · exact keyed
  | insert index =>
    dsimp only [RoomTables.apply]
    split
    · exact keyed
    · split
      · exact keyed
      · rename_i inserts
        unfold insertAssignment at inserts
        split at inserts
        · cases inserts
          exact keyed_withAssignment keyed
        · cases inserts
  | removeAssignment matchId actorId =>
    intro row member
    exact keyed row (KeyedList.mem_delete.mp member).1
  | record result now =>
    dsimp only [RoomTables.apply]
    split
    · exact keyed
    · rename_i records
      rcases record_cases records with ⟨_, rfl⟩ | ⟨_, _, _, writes⟩
      · exact keyed
      · unfold Keyed
        rw [(writeResult_some writes).2.2]
        exact keyed
  | issueNextMatch finished owner now =>
    dsimp only [RoomTables.apply]
    split
    · exact keyed
    · rename_i issues
      rcases issueNextMatch_cases issues with rfl | ⟨_, next, _, _, _, _, _, _, _, copies⟩
      · exact keyed
      · intro row member
        rcases KeyedList.mem_insertAll copies member with old | new
        · exact keyed row old
        · obtain ⟨source, listed, rfl⟩ := List.mem_map.mp new
          exact keyed source (List.mem_filter.mp listed).1

/-- The result names a player as the row does. -/
structure Names (player : MatchParticipantResult) (row : AssignmentRow) : Prop where
  isGuest : player.isGuest = row.isGuest
  nickname : player.nickname = row.nickname
  account : row.isGuest = false → row.userId.isSome ∧ player.userId = row.userId

theorem assignedParticipants_of {accounts : Nat → Option String} {guests : String → Nat}
    {players : List MatchParticipantResult}
    (known : ∀ player ∈ players, player.isGuest = false →
      ∃ userId, player.userId = some userId ∧ accounts userId = some player.nickname)
    (enough : ∀ nickname, (players.filter fun player =>
      player.isGuest && player.nickname = nickname).length ≤ guests nickname) :
    assignedParticipants accounts guests players = true := by
  induction players generalizing guests with
  | nil => rfl
  | cons player rest ih =>
    have known' := fun other member => known other (List.mem_cons_of_mem _ member)
    unfold assignedParticipants
    cases guest : player.isGuest with
    | true =>
      have some' := enough player.nickname
      simp only [List.filter_cons, guest, decide_true, Bool.and_self, if_true,
        List.length_cons] at some'
      rw [if_pos rfl, if_neg (by omega)]
      apply ih known'
      intro nickname
      by_cases same : nickname = player.nickname
      · rw [same, Function.update_self]
        omega
      · rw [Function.update_of_ne same]
        apply Nat.le_trans _ (enough nickname)
        exact ((List.sublist_cons_self player rest).filter _).length_le
    | false =>
      obtain ⟨userId, named, listed⟩ := known player List.mem_cons_self guest
      rw [if_neg nofun]
      simp only [named, listed, ne_eq, not_true_eq_false, if_false]
      apply ih known'
      intro nickname
      apply Nat.le_trans _ (enough nickname)
      exact ((List.sublist_cons_self player rest).filter _).length_le

theorem accountAssignment_of {row : AssignmentRow} {userId : Nat} (keyed : Keyed db)
    (listed : row ∈ db.assignmentsOf matchId) (player : row.isGuest = false)
    (account : row.userId = some userId) :
    accountAssignment (db.assignmentsOf matchId) userId = some row.nickname := by
  obtain ⟨member, here⟩ := List.mem_filter.mp listed
  unfold accountAssignment
  cases found : ((db.assignmentsOf matchId).filter fun item => !item.isGuest).reverse.find?
      fun item => item.userId = some userId with
  | none =>
    have absent := List.find?_eq_none.mp found row
      (List.mem_reverse.mpr (List.mem_filter.mpr ⟨listed, by rw [player]; rfl⟩))
    simp [account] at absent
  | some other =>
    have inside := List.mem_reverse.mp (List.mem_of_find?_eq_some found)
    obtain ⟨member', here'⟩ := List.mem_filter.mp (List.mem_filter.mp inside).1
    have account' : other.userId = some userId := by
      simpa using List.find?_some found
    have same : other.key = row.key := by
      apply Prod.ext
      · exact (of_decide_eq_true here').trans (of_decide_eq_true here).symm
      · exact (keyed other member' userId account').trans (keyed row member userId account).symm
    rw [Option.map_some, KeyedList.eq_of_key member' member same]

theorem named_mem {players : List MatchParticipantResult} {rows : List AssignmentRow}
    (named : List.Forall₂ Names players rows) :
    ∀ player ∈ players, ∃ row ∈ rows, Names player row := by
  induction named with
  | nil => nofun
  | cons names _ ih =>
    intro player member
    rcases List.mem_cons.mp member with rfl | later
    · exact ⟨_, List.mem_cons_self, names⟩
    · obtain ⟨row, inside, names⟩ := ih player later
      exact ⟨row, List.mem_cons_of_mem _ inside, names⟩

theorem named_guests {players : List MatchParticipantResult} {rows : List AssignmentRow}
    (named : List.Forall₂ Names players rows) (nickname : String) :
    (players.filter fun player => player.isGuest && player.nickname = nickname).length =
      (rows.filter fun row => row.isGuest && row.nickname = nickname).length := by
  induction named with
  | nil => rfl
  | cons names _ ih =>
    rw [List.filter_cons, List.filter_cons, names.isGuest, names.nickname]
    split
    · rw [List.length_cons, List.length_cons, ih]
    · exact ih

theorem subset_of_named {result : MatchResultMessage} {rows : List AssignmentRow}
    (keyed : Keyed db) (listed : ∀ row ∈ rows, row ∈ db.assignmentsOf matchId)
    (distinct : rows.Nodup) (named : List.Forall₂ Names result.players rows) :
    isAssignedParticipantSubset result (db.assignmentsOf matchId) = true := by
  apply assignedParticipants_of
  · intro player member guest
    obtain ⟨row, inside, names⟩ := named_mem named player member
    have plays := names.isGuest.symm.trans guest
    obtain ⟨present, same⟩ := names.account plays
    obtain ⟨userId, account⟩ := Option.isSome_iff_exists.mp present
    exact ⟨userId, same.trans account,
      (accountAssignment_of keyed (listed row inside) plays account).trans
        (congrArg some names.nickname.symm)⟩
  · intro nickname
    rw [named_guests named nickname]
    exact ((distinct.subperm listed).filter _).length_le

/-- The rows that a match lists for actors. -/
def rowsOf (db : Database) (matchId : MatchId) (actors : List AssignedActor) : List AssignmentRow :=
  actors.filterMap fun actor => db.matchAssignments.get? (matchId, actorText actor.id)

theorem actorIds_rowsOf (db : Database) (matchId : MatchId) (actors : List AssignedActor) :
    ((rowsOf db matchId actors).map AssignmentRow.actorId).Sublist
      (actors.map fun actor => actorText actor.id) := by
  unfold rowsOf
  induction actors with
  | nil => exact .slnil
  | cons actor rest ih =>
    rw [List.filterMap_cons, List.map_cons]
    cases found : db.matchAssignments.get? (matchId, actorText actor.id) with
    | none => exact .cons _ ih
    | some row =>
      have key := (KeyedList.mem_of_get? found).2
      rw [List.map_cons, show row.actorId = actorText actor.id from congrArg Prod.snd key]
      exact ih.cons_cons _

/-- The result names a player as the match lists the actor. -/
def NamesActor (db : Database) (matchId : MatchId) (player : MatchParticipantResult)
    (actor : AssignedActor) : Prop :=
  ∀ row, db.matchAssignments.get? (matchId, actorText actor.id) = some row → Names player row

theorem named_rowsOf {players : List MatchParticipantResult} {actors : List AssignedActor}
    (listed : ∀ actor ∈ actors, (db.matchAssignments.get? (matchId, actorText actor.id)).isSome)
    (named : List.Forall₂ (NamesActor db matchId) players actors) :
    List.Forall₂ Names players (rowsOf db matchId actors) := by
  induction named with
  | nil => exact .nil
  | cons names _ ih =>
    obtain ⟨row, found⟩ := Option.isSome_iff_exists.mp (listed _ List.mem_cons_self)
    unfold rowsOf
    rw [List.filterMap_cons, found]
    exact .cons (names row found) (ih fun actor member => listed actor (List.mem_cons_of_mem _ member))

/-- The result of the room's match is not refused over actors who have been admitted. -/
def Accepted (K : Type) [JsNumber K] (roomId : String) (t : RoomTables) : Prop :=
  ∀ (row : MatchRow) (result : MatchResultMessage) (actors : List AssignedActor) (now : Int),
    currentMatch roomId t.db = some row → uuid result.matchId = row.matchId →
    result.serverId = row.serverId → result.roomId = roomId → (∀ actor ∈ actors, actor ∈ t.admitted) →
    (actors.map fun actor => actorText actor.id).Nodup →
    List.Forall₂ (NamesActor t.db row.matchId) result.players actors →
    (record K result now t.db).map Prod.fst ≠ some .invalid

theorem accepted_of_carried {t : RoomTables} (carried : Carried roomId t) (keyed : Keyed t.db) :
    Accepted K roomId t := by
  intro row result actors now plays here server room admitted apart named
  obtain ⟨member, inRoom⟩ := currentMatch_mem plays
  have listed := fun actor member => carried actor (admitted actor member) row plays
  have rows : ∀ listed ∈ rowsOf t.db row.matchId actors, listed ∈ t.db.assignmentsOf row.matchId := by
    intro listed inside
    obtain ⟨actor, _, found⟩ := List.mem_filterMap.mp inside
    obtain ⟨stands, key⟩ := KeyedList.mem_of_get? found
    exact List.mem_filter.mpr ⟨stands, decide_eq_true (congrArg Prod.fst key)⟩
  have subset := subset_of_named keyed rows
    (List.Nodup.of_map _ (apart.sublist (actorIds_rowsOf t.db row.matchId actors)))
    (named_rowsOf listed named)
  have found := KeyedList.get?_of_mem member
  unfold record
  rw [here, found]
  dsimp only
  split
  · nofun
  · rw [if_neg (by simp [inRoom, room, server]), if_neg (by simp [subset])]
    cases writeResult K result now t.db <;> nofun

/-- Where no join inserts into a match that has been followed since it was picked, whoever has been
admitted to the room is on the list of its match, and its result is not refused over them. -/
theorem admitted_carried_over {start : Database} {first : MatchRow} {t : RoomTables}
    (only : ∀ row ∈ start.matchRows.entries, row.roomId = some roomId ↔ row = first)
    (present : first ∈ start.matchRows.entries)
    (confirmed : ∀ row ∈ start.matchRows.entries, row.roomId.isSome) (keyed : Keyed start)
    (run : Reach (Undisturbed roomId) (RoomTables.apply K sha256 roomId) ⟨start, [], []⟩ t) :
    Carried roomId t ∧ Accepted K roomId t := by
  have begins : Listed sha256 roomId ⟨start, [], []⟩ := by
    refine ⟨first, ⟨KeyedList.get?_of_mem present, (only first present).mpr rfl, ?_, confirmed⟩,
      nofun⟩
    intro row member room differs
    exact absurd (congrArg MatchRow.matchId ((only row member).mp room)) differs
  obtain ⟨newest, chain, admitted⟩ :=
    run.invariant begins fun _ _ listed settled => listed_apply listed settled
  have carried : Carried roomId t := by
    intro actor member row plays
    rw [chain.currentMatch] at plays
    cases plays
    exact admitted actor member
  have keyed' : Keyed t.db :=
    run.invariant (I := fun t => Keyed t.db) keyed fun _ _ keyed _ => keyed_apply keyed
  exact ⟨carried, accepted_of_carried carried keyed'⟩

def lateGuest : AssignedActor := ⟨.guest "guest:late", "late", true⟩

/-- The next match of the room, which the guest plays alone. -/
def lateResult : MatchResultMessage :=
  { playedResult with
    matchId := nextMatchId id "m"
    players := [⟨none, 1, "late", 0, true, 0, 0, 0, 0, 0⟩] }

/-- The guest picks the row of the room while it is followed, and inserts into it afterwards. -/
def overtakenJoin : List RoomTransaction :=
  [.record playedResult 5, .select lateGuest, .issueNextMatch playedResult "server" 6, .insert 0]

theorem overtaken_join_lost :
    let t := overtakenJoin.foldl (RoomTables.apply ℚ id "room") ⟨playedMatch, [], []⟩
    Reach (fun _ _ => True) (RoomTables.apply ℚ id "room") ⟨playedMatch, [], []⟩ t ∧
      t.admitted = [lateGuest] ∧ playsNow t.db "room" (uuid (nextMatchId id "m")) = true ∧
      ¬Carried "room" t ∧ (record ℚ lateResult 20 t.db).map Prod.fst = some .invalid :=
  ⟨Reach.of_list (by decide), by decide +kernel⟩

/-- The guest comes when the match is followed, and plays the next one. -/
def settledJoin : List RoomTransaction :=
  [.record playedResult 5, .issueNextMatch playedResult "server" 6, .select lateGuest, .insert 0]

theorem settled_join_carried :
    let t := settledJoin.foldl (RoomTables.apply ℚ id "room") ⟨playedMatch, [], []⟩
    t.admitted = [lateGuest] ∧ (Carried "room" t ∧ Accepted ℚ "room" t) ∧
      (record ℚ lateResult 20 t.db).map Prod.fst = some .stored := by
  have only : ∀ row ∈ playedMatch.matchRows.entries, row.roomId = some "room" ↔
      row = (issuedRow "m" "server" "map" (some "room") 0) := by
    decide +kernel
  have keyed : Keyed playedMatch := by
    have plain : ∀ row ∈ playedMatch.matchAssignments.entries, row.userId = none := by
      decide +kernel
    intro row member userId account
    cases (plain row member).symm.trans account
  have run : Reach (Undisturbed "room") (RoomTables.apply ℚ id "room") ⟨playedMatch, [], []⟩
      (settledJoin.foldl (RoomTables.apply ℚ id "room") ⟨playedMatch, [], []⟩) :=
    Reach.of_list (by decide +kernel)
  exact ⟨by decide +kernel,
    admitted_carried_over only (by decide +kernel) (by decide +kernel) keyed run, by decide +kernel⟩

end SwitchRemake.Matching

import SwitchRemake.Matching.RoomsService

/-!
# What a failed attempt leaves

An attempt adds the actor to the current match of the room, which changes nothing for an actor who is
on the list, and takes the row back when it is not granted.
-/

namespace SwitchRemake.Matching
open Lib

variable {db after : Database} {matchId : MatchId} {actor : AssignedActor} {roomId : String}

/-- The current match of a room is a row of that room. -/
theorem mem_of_foldl_before {row : MatchRow} (rows : List MatchRow) (best : Option MatchRow)
    (folds : rows.foldl (fun best row => match best with
      | none => some row
      | some first => if row.before first then some row else some first) best = some row) :
    row ∈ rows ∨ best = some row := by
  induction rows generalizing best with
  | nil => exact .inr folds
  | cons first rest ih =>
    rcases ih _ folds with later | here
    · exact .inl (List.mem_cons_of_mem _ later)
    · cases best with
      | none =>
        cases here
        exact .inl (List.mem_cons_self ..)
      | some old =>
        dsimp only at here
        split at here
        · cases here
          exact .inl (List.mem_cons_self ..)
        · exact .inr here

theorem currentMatch_mem {row : MatchRow} (plays : currentMatch roomId db = some row) :
    row ∈ db.matchRows.entries ∧ row.roomId = some roomId := by
  unfold currentMatch at plays
  rcases mem_of_foldl_before _ _ plays with member | none
  · obtain ⟨row, here⟩ := List.mem_filter.mp member
    exact ⟨row, of_decide_eq_true here⟩
  · cases none

theorem playsNow_iff : playsNow db roomId matchId = true ↔
    ∃ row, currentMatch roomId db = some row ∧ row.matchId = matchId := by
  unfold playsNow
  cases currentMatch roomId db <;> simp

/-- A match is the current one of one room. -/
theorem playsNow_unique {other : String} (first : playsNow db roomId matchId = true)
    (second : playsNow db other matchId = true) : roomId = other := by
  obtain ⟨row, plays, here⟩ := playsNow_iff.mp first
  obtain ⟨row', plays', there⟩ := playsNow_iff.mp second
  obtain ⟨member, room⟩ := currentMatch_mem plays
  obtain ⟨member', room'⟩ := currentMatch_mem plays'
  have same := KeyedList.eq_of_key member member' (here.trans there.symm)
  rw [same, room'] at room
  exact (Option.some.inj room).symm

/-! ## One row -/

theorem get?_of_assignmentsOf (same : after.assignmentsOf matchId = db.assignmentsOf matchId)
    (actorId : String) :
    after.matchAssignments.get? (matchId, actorId) = db.matchAssignments.get? (matchId, actorId) := by
  have listed : ∀ (db : Database) (row : AssignmentRow),
      db.matchAssignments.get? (matchId, actorId) = some row ↔
        row ∈ db.assignmentsOf matchId ∧ row.actorId = actorId := by
    intro db row
    rw [KeyedList.get?_eq_some, Database.assignmentsOf, List.mem_filter, decide_eq_true_eq,
      AssignmentRow.key, Prod.mk.injEq, and_assoc]
  apply Option.ext
  intro row
  rw [listed, listed, same]

theorem assignmentsOf_remove_other {other : MatchId} (actorId : ActorId) (differs : other ≠ matchId) :
    (removeAssignment other actorId db).assignmentsOf matchId = db.assignmentsOf matchId := by
  unfold Database.assignmentsOf removeAssignment KeyedList.delete
  dsimp only
  rw [List.filter_filter]
  apply List.filter_congr
  intro row _
  by_cases here : row.matchId = matchId
  · have apart : row.key ≠ (other, actorText actorId) := by
      intro same
      exact differs ((congrArg Prod.fst same).symm.trans here)
    simp [here, apart]
  · simp [here]

theorem get?_remove (matchId : MatchId) (actorId : ActorId) (db : Database) :
    (removeAssignment matchId actorId db).matchAssignments.get? (matchId, actorText actorId) = none := by
  unfold removeAssignment
  rw [KeyedList.get?_delete, if_pos rfl]

/-- What the attempt inserts where the room plays this match. -/
def withAssignment (db : Database) (matchId : MatchId) (actor : AssignedActor) : Database :=
  { db with matchAssignments := db.matchAssignments.insertNew (assignment matchId actor) }

theorem matchRows_refused (matchId : MatchId) (actor : AssignedActor) (db : Database) :
    (removeAssignment matchId actor.id (withAssignment db matchId actor)).matchRows = db.matchRows :=
  rfl

theorem addAssignmentByRoom_eq (roomId : String) (actor : AssignedActor) (db : Database) :
    addAssignmentByRoom roomId actor db = match currentMatch roomId db with
      | none => (none, db)
      | some row => (some row.matchId, withAssignment db row.matchId actor) := rfl

theorem assignmentsOf_add_other {other : MatchId} (differs : other ≠ matchId) :
    (withAssignment db other actor).assignmentsOf matchId = db.assignmentsOf matchId := by
  unfold withAssignment KeyedList.insertNew
  split
  · rfl
  · rename_i absent
    unfold Database.assignmentsOf
    dsimp only
    rw [KeyedList.entries_set_of_absent (Bool.eq_false_iff.mpr absent), List.filter_append]
    have apart : (assignment other actor).matchId ≠ matchId := differs
    simp [apart]

theorem add_held {row : AssignmentRow}
    (held : db.matchAssignments.get? (matchId, actorText actor.id) = some row) :
    withAssignment db matchId actor = db := by
  unfold withAssignment KeyedList.insertNew
  have key : (assignment matchId actor).key = (matchId, actorText actor.id) := rfl
  rw [if_pos]
  rw [KeyedList.has_eq_isSome, key, held]
  rfl

/-- Adding an actor who is on the list of a match changes no list of that match. -/
theorem assignmentsOf_add {row : AssignmentRow} (other : MatchId)
    (held : db.matchAssignments.get? (matchId, actorText actor.id) = some row) :
    (withAssignment db other actor).assignmentsOf matchId = db.assignmentsOf matchId := by
  by_cases same : other = matchId
  · rw [same, add_held held]
  · exact assignmentsOf_add_other same

/-! ## Joining -/

def JoinCalls.reaches (calls : JoinCalls) : Bool :=
  calls.admitted && calls.live && calls.claim = .claimed && calls.adds

/-- What a failed attempt does to the tables. -/
theorem join_failed {calls : JoinCalls} (fails : (join calls roomId actor db).1 = .failed) :
    (join calls roomId actor db).2 = if calls.reaches then
      match currentMatch roomId db with
      | none => db
      | some row =>
        if calls.takesBack then
          removeAssignment row.matchId actor.id (withAssignment db row.matchId actor)
        else withAssignment db row.matchId actor
      else db := by
  obtain ⟨admitted, live, claim, adds, reply, releases, removes, assigns, releasesLast, removesLast⟩ :=
    calls
  unfold JoinCalls.reaches JoinCalls.takesBack
  unfold join at fails ⊢
  rw [addAssignmentByRoom_eq] at fails ⊢
  cases admitted with
  | false => rfl
  | true =>
    cases live with
    | false => rfl
    | true =>
      cases claim with
      | failed => rfl
      | alreadyAssigned => rfl
      | claimed =>
        cases adds with
        | false => rfl
        | true =>
          cases plays : currentMatch roomId db with
          | none => rfl
          | some row =>
            cases reply with
            | none => cases releasesLast <;> cases removesLast <;> rfl
            | some reply =>
              cases grants : reply.grants with
              | true =>
                cases assigns with
                | true => simp [grants, plays] at fails
                | false =>
                  cases releasesLast <;> cases removesLast <;> simp [grants, joinCaught]
              | false =>
                cases releases <;> cases removes <;> cases releasesLast <;> cases removesLast <;>
                  simp [grants, joinCaught]

theorem join_keeps_iff {calls : JoinCalls} {row : AssignmentRow}
    (held : db.matchAssignments.get? (matchId, actorText actor.id) = some row)
    (fails : (join calls roomId actor db).1 = .failed) :
    ((join calls roomId actor db).2.matchAssignments.get? (matchId, actorText actor.id) = some row ↔
      ¬(calls.takesBack = true ∧ playsNow db roomId matchId = true)) ∧
    (¬(calls.takesBack = true ∧ playsNow db roomId matchId = true) →
      (join calls roomId actor db).2.assignmentsOf matchId = db.assignmentsOf matchId) := by
  rw [join_failed fails]
  have reach_of_takesBack : calls.takesBack = true → calls.reaches = true := by
    unfold JoinCalls.takesBack JoinCalls.reaches
    exact fun takes => (Bool.and_eq_true_iff.mp takes).1
  have spared : ∀ {after : Database}, after.assignmentsOf matchId = db.assignmentsOf matchId →
      ¬(calls.takesBack = true ∧ playsNow db roomId matchId = true) →
      (after.matchAssignments.get? (matchId, actorText actor.id) = some row ↔
        ¬(calls.takesBack = true ∧ playsNow db roomId matchId = true)) ∧
      (¬(calls.takesBack = true ∧ playsNow db roomId matchId = true) →
        after.assignmentsOf matchId = db.assignmentsOf matchId) := by
    intro after same kept
    exact ⟨⟨fun _ => kept, fun _ => (get?_of_assignmentsOf same _).trans held⟩, fun _ => same⟩
  split
  · cases plays : currentMatch roomId db with
    | none =>
      refine spared rfl fun both => ?_
      obtain ⟨_, some, _⟩ := playsNow_iff.mp both.2
      rw [plays] at some
      cases some
    | some current =>
      dsimp only
      split
      · rename_i takes
        by_cases same : current.matchId = matchId
        · have undone : calls.takesBack = true ∧ playsNow db roomId matchId = true :=
            ⟨takes, playsNow_iff.mpr ⟨current, plays, same⟩⟩
          rw [same]
          refine ⟨⟨fun stays => ?_, fun kept => absurd undone kept⟩, fun kept => absurd undone kept⟩
          rw [get?_remove] at stays
          cases stays
        · refine spared ?_ fun both => ?_
          · rw [assignmentsOf_remove_other _ same]
            exact assignmentsOf_add_other same
          · obtain ⟨row', plays', there⟩ := playsNow_iff.mp both.2
            rw [plays] at plays'
            cases plays'
            exact same there
      · rename_i keeps
        exact spared (assignmentsOf_add _ held) fun both => keeps both.1
  · rename_i early
    exact spared rfl fun both => early (reach_of_takesBack both.1)

/-! ## Quick join -/

theorem takesBackAny_congr (same : after.matchRows = db.matchRows) (removesLast : Bool)
    (candidates : List CandidateCalls) :
    takesBackAny after matchId removesLast candidates =
      takesBackAny db matchId removesLast candidates := by
  have current : ∀ roomId, currentMatch roomId after = currentMatch roomId db := by
    intro roomId
    unfold currentMatch
    rw [same]
  induction candidates with
  | nil => rfl
  | cons calls rest ih =>
    unfold takesBackAny playsNow CandidateCalls.passes
    rw [current, ih]

theorem playsNow_congr (same : after.matchRows = db.matchRows) (roomId : String) :
    playsNow after roomId matchId = playsNow db roomId matchId := by
  unfold playsNow currentMatch
  rw [same]

/-- What one candidate does: the loop ends, or goes on with the row as it was or taken back. -/
theorem tryCandidates_cons (removesLast : Bool) (calls : CandidateCalls)
    (rest : List CandidateCalls) (db : Database)
    (fails : (tryCandidates removesLast actor (calls :: rest) db).1 = .failed) :
    (calls.passes db = true ∧
      ((calls.takesBack removesLast = false ∨ currentMatch calls.roomId db = none) ∧
          tryCandidates removesLast actor (calls :: rest) db =
            tryCandidates removesLast actor rest db ∨
        calls.takesBack removesLast = true ∧ ∃ row, currentMatch calls.roomId db = some row ∧
          tryCandidates removesLast actor (calls :: rest) db = tryCandidates removesLast actor rest
            (removeAssignment row.matchId actor.id (withAssignment db row.matchId actor)))) ∨
    (calls.passes db = false ∧
      ((calls.takesBack removesLast = false ∨ currentMatch calls.roomId db = none) ∧
          ((tryCandidates removesLast actor (calls :: rest) db).2 = db ∨
            ∃ row, currentMatch calls.roomId db = some row ∧
              (tryCandidates removesLast actor (calls :: rest) db).2 =
                withAssignment db row.matchId actor) ∨
        calls.takesBack removesLast = true ∧ ∃ row, currentMatch calls.roomId db = some row ∧
          (tryCandidates removesLast actor (calls :: rest) db).2 =
            removeAssignment row.matchId actor.id (withAssignment db row.matchId actor))) := by
  obtain ⟨room, joinable, blocked, adds, reply, removes, assigns⟩ := calls
  unfold CandidateCalls.passes CandidateCalls.takesBack
  rw [tryCandidates, addAssignmentByRoom_eq] at fails ⊢
  cases joinable with
  | none => right; simp [quickJoinCaught]
  | some joinable =>
    cases joinable with
    | false => left; simp
    | true =>
      cases blocked with
      | none => right; simp [quickJoinCaught]
      | some blocked =>
        cases blocked with
        | true => left; simp
        | false =>
          cases adds with
          | false => right; simp [quickJoinCaught]
          | true =>
            cases plays : currentMatch room db with
            | none => left; simp
            | some row =>
              cases reply with
              | none => right; cases removesLast <;> simp [quickJoinCaught]
              | some reply =>
                cases grants : reply.grants with
                | true =>
                  cases assigns with
                  | true => simp [grants, plays] at fails
                  | false =>
                    right
                    cases removesLast <;> simp [grants, quickJoinCaught]
                | false =>
                  cases removes with
                  | true => left; simp [grants]
                  | false =>
                    right
                    cases removesLast <;> simp [grants, quickJoinCaught]

/-- Candidates that do not play the match leave its list alone. -/
theorem tryCandidates_spares (removesLast : Bool) (candidates : List CandidateCalls) (db : Database)
    (fails : (tryCandidates removesLast actor candidates db).1 = .failed)
    (others : ∀ calls ∈ candidates, playsNow db calls.roomId matchId = false) :
    (tryCandidates removesLast actor candidates db).2.assignmentsOf matchId =
      db.assignmentsOf matchId := by
  induction candidates generalizing db with
  | nil => rfl
  | cons calls rest ih =>
    have apart : ∀ row, currentMatch calls.roomId db = some row → row.matchId ≠ matchId := by
      intro row plays same
      have here := playsNow_iff.mpr ⟨row, plays, same⟩
      rw [others calls (List.mem_cons_self ..)] at here
      cases here
    have removed : ∀ row, currentMatch calls.roomId db = some row →
        (removeAssignment row.matchId actor.id
          (withAssignment db row.matchId actor)).assignmentsOf matchId =
          db.assignmentsOf matchId := by
      intro row plays
      rw [assignmentsOf_remove_other _ (apart row plays), assignmentsOf_add_other (apart row plays)]
    have later : ∀ c ∈ rest, playsNow db c.roomId matchId = false :=
      fun c member => others c (List.mem_cons_of_mem _ member)
    rcases tryCandidates_cons removesLast calls rest db fails with
      ⟨_, ⟨_, goesOn⟩ | ⟨_, row, plays, goesOn⟩⟩ | ⟨_, ⟨_, unchanged | ⟨row, plays, added⟩⟩ |
        ⟨_, row, plays, undone⟩⟩
    · rw [goesOn] at fails ⊢
      exact ih db fails later
    · rw [goesOn] at fails ⊢
      exact (ih _ fails later).trans (removed row plays)
    · rw [unchanged]
    · rw [added]
      exact assignmentsOf_add_other (apart row plays)
    · rw [undone]
      exact removed row plays

theorem tryCandidates_keeps_iff (removesLast : Bool) (candidates : List CandidateCalls) (db : Database)
    {row : AssignmentRow}
    (held : db.matchAssignments.get? (matchId, actorText actor.id) = some row)
    (fails : (tryCandidates removesLast actor candidates db).1 = .failed)
    (distinct : (candidates.map CandidateCalls.roomId).Nodup) :
    if takesBackAny db matchId removesLast candidates then
      (tryCandidates removesLast actor candidates db).2.matchAssignments.get?
        (matchId, actorText actor.id) = none
    else (tryCandidates removesLast actor candidates db).2.assignmentsOf matchId =
      db.assignmentsOf matchId := by
  induction candidates generalizing db with
  | nil => rfl
  | cons calls rest ih =>
    obtain ⟨fresh, distinct⟩ := List.nodup_cons.mp distinct
    have plays_of : ∀ row, currentMatch calls.roomId db = some row →
        (playsNow db calls.roomId matchId = true ↔ row.matchId = matchId) := by
      intro row plays
      rw [playsNow_iff]
      constructor
      · rintro ⟨row', plays', there⟩
        rw [plays] at plays'
        cases plays'
        exact there
      · exact fun same => ⟨row, plays, same⟩
    unfold takesBackAny
    rcases tryCandidates_cons removesLast calls rest db fails with
      ⟨passes, ⟨harmless, goesOn⟩ | ⟨takes, current, plays, goesOn⟩⟩ |
        ⟨stops, ⟨harmless, unchanged | ⟨current, plays, added⟩⟩ | ⟨takes, current, plays, undone⟩⟩
    · -- The candidate is passed over.
      have quiet : (calls.takesBack removesLast && playsNow db calls.roomId matchId) = false := by
        rcases harmless with no | none
        · rw [no, Bool.false_and]
        · rw [playsNow, none, Option.any_none, Bool.and_false]
      rw [goesOn] at fails ⊢
      rw [quiet, passes, Bool.false_or, Bool.true_and]
      exact ih db held fails distinct
    · -- It is refused and its row taken back; the loop goes on.
      rw [goesOn] at fails ⊢
      by_cases same : current.matchId = matchId
      · have here := (plays_of current plays).mpr same
        rw [takes, here, Bool.true_and, Bool.true_or, if_pos rfl]
        have others : ∀ c ∈ rest, playsNow (removeAssignment current.matchId actor.id
            (withAssignment db current.matchId actor)) c.roomId matchId = false := by
          intro c member
          rw [Bool.eq_false_iff]
          intro there
          have there := (playsNow_congr (matchRows_refused current.matchId actor db) c.roomId).symm.trans there
          exact fresh (playsNow_unique here there ▸ List.mem_map_of_mem member)
        rw [get?_of_assignmentsOf (tryCandidates_spares removesLast rest _ fails others), same]
        exact get?_remove ..
      · have away : playsNow db calls.roomId matchId = false := by
          rw [Bool.eq_false_iff]
          exact fun here => same ((plays_of current plays).mp here)
        have kept : (removeAssignment current.matchId actor.id
            (withAssignment db current.matchId actor)).assignmentsOf matchId =
            db.assignmentsOf matchId := by
          rw [assignmentsOf_remove_other _ same, assignmentsOf_add_other same]
        have step := ih _ ((get?_of_assignmentsOf kept _).trans held) fails distinct
        have reads : takesBackAny (removeAssignment current.matchId actor.id
            (withAssignment db current.matchId actor)) matchId removesLast rest =
            takesBackAny db matchId removesLast rest :=
          takesBackAny_congr (matchRows_refused ..) removesLast rest
        rw [reads, kept] at step
        rw [away, Bool.and_false, Bool.false_or, passes, Bool.true_and]
        exact step
    · -- A call throws before the row is touched.
      have quiet : (calls.takesBack removesLast && playsNow db calls.roomId matchId) = false := by
        rcases harmless with no | none
        · rw [no, Bool.false_and]
        · rw [playsNow, none, Option.any_none, Bool.and_false]
      rw [quiet, stops, Bool.false_and, Bool.or_false, unchanged, if_neg Bool.false_ne_true]
    · have quiet : (calls.takesBack removesLast && playsNow db calls.roomId matchId) = false := by
        rcases harmless with no | none
        · rw [no, Bool.false_and]
        · rw [none] at plays
          cases plays
      rw [quiet, stops, Bool.false_and, Bool.or_false, added, if_neg Bool.false_ne_true]
      exact assignmentsOf_add _ held
    · -- The attempt ends here and takes the row back.
      rw [takes, stops, Bool.true_and, Bool.false_and, Bool.or_false, undone]
      split
      · rename_i here
        rw [(plays_of current plays).mp here]
        exact get?_remove ..
      · rename_i away
        have apart : current.matchId ≠ matchId := fun same => away ((plays_of current plays).mpr same)
        rw [assignmentsOf_remove_other _ apart]
        exact assignmentsOf_add_other apart

theorem quickJoin_keeps_iff {calls : QuickJoinCalls} {row : AssignmentRow}
    (held : db.matchAssignments.get? (matchId, actorText actor.id) = some row)
    (fails : (quickJoin calls actor db).1 = .failed)
    (distinct : (calls.candidates.map CandidateCalls.roomId).Nodup) :
    ((quickJoin calls actor db).2.matchAssignments.get? (matchId, actorText actor.id) = some row ↔
      ¬calls.takesBack db matchId = true) ∧
    (¬calls.takesBack db matchId = true →
      (quickJoin calls actor db).2.assignmentsOf matchId = db.assignmentsOf matchId) := by
  obtain ⟨admitted, claim, candidates, removesLast⟩ := calls
  unfold quickJoin at fails ⊢
  unfold QuickJoinCalls.takesBack
  cases admitted with
  | false => exact ⟨⟨fun _ => nofun, fun _ => held⟩, fun _ => rfl⟩
  | true =>
    cases claim with
    | failed => exact ⟨⟨fun _ => nofun, fun _ => held⟩, fun _ => rfl⟩
    | alreadyAssigned => cases fails
    | claimed =>
      have loop := tryCandidates_keeps_iff removesLast candidates db held fails distinct
      dsimp only [Bool.not_true]
      rw [decide_eq_true rfl, Bool.true_and, Bool.true_and]
      cases takes : takesBackAny db matchId removesLast candidates with
      | true =>
        rw [takes, if_pos rfl] at loop
        refine ⟨⟨fun stays => ?_, fun kept => absurd rfl kept⟩, fun kept => absurd rfl kept⟩
        exact absurd (loop.symm.trans stays) nofun
      | false =>
        rw [takes, if_neg Bool.false_ne_true] at loop
        exact ⟨⟨fun _ => nofun, fun _ => (get?_of_assignmentsOf loop _).trans held⟩, fun _ => loop⟩

/-- A failed attempt of an actor who is on the list of a match leaves the row exactly when it does not
come to take back what it added to that match; then a result is judged by the same list as before. -/
theorem failed_join_keeps_assignment {row : AssignmentRow}
    (held : db.matchAssignments.get? (matchId, actorText actor.id) = some row) :
    (∀ calls roomId, (join calls roomId actor db).1 = .failed →
      ((join calls roomId actor db).2.matchAssignments.get? (matchId, actorText actor.id) =
          some row ↔ ¬(calls.takesBack = true ∧ playsNow db roomId matchId = true)) ∧
      (¬(calls.takesBack = true ∧ playsNow db roomId matchId = true) → ∀ result,
        isAssignedParticipantSubset result
            ((join calls roomId actor db).2.assignmentsOf matchId) =
          isAssignedParticipantSubset result (db.assignmentsOf matchId))) ∧
    (∀ calls : QuickJoinCalls, (calls.candidates.map CandidateCalls.roomId).Nodup →
      (quickJoin calls actor db).1 = .failed →
      ((quickJoin calls actor db).2.matchAssignments.get? (matchId, actorText actor.id) =
          some row ↔ ¬calls.takesBack db matchId = true) ∧
      (¬calls.takesBack db matchId = true → ∀ result,
        isAssignedParticipantSubset result ((quickJoin calls actor db).2.assignmentsOf matchId) =
          isAssignedParticipantSubset result (db.assignmentsOf matchId))) := by
  constructor
  · intro calls roomId fails
    obtain ⟨exact', same⟩ := join_keeps_iff held fails
    exact ⟨exact', fun kept result => by rw [same kept]⟩
  · intro calls distinct fails
    obtain ⟨exact', same⟩ := quickJoin_keeps_iff held fails distinct
    exact ⟨exact', fun kept result => by rw [same kept]⟩

/-! ## A wrong password -/

def seatedGuest : AssignedActor := ⟨.guest "guest:host", "host", true⟩

/-- A match of one guest, issued for a room that is confirmed. -/
def playedMatch : Database :=
  ((issueMatch "m" "server" "map" seatedGuest 0 emptyDatabase).map
    (confirmRoom "m" "room" "map")).getD emptyDatabase

/-- The attempt comes as far as the game server, which does not answer or refuses. -/
def refusedJoin (reply : Option ReserveReply) : JoinCalls :=
  { admitted := true, live := true, claim := .claimed, adds := true, reply, releases := true
    removes := true, assigns := true, releasesLast := true, removesLast := true }

def playedResult : MatchResultMessage :=
  { v := 1, matchId := "m", roomId := "room", serverId := "server", mapId := "map", startedAt := 0
    endedAt := 9, durationTicks := 1, buildId := "b", protocolVersion := 2, rulesVersion := "r"
    mapBundleHash := "h", visibilityCoreVersion := 1, winnerPlayerIds := [1], replay := none
    players := [⟨none, 1, "host", 0, true, 0, 0, 0, 0, 0⟩] }

theorem wrong_password_loses_result :
    let reply : ReserveReply := ⟨false, false, some .badPassword⟩
    let outcome := join (refusedJoin (some reply)) "room" seatedGuest playedMatch
    (playedMatch.matchAssignments.get? ("m", "guest:host")).isSome = true ∧
      outcome.1 = .failed ∧ (outcome.2.matchAssignments.get? ("m", "guest:host")).isSome = false ∧
      (record ℚ playedResult 5 playedMatch).map Prod.fst = some .stored ∧
      (record ℚ playedResult 5 outcome.2).map Prod.fst = some .invalid := by
  decide +kernel

/-- An attempt that finds the room gone. -/
theorem room_gone_keeps_row :
    (join { refusedJoin none with live := false } "room" seatedGuest
      playedMatch).2.matchAssignments.get? ("m", "guest:host") =
      some (assignment "m" seatedGuest) :=
  ((failed_join_keeps_assignment (by decide +kernel : playedMatch.matchAssignments.get?
    ("m", actorText seatedGuest.id) = some (assignment "m" seatedGuest))).1 _ _ rfl).1.mpr
    fun both => by cases both.1

end SwitchRemake.Matching

import SwitchRemake.Game.Accounting
import SwitchRemake.Game.SessionTurns
import SwitchRemake.Game.Spectators

/-!
# One outcome for each game

A session that comes to its end while its room plays hands over its winners, and its result is
reported when its replay is stored. By then the room may be in its next game.
-/

namespace SwitchRemake.Game
open Lib Simulation Rooms GameSession

variable {K : Type}

namespace HostedRoom

/-! ## Where a game ends -/

/-- The member is taken off the roster, and the game hears of it. -/
def removal (h : HostedRoom K) (userId : ActorId) : Option (HostedRoom K × Nat) :=
  (h.room.roster.remove userId).2.map fun member =>
    (h.mapRoom fun room => { room with roster := (h.room.roster.remove userId).1 }, member.playerId)

/-- The departure that an operation tells the game of: the state at the call, and the slot. -/
def departure (h : HostedRoom K) : HostOp K → Option (HostedRoom K × Nat)
  | .disconnect now connection =>
    (h.room.roster.getByUser connection.userId).bind fun member =>
      let until_ := now + h.room.options.timing.reconnectGraceMs
      let left := h.mapRoom fun room => room.updateMember connection.userId (fun m =>
        { m with connection := none, admissionPendingUntil := none, reconnectUntil := some until_ })
        (waits_userId until_)
      let noted := left.connectionChanged member.playerId false
      if member.connection.map Connection.id = some connection.id ∧ noted.room.state = .playing ∧
          member.inCurrentGame ∧ ¬ member.spectatorEligible then
        some (noted.mapRoom fun room => room.markEliminatedMember connection.userId, member.playerId)
      else none
  | .releaseSeat _ userId =>
    if (h.room.roster.releaseHold userId).2 then none else h.removal userId
  | .forceKick _ userId =>
    (h.mapRoom fun room =>
      { room with
        kickedUsers := insert userId room.kickedUsers
        roster := (room.roster.releaseHold userId).1 }).removal userId
  | _ => none

variable [JsNumber K]

omit [JsNumber K] in
/-- The session comes to its end as `game`, and the room plays. -/
def endsAs (h : HostedRoom K) (s : Registered K) (game : GameSession K) : Option Nat :=
  if h.room.state = .playing ∧ s.game.finished = false ∧ game.finished = true then some s.serial
  else none

/-- The session that comes to its end in this operation while the room plays. A host takes members
off the roster only where no game is on. -/
def reachesEnd (h : HostedRoom K) : HostOp K → Option Nat
  | .tick _ inputs _ => h.session.bind fun s => h.endsAs s (s.game.step inputs noTraining).session
  | op => (h.departure op).bind fun at_ => at_.1.session.bind fun s =>
    at_.1.endsAs s (s.game.eliminateDisconnected at_.2).session

/-! ## What the room makes of the winners -/

omit [JsNumber K] in
/-- The lineup that the room has locked is that of the session. -/
structure Settles (h : HostedRoom K) (s : Registered K) : Prop where
  lineup : ∃ snapshot, h.room.startSnapshot = some snapshot ∧
    ∀ id ∈ playerIds s.game.world, id ∈ snapshot.playerIds
  tracked : ∃ t, Tracks t s.game.world

omit [JsNumber K] in
def Settled (h : HostedRoom K) : Prop :=
  ∀ s, h.session = some s → s.game.finished = false → h.room.state = .playing → h.Settles s

omit [JsNumber K] in
theorem settled_of_lineup {h : HostedRoom K} {starters : List Starter}
    {startOrder : Nat} (lineup : Lineup starters startOrder h) : h.Settled := by
  intro s on _ playing
  obtain ⟨s', match_⟩ := lineup.playing playing
  cases match_.session.symm.trans on
  obtain ⟨snapshot, locked, _, _, ids⟩ := (lineup.locked (Or.inr playing)).snapshot
  refine ⟨⟨snapshot, locked, ?_⟩, match_.tracked⟩
  intro id member
  rw [ids]
  exact (match_.players id).mp member

omit [JsNumber K] in
theorem tellRoom_keeps (room : Room) (n : RoomNotice K) :
    (tellRoom room n).state = room.state ∧ (tellRoom room n).startSnapshot = room.startSnapshot := by
  unfold tellRoom
  split
  · unfold Room.markEliminated
    split
    · exact ⟨rfl, rfl⟩
    · split
      · exact ⟨rfl, rfl⟩
      · split <;> exact ⟨rfl, rfl⟩
  · exact ⟨rfl, rfl⟩

omit [JsNumber K] in
theorem tellRooms_keep (room : Room) (ns : List (RoomNotice K)) :
    (ns.foldl tellRoom room).state = room.state ∧
      (ns.foldl tellRoom room).startSnapshot = room.startSnapshot := by
  induction ns generalizing room with
  | nil => exact ⟨rfl, rfl⟩
  | cons n rest ih =>
    obtain ⟨state, snapshot⟩ := ih (tellRoom room n)
    obtain ⟨state', snapshot'⟩ := tellRoom_keeps room n
    exact ⟨state.trans state', snapshot.trans snapshot'⟩

omit [JsNumber K] in
theorem finishGame_accepts {room : Room} {snapshot : RoomStartSnapshot} {winners : List Nat}
    (playing : room.state = .playing) (locked : room.startSnapshot = some snapshot)
    (distinct : winners.Nodup) (known : ∀ id ∈ winners, id ∈ snapshot.playerIds) (now : Int) :
    ∃ ended, room.finishGame now winners = some (ended, true) := by
  unfold Room.finishGame
  rw [if_neg (not_not.mpr playing), locked]
  dsimp only [Option.elim]
  rw [if_neg]
  · exact ⟨_, rfl⟩
  · rintro (twice | stranger)
    · exact twice distinct
    · apply stranger
      rw [List.all_eq_true]
      intro id member
      exact List.contains_iff_mem.mpr (known id member)

omit [JsNumber K] in
theorem ending_storing {h : HostedRoom K} {s : Registered K} (now : Int)
    {ns : List (RoomNotice K)} (goesOn : ∀ n ∈ ns, ∀ winners, n ≠ .finishGame winners)
    {winners : List Nat} (distinct : winners.Nodup)
    (accepts : h.room.state = .playing → ∃ snapshot, h.room.startSnapshot = some snapshot ∧
      ∀ id ∈ winners, id ∈ snapshot.playerIds) :
    (h.notices now s.serial (ns ++ [.finishGame winners])).storing =
      if h.room.state = .playing then h.storing ++ [s.serial] else h.storing := by
  unfold HostedRoom.notices
  rw [List.foldl_append]
  change (notice now s.serial (h.notices now s.serial ns) (.finishGame winners)).storing = _
  rw [notices_told h now s.serial goesOn]
  obtain ⟨state, snapshot⟩ := tellRooms_keep h.room ns
  unfold notice
  dsimp only
  by_cases playing : h.room.state = .playing
  · obtain ⟨locked, stands, known⟩ := accepts playing
    obtain ⟨ended, finishes⟩ := finishGame_accepts (state.trans playing) (snapshot.trans stands)
      distinct known now
    rw [finishes, if_pos playing]
  · have refused : (ns.foldl tellRoom h.room).finishGame now winners =
        some (ns.foldl tellRoom h.room, false) := by
      unfold Room.finishGame
      rw [if_pos (by rw [state]; exact playing)]
    rw [refused, if_neg playing]

omit [JsNumber K] in
/-- The notices of an operation of the session, with what it does to the list of stored replays. -/
theorem notices_storing {h : HostedRoom K} {s : Registered K} (on : h.session = some s)
    (settled : h.Settled) (running : s.game.finished = false) (now : Int) {game : GameSession K}
    (ids : (∃ t, Tracks t s.game.world) → playerIds game.world = playerIds s.game.world)
    {ns : List (RoomNotice K)} (goesOn : ∀ n ∈ ns, ∀ winners, n ≠ .finishGame winners)
    {winners : List Nat} (told : winners = game.confirmedWinnerIds) :
    (({ h with session := some { s with game } } : HostedRoom K).notices now s.serial
      (ns ++ [.finishGame winners])).storing =
      if h.room.state = .playing then h.storing ++ [s.serial] else h.storing := by
  rw [told]
  apply ending_storing (h := { h with session := some { s with game } }) now goesOn
  · exact (confirmedWinnerIds_increasing game).imp Nat.ne_of_lt
  · intro playing
    obtain ⟨⟨snapshot, locked, known⟩, tracked⟩ := settled s on running playing
    refine ⟨snapshot, locked, fun id winner => known id ?_⟩
    obtain ⟨p, member, rfl, _⟩ := (mem_confirmedWinnerIds game id).mp winner
    rw [← ids tracked]
    exact List.mem_map_of_mem member

theorem eliminate_storing {h : HostedRoom K} (settled : h.Settled) (now : Int) (playerId : Nat) :
    (h.eliminate now playerId).storing = h.storing ++ (h.session.bind fun s =>
      h.endsAs s (s.game.eliminateDisconnected playerId).session).toList := by
  unfold HostedRoom.eliminate
  split
  · rename_i vacant
    rw [vacant]
    exact (List.append_nil _).symm
  rename_i s on
  rw [on]
  dsimp only [Option.bind]
  have law := eliminateDisconnected_departs s.game playerId
  have posts := eliminateDisconnected_posts s.game playerId
  have ids : ∀ {world : World K}, (s.game.afterDeparture playerId).1.world = world →
      playerIds world = playerIds s.game.world := by
    rintro _ rfl
    exact afterDeparture_playerIds s.game playerId
  generalize s.game.eliminateDisconnected playerId = departed at law posts ⊢
  unfold endsAs
  have plain (events : List (WorldEvent K)) :
      ∀ n ∈ events.map RoomNotice.event, ∀ winners, n ≠ .finishGame winners := by
    intro n member winners same
    obtain ⟨_, _, rfl⟩ := List.mem_map.mp member
    cases same
  cases law with
  | ignored idle =>
    rw [if_neg (by rintro ⟨_, running, isOver⟩; simp [running] at isOver)]
    exact (List.append_nil _).symm
  | left replay events running lived departs tags goesOn =>
    rw [notices_told _ now s.serial (plain events), if_neg (by simp [running])]
    exact (List.append_nil _).symm
  | ended replay events winners running lived departs tags ends =>
    have told := (posts.closes winners (List.mem_append.mpr (.inr List.mem_cons_self))).2
    refine (notices_storing on settled running now (fun _ => ids departs) (plain events) told).trans ?_
    by_cases playing : h.room.state = .playing
    · simp [playing, running]
    · simp [playing]

theorem tick_storing {h : HostedRoom K} (settled : h.Settled) (now : Int)
    (inputs : List (ResolvedInput K)) (publication : Option (Nat → Nat)) :
    (h.tick now inputs noTraining publication).host.storing = h.storing ++
      (h.reachesEnd (.tick now inputs publication)).toList := by
  unfold tick reachesEnd
  split
  · rename_i vacant
    rw [vacant]
    exact (List.append_nil _).symm
  rename_i s on
  rw [on]
  dsimp only [Option.bind]
  have law := step_ticks s.game inputs noTraining
  have posts := step_posts s.game inputs
  generalize s.game.step inputs noTraining = result at law posts ⊢
  have moved : (({ h with session := some { s with game := result.session } } :
      HostedRoom K).notices now s.serial result.notices).storing = h.storing ++
        (h.endsAs s result.session).toList := by
    unfold endsAs
    cases law with
    | isOver finished =>
      rw [if_neg (by simp [finished])]
      exact (List.append_nil _).symm
    | on replay running simulated trained goesOn =>
      rw [notices_told _ now s.serial (tickNotices_plain _), if_neg (by simp [Game.advance, running])]
      exact (List.append_nil _).symm
    | ended replay winners running simulated trained ends =>
      have told := (posts.closes winners (List.mem_append.mpr (.inr List.mem_cons_self))).2
      refine (notices_storing on settled running now ?_ (tickNotices_plain _) told).trans ?_
      · rintro ⟨t, tracks⟩
        subst trained
        exact (stepWorld_plays tracks inputs replay simulated).ids
      · by_cases playing : h.room.state = .playing
        · simp [playing, running]
        · simp [playing]
  split
  · exact moved
  · exact moved

/-! ## Every operation -/

omit [JsNumber K] in
theorem endsAs_idle {h : HostedRoom K} (idle : h.room.state ≠ .playing) (s : Registered K)
    (game : GameSession K) : h.endsAs s game = none :=
  if_neg fun ends => idle ends.1

omit [JsNumber K] in
theorem Settled.room {h : HostedRoom K} (settled : h.Settled) {room : Room}
    (state : room.state = h.room.state) (snapshot : room.startSnapshot = h.room.startSnapshot) :
    ({ h with room } : HostedRoom K).Settled := by
  intro s on running playing
  obtain ⟨⟨locked, stands, known⟩, tracked⟩ := settled s on running (state.symm.trans playing)
  exact ⟨⟨locked, snapshot.trans stands, known⟩, tracked⟩

omit [JsNumber K] in
theorem Settled.connectionChanged {h : HostedRoom K} (settled : h.Settled) (playerId : Nat)
    (connected : Bool) : (h.connectionChanged playerId connected).Settled := by
  intro s on running playing
  obtain ⟨before, earlier, rfl⟩ := Option.map_eq_some_iff.mp on
  have running : before.game.finished = false :=
    (connectionChanged_finished before.game playerId connected).symm.trans running
  obtain ⟨⟨locked, stands, known⟩, t, tracks⟩ := settled before earlier running playing
  have plays := connectionChanged_plays tracks playerId connected
  exact ⟨⟨locked, stands, fun id member => known id (plays.ids ▸ member)⟩, plays.tracked⟩

omit [JsNumber K] in
theorem close_storing (h : HostedRoom K) : h.close.storing = h.storing := by
  unfold HostedRoom.close
  split <;> rfl

omit [JsNumber K] in
theorem closeIfEmpty_storing (h : HostedRoom K) : h.closeIfEmpty.storing = h.storing := by
  unfold closeIfEmpty
  split
  · exact close_storing h
  · rfl

theorem removeMember_storing {h : HostedRoom K} (settled : h.Settled) (now : Int)
    (userId : ActorId) : (h.removeMember now userId true).1.storing = h.storing ++
      ((h.removal userId).bind fun at_ => at_.1.session.bind fun s =>
        at_.1.endsAs s (s.game.eliminateDisconnected at_.2).session).toList := by
  unfold removeMember removal
  dsimp only
  cases (h.room.roster.remove userId).2 with
  | none => exact (List.append_nil _).symm
  | some member =>
    have kept : (h.mapRoom fun room =>
        { room with roster := (h.room.roster.remove userId).1 }).Settled := settled.room rfl rfl
    rw [closeIfEmpty_storing]
    exact eliminate_storing kept now member.playerId

theorem removal_idle {h : HostedRoom K} (idle : h.room.state ≠ .playing) (userId : ActorId) :
    ((h.removal userId).bind fun at_ => at_.1.session.bind fun s =>
      at_.1.endsAs s (s.game.eliminateDisconnected at_.2).session) = none := by
  unfold removal
  cases (h.room.roster.remove userId).2 with
  | none => rfl
  | some member =>
    simp only [Option.map_some, Option.bind_some, Option.bind_eq_none_iff]
    intro s _
    apply endsAs_idle
    exact idle

omit [JsNumber K] in
theorem removal_absent {h : HostedRoom K} {userId : ActorId}
    (absent : h.room.roster.getByUser userId = none) : h.removal userId = none := by
  unfold removal
  rcases LobbyRoster.remove_cases h.room.roster userId with ⟨same, _⟩ | ⟨_, _, found, _⟩
  · rw [same]
    rfl
  · cases absent.symm.trans found

theorem disconnect_storing {h : HostedRoom K} (settled : h.Settled) (now : Int)
    (connection : Connection) : (h.disconnect now connection).storing = h.storing ++
      (h.reachesEnd (.disconnect now connection)).toList := by
  unfold disconnect
  simp only [reachesEnd, departure]
  cases h.room.roster.getByUser connection.userId with
  | none => exact (List.append_nil _).symm
  | some member =>
    dsimp only [Option.bind_some]
    by_cases own : member.connection.map Connection.id = some connection.id
    · rw [if_neg (not_not.mpr own)]
      simp only [own, true_and]
      split
      · refine (eliminate_storing ?_ now member.playerId).trans ?_
        · exact ((settled.room rfl rfl).connectionChanged member.playerId false).room rfl rfl
        · rfl
      · exact (List.append_nil _).symm
    · rw [if_pos own, if_neg fun both => own both.1]
      exact (List.append_nil _).symm

omit [JsNumber K] in
theorem sweep_storing {now : Int} {h v : HostedRoom K} (sweep : Sweep now h v) :
    v.storing = h.storing := by
  cases sweep with
  | close => exact close_storing h
  | _ => rfl

theorem advance_storing (h : HostedRoom K) (env : StartEnv K) (now : Int) :
    (h.advance env now).storing = h.storing := by
  obtain ⟨mid, swept, ends⟩ := advance_cases h env now
  have first : mid.storing = h.storing := by
    clear ends
    induction swept with
    | refl => rfl
    | tail _ sweep ih => exact (sweep_storing sweep).trans ih
  rw [← first]
  rcases ends with same | starts
  · rw [same]
  · rw [starts]
    have begun : (mid.startIfDue env now).storing = mid.storing := by
      rcases startIfDue_cases mid env now with idle | ⟨_, started, _, _, _, starts, moved⟩
      · rw [idle]
      · rw [moved]
        unfold HostedRoom.startGame at starts
        obtain ⟨world, _, rfl⟩ := Option.map_eq_some_iff.mp starts
        rfl
    rcases returnIfDue_cases (mid.startIfDue env now) now with stays | ⟨_, back⟩
    · rw [stays, begun]
    · rw [back]
      exact begun

theorem kick_storing {h : HostedRoom K} (settled : h.Settled) (now : Int) (requester : ActorId)
    (playerId : Nat) : (h.kick now requester playerId).1.storing = h.storing := by
  unfold kick
  split
  · rfl
  · rename_i waiting
    rw [not_not] at waiting
    split
    · rfl
    · split
      · rfl
      · split
        · rfl
        · rename_i target _ _
          refine (removeMember_storing ?_ now target.userId).trans ?_
          · exact settled.room rfl rfl
          · rw [removal_idle]
            · exact List.append_nil _
            · change h.room.state ≠ .playing
              rw [waiting]
              nofun

/-- A session goes to the list of those whose replay is being stored when it comes to its end while
the room plays, and at no other time. -/
theorem apply_storing {h : HostedRoom K} (settled : h.Settled) {op : HostOp K}
    (waits : ∀ serial, op ≠ .stored serial) :
    (h.apply op).storing = h.storing ++ (h.reachesEnd op).toList := by
  cases op with
  | reserveJoin env now reservation password =>
    exact (advance_storing h env now).trans (List.append_nil _).symm
  | canReserveResume env now userId =>
    exact (advance_storing h env now).trans (List.append_nil _).symm
  | admitReservation env now reservation =>
    exact (advance_storing h env now).trans (List.append_nil _).symm
  | advance env now => exact (advance_storing h env now).trans (List.append_nil _).symm
  | bindConnection now connection =>
    change (h.bindConnection now connection).1.storing = _
    unfold HostedRoom.bindConnection
    dsimp only
    split <;> exact (List.append_nil _).symm
  | disconnect now connection => exact disconnect_storing settled now connection
  | releaseSeat now userId =>
    change (h.releaseSeat now userId).1.storing = _
    unfold releaseSeat reachesEnd departure
    dsimp only
    split
    · have same : ∀ v : HostedRoom K, (if v.room.roster.occupiedSize = 0 then v.close else v).storing =
          v.storing := by
        intro v
        split
        · exact close_storing v
        · rfl
      exact (same _).trans (List.append_nil _).symm
    · exact removeMember_storing settled now userId
  | kick now requester playerId =>
    exact (kick_storing settled now requester playerId).trans (List.append_nil _).symm
  | forceKick now userId =>
    change (h.forceKick now userId).1.storing = _
    unfold forceKick
    simp only [reachesEnd, departure]
    split
    · rename_i absent
      rw [removal_absent absent]
      exact (List.append_nil _).symm
    · refine (removeMember_storing ?_ now userId).trans ?_
      · exact settled.room rfl rfl
      · rfl
  | tick now inputs publication => exact tick_storing settled now inputs publication
  | stored serial => exact absurd rfl (waits serial)
  | close => exact (close_storing h).trans (List.append_nil _).symm
  | _ => exact (List.append_nil _).symm

theorem step_frame {game : GameSession K} (running : game.finished = false)
    (inputs : List (ResolvedInput K)) : (game.step inputs noTraining).frame ≠ none := by
  have law := step_ticks game inputs noTraining
  generalize game.step inputs noTraining = result at law ⊢
  cases law with
  | isOver finished =>
    rw [running] at finished
    cases finished
  | on => nofun
  | ended => nofun

/-! ## Runs -/

/-- The calls of `onMatchFinished`. -/
def reports (h : HostedRoom K) : HostOp K → List Nat
  | .stored serial => if serial ∈ h.storing then [serial] else []
  | _ => []

/-- A session that is taken off the list and has not come to its end. -/
def stops (h : HostedRoom K) (op : HostOp K) : List Nat :=
  h.session.elim [] fun s =>
    if s.game.finished = false ∧ (h.apply op).session.map Registered.serial ≠ some s.serial ∧
        h.reachesEnd op ≠ some s.serial then
      [s.serial]
    else []

/-- What the scheduler has under the id of the room: it is told of every change of the list, and drops
a target that has no frame to give. -/
def schedules (h : HostedRoom K) (op : HostOp K) (target : Option Nat) : Option Nat :=
  if (h.apply op).session.map Registered.serial = h.session.map Registered.serial then
    match op with
    | .tick _ inputs _ =>
      if h.session.all fun s => (s.game.step inputs noTraining).frame.isNone then none else target
    | _ => target
  else (h.apply op).session.map Registered.serial

end HostedRoom

open HostedRoom

structure FinishRun (K : Type) where
  run : HostRun K
  reached : List Nat
  stopped : List Nat
  outcomes : List Nat
  scheduled : Option Nat

namespace FinishRun

def start (host : HostedRoom K) : FinishRun K := ⟨HostRun.start host, [], [], [], none⟩

variable [JsNumber K]

def apply (r : FinishRun K) (op : HostOp K) : FinishRun K :=
  { run := r.run.apply op
    reached := r.reached ++ (r.run.host.reachesEnd op).toList
    stopped := r.stopped ++ r.run.host.stops op
    outcomes := r.outcomes ++ r.run.host.reports op
    scheduled := r.run.host.schedules op r.scheduled }

omit [JsNumber K] in
def Allows (r : FinishRun K) (op : HostOp K) : Prop := r.run.Allows op

theorem host_apply (r : HostRun K) (op : HostOp K) : (r.apply op).host = r.host.apply op := by
  unfold HostRun.apply
  cases op with
  | requestStart now requester gate =>
    dsimp only
    split <;> rfl
  | _ => rfl

omit [JsNumber K] in
structure Tally (r : FinishRun K) : Prop where
  lineup : Lineup r.run.starters r.run.startOrder r.run.host
  numbered : Numbered r.run.host
  once : r.outcomes.Nodup
  apart : ∀ serial ∈ r.outcomes, Retired serial r.run.host ∧ serial ∉ r.run.host.storing
  reached : ∀ serial, serial ∈ r.reached ↔ serial ∈ r.run.host.storing ∨ serial ∈ r.outcomes
  stopped : ∀ serial ∈ r.stopped, Retired serial r.run.host ∧ serial ∉ r.reached
  scheduled : ∀ s, r.run.host.session = some s → s.game.finished = false →
    r.scheduled = some s.serial
  registered : ∀ serial, r.scheduled = some serial →
    r.run.host.session.map Registered.serial = some serial

omit [JsNumber K] in
theorem Tally.retired {r : FinishRun K} (tally : Tally r) {serial : Nat}
    (ended : serial ∈ r.reached) : Retired serial r.run.host := by
  rcases (tally.reached serial).mp ended with waits | reported
  · exact tally.numbered.isOver serial waits
  · exact (tally.apart serial reported).1

theorem Tally.outcomes {r : FinishRun K} (tally : Tally r) (op : HostOp K) :
    (r.apply op).outcomes.Nodup ∧
    (∀ serial ∈ (r.apply op).outcomes, Retired serial (r.run.host.apply op) ∧
      serial ∉ (r.run.host.apply op).storing) ∧
    ∀ serial, serial ∈ (r.apply op).reached ↔
      serial ∈ (r.run.host.apply op).storing ∨ serial ∈ (r.apply op).outcomes := by
  have added := (tally.numbered.turns (apply_turns r.run.host op)).2
  have kept : ∀ serial ∈ r.outcomes, Retired serial (r.run.host.apply op) ∧
      serial ∉ (r.run.host.apply op).storing := by
    intro serial reported
    obtain ⟨retired, absent⟩ := tally.apart serial reported
    refine ⟨retired.apply op, fun waits => ?_⟩
    rcases added serial waits with old | new
    · exact absent old
    · exact new retired
  by_cases waits : ∃ serial, op = .stored serial
  · obtain ⟨serial, rfl⟩ := waits
    by_cases member : serial ∈ r.run.host.storing
    · have reports : (r.apply (.stored serial)).outcomes = r.outcomes ++ [serial] := by
        change r.outcomes ++ (if serial ∈ r.run.host.storing then [serial] else []) = _
        rw [if_pos member]
      have storing : (r.run.host.apply (.stored serial)).storing =
          r.run.host.storing.erase serial := by
        change (r.run.host.stored serial).storing = _
        unfold HostedRoom.stored
        rw [if_pos member]
      have same : (r.apply (.stored serial)).reached = r.reached := List.append_nil _
      rw [reports, same]
      refine ⟨?_, ?_, ?_⟩
      · rw [List.nodup_append]
        refine ⟨tally.once, List.nodup_singleton _, ?_⟩
        rintro x reported _ single rfl
        obtain rfl := List.mem_singleton.mp single
        exact (tally.apart _ reported).2 member
      · intro x reported
        rcases List.mem_append.mp reported with old | new
        · exact kept x old
        · obtain rfl := List.mem_singleton.mp new
          refine ⟨(tally.numbered.isOver x member).apply _, ?_⟩
          rw [storing]
          exact tally.numbered.once.not_mem_erase
      · intro x
        rw [tally.reached, storing, List.mem_append, List.mem_singleton,
          tally.numbered.once.mem_erase_iff]
        by_cases here : x = serial
        · simp [here, member]
        · simp [here]
    · have reports : (r.apply (.stored serial)).outcomes = r.outcomes := by
        change r.outcomes ++ (if serial ∈ r.run.host.storing then [serial] else []) = _
        rw [if_neg member, List.append_nil]
      have storing : (r.run.host.apply (.stored serial)).storing = r.run.host.storing := by
        change (r.run.host.stored serial).storing = _
        unfold HostedRoom.stored
        rw [if_neg member]
      have same : (r.apply (.stored serial)).reached = r.reached := List.append_nil _
      rw [reports, same]
      refine ⟨tally.once, kept, fun x => ?_⟩
      rw [storing]
      exact tally.reached x
  · have other : ∀ serial, op ≠ .stored serial := fun serial same => waits ⟨serial, same⟩
    have storing := apply_storing (settled_of_lineup tally.lineup) other
    have reports : (r.apply op).outcomes = r.outcomes := by
      change r.outcomes ++ r.run.host.reports op = _
      unfold HostedRoom.reports
      split
      · exact absurd rfl (other _)
      · exact List.append_nil _
    rw [reports]
    refine ⟨tally.once, kept, fun x => ?_⟩
    change x ∈ r.reached ++ (r.run.host.reachesEnd op).toList ↔ _
    rw [storing, List.mem_append, List.mem_append, tally.reached]
    exact or_right_comm

theorem Tally.stopped' {r : FinishRun K} (tally : Tally r) (op : HostOp K) :
    ∀ serial ∈ (r.apply op).stopped,
      Retired serial (r.run.host.apply op) ∧ serial ∉ (r.apply op).reached := by
  have added := (tally.numbered.turns (apply_turns r.run.host op)).2
  intro serial stops
  rcases List.mem_append.mp stops with old | new
  · obtain ⟨retired, absent⟩ := tally.stopped serial old
    refine ⟨retired.apply op, fun ends => ?_⟩
    rcases List.mem_append.mp ends with before | now
    · exact absent before
    · have waits : serial ∈ (r.run.host.apply op).storing := by
        rw [apply_storing (settled_of_lineup tally.lineup) fun x same => ?_]
        · exact List.mem_append.mpr (.inr now)
        · rw [same] at now
          cases now
      rcases added serial waits with old | new
      · exact absent ((tally.reached serial).mpr (.inl old))
      · exact new retired
  · unfold HostedRoom.stops at new
    cases on : r.run.host.session with
    | none => simp [on] at new
    | some s =>
      simp only [on, Option.elim] at new
      split at new
      · rename_i gone
        obtain ⟨running, leaves, unended⟩ := gone
        obtain rfl := List.mem_singleton.mp new
        refine ⟨⟨(tally.numbered.known s on).trans_le (apply_turns r.run.host op).serials, ?_⟩,
          fun ends => ?_⟩
        · intro t there here
          rw [there, Option.map_some, here] at leaves
          exact absurd rfl leaves
        · rcases List.mem_append.mp ends with before | now
          · exact (tally.retired before).not_running on running rfl
          · exact unended (Option.mem_toList.mp now)
      · cases new

theorem Tally.schedule {r : FinishRun K} (tally : Tally r) (op : HostOp K) :
    (∀ s, (r.run.host.apply op).session = some s → s.game.finished = false →
      (r.apply op).scheduled = some s.serial) ∧
    ∀ serial, (r.apply op).scheduled = some serial →
      (r.run.host.apply op).session.map Registered.serial = some serial := by
  change (∀ s, (r.run.host.apply op).session = some s → s.game.finished = false →
      r.run.host.schedules op r.scheduled = some s.serial) ∧
    ∀ serial, r.run.host.schedules op r.scheduled = some serial →
      (r.run.host.apply op).session.map Registered.serial = some serial
  unfold HostedRoom.schedules
  split
  · rename_i same
    rw [same]
    constructor
    · intro t there running
      rw [there] at same
      obtain ⟨s, on, serial⟩ := Option.map_eq_some_iff.mp same.symm
      have started : s.game.finished = false := by
        rcases (apply_turns r.run.host op).session there with new | ⟨s', on', _, isOver⟩
        · exact absurd (tally.numbered.known s on) (by rw [serial]; exact Nat.not_lt.mpr new)
        · rw [on] at on'
          cases on'
          rw [Bool.eq_false_iff]
          intro finished
          rw [isOver finished] at running
          cases running
      have target := tally.scheduled s on started
      rw [serial] at target
      split
      · rename_i now inputs publication
        rw [if_neg, target]
        rw [on]
        exact fun idle => step_frame started inputs (by simpa using idle)
      · exact target
    · intro serial target
      apply tally.registered
      split at target
      · split at target
        · cases target
        · exact target
      · exact target
  · constructor
    · intro t there _
      rw [there]
      rfl
    · exact fun _ => id

theorem tally_apply {r : FinishRun K} (tally : Tally r) (op : HostOp K) (allows : r.Allows op) :
    Tally (r.apply op) := by
  obtain ⟨once, apart, reached⟩ := tally.outcomes op
  obtain ⟨scheduled, registered⟩ := tally.schedule op
  have host : (r.apply op).run.host = r.run.host.apply op := host_apply r.run op
  constructor
  · exact (lineup_apply tally.lineup op allows).1
  · rw [host]
    exact (tally.numbered.turns (apply_turns r.run.host op)).1
  · exact once
  · rw [host]
    exact apart
  · rw [host]
    exact reached
  · rw [host]
    exact tally.stopped' op
  · rw [host]
    exact scheduled
  · rw [host]
    exact registered

omit [JsNumber K] in
theorem tally_start {host : HostedRoom K} (fresh : Fresh host) : Tally (start host) where
  lineup := fresh.lineup
  numbered :=
    { known := fun s on => by cases fresh.session.symm.trans on
      once := by
        change host.storing.Nodup
        rw [fresh.storing]
        exact List.nodup_nil
      isOver := fun serial waits => by
        change serial ∈ host.storing at waits
        rw [fresh.storing] at waits
        cases waits }
  once := List.nodup_nil
  apart := nofun
  reached serial := by
    change serial ∈ [] ↔ serial ∈ host.storing ∨ serial ∈ []
    rw [fresh.storing]
    simp
  stopped := nofun
  scheduled s on := by cases fresh.session.symm.trans on
  registered := nofun

theorem tally_reach {host : HostedRoom K} {r : FinishRun K} (fresh : Fresh host)
    (run : Reach Allows apply (start host) r) : Tally r :=
  run.invariant (tally_start fresh) fun _ op tally allows => tally_apply tally op allows

end FinishRun

/-- In every run each game has at most one outcome; it has one as soon as its replay is stored, if it
came to its end while its room played, and none if it was stopped before; and the end of an old game
leaves the session and the target of a newer one where they are. -/
theorem one_outcome_per_game [JsNumber K] {host : HostedRoom K} {r : FinishRun K}
    (fresh : Fresh host)
    (run : Reach FinishRun.Allows FinishRun.apply (FinishRun.start host) r) :
    r.outcomes.Nodup ∧
    (∀ serial ∈ r.reached, serial ∈ r.run.host.storing ∨ serial ∈ r.outcomes) ∧
    (∀ serial ∈ r.run.host.storing, serial ∉ r.outcomes ∧
      (r.apply (.stored serial)).outcomes = r.outcomes ++ [serial]) ∧
    (∀ serial ∈ r.outcomes, serial ∈ r.reached) ∧
    (∀ serial ∈ r.stopped, serial ∉ r.reached ∧ serial ∉ r.outcomes) ∧
    (∀ s, r.run.host.session = some s → s.game.finished = false → r.scheduled = some s.serial) ∧
    ∀ s serial, r.run.host.session = some s → serial ≠ s.serial →
      (r.apply (.stored serial)).run.host.session = some s ∧
        (r.apply (.stored serial)).scheduled = r.scheduled := by
  have tally := FinishRun.tally_reach fresh run
  refine ⟨tally.once, fun serial => (tally.reached serial).mp, fun serial waits => ?_,
    fun serial reported => (tally.reached serial).mpr (.inr reported), fun serial stops => ?_,
    tally.scheduled, fun s serial on other => ?_⟩
  · refine ⟨fun reported => (tally.apart serial reported).2 waits, ?_⟩
    change r.outcomes ++ (if serial ∈ r.run.host.storing then [serial] else []) = _
    rw [if_pos waits]
  · have absent := (tally.stopped serial stops).2
    exact ⟨absent, fun reported => absent ((tally.reached serial).mpr (.inr reported))⟩
  · have kept : (r.run.host.apply (.stored serial)).session = r.run.host.session := by
      change (r.run.host.stored serial).session = _
      unfold HostedRoom.stored
      split
      · rw [on]
        simp [Ne.symm other]
      · rfl
    constructor
    · change (r.run.apply (.stored serial)).host.session = some s
      rw [FinishRun.host_apply, kept, on]
    · change r.run.host.schedules (.stored serial) r.scheduled = r.scheduled
      unfold HostedRoom.schedules
      rw [kept, if_pos rfl]

/-- Four players start on one spot; their match ends in its first tick, and the replay is stored. -/
def shortMatch : List (HostOp ℚ) :=
  gather ++ [.advance startEnv 29000, .tick 29000 [] none, .stored 0]

theorem shortMatch_allowed : AllowedRun FinishRun.Allows FinishRun.apply (FinishRun.start newRoom)
    shortMatch := by
  simp only [shortMatch, gather, join, List.tail_cons, List.cons_append, List.nil_append, AllowedRun,
    FinishRun.Allows, HostRun.Allows, HostedRoom.Allows, and_self]

theorem one_outcome_of_a_short_match :
    let r := shortMatch.foldl FinishRun.apply (FinishRun.start newRoom)
    r.reached = [0] ∧ r.outcomes = [0] ∧ r.outcomes.Nodup := by
  exact ⟨by decide +kernel, by decide +kernel,
    (one_outcome_per_game newRoom_fresh (.of_list shortMatch_allowed)).1⟩

end SwitchRemake.Game

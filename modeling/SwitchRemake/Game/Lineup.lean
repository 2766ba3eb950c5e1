import SwitchRemake.Game.Kickoff
import SwitchRemake.Game.Operations

/-!
# The lineup of a match

A start locks a lineup. Until the match is over, whoever sits on a slot of the lineup is the member
who sat there at the start, and the flags of the members agree with the world of the game.
-/

namespace SwitchRemake.Game
open Lib Simulation Rooms GameSession HostedRoom

variable {K : Type} {h v : HostedRoom K} {starters : List Starter} {startOrder : Nat}

structure Locked (room : Room) (starters : List Starter) (startOrder : Nat) : Prop where
  snapshot : ∃ snapshot, room.startSnapshot = some snapshot ∧ snapshot.mode = RoomMode.match ∧
    snapshot.matchId = room.matchId ∧ snapshot.playerIds = starters.map Starter.playerId
  distinct : (starters.map Starter.playerId).Nodup
  present : ∀ m ∈ room.roster.membersByUser.entries,
    m.playerId ∈ starters.map Starter.playerId → Starter.of m ∈ starters
  blocked : ∀ hold ∈ room.roster.holds.entries, hold.playerId ∉ starters.map Starter.playerId
  order : ∀ s ∈ starters, s.joinedOrder < startOrder

/-- The match of the lineup is on in session `s`. -/
structure MatchOn (h : HostedRoom K) (starters : List Starter) (s : Registered K) : Prop where
  session : h.session = some s
  unstored : s.serial ∉ h.storing
  running : s.game.finished = false
  matchId : s.game.matchId = h.room.matchId
  tracked : ∃ t, Tracks t s.game.world
  players : ∀ id, id ∈ playerIds s.game.world ↔ id ∈ starters.map Starter.playerId
  current : ∀ m ∈ h.room.roster.membersByUser.entries,
    m.inCurrentGame = true ↔ m.playerId ∈ starters.map Starter.playerId
  eligible : ∀ m ∈ h.room.roster.membersByUser.entries, m.spectatorEligible = true →
    m.inCurrentGame = true ∧ m.playerId ∉ living s.game.world

def Engaged (state : RoomState) : Prop := state = .countdown ∨ state = .playing

structure Lineup (starters : List Starter) (startOrder : Nat) (h : HostedRoom K) : Prop where
  competing : h.room.options.mode = RoomMode.match
  seated : h.room.roster.Seated
  serials : ∀ s, h.session = some s → s.serial < h.serials
  storing : ∀ serial ∈ h.storing, serial < h.serials
  later : startOrder ≤ h.room.roster.joinOrder
  locked : Engaged h.room.state → Locked h.room starters startOrder
  playing : h.room.state = .playing → ∃ s, MatchOn h starters s

theorem Locked.thins {r v : Room} (locked : Locked r starters startOrder)
    (thins : LobbyRoster.Thins r.roster v.roster) (startSnapshot : v.startSnapshot = r.startSnapshot)
    (matchId : v.matchId = r.matchId) : Locked v starters startOrder where
  snapshot := by
    rw [startSnapshot, matchId]
    exact locked.snapshot
  distinct := locked.distinct
  present n member inside := by
    obtain ⟨m, before, same⟩ := thins.member n member
    rw [same.playerId] at inside
    have starter := locked.present m before inside
    unfold Starter.of at starter ⊢
    rw [same.userId, same.playerId, same.joinedOrder]
    exact starter
  blocked hold member := locked.blocked hold (thins.hold hold member)
  order := locked.order

/-- The rule for a change of the room that no match notices, but for members that go. -/
theorem Lineup.fades (lineup : Lineup starters startOrder h) {room : Room}
    (same : SameMatch h.room room) (state : room.state = h.room.state)
    (startSnapshot : room.startSnapshot = h.room.startSnapshot)
    (fades : LobbyRoster.Fades h.room.roster room.roster) :
    Lineup starters startOrder { h with room } where
  competing := by
    rw [same.options]
    exact lineup.competing
  seated := fades.seated lineup.seated
  serials := lineup.serials
  storing := lineup.storing
  later := by
    rw [fades.joinOrder]
    exact lineup.later
  locked engaged := by
    rw [state] at engaged
    exact (lineup.locked engaged).thins fades.thins startSnapshot same.matchId
  playing on := by
    rw [state] at on
    obtain ⟨s, matchOn⟩ := lineup.playing on
    refine ⟨s, { matchOn with matchId := ?_, current := ?_, eligible := ?_ }⟩
    · rw [same.matchId]
      exact matchOn.matchId
    · intro n member
      obtain ⟨m, before, alike⟩ := fades.member n member
      rw [alike.inCurrentGame, alike.playerId]
      exact matchOn.current m before
    · intro n member flag
      obtain ⟨m, before, alike⟩ := fades.member n member
      rw [alike.spectatorEligible] at flag
      rw [alike.inCurrentGame, alike.playerId]
      exact matchOn.eligible m before flag

/-- The rule for a room that is out of every match. -/
theorem Lineup.disengaged (lineup : Lineup starters startOrder h)
    (competing : v.room.options = h.room.options) (seated : v.room.roster.Seated)
    (serials : ∀ s, v.session = some s → s.serial < v.serials)
    (storing : ∀ serial ∈ v.storing, serial < v.serials)
    (later : startOrder ≤ v.room.roster.joinOrder) (idle : ¬ Engaged v.room.state) :
    Lineup starters startOrder v where
  competing := by
    rw [competing]
    exact lineup.competing
  seated := seated
  serials := serials
  storing := storing
  later := later
  locked engaged := absurd engaged idle
  playing on := absurd (Or.inr on) idle

theorem MatchOn.outOfMatch {s : Registered K} (on : MatchOn h starters s) {playerId : Nat}
    (out : h.OutOfMatch playerId) : playerId ∉ living s.game.world := by
  obtain ⟨t, tracks⟩ := on.tracked
  exact out s on.session on.running tracks.distinct

theorem markEliminatedMember_thins (r : Room) (userId : ActorId) :
    LobbyRoster.Thins r.roster (r.markEliminatedMember userId).roster :=
  LobbyRoster.update_thins r.roster userId
    (f := fun m => { m with spectatorEligible := true, role := .spectator }) (fun _ => rfl)
    fun _ => ⟨rfl, rfl, rfl, rfl⟩

theorem Lineup.mark (lineup : Lineup starters startOrder h) {m : LobbyMember}
    (playing : h.room.state = .playing) (found : h.room.roster.getByUser m.userId = some m)
    (current : m.inCurrentGame = true) (out : h.OutOfMatch m.playerId) :
    Lineup starters startOrder { h with room := h.room.markEliminatedMember m.userId } where
  competing := lineup.competing
  seated := (markEliminatedMember_thins h.room m.userId).seated lineup.seated
  serials := lineup.serials
  storing := lineup.storing
  later := lineup.later
  locked _ := (lineup.locked (Or.inr playing)).thins
    (markEliminatedMember_thins h.room m.userId) rfl rfl
  playing _ := by
    obtain ⟨s, on⟩ := lineup.playing playing
    have lost := on.outOfMatch out
    refine ⟨s, { on with current := ?_, eligible := ?_ }⟩
    · intro n member
      obtain ⟨p, before, ⟨_, rfl⟩ | ⟨_, rfl⟩⟩ := LobbyRoster.mem_update.mp member
      · exact on.current p before
      · exact on.current n before
    · intro n member flag
      obtain ⟨p, before, ⟨own, rfl⟩ | ⟨_, rfl⟩⟩ := LobbyRoster.mem_update.mp member
      · have same : p = m := h.room.roster.membersByUser.eq_of_key before
          (LobbyRoster.getByUser_some found).1 own
        rw [same]
        exact ⟨current, lost⟩
      · exact on.eligible n before flag

theorem Lineup.play (lineup : Lineup starters startOrder h) {s : Registered K}
    {game : GameSession K} (session : h.session = some s)
    (plays : ∀ t, Tracks t s.game.world → Plays s.game game) :
    Lineup starters startOrder { h with session := some { s with game } } where
  competing := lineup.competing
  seated := lineup.seated
  serials x same := by
    cases same
    exact lineup.serials s session
  storing := lineup.storing
  later := lineup.later
  locked := lineup.locked
  playing playing := by
    obtain ⟨x, on⟩ := lineup.playing playing
    have same : s = x := Option.some.inj (session.symm.trans on.session)
    subst same
    obtain ⟨t, tracks⟩ := on.tracked
    have goes := plays t tracks
    exact ⟨_,
      { session := rfl
        unstored := on.unstored
        running := goes.finished.trans on.running
        matchId := goes.matchId.trans on.matchId
        tracked := goes.tracked
        players := fun id => by
          rw [goes.ids]
          exact on.players id
        current := on.current
        eligible := fun m member flag =>
          ⟨(on.eligible m member flag).1, fun alive =>
            (on.eligible m member flag).2 (goes.living alive)⟩ }⟩

theorem Lineup.stored (lineup : Lineup starters startOrder h) {serial : Nat}
    (member : serial ∈ h.storing) : Lineup starters startOrder (h.stored serial) := by
  unfold HostedRoom.stored
  rw [if_pos member]
  refine
    { competing := lineup.competing
      seated := lineup.seated
      serials := fun s same => lineup.serials s (Option.filter_eq_some_iff.mp same).1
      storing := fun x inside => lineup.storing x (List.mem_of_mem_erase inside)
      later := lineup.later
      locked := lineup.locked
      playing := fun playing => ?_ }
  obtain ⟨s, on⟩ := lineup.playing playing
  have other : s.serial ≠ serial := fun same => on.unstored (same ▸ member)
  refine ⟨s, { on with session := ?_, unstored := ?_ }⟩
  · simp [on.session, other]
  · exact fun inside => on.unstored (List.mem_of_mem_erase inside)

theorem Lineup.hold (lineup : Lineup starters startOrder h) (reservation : SeatReservation)
    (admits : h.room.state = .waiting ∨ h.room.state = .playing) :
    Lineup starters startOrder { h with room := { h.room with
      roster := (h.room.roster.hold reservation h.room.lockedPlayerIds).1 } } := by
  have seated := LobbyRoster.hold_seated lineup.seated reservation h.room.lockedPlayerIds
  rcases LobbyRoster.hold_cases h.room.roster reservation h.room.lockedPlayerIds with
    ⟨_, refused⟩ | ⟨seat, _, found, held⟩
  · rw [refused]
    exact lineup
  · rw [held] at seated ⊢
    refine { lineup with seated, locked := fun engaged => ?_, playing := fun playing => ?_ }
    · have locked := lineup.locked engaged
      refine { locked with blocked := fun hold member => ?_ }
      have playing : h.room.state = .playing := by
        rcases engaged with counting | playing
        · change h.room.state = .countdown at counting
          rcases admits with waiting | playing
          · rw [waiting] at counting
            cases counting
          · exact playing
        · exact playing
      rcases KeyedList.mem_set.mp member with rfl | ⟨old, _⟩
      · obtain ⟨snapshot, locks, _, _, ids⟩ := locked.snapshot
        have free := (LobbyRoster.firstFreeSeat_some found).1
        unfold Room.lockedPlayerIds at free
        rw [if_pos playing, locks] at free
        rw [← ids]
        exact free
      · exact locked.blocked hold old
    · obtain ⟨s, on⟩ := lineup.playing playing
      exact ⟨s, { on with }⟩

theorem Lineup.claim (lineup : Lineup starters startOrder h) (userId : ActorId) (now : Int)
    (role : PlayerRole) (late : h.room.state = .playing → role ≠ .player) :
    Lineup starters startOrder { h with
      room := { h.room with roster := (h.room.roster.claim userId now role).1 } } := by
  have seated := LobbyRoster.claim_seated lineup.seated userId now role
  rcases LobbyRoster.claim_cases h.room.roster userId now role with
    ⟨_, fades⟩ | ⟨hold, found, claimed⟩
  · exact lineup.fades ⟨rfl, rfl, rfl, rfl⟩ rfl rfl fades
  · obtain ⟨held, _⟩ := KeyedList.mem_of_get? found
    rw [claimed] at seated ⊢
    refine
      { lineup with
        seated
        later := Nat.le_succ_of_le lineup.later
        locked := fun engaged => ?_
        playing := fun playing => ?_ }
    · have locked := lineup.locked engaged
      refine
        { locked with
          present := fun m member inside => ?_
          blocked := fun other member => locked.blocked other (KeyedList.mem_delete.mp member).1 }
      rcases KeyedList.mem_set.mp member with rfl | ⟨old, _⟩
      · exact absurd inside (locked.blocked hold held)
      · exact locked.present m old inside
    · have locked := lineup.locked (Or.inr playing)
      obtain ⟨s, on⟩ := lineup.playing playing
      refine ⟨s, { on with current := fun m member => ?_, eligible := fun m member flag => ?_ }⟩
      · rcases KeyedList.mem_set.mp member with rfl | ⟨old, _⟩
        · have outside := locked.blocked hold held
          have absent : (LobbyRoster.seated hold h.room.roster.joinOrder role).inCurrentGame =
              false := decide_eq_false (late playing)
          rw [absent]
          exact ⟨nofun, fun inside => absurd inside outside⟩
        · exact on.current m old
      · rcases KeyedList.mem_set.mp member with rfl | ⟨old, _⟩
        · cases flag
        · exact on.eligible m old flag

/-- Every act keeps the lineup. -/
theorem Lineup.act (lineup : Lineup starters startOrder h) (act : Act h v) :
    Lineup starters startOrder v := by
  cases act with
  | quiet still => exact lineup.fades still.same still.state still.startSnapshot still.fades
  | play session plays => exact lineup.play session plays
  | mark playing found current out => exact lineup.mark playing found current out
  | remove found out =>
    exact lineup.fades ⟨rfl, rfl, rfl, rfl⟩ rfl rfl (LobbyRoster.remove_fades _ _)
  | finish playing returnsAt =>
    refine lineup.disengaged rfl lineup.seated lineup.serials lineup.storing lineup.later ?_
    rintro (counting | playing) <;> contradiction
  | @isOver s session idle game =>
    refine { lineup with serials := fun x same => ?_, playing := fun on => absurd on idle }
    cases same
    exact lineup.serials s session
  | @storing s session idle =>
    refine { lineup with storing := fun x member => ?_, playing := fun on => absurd on idle }
    rcases List.mem_append.mp member with old | new
    · exact lineup.storing x old
    · rw [List.mem_singleton.mp new]
      exact lineup.serials s session
  | stored member => exact lineup.stored member
  | close closed same fades gone =>
    refine lineup.disengaged same.options (fades.seated lineup.seated) ?_ lineup.storing ?_ ?_
    · rcases gone with rfl | rfl
      · nofun
      · exact lineup.serials
    · rw [fades.joinOrder]
      exact lineup.later
    · rw [Engaged, closed]
      nofun
  | hold reservation admits => exact lineup.hold reservation admits
  | claim userId now role late => exact lineup.claim userId now role late
  | wake allocating =>
    refine lineup.disengaged rfl lineup.seated lineup.serials lineup.storing lineup.later ?_
    rintro (counting | playing) <;> contradiction
  | shift userId slot editable =>
    refine lineup.disengaged rfl (LobbyRoster.moveSlot_seated lineup.seated userId slot)
      lineup.serials lineup.storing ?_ ?_
    · have order : (h.room.roster.moveSlot userId slot).1.joinOrder = h.room.roster.joinOrder := by
        unfold LobbyRoster.moveSlot
        repeat' split
        all_goals rfl
      rw [order]
      exact lineup.later
    · rintro (counting | playing)
      · rcases editable with waiting | waiting <;> rw [waiting] at counting <;> cases counting
      · rcases editable with waiting | waiting <;> rw [waiting] at playing <;> cases playing

theorem Lineup.acts (lineup : Lineup starters startOrder h) (acts : Acts h v) :
    Lineup starters startOrder v := by
  induction acts with
  | refl => exact lineup
  | tail _ last ih => exact ih.act last

/-! ## The clock and the start -/

theorem Lineup.sweep (lineup : Lineup starters startOrder h) {now : Int} (sweep : Sweep now h v) :
    Lineup starters startOrder v := by
  cases sweep with
  | purge =>
    exact lineup.fades ⟨rfl, rfl, rfl, rfl⟩ rfl rfl (LobbyRoster.purgeExpiredHolds_fades _ now)
  | settle userId =>
    have still : Quiet h.room (h.room.updateMember userId
        (fun m => { m with admissionPendingUntil := none }) fun _ => rfl) :=
      update_quiet _ _ _ (fun _ => ⟨rfl, rfl, rfl, rfl, rfl, rfl⟩) fun _ => id
    exact lineup.fades still.same rfl rfl still.fades
  | expire found expired =>
    exact lineup.fades ⟨rfl, rfl, rfl, rfl⟩ rfl rfl (LobbyRoster.remove_fades _ _)
  | close => exact lineup.acts (close_acts h)

theorem Lineup.sweeps (lineup : Lineup starters startOrder h) {now : Int}
    (sweeps : Relation.ReflTransGen (Sweep now) h v) : Lineup starters startOrder v := by
  induction sweeps with
  | refl => exact lineup
  | tail _ last ih => exact ih.sweep last

theorem Lineup.back (lineup : Lineup starters startOrder h) (isOver : h.room.state = .postGame) :
    Lineup starters startOrder (h.mapRoom backToLobby) := by
  have thins : LobbyRoster.Thins h.room.roster (backToLobby h.room).roster := by
    have updated := LobbyRoster.updateAll_thins h.room.roster
      (f := fun m => { m with role := .player, spectatorEligible := false, inCurrentGame := false })
      (fun _ => rfl) fun _ => ⟨rfl, rfl, rfl, rfl⟩
    unfold backToLobby Room.transition
    dsimp only
    split <;> exact updated
  have state : (backToLobby h.room).state = .waiting := by
    simp [backToLobby, Room.transition, isOver, canTransition]
  refine lineup.disengaged ?_ (thins.seated lineup.seated) lineup.serials lineup.storing ?_ ?_
  · change (backToLobby h.room).options = h.room.options
    unfold backToLobby Room.transition
    dsimp only
    split <;> rfl
  · change startOrder ≤ (backToLobby h.room).roster.joinOrder
    rw [thins.joinOrder]
    exact lineup.later
  · change ¬ Engaged (backToLobby h.room).state
    rw [state]
    rintro (counting | playing)
    · cases counting
    · cases playing

variable [JsNumber K]

theorem enterGame_room {room : Room} (counting : room.state = .countdown)
    (snapshot : RoomStartSnapshot) :
    enterGame room snapshot =
      { room with
        roster := room.roster.updateAll (fun m =>
          { m with
            inCurrentGame := snapshot.playerIds.contains m.playerId
            role := if snapshot.playerIds.contains m.playerId then .player else .waiting
            spectatorEligible := false }) fun _ => rfl
        countdownEndsAt := none
        state := .playing } := by
  simp [enterGame, Room.transition, counting, canTransition]

theorem Lineup.begin (lineup : Lineup starters startOrder h) {env : StartEnv K}
    {snapshot : RoomStartSnapshot} {started : HostedRoom K} (counting : h.room.state = .countdown)
    (locks : h.room.startSnapshot = some snapshot)
    (begins : h.startGame env snapshot = some started) :
    Lineup starters startOrder (started.mapRoom fun room => enterGame room snapshot) := by
  have locked := lineup.locked (Or.inl counting)
  obtain ⟨_, same, mode, matchId, ids⟩ := locked.snapshot
  rw [locks, Option.some.injEq] at same
  subst same
  obtain ⟨game, starts, rfl⟩ := startGame_starts mode (ids ▸ locked.distinct) begins
  unfold mapRoom
  dsimp only
  rw [enterGame_room counting]
  have thins : LobbyRoster.Thins h.room.roster (h.room.roster.updateAll (fun m =>
      { m with
        inCurrentGame := snapshot.playerIds.contains m.playerId
        role := if snapshot.playerIds.contains m.playerId then .player else .waiting
        spectatorEligible := false }) fun _ => rfl) :=
    LobbyRoster.updateAll_thins h.room.roster _ fun _ => ⟨rfl, rfl, rfl, rfl⟩
  refine
    { competing := lineup.competing
      seated := thins.seated lineup.seated
      serials := fun s same => ?_
      storing := fun serial member => Nat.lt_succ_of_lt (lineup.storing serial member)
      later := lineup.later
      locked := fun _ => locked.thins thins rfl rfl
      playing := fun _ => ⟨⟨h.serials, game⟩, ?_⟩ }
  · cases same
    exact Nat.lt_succ_self _
  · refine
      { session := rfl
        unstored := fun member => Nat.lt_irrefl _ (lineup.storing _ member)
        running := starts.running
        matchId := starts.matchId.trans matchId
        tracked := starts.tracked
        players := fun id => by rw [starts.players, ids]
        current := fun n member => ?_
        eligible := fun n member flag => ?_ }
    · obtain ⟨m, _, rfl⟩ := LobbyRoster.mem_updateAll.mp member
      simp [ids]
    · obtain ⟨m, _, rfl⟩ := LobbyRoster.mem_updateAll.mp member
      cases flag

theorem Lineup.advance (lineup : Lineup starters startOrder h) (env : StartEnv K) (now : Int) :
    Lineup starters startOrder (h.advance env now) := by
  obtain ⟨mid, sweeps, same | due⟩ := advance_cases h env now
  · rw [same]
    exact lineup.sweeps sweeps
  · have swept := lineup.sweeps sweeps
    have begun : Lineup starters startOrder (mid.startIfDue env now) := by
      rcases startIfDue_cases mid env now with
        idle | ⟨snapshot, started, counting, _, locks, begins, result⟩
      · rw [idle]
        exact swept
      · rw [result]
        exact swept.begin counting locks begins
    rw [due]
    rcases returnIfDue_cases (mid.startIfDue env now) now with idle | ⟨isOver, result⟩
    · rw [idle]
      exact begun
    · rw [result]
      exact begun.back isOver

/-! ## Locking a lineup -/

theorem mem_participants {r : Room} {m : LobbyMember} :
    m ∈ r.participants ↔ m ∈ r.roster.membersByUser.entries ∧ m.connection.isSome = true := by
  rw [Room.participants, List.mem_filter, Room.members, LobbyRoster.mem_members]

theorem participants_distinct {r : Room} (seated : r.roster.Seated) :
    ((r.participants.map Starter.of).map Starter.playerId).Nodup := by
  have users : (r.participants.map LobbyMember.userId).Nodup := by
    have sorted := (sortById_perm LobbyMember.joinedOrder r.roster.membersByUser.entries).map
      LobbyMember.userId
    have all : (r.members.map LobbyMember.userId).Nodup :=
      sorted.nodup_iff.mpr r.roster.membersByUser.distinct
    exact all.sublist (List.filter_sublist.map _)
  rw [List.map_map]
  refine (List.Nodup.of_map _ users).map_on fun m member n other same => ?_
  obtain ⟨inside, _⟩ := mem_participants.mp member
  obtain ⟨alike, _⟩ := mem_participants.mp other
  refine seated.members m inside n alike ?_
  rw [← seated.slot m inside, ← seated.slot n alike]
  exact same

/-- The ways `requestStart` can go. -/
theorem requestStart_cases (r : Room) (now : Int) (requester : ActorId) (gate : Room.StartGate) :
    (∃ reason, r.requestStart now requester gate = (r, some reason)) ∨
    ∃ matchId grantedMatchId, r.state = .waiting ∧
      (0 < r.playedGames ∧ r.mode = RoomMode.match ∧ r.grantedMatchId = some matchId ∧
          grantedMatchId = none ∨
        ¬ (0 < r.playedGames ∧ r.mode = RoomMode.match) ∧ matchId = r.matchId ∧
          grantedMatchId = r.grantedMatchId) ∧
      r.requestStart now requester gate =
        ({ r with
            matchId
            grantedMatchId
            playedGames := r.playedGames + 1
            roster := r.roster.clearHolds
            startSnapshot := some
              { roomId := r.id
                matchId
                mapId := r.mapId
                mode := r.mode
                players := r.participants.map fun m => ⟨m.playerId, m.loadout⟩
                maxMatchDurationTicks := r.options.maxMatchDurationTicks }
            countdownEndsAt := some (now + r.options.timing.countdownMs)
            state := .countdown }, none) := by
  unfold Room.requestStart
  split
  · exact Or.inl ⟨_, rfl⟩
  rename_i waiting
  rw [not_not] at waiting
  split
  · exact Or.inl ⟨_, rfl⟩
  split
  · exact Or.inl ⟨_, rfl⟩
  split
  · exact Or.inl ⟨_, rfl⟩
  split
  · exact Or.inl ⟨_, rfl⟩
  split
  · exact Or.inl ⟨_, rfl⟩
  dsimp only
  split
  · exact Or.inl ⟨_, rfl⟩
  rename_i granted
  right
  by_cases rematch : 0 < r.playedGames ∧ r.mode = RoomMode.match
  · obtain ⟨matchId, pending⟩ := Option.ne_none_iff_exists'.mp fun none => granted ⟨rematch, none⟩
    refine ⟨matchId, none, waiting, Or.inl ⟨rematch.1, rematch.2, pending, rfl⟩, ?_⟩
    simp [rematch, pending, Room.transition, waiting, canTransition]
  · refine ⟨r.matchId, r.grantedMatchId, waiting, Or.inr ⟨rematch, rfl, rfl⟩, ?_⟩
    simp [rematch, Room.transition, waiting, canTransition]

omit [JsNumber K] in
theorem Lineup.lock (lineup : Lineup starters startOrder h) (now : Int) (requester : ActorId)
    (gate : Room.StartGate) (granted : (h.room.requestStart now requester gate).2 = none) :
    Lineup (h.room.participants.map Starter.of) h.room.roster.joinOrder
      (h.mapRoom fun room => (room.requestStart now requester gate).1) := by
  rcases requestStart_cases h.room now requester gate with
    ⟨reason, refused⟩ | ⟨matchId, pending, waiting, _, starts⟩
  · rw [refused] at granted
    cases granted
  · unfold mapRoom
    dsimp only
    rw [starts]
    refine
      { competing := lineup.competing
        seated := (LobbyRoster.clearHolds_fades _).seated lineup.seated
        serials := lineup.serials
        storing := lineup.storing
        later := le_rfl
        locked := fun _ => ?_
        playing := nofun }
    refine
      { snapshot := ⟨_, rfl, lineup.competing, rfl, ?_⟩
        distinct := participants_distinct lineup.seated
        present := fun m member inside => ?_
        blocked := nofun
        order := fun s member => ?_ }
    · simp [RoomStartSnapshot.playerIds, Starter.of]
    · rw [List.map_map] at inside
      obtain ⟨n, listed, same⟩ := List.mem_map.mp inside
      have there := (mem_participants.mp listed).1
      have own : n = m := by
        refine lineup.seated.members n there m member ?_
        rw [← lineup.seated.slot n there, ← lineup.seated.slot m member]
        exact same
      rw [← own]
      exact List.mem_map_of_mem listed
    · obtain ⟨m, listed, rfl⟩ := List.mem_map.mp member
      exact lineup.seated.order m (mem_participants.mp listed).1

end SwitchRemake.Game

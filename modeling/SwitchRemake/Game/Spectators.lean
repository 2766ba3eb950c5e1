import SwitchRemake.Game.Lineup

/-!
# Who sees a match unfiltered

Only a member of the lineup that is out of the match it was locked for.
-/

namespace SwitchRemake.Game
open Lib Simulation Rooms GameSession HostedRoom

variable {K : Type} {h v u : HostedRoom K}

/-- A room of a match server that no match has engaged yet. -/
structure Fresh (h : HostedRoom K) : Prop where
  competing : h.room.options.mode = RoomMode.match
  idle : ¬ Engaged h.room.state
  seated : h.room.roster.Seated
  session : h.session = none
  storing : h.storing = []

theorem Fresh.lineup (fresh : Fresh h) : Lineup [] 0 h where
  competing := fresh.competing
  seated := fresh.seated
  serials s same := by
    rw [fresh.session] at same
    cases same
  storing serial member := by
    rw [fresh.storing] at member
    cases member
  later := Nat.zero_le _
  locked engaged := absurd engaged fresh.idle
  playing on := absurd (Or.inr on) fresh.idle

/-! ## Who joins later -/

/-- A membership is as old as before, or newer than everything before. -/
structure Ages (h v : HostedRoom K) : Prop where
  order : h.room.roster.joinOrder ≤ v.room.roster.joinOrder
  member : ∀ n ∈ v.room.roster.membersByUser.entries,
    (∃ m ∈ h.room.roster.membersByUser.entries,
      m.userId = n.userId ∧ m.joinedOrder = n.joinedOrder) ∨
    h.room.roster.joinOrder ≤ n.joinedOrder

theorem Ages.refl (h : HostedRoom K) : Ages h h :=
  ⟨le_rfl, fun n member => Or.inl ⟨n, member, rfl, rfl⟩⟩

theorem Ages.trans (first : Ages h v) (second : Ages v u) : Ages h u := by
  refine ⟨first.order.trans second.order, fun n member => ?_⟩
  rcases second.member n member with ⟨m, middle, user, joined⟩ | newer
  · rw [← user, ← joined]
    exact first.member m middle
  · exact Or.inr (first.order.trans newer)

theorem Ages.of_thins (thins : LobbyRoster.Thins h.room.roster v.room.roster) : Ages h v := by
  refine ⟨thins.joinOrder.ge, fun n member => ?_⟩
  obtain ⟨m, before, same⟩ := thins.member n member
  exact Or.inl ⟨m, before, same.userId.symm, same.joinedOrder.symm⟩

theorem Ages.act (act : Act h v) : Ages h v := by
  cases act with
  | quiet still => exact .of_thins still.fades.thins
  | play => exact .of_thins (LobbyRoster.Fades.refl _).thins
  | mark => exact .of_thins (markEliminatedMember_thins _ _)
  | remove => exact .of_thins (LobbyRoster.remove_fades _ _).thins
  | finish => exact .of_thins (LobbyRoster.Fades.refl _).thins
  | isOver => exact .of_thins (LobbyRoster.Fades.refl _).thins
  | storing => exact .of_thins (LobbyRoster.Fades.refl _).thins
  | stored member =>
    unfold HostedRoom.stored
    rw [if_pos member]
    exact .of_thins (LobbyRoster.Fades.refl _).thins
  | close _ _ fades => exact .of_thins fades.thins
  | hold reservation admits =>
    rcases LobbyRoster.hold_cases h.room.roster reservation h.room.lockedPlayerIds with
      ⟨_, refused⟩ | ⟨seat, _, _, held⟩
    · rw [refused]
      exact .refl h
    · rw [held]
      exact ⟨le_rfl, fun n member => Or.inl ⟨n, member, rfl, rfl⟩⟩
  | claim userId now role late =>
    rcases LobbyRoster.claim_cases h.room.roster userId now role with
      ⟨_, fades⟩ | ⟨hold, _, claimed⟩
    · exact .of_thins fades.thins
    · rw [claimed]
      refine ⟨Nat.le_succ _, fun n member => ?_⟩
      rcases KeyedList.mem_set.mp member with rfl | ⟨old, _⟩
      · exact Or.inr le_rfl
      · exact Or.inl ⟨n, old, rfl, rfl⟩
  | wake => exact .of_thins (LobbyRoster.Fades.refl _).thins
  | shift userId slot editable =>
    unfold LobbyRoster.moveSlot
    split
    · exact .refl h
    split
    · exact .refl h
    split
    · exact .refl h
    · refine ⟨le_rfl, fun n member => ?_⟩
      obtain ⟨m, before, ⟨_, rfl⟩ | ⟨_, rfl⟩⟩ := LobbyRoster.mem_update.mp member
      · exact Or.inl ⟨m, before, rfl, rfl⟩
      · exact Or.inl ⟨n, before, rfl, rfl⟩

theorem Ages.acts (acts : Acts h v) : Ages h v := by
  induction acts with
  | refl => exact .refl _
  | tail _ last ih => exact ih.trans (.act last)

theorem Ages.sweeps {now : Int} (sweeps : Relation.ReflTransGen (Sweep now) h v) : Ages h v := by
  induction sweeps with
  | refl => exact .refl _
  | tail _ last ih =>
    refine ih.trans ?_
    cases last with
    | purge => exact .of_thins (LobbyRoster.purgeExpiredHolds_fades _ now).thins
    | settle userId =>
      exact .of_thins (LobbyRoster.update_thins _ userId
        (f := fun m => { m with admissionPendingUntil := none }) (fun _ => rfl)
        fun _ => ⟨rfl, rfl, rfl, rfl⟩)
    | expire => exact .of_thins (LobbyRoster.remove_fades _ _).thins
    | close => exact .acts (close_acts _)

variable [JsNumber K]

omit [JsNumber K] in
theorem transition_roster (r : Room) (next : RoomState) : (r.transition next).roster = r.roster := by
  unfold Room.transition
  split <;> rfl

theorem startGame_room {started : HostedRoom K} {env : StartEnv K} {snapshot : RoomStartSnapshot}
    (begins : h.startGame env snapshot = some started) : started.room = h.room := by
  obtain ⟨world, _, rfl⟩ := Option.map_eq_some_iff.mp begins
  rfl

theorem Ages.advance (h : HostedRoom K) (env : StartEnv K) (now : Int) :
    Ages h (h.advance env now) := by
  obtain ⟨mid, sweeps, same | due⟩ := advance_cases h env now
  · rw [same]
    exact .sweeps sweeps
  · refine (Ages.sweeps sweeps).trans ?_
    have begun : Ages mid (mid.startIfDue env now) := by
      rcases startIfDue_cases mid env now with
        idle | ⟨snapshot, started, _, _, _, begins, result⟩
      · rw [idle]
        exact .refl _
      · rw [result]
        apply Ages.of_thins
        change LobbyRoster.Thins mid.room.roster (enterGame started.room snapshot).roster
        rw [enterGame, transition_roster, startGame_room begins]
        exact LobbyRoster.updateAll_thins _ _ fun _ => ⟨rfl, rfl, rfl, rfl⟩
    rw [due]
    refine begun.trans ?_
    rcases returnIfDue_cases (mid.startIfDue env now) now with idle | ⟨_, result⟩
    · rw [idle]
      exact .refl _
    · rw [result]
      apply Ages.of_thins
      change LobbyRoster.Thins (mid.startIfDue env now).room.roster
        (backToLobby (mid.startIfDue env now).room).roster
      rw [backToLobby, transition_roster]
      exact LobbyRoster.updateAll_thins _ _ fun _ => ⟨rfl, rfl, rfl, rfl⟩

theorem Ages.caughtUp (h : HostedRoom K) (op : HostOp K) : Ages h (h.caughtUp op) := by
  unfold HostedRoom.caughtUp
  cases clock op with
  | none => exact .refl h
  | some at_ => exact .advance h at_.1 at_.2

/-! ## Runs -/

theorem Lineup.caughtUp {starters : List Starter} {startOrder : Nat}
    (lineup : Lineup starters startOrder h) (op : HostOp K) :
    Lineup starters startOrder (h.caughtUp op) := by
  unfold HostedRoom.caughtUp
  cases clock op with
  | none => exact lineup
  | some at_ => exact lineup.advance at_.1 at_.2

omit [JsNumber K] in
theorem grantMatchId_roster (r : Room) (matchId : MatchId) :
    (r.grantMatchId matchId).roster = r.roster := by
  unfold Room.grantMatchId
  split <;> rfl

omit [JsNumber K] in
theorem Lineup.grant {starters : List Starter} {startOrder : Nat}
    (lineup : Lineup starters startOrder h) (matchId : MatchId) :
    Lineup starters startOrder (h.mapRoom fun room => room.grantMatchId matchId) := by
  unfold mapRoom Room.grantMatchId
  dsimp only
  split
  · exact lineup
  · refine
      { lineup with
        locked := fun engaged => { lineup.locked engaged with }
        playing := fun playing => ?_ }
    obtain ⟨s, on⟩ := lineup.playing playing
    exact ⟨s, { on with }⟩

/-- The lineup of a run is the one its last start has locked, and a membership that is new after an
operation is younger than that start. -/
theorem lineup_apply {r : HostRun K} (lineup : Lineup r.starters r.startOrder r.host)
    (op : HostOp K) (allows : r.Allows op) :
    Lineup (r.apply op).starters (r.apply op).startOrder (r.apply op).host ∧
      Ages r.host (r.apply op).host := by
  by_cases locks : ∃ now requester gate, op = .requestStart now requester gate
  · obtain ⟨now, requester, gate, rfl⟩ := locks
    unfold HostRun.apply
    dsimp only
    split
    · rename_i granted
      refine ⟨lineup.lock now requester gate granted, .of_thins ?_⟩
      rcases requestStart_cases r.host.room now requester gate with
        ⟨reason, refused⟩ | ⟨_, _, _, _, starts⟩
      · rw [refused] at granted
        cases granted
      · change LobbyRoster.Thins r.host.room.roster
          (r.host.room.requestStart now requester gate).1.roster
        rw [starts]
        exact (LobbyRoster.clearHolds_fades _).thins
    · rename_i refusal
      rcases requestStart_cases r.host.room now requester gate with
        ⟨reason, refused⟩ | ⟨_, _, _, _, starts⟩
      · have same : r.host.apply (.requestStart now requester gate) = r.host := by
          change ({ r.host with room := (r.host.room.requestStart now requester gate).1 } :
            HostedRoom K) = r.host
          rw [refused]
        rw [same]
        exact ⟨lineup, .refl _⟩
      · rw [starts] at refusal
        exact absurd rfl refusal
  · have ghosts : (r.apply op).starters = r.starters ∧ (r.apply op).startOrder = r.startOrder ∧
        (r.apply op).host = r.host.apply op := by
      unfold HostRun.apply
      cases op with
      | requestStart now requester gate => exact absurd ⟨now, requester, gate, rfl⟩ locks
      | _ => exact ⟨rfl, rfl, rfl⟩
    rw [ghosts.1, ghosts.2.1, ghosts.2.2]
    by_cases grants : ∃ matchId, op = .grantMatchId matchId
    · obtain ⟨matchId, rfl⟩ := grants
      have granted := lineup.grant matchId
      refine ⟨granted, ⟨?_, fun n member => ?_⟩⟩
      · exact (grantMatchId_roster r.host.room matchId).symm ▸ le_rfl
      · have before : n ∈ r.host.room.roster.membersByUser.entries := by
          rw [← grantMatchId_roster r.host.room matchId]
          exact member
        exact Or.inl ⟨n, before, rfl, rfl⟩
    · have acts := apply_acts r.host allows
        (fun now requester gate same => locks ⟨now, requester, gate, same⟩)
        fun matchId same => grants ⟨matchId, same⟩
      exact ⟨(lineup.caughtUp op).acts acts, (Ages.caughtUp r.host op).trans (.acts acts)⟩

theorem lineup_reach {host : HostedRoom K} {r : HostRun K} (fresh : Fresh host)
    (run : Reach HostRun.Allows HostRun.apply (HostRun.start host) r) :
    Lineup r.starters r.startOrder r.host :=
  run.invariant (I := fun r : HostRun K => Lineup r.starters r.startOrder r.host) fresh.lineup
    fun _ op lineup allows => (lineup_apply lineup op allows).1

/-! ## Who is served -/

omit [JsNumber K] in
/-- A player of the current match that is out of it. -/
def Eliminated (h : HostedRoom K) (playerId : Nat) : Prop :=
  ∃ s, h.session = some s ∧ s.game.matchId = h.room.matchId ∧
    playerId ∈ playerIds s.game.world ∧ playerId ∉ living s.game.world

omit [JsNumber K] in
theorem mem_snapshotTargets {room : Room} {target : Room.SnapshotTarget}
    (served : target ∈ room.snapshotTargets) :
    room.state = .playing ∧ target.member ∈ room.roster.membersByUser.entries ∧
      target.access = room.memberAccess target.member ∧ target.access ≠ .none := by
  unfold Room.snapshotTargets at served
  split at served
  · cases served
  · rename_i playing
    obtain ⟨m, listed, chosen⟩ := List.mem_filterMap.mp served
    have member := LobbyRoster.mem_members.mp listed
    have known : room.roster.getByUser m.userId = some m := KeyedList.get?_of_mem member
    have access : room.snapshotAccess m.userId = room.memberAccess m := by
      unfold Room.snapshotAccess
      rw [known]
    obtain ⟨connection, _, granted⟩ := Option.bind_eq_some_iff.mp chosen
    dsimp only at granted
    rw [access] at granted
    split at granted
    · cases granted
    · rename_i visible
      cases granted
      exact ⟨not_not.mp playing, member, rfl, visible⟩

omit [JsNumber K] in
theorem memberAccess_cases {room : Room} {m : LobbyMember} (served : room.memberAccess m ≠ .none) :
    room.memberAccess m = .unfiltered ∧ m.spectatorEligible = true ∨
      room.memberAccess m = .filtered ∧ m.inCurrentGame = true := by
  unfold Room.memberAccess at served ⊢
  split
  · simp_all
  split
  · simp_all
  split
  · rename_i watches
    exact Or.inl ⟨rfl, watches.2⟩
  split
  · rename_i plays
    exact Or.inr ⟨rfl, plays.2.1⟩
  · simp_all

theorem unfiltered_view {host : HostedRoom K} {r : HostRun K} (fresh : Fresh host)
    (run : Reach HostRun.Allows HostRun.apply (HostRun.start host) r) :
    (∀ target ∈ r.host.room.snapshotTargets,
      r.host.room.state = .playing ∧
      (∃ snapshot, r.host.room.startSnapshot = some snapshot ∧
        snapshot.matchId = r.host.room.matchId ∧
        snapshot.playerIds = r.starters.map Starter.playerId) ∧
      Starter.of target.member ∈ r.starters ∧ target.member.joinedOrder < r.startOrder ∧
      (target.access = .unfiltered → Eliminated r.host target.member.playerId)) ∧
    ∀ op, r.Allows op → ∀ n ∈ (r.apply op).host.room.members,
      (∃ m ∈ r.host.room.members, m.userId = n.userId ∧ m.joinedOrder = n.joinedOrder) ∨
        (r.apply op).startOrder ≤ n.joinedOrder := by
  have lineup := lineup_reach fresh run
  constructor
  · intro target served
    obtain ⟨playing, member, access, visible⟩ := mem_snapshotTargets served
    have locked := lineup.locked (Or.inr playing)
    obtain ⟨s, on⟩ := lineup.playing playing
    obtain ⟨snapshot, locks, _, matchId, ids⟩ := locked.snapshot
    have current : target.member.inCurrentGame = true := by
      rw [access] at visible
      rcases memberAccess_cases visible with ⟨_, eligible⟩ | ⟨_, current⟩
      · exact (on.eligible _ member eligible).1
      · exact current
    have starter := locked.present _ member ((on.current _ member).mp current)
    refine ⟨playing, ⟨snapshot, locks, matchId, ids⟩, starter, locked.order _ starter, ?_⟩
    intro unfiltered
    have eligible : target.member.spectatorEligible = true := by
      rw [access] at unfiltered
      have served : r.host.room.memberAccess target.member ≠ .none := by rw [unfiltered]; nofun
      rcases memberAccess_cases served with ⟨_, eligible⟩ | ⟨filtered, _⟩
      · exact eligible
      · rw [unfiltered] at filtered
        cases filtered
    refine ⟨s, on.session, on.matchId, ?_, (on.eligible _ member eligible).2⟩
    exact (on.players _).mpr ((on.current _ member).mp current)
  · intro op allows n member
    obtain ⟨later, ages⟩ := lineup_apply lineup op allows
    rcases ages.member n (LobbyRoster.mem_members.mp member) with ⟨m, before, same⟩ | newer
    · exact Or.inl ⟨m, LobbyRoster.mem_members.mpr before, same⟩
    · right
      have order : (r.apply op).startOrder ≤ r.host.room.roster.joinOrder := by
        unfold HostRun.apply
        split
        · split
          · exact le_rfl
          · exact lineup.later
        · exact lineup.later
      exact order.trans newer

/-! A room of four that starts a match. -/

def yard : ServerMap ℚ where
  map :=
    { mapId := "yard", cols := 4, rows := 4, tileSize := tilePx
      tiles := List.replicate 4 (List.replicate 4 .floor), barrierSpeed := 1
      timeline := fun _ => [] }
  startPositions := fun _ => []

def startEnv : StartEnv ℚ := { bundle := fun _ => yard, seed := 1, dummies := [], dummyRoster := [] }

def matchOptions : RoomOptions where
  id := "R"
  roomCode := "0001"
  name := "room"
  password := none
  mode := RoomMode.match
  minPlayersToStart := Gameplay.minPlayersToStart
  maxMatchDurationTicks := none
  timing :=
    { countdownMs := Network.countdownMs
      postGameMs := Network.postGameMs
      reconnectGraceMs := Network.reconnectGraceMs
      startLockOnJoinMs := Network.startLockOnJoinMs
      startLockOnMapChangeMs := Network.startLockOnMapChangeMs
      startLockJoinBudgetMs := Network.startLockJoinBudgetMs
      startLockJoinBudgetWindowMs := Network.startLockJoinBudgetWindowMs }
  isKnownMap := fun _ _ => true

def ticket (user : Nat) (resume : Bool) (expiresAt : Int) : SeatReservation :=
  { userId := .account user, nickname := "", lobbyStats := none, roomId := "R", serverId := "S"
    issuedAt := 0, expiresAt, resume }

def socket (user seat : Nat) (resume : Bool) : Connection :=
  { id := user, userId := .account user, playerId := seat, roomId := "R", resume }

def newRoom : HostedRoom ℚ :=
  { room := Room.create matchOptions 8 "yard" "M1" (ticket 1 false 15000), session := none
    serials := 0, storing := [] }

def join (user : Nat) : List (HostOp ℚ) :=
  [.reserveJoin startEnv 0 (ticket user false 15000) none,
    .admitReservation startEnv 0 (ticket user false 15000),
    .bindConnection 0 (socket user user false)]

/-- Four players are here, and their host starts at the twentieth second. -/
def gather : List (HostOp ℚ) :=
  (join 1).tail ++ join 2 ++ join 3 ++ join 4 ++
    [.requestStart 20000 (.account 1) ⟨false, true⟩]

theorem newRoom_fresh : Fresh newRoom where
  competing := rfl
  idle := nofun
  seated :=
    { slot := by decide +kernel
      holdSlot := by decide +kernel
      members := by decide +kernel
      holds := by decide +kernel
      apart := by decide +kernel
      strangers := by decide +kernel
      order := by decide +kernel }
  session := rfl
  storing := rfl

/-- Player 4 loses its connection in the match, comes back and watches. -/
def watching : List (HostOp ℚ) :=
  gather ++ [.advance startEnv 29000, .disconnect 30000 (socket 4 4 false),
    .admitReservation startEnv 31000 (ticket 4 true 34000), .bindConnection 31000 (socket 4 4 true)]

theorem watching_allowed :
    AllowedRun HostRun.Allows HostRun.apply (HostRun.start newRoom) watching := by
  simp only [watching, gather, join, List.tail_cons, List.cons_append, List.nil_append, AllowedRun,
    HostRun.Allows, HostedRoom.Allows, and_self]

theorem unfiltered_view_watching :
    (∃ target ∈ (watching.foldl HostRun.apply (HostRun.start newRoom)).host.room.snapshotTargets,
      target.access = .unfiltered ∧ target.member.playerId = 4) ∧
    ∀ target ∈ (watching.foldl HostRun.apply (HostRun.start newRoom)).host.room.snapshotTargets,
      target.access = .unfiltered →
        Eliminated (watching.foldl HostRun.apply (HostRun.start newRoom)).host
          target.member.playerId :=
  ⟨by decide +kernel, fun target served =>
    ((unfiltered_view newRoom_fresh (.of_list watching_allowed)).1 target served).2.2.2.2⟩

end SwitchRemake.Game

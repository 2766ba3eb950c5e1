import SwitchRemake.Game.Spectators

/-!
# No player without a member

A member that goes while the start counts down, or whose seat runs out, goes without a word to the
game. Where that does not happen, every living player of a match has its member in the room.
-/

namespace SwitchRemake.Game
open Lib Simulation Rooms GameSession HostedRoom

variable {K : Type} {h v : HostedRoom K} {starters : List Starter} {startOrder : Nat}

/-- Everybody whom the game will have, or has, to do with has a member that can still play. -/
structure Manned (starters : List Starter) (h : HostedRoom K) : Prop where
  countdown : h.room.state = .countdown → ∀ m ∈ h.room.roster.membersByUser.entries,
    m.playerId ∈ starters.map Starter.playerId → Reachable m
  playing : h.room.state = .playing → ∀ s, h.session = some s → ∀ id ∈ living s.game.world,
    ∃ m ∈ h.room.roster.membersByUser.entries, m.playerId = id ∧ Reachable m

/-- A room that no match engages has nobody to man. -/
theorem Manned.disengaged (idle : ¬ Engaged h.room.state) : Manned starters h :=
  ⟨fun counting => absurd (Or.inl counting) idle, fun playing => absurd (Or.inr playing) idle⟩

theorem Manned.quiet (manned : Manned starters h) {room : Room} (still : Quiet h.room room) :
    Manned starters { h with room } where
  countdown counting n member inside := by
    obtain ⟨m, before, same⟩ := still.fades.member n member
    obtain ⟨p, after, alike, reaches⟩ := still.stays m before
    have one : p = n := by
      apply room.roster.membersByUser.eq_of_key after member
      rw [alike.userId, same.userId]
    rw [same.playerId] at inside
    rw [← one]
    exact reaches (manned.countdown (still.state.symm.trans counting) m before inside)
  playing playing s session id alive := by
    obtain ⟨m, before, seat, reach⟩ :=
      manned.playing (still.state.symm.trans playing) s session id alive
    obtain ⟨n, after, same, reaches⟩ := still.stays m before
    exact ⟨n, after, same.playerId.trans seat, reaches reach⟩

theorem Manned.mark (manned : Manned starters h) (userId : ActorId) :
    Manned starters { h with room := h.room.markEliminatedMember userId } where
  countdown counting n member inside := by
    obtain ⟨m, before, ⟨_, rfl⟩ | ⟨_, rfl⟩⟩ := LobbyRoster.mem_update.mp member
    · exact manned.countdown counting m before inside
    · exact manned.countdown counting n before inside
  playing playing s session id alive := by
    obtain ⟨m, before, seat, reach⟩ := manned.playing playing s session id alive
    by_cases own : m.userId = userId
    · exact ⟨_, LobbyRoster.mem_update.mpr ⟨m, before, Or.inl ⟨own, rfl⟩⟩, seat, reach⟩
    · exact ⟨m, LobbyRoster.mem_update.mpr ⟨m, before, Or.inr ⟨own, rfl⟩⟩, seat, reach⟩

theorem mem_remove {r : LobbyRoster} {userId : ActorId} {n : LobbyMember} :
    n ∈ (r.remove userId).1.membersByUser.entries ↔
      n ∈ r.membersByUser.entries ∧ n.userId ≠ userId := by
  rcases LobbyRoster.remove_cases r userId with ⟨same, absent⟩ | ⟨m, host, found, removed⟩
  · rw [same]
    refine ⟨fun member => ⟨member, fun own => ?_⟩, And.left⟩
    have known := KeyedList.get?_of_mem member
    rw [own] at known
    exact nomatch absent.symm.trans known
  · rw [removed]
    exact KeyedList.mem_delete

theorem Manned.remove (manned : Manned starters h) (lineup : Lineup starters startOrder h)
    {m : LobbyMember} (found : h.room.roster.getByUser m.userId = some m)
    (out : h.OutOfMatch m.playerId) : Manned starters { h with
      room := { h.room with roster := (h.room.roster.remove m.userId).1 } } where
  countdown counting n member := manned.countdown counting n (mem_remove.mp member).1
  playing playing s session id alive := by
    obtain ⟨n, before, seat, reach⟩ := manned.playing playing s session id alive
    refine ⟨n, mem_remove.mpr ⟨before, fun own => ?_⟩, seat, reach⟩
    obtain ⟨x, on⟩ := lineup.playing playing
    have gone := on.outOfMatch out
    have same : s = x := Option.some.inj (session.symm.trans on.session)
    have one : n = m := h.room.roster.membersByUser.eq_of_key before
      (LobbyRoster.getByUser_some found).1 own
    rw [← same, ← one, seat] at gone
    exact gone alive

theorem Manned.claim (manned : Manned starters h) (lineup : Lineup starters startOrder h)
    (userId : ActorId) (now : Int) (role : PlayerRole) : Manned starters { h with
      room := { h.room with roster := (h.room.roster.claim userId now role).1 } } := by
  have entries : (h.room.roster.claim userId now role).1.membersByUser =
      h.room.roster.membersByUser ∨
      ∃ hold, h.room.roster.holds.get? userId = some hold ∧
        (h.room.roster.claim userId now role).1.membersByUser =
          h.room.roster.membersByUser.set
            (LobbyRoster.seated hold h.room.roster.joinOrder role) := by
    unfold LobbyRoster.claim
    split
    · exact Or.inl rfl
    · rename_i hold found
      dsimp only
      split
      · exact Or.inl rfl
      · exact Or.inr ⟨hold, found, rfl⟩
  rcases entries with same | ⟨hold, found, joined⟩
  · refine ⟨fun counting n member => ?_, fun playing s session id alive => ?_⟩
    · rw [same] at member
      exact manned.countdown counting n member
    · rw [same]
      exact manned.playing playing s session id alive
  · obtain ⟨held, _⟩ := KeyedList.mem_of_get? found
    refine ⟨fun counting n member inside => ?_, fun playing s session id alive => ?_⟩
    · rw [joined] at member
      rcases KeyedList.mem_set.mp member with rfl | ⟨old, _⟩
      · exact absurd inside ((lineup.locked (Or.inl counting)).blocked hold held)
      · exact manned.countdown counting n old inside
    · obtain ⟨n, before, seat, reach⟩ := manned.playing playing s session id alive
      refine ⟨n, ?_, seat, reach⟩
      rw [joined]
      refine KeyedList.mem_set.mpr (Or.inr ⟨before, ?_⟩)
      exact (lineup.seated.strangers hold held n before).symm

theorem Manned.act (manned : Manned starters h) (lineup : Lineup starters startOrder h)
    (act : Act h v) : Manned starters v := by
  cases act with
  | quiet still => exact manned.quiet still
  | @play s game session plays =>
    refine ⟨manned.countdown, fun playing x same id alive => ?_⟩
    cases same
    obtain ⟨y, on⟩ := lineup.playing playing
    have one : s = y := Option.some.inj (session.symm.trans on.session)
    subst one
    obtain ⟨t, tracks⟩ := on.tracked
    exact manned.playing playing s session id ((plays t tracks).living alive)
  | mark => exact manned.mark _
  | remove found out => exact manned.remove lineup found out
  | finish => exact .disengaged (by rintro (counting | playing) <;> contradiction)
  | isOver session idle game =>
    exact ⟨manned.countdown, fun playing => absurd playing idle⟩
  | storing => exact ⟨manned.countdown, manned.playing⟩
  | stored member =>
    unfold HostedRoom.stored
    rw [if_pos member]
    exact ⟨manned.countdown, fun playing s session =>
      manned.playing playing s (Option.filter_eq_some_iff.mp session).1⟩
  | close closed =>
    refine .disengaged ?_
    rw [Engaged, closed]
    rintro (counting | playing) <;> contradiction
  | hold reservation admits =>
    rcases LobbyRoster.hold_cases h.room.roster reservation h.room.lockedPlayerIds with
      ⟨_, refused⟩ | ⟨seat, _, _, held⟩
    · rw [refused]
      exact manned
    · rw [held]
      exact ⟨manned.countdown, manned.playing⟩
  | claim userId now role => exact manned.claim lineup userId now role
  | wake => exact .disengaged (by rintro (counting | playing) <;> contradiction)
  | shift userId slot editable =>
    refine .disengaged ?_
    rcases editable with state | state <;> rw [Engaged, state] <;>
      rintro (counting | playing) <;> contradiction

theorem Manned.acts (manned : Manned starters h) (lineup : Lineup starters startOrder h)
    (acts : Acts h v) : Manned starters v := by
  induction acts with
  | refl => exact manned
  | tail earlier last ih => exact ih.act (lineup.acts earlier) last

/-! ## The clock -/

def startIsDue (room : Room) (now : Int) : Prop :=
  room.state = .countdown ∧ (room.countdownEndsAt.any fun t => decide (t ≤ now)) = true

/-- When the clock strikes `now`, nobody who still has to play is missing: the start finds every
member of its lineup, and no living player's seat runs out. -/
structure Attended (h : HostedRoom K) (now : Int) : Prop where
  start : startIsDue h.room now → ∀ snapshot, h.room.startSnapshot = some snapshot →
    ∀ id ∈ snapshot.playerIds, ∃ m ∈ h.room.roster.membersByUser.entries,
      m.playerId = id ∧ seatExpired now m = false
  match_ : h.room.state = .playing → ∀ s, h.session = some s →
    ∀ m ∈ h.room.roster.membersByUser.entries, seatExpired now m = true →
      m.playerId ∉ living s.game.world

/-- Somebody who is still there when the clock has struck `now`. -/
def Lasts (now : Int) (m : LobbyMember) : Prop := Reachable m ∧ seatExpired now m = false

/-- What the sweep of the roster at `now` keeps. -/
structure Lasting (starters : List Starter) (now : Int) (h : HostedRoom K) : Prop where
  countdown : h.room.state = .countdown → ∀ m ∈ h.room.roster.membersByUser.entries,
    m.playerId ∈ starters.map Starter.playerId → Reachable m
  due : startIsDue h.room now → ∀ id ∈ starters.map Starter.playerId,
    ∃ m ∈ h.room.roster.membersByUser.entries, m.playerId = id ∧ Lasts now m
  playing : h.room.state = .playing → ∀ s, h.session = some s → ∀ id ∈ living s.game.world,
    ∃ m ∈ h.room.roster.membersByUser.entries, m.playerId = id ∧ Lasts now m

theorem Manned.lasting (manned : Manned starters h) (lineup : Lineup starters startOrder h)
    {now : Int} (attended : Attended h now) : Lasting starters now h where
  countdown := manned.countdown
  due due id inside := by
    obtain ⟨snapshot, locks, _, _, ids⟩ := (lineup.locked (Or.inl due.1)).snapshot
    obtain ⟨m, member, seat, kept⟩ :=
      attended.start due snapshot locks id (by rw [ids]; exact inside)
    exact ⟨m, member, seat, manned.countdown due.1 m member (by rw [seat]; exact inside), kept⟩
  playing playing s session id alive := by
    obtain ⟨m, member, seat, reach⟩ := manned.playing playing s session id alive
    refine ⟨m, member, seat, reach, ?_⟩
    cases expired : seatExpired now m with
    | false => rfl
    | true =>
      have gone := attended.match_ playing s session m member expired
      rw [seat] at gone
      exact absurd alive gone

theorem Lasting.manned {now : Int} (lasting : Lasting starters now h) : Manned starters h := by
  refine ⟨lasting.countdown, fun playing s session id alive => ?_⟩
  obtain ⟨m, member, seat, lasts⟩ := lasting.playing playing s session id alive
  exact ⟨m, member, seat, lasts.1⟩

/-- The rule for a change of the roster that keeps whoever lasts. -/
theorem Lasting.keep {now : Int} (lasting : Lasting starters now h) {roster : LobbyRoster}
    (old : ∀ n ∈ roster.membersByUser.entries, ∃ m ∈ h.room.roster.membersByUser.entries,
      n.playerId = m.playerId ∧ (Reachable m → Reachable n))
    (kept : ∀ m ∈ h.room.roster.membersByUser.entries, Lasts now m →
      ∃ n ∈ roster.membersByUser.entries, n.playerId = m.playerId ∧ Lasts now n) :
    Lasting starters now { h with room := { h.room with roster } } where
  countdown counting n member inside := by
    obtain ⟨m, before, seat, reaches⟩ := old n member
    rw [seat] at inside
    exact reaches (lasting.countdown counting m before inside)
  due due id inside := by
    obtain ⟨m, before, seat, lasts⟩ := lasting.due due id inside
    obtain ⟨n, after, same, still⟩ := kept m before lasts
    exact ⟨n, after, same.trans seat, still⟩
  playing playing s session id alive := by
    obtain ⟨m, before, seat, lasts⟩ := lasting.playing playing s session id alive
    obtain ⟨n, after, same, still⟩ := kept m before lasts
    exact ⟨n, after, same.trans seat, still⟩

theorem not_lasts {now : Int} {m : LobbyMember} (expired : seatExpired now m = true ∨
    admissionExpired now m = true ∧ m.reconnectUntil = none) : ¬ Lasts now m := by
  rintro ⟨reach, kept⟩
  rcases expired with seat | ⟨admission, unkept⟩
  · rw [seat] at kept
    cases kept
  · unfold admissionExpired at admission
    rw [Bool.and_eq_true, Option.isNone_iff_eq_none] at admission
    rcases reach with connected | seat
    · exact connected admission.1
    · exact seat unkept

theorem Lasting.sweep {now : Int} (lasting : Lasting starters now h) (sweep : Sweep now h v) :
    Lasting starters now v := by
  cases sweep with
  | purge =>
    exact lasting.keep (fun n member => ⟨n, member, rfl, id⟩)
      fun m member lasts => ⟨m, member, rfl, lasts⟩
  | settle userId =>
    refine lasting.keep (fun n member => ?_) fun m before lasts => ?_
    · obtain ⟨m, before, ⟨_, rfl⟩ | ⟨_, rfl⟩⟩ := LobbyRoster.mem_update.mp member
      · exact ⟨m, before, rfl, id⟩
      · exact ⟨n, before, rfl, id⟩
    · by_cases own : m.userId = userId
      · exact ⟨_, LobbyRoster.mem_update.mpr ⟨m, before, Or.inl ⟨own, rfl⟩⟩, rfl, lasts⟩
      · exact ⟨m, LobbyRoster.mem_update.mpr ⟨m, before, Or.inr ⟨own, rfl⟩⟩, rfl, lasts⟩
  | @expire m found expired =>
    refine lasting.keep (fun n member => ⟨n, (mem_remove.mp member).1, rfl, id⟩)
      fun n before lasts => ⟨n, mem_remove.mpr ⟨before, fun own => ?_⟩, rfl, lasts⟩
    have one : n = m := h.room.roster.membersByUser.eq_of_key before
      (LobbyRoster.getByUser_some found).1 own
    rw [one] at lasts
    exact not_lasts expired lasts
  | close =>
    have closed : h.close.room.state = .closed := by
      unfold HostedRoom.close
      split
      · assumption
      · exact transition_closed _
    refine ⟨fun counting => ?_, fun due => ?_, fun playing => ?_⟩
    · rw [closed] at counting
      cases counting
    · have counting := due.1
      rw [closed] at counting
      cases counting
    · rw [closed] at playing
      cases playing

theorem Lasting.sweeps {now : Int} (lasting : Lasting starters now h)
    (sweeps : Relation.ReflTransGen (Sweep now) h v) : Lasting starters now v := by
  induction sweeps with
  | refl => exact lasting
  | tail _ last ih => exact ih.sweep last

variable [JsNumber K]

theorem Lasting.begin {now : Int} (lasting : Lasting starters now h)
    (lineup : Lineup starters startOrder h) {env : StartEnv K} {snapshot : RoomStartSnapshot}
    {started : HostedRoom K} (due : startIsDue h.room now)
    (locks : h.room.startSnapshot = some snapshot)
    (begins : h.startGame env snapshot = some started) :
    Lasting starters now (started.mapRoom fun room => enterGame room snapshot) := by
  have locked := lineup.locked (Or.inl due.1)
  obtain ⟨_, same, mode, _, ids⟩ := locked.snapshot
  rw [locks, Option.some.injEq] at same
  subst same
  obtain ⟨game, starts, rfl⟩ := startGame_starts mode (ids ▸ locked.distinct) begins
  unfold mapRoom
  dsimp only
  rw [enterGame_room due.1]
  refine ⟨nofun, fun due => (nomatch due.1), fun _ s session id alive => ?_⟩
  cases session
  obtain ⟨p, member, rfl, _⟩ := alive
  have inside : p.playerId ∈ starters.map Starter.playerId := by
    rw [← ids, ← starts.players]
    exact List.mem_map_of_mem member
  obtain ⟨m, before, seat, lasts⟩ := lasting.due due p.playerId inside
  exact ⟨_, LobbyRoster.mem_updateAll.mpr ⟨m, before, rfl⟩, seat, lasts⟩

theorem Manned.advance (manned : Manned starters h) (lineup : Lineup starters startOrder h)
    (env : StartEnv K) {now : Int} (attended : Attended h now) :
    Lasting starters now (h.advance env now) := by
  obtain ⟨mid, sweeps, same | ends⟩ := advance_cases h env now
  · rw [same]
    exact (manned.lasting lineup attended).sweeps sweeps
  · have swept := (manned.lasting lineup attended).sweeps sweeps
    have begun : Lasting starters now (mid.startIfDue env now) := by
      rcases startIfDue_cases mid env now with
        idle | ⟨snapshot, started, counting, due, locks, begins, result⟩
      · rw [idle]
        exact swept
      · rw [result]
        exact swept.begin (lineup.sweeps sweeps) ⟨counting, due⟩ locks begins
    rw [ends]
    rcases returnIfDue_cases (mid.startIfDue env now) now with idle | ⟨isOver, result⟩
    · rw [idle]
      exact begun
    · have state : ((mid.startIfDue env now).mapRoom backToLobby).room.state = .waiting := by
        simp [mapRoom, backToLobby, Room.transition, isOver, canTransition]
      rw [result]
      refine ⟨fun counting => ?_, fun due => ?_, fun playing => ?_⟩
      · rw [state] at counting
        cases counting
      · have counting := due.1
        rw [state] at counting
        cases counting
      · rw [state] at playing
        cases playing

omit [JsNumber K] in
theorem Manned.lock (lineup : Lineup starters startOrder h) {now : Int} {requester : ActorId}
    {gate : Room.StartGate} (granted : (h.room.requestStart now requester gate).2 = none) :
    Manned (h.room.participants.map Starter.of)
      (h.mapRoom fun room => (room.requestStart now requester gate).1) := by
  rcases requestStart_cases h.room now requester gate with
    ⟨reason, refused⟩ | ⟨_, _, _, _, starts⟩
  · rw [refused] at granted
    cases granted
  · unfold mapRoom
    dsimp only
    rw [starts]
    refine ⟨fun _ m member inside => ?_, nofun⟩
    rw [List.map_map] at inside
    obtain ⟨n, listed, same⟩ := List.mem_map.mp inside
    obtain ⟨there, connected⟩ := mem_participants.mp listed
    have one : n = m := by
      refine lineup.seated.members n there m member ?_
      rw [← lineup.seated.slot n there, ← lineup.seated.slot m member]
      exact same
    rw [← one]
    exact Or.inl (Option.isSome_iff_ne_none.mp connected)

/-- An operation that is possible, and when it looks at the clock everybody is there. -/
def AttendedOp (r : HostRun K) (op : HostOp K) : Prop :=
  r.Allows op ∧ ∀ env now, clock op = some (env, now) → Attended r.host now

theorem manned_apply {r : HostRun K} (lineup : Lineup r.starters r.startOrder r.host)
    (manned : Manned r.starters r.host) (op : HostOp K) (allows : AttendedOp r op) :
    Manned (r.apply op).starters (r.apply op).host := by
  by_cases locks : ∃ now requester gate, op = .requestStart now requester gate
  · obtain ⟨now, requester, gate, rfl⟩ := locks
    unfold HostRun.apply
    dsimp only
    split
    · rename_i granted
      exact Manned.lock lineup granted
    · rename_i refusal
      rcases requestStart_cases r.host.room now requester gate with
        ⟨reason, refused⟩ | ⟨_, _, _, _, starts⟩
      · change Manned r.starters
          { r.host with room := (r.host.room.requestStart now requester gate).1 }
        rw [refused]
        exact manned
      · rw [starts] at refusal
        exact absurd rfl refusal
  · have ghosts : (r.apply op).starters = r.starters ∧ (r.apply op).host = r.host.apply op := by
      unfold HostRun.apply
      cases op with
      | requestStart now requester gate => exact absurd ⟨now, requester, gate, rfl⟩ locks
      | _ => exact ⟨rfl, rfl⟩
    rw [ghosts.1, ghosts.2]
    by_cases grants : ∃ matchId, op = .grantMatchId matchId
    · obtain ⟨matchId, rfl⟩ := grants
      change Manned r.starters { r.host with room := r.host.room.grantMatchId matchId }
      unfold Room.grantMatchId
      split
      · exact manned
      · exact ⟨manned.countdown, manned.playing⟩
    · have acts := apply_acts r.host allows.1
        (fun now requester gate same => locks ⟨now, requester, gate, same⟩)
        fun matchId same => grants ⟨matchId, same⟩
      refine Manned.acts ?_ (lineup.caughtUp op) acts
      have attended := allows.2
      unfold HostedRoom.caughtUp
      generalize clock op = looks at attended ⊢
      cases looks with
      | none => exact manned
      | some at_ => exact (manned.advance lineup at_.1 (attended at_.1 at_.2 rfl)).manned

theorem manned_reach {host : HostedRoom K} {r : HostRun K} (fresh : Fresh host)
    (run : Reach AttendedOp HostRun.apply (HostRun.start host) r) :
    Lineup r.starters r.startOrder r.host ∧ Manned r.starters r.host := by
  refine run.invariant
    (I := fun r : HostRun K => Lineup r.starters r.startOrder r.host ∧ Manned r.starters r.host)
    ⟨fresh.lineup, .disengaged fresh.idle⟩ fun r op inv allows => ?_
  exact ⟨(lineup_apply inv.1 op allows.1).1, manned_apply inv.1 inv.2 op allows⟩

/-- In the match, every living player has its member, whose seat it was at the start, connected or
with the seat kept; and when the clock has been looked at, kept beyond that time. -/
theorem no_ghost {host : HostedRoom K} {r : HostRun K} (fresh : Fresh host)
    (run : Reach AttendedOp HostRun.apply (HostRun.start host) r) :
    (r.host.room.state = .playing → ∃ s, r.host.session = some s ∧
      ∀ p ∈ s.game.world.players, p.alive = true → ∃ m ∈ r.host.room.members,
        m.playerId = p.playerId ∧ Starter.of m ∈ r.starters ∧
        (m.connection ≠ none ∨ m.reconnectUntil ≠ none)) ∧
    ∀ env now, Attended r.host now → (r.host.advance env now).room.state = .playing →
      ∃ s, (r.host.advance env now).session = some s ∧
      ∀ p ∈ s.game.world.players, p.alive = true → ∃ m ∈ (r.host.advance env now).room.members,
        m.playerId = p.playerId ∧
        (m.connection ≠ none ∨ ∃ until_, m.reconnectUntil = some until_ ∧ now < until_) := by
  obtain ⟨lineup, manned⟩ := manned_reach fresh run
  constructor
  · intro playing
    obtain ⟨s, on⟩ := lineup.playing playing
    refine ⟨s, on.session, fun p member alive => ?_⟩
    obtain ⟨m, inside, seat, reach⟩ :=
      manned.playing playing s on.session p.playerId ⟨p, member, rfl, alive⟩
    refine ⟨m, LobbyRoster.mem_members.mpr inside, seat, ?_, reach⟩
    refine (lineup.locked (Or.inr playing)).present m inside ?_
    rw [seat, ← on.players]
    exact List.mem_map_of_mem member
  · intro env now attended playing
    obtain ⟨s, on⟩ := (lineup.advance env now).playing playing
    refine ⟨s, on.session, fun p member alive => ?_⟩
    obtain ⟨m, inside, seat, reach, kept⟩ := (manned.advance lineup env attended).playing playing s
      on.session p.playerId ⟨p, member, rfl, alive⟩
    refine ⟨m, LobbyRoster.mem_members.mpr inside, seat, ?_⟩
    by_cases connected : m.connection = none
    · right
      obtain ⟨until_, seatKept⟩ := Option.ne_none_iff_exists'.mp
        (reach.resolve_left (not_not.mpr connected))
      refine ⟨until_, seatKept, ?_⟩
      simpa [seatExpired, connected, seatKept] using kept
    · exact Or.inl connected

/-- The four players are in their room, and nobody has started yet. -/
def gathered : HostedRoom ℚ := gather.dropLast.foldl HostedRoom.apply newRoom

theorem gathered_fresh : Fresh gathered where
  competing := by decide +kernel
  idle := by
    unfold Engaged
    decide +kernel
  seated :=
    { slot := by decide +kernel
      holdSlot := by decide +kernel
      members := by decide +kernel
      holds := by decide +kernel
      apart := by decide +kernel
      strangers := by decide +kernel
      order := by decide +kernel }
  session := by rfl
  storing := by decide +kernel

def started : HostRun ℚ :=
  (HostRun.start gathered).apply (.requestStart 20000 (.account 1) ⟨false, true⟩)

theorem started_attended : Attended started.host 29000 where
  start _ := by
    change ∀ snapshot ∈ started.host.room.startSnapshot, ∀ id ∈ snapshot.playerIds,
      ∃ m ∈ started.host.room.roster.membersByUser.entries,
        m.playerId = id ∧ seatExpired 29000 m = false
    decide +kernel
  match_ playing := absurd playing (by decide +kernel)

theorem started_run :
    Reach AttendedOp HostRun.apply (HostRun.start gathered)
      (started.apply (.advance startEnv 29000)) := by
  have locks : Reach AttendedOp HostRun.apply (HostRun.start gathered) started :=
    .step .refl ⟨trivial, fun _ _ looks => nomatch looks⟩
  refine .step locks ⟨trivial, fun env now looks => ?_⟩
  cases looks
  exact started_attended

theorem no_ghost_started : ∃ s, (started.apply (.advance startEnv 29000)).host.session = some s ∧
    ∀ p ∈ s.game.world.players, p.alive = true →
      ∃ m ∈ (started.apply (.advance startEnv 29000)).host.room.members,
        m.playerId = p.playerId ∧ Starter.of m ∈ (started.apply (.advance startEnv 29000)).starters ∧
        (m.connection ≠ none ∨ m.reconnectUntil ≠ none) :=
  (no_ghost gathered_fresh started_run).1 (by decide +kernel)

/-- The account of player 4 is thrown out while the start counts down. -/
theorem ghost_of_the_countdown : ¬ ∀ (host : HostedRoom ℚ) (r : HostRun ℚ), Fresh host →
    Reach HostRun.Allows HostRun.apply (HostRun.start host) r → r.host.room.state = .playing →
    ∀ s ∈ r.host.session, ∀ p ∈ s.game.world.players, p.alive = true →
      ∃ m ∈ r.host.room.members, m.playerId = p.playerId := by
  intro claim
  have ops : AllowedRun HostRun.Allows HostRun.apply (HostRun.start gathered)
      [.requestStart 20000 (.account 1) ⟨false, true⟩, .forceKick 21000 (.account 4),
        .advance startEnv 29000] := ⟨trivial, trivial, trivial, trivial⟩
  have manned := claim gathered _ gathered_fresh (.of_list ops) (by decide +kernel)
  revert manned
  decide +kernel

end SwitchRemake.Game

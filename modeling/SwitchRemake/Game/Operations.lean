import SwitchRemake.Game.Acts

/-!
# Each operation as a chain of acts
-/

namespace SwitchRemake.Game.HostedRoom
open Lib Simulation Rooms GameSession

variable {K : Type} [JsNumber K]

/-! ## Departures -/

/-- A departure is told to the game first, and to the room afterwards: whatever happened to the
room in between, the player is out of the match. -/
theorem eliminate_acts (h : HostedRoom K) (now : Int) (playerId : Nat) :
    ∃ mid : HostedRoom K, Acts h mid ∧ mid.room = h.room ∧ mid.OutOfMatch playerId ∧
      ∀ room : Room, Acts { mid with room }
        (({ h with room } : HostedRoom K).eliminate now playerId) := by
  by_cases vacant : h.session = none
  · refine ⟨h, .refl, rfl, fun s on => ?_, fun room => ?_⟩
    · rw [vacant] at on
      cases on
    · have idle : ({ h with room } : HostedRoom K).eliminate now playerId = { h with room } := by
        unfold HostedRoom.eliminate
        simp only [vacant]
      rw [idle]
  obtain ⟨s, on⟩ := Option.ne_none_iff_exists'.mp vacant
  have law := eliminateDisconnected_departs s.game playerId
  have unfolded (room : Room) : ({ h with room } : HostedRoom K).eliminate now playerId =
      ({ h with
        room
        session := some { s with game := (s.game.eliminateDisconnected playerId).session } } :
          HostedRoom K).notices now s.serial (s.game.eliminateDisconnected playerId).notices := by
    unfold HostedRoom.eliminate
    simp only [on]
  generalize s.game.eliminateDisconnected playerId = departed at law unfolded
  have told {g : HostedRoom K} {events : List (WorldEvent K)}
      (tags : ∀ event ∈ events, ∃ next, event = .tagged next none) :
      ∀ n ∈ events.map RoomNotice.event, Told g n := by
    intro n member
    obtain ⟨event, inside, rfl⟩ := List.mem_map.mp member
    obtain ⟨next, rfl⟩ := tags event inside
    trivial
  have gone (world : World K) (replay : List (ReplayCall K))
      (departed : (s.game.afterDeparture playerId).1.world = world) :
      Acts h { h with session := some { s with game := { s.game with world, replay } } } ∧
      ({ h with session := some { s with game := { s.game with world, replay } } } :
        HostedRoom K).OutOfMatch playerId := by
    subst departed
    refine ⟨.single (.play h on fun t tracks => afterDeparture_plays tracks playerId replay), ?_⟩
    intro x same _ _
    cases same
    rw [afterDeparture_living]
    exact fun alive => alive.2 rfl
  cases law with
  | ignored idle =>
    refine ⟨h, .refl, rfl, ?_, fun room => ?_⟩
    · intro x same running distinct alive
      rw [on, Option.some.injEq] at same
      subst same
      rcases idle with isOver | absent
      · simp [isOver] at running
      · obtain ⟨p, member, rfl, lives⟩ := alive
        rw [find_of_mem distinct member] at absent
        simp [lives] at absent
    · rw [unfolded room]
      have same : ({ h with room, session := some { s with game := s.game } } : HostedRoom K) =
          { h with room } := by rw [← on]
      rw [same]
      exact .refl
  | left replay events running lived departed tags goesOn =>
    obtain ⟨plays, out⟩ := gone _ replay departed
    refine ⟨_, plays, rfl, out, fun room => ?_⟩
    rw [unfolded room]
    exact notices_acts now s.serial (told tags)
  | @ended world replay events winners running lived departed tags ends =>
    obtain ⟨plays, out⟩ := gone _ replay departed
    refine ⟨_, plays, rfl, out, fun room => ?_⟩
    rw [unfolded room]
    let left : HostedRoom K :=
      { h with room, session := some { s with game := { s.game with world, replay } } }
    exact ending_acts (h := left) rfl now (told tags) _ winners

/-! ## Members that go -/

/-- A member that is taken off the roster is out of the match, if the game hears of it. -/
theorem removeMember_acts (h : HostedRoom K) (now : Int) (userId : ActorId) :
    Acts h (h.removeMember now userId true).1 := by
  unfold removeMember
  rcases LobbyRoster.remove_cases h.room.roster userId with ⟨absent, _⟩ | ⟨m, host, found, removed⟩
  · simp only [absent]
    exact .refl
  · obtain ⟨mid, departs, same, out, told⟩ := eliminate_acts h now m.playerId
    obtain ⟨_, rfl⟩ := LobbyRoster.getByUser_some found
    simp only [removed, if_true]
    refine Relation.ReflTransGen.trans ?_ (closeIfEmpty_acts _)
    have taken : Act mid _ := .remove mid (m := m) (by rw [same]; exact found) out
    rw [same, removed] at taken
    exact (departs.tail taken).trans (told _)

theorem disconnect_acts (h : HostedRoom K) (now : Int) (connection : Connection) :
    Acts h (h.disconnect now connection) := by
  unfold disconnect
  split
  · exact .refl
  rename_i m found
  split
  · exact .refl
  dsimp only
  let lose (m : LobbyMember) : LobbyMember :=
    { m with
      connection := none
      admissionPendingUntil := none
      reconnectUntil := some (now + h.room.options.timing.reconnectGraceMs) }
  have kept := LobbyRoster.getByUser_update found lose fun _ => rfl
  have lost : Acts h (h.mapRoom fun room => room.updateMember connection.userId lose fun _ => rfl) :=
    .quiet h fun r => update_quiet r _ _ (fun _ => ⟨rfl, rfl, rfl, rfl, rfl, rfl⟩)
      fun _ _ => Or.inr (by rintro ⟨⟩)
  have noted := lost.trans (connectionChanged_acts _ m.playerId false)
  split
  · rename_i playing
    obtain ⟨mid, departs, same, out, told⟩ := eliminate_acts
      ((h.mapRoom fun room => room.updateMember connection.userId lose fun _ => rfl).connectionChanged
        m.playerId false) now m.playerId
    have own : (lose m).userId = connection.userId := (LobbyRoster.getByUser_some found).2
    have marked : Act mid _ := .mark mid (m := lose m) (by rw [same]; exact playing.1)
      (by rw [same, own]; exact kept) playing.2.1 out
    rw [own, same] at marked
    exact ((noted.trans departs).tail marked).trans (told _)
  · exact noted

omit [JsNumber K] in
theorem releaseHold_quiet (r : Room) (userId : ActorId) (kickedUsers : Finset ActorId) :
    Quiet r { r with kickedUsers, roster := (r.roster.releaseHold userId).1 } :=
  quiet_of_members ⟨rfl, rfl, rfl, rfl⟩ rfl rfl (LobbyRoster.releaseHold_fades _ userId) rfl

theorem releaseSeat_acts (h : HostedRoom K) (now : Int) (userId : ActorId) :
    Acts h (h.releaseSeat now userId).1 := by
  unfold releaseSeat
  dsimp only
  split
  · have freed : Acts h (h.mapRoom fun room =>
        { room with roster := (h.room.roster.releaseHold userId).1 }) :=
      .single (.quiet h (releaseHold_quiet h.room userId h.room.kickedUsers))
    split
    · exact freed.trans (close_acts _)
    · exact freed
  · exact removeMember_acts h now userId

theorem kick_acts (h : HostedRoom K) (now : Int) (requester : ActorId) (playerId : Nat) :
    Acts h (h.kick now requester playerId).1 := by
  unfold kick
  split
  · exact .refl
  split
  · exact .refl
  split
  · exact .refl
  split
  · exact .refl
  · have banned (userId : ActorId) : Acts h (h.mapRoom fun room =>
        { room with kickedUsers := insert userId room.kickedUsers }) :=
      .quiet h fun r => quiet_of_members ⟨rfl, rfl, rfl, rfl⟩ rfl rfl (LobbyRoster.Fades.refl _) rfl
    exact (banned _).trans (removeMember_acts _ now _)

theorem forceKick_acts (h : HostedRoom K) (now : Int) (userId : ActorId) :
    Acts h (h.forceKick now userId).1 := by
  unfold forceKick
  dsimp only
  have banned : Acts h (h.mapRoom fun room =>
      { room with
        kickedUsers := insert userId room.kickedUsers
        roster := (room.roster.releaseHold userId).1 }) :=
    .quiet h fun r => releaseHold_quiet r userId _
  split
  · exact banned
  · exact banned.trans (removeMember_acts _ now userId)

/-! ## A tick -/

omit [JsNumber K] in
theorem tickNotices_told {h : HostedRoom K} {s : Registered K} {g : GameSession K}
    {stepped : AuthoritativeFrame K} (buried : Buried stepped.events stepped.world)
    (on : h.session = some { s with game := g }) (world : g.world = stepped.world) :
    ∀ n ∈ tickNotices stepped, Told h n := by
  intro n member
  rcases List.mem_append.mp member with rejected | happened
  · obtain ⟨_, _, rfl⟩ := List.mem_map.mp rejected
    trivial
  · obtain ⟨event, inside, rfl⟩ := List.mem_map.mp happened
    cases event with
    | eliminated victim source =>
      intro x same _ _
      rw [on, Option.some.injEq] at same
      rw [← same, world]
      exact buried victim source inside
    | tagged => trivial
    | blinked => trivial
    | skillArea => trivial

theorem tick_acts (h : HostedRoom K) (now : Int) (inputs : List (ResolvedInput K))
    (publication : Option (Nat → Nat)) :
    Acts h (h.tick now inputs noTraining publication).host := by
  unfold tick
  split
  · exact .refl
  rename_i s on
  dsimp only
  have law := step_ticks s.game inputs noTraining
  generalize s.game.step inputs noTraining = result at law ⊢
  have moved : Acts h (({ h with session := some { s with game := result.session } } :
      HostedRoom K).notices now s.serial result.notices) := by
    cases law with
    | isOver finished =>
      have same : ({ h with session := some { s with game := s.game } } : HostedRoom K) = h := by
        rw [← on]
      rw [same]
      exact .refl
    | @on stepped world replay running simulated trained goesOn =>
      subst trained
      have plays : Act h { h with session := some { s with
          game := Game.advance s.game stepped (noTraining.after stepped.world) replay } } :=
        .play h on fun t tracks => stepWorld_plays tracks inputs replay simulated
      have buried := stepWorld_buried s.game.world (s.game.requests inputs noTraining)
      rw [simulated] at buried
      exact (Relation.ReflTransGen.single plays).trans
        (notices_acts now s.serial (tickNotices_told buried rfl rfl))
    | @ended stepped world replay winners running simulated trained ends =>
      subst trained
      have plays : Act h { h with session := some { s with
          game := Game.advance s.game stepped (noTraining.after stepped.world) replay } } :=
        .play h on fun t tracks => stepWorld_plays tracks inputs replay simulated
      have buried := stepWorld_buried s.game.world (s.game.requests inputs noTraining)
      rw [simulated] at buried
      exact (Relation.ReflTransGen.single plays).trans (ending_acts
        (h := { h with session := some { s with
          game := Game.advance s.game stepped (noTraining.after stepped.world) replay } }) rfl now
        (tickNotices_told buried rfl rfl) _ winners)
  split
  · rename_i frame bufferedBytes _
    refine moved.trans ?_
    refine Acts.mapGame (f := fun _ => (result.session.publish frame _).1) _
      fun x same t tracks => ?_
    rcases notices_session ({ h with session := some { s with game := result.session } } :
      HostedRoom K) now s.serial result.notices with gone | kept
    · rw [gone] at same
      cases same
    · rw [kept, Option.some.injEq] at same
      subst same
      exact publish_plays tracks frame _
  · exact moved

/-! ## Joining -/

omit [JsNumber K] in
theorem reserveJoin_acts (h : HostedRoom K) (now : Int) (reservation : SeatReservation)
    (password : Option String) :
    Acts h { h with room := (h.room.reserveJoin now reservation password).1 } := by
  unfold Room.reserveJoin
  split
  · exact .refl
  split
  · exact .refl
  split
  · exact .refl
  rename_i admits
  split
  · exact .refl
  split
  · exact .refl
  have held : Act h _ := .hold h reservation (by tauto)
  dsimp only
  split
  · exact .refl
  · exact .refl
  · exact .single held

omit [JsNumber K] in
theorem admitReservation_acts (h : HostedRoom K) (now : Int) (reservation : SeatReservation) :
    Acts h { h with room := (h.room.admitReservation now reservation).1 } := by
  unfold Room.admitReservation
  split
  · exact .refl
  split
  · split
    · exact .refl
    split
    · exact .refl
    · exact .single (.quiet h (update_quiet _ _ _ (fun _ => ⟨rfl, rfl, rfl, rfl, rfl, rfl⟩)
        fun _ => id))
  split
  · exact .refl
  split
  · exact .refl
  split
  · exact .refl
  dsimp only
  have late : h.room.state = .playing →
      (if h.room.state = .playing then PlayerRole.waiting else PlayerRole.player) ≠ .player := by
    intro playing
    simp [playing]
  generalize (if h.room.state = .playing then PlayerRole.waiting else PlayerRole.player) = role
    at late ⊢
  have claims : Act h { h with room := { h.room with
      roster := (h.room.roster.claim reservation.userId now role).1 } } :=
    .claim h reservation.userId now role late
  split
  · exact .single claims
  · let relocked (state : RoomState) : Room :=
      { h.room with
        roster := (h.room.roster.claim reservation.userId now role).1
        startLock := h.room.startLock.applyJoin now
        state }
    have locks : Act { h with room := { h.room with
        roster := (h.room.roster.claim reservation.userId now role).1 } }
        { h with room := relocked h.room.state } :=
      .quiet _ (quiet_of_members ⟨rfl, rfl, rfl, rfl⟩ rfl rfl (LobbyRoster.Fades.refl _) rfl)
    have joined := (Relation.ReflTransGen.single claims).tail locks
    split
    · rename_i allocating
      have wakes : Act { h with room := relocked h.room.state }
          { h with room := relocked .waiting } := .wake _ allocating
      have awake := joined.tail wakes
      simpa only [Room.transition, relocked, allocating, canTransition, if_true] using awake
    · exact joined

/-! ## The clock -/

/-- What the clock does before a start or a return is due. -/
inductive Sweep (now : Int) : HostedRoom K → HostedRoom K → Prop where
  | purge (h : HostedRoom K) : Sweep now h (h.mapRoom fun room =>
      { room with roster := room.roster.purgeExpiredHolds now })
  | settle (h : HostedRoom K) (userId : ActorId) : Sweep now h (h.mapRoom fun room =>
      room.updateMember userId (fun m => { m with admissionPendingUntil := none }) fun _ => rfl)
  | expire (h : HostedRoom K) {m : LobbyMember}
      (found : h.room.roster.getByUser m.userId = some m)
      (expired : seatExpired now m = true ∨
        admissionExpired now m = true ∧ m.reconnectUntil = none) :
      Sweep now h { h with
        room := { h.room with roster := (h.room.roster.remove m.userId).1 } }
  | close (h : HostedRoom K) : Sweep now h h.close

omit [JsNumber K] in
theorem closeIfEmpty_sweeps (now : Int) (h : HostedRoom K) :
    Relation.ReflTransGen (Sweep now) h h.closeIfEmpty := by
  unfold closeIfEmpty
  split
  · exact .single (.close h)
  · exact .refl

/-- The member of the roster under the name of `m`, if any, is `m`. -/
def Current (roster : LobbyRoster) (m : LobbyMember) : Prop :=
  ∀ n ∈ roster.membersByUser.entries, n.userId = m.userId → n = m

theorem removeMember_sweeps (now : Int) (h : HostedRoom K) {m : LobbyMember}
    (current : Current h.room.roster m)
    (expired : seatExpired now m = true ∨
      admissionExpired now m = true ∧ m.reconnectUntil = none) :
    Relation.ReflTransGen (Sweep now) h (h.removeMember now m.userId false).1 := by
  unfold removeMember
  rcases LobbyRoster.remove_cases h.room.roster m.userId with
    ⟨absent, _⟩ | ⟨n, host, found, removed⟩
  · simp only [absent]
    exact .refl
  · obtain ⟨member, own⟩ := LobbyRoster.getByUser_some found
    have same := current n member own
    subst same
    have taken : Sweep now h _ := .expire h found expired
    rw [removed] at taken
    simp only [removed, Bool.false_eq_true, if_false]
    exact (Relation.ReflTransGen.single taken).trans (closeIfEmpty_sweeps now _)

omit [JsNumber K] in
theorem close_membersByUser (h : HostedRoom K) :
    h.close.room.roster.membersByUser = h.room.roster.membersByUser := by
  unfold HostedRoom.close
  split
  · rfl
  · dsimp only
    unfold Room.transition
    split <;> rfl

theorem removeMember_entries (now : Int) (h : HostedRoom K) (userId : ActorId) :
    ∀ n ∈ (h.removeMember now userId false).1.room.roster.membersByUser.entries,
      n ∈ h.room.roster.membersByUser.entries := by
  unfold removeMember
  rcases LobbyRoster.remove_cases h.room.roster userId with ⟨absent, _⟩ | ⟨m, host, _, removed⟩
  · simp only [absent]
    exact fun n member => member
  · simp only [removed, Bool.false_eq_true, if_false]
    unfold closeIfEmpty
    intro n member
    refine (KeyedList.mem_delete (k := userId).mp ?_).1
    split at member
    · rw [close_membersByUser] at member
      exact member
    · exact member

/-- One turn of the loop touches nobody else. -/
theorem expireMember_entries (now : Int) (h : HostedRoom K) (m : LobbyMember) :
    ∀ n ∈ (expireMember now h m).room.roster.membersByUser.entries, n.userId ≠ m.userId →
      n ∈ h.room.roster.membersByUser.entries := by
  unfold expireMember
  intro n member differs
  split at member
  · exact removeMember_entries now h m.userId n member
  · have settled : ∀ n ∈ (h.room.roster.membersByUser.modify m.userId
        (fun m => { m with admissionPendingUntil := none }) fun _ => rfl).entries,
        n.userId ≠ m.userId → n ∈ h.room.roster.membersByUser.entries := by
      intro n image differs
      obtain ⟨p, before, ⟨own, rfl⟩ | ⟨_, rfl⟩⟩ := KeyedList.mem_modify.mp image
      · exact absurd own differs
      · exact before
    dsimp only at member
    split at member
    · have inside := removeMember_entries now _ m.userId n member
      split at inside
      · exact settled n inside differs
      · exact inside
    · split at member
      · exact settled n member differs
      · exact member

theorem expireMember_sweeps (now : Int) (h : HostedRoom K) {m : LobbyMember}
    (current : Current h.room.roster m) :
    Relation.ReflTransGen (Sweep now) h (expireMember now h m) := by
  unfold expireMember
  split
  · rename_i expired
    exact removeMember_sweeps now h current (Or.inr expired)
  dsimp only
  by_cases pending : admissionExpired now m = true
  · rw [if_pos pending]
    have settled : Relation.ReflTransGen (Sweep now) h (h.mapRoom fun room =>
        room.updateMember m.userId (fun m => { m with admissionPendingUntil := none })
          fun _ => rfl) := .single (.settle h m.userId)
    split
    · rename_i expired
      refine settled.trans ?_
      refine removeMember_sweeps now _ (m := { m with admissionPendingUntil := none }) ?_
        (Or.inl expired)
      intro n image own
      obtain ⟨p, before, ⟨mine, rfl⟩ | ⟨foreign, rfl⟩⟩ := LobbyRoster.mem_update.mp image
      · rw [current p before mine]
      · exact absurd own foreign
    · exact settled
  · rw [if_neg pending]
    split
    · rename_i expired
      exact removeMember_sweeps now h current (Or.inl expired)
    · exact .refl

theorem expireMembers_sweeps (now : Int) (h : HostedRoom K) :
    Relation.ReflTransGen (Sweep now) h (h.expireMembers now) := by
  unfold expireMembers
  dsimp only
  refine Relation.ReflTransGen.trans (.single (.purge h)) ?_
  generalize (h.mapRoom fun room =>
    { room with roster := room.roster.purgeExpiredHolds now }) = purged
  have known : ∀ m ∈ purged.room.members, Current purged.room.roster m :=
    fun m member n other same =>
      purged.room.roster.membersByUser.eq_of_key other (LobbyRoster.mem_members.mp member) same
  have distinct : (purged.room.members.map LobbyMember.userId).Nodup :=
    ((sortById_perm LobbyMember.joinedOrder _).map LobbyMember.userId).nodup_iff.mpr
      purged.room.roster.membersByUser.distinct
  generalize purged.room.members = ms at known distinct
  induction ms generalizing purged with
  | nil => exact .refl
  | cons m rest ih =>
    rw [List.map_cons, List.nodup_cons] at distinct
    refine (expireMember_sweeps now purged (known m List.mem_cons_self)).trans ?_
    refine ih (expireMember now purged m) (fun p member n other same => ?_) distinct.2
    refine known p (List.mem_cons_of_mem m member) n
      (expireMember_entries now purged m n other fun own => ?_) same
    rw [← own, same] at distinct
    exact distinct.1 (List.mem_map_of_mem member)

/-- The ways `startIfDue` can go. -/
theorem startIfDue_cases (h : HostedRoom K) (env : StartEnv K) (now : Int) :
    h.startIfDue env now = h ∨
    ∃ snapshot started, h.room.state = .countdown ∧
      (h.room.countdownEndsAt.any fun t => decide (t ≤ now)) = true ∧
      h.room.startSnapshot = some snapshot ∧ h.startGame env snapshot = some started ∧
      h.startIfDue env now = started.mapRoom fun room => enterGame room snapshot := by
  unfold startIfDue
  split
  · rename_i due
    split
    · exact Or.inl rfl
    · rename_i snapshot locked
      split
      · exact Or.inl rfl
      · rename_i started begins
        exact Or.inr ⟨snapshot, started, due.1, due.2, locked, begins, rfl⟩
  · exact Or.inl rfl

omit [JsNumber K] in
theorem returnIfDue_cases (h : HostedRoom K) (now : Int) :
    h.returnIfDue now = h ∨ h.room.state = .postGame ∧ h.returnIfDue now = h.mapRoom backToLobby := by
  unfold returnIfDue
  split
  · rename_i due
    exact Or.inr ⟨due.1, rfl⟩
  · exact Or.inl rfl

/-- The clock sweeps the roster; then a match starts or a room returns to its lobby, or not. -/
theorem advance_cases (h : HostedRoom K) (env : StartEnv K) (now : Int) :
    ∃ mid, Relation.ReflTransGen (Sweep now) h mid ∧
      (h.advance env now = mid ∨
        h.advance env now = (mid.startIfDue env now).returnIfDue now) := by
  unfold HostedRoom.advance
  split
  · exact ⟨h, .refl, Or.inl rfl⟩
  · have swept := expireMembers_sweeps now h
    dsimp only
    split
    · split
      · exact ⟨_, swept.tail (.close _), Or.inl rfl⟩
      · exact ⟨_, swept, Or.inl rfl⟩
    · exact ⟨_, swept, Or.inr rfl⟩

/-! ## Every operation -/

omit [JsNumber K] in
theorem finishGame_acts (h : HostedRoom K) (now : Int) (winnerIds : List Nat) :
    Acts h (h.mapRoom fun room => ((room.finishGame now winnerIds).map Prod.fst).getD room) := by
  unfold mapRoom Room.finishGame
  dsimp only
  split
  · exact .refl
  · rename_i playing
    rw [not_not] at playing
    split
    · exact .refl
    · have finishes : Act h _ :=
        .finish h playing (now + h.room.options.timing.postGameMs)
      simpa [Room.transition, playing, canTransition] using Relation.ReflTransGen.single finishes

omit [JsNumber K] in
theorem moveSlot_acts (h : HostedRoom K) (userId : ActorId) (slot : Nat) :
    Acts h (h.mapRoom fun room => (room.moveSlot userId slot).1) := by
  unfold mapRoom Room.moveSlot
  dsimp only
  split
  · exact .refl
  · rename_i editable
    refine .single (.shift h userId slot ?_)
    simpa [Room.lobbyEditable, or_iff_not_imp_left] using editable

omit [JsNumber K] in
/-- The operations that look at the clock first. -/
def clock : HostOp K → Option (StartEnv K × Int)
  | .reserveJoin env now _ _ => some (env, now)
  | .canReserveResume env now _ => some (env, now)
  | .admitReservation env now _ => some (env, now)
  | .advance env now => some (env, now)
  | _ => none

def caughtUp (h : HostedRoom K) (op : HostOp K) : HostedRoom K :=
  (clock op).elim h fun at_ => h.advance at_.1 at_.2

/-- An operation lets the clock catch up, if it looks at it; what is left of it is acts, unless it
locks a lineup or takes a match id. -/
theorem apply_acts (h : HostedRoom K) {op : HostOp K} (allows : h.Allows op)
    (unlocks : ∀ now requester gate, op ≠ .requestStart now requester gate)
    (ungranted : ∀ matchId, op ≠ .grantMatchId matchId) :
    Acts (h.caughtUp op) (h.apply op) := by
  cases op with
  | reserveJoin env now reservation password =>
    exact reserveJoin_acts (h.advance env now) now reservation password
  | canReserveResume env now userId => exact .refl
  | admitReservation env now reservation =>
    exact admitReservation_acts (h.advance env now) now reservation
  | bindConnection now connection => exact bindConnection_acts h now connection
  | disconnect now connection => exact disconnect_acts h now connection
  | releaseSeat now userId => exact releaseSeat_acts h now userId
  | kick now requester playerId => exact kick_acts h now requester playerId
  | forceKick now userId => exact forceKick_acts h now userId
  | passHost requester playerId => exact .quiet h fun r => passHost_quiet r requester playerId
  | setLocked requester locked => exact .quiet h fun r => setLocked_quiet r requester locked
  | setMap now requester mapId => exact .quiet h fun r => setMap_quiet r now requester mapId
  | setLoadout userId loadout => exact .quiet h fun r => setLoadout_quiet r userId loadout
  | moveSlot userId slot => exact moveSlot_acts h userId slot
  | requestStart now requester gate => exact absurd rfl (unlocks now requester gate)
  | grantMatchId matchId => exact absurd rfl (ungranted matchId)
  | markEliminated playerId => exact markEliminated_acts h allows
  | setSpectating userId spectating =>
    exact .quiet h fun r => setSpectating_quiet r userId spectating
  | finishGame now winnerIds => exact finishGame_acts h now winnerIds
  | freezeForHandOff => exact .quiet h fun r => freezeForHandOff_quiet r
  | cancelHandOff =>
    exact .quiet h fun r =>
      quiet_of_members ⟨rfl, rfl, rfl, rfl⟩ rfl rfl (LobbyRoster.Fades.refl _) rfl
  | requestFullSnapshot playerId => exact requestFullSnapshot_acts h playerId
  | queueSkill request =>
    exact Acts.mapGame (f := fun game => (game.queueSkill request).1) h
      fun _ _ _ tracks => queueSkill_plays tracks request
  | queueEmoji request =>
    exact Acts.mapGame (f := fun game => (game.queueEmoji request).1) h
      fun _ _ _ tracks => queueEmoji_plays tracks request
  | advance env now => exact .refl
  | tick now inputs publication => exact tick_acts h now inputs publication
  | stored serial =>
    by_cases member : serial ∈ h.storing
    · exact .single (.stored h member)
    · have same : h.stored serial = h := by
        unfold HostedRoom.stored
        rw [if_neg member]
      change Acts h (h.stored serial)
      rw [same]
  | close => exact close_acts h

end SwitchRemake.Game.HostedRoom

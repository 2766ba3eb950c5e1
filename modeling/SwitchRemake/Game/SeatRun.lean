import SwitchRemake.Game.Spectators
import SwitchRemake.Rooms.Housing

/-!
# The seats of a room, in every run

Whatever a room does comes down to a few kinds of changes of its roster.
-/

namespace SwitchRemake.Game
open Lib Simulation Rooms HostedRoom
open LobbyRoster (Tame Housed)

variable {K : Type}

/-- A room stays in its countdown or match with the snapshot it has, or is in none. -/
def StaysLocked (r v : Room) : Prop :=
  Engaged v.state → Engaged r.state ∧ v.startSnapshot = r.startSnapshot

inductive SeatAct (r v : Room) : Prop where
  | tame (roster : Tame r.roster v.roster) (locked : StaysLocked r v)
  | hold (reservation : SeatReservation) (admits : r.state = .waiting ∨ r.state = .playing)
      (same : v = { r with roster := (r.roster.hold reservation r.lockedPlayerIds).1 })
  | claim (userId : ActorId) (now : Int) (role : PlayerRole)
      (same : v = { r with roster := (r.roster.claim userId now role).1 })
  | shift (userId : ActorId) (slot : Nat) (editable : r.state = .waiting ∨ r.state = .postGame)
      (same : v = { r with roster := (r.roster.moveSlot userId slot).1 })

abbrev SeatActs : Room → Room → Prop := Relation.ReflTransGen SeatAct

theorem SeatActs.tame {r v : Room} (roster : Tame r.roster v.roster) (locked : StaysLocked r v) :
    SeatActs r v := .single (.tame roster locked)

/-- Roster, state and snapshot stay. -/
theorem SeatActs.still {r v : Room} (roster : v.roster = r.roster) (state : v.state = r.state)
    (snapshot : v.startSnapshot = r.startSnapshot) : SeatActs r v :=
  .tame (roster ▸ Tame.refl _) fun engaged => ⟨state ▸ engaged, snapshot⟩

theorem SeatActs.roster (r : Room) {roster : LobbyRoster} (tame : Tame r.roster roster) :
    SeatActs r { r with roster } :=
  .tame tame fun engaged => ⟨engaged, rfl⟩

theorem SeatActs.left {r v : Room} (roster : Tame r.roster v.roster) (idle : ¬ Engaged v.state) :
    SeatActs r v :=
  .tame roster fun engaged => absurd engaged idle

theorem updateMember_seats (r : Room) (userId : ActorId) {f : LobbyMember → LobbyMember}
    (keeps : ∀ m, (f m).userId = m.userId) (same : ∀ m, LobbyRoster.SameNumber m (f m)) :
    SeatActs r (r.updateMember userId f keeps) :=
  .roster r (LobbyRoster.update_tame r.roster userId keeps same)

/-! ## The functions of the room -/

section
variable (r : Room)

theorem bindConnection_seats (now : Int) (connection : Connection) :
    SeatActs r (r.bindConnection now connection).1 := by
  unfold Room.bindConnection
  split
  · exact .refl
  split
  · exact .refl
  split
  · exact .refl
  · exact updateMember_seats r _ _ fun _ => ⟨⟨rfl, rfl, rfl, rfl⟩, rfl⟩

theorem passHost_seats (requester : ActorId) (playerId : Nat) :
    SeatActs r (r.passHost requester playerId).1 := by
  unfold Room.passHost
  split
  · exact .refl
  split
  · exact .refl
  dsimp only
  split
  · exact .roster r (LobbyRoster.passHost_tame r.roster requester playerId)
  · exact .refl

theorem setLocked_seats (requester : ActorId) (locked : Bool) :
    SeatActs r (r.setLocked requester locked).1 := by
  unfold Room.setLocked
  repeat' split
  all_goals exact .still rfl rfl rfl

theorem setMap_seats (now : Int) (requester : ActorId) (mapId : String) :
    SeatActs r (r.setMap now requester mapId).1 := by
  unfold Room.setMap
  repeat' split
  all_goals exact .still rfl rfl rfl

theorem setLoadout_seats (userId : ActorId) (loadout : SkillId) :
    SeatActs r (r.setLoadout userId loadout).1 := by
  unfold Room.setLoadout
  split
  · exact .refl
  split
  · exact .refl
  split
  · exact .refl
  · exact updateMember_seats r _ _ fun _ => ⟨⟨rfl, rfl, rfl, rfl⟩, rfl⟩

theorem moveSlot_seats (userId : ActorId) (slot : Nat) :
    SeatActs r (r.moveSlot userId slot).1 := by
  unfold Room.moveSlot
  split
  · exact .refl
  · rename_i editable
    refine .single (.shift userId slot ?_ rfl)
    simpa [Room.lobbyEditable, or_iff_not_imp_left] using editable

theorem grantMatchId_seats (matchId : MatchId) : SeatActs r (r.grantMatchId matchId) := by
  unfold Room.grantMatchId
  split <;> exact .still rfl rfl rfl

theorem markEliminated_seats (playerId : Nat) : SeatActs r (r.markEliminated playerId) := by
  unfold Room.markEliminated
  split
  · exact .refl
  split
  · exact .refl
  split
  · exact .refl
  · exact updateMember_seats r _ _ fun _ => ⟨⟨rfl, rfl, rfl, rfl⟩, rfl⟩

theorem setSpectating_seats (userId : ActorId) (spectating : Bool) :
    SeatActs r (r.setSpectating userId spectating).1 := by
  unfold Room.setSpectating
  split
  · exact .refl
  split
  · exact .refl
  split
  · exact .refl
  · exact updateMember_seats r _ _ fun _ => ⟨⟨rfl, rfl, rfl, rfl⟩, rfl⟩

theorem finishGame_seats {now : Int} {winnerIds : List Nat} {v : Room} {done : Bool}
    (finishes : r.finishGame now winnerIds = some (v, done)) : SeatActs r v := by
  unfold Room.finishGame at finishes
  split at finishes
  · cases finishes
    exact .refl
  · rename_i playing
    dsimp only at finishes
    split at finishes
    · cases finishes
    · cases finishes
      rw [not_not] at playing
      simp only [Room.transition, playing, canTransition, if_true]
      exact .left (Tame.refl _) (by simp [Engaged])

theorem freezeForHandOff_seats : SeatActs r r.freezeForHandOff.1 := by
  unfold Room.freezeForHandOff
  split <;> exact .still rfl rfl rfl

theorem releaseAfterHandOff_seats : SeatActs r r.releaseAfterHandOff := by
  have left := LobbyRoster.updateAll_tame r.roster (f := fun m => { m with connection := none })
    (fun _ => rfl) fun _ => ⟨⟨rfl, rfl, rfl, rfl⟩, rfl⟩
  unfold Room.releaseAfterHandOff Room.transition
  dsimp only
  split
  · exact .left left (by simp [Engaged])
  · exact .roster r left

theorem refreshHandOffGrace_seats (now : Int) : SeatActs r (r.refreshHandOffGrace now) :=
  .roster r (LobbyRoster.updateAll_tame r.roster _ fun m => by
    split
    · exact ⟨⟨rfl, rfl, rfl, rfl⟩, rfl⟩
    · exact LobbyRoster.SameNumber.refl m)

theorem reserveJoin_seats (now : Int) (reservation : SeatReservation) (password : Option String) :
    SeatActs r (r.reserveJoin now reservation password).1 := by
  unfold Room.reserveJoin
  split
  · exact .refl
  split
  · exact .refl
  split
  · exact .refl
  rename_i admits
  split
  · exact .refl
  split
  · exact .refl
  dsimp only
  split
  · exact .refl
  · exact .refl
  · exact .single (.hold reservation (by tauto) rfl)

theorem admitReservation_seats (now : Int) (reservation : SeatReservation) :
    SeatActs r (r.admitReservation now reservation).1 := by
  unfold Room.admitReservation
  split
  · exact .refl
  split
  · split
    · exact .refl
    split
    · exact .refl
    · exact updateMember_seats r _ _ fun _ => ⟨⟨rfl, rfl, rfl, rfl⟩, rfl⟩
  split
  · exact .refl
  split
  · exact .refl
  split
  · exact .refl
  dsimp only
  generalize (if r.state = .playing then PlayerRole.waiting else PlayerRole.player) = role
  have claims : SeatActs r { r with roster := (r.roster.claim reservation.userId now role).1 } :=
    .single (.claim reservation.userId now role rfl)
  split
  · exact claims
  · refine claims.trans ?_
    split
    · rename_i allocating
      simp only [Room.transition, allocating, canTransition, if_true]
      exact SeatActs.left (Tame.refl _) (by simp [Engaged])
    · exact SeatActs.still rfl rfl rfl

end

/-! ## The functions that call the game -/

section
variable {r : Room} {h : HostedRoom K} (acts : SeatActs r h.room)

include acts

theorem close_seats : SeatActs r h.close.room := by
  unfold HostedRoom.close
  split
  · exact acts
  · dsimp only
    refine acts.trans (SeatActs.left ?_ (by simp [Engaged, transition_closed]))
    unfold Room.transition
    split <;> exact LobbyRoster.clearHolds_tame _

theorem closeIfEmpty_seats : SeatActs r h.closeIfEmpty.room := by
  unfold closeIfEmpty
  split
  · exact close_seats acts
  · exact acts

theorem notices_seats (now : Int) (serial : Nat) (ns : List (RoomNotice K)) :
    SeatActs r (h.notices now serial ns).room := by
  induction ns generalizing h with
  | nil => exact acts
  | cons n rest ih =>
    refine ih ?_
    unfold notice
    split
    · exact acts.trans (markEliminated_seats h.room _)
    · split
      · exact close_seats acts
      · exact acts
      · rename_i finishes
        exact acts.trans (finishGame_seats h.room finishes)
    · exact acts

variable [JsNumber K]

theorem eliminate_seats (now : Int) (playerId : Nat) : SeatActs r (h.eliminate now playerId).room := by
  unfold eliminate
  split
  · exact acts
  · refine notices_seats ?_ now _ _
    exact acts

theorem removeMember_seats (now : Int) (userId : ActorId) (notifyLifecycle : Bool) :
    SeatActs r (h.removeMember now userId notifyLifecycle).1.room := by
  unfold removeMember
  dsimp only
  split
  · exact acts
  · have taken : SeatActs r { h.room with roster := (h.room.roster.remove userId).1 } :=
      acts.trans (SeatActs.roster h.room (LobbyRoster.remove_tame h.room.roster userId))
    refine closeIfEmpty_seats ?_
    split
    · exact eliminate_seats (h := h.mapRoom fun room =>
        { room with roster := (h.room.roster.remove userId).1 }) taken now _
    · exact taken

theorem disconnect_seats (now : Int) (connection : Connection) :
    SeatActs r (h.disconnect now connection).room := by
  unfold disconnect
  split
  · exact acts
  split
  · exact acts
  dsimp only
  have left := acts.trans (updateMember_seats h.room connection.userId
    (f := fun m => { m with
      connection := none
      admissionPendingUntil := none
      reconnectUntil := some (now + h.room.options.timing.reconnectGraceMs) })
    (fun _ => rfl) fun _ => ⟨⟨rfl, rfl, rfl, rfl⟩, rfl⟩)
  split
  · refine eliminate_seats ?_ now _
    exact left.trans (updateMember_seats _ connection.userId
      (f := fun m => { m with spectatorEligible := true, role := .spectator })
      (fun _ => rfl) fun _ => ⟨⟨rfl, rfl, rfl, rfl⟩, rfl⟩)
  · exact left

theorem releaseSeat_seats (now : Int) (userId : ActorId) :
    SeatActs r (h.releaseSeat now userId).1.room := by
  unfold releaseSeat
  dsimp only
  split
  · have freed : SeatActs r { h.room with roster := (h.room.roster.releaseHold userId).1 } :=
      acts.trans (SeatActs.roster h.room (LobbyRoster.releaseHold_tame h.room.roster userId))
    split
    · exact close_seats freed
    · exact freed
  · exact removeMember_seats acts now userId true

theorem kick_seats (now : Int) (requester : ActorId) (playerId : Nat) :
    SeatActs r (h.kick now requester playerId).1.room := by
  unfold kick
  split
  · exact acts
  split
  · exact acts
  split
  · exact acts
  split
  · exact acts
  · dsimp only
    refine removeMember_seats ?_ now _ true
    exact acts.trans (SeatActs.still rfl rfl rfl)

theorem forceKick_seats (now : Int) (userId : ActorId) :
    SeatActs r (h.forceKick now userId).1.room := by
  unfold forceKick
  dsimp only
  have banned : SeatActs r (h.mapRoom fun room =>
      { room with
        kickedUsers := insert userId room.kickedUsers
        roster := (room.roster.releaseHold userId).1 }).room :=
    acts.trans (SeatActs.tame (LobbyRoster.releaseHold_tame h.room.roster userId)
      fun engaged => ⟨engaged, rfl⟩)
  split
  · exact banned
  · exact removeMember_seats banned now userId true

theorem expireMember_seats (now : Int) (m : LobbyMember) :
    SeatActs r (expireMember now h m).room := by
  unfold expireMember
  split
  · exact removeMember_seats acts now m.userId false
  dsimp only
  have settled : SeatActs r (if admissionExpired now m = true then
      h.mapRoom fun room => room.updateMember m.userId
        (fun m => { m with admissionPendingUntil := none }) fun _ => rfl
      else h).room := by
    split
    · exact acts.trans (updateMember_seats h.room _ _ fun _ => ⟨⟨rfl, rfl, rfl, rfl⟩, rfl⟩)
    · exact acts
  split
  · exact removeMember_seats settled now m.userId false
  · exact settled

theorem expireMembers_seats (now : Int) : SeatActs r (h.expireMembers now).room := by
  unfold expireMembers
  dsimp only
  have purged : SeatActs r (h.mapRoom fun room =>
      { room with roster := room.roster.purgeExpiredHolds now }).room :=
    acts.trans (SeatActs.roster h.room (LobbyRoster.purgeExpiredHolds_tame h.room.roster now))
  generalize (h.mapRoom fun room =>
    { room with roster := room.roster.purgeExpiredHolds now }) = g at purged
  generalize g.room.members = ms
  induction ms generalizing g with
  | nil => exact purged
  | cons m rest ih => exact ih _ (expireMember_seats purged now m)

theorem startIfDue_seats (env : StartEnv K) (now : Int) :
    SeatActs r (h.startIfDue env now).room := by
  rcases startIfDue_cases h env now with
    idle | ⟨snapshot, started, counting, _, locks, begins, result⟩
  · rw [idle]
    exact acts
  · rw [result, mapRoom, startGame_room begins]
    dsimp only
    rw [enterGame_room counting]
    refine acts.trans (SeatActs.tame (LobbyRoster.updateAll_tame h.room.roster _ fun m => ?_)
      fun _ => ⟨.inl counting, rfl⟩)
    exact ⟨⟨rfl, rfl, rfl, rfl⟩, rfl⟩

omit [JsNumber K] in
theorem returnIfDue_seats (now : Int) : SeatActs r (h.returnIfDue now).room := by
  rcases returnIfDue_cases h now with idle | ⟨isOver, result⟩
  · rw [idle]
    exact acts
  · rw [result]
    have back : (backToLobby h.room).state = .waiting := by
      simp [backToLobby, Room.transition, isOver, canTransition]
    refine acts.trans (SeatActs.left ?_ (by simp [Engaged, mapRoom, back]))
    have updated := LobbyRoster.updateAll_tame h.room.roster
      (f := fun m => { m with role := .player, spectatorEligible := false, inCurrentGame := false })
      (fun _ => rfl) fun _ => ⟨⟨rfl, rfl, rfl, rfl⟩, rfl⟩
    simp only [mapRoom, backToLobby, Room.transition]
    split <;> exact updated

theorem advance_seats (env : StartEnv K) (now : Int) : SeatActs r (h.advance env now).room := by
  unfold HostedRoom.advance
  split
  · exact acts
  · have swept := expireMembers_seats acts now
    dsimp only
    split
    · split
      · exact close_seats swept
      · exact swept
    · exact returnIfDue_seats (startIfDue_seats swept env now) now

theorem tick_seats (now : Int) (inputs : List (ResolvedInput K)) (training : TrainingTurn K)
    (publication : Option (Nat → Nat)) :
    SeatActs r (h.tick now inputs training publication).host.room := by
  unfold HostedRoom.tick
  split
  · exact acts
  · dsimp only
    split
    · refine notices_seats ?_ now _ _
      exact acts
    · refine notices_seats ?_ now _ _
      exact acts

omit acts [JsNumber K] in
theorem stored_room (serial : Nat) : (h.stored serial).room = h.room := by
  unfold HostedRoom.stored
  split <;> rfl

omit acts in
/-- Every operation but the start of a match. -/
theorem apply_seats (h : HostedRoom K) {op : HostOp K}
    (unlocks : ∀ now requester gate, op ≠ .requestStart now requester gate) :
    SeatActs h.room (h.apply op).room := by
  cases op with
  | reserveJoin env now reservation password =>
    exact (advance_seats .refl env now).trans (reserveJoin_seats _ now reservation password)
  | canReserveResume env now userId => exact advance_seats .refl env now
  | admitReservation env now reservation =>
    exact (advance_seats .refl env now).trans (admitReservation_seats _ now reservation)
  | bindConnection now connection =>
    have bound := bindConnection_seats h.room now connection
    simp only [HostedRoom.apply, HostedRoom.bindConnection]
    split
    · exact bound
    · exact .refl
  | disconnect now connection => exact disconnect_seats .refl now connection
  | releaseSeat now userId => exact releaseSeat_seats .refl now userId
  | kick now requester playerId => exact kick_seats .refl now requester playerId
  | forceKick now userId => exact forceKick_seats .refl now userId
  | passHost requester playerId => exact passHost_seats h.room requester playerId
  | setLocked requester locked => exact setLocked_seats h.room requester locked
  | setMap now requester mapId => exact setMap_seats h.room now requester mapId
  | setLoadout userId loadout => exact setLoadout_seats h.room userId loadout
  | moveSlot userId slot => exact moveSlot_seats h.room userId slot
  | requestStart now requester gate => exact absurd rfl (unlocks now requester gate)
  | grantMatchId matchId => exact grantMatchId_seats h.room matchId
  | markEliminated playerId => exact markEliminated_seats h.room playerId
  | setSpectating userId spectating => exact setSpectating_seats h.room userId spectating
  | finishGame now winnerIds =>
    simp only [HostedRoom.apply, mapRoom]
    cases finishes : h.room.finishGame now winnerIds with
    | none => exact .refl
    | some ended =>
      obtain ⟨room, done⟩ := ended
      exact finishGame_seats h.room finishes
  | freezeForHandOff => exact freezeForHandOff_seats h.room
  | cancelHandOff => exact SeatActs.still rfl rfl rfl
  | requestFullSnapshot playerId => exact .refl
  | queueSkill request => exact .refl
  | queueEmoji request => exact .refl
  | advance env now => exact advance_seats .refl env now
  | tick now inputs publication => exact tick_seats .refl now inputs noTraining publication
  | stored serial =>
    have same := stored_room (h := h) serial
    exact SeatActs.still (congrArg Room.roster same) (congrArg Room.state same)
      (congrArg Room.startSnapshot same)
  | close => exact close_seats .refl

end

/-! ## The law of the seats -/

/-- The slots of the snapshot belong to those who were there at the start. -/
structure LockedSeats (room : Room) (starters : List Starter) : Prop where
  snapshot : ∃ snapshot, room.startSnapshot = some snapshot ∧
    snapshot.playerIds = starters.map Starter.playerId
  present : ∀ m ∈ room.roster.membersByUser.entries,
    m.playerId ∈ starters.map Starter.playerId → Starter.of m ∈ starters
  blocked : ∀ hold ∈ room.roster.holds.entries, hold.playerId ∉ starters.map Starter.playerId

structure SeatLaw (room : Room) (starters : List Starter) : Prop where
  housed : Housed room.roster
  locked : Engaged room.state → LockedSeats room starters

section
variable {r v : Room} {starters : List Starter}

theorem LockedSeats.hold (law : LockedSeats r starters) (playing : r.state = .playing)
    (reservation : SeatReservation) :
    LockedSeats { r with roster := (r.roster.hold reservation r.lockedPlayerIds).1 } starters := by
  rcases LobbyRoster.hold_cases r.roster reservation r.lockedPlayerIds with
    ⟨_, refused⟩ | ⟨seat, _, found, held⟩
  · rw [refused]
    exact law
  · rw [held]
    refine ⟨law.snapshot, law.present, fun hold member => ?_⟩
    rcases KeyedList.mem_set.mp member with rfl | ⟨old, _⟩
    · obtain ⟨snapshot, locks, ids⟩ := law.snapshot
      have free := (LobbyRoster.firstFreeSeat_some found).1
      unfold Room.lockedPlayerIds at free
      rw [if_pos playing, locks] at free
      rw [← ids]
      exact free
    · exact law.blocked hold old

theorem LockedSeats.claim (law : LockedSeats r starters) (userId : ActorId) (now : Int)
    (role : PlayerRole) :
    LockedSeats { r with roster := (r.roster.claim userId now role).1 } starters := by
  rcases LobbyRoster.claim_cases r.roster userId now role with
    ⟨_, fades⟩ | ⟨hold, found, claimed⟩
  · refine ⟨law.snapshot, fun n member inside => ?_, fun hold member =>
      law.blocked hold (fades.hold hold member)⟩
    obtain ⟨m, before, same⟩ := fades.member n member
    rw [same.playerId] at inside
    have starter := law.present m before inside
    unfold Starter.of at starter ⊢
    rw [same.userId, same.playerId, same.joinedOrder]
    exact starter
  · obtain ⟨held, _⟩ := KeyedList.mem_of_get? found
    rw [claimed]
    refine ⟨law.snapshot, fun m member inside => ?_, fun other member =>
      law.blocked other (KeyedList.mem_delete.mp member).1⟩
    rcases KeyedList.mem_set.mp member with rfl | ⟨old, _⟩
    · exact absurd inside (law.blocked hold held)
    · exact law.present m old inside

theorem SeatLaw.act (law : SeatLaw r starters) (act : SeatAct r v) : SeatLaw v starters := by
  cases act with
  | tame roster locked =>
    refine ⟨roster.housed law.housed, fun engaged => ?_⟩
    obtain ⟨before, snapshot⟩ := locked engaged
    have seats := law.locked before
    refine ⟨snapshot ▸ seats.snapshot, fun n member inside => ?_, fun hold member =>
      seats.blocked hold (roster.hold hold member)⟩
    obtain ⟨m, there, same⟩ := roster.member n member
    rw [same.playerId] at inside
    have starter := seats.present m there inside
    unfold Starter.of at starter ⊢
    rw [same.userId, same.playerId, same.joinedOrder]
    exact starter
  | hold reservation admits same =>
    subst same
    refine ⟨LobbyRoster.hold_housed law.housed reservation r.lockedPlayerIds, fun engaged => ?_⟩
    refine (law.locked engaged).hold ?_ reservation
    rcases admits with waiting | playing
    · rcases engaged with counting | playing
      · rw [waiting] at counting
        cases counting
      · exact playing
    · exact playing
  | claim userId now role same =>
    subst same
    exact ⟨LobbyRoster.claim_housed law.housed userId now role,
      fun engaged => (law.locked engaged).claim userId now role⟩
  | shift userId slot editable same =>
    subst same
    refine ⟨LobbyRoster.moveSlot_housed law.housed userId slot, ?_⟩
    rintro (counting | playing)
    · rcases editable with waiting | waiting <;> rw [waiting] at counting <;> cases counting
    · rcases editable with waiting | waiting <;> rw [waiting] at playing <;> cases playing

theorem SeatLaw.acts (law : SeatLaw r starters) (acts : SeatActs r v) : SeatLaw v starters := by
  induction acts with
  | refl => exact law
  | tail _ last ih => exact ih.act last

/-- A start locks those who are connected. -/
theorem SeatLaw.lock (law : SeatLaw r starters) (now : Int) (requester : ActorId)
    (gate : Room.StartGate) (granted : (r.requestStart now requester gate).2 = none) :
    SeatLaw (r.requestStart now requester gate).1 (r.participants.map Starter.of) := by
  rcases requestStart_cases r now requester gate with
    ⟨reason, refused⟩ | ⟨matchId, pending, waiting, _, starts⟩
  · rw [refused] at granted
    cases granted
  · rw [starts]
    refine ⟨(LobbyRoster.clearHolds_tame _).housed law.housed, fun _ => ⟨⟨_, rfl, ?_⟩, ?_, nofun⟩⟩
    · simp [RoomStartSnapshot.playerIds, Starter.of]
    · intro m member inside
      rw [List.map_map] at inside
      obtain ⟨n, listed, same⟩ := List.mem_map.mp inside
      have there := (mem_participants.mp listed).1
      have own : n = m := by
        refine law.housed.members n there m member ?_
        rw [← law.housed.slot n there, ← law.housed.slot m member]
        exact same
      rw [← own]
      exact List.mem_map_of_mem listed

end

/-! ## Every run -/

/-- The room another server builds of what this one exports. -/
def adoptedRoom (options : RoomOptions) (now : Int) (payload : AdoptRoomPayload) : Room :=
  (Room.construct options payload.capacity payload.mapId payload.matchId payload.playedGames
    payload.grantedMatchId payload.locked).adoptMembers now payload.members

def unplayed (room : Room) : HostedRoom K := ⟨room, none, 0, []⟩

variable [JsNumber K]

/-- The runs of rooms: a room is created or adopted, works off operations and ticks (also those of a
training ground), and may be exported and released. -/
inductive Lived : HostRun K → Prop where
  | created (options : RoomOptions) (capacity : Nat)
      (bounds : 1 ≤ capacity ∧ capacity ≤ maxPlayersPerRoom) (mapId : String) (matchId : MatchId)
      (owner : SeatReservation) :
      Lived (.start (unplayed (Room.create options capacity mapId matchId owner)))
  | adopted {r : HostRun K} (source : Lived r) (options : RoomOptions) (now : Int) :
      Lived (.start (unplayed (adoptedRoom options now r.host.room.exportForHandOff)))
  | op {r : HostRun K} (before : Lived r) (op : HostOp K) : Lived (r.apply op)
  | tick {r : HostRun K} (before : Lived r) (now : Int) (inputs : List (ResolvedInput K))
      (training : TrainingTurn K) (publication : Option (Nat → Nat)) :
      Lived { r with host := (r.host.tick now inputs training publication).host }
  | release {r : HostRun K} (before : Lived r) :
      Lived { r with host := r.host.mapRoom Room.releaseAfterHandOff }
  | refresh {r : HostRun K} (before : Lived r) (now : Int) :
      Lived { r with host := r.host.mapRoom fun room => room.refreshHandOffGrace now }

theorem Lived.ops {r : HostRun K} (lived : Lived r) (ops : List (HostOp K)) :
    Lived (ops.foldl HostRun.apply r) := by
  induction ops generalizing r with
  | nil => exact lived
  | cons op rest ih => exact ih (.op lived op)

theorem seatLaw_apply {r : HostRun K} (law : SeatLaw r.host.room r.starters) (op : HostOp K) :
    SeatLaw (r.apply op).host.room (r.apply op).starters := by
  by_cases locks : ∃ now requester gate, op = .requestStart now requester gate
  · obtain ⟨now, requester, gate, rfl⟩ := locks
    simp only [HostRun.apply]
    split
    · rename_i granted
      exact law.lock now requester gate granted
    · rename_i refusal
      rcases requestStart_cases r.host.room now requester gate with
        ⟨reason, refused⟩ | ⟨_, _, _, _, starts⟩
      · have same : (r.host.apply (.requestStart now requester gate)).room = r.host.room := by
          show (r.host.room.requestStart now requester gate).1 = r.host.room
          rw [refused]
        exact same.symm ▸ law
      · rw [starts] at refusal
        exact absurd rfl refusal
  · have acts : SeatActs r.host.room (r.host.apply op).room :=
      apply_seats r.host fun now requester gate same => locks ⟨now, requester, gate, same⟩
    have ghosts : (r.apply op).starters = r.starters ∧ (r.apply op).host = r.host.apply op := by
      unfold HostRun.apply
      cases op with
      | requestStart now requester gate => exact absurd ⟨now, requester, gate, rfl⟩ locks
      | _ => exact ⟨rfl, rfl⟩
    rw [ghosts.1, ghosts.2]
    exact law.acts acts

theorem Lived.law {r : HostRun K} (lived : Lived r) : SeatLaw r.host.room r.starters := by
  induction lived with
  | created options capacity bounds mapId matchId owner =>
    refine ⟨?_, fun engaged => ?_⟩
    · exact LobbyRoster.hold_housed (LobbyRoster.empty_housed bounds) owner []
    · rcases engaged with counting | playing
      · cases counting
      · cases playing
  | @adopted source _ options now ih =>
    have housed := LobbyRoster.adoptAll_housed ih.housed (now + options.timing.reconnectGraceMs)
    refine ⟨housed, fun engaged => ?_⟩
    rcases engaged with counting | playing
    · cases counting
    · cases playing
  | op _ op ih => exact seatLaw_apply ih op
  | tick _ now inputs training publication ih =>
    exact ih.acts (tick_seats .refl now inputs training publication)
  | @release r _ ih => exact ih.acts (releaseAfterHandOff_seats r.host.room)
  | @refresh r _ now ih => exact ih.acts (refreshHandOffGrace_seats r.host.room now)

/-- In every run of a room its roster is numbered as it should be, and while a match is on, a hold
or a member on a slot of the locked snapshot is a participant of the start itself. -/
theorem seats_kept {r : HostRun K} (lived : Lived r) :
    LobbyRoster.Numbered r.host.room.roster ∧
      (r.host.room.state = .playing → ∃ snapshot, r.host.room.startSnapshot = some snapshot ∧
        snapshot.playerIds = r.starters.map Starter.playerId ∧
        (∀ hold ∈ r.host.room.roster.holds.entries, hold.playerId ∉ snapshot.playerIds) ∧
        ∀ m ∈ r.host.room.roster.membersByUser.entries, m.playerId ∈ snapshot.playerIds →
          Starter.of m ∈ r.starters) := by
  have law := lived.law
  refine ⟨law.housed.numbered, fun playing => ?_⟩
  have seats := law.locked (.inr playing)
  obtain ⟨snapshot, locks, ids⟩ := seats.snapshot
  exact ⟨snapshot, locks, ids, ids ▸ seats.blocked, ids ▸ seats.present⟩

/-- Four players have joined, and their match has begun. -/
def gatheredRun : HostRun ℚ :=
  (gather ++ [HostOp.advance startEnv 29000]).foldl HostRun.apply
    (.start (unplayed (Room.create matchOptions 8 "yard" "M1" (ticket 1 false 15000))))

theorem seats_kept_gathered : gatheredRun.host.room.state = .playing ∧
    gatheredRun.starters.map Starter.playerId = [1, 2, 3, 4] ∧
    LobbyRoster.Numbered gatheredRun.host.room.roster := by
  have lived : Lived gatheredRun :=
    (Lived.created matchOptions 8 (by decide) "yard" "M1" (ticket 1 false 15000)).ops _
  exact ⟨by decide +kernel, by decide +kernel, (seats_kept lived).1⟩

end SwitchRemake.Game

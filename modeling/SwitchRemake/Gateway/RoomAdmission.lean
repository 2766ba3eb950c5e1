import SwitchRemake.Gateway.Tickets

/-!
# A seat while the room catches up with the clock

What `advance` may do to the seat of one user, and what `admitReservation` does to it then.
-/

namespace SwitchRemake.Game
open Lib Simulation Rooms HostedRoom

variable {K : Type} {now : Int} {u : ActorId}

/-- The seat of a member: only its part in the match has changed, or an admission has run out. -/
structure SeatStays (now : Int) (m n : LobbyMember) : Prop where
  same : n = { m with
    role := n.role
    spectatorEligible := n.spectatorEligible
    inCurrentGame := n.inCurrentGame
    admissionPendingUntil := n.admissionPendingUntil }
  pending : n.admissionPendingUntil = m.admissionPendingUntil ∨
    n.admissionPendingUntil = none ∧ admissionExpired now m = true

/-- The time of the seat is over. -/
def RunOut (now : Int) (m : LobbyMember) : Prop :=
  seatExpired now m = true ∨ admissionExpired now m = true ∧ m.reconnectUntil = none

inductive MemberKept (now : Int) (m : LobbyMember) : Option LobbyMember → Prop where
  | stays {n : LobbyMember} (stays : SeatStays now m n) : MemberKept now m (some n)
  | runOut (isOver : RunOut now m) : MemberKept now m none

/-- The room has just closed, and nobody is left in it. -/
def Shut (r v : Room) : Prop := r.state ≠ .closed ∧ v.state = .closed ∧ v.roster.size = 0

structure SeatKept (now : Int) (u : ActorId) (r v : Room) : Prop where
  hold : v.roster.heldSeat u = r.roster.heldSeat u ∨
    (∃ held, r.roster.heldSeat u = some held ∧ held.reservation.expiresAt ≤ now) ∨ Shut r v
  noHold : r.roster.heldSeat u = none → v.roster.heldSeat u = none
  member : ∀ m, r.roster.getByUser u = some m → MemberKept now m (v.roster.getByUser u)
  noMember : r.roster.getByUser u = none → v.roster.getByUser u = none

theorem SeatStays.refl (m : LobbyMember) : SeatStays now m m := ⟨rfl, .inl rfl⟩

theorem SeatKept.refl (r : Room) : SeatKept now u r r where
  hold := .inl rfl
  noHold := id
  member m found := found ▸ .stays (.refl m)
  noMember := id

theorem SeatStays.trans {m n p : LobbyMember} (first : SeatStays now m n)
    (second : p = { n with
      role := p.role, spectatorEligible := p.spectatorEligible, inCurrentGame := p.inCurrentGame }) :
    SeatStays now m p := by
  obtain ⟨same, pending⟩ := first
  have later : p.admissionPendingUntil = n.admissionPendingUntil := by rw [second]
  refine ⟨?_, by rwa [later]⟩
  rw [second, same]

/-- The members' parts in the match change, and nothing else about the seats. -/
theorem SeatKept.recast {r v : Room} (kept : SeatKept now u r v) {f : LobbyMember → LobbyMember}
    (k : ∀ m, (f m).userId = m.userId) {w : Room}
    (recasts : ∀ m, f m = { m with
      role := (f m).role
      spectatorEligible := (f m).spectatorEligible
      inCurrentGame := (f m).inCurrentGame })
    (roster : w.roster = v.roster.updateAll f k) (open_ : v.state ≠ .closed) : SeatKept now u r w where
  hold := by
    have same : w.roster.heldSeat u = v.roster.heldSeat u := by rw [roster]; rfl
    rw [same]
    rcases kept.hold with unchanged | isOver | shut
    · exact .inl unchanged
    · exact .inr (.inl isOver)
    · exact absurd shut.2.1 open_
  noHold := by
    have same : w.roster.heldSeat u = v.roster.heldSeat u := by rw [roster]; rfl
    exact same ▸ kept.noHold
  member m found := by
    have mapped : w.roster.getByUser u = (v.roster.getByUser u).map f := by
      rw [roster]
      show (v.roster.membersByUser.mapEntries f k).get? u = _
      exact KeyedList.get?_mapEntries _ _
    have before := kept.member m found
    rw [mapped]
    cases after : v.roster.getByUser u with
    | none =>
      rw [after] at before
      exact before
    | some n =>
      rw [after] at before
      cases before with
      | stays stays => exact .stays (stays.trans (recasts n))
  noMember nobody := by
    have mapped : w.roster.getByUser u = (v.roster.getByUser u).map f := by
      rw [roster]
      show (v.roster.membersByUser.mapEntries f k).get? u = _
      exact KeyedList.get?_mapEntries _ _
    rw [mapped, kept.noMember nobody]
    rfl

namespace HostedRoom
variable {h : HostedRoom K}

/-! ## The loop over the members -/

theorem close_room (h : HostedRoom K) : h.close.room = h.room ∧ h.room.state = .closed ∨
    h.room.state ≠ .closed ∧
      h.close.room = { h.room with roster := h.room.roster.clearHolds, state := .closed } := by
  unfold HostedRoom.close
  split
  · next closed => exact .inl ⟨rfl, closed⟩
  · next open_ =>
    refine .inr ⟨open_, ?_⟩
    have may : canTransition h.room.state .closed = true := by
      cases state : h.room.state with
      | closed => exact absurd state open_
      | _ => rfl
    simp [Room.transition, stopRoom, may]

/-- The holds are as they were, or the room has been closed for want of members. -/
inductive HoldsKept (r v : Room) : Prop where
  | same (holds : v.roster.holds = r.roster.holds) (state : v.state = r.state)
  | shut (shut : Shut r v) (holds : v.roster.holds = .empty)

theorem HoldsKept.trans {r v w : Room} (first : HoldsKept r v) (second : HoldsKept v w)
    (fewer : v.roster.size = 0 → w.roster.size = 0) : HoldsKept r w := by
  cases first with
  | same holds state =>
    cases second with
    | same holds' state' => exact .same (holds'.trans holds) (state'.trans state)
    | shut shut holds' => exact .shut ⟨state ▸ shut.1, shut.2⟩ holds'
  | shut shut holds =>
    cases second with
    | same holds' state' => exact .shut ⟨shut.1, state'.trans shut.2.1, fewer shut.2.2⟩ (holds'.trans holds)
    | shut shut' holds' => exact absurd shut.2.1 shut'.1

theorem closeIfEmpty_kept (h : HostedRoom K) : HoldsKept h.room h.closeIfEmpty.room ∧
    h.closeIfEmpty.room.roster.membersByUser = h.room.roster.membersByUser := by
  unfold closeIfEmpty
  split
  · next empty =>
    rcases close_room h with ⟨same, _⟩ | ⟨open_, closes⟩
    · rw [same]
      exact ⟨.same rfl rfl, rfl⟩
    · rw [closes]
      exact ⟨.shut ⟨open_, rfl, empty⟩ rfl, rfl⟩
  · exact ⟨.same rfl rfl, rfl⟩

variable [JsNumber K]

theorem removeMember_kept (now : Int) (h : HostedRoom K) (userId : ActorId) :
    HoldsKept h.room (h.removeMember now userId false).1.room ∧
      (h.removeMember now userId false).1.room.roster.membersByUser =
        h.room.roster.membersByUser.delete userId := by
  unfold removeMember
  rcases LobbyRoster.remove_cases h.room.roster userId with ⟨absent, nobody⟩ | ⟨m, host, found, removed⟩
  · simp only [absent]
    refine ⟨.same rfl rfl, ?_⟩
    apply KeyedList.ext
    symm
    rw [KeyedList.delete, List.filter_eq_self]
    intro n member
    simpa using KeyedList.get?_eq_none.mp nobody n member
  · simp only [removed, Bool.false_eq_true, if_false]
    have closing := closeIfEmpty_kept (h.mapRoom fun room =>
      { room with roster := { h.room.roster with
        membersByUser := h.room.roster.membersByUser.delete userId, hostUserId := host } })
    refine ⟨?_, closing.2⟩
    cases closing.1 with
    | same holds state => exact .same holds state
    | shut shut holds => exact .shut shut holds

/-- One turn of the loop touches nobody else. -/
theorem expireMember_other (now : Int) (h : HostedRoom K) {m : LobbyMember} (other : u ≠ m.userId) :
    (expireMember now h m).room.roster.getByUser u = h.room.roster.getByUser u := by
  have removes (h : HostedRoom K) :
      (h.removeMember now m.userId false).1.room.roster.getByUser u = h.room.roster.getByUser u := by
    simp only [LobbyRoster.getByUser, (removeMember_kept now h m.userId).2]
    rw [KeyedList.get?_delete, if_neg other]
  have settles : (h.mapRoom fun room => room.updateMember m.userId
      (fun m => { m with admissionPendingUntil := none }) fun _ => rfl).room.roster.getByUser u =
      h.room.roster.getByUser u := by
    simp only [mapRoom, Room.updateMember, LobbyRoster.update, LobbyRoster.getByUser]
    rw [KeyedList.get?_modify, if_neg other]
  unfold expireMember
  split
  · exact removes h
  · dsimp only
    split
    · split
      · exact (removes _).trans settles
      · exact removes h
    · split
      · exact settles
      · rfl

theorem expireMember_own (now : Int) (h : HostedRoom K) {m : LobbyMember}
    (own : h.room.roster.getByUser m.userId = some m) :
    MemberKept now m ((expireMember now h m).room.roster.getByUser m.userId) := by
  have removes (h : HostedRoom K) :
      (h.removeMember now m.userId false).1.room.roster.getByUser m.userId = none := by
    simp only [LobbyRoster.getByUser, (removeMember_kept now h m.userId).2]
    rw [KeyedList.get?_delete, if_pos rfl]
  unfold expireMember
  split
  · next isOver => exact removes h ▸ .runOut (.inr isOver)
  · dsimp only
    split
    · next isOver => exact removes _ ▸ .runOut (.inl isOver)
    · split
      · next pending =>
        have settled : (h.mapRoom fun room => room.updateMember m.userId
            (fun m => { m with admissionPendingUntil := none }) fun _ => rfl).room.roster.getByUser
              m.userId = some { m with admissionPendingUntil := none } := by
          simp only [mapRoom, Room.updateMember, LobbyRoster.update, LobbyRoster.getByUser] at own ⊢
          rw [KeyedList.get?_modify, if_pos rfl, own]
          rfl
        exact settled ▸ .stays ⟨rfl, .inr ⟨rfl, pending⟩⟩
      · exact own ▸ .stays (.refl m)

theorem expireMember_holds (now : Int) (h : HostedRoom K) (m : LobbyMember) :
    HoldsKept h.room (expireMember now h m).room ∧
      (h.room.roster.size = 0 → (expireMember now h m).room.roster.size = 0) := by
  have fewer (h : HostedRoom K) : h.room.roster.size = 0 →
      (h.removeMember now m.userId false).1.room.roster.size = 0 := by
    intro empty
    simp only [LobbyRoster.size, KeyedList.size, (removeMember_kept now h m.userId).2,
      KeyedList.delete, List.length_eq_zero_iff] at empty ⊢
    simp [empty]
  have settled (empty : h.room.roster.size = 0) : (h.mapRoom fun room => room.updateMember m.userId
      (fun m => { m with admissionPendingUntil := none }) fun _ => rfl).room.roster.size = 0 := by
    simpa [mapRoom, Room.updateMember, LobbyRoster.update, LobbyRoster.size, KeyedList.size,
      KeyedList.modify, KeyedList.mapEntries] using empty
  unfold expireMember
  split
  · exact ⟨(removeMember_kept now h m.userId).1, fewer h⟩
  · dsimp only
    split
    · split
      · refine ⟨?_, fun empty => fewer _ (settled empty)⟩
        cases (removeMember_kept now (h.mapRoom fun room => room.updateMember m.userId
          (fun m => { m with admissionPendingUntil := none }) fun _ => rfl) m.userId).1 with
        | same holds state => exact .same holds state
        | shut shut holds => exact .shut shut holds
      · exact ⟨(removeMember_kept now h m.userId).1, fewer h⟩
    · split
      · exact ⟨.same rfl rfl, settled⟩
      · exact ⟨.same rfl rfl, id⟩

/-- The loop comes to each member once, and finds it as it was. -/
theorem expireAll_kept (now : Int) (ms : List LobbyMember) (h : HostedRoom K)
    (distinct : (ms.map LobbyMember.userId).Nodup)
    (current : ∀ m ∈ ms, h.room.roster.getByUser m.userId = some m) :
    HoldsKept h.room (ms.foldl (expireMember now) h).room ∧
      (h.room.roster.size = 0 → (ms.foldl (expireMember now) h).room.roster.size = 0) ∧
      ∀ u, if ∃ m ∈ ms, m.userId = u then
          ∀ m, h.room.roster.getByUser u = some m →
            MemberKept now m ((ms.foldl (expireMember now) h).room.roster.getByUser u)
        else (ms.foldl (expireMember now) h).room.roster.getByUser u = h.room.roster.getByUser u := by
  induction ms generalizing h with
  | nil => exact ⟨.same rfl rfl, id, fun u => by simp⟩
  | cons m rest ih =>
    rw [List.map_cons, List.nodup_cons] at distinct
    have away : ∀ n ∈ rest, n.userId ≠ m.userId := fun n member same =>
      distinct.1 (same ▸ List.mem_map_of_mem member)
    obtain ⟨holds, fewer, seats⟩ := ih (expireMember now h m) distinct.2 fun n member =>
      (expireMember_other now h (away n member)).trans (current n (List.mem_cons_of_mem _ member))
    have one := expireMember_holds now h m
    refine ⟨one.1.trans holds fewer, fun empty => fewer (one.2 empty), fun u => ?_⟩
    have later := seats u
    by_cases here : m.userId = u
    · subst here
      have absent : ¬ ∃ n ∈ rest, n.userId = m.userId := fun ⟨n, member, same⟩ => away n member same
      rw [if_neg absent] at later
      rw [if_pos ⟨m, List.mem_cons_self, rfl⟩, List.foldl_cons, later]
      intro n found
      obtain rfl : m = n := Option.some.inj ((current m List.mem_cons_self).symm.trans found)
      exact expireMember_own now h found
    · rw [expireMember_other now h (Ne.symm here)] at later
      simpa [here] using later

theorem expireMembers_seat (now : Int) (h : HostedRoom K) (u : ActorId) :
    SeatKept now u h.room (h.expireMembers now).room := by
  let purged := h.mapRoom fun room => { room with roster := room.roster.purgeExpiredHolds now }
  have current : ∀ m ∈ purged.room.members, purged.room.roster.getByUser m.userId = some m :=
    fun m member => KeyedList.get?_of_mem (LobbyRoster.mem_members.mp member)
  have distinct : (purged.room.members.map LobbyMember.userId).Nodup :=
    ((sortById_perm LobbyMember.joinedOrder _).map LobbyMember.userId).nodup_iff.mpr
      purged.room.roster.membersByUser.distinct
  obtain ⟨holds, _, seats⟩ := expireAll_kept now purged.room.members purged distinct current
  have ends : (h.expireMembers now).room =
      (purged.room.members.foldl (expireMember now) purged).room := rfl
  have held : purged.room.roster.heldSeat u = (h.room.roster.heldSeat u).filter fun hold =>
      !decide (hold.reservation.expiresAt ≤ now) := KeyedList.get?_filter _ _ _
  have seat := seats u
  rw [← ends] at holds seat
  constructor
  · cases holds with
    | same holds _ =>
      have kept : (h.expireMembers now).room.roster.heldSeat u = purged.room.roster.heldSeat u :=
        congrArg (fun holds => KeyedList.get? holds u) holds
      rw [kept, held]
      cases before : h.room.roster.heldSeat u with
      | none => exact .inl rfl
      | some hold =>
        by_cases isOver : hold.reservation.expiresAt ≤ now
        · exact .inr (.inl ⟨hold, rfl, isOver⟩)
        · exact .inl (by simp [isOver])
    | shut shut _ => exact .inr (.inr ⟨shut.1, shut.2⟩)
  · intro nobody
    cases holds with
    | same holds _ =>
      have kept : (h.expireMembers now).room.roster.heldSeat u = purged.room.roster.heldSeat u :=
        congrArg (fun holds => KeyedList.get? holds u) holds
      rw [kept, held, nobody]
      rfl
    | shut _ holds =>
      show KeyedList.get? _ u = none
      rw [holds]
      rfl
  · intro m found
    split at seat
    · exact seat m found
    · next absent =>
      exact absurd ⟨m, LobbyRoster.mem_members.mpr (LobbyRoster.getByUser_some found).1,
        (LobbyRoster.getByUser_some found).2⟩ absent
  · intro nobody
    split at seat
    · next present =>
      obtain ⟨m, member, same⟩ := present
      have found := current m member
      rw [same] at found
      exact absurd (found.symm.trans nobody) nofun
    · exact seat.trans nobody

theorem expireMembers_open (now : Int) (h : HostedRoom K) (open_ : h.room.state ≠ .closed)
    (some_ : (h.expireMembers now).room.roster.size ≠ 0) :
    (h.expireMembers now).room.state ≠ .closed := by
  let purged := h.mapRoom fun room => { room with roster := room.roster.purgeExpiredHolds now }
  have current : ∀ m ∈ purged.room.members, purged.room.roster.getByUser m.userId = some m :=
    fun m member => KeyedList.get?_of_mem (LobbyRoster.mem_members.mp member)
  have distinct : (purged.room.members.map LobbyMember.userId).Nodup :=
    ((sortById_perm LobbyMember.joinedOrder _).map LobbyMember.userId).nodup_iff.mpr
      purged.room.roster.membersByUser.distinct
  obtain ⟨holds, _⟩ := expireAll_kept now purged.room.members purged distinct current
  cases holds with
  | same _ state => exact fun closed => open_ (state.symm.trans closed)
  | shut shut _ => exact absurd shut.2.2 some_

omit [JsNumber K] in
theorem close_seat {r : Room} (kept : SeatKept now u r h.room) (open_ : r.state ≠ .closed)
    (empty : h.room.roster.size = 0) : SeatKept now u r h.close.room := by
  rcases close_room h with ⟨same, _⟩ | ⟨_, closes⟩
  · exact same.symm ▸ kept
  · rw [closes]
    exact ⟨.inr (.inr ⟨open_, rfl, empty⟩), fun _ => rfl, kept.member, kept.noMember⟩

theorem startIfDue_seat {r : Room} (env : StartEnv K) (kept : SeatKept now u r h.room)
    (open_ : h.room.state ≠ .closed) : SeatKept now u r (h.startIfDue env now).room ∧
      (h.startIfDue env now).room.state ≠ .closed := by
  rcases startIfDue_cases h env now with same | ⟨snapshot, started, counting, _, _, starts, same⟩
  · rw [same]
    exact ⟨kept, open_⟩
  · rw [same]
    constructor
    · refine kept.recast (f := fun m => { m with
          inCurrentGame := snapshot.playerIds.contains m.playerId
          role := if snapshot.playerIds.contains m.playerId then .player else .waiting
          spectatorEligible := false }) (fun _ => rfl) (fun m => rfl) ?_ open_
      simp only [mapRoom, enterGame, transition_roster, startGame_room starts]
    · simp [mapRoom, enterGame, Room.transition, startGame_room starts, counting, canTransition]

omit [JsNumber K] in
theorem returnIfDue_seat {r : Room} (kept : SeatKept now u r h.room)
    (open_ : h.room.state ≠ .closed) : SeatKept now u r (h.returnIfDue now).room := by
  rcases returnIfDue_cases h now with same | ⟨_, same⟩
  · exact same.symm ▸ kept
  · rw [same]
    refine kept.recast
      (f := fun m => { m with role := .player, spectatorEligible := false, inCurrentGame := false })
      (fun _ => rfl) (fun m => rfl) ?_ open_
    simp only [mapRoom, backToLobby, transition_roster]

/-- Catching up with the clock takes no seat before its time, unless the room closes. -/
theorem advance_seat (env : StartEnv K) (now : Int) (h : HostedRoom K) (u : ActorId) :
    SeatKept now u h.room (h.advance env now).room := by
  have expired := expireMembers_seat now h u
  unfold HostedRoom.advance
  split
  · exact .refl _
  · next live =>
    obtain ⟨_, open_⟩ := not_or.mp live
    dsimp only
    split
    · next empty =>
      split
      · exact close_seat expired open_ empty
      · exact expired
    · next some_ =>
      have started := startIfDue_seat env expired (expireMembers_open now h open_ some_)
      exact returnIfDue_seat started.1 started.2

end HostedRoom

/-! ## The admission itself -/

/-- The reservation's user has one seat, claimed for it, and everybody else's is as it was. -/
structure Claimed (now : Int) (reservation : SeatReservation) (seat : Admission) (r v : Room) : Prop where
  inTime : now < reservation.expiresAt
  before : if reservation.resume then
      ∃ m, r.roster.getByUser reservation.userId = some m ∧ m.playerId = seat.playerId ∧
        m.connection = none ∧ m.admissionPendingUntil = none
    else r.roster.getByUser reservation.userId = none ∧
      ∃ held, r.roster.heldSeat reservation.userId = some held ∧ held.playerId = seat.playerId
  member : ∃ m, v.roster.getByUser reservation.userId = some m ∧ m.playerId = seat.playerId ∧
    m.connection = none ∧ m.admissionPendingUntil = some reservation.expiresAt
  noHold : v.roster.heldSeat reservation.userId = none
  others : ∀ u, u ≠ reservation.userId → v.roster.getByUser u = r.roster.getByUser u ∧
    v.roster.heldSeat u = r.roster.heldSeat u

variable {r : Room} {reservation : SeatReservation}

theorem admitReservation_refused (refused : (r.admitReservation now reservation).2 = none) :
    (r.admitReservation now reservation).1 = r := by
  unfold Room.admitReservation at refused ⊢
  split
  · rfl
  · next open_ =>
    rw [if_neg open_] at refused
    split
    · next resume =>
      rw [if_pos resume] at refused
      split
      · rfl
      · next may =>
        rw [if_neg may] at refused
        cases found : r.roster.getByUser reservation.userId with
        | none => rfl
        | some m => simp [found] at refused
    · next join =>
      rw [if_neg join] at refused
      split
      · rfl
      · next state =>
        rw [if_neg state] at refused
        cases found : r.roster.heldSeat reservation.userId with
        | none => rfl
        | some held =>
          simp only [found] at refused ⊢
          split
          · rfl
          · next matching =>
            rw [if_neg matching] at refused
            have alive : ¬ held.reservation.expiresAt ≤ now := by
              simp only [not_or, not_not] at open_ matching
              rw [matching.2.1]
              exact open_.2.1
            have there : r.roster.holds.get? reservation.userId = some held := found
            simp [LobbyRoster.claim, there, alive] at refused

theorem waits_roster (allocating : Prop) [Decidable allocating] (room : Room) :
    (if allocating then room.transition .waiting else room).roster = room.roster := by
  split
  · exact transition_roster _ _
  · rfl

theorem Claimed.of_roster {seat : Admission} {v w : Room} (inTime : now < reservation.expiresAt)
    (before : if reservation.resume then
      ∃ m, r.roster.getByUser reservation.userId = some m ∧ m.playerId = seat.playerId ∧
        m.connection = none ∧ m.admissionPendingUntil = none
    else r.roster.getByUser reservation.userId = none ∧
      ∃ held, r.roster.heldSeat reservation.userId = some held ∧ held.playerId = seat.playerId)
    (after : (∃ m, w.roster.getByUser reservation.userId = some m ∧ m.playerId = seat.playerId ∧
        m.connection = none ∧ m.admissionPendingUntil = some reservation.expiresAt) ∧
      w.roster.heldSeat reservation.userId = none ∧
      ∀ u, u ≠ reservation.userId → w.roster.getByUser u = r.roster.getByUser u ∧
        w.roster.heldSeat u = r.roster.heldSeat u)
    (roster : v.roster = w.roster) : Claimed now reservation seat r v :=
  ⟨inTime, before, roster ▸ after.1, roster ▸ after.2.1, roster ▸ after.2.2⟩

theorem admitReservation_admits {seat : Admission} (seated : LobbyRoster.Seated r.roster)
    (admits : (r.admitReservation now reservation).2 = some seat) :
    Claimed now reservation seat r (r.admitReservation now reservation).1 := by
  unfold Room.admitReservation at admits ⊢
  split at admits
  · cases admits
  · next open_ =>
    rw [if_neg open_]
    have inTime : now < reservation.expiresAt := by
      simp only [not_or] at open_
      omega
    split at admits
    · next resume =>
      rw [if_pos resume]
      split at admits
      · cases admits
      · next may =>
        rw [if_neg may]
        cases found : r.roster.getByUser reservation.userId with
        | none => simp [found] at admits
        | some m =>
          simp only [found, Option.some.injEq] at admits ⊢
          subst admits
          have away : m.connection = none ∧ m.admissionPendingUntil = none := by
            simp only [Room.canReserveResume, found, not_not] at may
            split at may
            · cases may
            · split at may
              · cases may
              · next free => simpa only [ne_eq, not_or, not_not] using free
          refine ⟨inTime, ?_, ?_, ?_, fun u other => ?_⟩
          · rw [if_pos resume]
            exact ⟨m, found, rfl, away⟩
          · refine ⟨{ m with admissionPendingUntil := some reservation.expiresAt }, ?_, rfl, away.1, rfl⟩
            simp only [Room.updateMember, LobbyRoster.update, LobbyRoster.getByUser] at found ⊢
            rw [KeyedList.get?_modify, if_pos rfl, found]
            rfl
          · show KeyedList.get? r.roster.holds reservation.userId = none
            rw [KeyedList.get?_eq_none]
            obtain ⟨member, own⟩ := LobbyRoster.getByUser_some found
            exact fun held mem same => seated.strangers held mem m member (same.trans own.symm)
          · refine ⟨?_, rfl⟩
            simp only [Room.updateMember, LobbyRoster.update, LobbyRoster.getByUser]
            rw [KeyedList.get?_modify, if_neg other]
    · next join =>
      rw [if_neg join]
      split at admits
      · cases admits
      · next state =>
        rw [if_neg state]
        cases found : r.roster.heldSeat reservation.userId with
        | none => simp [found] at admits
        | some held =>
          simp only [found] at admits ⊢
          split at admits
          · cases admits
          · next matching =>
            rw [if_neg matching]
            have alive : ¬ held.reservation.expiresAt ≤ now := by
              simp only [not_or, not_not] at matching
              rw [matching.2.1]
              omega
            have there : r.roster.holds.get? reservation.userId = some held := found
            obtain ⟨member, own⟩ := KeyedList.mem_of_get? there
            have own : held.userId = reservation.userId := own
            have stranger : r.roster.getByUser reservation.userId = none := by
              show KeyedList.get? _ _ = none
              rw [KeyedList.get?_eq_none]
              exact fun m mem same => seated.strangers held member m mem (own.trans same.symm)
            simp only [LobbyRoster.claim, there, if_neg alive, Option.some.injEq] at admits ⊢
            subst admits
            refine .of_roster inTime ?_ ?_ (waits_roster _ _)
            · rw [if_neg join]
              exact ⟨stranger, held, found, rfl⟩
            · refine ⟨⟨_, (KeyedList.get?_set _ _ _).trans (if_pos own.symm), rfl, rfl, ?_⟩, ?_, fun u other => ?_⟩
              · simp only [not_or, not_not] at matching
                exact congrArg some matching.2.1
              · exact (KeyedList.get?_delete _ _ _).trans (if_pos rfl)
              · constructor
                · exact (KeyedList.get?_set _ _ _).trans (if_neg fun same => other (same.trans own))
                · exact (KeyedList.get?_delete _ _ _).trans (if_neg other)

end SwitchRemake.Game

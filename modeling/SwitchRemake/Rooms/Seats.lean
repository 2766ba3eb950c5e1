import SwitchRemake.Rooms.LobbyState

/-!
# Seats

No seat is given twice. Most operations of a room only take members and holds away, or change what
a member may do; a few give or move a seat.
-/

namespace SwitchRemake.Rooms.LobbyRoster
open Lib Simulation

/-- Holds and members have seats of their own, and everybody joined before the next to come. -/
structure Seated (r : LobbyRoster) : Prop where
  slot : ∀ m ∈ r.membersByUser.entries, m.playerId = m.slot
  holdSlot : ∀ hold ∈ r.holds.entries, hold.playerId = hold.slot
  members : ∀ m ∈ r.membersByUser.entries, ∀ n ∈ r.membersByUser.entries, m.slot = n.slot → m = n
  holds : ∀ a ∈ r.holds.entries, ∀ b ∈ r.holds.entries, a.slot = b.slot → a = b
  apart : ∀ hold ∈ r.holds.entries, ∀ m ∈ r.membersByUser.entries, hold.slot ≠ m.slot
  strangers : ∀ hold ∈ r.holds.entries, ∀ m ∈ r.membersByUser.entries, hold.userId ≠ m.userId
  order : ∀ m ∈ r.membersByUser.entries, m.joinedOrder < r.joinOrder

/-- The same membership: who it is, where it sits, since when, and its part in the match. -/
structure SameSeat (m n : LobbyMember) : Prop where
  userId : n.userId = m.userId
  playerId : n.playerId = m.playerId
  slot : n.slot = m.slot
  joinedOrder : n.joinedOrder = m.joinedOrder
  spectatorEligible : n.spectatorEligible = m.spectatorEligible
  inCurrentGame : n.inCurrentGame = m.inCurrentGame

theorem SameSeat.refl (m : LobbyMember) : SameSeat m m := ⟨rfl, rfl, rfl, rfl, rfl, rfl⟩

theorem SameSeat.trans {m n p : LobbyMember} (first : SameSeat m n) (second : SameSeat n p) :
    SameSeat m p where
  userId := second.userId.trans first.userId
  playerId := second.playerId.trans first.playerId
  slot := second.slot.trans first.slot
  joinedOrder := second.joinedOrder.trans first.joinedOrder
  spectatorEligible := second.spectatorEligible.trans first.spectatorEligible
  inCurrentGame := second.inCurrentGame.trans first.inCurrentGame

/-- Nobody is new: every member and every hold was there before. -/
structure Fades (r v : LobbyRoster) : Prop where
  member : ∀ n ∈ v.membersByUser.entries, ∃ m ∈ r.membersByUser.entries, SameSeat m n
  hold : ∀ hold ∈ v.holds.entries, hold ∈ r.holds.entries
  joinOrder : v.joinOrder = r.joinOrder

variable {r v w : LobbyRoster}

theorem Fades.refl (r : LobbyRoster) : Fades r r :=
  ⟨fun m member => ⟨m, member, SameSeat.refl m⟩, fun _ member => member, rfl⟩

theorem Fades.trans (first : Fades r v) (second : Fades v w) : Fades r w := by
  refine ⟨fun p member => ?_, fun hold member => first.hold hold (second.hold hold member),
    second.joinOrder.trans first.joinOrder⟩
  obtain ⟨n, middle, later⟩ := second.member p member
  obtain ⟨m, before, earlier⟩ := first.member n middle
  exact ⟨m, before, earlier.trans later⟩

/-- The same place in the room, whatever the part in the match. -/
structure SamePlace (m n : LobbyMember) : Prop where
  userId : n.userId = m.userId
  playerId : n.playerId = m.playerId
  slot : n.slot = m.slot
  joinedOrder : n.joinedOrder = m.joinedOrder

/-- Nobody is new, and nobody has moved. -/
structure Thins (r v : LobbyRoster) : Prop where
  member : ∀ n ∈ v.membersByUser.entries, ∃ m ∈ r.membersByUser.entries, SamePlace m n
  hold : ∀ hold ∈ v.holds.entries, hold ∈ r.holds.entries
  joinOrder : v.joinOrder = r.joinOrder

theorem Fades.thins (fades : Fades r v) : Thins r v := by
  refine ⟨fun n member => ?_, fades.hold, fades.joinOrder⟩
  obtain ⟨m, before, same⟩ := fades.member n member
  exact ⟨m, before, same.userId, same.playerId, same.slot, same.joinedOrder⟩

theorem Thins.seated (thins : Thins r v) (seated : Seated r) : Seated v where
  slot n member := by
    obtain ⟨m, before, same⟩ := thins.member n member
    rw [same.playerId, same.slot]
    exact seated.slot m before
  holdSlot hold member := seated.holdSlot hold (thins.hold hold member)
  members n member p other equal := by
    obtain ⟨m, before, same⟩ := thins.member n member
    obtain ⟨q, earlier, alike⟩ := thins.member p other
    have one : m = q := by
      apply seated.members m before q earlier
      rw [← same.slot, ← alike.slot]
      exact equal
    apply v.membersByUser.eq_of_key member other
    rw [same.userId, alike.userId, one]
  holds a first b second := seated.holds a (thins.hold a first) b (thins.hold b second)
  apart hold held n member := by
    obtain ⟨m, before, same⟩ := thins.member n member
    rw [same.slot]
    exact seated.apart hold (thins.hold hold held) m before
  strangers hold held n member := by
    obtain ⟨m, before, same⟩ := thins.member n member
    rw [same.userId]
    exact seated.strangers hold (thins.hold hold held) m before
  order n member := by
    obtain ⟨m, before, same⟩ := thins.member n member
    rw [same.joinedOrder, thins.joinOrder]
    exact seated.order m before

theorem Fades.seated (fades : Fades r v) (seated : Seated r) : Seated v := fades.thins.seated seated

theorem mem_members {m : LobbyMember} : m ∈ r.members ↔ m ∈ r.membersByUser.entries := mem_sortById

theorem getByUser_some {userId : ActorId} {m : LobbyMember} (found : r.getByUser userId = some m) :
    m ∈ r.membersByUser.entries ∧ m.userId = userId :=
  KeyedList.mem_of_get? found

theorem getByPlayerId_some {playerId : Nat} {m : LobbyMember}
    (found : r.getByPlayerId playerId = some m) :
    m ∈ r.membersByUser.entries ∧ m.playerId = playerId :=
  ⟨mem_members.mp (List.mem_of_find?_eq_some found), by simpa using List.find?_some found⟩

theorem updateAll_fades (r : LobbyRoster) {f : LobbyMember → LobbyMember}
    (keeps : ∀ m, (f m).userId = m.userId) (same : ∀ m, SameSeat m (f m)) :
    Fades r (r.updateAll f keeps) := by
  refine ⟨fun n member => ?_, fun _ member => member, rfl⟩
  have image : n ∈ (r.membersByUser.mapEntries f keeps).entries := member
  obtain ⟨m, before, rfl⟩ := KeyedList.mem_mapEntries.mp image
  exact ⟨m, before, same m⟩

theorem update_fades (r : LobbyRoster) (userId : ActorId) {f : LobbyMember → LobbyMember}
    (keeps : ∀ m, (f m).userId = m.userId) (same : ∀ m, SameSeat m (f m)) :
    Fades r (r.update userId f keeps) := by
  refine ⟨fun n member => ?_, fun _ member => member, rfl⟩
  have image : n ∈ (r.membersByUser.modify userId f keeps).entries := member
  obtain ⟨m, before, ⟨_, rfl⟩ | ⟨_, rfl⟩⟩ := KeyedList.mem_modify.mp image
  · exact ⟨m, before, same m⟩
  · exact ⟨n, before, SameSeat.refl n⟩

theorem mem_update {userId : ActorId} {f : LobbyMember → LobbyMember}
    {keeps : ∀ m, (f m).userId = m.userId} {n : LobbyMember} :
    n ∈ (r.update userId f keeps).membersByUser.entries ↔ ∃ m ∈ r.membersByUser.entries,
      m.userId = userId ∧ n = f m ∨ m.userId ≠ userId ∧ n = m := by
  rw [update, KeyedList.mem_modify]

/-- Whoever is updated is found as updated. -/
theorem getByUser_update {userId : ActorId} {m : LobbyMember}
    (found : r.getByUser userId = some m) (f : LobbyMember → LobbyMember)
    (keeps : ∀ m, (f m).userId = m.userId) :
    (r.update userId f keeps).getByUser userId = some (f m) := by
  obtain ⟨member, own⟩ := getByUser_some found
  have image : f m ∈ (r.membersByUser.modify userId f keeps).entries :=
    KeyedList.mem_modify.mpr ⟨m, member, Or.inl ⟨own, rfl⟩⟩
  have key := KeyedList.get?_of_mem image
  rw [keeps m, own] at key
  exact key

theorem update_thins (r : LobbyRoster) (userId : ActorId) {f : LobbyMember → LobbyMember}
    (keeps : ∀ m, (f m).userId = m.userId) (same : ∀ m, SamePlace m (f m)) :
    Thins r (r.update userId f keeps) := by
  refine ⟨fun n member => ?_, fun _ member => member, rfl⟩
  obtain ⟨m, before, ⟨_, rfl⟩ | ⟨_, rfl⟩⟩ := mem_update.mp member
  · exact ⟨m, before, same m⟩
  · exact ⟨n, before, rfl, rfl, rfl, rfl⟩

theorem mem_updateAll {f : LobbyMember → LobbyMember} {keeps : ∀ m, (f m).userId = m.userId}
    {n : LobbyMember} : n ∈ (r.updateAll f keeps).membersByUser.entries ↔
      ∃ m ∈ r.membersByUser.entries, f m = n := by
  rw [updateAll, KeyedList.mem_mapEntries]

theorem updateAll_thins (r : LobbyRoster) {f : LobbyMember → LobbyMember}
    (keeps : ∀ m, (f m).userId = m.userId) (same : ∀ m, SamePlace m (f m)) :
    Thins r (r.updateAll f keeps) := by
  refine ⟨fun n member => ?_, fun _ member => member, rfl⟩
  obtain ⟨m, before, rfl⟩ := mem_updateAll.mp member
  exact ⟨m, before, same m⟩

theorem releaseHold_fades (r : LobbyRoster) (userId : ActorId) :
    Fades r (r.releaseHold userId).1 :=
  ⟨fun m member => ⟨m, member, SameSeat.refl m⟩,
    fun _ member => (KeyedList.mem_delete.mp member).1, rfl⟩

theorem clearHolds_fades (r : LobbyRoster) : Fades r r.clearHolds :=
  ⟨fun m member => ⟨m, member, SameSeat.refl m⟩, nofun, rfl⟩

theorem purgeExpiredHolds_fades (r : LobbyRoster) (now : Int) :
    Fades r (r.purgeExpiredHolds now) :=
  ⟨fun m member => ⟨m, member, SameSeat.refl m⟩,
    fun _ member => (KeyedList.mem_filter.mp member).1, rfl⟩

/-- A host may change without anybody moving. -/
theorem withHost_fades (r : LobbyRoster) (hostUserId : Option ActorId) :
    Fades r { r with hostUserId } :=
  ⟨fun m member => ⟨m, member, SameSeat.refl m⟩, fun _ member => member, rfl⟩

theorem passHost_fades (r : LobbyRoster) (requester : ActorId) (playerId : Nat) :
    Fades r (r.passHost requester playerId).1 := by
  unfold passHost
  split
  · exact Fades.refl r
  · split
    · exact Fades.refl r
    · exact withHost_fades r _

/-- What `remove` did, when it found somebody. -/
theorem remove_cases (r : LobbyRoster) (userId : ActorId) :
    (r.remove userId = (r, none) ∧ r.getByUser userId = none) ∨
    ∃ member host, r.getByUser userId = some member ∧
      r.remove userId =
        ({ r with membersByUser := r.membersByUser.delete userId, hostUserId := host },
          some member) := by
  unfold remove
  cases found : r.membersByUser.get? userId with
  | none => exact Or.inl ⟨rfl, found⟩
  | some member =>
    right
    dsimp only
    split
    · exact ⟨member, _, found, rfl⟩
    · exact ⟨member, _, found, rfl⟩

theorem remove_fades (r : LobbyRoster) (userId : ActorId) : Fades r (r.remove userId).1 := by
  rcases remove_cases r userId with ⟨same, _⟩ | ⟨member, host, _, removed⟩
  · rw [same]
    exact Fades.refl r
  · rw [removed]
    exact ⟨fun m inside => ⟨m, (KeyedList.mem_delete.mp inside).1, SameSeat.refl m⟩,
      fun _ inside => inside, rfl⟩

/-! ## Giving a seat -/

theorem slotOccupied_eq_false {slot : Nat} {exceptUserId : Option ActorId}
    (free : r.slotOccupied slot exceptUserId = false) :
    (∀ hold ∈ r.holds.entries, some hold.userId ≠ exceptUserId → hold.slot ≠ slot) ∧
      ∀ m ∈ r.membersByUser.entries, some m.userId ≠ exceptUserId → m.slot ≠ slot := by
  simpa [slotOccupied] using free

theorem firstFreeSeat_some {blocked : List Nat} {seat : Nat}
    (found : r.firstFreeSeat blocked = some seat) :
    seat ∉ blocked ∧ 1 ≤ seat ∧ seat ≤ r.capacity ∧ r.slotOccupied seat none = false := by
  have free := List.find?_some found
  have range := List.mem_range'_1.mp (List.mem_of_find?_eq_some found)
  simp only [Bool.and_eq_true, Bool.not_eq_true'] at free
  have bound : min r.capacity maxPlayersPerRoom ≤ r.capacity := min_le_left _ _
  refine ⟨?_, range.1, by omega, free.2⟩
  simpa using free.1

/-- The ways `hold` can go. -/
theorem hold_cases (r : LobbyRoster) (reservation : SeatReservation) (blocked : List Nat) :
    (∃ failure, r.hold reservation blocked = (r, .error failure)) ∨
    ∃ seat, r.hasUser reservation.userId = false ∧ r.firstFreeSeat blocked = some seat ∧
      r.hold reservation blocked =
        ({ r with holds := r.holds.set ⟨reservation, seat, seat⟩ }, .ok seat) := by
  unfold hold
  split
  · exact Or.inl ⟨_, rfl⟩
  · rename_i stranger
    split
    · exact Or.inl ⟨_, rfl⟩
    · rename_i seat found
      exact Or.inr ⟨seat, by simpa using stranger, found, rfl⟩

theorem hold_seated (seated : Seated r) (reservation : SeatReservation) (blocked : List Nat) :
    Seated (r.hold reservation blocked).1 := by
  rcases hold_cases r reservation blocked with ⟨_, refused⟩ | ⟨seat, stranger, found, held⟩
  · rw [refused]
    exact seated
  · obtain ⟨freeHolds, freeMembers⟩ := slotOccupied_eq_false (firstFreeSeat_some found).2.2.2
    rw [held]
    refine ⟨seated.slot, ?_, seated.members, ?_, ?_, ?_, seated.order⟩
    · intro hold member
      rcases KeyedList.mem_set.mp member with rfl | ⟨old, _⟩
      · rfl
      · exact seated.holdSlot hold old
    · intro a first b second equal
      rcases KeyedList.mem_set.mp first with rfl | ⟨oldA, _⟩
      · rcases KeyedList.mem_set.mp second with rfl | ⟨oldB, _⟩
        · rfl
        · exact absurd equal.symm (freeHolds b oldB nofun)
      · rcases KeyedList.mem_set.mp second with rfl | ⟨oldB, _⟩
        · exact absurd equal (freeHolds a oldA nofun)
        · exact seated.holds a oldA b oldB equal
    · intro hold member m inside
      rcases KeyedList.mem_set.mp member with rfl | ⟨old, _⟩
      · exact (freeMembers m inside nofun).symm
      · exact seated.apart hold old m inside
    · intro hold member m inside
      rcases KeyedList.mem_set.mp member with rfl | ⟨old, _⟩
      · intro same
        have known : r.membersByUser.has reservation.userId = true :=
          KeyedList.has_iff.mpr ⟨m, inside, same.symm⟩
        simp [hasUser, known] at stranger
      · exact seated.strangers hold old m inside

/-- The ways `claim` can go: the hold is gone in any case. -/
theorem claim_cases (r : LobbyRoster) (userId : ActorId) (now : Int) (role : PlayerRole) :
    ((r.claim userId now role).2 = none ∧ Fades r (r.claim userId now role).1) ∨
    ∃ hold, r.holds.get? userId = some hold ∧
      r.claim userId now role =
        ({ r with
            holds := r.holds.delete userId
            membersByUser := r.membersByUser.set (LobbyRoster.seated hold r.joinOrder role)
            joinOrder := r.joinOrder + 1
            hostUserId := r.hostUserId.or (some userId) },
          some (LobbyRoster.seated hold r.joinOrder role)) := by
  unfold claim
  split
  · exact Or.inl ⟨rfl, Fades.refl r⟩
  · rename_i hold found
    dsimp only
    split
    · exact Or.inl ⟨rfl, releaseHold_fades r userId⟩
    · exact Or.inr ⟨hold, found, rfl⟩

theorem claim_seated (seated : Seated r) (userId : ActorId) (now : Int) (role : PlayerRole) :
    Seated (r.claim userId now role).1 := by
  rcases claim_cases r userId now role with ⟨_, fades⟩ | ⟨hold, found, claimed⟩
  · exact fades.seated seated
  · obtain ⟨held, own⟩ := KeyedList.mem_of_get? found
    rw [claimed]
    refine ⟨?_, ?_, ?_, ?_, ?_, ?_, ?_⟩
    · intro m member
      rcases KeyedList.mem_set.mp member with rfl | ⟨old, _⟩
      · exact seated.holdSlot hold held
      · exact seated.slot m old
    · exact fun other member => seated.holdSlot other (KeyedList.mem_delete.mp member).1
    · intro m member n other equal
      rcases KeyedList.mem_set.mp member with rfl | ⟨oldM, _⟩
      · rcases KeyedList.mem_set.mp other with rfl | ⟨oldN, _⟩
        · rfl
        · exact absurd equal (seated.apart hold held n oldN)
      · rcases KeyedList.mem_set.mp other with rfl | ⟨oldN, _⟩
        · exact absurd equal.symm (seated.apart hold held m oldM)
        · exact seated.members m oldM n oldN equal
    · intro a first b second
      exact seated.holds a (KeyedList.mem_delete.mp first).1 b (KeyedList.mem_delete.mp second).1
    · intro other member m inside equal
      obtain ⟨old, differs⟩ := KeyedList.mem_delete.mp member
      rcases KeyedList.mem_set.mp inside with rfl | ⟨oldM, _⟩
      · have same := seated.holds other old hold held equal
        rw [same] at differs
        exact differs own
      · exact seated.apart other old m oldM equal
    · intro other member m inside
      obtain ⟨old, differs⟩ := KeyedList.mem_delete.mp member
      rcases KeyedList.mem_set.mp inside with rfl | ⟨oldM, _⟩
      · exact fun same => differs (same.trans own)
      · exact seated.strangers other old m oldM
    · intro m member
      rcases KeyedList.mem_set.mp member with rfl | ⟨old, _⟩
      · exact Nat.lt_succ_self _
      · exact Nat.lt_succ_of_lt (seated.order m old)

theorem moveSlot_seated (seated : Seated r) (userId : ActorId) (target : Nat) :
    Seated (r.moveSlot userId target).1 := by
  unfold moveSlot
  split
  · exact seated
  split
  · exact seated
  split
  · exact seated
  rename_i free
  obtain ⟨freeHolds, freeMembers⟩ := slotOccupied_eq_false (Bool.eq_false_iff.mpr free)
  let move (m : LobbyMember) : LobbyMember :=
    { m with slot := target, playerId := target, colorIndex := target - 1 }
  have moved : ∀ n ∈ (r.membersByUser.modify userId move fun _ => rfl).entries,
      ∃ m ∈ r.membersByUser.entries,
        m.userId = userId ∧ n = move m ∨ m.userId ≠ userId ∧ n = m :=
    fun n member => KeyedList.mem_modify.mp member
  refine ⟨?_, seated.holdSlot, ?_, seated.holds, ?_, ?_, ?_⟩
  · intro n member
    obtain ⟨m, before, ⟨_, rfl⟩ | ⟨_, rfl⟩⟩ := moved n member
    · rfl
    · exact seated.slot n before
  · intro n member p other equal
    obtain ⟨m, before, ⟨own, rfl⟩ | ⟨miss, rfl⟩⟩ := moved n member
    · obtain ⟨q, earlier, ⟨mine, rfl⟩ | ⟨foreign, rfl⟩⟩ := moved p other
      · rw [r.membersByUser.eq_of_key before earlier (own.trans mine.symm)]
      · exact absurd equal.symm (freeMembers p earlier fun same => foreign (Option.some.inj same))
    · obtain ⟨q, earlier, ⟨mine, rfl⟩ | ⟨foreign, rfl⟩⟩ := moved p other
      · exact absurd equal (freeMembers n before fun same => miss (Option.some.inj same))
      · exact seated.members n before p earlier equal
  · intro hold held n member
    obtain ⟨m, before, ⟨own, rfl⟩ | ⟨_, rfl⟩⟩ := moved n member
    · -- Nobody who has a seat also holds one, so the hold is not the mover's own.
      refine freeHolds hold held fun same => seated.strangers hold held m before ?_
      exact (Option.some.inj same).trans own.symm
    · exact seated.apart hold held n before
  · intro hold held n member
    obtain ⟨m, before, ⟨_, rfl⟩ | ⟨_, rfl⟩⟩ := moved n member
    · exact seated.strangers hold held m before
    · exact seated.strangers hold held n before
  · intro n member
    obtain ⟨m, before, ⟨_, rfl⟩ | ⟨_, rfl⟩⟩ := moved n member
    · exact seated.order m before
    · exact seated.order n before

end SwitchRemake.Rooms.LobbyRoster

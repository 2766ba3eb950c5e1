import SwitchRemake.Game.EffectMessages
import SwitchRemake.Simulation.Shuffle

/-!
# Two rosters of one lobby

Members with the same seats, whichever their sockets are. What is done to both keeps them the same.
-/

namespace SwitchRemake.Rooms
open Lib Simulation

/-- What a member takes along, and whether it is connected. -/
def seatOf (m : LobbyMember) : AdoptedRoomMember × Bool :=
  (Room.exportMember none m, m.connection.isSome)

namespace LobbyRoster

/-- The same lobby, whose sockets they may be, where everybody is connected. -/
structure SameLobby (r v : LobbyRoster) : Prop where
  capacity : v.capacity = r.capacity
  holds : v.holds = r.holds
  host : v.hostUserId = r.hostUserId
  seats : (v.membersByUser.entries.map seatOf).Perm (r.membersByUser.entries.map seatOf)
  orders : (r.membersByUser.entries.map LobbyMember.joinedOrder).Nodup
  connected : ∀ m ∈ r.membersByUser.entries, m.connection.isSome = true

variable {r v : LobbyRoster}

theorem map_sortById {α β : Type} (slot : β → Nat) (f : α → β) (xs : List α) :
    (sortById (slot ∘ f) xs).map f = sortById slot (xs.map f) :=
  List.map_insertionSort _ _ f xs fun _ _ _ _ => Iff.rfl

theorem SameLobby.members (same : SameLobby r v) : v.members.map seatOf = r.members.map seatOf := by
  have orders : ((r.membersByUser.entries.map seatOf).map fun seat => seat.1.joinedOrder).Nodup := by
    rw [List.map_map]
    exact same.orders
  have sorted (r : LobbyRoster) : r.members.map seatOf =
      sortById (fun seat => seat.1.joinedOrder) (r.membersByUser.entries.map seatOf) :=
    map_sortById (fun seat : AdoptedRoomMember × Bool => seat.1.joinedOrder) seatOf _
  rw [sorted v, sorted r, sortById_eq same.seats orders]

/-- What one of two same lobbies has a member for, the other has one for. -/
theorem SameLobby.any (same : SameLobby r v) (p : AdoptedRoomMember × Bool → Bool) :
    (v.membersByUser.entries.any fun m => p (seatOf m)) =
      r.membersByUser.entries.any fun m => p (seatOf m) := by
  have each (r : LobbyRoster) : (r.membersByUser.entries.any fun m => p (seatOf m)) =
      (r.membersByUser.entries.map seatOf).any p := by
    rw [List.any_map]
    rfl
  rw [each v, each r, Bool.eq_iff_iff, List.any_eq_true, List.any_eq_true]
  exact ⟨fun ⟨seat, inside, has⟩ => ⟨seat, same.seats.mem_iff.mp inside, has⟩,
    fun ⟨seat, inside, has⟩ => ⟨seat, same.seats.mem_iff.mpr inside, has⟩⟩

theorem SameLobby.has (same : SameLobby r v) (userId : ActorId) :
    v.membersByUser.has userId = r.membersByUser.has userId :=
  same.any fun seat => seat.1.userId = userId

theorem SameLobby.slotOccupied (same : SameLobby r v) (slot : Nat) (except : Option ActorId) :
    v.slotOccupied slot except = r.slotOccupied slot except := by
  unfold LobbyRoster.slotOccupied
  rw [same.holds]
  exact congrArg (_ || ·) (same.any fun seat => some seat.1.userId ≠ except ∧ seat.1.slot = slot)

theorem SameLobby.find (same : SameLobby r v) (playerId : Nat) :
    (v.getByPlayerId playerId).map seatOf = (r.getByPlayerId playerId).map seatOf := by
  have each (r : LobbyRoster) : (r.getByPlayerId playerId).map seatOf =
      (r.members.map seatOf).find? fun seat => seat.1.playerId = playerId := by
    rw [List.find?_map]
    rfl
  rw [each v, each r, same.members]

/-! ## What is done to both -/

theorem SameLobby.hold (same : SameLobby r v) (reservation : SeatReservation) (blocked : List Nat) :
    (v.hold reservation blocked).2 = (r.hold reservation blocked).2 ∧
      SameLobby (r.hold reservation blocked).1 (v.hold reservation blocked).1 := by
  have known : v.hasUser reservation.userId = r.hasUser reservation.userId := by
    unfold hasUser
    rw [same.has, same.holds]
  have free : v.firstFreeSeat blocked = r.firstFreeSeat blocked := by
    unfold firstFreeSeat
    simp only [same.capacity, same.slotOccupied]
  unfold LobbyRoster.hold
  rw [known, free]
  split
  · exact ⟨rfl, same⟩
  · cases r.firstFreeSeat blocked with
    | none => exact ⟨rfl, same⟩
    | some seat => exact ⟨rfl, { same with holds := by rw [same.holds] }⟩

theorem SameLobby.passHost (same : SameLobby r v) (requester : ActorId) (playerId : Nat) :
    (v.passHost requester playerId).2 = (r.passHost requester playerId).2 ∧
      SameLobby (r.passHost requester playerId).1 (v.passHost requester playerId).1 := by
  have found := same.find playerId
  unfold LobbyRoster.passHost
  rw [same.host]
  split
  · exact ⟨rfl, same⟩
  · cases here : r.getByPlayerId playerId with
    | none =>
      rw [here, Option.map_none, Option.map_eq_none_iff] at found
      rw [found]
      exact ⟨rfl, same⟩
    | some m =>
      rw [here, Option.map_some, Option.map_eq_some_iff] at found
      obtain ⟨n, there, seat⟩ := found
      rw [there]
      exact ⟨rfl, { same with host := congrArg (fun seat => some seat.1.userId) seat }⟩

theorem SameLobby.clearHolds (same : SameLobby r v) : SameLobby r.clearHolds v.clearHolds :=
  { same with holds := rfl }

theorem SameLobby.moveSlot (same : SameLobby r v) (userId : ActorId) (target : Nat) :
    (v.moveSlot userId target).2 = (r.moveSlot userId target).2 ∧
      SameLobby (r.moveSlot userId target).1 (v.moveSlot userId target).1 := by
  unfold LobbyRoster.moveSlot
  rw [same.has, same.capacity, same.slotOccupied]
  split
  · exact ⟨rfl, same⟩
  · split
    · exact ⟨rfl, same⟩
    · split
      · exact ⟨rfl, same⟩
      · let move (seat : AdoptedRoomMember × Bool) : AdoptedRoomMember × Bool :=
          if seat.1.userId = userId then
            ({ seat.1 with slot := target, playerId := target, colorIndex := target - 1 }, seat.2)
          else seat
        have moved (r : LobbyRoster) : ((r.update userId (fun m =>
            { m with slot := target, playerId := target, colorIndex := target - 1 })
            fun _ => rfl).membersByUser.entries.map seatOf) =
            (r.membersByUser.entries.map seatOf).map move := by
          unfold update KeyedList.modify KeyedList.mapEntries
          dsimp only
          rw [List.map_map, List.map_map]
          refine List.map_congr_left fun m _ => ?_
          by_cases own : m.userId = userId
          · simp [move, seatOf, Room.exportMember, own]
          · simp [move, seatOf, Room.exportMember, own]
        refine ⟨rfl, ⟨same.capacity, same.holds, same.host, ?_, ?_, ?_⟩⟩
        · rw [moved v, moved r]
          exact same.seats.map move
        · have orders : ∀ m : LobbyMember, (if m.userId = userId then
              ({ m with slot := target, playerId := target, colorIndex := target - 1 } : LobbyMember)
              else m).joinedOrder = m.joinedOrder := by
            intro m
            split <;> rfl
          unfold update KeyedList.modify KeyedList.mapEntries
          dsimp only
          rw [List.map_map]
          simpa [Function.comp_def, orders] using same.orders
        · intro m inside
          unfold update KeyedList.modify KeyedList.mapEntries at inside
          obtain ⟨n, there, rfl⟩ := List.mem_map.mp inside
          split <;> exact same.connected n there

theorem SameLobby.purgeExpiredHolds (same : SameLobby r v) (now : Int) :
    SameLobby (r.purgeExpiredHolds now) (v.purgeExpiredHolds now) := by
  have holds : (v.purgeExpiredHolds now).holds = (r.purgeExpiredHolds now).holds := by
    unfold LobbyRoster.purgeExpiredHolds
    rw [same.holds]
  exact { same with holds }

/-- Whoever is connected in the one is connected in the other. -/
theorem SameLobby.connected' (same : SameLobby r v) :
    ∀ m ∈ v.membersByUser.entries, m.connection.isSome = true := by
  intro m inside
  have there := same.seats.mem_iff.mp (List.mem_map_of_mem (f := seatOf) inside)
  obtain ⟨n, listed, seat⟩ := List.mem_map.mp there
  exact (congrArg Prod.snd seat).symm.trans (same.connected n listed)

theorem SameLobby.updateAll (same : SameLobby r v) {f g : LobbyMember → LobbyMember}
    (keeps : ∀ m, (f m).userId = m.userId) (keeps' : ∀ m, (g m).userId = m.userId)
    (here : ∀ m, seatOf (f m) = seatOf m) (there : ∀ m, seatOf (g m) = seatOf m) :
    SameLobby (r.updateAll f keeps) (v.updateAll g keeps') := by
  have seats (r : LobbyRoster) {f : LobbyMember → LobbyMember}
      (keeps : ∀ m, (f m).userId = m.userId) (own : ∀ m, seatOf (f m) = seatOf m) :
      (r.updateAll f keeps).membersByUser.entries.map seatOf =
        r.membersByUser.entries.map seatOf := by
    unfold LobbyRoster.updateAll KeyedList.mapEntries
    dsimp only
    rw [List.map_map]
    exact List.map_congr_left fun m _ => own m
  refine ⟨same.capacity, same.holds, same.host, ?_, ?_, ?_⟩
  · rw [seats v keeps' there, seats r keeps here]
    exact same.seats
  · have orders := congrArg (List.map fun seat : AdoptedRoomMember × Bool => seat.1.joinedOrder)
      (seats r keeps here)
    rw [List.map_map, List.map_map] at orders
    exact (congrArg List.Nodup orders).mpr same.orders
  · intro m inside
    obtain ⟨n, listed, rfl⟩ := List.mem_map.mp inside
    exact (congrArg Prod.snd (here n)).trans (same.connected n listed)

theorem SameLobby.size (same : SameLobby r v) : v.size = r.size := by
  have length := same.seats.length_eq
  rwa [List.length_map, List.length_map] at length

theorem SameLobby.occupiedSize (same : SameLobby r v) : v.occupiedSize = r.occupiedSize := by
  have size := same.size
  unfold LobbyRoster.size at size
  unfold LobbyRoster.occupiedSize
  rw [same.holds, size]

/-- The next host is the same, too. -/
theorem SameLobby.remove (same : SameLobby r v) (userId : ActorId) :
    ((v.remove userId).2.map seatOf) = ((r.remove userId).2.map seatOf) ∧
      SameLobby (r.remove userId).1 (v.remove userId).1 := by
  have deleted (r : LobbyRoster) : (r.membersByUser.delete userId).entries.map seatOf =
      (r.membersByUser.entries.map seatOf).filter fun seat => seat.1.userId ≠ userId := by
    rw [List.filter_map]
    rfl
  have found : (v.membersByUser.get? userId).map seatOf = (r.membersByUser.get? userId).map seatOf := by
    have each (r : LobbyRoster) : (r.membersByUser.get? userId).map seatOf =
        (r.membersByUser.entries.map seatOf).find? fun seat => seat.1.userId = userId := by
      rw [List.find?_map]
      rfl
    have own (r : LobbyRoster) : ((r.membersByUser.entries.map seatOf).map
        fun seat => seat.1.userId).Nodup := by
      rw [List.map_map]
      exact r.membersByUser.distinct
    rw [each v, each r]
    refine find?_perm same.seats fun a first b second mine yours => ?_
    exact List.inj_on_of_nodup_map (own r) first second
      ((of_decide_eq_true mine).trans (of_decide_eq_true yours).symm)
  have left : SameLobby { r with membersByUser := r.membersByUser.delete userId }
      { v with membersByUser := v.membersByUser.delete userId } := by
    refine ⟨same.capacity, same.holds, same.host, ?_, ?_, ?_⟩
    · rw [deleted v, deleted r]
      exact same.seats.filter _
    · exact same.orders.sublist (List.filter_sublist.map _)
    · exact fun m inside => same.connected m (List.mem_of_mem_filter inside)
  unfold LobbyRoster.remove
  cases here : r.membersByUser.get? userId with
  | none =>
    rw [here, Option.map_none, Option.map_eq_none_iff] at found
    rw [found]
    exact ⟨rfl, same⟩
  | some m =>
    rw [here, Option.map_some, Option.map_eq_some_iff] at found
    obtain ⟨n, there, seat⟩ := found
    rw [there]
    refine ⟨congrArg some seat, ?_⟩
    dsimp only
    by_cases led : r.hostUserId = some userId
    · have heads (r : LobbyRoster) : r.members.head?.map LobbyMember.userId =
          (r.members.map seatOf).head?.map fun seat => seat.1.userId := by
        rw [List.head?_map, Option.map_map]
        rfl
      rw [if_pos led, if_pos (same.host.trans led)]
      refine { left with host := ?_ }
      dsimp only
      rw [heads, heads, left.members]
    · rw [if_neg led, if_neg (by rwa [same.host])]
      exact left

end LobbyRoster

end SwitchRemake.Rooms

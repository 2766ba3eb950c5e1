import SwitchRemake.Game.SameLobby
import SwitchRemake.Rooms.Housing

/-!
# The seats that a room exports

They stay while sockets come and go, and an adopted room has them again.
-/

namespace SwitchRemake.Rooms
open Lib Simulation LobbyRoster

/-- The same room, but for the sockets of its members. -/
structure SameSeats (r v : Room) : Prop where
  room : v = { r with roster := v.roster }
  capacity : v.roster.capacity = r.roster.capacity
  holds : v.roster.holds = r.roster.holds
  host : v.roster.hostUserId = r.roster.hostUserId
  seats : v.roster.membersByUser.entries.map (Room.exportMember none) =
    r.roster.membersByUser.entries.map (Room.exportMember none)

/-- Equal seats have the same host, in whatever order they are kept. -/
theorem hostId_perm {r v : LobbyRoster} (host : v.hostUserId = r.hostUserId)
    (seats : (v.membersByUser.entries.map (Room.exportMember none)).Perm
      (r.membersByUser.entries.map (Room.exportMember none))) : v.hostId = r.hostId := by
  have found (r : LobbyRoster) (userId : ActorId) : (r.getByUser userId).map LobbyMember.playerId =
      ((r.membersByUser.entries.map (Room.exportMember none)).find? fun m =>
        m.userId = userId).map AdoptedRoomMember.playerId := by
    rw [List.find?_map, Option.map_map]
    rfl
  have distinct : ((r.membersByUser.entries.map (Room.exportMember none)).map
      AdoptedRoomMember.userId).Nodup := by
    rw [List.map_map]
    exact r.membersByUser.distinct
  have same (userId : ActorId) : ((v.membersByUser.entries.map (Room.exportMember none)).find? fun m =>
      m.userId = userId) = (r.membersByUser.entries.map (Room.exportMember none)).find? fun m =>
        m.userId = userId :=
    find?_perm seats fun a first b second mine yours => List.inj_on_of_nodup_map distinct first second
      ((of_decide_eq_true mine).trans (of_decide_eq_true yours).symm)
  unfold LobbyRoster.hostId
  simp only [found, host, same]

/-- What is exported of the members. -/
theorem exported_members (r : LobbyRoster) : r.members.map (Room.exportMember r.hostId) =
    (sortById AdoptedRoomMember.joinedOrder
      (r.membersByUser.entries.map (Room.exportMember none))).map fun m =>
        { m with isHost := some m.playerId = r.hostId } := by
  rw [← map_sortById AdoptedRoomMember.joinedOrder (Room.exportMember none), List.map_map]
  rfl

namespace SameSeats
variable {r v w : Room}

theorem refl (r : Room) : SameSeats r r := ⟨rfl, rfl, rfl, rfl, rfl⟩

theorem trans (first : SameSeats r v) (second : SameSeats v w) : SameSeats r w where
  room := by
    rw [second.room, first.room]
  capacity := second.capacity.trans first.capacity
  holds := second.holds.trans first.holds
  host := second.host.trans first.host
  seats := second.seats.trans first.seats

theorem state (same : SameSeats r v) : v.state = r.state := by
  rw [same.room]

theorem updateAll (r : Room) {f : LobbyMember → LobbyMember} (keeps : ∀ m, (f m).userId = m.userId)
    (own : ∀ m, Room.exportMember none (f m) = Room.exportMember none m) :
    SameSeats r { r with roster := r.roster.updateAll f keeps } := by
  refine ⟨rfl, rfl, rfl, rfl, ?_⟩
  unfold LobbyRoster.updateAll KeyedList.mapEntries
  dsimp only
  rw [List.map_map]
  exact List.map_congr_left fun m _ => own m

theorem updateMember (r : Room) (userId : ActorId) {f : LobbyMember → LobbyMember}
    (keeps : ∀ m, (f m).userId = m.userId)
    (own : ∀ m, Room.exportMember none (f m) = Room.exportMember none m) :
    SameSeats r (r.updateMember userId f keeps) := by
  refine updateAll r (f := fun m => if m.userId = userId then f m else m) (fun m => ?_) fun m => ?_
  · split
    · exact keeps m
    · rfl
  · split
    · exact own m
    · rfl

theorem exportForHandOff (same : SameSeats r v) : v.exportForHandOff = r.exportForHandOff := by
  have members : v.members.map (Room.exportMember v.roster.hostId) =
      r.members.map (Room.exportMember r.roster.hostId) := by
    rw [Room.members, Room.members, exported_members, exported_members, same.seats,
      hostId_perm same.host (.of_eq same.seats)]
  unfold Room.exportForHandOff
  rw [members, same.capacity]
  rw [same.room]

theorem admitReservation (same : r.roster.holds.entries = []) (now : Int)
    (reservation : SeatReservation) : SameSeats r (r.admitReservation now reservation).1 := by
  have free : r.roster.heldSeat reservation.userId = none := by
    unfold LobbyRoster.heldSeat KeyedList.get?
    rw [same]
    rfl
  unfold Room.admitReservation
  split
  · exact refl r
  split
  · split
    · exact refl r
    · split
      · exact refl r
      · exact updateMember r _ _ fun _ => rfl
  split
  · exact refl r
  · rw [free]
    exact refl r

theorem bindConnection (r : Room) (now : Int) (connection : Connection) :
    SameSeats r (r.bindConnection now connection).1 := by
  unfold Room.bindConnection
  split
  · exact refl r
  · split
    · exact refl r
    · split
      · exact refl r
      · exact updateMember r _ _ fun _ => rfl

theorem refreshHandOffGrace (r : Room) (now : Int) : SameSeats r (r.refreshHandOffGrace now) :=
  updateAll r _ fun m => by split <;> rfl

end SameSeats
end SwitchRemake.Rooms

/-! ## The adopted room -/

namespace SwitchRemake.Rooms.LobbyRoster
open Lib Simulation

variable {r : LobbyRoster}

/-- The host of an adopted room is the one whom the payload says. -/
theorem adoptAll_host {members : List AdoptedRoomMember} (userId : ActorId)
    (host : ∀ m ∈ members, m.isHost = true → m.userId = userId) (r : LobbyRoster) (until_ : Int) :
    (r.adoptAll members until_).hostUserId =
      if members.any AdoptedRoomMember.isHost then some userId else r.hostUserId := by
  induction members generalizing r with
  | nil => rfl
  | cons m rest ih =>
    have later := ih (fun n inside => host n (List.mem_cons_of_mem m inside)) (r.adopt m until_)
    have now_ : (r.adopt m until_).hostUserId = if m.isHost then some userId else r.hostUserId := by
      by_cases leads : m.isHost = true
      · show (if m.isHost then some m.userId else r.hostUserId) = _
        rw [host m List.mem_cons_self leads]
      · show (if m.isHost then some m.userId else r.hostUserId) = _
        rw [if_neg leads, if_neg leads]
    rw [show r.adoptAll (m :: rest) until_ = (r.adopt m until_).adoptAll rest until_ from rfl, later,
      now_, List.any_cons]
    cases m.isHost <;> simp

/-- Somebody's seat is the host's if and only if it is the host. -/
theorem isHost_exported (housed : Housed r) {m : LobbyMember}
    (inside : m ∈ r.membersByUser.entries) :
    (Room.exportMember r.hostId m).isHost = true ↔ r.hostUserId = some m.userId := by
  have here : (Room.exportMember r.hostId m).isHost = true ↔ some m.playerId = r.hostId :=
    decide_eq_true_iff
  rw [here]
  constructor
  · intro seat
    unfold hostId at seat
    cases host : r.hostUserId with
    | none =>
      rw [host] at seat
      cases seat
    | some userId =>
      rw [host, Option.bind_some] at seat
      obtain ⟨n, found, number⟩ := Option.map_eq_some_iff.mp seat.symm
      obtain ⟨listed, own⟩ := KeyedList.mem_of_get? found
      have same : n = m := by
        refine housed.members n listed m inside ?_
        rw [← housed.slot n listed, ← housed.slot m inside]
        exact number
      rw [← own, same]
  · intro host
    have found : r.getByUser m.userId = some m := KeyedList.get?_of_mem inside
    unfold hostId
    rw [host, Option.bind_some, found]
    rfl

/-- The seats of an adopted room. -/
structure AdoptedSeats (r v : LobbyRoster) : Prop where
  capacity : v.capacity = r.capacity
  holds : v.holds.entries = []
  host : v.hostUserId = r.hostUserId
  seats : v.membersByUser.entries.map (Room.exportMember none) =
    r.members.map (Room.exportMember none)

theorem adoptAll_seats (housed : Housed r) (members : r.membersByUser.entries ≠ []) (until_ : Int) :
    AdoptedSeats r ((empty r.capacity).adoptAll (r.members.map (Room.exportMember r.hostId)) until_) := by
  have users : ((r.members.map (Room.exportMember r.hostId)).map AdoptedRoomMember.userId).Nodup := by
    rw [List.map_map]
    exact ((sortById_perm LobbyMember.joinedOrder _).map LobbyMember.userId).nodup_iff.mpr
      r.membersByUser.distinct
  have spec := adoptAll_spec (r := empty r.capacity) until_
    (fun m _ => by simp [empty, KeyedList.empty, KeyedList.has]) users
  obtain ⟨userId, host⟩ :=
    Option.ne_none_iff_exists'.mp fun free => members (housed.hosted.somebody free)
  obtain ⟨m, inside, own⟩ := KeyedList.has_iff.mp (housed.hosted.present userId host)
  refine ⟨spec.capacity, by rw [spec.holds]; rfl, ?_, ?_⟩
  · rw [adoptAll_host userId ?_, if_pos, host]
    · refine List.any_eq_true.mpr ⟨_, List.mem_map_of_mem (mem_members.mpr inside), ?_⟩
      rw [isHost_exported housed inside, host, own]
    · intro n listed leads
      obtain ⟨p, there, rfl⟩ := List.mem_map.mp listed
      rw [isHost_exported housed (mem_members.mp there), host] at leads
      exact (Option.some.inj leads).symm
  · rw [spec.entries, show (empty r.capacity).membersByUser.entries = [] from rfl, List.nil_append,
      List.map_map, List.map_map]
    rfl

theorem AdoptedSeats.exported {v : LobbyRoster} (adopted : AdoptedSeats r v) (housed : Housed r) :
    v.members.map (Room.exportMember v.hostId) = r.members.map (Room.exportMember r.hostId) := by
  have seats : (v.membersByUser.entries.map (Room.exportMember none)).Perm
      (r.membersByUser.entries.map (Room.exportMember none)) := by
    rw [adopted.seats]
    exact (sortById_perm LobbyMember.joinedOrder _).map _
  have orders : ((r.membersByUser.entries.map (Room.exportMember none)).map
      AdoptedRoomMember.joinedOrder).Nodup := by
    rw [List.map_map]
    exact housed.numbered.orders
  rw [exported_members v, exported_members r, hostId_perm adopted.host seats,
    sortById_eq seats orders]

end SwitchRemake.Rooms.LobbyRoster

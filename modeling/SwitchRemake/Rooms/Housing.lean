import SwitchRemake.Rooms.Seats
import SwitchRemake.Rooms.Room

/-!
# The roster as a whole

Seats in the room, numbers, order and host, under every operation of the roster.
-/

namespace SwitchRemake.Rooms.LobbyRoster
open Lib Simulation

/-- Somebody is host whenever somebody is here. -/
structure Hosted (r : LobbyRoster) : Prop where
  present : ∀ userId, r.hostUserId = some userId → r.membersByUser.has userId = true
  somebody : r.hostUserId = none → r.membersByUser.entries = []

structure Housed (r : LobbyRoster) : Prop extends Seated r where
  bounds : 1 ≤ r.capacity ∧ r.capacity ≤ maxPlayersPerRoom
  range : ∀ m ∈ r.membersByUser.entries, 1 ≤ m.slot ∧ m.slot ≤ r.capacity
  holdRange : ∀ hold ∈ r.holds.entries, 1 ≤ hold.slot ∧ hold.slot ≤ r.capacity
  color : ∀ m ∈ r.membersByUser.entries, m.colorIndex + 1 = m.slot
  orders : ∀ m ∈ r.membersByUser.entries, ∀ n ∈ r.membersByUser.entries,
    m.joinedOrder = n.joinedOrder → m = n
  hosted : Hosted r

/-- What the claims about seats say of a roster. -/
structure Numbered (r : LobbyRoster) : Prop where
  distinct : (r.holds.entries.map SeatHold.slot ++ r.membersByUser.entries.map LobbyMember.slot).Nodup
  range : ∀ slot ∈ r.holds.entries.map SeatHold.slot ++ r.membersByUser.entries.map LobbyMember.slot,
    1 ≤ slot ∧ slot ≤ min r.capacity maxPlayersPerRoom
  number : ∀ m ∈ r.membersByUser.entries, m.playerId = m.slot ∧ m.slot = m.colorIndex + 1
  strangers : ∀ hold ∈ r.holds.entries, r.membersByUser.has hold.userId = false
  orders : (r.membersByUser.entries.map LobbyMember.joinedOrder).Nodup
  host : r.membersByUser.entries ≠ [] →
    ∃ m ∈ r.membersByUser.entries, r.isHost m.userId = true ∧
      ∀ n ∈ r.membersByUser.entries, r.isHost n.userId = true → n = m

variable {r v w : LobbyRoster}

theorem entries_nodup {α κ : Type} {key : α → κ} [DecidableEq κ] (xs : KeyedList key) :
    xs.entries.Nodup :=
  List.Nodup.of_map _ xs.distinct

theorem Housed.numbered (housed : Housed r) : Numbered r where
  distinct := by
    rw [List.nodup_append]
    refine ⟨?_, ?_, ?_⟩
    · exact (entries_nodup r.holds).map_on fun a first b second => housed.holds a first b second
    · exact (entries_nodup r.membersByUser).map_on fun m first n second =>
        housed.members m first n second
    · intro slot held other sits same
      obtain ⟨hold, inside, rfl⟩ := List.mem_map.mp held
      obtain ⟨m, member, rfl⟩ := List.mem_map.mp sits
      exact housed.apart hold inside m member same
  range slot mem := by
    have most := housed.bounds.2
    rcases List.mem_append.mp mem with held | sits
    · obtain ⟨hold, inside, rfl⟩ := List.mem_map.mp held
      have range := housed.holdRange hold inside
      exact ⟨range.1, le_min range.2 (range.2.trans most)⟩
    · obtain ⟨m, member, rfl⟩ := List.mem_map.mp sits
      have range := housed.range m member
      exact ⟨range.1, le_min range.2 (range.2.trans most)⟩
  number m member := ⟨housed.slot m member, (housed.color m member).symm⟩
  strangers hold held := by
    refine Bool.eq_false_iff.mpr fun known => ?_
    obtain ⟨m, member, same⟩ := KeyedList.has_iff.mp known
    exact housed.strangers hold held m member same.symm
  orders := (entries_nodup r.membersByUser).map_on fun m first n second =>
    housed.orders m first n second
  host someone := by
    obtain ⟨userId, host⟩ :=
      Option.ne_none_iff_exists'.mp fun nobody => someone (housed.hosted.somebody nobody)
    obtain ⟨m, member, own⟩ := KeyedList.has_iff.mp (housed.hosted.present userId host)
    refine ⟨m, member, by simp [isHost, host, own], fun n other leads => ?_⟩
    have same : userId = n.userId := by simpa [isHost, host] using leads
    exact r.membersByUser.eq_of_key other member (same.symm.trans own.symm)

/-! ## Operations that give no seat -/

/-- The same place and colour. -/
structure SameNumber (m n : LobbyMember) : Prop extends SamePlace m n where
  colorIndex : n.colorIndex = m.colorIndex

theorem SameNumber.refl (m : LobbyMember) : SameNumber m m := ⟨⟨rfl, rfl, rfl, rfl⟩, rfl⟩

/-- Nobody is new and nobody has moved, and the host is one of those who are left. -/
structure Tame (r v : LobbyRoster) : Prop where
  capacity : v.capacity = r.capacity
  member : ∀ n ∈ v.membersByUser.entries, ∃ m ∈ r.membersByUser.entries, SameNumber m n
  hold : ∀ hold ∈ v.holds.entries, hold ∈ r.holds.entries
  joinOrder : v.joinOrder = r.joinOrder
  hosted : Hosted r → Hosted v

theorem Tame.refl (r : LobbyRoster) : Tame r r :=
  ⟨rfl, fun m member => ⟨m, member, SameNumber.refl m⟩, fun _ member => member, rfl, id⟩

theorem Tame.trans (first : Tame r v) (second : Tame v w) : Tame r w := by
  refine ⟨second.capacity.trans first.capacity, fun p member => ?_,
    fun hold member => first.hold hold (second.hold hold member),
    second.joinOrder.trans first.joinOrder, fun hosted => second.hosted (first.hosted hosted)⟩
  obtain ⟨n, middle, later⟩ := second.member p member
  obtain ⟨m, before, earlier⟩ := first.member n middle
  exact ⟨m, before,
    ⟨⟨later.userId.trans earlier.userId, later.playerId.trans earlier.playerId,
      later.slot.trans earlier.slot, later.joinedOrder.trans earlier.joinedOrder⟩,
      later.colorIndex.trans earlier.colorIndex⟩⟩

theorem Tame.thins (tame : Tame r v) : Thins r v := by
  refine ⟨fun n member => ?_, tame.hold, tame.joinOrder⟩
  obtain ⟨m, before, same⟩ := tame.member n member
  exact ⟨m, before, same.toSamePlace⟩

theorem Tame.housed (tame : Tame r v) (housed : Housed r) : Housed v where
  toSeated := tame.thins.seated housed.toSeated
  bounds := by
    rw [tame.capacity]
    exact housed.bounds
  range n member := by
    obtain ⟨m, before, same⟩ := tame.member n member
    rw [same.slot, tame.capacity]
    exact housed.range m before
  holdRange hold member := by
    rw [tame.capacity]
    exact housed.holdRange hold (tame.hold hold member)
  color n member := by
    obtain ⟨m, before, same⟩ := tame.member n member
    rw [same.slot, same.colorIndex]
    exact housed.color m before
  orders n member p other equal := by
    obtain ⟨m, before, same⟩ := tame.member n member
    obtain ⟨q, earlier, alike⟩ := tame.member p other
    have one : m = q := by
      apply housed.orders m before q earlier
      rw [← same.joinedOrder, ← alike.joinedOrder]
      exact equal
    apply v.membersByUser.eq_of_key member other
    rw [same.userId, alike.userId, one]
  hosted := tame.hosted housed.hosted

/-- Only the holds change, and become fewer. -/
theorem fewerHolds_tame (r : LobbyRoster) {holds : KeyedList SeatHold.userId}
    (fewer : ∀ hold ∈ holds.entries, hold ∈ r.holds.entries) : Tame r { r with holds } :=
  ⟨rfl, fun m member => ⟨m, member, SameNumber.refl m⟩, fewer, rfl,
    fun hosted => ⟨hosted.present, hosted.somebody⟩⟩

theorem releaseHold_tame (r : LobbyRoster) (userId : ActorId) : Tame r (r.releaseHold userId).1 :=
  fewerHolds_tame r fun _ member => (KeyedList.mem_delete.mp member).1

theorem clearHolds_tame (r : LobbyRoster) : Tame r r.clearHolds := fewerHolds_tame r nofun

theorem purgeExpiredHolds_tame (r : LobbyRoster) (now : Int) : Tame r (r.purgeExpiredHolds now) :=
  fewerHolds_tame r fun _ member => (KeyedList.mem_filter.mp member).1

theorem updateAll_tame (r : LobbyRoster) {f : LobbyMember → LobbyMember}
    (keeps : ∀ m, (f m).userId = m.userId) (same : ∀ m, SameNumber m (f m)) :
    Tame r (r.updateAll f keeps) := by
  refine ⟨rfl, fun n member => ?_, fun _ member => member, rfl, fun hosted => ⟨?_, ?_⟩⟩
  · obtain ⟨m, before, rfl⟩ := mem_updateAll.mp member
    exact ⟨m, before, same m⟩
  · intro userId host
    obtain ⟨m, member, own⟩ := KeyedList.has_iff.mp (hosted.present userId host)
    exact KeyedList.has_iff.mpr ⟨f m, mem_updateAll.mpr ⟨m, member, rfl⟩, (keeps m).trans own⟩
  · intro nobody
    have empty := hosted.somebody nobody
    refine List.eq_nil_iff_forall_not_mem.mpr fun n member => ?_
    obtain ⟨m, before, -⟩ := mem_updateAll.mp member
    rw [empty] at before
    cases before

theorem update_tame (r : LobbyRoster) (userId : ActorId) {f : LobbyMember → LobbyMember}
    (keeps : ∀ m, (f m).userId = m.userId) (same : ∀ m, SameNumber m (f m)) :
    Tame r (r.update userId f keeps) := by
  have all := updateAll_tame r (f := fun m => if m.userId = userId then f m else m)
    (fun m => by split <;> simp [keeps]) fun m => by
      split
      · exact same m
      · exact SameNumber.refl m
  exact all

theorem passHost_tame (r : LobbyRoster) (requester : ActorId) (playerId : Nat) :
    Tame r (r.passHost requester playerId).1 := by
  unfold passHost
  split
  · exact Tame.refl r
  · split
    · exact Tame.refl r
    · rename_i target found
      refine ⟨rfl, fun m member => ⟨m, member, SameNumber.refl m⟩, fun _ member => member, rfl,
        fun _ => ⟨fun userId host => ?_, nofun⟩⟩
      obtain ⟨member, -⟩ := getByPlayerId_some found
      exact KeyedList.has_iff.mpr ⟨target, member, Option.some.inj host⟩

theorem remove_tame (r : LobbyRoster) (userId : ActorId) : Tame r (r.remove userId).1 := by
  unfold remove
  cases found : r.membersByUser.get? userId with
  | none => exact Tame.refl r
  | some member =>
    dsimp only
    have left : ∀ m ∈ (r.membersByUser.delete userId).entries, m ∈ r.membersByUser.entries :=
      fun m inside => (KeyedList.mem_delete.mp inside).1
    split
    · refine ⟨rfl, fun m inside => ⟨m, left m inside, SameNumber.refl m⟩, fun _ inside => inside, rfl,
        fun _ => ⟨fun other host => ?_, fun nobody => ?_⟩⟩
      · obtain ⟨first, head, rfl⟩ := Option.map_eq_some_iff.mp host
        have inside := mem_members.mp (List.mem_of_head? head)
        exact KeyedList.has_iff.mpr ⟨first, inside, rfl⟩
      · have none_left := List.head?_eq_none_iff.mp (Option.map_eq_none_iff.mp nobody)
        refine List.eq_nil_iff_forall_not_mem.mpr fun m inside => ?_
        have listed := (mem_members (r := { r with membersByUser := r.membersByUser.delete userId })).mpr inside
        rw [none_left] at listed
        cases listed
    · rename_i follows
      refine ⟨rfl, fun m inside => ⟨m, left m inside, SameNumber.refl m⟩, fun _ inside => inside, rfl,
        fun hosted => ⟨fun other host => ?_, fun nobody => ?_⟩⟩
      · obtain ⟨m, inside, own⟩ := KeyedList.has_iff.mp (hosted.present other host)
        refine KeyedList.has_iff.mpr ⟨m, KeyedList.mem_delete.mpr ⟨inside, ?_⟩, own⟩
        rintro same
        exact follows (host.trans (congrArg some (own.symm.trans same)))
      · have empty := hosted.somebody nobody
        refine List.eq_nil_iff_forall_not_mem.mpr fun m inside => ?_
        have before := left m inside
        rw [empty] at before
        cases before

/-! ## Operations that give or move a seat -/

theorem hold_housed (housed : Housed r) (reservation : SeatReservation) (blocked : List Nat) :
    Housed (r.hold reservation blocked).1 := by
  have seated := hold_seated housed.toSeated reservation blocked
  rcases hold_cases r reservation blocked with ⟨_, refused⟩ | ⟨seat, _, found, held⟩
  · rw [refused]
    exact housed
  · rw [held] at seated ⊢
    obtain ⟨-, least, most, -⟩ := firstFreeSeat_some found
    refine { housed with toSeated := seated, holdRange := fun hold member => ?_, hosted := ?_ }
    · rcases KeyedList.mem_set.mp member with rfl | ⟨old, _⟩
      · exact ⟨least, most⟩
      · exact housed.holdRange hold old
    · exact ⟨housed.hosted.present, housed.hosted.somebody⟩

theorem claim_tame_of_none {userId : ActorId} {now : Int} {role : PlayerRole}
    (nobody : (r.claim userId now role).2 = none) : Tame r (r.claim userId now role).1 := by
  unfold claim at nobody ⊢
  split at nobody
  · exact Tame.refl r
  · dsimp only at nobody ⊢
    split at nobody
    · rename_i expired
      rw [if_pos expired]
      exact releaseHold_tame r userId
    · cases nobody

theorem claim_housed (housed : Housed r) (userId : ActorId) (now : Int) (role : PlayerRole) :
    Housed (r.claim userId now role).1 := by
  have seated := claim_seated housed.toSeated userId now role
  rcases claim_cases r userId now role with ⟨nobody, _⟩ | ⟨hold, found, claimed⟩
  · exact (claim_tame_of_none nobody).housed housed
  · obtain ⟨held, own⟩ := KeyedList.mem_of_get? found
    have numbers := housed.holdSlot hold held
    have range := housed.holdRange hold held
    rw [claimed] at seated ⊢
    refine ⟨seated, housed.bounds, ?_, ?_, ?_, ?_, ⟨?_, ?_⟩⟩
    · intro m member
      rcases KeyedList.mem_set.mp member with rfl | ⟨old, _⟩
      · exact range
      · exact housed.range m old
    · exact fun other member => housed.holdRange other (KeyedList.mem_delete.mp member).1
    · intro m member
      rcases KeyedList.mem_set.mp member with rfl | ⟨old, _⟩
      · show hold.playerId - 1 + 1 = hold.slot
        rw [numbers]
        exact Nat.sub_add_cancel range.1
      · exact housed.color m old
    · intro m member n other equal
      rcases KeyedList.mem_set.mp member with rfl | ⟨oldM, _⟩
      · rcases KeyedList.mem_set.mp other with rfl | ⟨oldN, _⟩
        · rfl
        · exact absurd equal (housed.order n oldN).ne'
      · rcases KeyedList.mem_set.mp other with rfl | ⟨oldN, _⟩
        · exact absurd equal (housed.order m oldM).ne
        · exact housed.orders m oldM n oldN equal
    · intro other host
      have new : KeyedList.has (r.membersByUser.set (LobbyRoster.seated hold r.joinOrder role))
          userId = true :=
        KeyedList.has_iff.mpr ⟨_, KeyedList.mem_set.mpr (.inl rfl), own⟩
      by_cases same : other = userId
      · exact same ▸ new
      · have before : r.hostUserId = some other := by
          cases stood : r.hostUserId with
          | none =>
            have first : userId = other := by simpa [stood] using host
            exact absurd first.symm same
          | some leader => simpa [stood] using host
        obtain ⟨m, member, key⟩ := KeyedList.has_iff.mp (housed.hosted.present other before)
        refine KeyedList.has_iff.mpr ⟨m, KeyedList.mem_set.mpr (.inr ⟨member, ?_⟩), key⟩
        intro clash
        exact same (key.symm.trans (clash.trans own))
    · intro nobody
      simp at nobody

theorem moveSlot_housed (housed : Housed r) (userId : ActorId) (target : Nat) :
    Housed (r.moveSlot userId target).1 := by
  have seated := moveSlot_seated housed.toSeated userId target
  unfold moveSlot at seated ⊢
  split
  · exact housed
  split
  · exact housed
  split
  · exact housed
  rename_i known inside free
  rw [if_neg known, if_neg inside, if_neg free] at seated
  have range : 1 ≤ target ∧ target ≤ r.capacity := by omega
  refine ⟨seated, housed.bounds, ?_, housed.holdRange, ?_, ?_, ⟨?_, ?_⟩⟩
  · intro n member
    obtain ⟨m, before, ⟨_, rfl⟩ | ⟨_, rfl⟩⟩ := mem_update.mp member
    · exact range
    · exact housed.range n before
  · intro n member
    obtain ⟨m, before, ⟨_, rfl⟩ | ⟨_, rfl⟩⟩ := mem_update.mp member
    · exact Nat.sub_add_cancel range.1
    · exact housed.color n before
  · intro n member p other equal
    obtain ⟨m, before, ⟨own, rfl⟩ | ⟨miss, rfl⟩⟩ := mem_update.mp member
    · obtain ⟨q, earlier, ⟨mine, rfl⟩ | ⟨foreign, rfl⟩⟩ := mem_update.mp other
      · rw [r.membersByUser.eq_of_key before earlier (own.trans mine.symm)]
      · have same : m = p := housed.orders m before p earlier equal
        rw [same] at own
        exact absurd own foreign
    · obtain ⟨q, earlier, ⟨mine, rfl⟩ | ⟨foreign, rfl⟩⟩ := mem_update.mp other
      · have same : n = q := housed.orders n before q earlier equal
        rw [← same] at mine
        exact absurd mine miss
      · exact housed.orders n before p earlier equal
  · intro other host
    obtain ⟨m, member, key⟩ := KeyedList.has_iff.mp (housed.hosted.present other host)
    by_cases own : m.userId = userId
    · exact KeyedList.has_iff.mpr
        ⟨_, mem_update.mpr ⟨m, member, .inl ⟨own, rfl⟩⟩, key⟩
    · exact KeyedList.has_iff.mpr ⟨m, mem_update.mpr ⟨m, member, .inr ⟨own, rfl⟩⟩, key⟩
  · intro nobody
    have empty := housed.hosted.somebody nobody
    refine List.eq_nil_iff_forall_not_mem.mpr fun n member => ?_
    obtain ⟨m, before, -⟩ := mem_update.mp member
    rw [empty] at before
    cases before

theorem empty_housed {capacity : Nat} (bounds : 1 ≤ capacity ∧ capacity ≤ maxPlayersPerRoom) :
    Housed (empty capacity) where
  slot := by simp [empty, KeyedList.empty]
  holdSlot := by simp [empty, KeyedList.empty]
  members := by simp [empty, KeyedList.empty]
  holds := by simp [empty, KeyedList.empty]
  apart := by simp [empty, KeyedList.empty]
  strangers := by simp [empty, KeyedList.empty]
  order := by simp [empty, KeyedList.empty]
  bounds := bounds
  range := by simp [empty, KeyedList.empty]
  holdRange := by simp [empty, KeyedList.empty]
  color := by simp [empty, KeyedList.empty]
  orders := by simp [empty, KeyedList.empty]
  hosted := ⟨by simp [empty], by simp [empty, KeyedList.empty]⟩

/-! ## A roster that moves -/

/-- How `adopt` seats a member. -/
def adopted (until_ : Int) (member : AdoptedRoomMember) : LobbyMember :=
  { userId := member.userId
    playerId := member.playerId
    slot := member.slot
    nickname := member.nickname
    guest := member.guest
    stats := member.stats
    loadout := member.loadout
    joinedOrder := member.joinedOrder
    colorIndex := member.colorIndex
    role := .player
    spectatorEligible := false
    inCurrentGame := false
    connection := none
    admissionPendingUntil := none
    reconnectUntil := some until_ }

def adoptAll (r : LobbyRoster) (members : List AdoptedRoomMember) (until_ : Int) : LobbyRoster :=
  members.foldl (fun roster m => roster.adopt m until_) r

structure AdoptsAll (r v : LobbyRoster) (members : List AdoptedRoomMember) (until_ : Int) : Prop where
  capacity : v.capacity = r.capacity
  holds : v.holds = r.holds
  entries : v.membersByUser.entries = r.membersByUser.entries ++ members.map (adopted until_)
  later : r.joinOrder ≤ v.joinOrder ∧ ∀ m ∈ members, m.joinedOrder < v.joinOrder
  host : ∀ userId, v.hostUserId = some userId →
    r.hostUserId = some userId ∨ ∃ m ∈ members, m.userId = userId
  led : (∃ m ∈ members, m.isHost = true) ∨ r.hostUserId ≠ none → v.hostUserId ≠ none

theorem adoptAll_spec {members : List AdoptedRoomMember} (until_ : Int)
    (fresh : ∀ m ∈ members, r.membersByUser.has m.userId = false)
    (distinct : (members.map AdoptedRoomMember.userId).Nodup) :
    AdoptsAll r (r.adoptAll members until_) members until_ := by
  induction members generalizing r with
  | nil =>
    exact ⟨rfl, rfl, (List.append_nil _).symm, ⟨le_rfl, nofun⟩, fun _ => .inl, by simp [adoptAll]⟩
  | cons m rest ih =>
    rw [List.map_cons, List.nodup_cons] at distinct
    have set_entries : (r.adopt m until_).membersByUser.entries =
        r.membersByUser.entries ++ [adopted until_ m] :=
      KeyedList.entries_set_of_absent (fresh m List.mem_cons_self)
    have absent : ∀ n ∈ rest, (r.adopt m until_).membersByUser.has n.userId = false := by
      intro n member
      refine Bool.eq_false_iff.mpr fun known => ?_
      obtain ⟨p, inside, own⟩ := KeyedList.has_iff.mp known
      rw [set_entries] at inside
      rcases List.mem_append.mp inside with old | new
      · have there := fresh n (List.mem_cons_of_mem m member)
        rw [KeyedList.has_iff.mpr ⟨p, old, own⟩] at there
        cases there
      · rw [List.mem_singleton.mp new] at own
        have own : m.userId = n.userId := own
        exact distinct.1 (own ▸ List.mem_map_of_mem member)
    have after := ih absent distinct.2
    refine ⟨after.capacity, after.holds, ?_, ?_, fun userId host => ?_, fun led => after.led ?_⟩
    · rw [show r.adoptAll (m :: rest) until_ = (r.adopt m until_).adoptAll rest until_ from rfl,
        after.entries, set_entries, List.append_assoc]
      rfl
    · have order : (r.adopt m until_).joinOrder = max r.joinOrder (m.joinedOrder + 1) := rfl
      obtain ⟨least, later⟩ := after.later
      rw [order] at least
      refine ⟨(le_max_left _ _).trans least, fun n member => ?_⟩
      rcases List.mem_cons.mp member with rfl | inside
      · exact lt_of_lt_of_le (Nat.lt_succ_self _) ((le_max_right _ _).trans least)
      · exact later n inside
    · rcases after.host userId host with before | ⟨n, member, own⟩
      · have before : (if m.isHost then some m.userId else r.hostUserId) = some userId := before
        split at before
        · exact .inr ⟨m, List.mem_cons_self, Option.some.inj before⟩
        · exact .inl before
      · exact .inr ⟨n, List.mem_cons_of_mem m member, own⟩
    · by_cases leads : m.isHost = true
      · right
        show (if m.isHost then some m.userId else r.hostUserId) ≠ none
        simp [leads]
      · rcases led with ⟨n, member, own⟩ | before
        · rcases List.mem_cons.mp member with rfl | inside
          · exact absurd own leads
          · exact .inl ⟨n, inside, own⟩
        · right
          show (if m.isHost then some m.userId else r.hostUserId) ≠ none
          simpa [leads] using before

/-- The members of a housed roster, as they are exported. -/
theorem adoptAll_housed (housed : Housed r) (until_ : Int) :
    Housed ((empty r.capacity).adoptAll (r.members.map (Room.exportMember r.hostId)) until_) := by
  have users : ((r.members.map (Room.exportMember r.hostId)).map AdoptedRoomMember.userId).Nodup := by
    rw [List.map_map]
    exact ((sortById_perm LobbyMember.joinedOrder _).map LobbyMember.userId).nodup_iff.mpr
      r.membersByUser.distinct
  have spec := adoptAll_spec (r := empty r.capacity) until_
    (fun m _ => by simp [empty, KeyedList.empty, KeyedList.has]) users
  generalize (empty r.capacity).adoptAll (r.members.map (Room.exportMember r.hostId)) until_ = v at spec
  have entries : v.membersByUser.entries =
      r.members.map fun m => adopted until_ (Room.exportMember r.hostId m) := by
    rw [spec.entries, List.map_map]
    rfl
  have holds : v.holds.entries = [] := by
    rw [spec.holds]
    rfl
  have origin : ∀ n ∈ v.membersByUser.entries, ∃ m ∈ r.membersByUser.entries,
      n = adopted until_ (Room.exportMember r.hostId m) := by
    intro n member
    rw [entries] at member
    obtain ⟨m, listed, rfl⟩ := List.mem_map.mp member
    exact ⟨m, mem_members.mp listed, rfl⟩
  have image : ∀ m ∈ r.membersByUser.entries,
      adopted until_ (Room.exportMember r.hostId m) ∈ v.membersByUser.entries := by
    intro m member
    rw [entries]
    exact List.mem_map_of_mem (mem_members.mpr member)
  have order : ∀ n ∈ v.membersByUser.entries, n.joinedOrder < v.joinOrder := by
    intro n member
    obtain ⟨m, before, rfl⟩ := origin n member
    exact spec.later.2 _ (List.mem_map_of_mem (mem_members.mpr before))
  have capacity : v.capacity = r.capacity := spec.capacity
  refine ⟨⟨?_, ?_, ?_, ?_, ?_, ?_, order⟩, capacity ▸ housed.bounds, ?_, ?_, ?_, ?_, ⟨?_, ?_⟩⟩
  · intro n member
    obtain ⟨m, before, rfl⟩ := origin n member
    exact housed.slot m before
  · simp [holds]
  · intro n member p other equal
    obtain ⟨m, before, rfl⟩ := origin n member
    obtain ⟨q, earlier, rfl⟩ := origin p other
    rw [housed.members m before q earlier equal]
  · simp [holds]
  · simp [holds]
  · simp [holds]
  · intro n member
    obtain ⟨m, before, rfl⟩ := origin n member
    rw [capacity]
    exact housed.range m before
  · simp [holds]
  · intro n member
    obtain ⟨m, before, rfl⟩ := origin n member
    exact housed.color m before
  · intro n member p other equal
    obtain ⟨m, before, rfl⟩ := origin n member
    obtain ⟨q, earlier, rfl⟩ := origin p other
    rw [housed.orders m before q earlier equal]
  · intro userId host
    rcases spec.host userId host with before | ⟨m, member, own⟩
    · cases before
    · obtain ⟨n, listed, rfl⟩ := List.mem_map.mp member
      exact KeyedList.has_iff.mpr ⟨_, image n (mem_members.mp listed), own⟩
  · intro nobody
    by_contra someone
    have here : r.membersByUser.entries ≠ [] := by
      intro empty
      refine someone (List.eq_nil_iff_forall_not_mem.mpr fun n member => ?_)
      obtain ⟨m, before, -⟩ := origin n member
      rw [empty] at before
      cases before
    obtain ⟨userId, host⟩ :=
      Option.ne_none_iff_exists'.mp fun free => here (housed.hosted.somebody free)
    obtain ⟨m, member, own⟩ := KeyedList.has_iff.mp (housed.hosted.present userId host)
    have found : r.getByUser userId = some m := own ▸ KeyedList.get?_of_mem member
    have leads : (Room.exportMember r.hostId m).isHost = true := by
      simp [Room.exportMember, hostId, host, found]
    exact spec.led (.inl ⟨_, List.mem_map_of_mem (mem_members.mpr member), leads⟩) nobody

end SwitchRemake.Rooms.LobbyRoster

import SwitchRemake.Registry.HandOff
import Mathlib.Data.List.Basic

/-!
# Directory fencing

A loop writes over a value only by comparing it with one that names its own server. The commit of an
adoption is the one command that replaces what another server owns.
-/

namespace SwitchRemake.Registry
open Lib Redis

/-- What names another server stays as it is. -/
structure Fenced (own : String) (k k' : Keys) : Prop where
  rooms : ∀ roomId value, k.entry roomId = some value → value.serverId ≠ own →
    k'.room roomId = k.room roomId
  claims : ∀ userId claim other, k.claim userId = some claim → claim.serverId = some other →
    other ≠ own → k'.userActiveRoom userId = k.userActiveRoom userId

/-- The directory entries of the rooms in `may` are the only ones that come into being. -/
def CreatesOnly (may : String → Prop) (k k' : Keys) : Prop :=
  ∀ roomId, k.entry roomId = none → k'.entry roomId ≠ none → may roomId

namespace Keys
variable {k : Keys} {own : String} {may : String → Prop}

theorem entry_setRoom {roomId other : String} {cell : Cell RoomDirectoryValue} :
    (k.setRoom roomId cell).entry other =
      if other = roomId then cell.get k.now else k.entry other := by
  by_cases same : other = roomId
  · subst same
    simp [entry, setRoom]
  · simp [entry, setRoom, same]

@[simp] theorem entry_setClaim {userId : ActorId} {cell : Cell ActiveRoomClaim} {roomId : String} :
    (k.setClaim userId cell).entry roomId = k.entry roomId := rfl

@[simp] theorem entry_setHandOff {transferId roomId : String} {cell : Cell HandOffState} :
    (k.setHandOff transferId cell).entry roomId = k.entry roomId := rfl

theorem fenced_refl : Fenced own k k := ⟨fun _ _ _ _ => rfl, fun _ _ _ _ _ _ => rfl⟩

theorem fenced_setHandOff {transferId : String} {cell : Cell HandOffState} :
    Fenced own k (k.setHandOff transferId cell) := ⟨fun _ _ _ _ => rfl, fun _ _ _ _ _ _ => rfl⟩

theorem fenced_setRoom {roomId : String} {cell : Cell RoomDirectoryValue}
    (keeps : ∀ value, k.entry roomId = some value → value.serverId ≠ own → cell = k.room roomId) :
    Fenced own k (k.setRoom roomId cell) where
  rooms other value there foreign := by
    by_cases same : other = roomId
    · subst same
      simpa [setRoom] using keeps value there foreign
    · simp [setRoom, same]
  claims _ _ _ _ _ _ := rfl

theorem fenced_setClaim {userId : ActorId} {cell : Cell ActiveRoomClaim}
    (keeps : ∀ claim other, k.claim userId = some claim → claim.serverId = some other →
      other ≠ own → cell = k.userActiveRoom userId) :
    Fenced own k (k.setClaim userId cell) where
  rooms _ _ _ _ := rfl
  claims other claim server there names foreign := by
    by_cases same : other = userId
    · subst same
      simpa [setClaim] using keeps claim server there names foreign
    · simp [setClaim, same]

theorem creates_refl : CreatesOnly may k k := fun _ absent there => absurd absent there

theorem creates_setClaim {userId : ActorId} {cell : Cell ActiveRoomClaim} :
    CreatesOnly may k (k.setClaim userId cell) := creates_refl

theorem creates_setHandOff {transferId : String} {cell : Cell HandOffState} :
    CreatesOnly may k (k.setHandOff transferId cell) := creates_refl

theorem creates_setRoom {roomId : String} {cell : Cell RoomDirectoryValue}
    (only : k.entry roomId = none → cell.get k.now ≠ none → may roomId) :
    CreatesOnly may k (k.setRoom roomId cell) := by
  intro other absent there
  rw [entry_setRoom] at there
  by_cases same : other = roomId
  · subst same
    exact only absent (by simpa using there)
  · rw [if_neg same] at there
    exact absurd absent there

end Keys

/-! ## The scripts on a value of another server -/

section
variable {α : Type} [DecidableEq α] {now ttlMs : Nat} {key : Cell α} {there expected value : α}

theorem compareAndDelete_other (found : key.get now = some there) (differs : there ≠ expected) :
    (compareAndDelete now key expected).2 = key := by
  simp [compareAndDelete, found, differs]

theorem compareAndExpire_other (found : key.get now = some there) (differs : there ≠ expected) :
    (compareAndExpire now key expected ttlMs).2 = key := by
  simp [compareAndExpire, found, differs]

theorem compareAndSetPx_other (found : key.get now = some there) (differs : there ≠ expected) :
    (compareAndSetPx now key expected value ttlMs).2 = key := by
  simp [compareAndSetPx, found, differs]

omit [DecidableEq α] in
theorem setPxIfAbsent_other (found : key.get now = some there) :
    (setPxIfAbsent now key value ttlMs).2 = key := by
  simp [setPxIfAbsent, found]

theorem compareAndDelete_absent (absent : key.get now = none) :
    (compareAndDelete now key expected).2.get now = none := by
  simp [compareAndDelete, absent]

theorem compareAndSetPx_absent (absent : key.get now = none) :
    (compareAndSetPx now key expected value ttlMs).2.get now = none := by
  simp [compareAndSetPx, absent]

end

/-! ## What a server holds while it waits -/

/-- A value that is going to be compared names the server itself, or is a reservation. -/
def Loop.Own (own : String) : Loop → Prop
  | .releaseDelete _ _ raw => ∀ other, raw.serverId = some other → other = own
  | .seatExpire _ _ _ claim => ∀ other, claim.serverId = some other → other = own
  | .roomSet _ (some value) _ _ => value.serverId = own
  | .oldDelete _ value _ _ => value.serverId = own
  | _ => True

/-- The captured rooms the loop has yet to publish. -/
def Loop.captured : Loop → List String
  | .rooms left _ => left.map (·.roomId)
  | .roomGet projection left _ | .roomGot projection _ left _ | .roomSet projection _ left _ =>
    projection.roomId :: left.map (·.roomId)
  | _ => []

structure GameServer.Ok (s : GameServer) : Prop where
  own : s.loop.Own s.serverId
  gone : ∀ roomId ∈ s.released, s.rooms.get? roomId = none
  captured : ∀ roomId ∈ s.loop.captured, roomId ∈ s.released → roomId ∈ s.overtaken

/-- The parts of an adoption: the intent, the source's directory entry and claims on the room. -/
def Sourced (payload : AdoptRoomPayload) (own : String) (replacements : List Replacement) : Prop :=
  ∃ value new claims,
    replacements = .handoff payload.transferId .pending .committed HAND_OFF_TTL_MS ::
      .room payload.roomId value new HEARTBEAT_TTL_MS :: claims ∧
    value.serverId = payload.sourceServerId ∧
    ∀ item ∈ claims, ∃ userId requestId, item = .userActiveRoom userId
      (.assigned requestId payload.roomId payload.sourceServerId)
      (.assigned ("adopt:" ++ payload.transferId) payload.roomId own) ACTIVE_ROOM_TTL_MS

def Adoption.Ok (payload : AdoptRoomPayload) (own : String) : Adoption → Prop
  | .directoryGet | .directoryGot _ => payload.sourceServerId ≠ own
  | .claims _ replacements | .claimGot _ _ _ replacements | .commit replacements =>
    payload.sourceServerId ≠ own ∧ Sourced payload own replacements
  | _ => True

structure Node.Ok (n : Node) : Prop where
  server : n.server.Ok
  adopting : ∀ call ∈ n.adopting, call.stage.Ok call.payload n.server.serverId

/-! ## Steps that leave the loop where it stands -/

namespace GameServer

structure Keeps (s s' : GameServer) : Prop where
  serverId : s'.serverId = s.serverId
  loop : s'.loop = s.loop
  released : s'.released = s.released
  overtaken : s'.overtaken = s.overtaken
  rooms : ∀ roomId, s.rooms.get? roomId = none → s'.rooms.get? roomId = none

variable {s s' s'' : GameServer}

theorem Keeps.refl : Keeps s s := ⟨rfl, rfl, rfl, rfl, fun _ absent => absent⟩

theorem Keeps.trans (first : Keeps s s') (second : Keeps s' s'') : Keeps s s'' where
  serverId := second.serverId.trans first.serverId
  loop := second.loop.trans first.loop
  released := second.released.trans first.released
  overtaken := second.overtaken.trans first.overtaken
  rooms roomId absent := second.rooms roomId (first.rooms roomId absent)

theorem Keeps.ok (keeps : Keeps s s') (ok : s.Ok) : s'.Ok where
  own := by
    rw [keeps.loop, keeps.serverId]
    exact ok.own
  gone roomId mem := keeps.rooms roomId (ok.gone roomId (by rwa [← keeps.released]))
  captured roomId mem released := by
    rw [keeps.loop] at mem
    rw [keeps.released] at released
    rw [keeps.overtaken]
    exact ok.captured roomId mem released

theorem setObject_keeps (object : Nat) (room : RoomObject) : Keeps s (s.setObject object room) :=
  ⟨rfl, rfl, rfl, rfl, fun _ absent => absent⟩

theorem updateObject_keeps (object : Option Nat) (f : RoomObject → RoomObject) :
    Keeps s (s.updateObject object f) := ⟨rfl, rfl, rfl, rfl, fun _ absent => absent⟩

theorem trackSeat_keeps (roomId : String) (userId : ActorId) (requestId : String) :
    Keeps s (s.trackSeat roomId userId requestId) := ⟨rfl, rfl, rfl, rfl, fun _ absent => absent⟩

theorem noteReleased_keeps (roomId : String) (userId : ActorId) (cooldown : Bool) (now : Nat) :
    Keeps s (s.noteReleased roomId userId cooldown now) :=
  ⟨rfl, rfl, rfl, rfl, fun _ absent => absent⟩

theorem noteKicked_keeps (roomId : String) (userId : ActorId) :
    Keeps s (s.noteKicked roomId userId) := ⟨rfl, rfl, rfl, rfl, fun _ absent => absent⟩

theorem forgetRoom_keeps (roomId : String) : Keeps s (s.forgetRoom roomId) :=
  ⟨rfl, rfl, rfl, rfl, fun _ absent => absent⟩

theorem sweep_keeps : Keeps s s.sweep where
  serverId := rfl
  loop := rfl
  released := rfl
  overtaken := rfl
  rooms roomId absent := by simp [sweep, KeyedList.get?_filter, absent]

theorem trackAdoptedRoom_keeps (payload : AdoptRoomPayload) :
    Keeps s (s.trackAdoptedRoom payload) := by
  unfold trackAdoptedRoom
  induction payload.members generalizing s with
  | nil => exact .refl
  | cons userId rest ih => exact (trackSeat_keeps _ _ _).trans ih

theorem addRoom_ok (ok : s.Ok) (roomId : String) (room : RoomObject) : (s.addRoom roomId room).Ok where
  own := ok.own
  gone other mem := by
    obtain ⟨released, differs⟩ := List.mem_filter.mp mem
    simp only [ne_eq, decide_not, Bool.not_eq_true', decide_eq_false_iff_not] at differs
    simp [addRoom, KeyedList.get?_set, differs, ok.gone other released]
  captured other mem released := by
    obtain ⟨released, differs⟩ := List.mem_filter.mp released
    exact List.mem_filter.mpr ⟨ok.captured other mem released, differs⟩

theorem releaseRoom_ok (ok : s.Ok) (roomId : String) (object : Option Nat) :
    (s.releaseRoom roomId object).Ok := by
  have kept : Keeps s (((s.forgetRoom roomId).updateObject object fun room =>
      { room with state := .closed }).sweep) :=
    ((forgetRoom_keeps roomId).trans (updateObject_keeps _ _)).trans sweep_keeps
  have before := kept.ok ok
  simp only [releaseRoom]
  split
  · rename_i absent
    refine ⟨before.own, ?_, ?_⟩
    · intro other mem
      cases mem with
      | head => exact Option.isNone_iff_eq_none.mp absent
      | tail _ mem => exact before.gone other mem
    · intro other mem released
      cases released with
      | head => exact List.mem_cons_self
      | tail _ released => exact List.mem_cons_of_mem _ (before.captured other mem released)
  · exact before

theorem releaseRoom_serverId (roomId : String) (object : Option Nat) :
    (s.releaseRoom roomId object).serverId = s.serverId := by
  simp only [releaseRoom]
  split <;> rfl

/-! ## The loop -/

/-- A turn that moves the loop to a place with nothing to compare and nothing captured anew. -/
theorem ok_of_loop (ok : s.Ok) {loop : Loop} (own : loop.Own s.serverId)
    (captured : loop.captured ⊆ s.loop.captured) : Ok { s with loop } :=
  ⟨own, ok.gone, fun roomId mem => ok.captured roomId (captured mem)⟩

theorem projections_present {projection : RoomProjection} (mem : projection ∈ s.projections) :
    s.rooms.get? projection.roomId ≠ none := by
  obtain ⟨managed, listed, found⟩ := List.mem_filterMap.mp mem
  obtain ⟨room, -, rfl⟩ := Option.map_eq_some_iff.mp found
  show s.rooms.get? managed.roomId ≠ none
  rw [KeyedList.get?_of_mem listed]
  simp

theorem flushStep_ok (ok : s.Ok) (again : Bool) (release : Option PendingRelease) :
    (s.flushStep again release).Ok := by
  cases release with
  | none =>
    cases again with
    | false => exact ok_of_loop ok trivial (by simp [Loop.captured])
    | true =>
      -- a room that is captured is in the manager, so it has not been released
      refine ⟨trivial, ok.gone, ?_⟩
      intro roomId mem released
      obtain ⟨projection, listed, rfl⟩ := List.mem_map.mp mem
      exact absurd (ok.gone _ released) (projections_present (List.mem_filter.mp listed).1)
  | some release =>
    simp only [flushStep]
    split
    · exact ⟨ok.own, ok.gone, ok.captured⟩
    · exact ok_of_loop ok trivial (by simp [Loop.captured])

theorem flushStep_serverId (again : Bool) (release : Option PendingRelease) :
    (s.flushStep again release).serverId = s.serverId := by
  cases release with
  | none => cases again <;> rfl
  | some release =>
    simp only [flushStep]
    split <;> rfl

theorem noteDeparted_keeps (seat : TrackedSeat) (room : Option RoomObject) (now : Nat) :
    Keeps s (s.noteDeparted seat room now) := by
  unfold noteDeparted
  by_cases kicked : (room.any fun r => decide (seat.userId ∈ r.kickedUsers)) = true
  · simp only [kicked, if_true]
    exact ⟨rfl, rfl, rfl, rfl, fun _ absent => absent⟩
  · simp only [kicked]
    exact ⟨rfl, rfl, rfl, rfl, fun _ absent => absent⟩

theorem seatStep_ok (ok : s.Ok) (walk : Option (String × Option Nat)) (now : Nat)
    (seat : Option TrackedSeat) : (s.seatStep walk now seat).Ok := by
  cases seat with
  | none => exact ok_of_loop ok trivial (by simp [Loop.captured])
  | some seat =>
    have kept : ∀ seat' room, Ok { s with trackedSeats := s.trackedSeats.set seat' } →
        (noteDeparted { s with trackedSeats := s.trackedSeats.set seat' } seat' room now).Ok :=
      fun seat' room => (noteDeparted_keeps seat' room now).ok
    simp only [seatStep]
    split
    · exact ⟨trivial, ok.gone, by simp [Loop.captured]⟩
    · exact ok_of_loop (kept _ _ ⟨ok.own, ok.gone, ok.captured⟩) trivial (by simp [Loop.captured])

theorem seatStep_serverId (walk : Option (String × Option Nat)) (now : Nat)
    (seat : Option TrackedSeat) : (s.seatStep walk now seat).serverId = s.serverId := by
  cases seat with
  | none => rfl
  | some seat =>
    simp only [seatStep]
    split
    · rfl
    · exact (noteDeparted_keeps _ _ now).serverId

theorem claimBelongsToSeat_own {roomId requestId : String} {claim : ActiveRoomClaim}
    (belongs : s.claimBelongsToSeat roomId requestId claim = true) :
    ∀ other, claim.serverId = some other → other = s.serverId := by
  cases claim with
  | reservation requestId => simp [ActiveRoomClaim.serverId]
  | assigned requestId claimed serverId =>
    simp only [claimBelongsToSeat, Bool.and_eq_true, beq_iff_eq] at belongs
    rintro other ⟨⟩
    exact belongs.2

variable {keys : Keys} {place now : Nat}

theorem turn_serverId : (s.turn keys place now).1.serverId = s.serverId := by
  unfold turn
  split
  case h_2 again _ => exact flushStep_serverId _ _
  case h_6 walk _ => exact seatStep_serverId _ _ _
  all_goals first | rfl | (split <;> first | rfl | (split <;> rfl))

theorem turn_ok (ok : s.Ok) : (s.turn keys place now).1.Ok := by
  cases at_loop : s.loop with
  | flush again =>
    simp only [turn, at_loop]
    exact flushStep_ok ok _ _
  | seats walk =>
    simp only [turn, at_loop]
    exact seatStep_ok ok _ _ _
  | releaseGot again release raw =>
    simp only [turn, at_loop]
    split
    · split
      · rename_i same
        refine ok_of_loop ok ?_ (by simp [Loop.captured])
        rintro other ⟨⟩
        exact same.2
      · exact ⟨trivial, ok.gone, by simp [Loop.captured]⟩
    · exact ⟨trivial, ok.gone, by simp [Loop.captured]⟩
  | seatGot walk seat object currentClaim =>
    simp only [turn, at_loop]
    split
    · split
      · rename_i belongs
        exact ok_of_loop ok (claimBelongsToSeat_own belongs) (by simp [Loop.captured])
      · exact ok_of_loop ok trivial (by simp [Loop.captured])
    · exact ok_of_loop ok trivial (by simp [Loop.captured])
  | seatExpired walk seat object refreshed =>
    simp only [turn, at_loop]
    split
    · exact ok_of_loop ok trivial (by simp [Loop.captured])
    · exact ok_of_loop ok trivial (by simp [Loop.captured])
  | rooms left current =>
    simp only [turn, at_loop]
    cases left with
    | nil => exact ok_of_loop ok trivial (by simp [Loop.captured])
    | cons projection rest => exact ok_of_loop ok trivial (by simp [Loop.captured, at_loop])
  | roomGot projection previous left current =>
    have kept : (Loop.rooms left current).captured ⊆ s.loop.captured := by
      simp [Loop.captured, at_loop]
    simp only [turn, at_loop]
    split
    · split
      · exact ok_of_loop ok trivial kept
      · rename_i same
        exact ok_of_loop ok (not_not.mp same) (by simp [Loop.captured, at_loop])
    · split
      · exact ok_of_loop ok trivial kept
      · exact ok_of_loop ok trivial (by simp [Loop.captured, at_loop])
  | oldGot oldRoomId oldValue left current =>
    simp only [turn, at_loop]
    split
    · split
      · exact ok_of_loop ok trivial (by simp [Loop.captured])
      · rename_i same
        exact ok_of_loop ok (not_not.mp same) (by simp [Loop.captured])
    · exact ok_of_loop ok trivial (by simp [Loop.captured])
  | old left current =>
    simp only [turn, at_loop]
    cases left with
    | nil => exact ⟨trivial, ok.gone, by simp [Loop.captured]⟩
    | cons oldRoomId rest =>
      simp only
      split
      · exact ok_of_loop ok trivial (by simp [Loop.captured])
      · exact ok_of_loop ok trivial (by simp [Loop.captured])
  | idle =>
    simp only [turn, at_loop]
    exact ok
  | releaseDelete again release raw =>
    simp only [turn, at_loop]
    exact ⟨trivial, ok.gone, by simp [Loop.captured]⟩
  | roomGet projection left current =>
    simp only [turn, at_loop]
    exact ok_of_loop ok trivial (by simp [Loop.captured, at_loop])
  | roomSet projection previous left current =>
    simp only [turn, at_loop]
    exact ok_of_loop ok trivial (by simp [Loop.captured, at_loop])
  | releaseGet | seatGet | seatExpire | seatClaim | oldGet | oldDelete =>
    simp only [turn, at_loop]
    exact ok_of_loop ok trivial (by simp [Loop.captured])

/-- What a turn does to the keys: a value of another server is never the one it compares with, and
an entry comes into being only for a room the loop has captured. -/
theorem turn_keys (s : GameServer) (keys : Keys) (place now : Nat) (ok : s.Ok) :
    Fenced s.serverId keys (s.turn keys place now).2 ∧
      CreatesOnly (fun roomId => roomId ∈ s.released → roomId ∈ s.overtaken) keys
        (s.turn keys place now).2 := by
  have own := ok.own
  have captured := ok.captured
  unfold turn
  cases at_loop : s.loop with
  | releaseDelete again release raw =>
    rw [at_loop] at own
    refine ⟨Keys.fenced_setClaim ?_, Keys.creates_setClaim⟩
    intro claim other there names foreign
    refine compareAndDelete_other there ?_
    rintro rfl
    exact foreign (own other names)
  | seatExpire walk seat object claim =>
    rw [at_loop] at own
    refine ⟨Keys.fenced_setClaim ?_, Keys.creates_setClaim⟩
    intro current other there names foreign
    refine compareAndExpire_other there ?_
    rintro rfl
    exact foreign (own other names)
  | seatClaim walk seat =>
    exact ⟨Keys.fenced_setClaim fun _ _ there _ _ => setPxIfAbsent_other there,
      Keys.creates_setClaim⟩
  | roomSet projection previous left current =>
    rw [at_loop] at own captured
    have mine := captured projection.roomId (by simp [Loop.captured])
    cases previous with
    | none =>
      exact ⟨Keys.fenced_setRoom fun _ there _ => setPxIfAbsent_other there,
        Keys.creates_setRoom fun _ _ => mine⟩
    | some value =>
      refine ⟨Keys.fenced_setRoom ?_, Keys.creates_setRoom fun _ _ => mine⟩
      intro current there foreign
      refine compareAndSetPx_other there ?_
      rintro rfl
      exact foreign own
  | oldDelete oldRoomId oldValue left current =>
    rw [at_loop] at own
    constructor
    · refine Keys.fenced_setRoom fun value there foreign => compareAndDelete_other there ?_
      rintro rfl
      exact foreign own
    · exact Keys.creates_setRoom fun absent there => absurd (compareAndDelete_absent absent) there
  | releaseGot again release raw =>
    simp only
    split
    · split <;> exact ⟨Keys.fenced_refl, Keys.creates_refl⟩
    · exact ⟨Keys.fenced_refl, Keys.creates_refl⟩
  | seatGot walk seat object currentClaim =>
    simp only
    split
    · split <;> exact ⟨Keys.fenced_refl, Keys.creates_refl⟩
    · exact ⟨Keys.fenced_refl, Keys.creates_refl⟩
  | roomGot projection previous left current =>
    simp only
    split
    · split <;> exact ⟨Keys.fenced_refl, Keys.creates_refl⟩
    · split <;> exact ⟨Keys.fenced_refl, Keys.creates_refl⟩
  | oldGot oldRoomId oldValue left current =>
    simp only
    split
    · split <;> exact ⟨Keys.fenced_refl, Keys.creates_refl⟩
    · exact ⟨Keys.fenced_refl, Keys.creates_refl⟩
  | seatExpired walk seat object refreshed =>
    simp only
    split <;> exact ⟨Keys.fenced_refl, Keys.creates_refl⟩
  | rooms left current =>
    cases left <;> exact ⟨Keys.fenced_refl, Keys.creates_refl⟩
  | old left current =>
    cases left with
    | nil => exact ⟨Keys.fenced_refl, Keys.creates_refl⟩
    | cons oldRoomId rest =>
      simp only
      split <;> exact ⟨Keys.fenced_refl, Keys.creates_refl⟩
  | idle | flush | releaseGet | seats | seatGet | roomGet | oldGet =>
    exact ⟨Keys.fenced_refl, Keys.creates_refl⟩

end GameServer
end SwitchRemake.Registry

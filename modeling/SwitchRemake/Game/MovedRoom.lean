import SwitchRemake.Game.RoomLife
import SwitchRemake.Game.SameSeats
import SwitchRemake.Game.Twins

/-!
# Rooms that move

A room that is handed to another server keeps its seats on the way, and its copy answers what the room
would have answered: to everybody but those whom it had kicked.
-/

namespace SwitchRemake.Game
open Lib Simulation Rooms LobbyRoster

variable {K : Type} [JsNumber K]

theorem disconnect_seated (h : HostedRoom K) (waiting : h.room.state = .waiting) (now : Int)
    (connection : Connection) : SameSeats h.room (h.disconnect now connection).room := by
  unfold HostedRoom.disconnect
  split
  · exact .refl _
  split
  · exact .refl _
  dsimp only
  rw [if_neg]
  · exact SameSeats.updateMember h.room _ _ fun _ => rfl
  · rintro ⟨playing, -⟩
    have waits : h.room.state = .playing := playing
    rw [waiting] at waits
    cases waits

/-! ## The room that is handed over -/

/-- What reaches a server for the room. -/
inductive SourceEvent (K : Type) where
  | onJson (op : HostOp K)
  | command (op : HostOp K)
  | disconnect (now : Int) (connection : Connection)
  | advance (env : StartEnv K) (now : Int)

/-- `RoomManager` keeps everything from a frozen room but that its sockets close. -/
def HostedRoom.receive (h : HostedRoom K) : SourceEvent K → HostedRoom K
  | .onJson op => if h.room.handingOff then h else h.apply op
  | .command op => if h.room.handingOff then h else h.apply op
  | .disconnect now connection => h.disconnect now connection
  | .advance env now => h.advance env now

theorem receive_seated {h : HostedRoom K} (waiting : h.room.state = .waiting)
    (frozen : h.room.handingOff = true) (events : List (SourceEvent K)) :
    SameSeats h.room (events.foldl HostedRoom.receive h).room := by
  induction events generalizing h with
  | nil => exact .refl _
  | cons event rest ih =>
    have step : SameSeats h.room (h.receive event).room := by
      cases event with
      | onJson op =>
        rw [HostedRoom.receive, if_pos frozen]
        exact .refl _
      | command op =>
        rw [HostedRoom.receive, if_pos frozen]
        exact .refl _
      | disconnect now connection => exact disconnect_seated h waiting now connection
      | advance env now =>
        rw [HostedRoom.receive, HostedRoom.advance, if_pos (.inl frozen)]
        exact .refl _
    have frozen' : (h.receive event).room.handingOff = true := by
      rw [step.room]
      exact frozen
    exact step.trans (ih (step.state.trans waiting) frozen')

/-! ## Coming back -/

/-- How members leave for a while and come back. -/
inductive ReturnOp (K : Type) where
  | admitReservation (env : StartEnv K) (now : Int) (reservation : SeatReservation)
  | bindConnection (now : Int) (connection : Connection)
  | disconnect (now : Int) (connection : Connection)
  | advance (env : StartEnv K) (now : Int)

def HostedRoom.resume (h : HostedRoom K) : ReturnOp K → HostedRoom K
  | .admitReservation env now reservation => (h.admitReservation env now reservation).1
  | .bindConnection now connection => (h.bindConnection now connection).1
  | .disconnect now connection => h.disconnect now connection
  | .advance env now => h.advance env now

/-- Nobody's seat has run out. -/
def Waits (r : Room) (now : Int) : Prop :=
  ∀ m ∈ r.roster.membersByUser.entries, HostedRoom.seatExpired now m = false ∧
    (HostedRoom.admissionExpired now m = true → m.reconnectUntil ≠ none)

def InTime (h : HostedRoom K) : ReturnOp K → Prop
  | .admitReservation _ now _ => Waits h.room now
  | .advance _ now => Waits h.room now
  | _ => True

/-- A room in its lobby, with members and no reservations. -/
structure Lobby (r : Room) : Prop where
  waiting : r.state = .waiting
  free : r.roster.holds.entries = []
  members : r.roster.membersByUser.entries ≠ []

theorem Lobby.same {r v : Room} (lobby : Lobby r) (same : SameSeats r v) : Lobby v where
  waiting := same.state.trans lobby.waiting
  free := by rw [same.holds, lobby.free]
  members none_ := by
    have seats := same.seats
    rw [none_, List.map_nil] at seats
    exact lobby.members (List.map_eq_nil_iff.mp seats.symm)

theorem advance_seated {h : HostedRoom K} (lobby : Lobby h.room) (env : StartEnv K) {now : Int}
    (waits : Waits h.room now) : SameSeats h.room (h.advance env now).room := by
  have purged : SameSeats h.room (h.mapRoom fun room =>
      { room with roster := room.roster.purgeExpiredHolds now }).room := by
    refine ⟨rfl, rfl, KeyedList.ext ?_, rfl, rfl⟩
    show h.room.roster.holds.entries.filter _ = h.room.roster.holds.entries
    rw [lobby.free]
    rfl
  have settles (m : LobbyMember) (stays : HostedRoom.seatExpired now m = false ∧
      (HostedRoom.admissionExpired now m = true → m.reconnectUntil ≠ none)) (g : HostedRoom K) :
      SameSeats g.room (g.expireMember now m).room := by
    unfold HostedRoom.expireMember
    rw [if_neg fun gone => stays.2 gone.1 gone.2, stays.1]
    dsimp only
    rw [if_neg Bool.false_ne_true]
    split
    · exact SameSeats.updateMember g.room _ _ fun _ => rfl
    · exact .refl _
  have swept (ms : List LobbyMember) (all : ∀ m ∈ ms, HostedRoom.seatExpired now m = false ∧
      (HostedRoom.admissionExpired now m = true → m.reconnectUntil ≠ none)) (g : HostedRoom K) :
      SameSeats g.room (ms.foldl (HostedRoom.expireMember now) g).room := by
    induction ms generalizing g with
    | nil => exact .refl _
    | cons m rest ih =>
      exact (settles m (all m List.mem_cons_self) g).trans
        (ih (fun n inside => all n (List.mem_cons_of_mem m inside)) _)
  have expired : SameSeats h.room (h.expireMembers now).room :=
    purged.trans (swept _ (fun m inside => waits m (LobbyRoster.mem_members.mp inside)) _)
  have there := lobby.same expired
  have some_ : (h.expireMembers now).room.roster.size ≠ 0 := fun empty =>
    there.members (List.length_eq_zero_iff.mp empty)
  unfold HostedRoom.advance
  split
  · exact .refl _
  dsimp only
  rw [if_neg some_]
  have starts : (h.expireMembers now).startIfDue env now = h.expireMembers now :=
    if_neg fun due => by
      have counting := due.1
      rw [there.waiting] at counting
      cases counting
  have returns : (h.expireMembers now).returnIfDue now = h.expireMembers now :=
    if_neg fun due => by
      have over_ := due.1
      rw [there.waiting] at over_
      cases over_
  rw [starts, returns]
  exact expired

theorem return_seated {h : HostedRoom K} (lobby : Lobby h.room) {op : ReturnOp K}
    (may : InTime h op) : SameSeats h.room (h.resume op).room := by
  cases op with
  | admitReservation env now reservation =>
    have caught := advance_seated lobby env may
    exact caught.trans (SameSeats.admitReservation (lobby.same caught).free now reservation)
  | bindConnection now connection =>
    unfold HostedRoom.resume HostedRoom.bindConnection
    dsimp only
    split
    · exact SameSeats.bindConnection h.room now connection
    · exact .refl _
  | disconnect now connection => exact disconnect_seated h lobby.waiting now connection
  | advance env now => exact advance_seated lobby env may

theorem returns_seated {h : HostedRoom K} (lobby : Lobby h.room) {ops : List (ReturnOp K)}
    (may : AllowedRun InTime HostedRoom.resume h ops) :
    SameSeats h.room (ops.foldl HostedRoom.resume h).room := by
  induction ops generalizing h with
  | nil => exact .refl _
  | cons op rest ih =>
    have step := return_seated lobby may.1
    exact step.trans (ih (lobby.same step) may.2)

/-! ## The adopted room -/

theorem canHandOff_spec {r : Room} (may : r.canHandOff = true) :
    r.handingOff = false ∧ Lobby r := by
  simp only [Room.canHandOff, Bool.and_eq_true, Bool.not_eq_true', decide_eq_true_eq] at may
  obtain ⟨⟨⟨⟨⟨thawed, waiting⟩, -⟩, full⟩, -⟩, connected⟩ := may
  obtain ⟨m, inside, -⟩ := List.any_eq_true.mp connected
  refine ⟨thawed, waiting, ?_, fun none_ => ?_⟩
  · have length : r.members.length = r.roster.membersByUser.entries.length :=
      List.length_insertionSort _ _
    rw [length] at full
    have sum : r.roster.membersByUser.entries.length + r.roster.holds.entries.length =
        r.roster.membersByUser.entries.length := full
    exact List.length_eq_zero_iff.mp (by omega)
  · have there := LobbyRoster.mem_members.mp inside
    rw [none_] at there
    cases there

theorem canHandOff_of_accepted {r : Room} (accepted : r.freezeForHandOff.2 = true) :
    r.canHandOff = true := by
  by_contra refused
  unfold Room.freezeForHandOff at accepted
  rw [if_neg refused] at accepted
  cases accepted

/-- The copy another server keeps of a room that was handed to it. -/
def movedRoom (options : RoomOptions) (adoptedAt committedAt : Int) (payload : AdoptRoomPayload) : Room :=
  (adoptedRoom (adoptedOptions payload options) adoptedAt payload).refreshHandOffGrace committedAt

theorem adoptedRoom_eq (options : RoomOptions) (now : Int) (payload : AdoptRoomPayload) :
    adoptedRoom options now payload =
      { Room.construct options payload.capacity payload.mapId payload.matchId payload.playedGames
          payload.grantedMatchId payload.locked with
        state := .waiting
        roster := (LobbyRoster.empty payload.capacity).adoptAll payload.members
          (now + options.timing.reconnectGraceMs)
        startLock := (adoptedRoom options now payload).startLock } := rfl

section
variable {r : Room} (options : RoomOptions) (adoptedAt committedAt : Int)

theorem movedRoom_seated (r : Room) :
    SameSeats (adoptedRoom (adoptedOptions r.exportForHandOff options) adoptedAt r.exportForHandOff)
      (movedRoom options adoptedAt committedAt r.exportForHandOff) :=
  SameSeats.refreshHandOffGrace _ committedAt

/-- The seats that the copy has. -/
theorem movedRoom_seats (housed : Housed r.roster) (lobby : Lobby r) :
    AdoptedSeats r.roster (movedRoom options adoptedAt committedAt r.exportForHandOff).roster := by
  have adopted := adoptAll_seats housed lobby.members
    (adoptedAt + (adoptedOptions r.exportForHandOff options).timing.reconnectGraceMs)
  have kept := movedRoom_seated options adoptedAt committedAt r
  exact ⟨kept.capacity.trans adopted.capacity,
    (congrArg KeyedList.entries kept.holds).trans adopted.holds, kept.host.trans adopted.host,
    kept.seats.trans adopted.seats⟩

theorem movedRoom_lobby (housed : Housed r.roster) (lobby : Lobby r) :
    Lobby (movedRoom options adoptedAt committedAt r.exportForHandOff) := by
  have seats := movedRoom_seats options adoptedAt committedAt housed lobby
  refine ⟨rfl, seats.holds, fun none_ => ?_⟩
  have length := congrArg List.length seats.seats
  rw [none_, List.map_nil, List.length_map, List.length_nil] at length
  have sorted : r.roster.members.length = r.roster.membersByUser.entries.length :=
    List.length_insertionSort _ _
  exact lobby.members (List.length_eq_zero_iff.mp (sorted.symm.trans length.symm))

/-- The copy exports what it was made of. -/
theorem movedRoom_export (housed : Housed r.roster) (lobby : Lobby r) :
    (movedRoom options adoptedAt committedAt r.exportForHandOff).exportForHandOff =
      r.exportForHandOff := by
  have seats := movedRoom_seats options adoptedAt committedAt housed lobby
  have members := seats.exported housed
  have capacity := seats.capacity
  have room := (movedRoom_seated options adoptedAt committedAt r).room
  rw [adoptedRoom_eq] at room
  generalize movedRoom options adoptedAt committedAt r.exportForHandOff = moved at *
  unfold Room.exportForHandOff Room.members
  rw [members, capacity]
  rw [room]
  rfl

/-- The copy, where everybody is back, and the room, where everybody is connected, are twins. -/
theorem movedRoom_twins {v w : Room} (housed : Housed r.roster) (lobby : Lobby r)
    (thawed : r.handingOff = false)
    (settings : SameSettings r.options (adoptedOptions r.exportForHandOff options))
    (here : SameSeats r v)
    (there : SameSeats (movedRoom options adoptedAt committedAt r.exportForHandOff) w)
    (connected : ∀ m ∈ v.roster.membersByUser.entries, m.connection.isSome = true)
    (connected' : ∀ m ∈ w.roster.membersByUser.entries, m.connection.isSome = true) :
    Twins r.kickedUsers v w := by
  have seats := movedRoom_seats options adoptedAt committedAt housed lobby
  have adopted := movedRoom_seated options adoptedAt committedAt r
  have room := there.room.trans (by rw [adopted.room, adoptedRoom_eq])
  have all (r : LobbyRoster) (on : ∀ m ∈ r.membersByUser.entries, m.connection.isSome = true) :
      r.membersByUser.entries.map seatOf =
        (r.membersByUser.entries.map (Room.exportMember none)).map fun m => (m, true) := by
    rw [List.map_map]
    exact List.map_congr_left fun m inside => congrArg _ (on m inside)
  have orders : (v.roster.membersByUser.entries.map LobbyMember.joinedOrder).Nodup := by
    have same := congrArg (List.map AdoptedRoomMember.joinedOrder) here.seats
    rw [List.map_map, List.map_map] at same
    exact (congrArg List.Nodup same).mpr housed.numbered.orders
  have lobbies : LobbyRoster.SameLobby v.roster w.roster := by
    refine ⟨?_, KeyedList.ext ?_, ?_, ?_, orders, connected⟩
    · rw [there.capacity, seats.capacity, here.capacity]
    · rw [there.holds, seats.holds, here.holds, lobby.free]
    · rw [there.host, seats.host, here.host]
    · rw [all _ connected, all _ connected', there.seats, seats.seats, here.seats]
      exact ((sortById_perm LobbyMember.joinedOrder _).map _).map _
  have waiting := here.state.trans lobby.waiting
  rw [here.room] at waiting ⊢
  rw [room]
  exact
    { id := rfl, mode := rfl, label := ⟨rfl, rfl⟩, password := rfl, settings
      state := waiting.symm, going := by rw [waiting]; nofun
      counting := by rw [waiting]; nofun
      started := by rw [waiting]; simp
      thawed := ⟨thawed, rfl⟩, mapId := rfl, matchId := rfl, granted := rfl, played := rfl
      locked := rfl, kicked := fun userId => by simp [Room.construct], lobby := lobbies }

end

/-! ## What the room and its copy answer -/

def HostedRoom.asks (h : HostedRoom K) : List (LobbyOp K) → List LobbyAnswer
  | [] => []
  | op :: rest => (h.ask op).2 :: (h.ask op).1.asks rest

def HostedRoom.asked (h : HostedRoom K) (ops : List (LobbyOp K)) : HostedRoom K :=
  ops.foldl (fun h op => (h.ask op).1) h

/-- Every question may be asked at its turn. -/
def AskableAll (gone : Finset ActorId) : HostedRoom K → HostedRoom K → List (LobbyOp K) → Prop
  | _, _, [] => True
  | h, g, op :: rest =>
    Askable gone h.room g.room op ∧ AskableAll gone (h.ask op).1 (g.ask op).1 rest

theorem Twins.asks {gone : Finset ActorId} {h g : HostedRoom K} (twins : Twins gone h.room g.room)
    {ops : List (LobbyOp K)} (may : AskableAll gone h g ops) :
    g.asks ops = h.asks ops ∧ Twins gone (h.asked ops).room (g.asked ops).room := by
  induction ops generalizing h g with
  | nil => exact ⟨rfl, twins⟩
  | cons op rest ih =>
    obtain ⟨answer, after⟩ := twins.ask may.1
    obtain ⟨answers, last⟩ := ih after may.2
    rw [HostedRoom.asks, HostedRoom.asks, answer, answers]
    exact ⟨rfl, last⟩

omit [JsNumber K] in
theorem Twins.exportForHandOff {gone : Finset ActorId} {r v : Room} (twins : Twins gone r v) :
    v.exportForHandOff = r.exportForHandOff := by
  have seats := twins.lobby.seats.map Prod.fst
  rw [List.map_map, List.map_map] at seats
  have orders : ((r.roster.membersByUser.entries.map (Room.exportMember none)).map
      AdoptedRoomMember.joinedOrder).Nodup := by
    rw [List.map_map]
    exact twins.lobby.orders
  have members : v.members.map (Room.exportMember v.roster.hostId) =
      r.members.map (Room.exportMember r.roster.hostId) := by
    rw [Room.members, Room.members, exported_members, exported_members,
      hostId_perm twins.lobby.host seats]
    exact congrArg _ (sortById_eq seats orders)
  unfold Room.exportForHandOff
  rw [members, twins.id, twins.mode, twins.label.1, twins.label.2, twins.password, twins.matchId,
    twins.played, twins.granted, twins.locked, twins.mapId, twins.lobby.capacity]

/-- The room from its freeze to its release. -/
def HostedRoom.frozen (h : HostedRoom K) (events : List (SourceEvent K)) : HostedRoom K :=
  events.foldl HostedRoom.receive (h.mapRoom fun room => room.freezeForHandOff.1)

/-- What the next server begins with. -/
def HostedRoom.moved (h : HostedRoom K) (events : List (SourceEvent K)) (options : RoomOptions)
    (adoptedAt committedAt : Int) : HostedRoom K :=
  unplayed (movedRoom options adoptedAt committedAt (h.frozen events).room.exportForHandOff)

def Connected (r : Room) : Prop :=
  ∀ m ∈ r.roster.membersByUser.entries, m.connection.isSome = true

instance (r : Room) : Decidable (Connected r) :=
  inferInstanceAs (Decidable (∀ m ∈ r.roster.membersByUser.entries, m.connection.isSome = true))

instance (r : Room) (now : Int) : Decidable (Waits r now) :=
  inferInstanceAs (Decidable (∀ m ∈ r.roster.membersByUser.entries,
    HostedRoom.seatExpired now m = false ∧
      (HostedRoom.admissionExpired now m = true → m.reconnectUntil ≠ none)))

instance (h : HostedRoom K) : ∀ op, Decidable (InTime h op)
  | .admitReservation _ now _ => inferInstanceAs (Decidable (Waits h.room now))
  | .advance _ now => inferInstanceAs (Decidable (Waits h.room now))
  | .bindConnection .. => isTrue trivial
  | .disconnect .. => isTrue trivial

theorem frozen_export {h : HostedRoom K} (accepted : h.room.freezeForHandOff.2 = true)
    (events : List (SourceEvent K)) :
    (h.frozen events).room.exportForHandOff = h.room.exportForHandOff := by
  have may := canHandOff_of_accepted accepted
  have freezes : h.room.freezeForHandOff.1 = { h.room with handingOff := true } := by
    unfold Room.freezeForHandOff
    rw [if_pos may]
  have kept := receive_seated (h := h.mapRoom fun room => room.freezeForHandOff.1)
    (by
      show h.room.freezeForHandOff.1.state = .waiting
      rw [freezes]
      exact (canHandOff_spec may).2.waiting)
    (by
      show h.room.freezeForHandOff.1.handingOff = true
      rw [freezes]) events
  refine kept.exportForHandOff.trans ?_
  show h.room.freezeForHandOff.1.exportForHandOff = _
  rw [freezes]
  rfl

/-- A room keeps its payload from the freeze on, on the way and among the members that come back, and
where they are all back, it answers like the room that would have stayed. -/
theorem handOff_keeps {r : HostRun K} (lived : Lived r)
    (accepted : r.host.room.freezeForHandOff.2 = true) {events : List (SourceEvent K)}
    {options : RoomOptions} {adoptedAt committedAt : Int}
    (settings : SameSettings r.host.room.options
      (adoptedOptions r.host.room.exportForHandOff options))
    {there : List (ReturnOp K)} (back : AllowedRun InTime HostedRoom.resume
      (r.host.moved events options adoptedAt committedAt) there)
    {here : List (ReturnOp K)} (stay : AllowedRun InTime HostedRoom.resume r.host here) :
    let payload := (r.host.frozen []).room.exportForHandOff
    let source := here.foldl HostedRoom.resume r.host
    let copy := there.foldl HostedRoom.resume (r.host.moved events options adoptedAt committedAt)
    (r.host.frozen events).room.exportForHandOff = payload ∧ copy.room.exportForHandOff = payload ∧
      (Connected source.room → Connected copy.room → ∀ ops : List (LobbyOp K),
        AskableAll r.host.room.kickedUsers source copy ops → copy.asks ops = source.asks ops ∧
          (copy.asked ops).room.exportForHandOff = (source.asked ops).room.exportForHandOff ∧
          ∀ userId, userId ∈ (source.asked ops).room.kickedUsers ↔
            userId ∈ r.host.room.kickedUsers ∨ userId ∈ (copy.asked ops).room.kickedUsers) := by
  intro payload source copy
  have may := canHandOff_of_accepted accepted
  obtain ⟨thawed, lobby⟩ := canHandOff_spec may
  have housed := lived.law.housed
  have sent : (r.host.frozen events).room.exportForHandOff = r.host.room.exportForHandOff :=
    frozen_export accepted events
  have first : payload = r.host.room.exportForHandOff := frozen_export accepted []
  have begins : (r.host.moved events options adoptedAt committedAt).room =
      movedRoom options adoptedAt committedAt r.host.room.exportForHandOff := by
    rw [← sent]
    rfl
  have returned := returns_seated (by
    rw [begins]
    exact movedRoom_lobby options adoptedAt committedAt housed lobby) back
  rw [begins] at returned
  refine ⟨sent.trans first.symm, ?_, fun on on' ops ask => ?_⟩
  · rw [first, ← movedRoom_export options adoptedAt committedAt housed lobby]
    exact returned.exportForHandOff
  · have twins := movedRoom_twins options adoptedAt committedAt housed lobby thawed settings
      (returns_seated lobby stay) returned on on'
    obtain ⟨answers, last⟩ := Twins.asks twins ask
    exact ⟨answers, last.exportForHandOff, last.kicked⟩

/-! ## A room that moves -/

/-- Four users are in a room. -/
def quartet : HostRun ℚ :=
  ((join 1).tail ++ join 2 ++ join 3 ++ join 4).foldl HostRun.apply
    (.start (unplayed (Room.create matchOptions 8 "yard" "M1" (ticket 1 false 15000))))

def comeBack (user : Nat) : List (ReturnOp ℚ) :=
  [.admitReservation startEnv 2000 (ticket user true 15000), .bindConnection 2000 (socket user user true)]

def questions : List (LobbyOp ℚ) :=
  [.reserveJoin startEnv 3000 (ticket 5 false 15000) none, .passHost (.account 1) 2,
    .requestStart 20000 (.account 2) ⟨false, true⟩,
    .reserveJoin startEnv 29000 (ticket 6 false 44000) none]

def returns : List (ReturnOp ℚ) := comeBack 1 ++ comeBack 2 ++ comeBack 3 ++ comeBack 4

theorem handOff_keeps_quartet :
    (returns.foldl HostedRoom.resume (quartet.host.moved [.disconnect 2000 (socket 2 2 false)]
      matchOptions 2000 2000)).asks questions = quartet.host.asks questions ∧
      quartet.host.asks questions = [.reserved none, .told none, .told none, .reserved none] := by
  have lived : Lived quartet :=
    (Lived.created matchOptions 8 (by decide) "yard" "M1" (ticket 1 false 15000)).ops _
  have nobody : quartet.host.room.kickedUsers = ∅ := by decide +kernel
  have stranger (user : ActorId) : user ∉ quartet.host.room.kickedUsers := by
    rw [nobody]
    exact Finset.notMem_empty user
  have stay : AllowedRun InTime HostedRoom.resume quartet.host [] := trivial
  refine ⟨((handOff_keeps lived (by decide +kernel)
    ⟨by decide +kernel, by decide +kernel, by decide +kernel⟩ (by decide +kernel) stay).2.2
      (by decide +kernel) (by decide +kernel) questions ?_).1, by decide +kernel⟩
  exact ⟨stranger _, trivial, ⟨by decide +kernel, by decide +kernel⟩, stranger _, trivial⟩

/-- The copy of a room answers everything as the room would, whoever asks and when. -/
def AnswersAlike (r : HostRun K) : Prop :=
  ∀ (events : List (SourceEvent K)) (options : RoomOptions) (adoptedAt committedAt : Int)
    (there : List (ReturnOp K)) (ops : List (LobbyOp K)),
    let copy := there.foldl HostedRoom.resume (r.host.moved events options adoptedAt committedAt)
    SameSettings r.host.room.options (adoptedOptions r.host.room.exportForHandOff options) →
    AllowedRun InTime HostedRoom.resume (r.host.moved events options adoptedAt committedAt) there →
    Connected r.host.room → Connected copy.room → copy.asks ops = r.host.asks ops

/-- The host has kicked the other user. -/
def alone : HostRun ℚ :=
  ((join 1).tail ++ join 2 ++ [HostOp.kick 1000 (.account 1) 2]).foldl HostRun.apply
    (.start (unplayed (Room.create matchOptions 8 "yard" "M1" (ticket 1 false 15000))))

/-- A copy lets a kicked user in, and also where nobody was kicked it is locked against a start for
longer than the room. -/
theorem handOff_forgets :
    (¬ ∀ r : HostRun ℚ, Lived r → r.host.room.freezeForHandOff.2 = true → AnswersAlike r) ∧
      ¬ ∀ r : HostRun ℚ, Lived r → r.host.room.freezeForHandOff.2 = true →
        r.host.room.kickedUsers = ∅ → AnswersAlike r := by
  have lived (ops : List (HostOp ℚ)) : Lived (ops.foldl HostRun.apply
      (.start (unplayed (Room.create matchOptions 8 "yard" "M1" (ticket 1 false 15000))))) :=
    (Lived.created matchOptions 8 (by decide) "yard" "M1" (ticket 1 false 15000)).ops ops
  constructor
  · intro same
    have answers := same alone (lived _) (by decide +kernel) [] matchOptions 2000 2000 (comeBack 1)
      [.reserveJoin startEnv 62000 (ticket 2 false 77000) none]
      ⟨by decide +kernel, by decide +kernel, by decide +kernel⟩ (by decide +kernel)
      (by decide +kernel) (by decide +kernel)
    exact absurd answers (by decide +kernel)
  · intro same
    have answers := same quartet (lived _) (by decide +kernel) (by decide +kernel) [] matchOptions
      2000 2000 returns [.requestStart 6000 (.account 1) ⟨false, true⟩]
      ⟨by decide +kernel, by decide +kernel, by decide +kernel⟩ (by decide +kernel)
      (by decide +kernel) (by decide +kernel)
    exact absurd answers (by decide +kernel)

end SwitchRemake.Game

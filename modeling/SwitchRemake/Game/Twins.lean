import SwitchRemake.Game.SameLobby
import SwitchRemake.Game.Spectators

/-!
# A room and its copy

What is asked of a room while everybody is connected, a room with the same lobby answers alike: also over
the start of a match.
-/

namespace SwitchRemake.Rooms

inductive LobbyAnswer where
  | reserved (error : Option ControlErrorCode)
  | granted
  | told (error : Option ErrorCode)
  | moved (result : Option MoveSlotResult)
  deriving DecidableEq

end SwitchRemake.Rooms

namespace SwitchRemake.Game
open Lib Simulation Rooms

/-- What a room is asked. -/
inductive LobbyOp (K : Type) where
  | reserveJoin (env : StartEnv K) (now : Int) (reservation : SeatReservation)
      (password : Option String)
  | grantMatchId (matchId : MatchId)
  | requestStart (now : Int) (requester : ActorId) (gate : Room.StartGate)
  | kick (now : Int) (requester : ActorId) (playerId : Nat)
  | moveSlot (userId : ActorId) (slot : Nat)
  | passHost (requester : ActorId) (playerId : Nat)

variable {K : Type} [JsNumber K]

namespace HostedRoom

/-- The answer, and the room after it. -/
def ask (h : HostedRoom K) : LobbyOp K → HostedRoom K × LobbyAnswer
  | .reserveJoin env now reservation password =>
    let reserved := h.reserveJoin env now reservation password
    (reserved.1, .reserved reserved.2)
  | .grantMatchId matchId => ({ h with room := h.room.grantMatchId matchId }, .granted)
  | .requestStart now requester gate =>
    let started := h.room.requestStart now requester gate
    ({ h with room := started.1 }, .told started.2)
  | .kick now requester playerId =>
    let kicked := h.kick now requester playerId
    (kicked.1, .told kicked.2)
  | .moveSlot userId slot =>
    let moved := h.room.moveSlot userId slot
    ({ h with room := moved.1 }, .moved moved.2)
  | .passHost requester playerId =>
    let passed := h.room.passHost requester playerId
    ({ h with room := passed.1 }, .told passed.2)

end HostedRoom

/-- What two servers with the same settings give their rooms. -/
structure SameSettings (a b : RoomOptions) : Prop where
  players : b.minPlayersToStart = a.minPlayersToStart
  countdown : b.timing.countdownMs = a.timing.countdownMs
  duration : b.maxMatchDurationTicks = a.maxMatchDurationTicks

/-- The two rooms have the same lobby; `gone` were kicked before the hand-off. -/
structure Twins (gone : Finset ActorId) (r v : Room) : Prop where
  id : v.id = r.id
  mode : v.mode = r.mode
  label : v.options.name = r.options.name ∧ v.options.roomCode = r.options.roomCode
  password : v.options.password = r.options.password
  settings : SameSettings r.options v.options
  state : v.state = r.state
  going : r.state ≠ .postGame
  counting : r.state = .countdown → v.countdownEndsAt = r.countdownEndsAt
  started : r.state = .countdown ∨ r.state = .playing → v.startSnapshot = r.startSnapshot
  thawed : r.handingOff = false ∧ v.handingOff = false
  mapId : v.mapId = r.mapId
  matchId : v.matchId = r.matchId
  granted : v.grantedMatchId = r.grantedMatchId
  played : v.playedGames = r.playedGames
  locked : v.locked = r.locked
  kicked : ∀ userId, userId ∈ r.kickedUsers ↔ userId ∈ gone ∨ userId ∈ v.kickedUsers
  lobby : LobbyRoster.SameLobby r.roster v.roster

/-- Nobody who was kicked before the hand-off asks for a seat, and no start lock is on. -/
def Askable (gone : Finset ActorId) (r v : Room) : LobbyOp K → Prop
  | .reserveJoin _ _ reservation _ => reservation.userId ∉ gone
  | .requestStart now _ _ => r.startLock.unlocksAt ≤ now ∧ v.startLock.unlocksAt ≤ now
  | _ => True

section
variable {gone : Finset ActorId} {r v : Room}

theorem Twins.reserveJoin (twins : Twins gone r v) {reservation : SeatReservation}
    (asks : reservation.userId ∉ gone) (now : Int) (password : Option String) :
    (v.reserveJoin now reservation password).2 = (r.reserveJoin now reservation password).2 ∧
      Twins gone (r.reserveJoin now reservation password).1
        (v.reserveJoin now reservation password).1 := by
  have blocked : v.lockedPlayerIds = r.lockedPlayerIds := by
    unfold Room.lockedPlayerIds
    rw [twins.state]
    split
    · rename_i playing
      rw [twins.started (.inr playing)]
    · rfl
  have kicked : reservation.userId ∈ v.kickedUsers ↔ reservation.userId ∈ r.kickedUsers := by
    rw [twins.kicked]
    exact ⟨.inr, fun known => known.resolve_left asks⟩
  have refused : v.passwordRefused password = r.passwordRefused password := by
    unfold Room.passwordRefused
    rw [twins.password]
  obtain ⟨answer, lobby⟩ := twins.lobby.hold reservation r.lockedPlayerIds
  unfold Room.reserveJoin
  rw [twins.state, twins.id, twins.locked, refused, blocked]
  simp only [kicked, answer]
  split
  · exact ⟨rfl, twins⟩
  split
  · exact ⟨rfl, twins⟩
  split
  · exact ⟨rfl, twins⟩
  split
  · exact ⟨rfl, twins⟩
  split
  · exact ⟨rfl, twins⟩
  cases (r.roster.hold reservation r.lockedPlayerIds).2 with
  | error failure => cases failure <;> exact ⟨rfl, twins⟩
  | ok seat => exact ⟨rfl, { twins with state := rfl, locked := rfl, lobby }⟩

theorem Twins.grantMatchId (twins : Twins gone r v) (matchId : MatchId) :
    Twins gone (r.grantMatchId matchId) (v.grantMatchId matchId) := by
  unfold Room.grantMatchId
  rw [twins.matchId]
  split
  · exact twins
  · exact { twins with matchId := rfl, granted := rfl }

theorem Twins.passHost (twins : Twins gone r v) (requester : ActorId) (playerId : Nat) :
    (v.passHost requester playerId).2 = (r.passHost requester playerId).2 ∧
      Twins gone (r.passHost requester playerId).1 (v.passHost requester playerId).1 := by
  obtain ⟨answer, lobby⟩ := twins.lobby.passHost requester playerId
  have host : v.roster.isHost requester = r.roster.isHost requester := by
    unfold LobbyRoster.isHost
    rw [twins.lobby.host]
  unfold Room.passHost
  rw [twins.state, host]
  dsimp only
  rw [answer]
  split
  · exact ⟨rfl, twins⟩
  split
  · exact ⟨rfl, twins⟩
  split
  · exact ⟨rfl, { twins with state := rfl, lobby }⟩
  · exact ⟨rfl, twins⟩

theorem Twins.moveSlot (twins : Twins gone r v) (userId : ActorId) (slot : Nat) :
    (v.moveSlot userId slot).2 = (r.moveSlot userId slot).2 ∧
      Twins gone (r.moveSlot userId slot).1 (v.moveSlot userId slot).1 := by
  obtain ⟨answer, lobby⟩ := twins.lobby.moveSlot userId slot
  have editable : v.lobbyEditable = r.lobbyEditable := by
    unfold Room.lobbyEditable
    rw [twins.state]
  unfold Room.moveSlot
  rw [editable]
  dsimp only
  rw [answer]
  split
  · exact ⟨rfl, twins⟩
  · exact ⟨rfl, { twins with lobby }⟩

theorem Twins.participants (twins : Twins gone r v) :
    v.participants.map seatOf = r.participants.map seatOf := by
  have each (r : Room) : r.participants.map seatOf =
      (r.members.map seatOf).filter fun seat => seat.2 := by
    rw [List.filter_map]
    rfl
  rw [each v, each r]
  exact congrArg (List.filter fun seat => seat.2) twins.lobby.members

theorem remaining_zero {l : StartLock} {now : Int} (off : l.unlocksAt ≤ now) :
    l.remainingMs now = 0 := by
  unfold StartLock.remainingMs
  omega

theorem Twins.requestStart (twins : Twins gone r v) {now : Int}
    (here : r.startLock.unlocksAt ≤ now) (there : v.startLock.unlocksAt ≤ now) (requester : ActorId)
    (gate : Room.StartGate) :
    (v.requestStart now requester gate).2 = (r.requestStart now requester gate).2 ∧
      Twins gone (r.requestStart now requester gate).1 (v.requestStart now requester gate).1 := by
  have host : v.roster.isHost requester = r.roster.isHost requester := by
    unfold LobbyRoster.isHost
    rw [twins.lobby.host]
  have many : v.participants.length = r.participants.length := by
    have length := congrArg List.length twins.participants
    rwa [List.length_map, List.length_map] at length
  have players : (v.participants.map fun m => (⟨m.playerId, m.loadout⟩ : RoomStartPlayer)) =
      r.participants.map fun m => ⟨m.playerId, m.loadout⟩ := by
    have each := congrArg (List.map fun seat : AdoptedRoomMember × Bool =>
      (⟨seat.1.playerId, seat.1.loadout⟩ : RoomStartPlayer)) twins.participants
    rwa [List.map_map, List.map_map] at each
  by_cases waiting : r.state = .waiting
  · have waiting' : v.state = .waiting := twins.state.trans waiting
    unfold Room.requestStart
    simp only [waiting, waiting', remaining_zero here, remaining_zero there, host, many,
      twins.settings.players, twins.played, twins.mode, twins.granted]
    split
    · exact ⟨rfl, twins⟩
    split
    · exact ⟨rfl, twins⟩
    split
    · exact ⟨rfl, twins⟩
    split
    · exact ⟨rfl, twins⟩
    split
    · exact ⟨rfl, twins⟩
    split
    · exact ⟨rfl, twins⟩
    split
    · exact ⟨rfl, twins⟩
    refine ⟨rfl, ?_⟩
    have counts (started : Room) (before : started.state = .waiting) :
        started.transition .countdown = { started with state := .countdown } := by
      unfold Room.transition
      rw [before]
      rfl
    rw [counts _ rfl, counts _ rfl]
    exact { twins with
      state := rfl, going := nofun, granted := rfl, played := rfl
      counting := fun _ => by simp only [twins.settings.countdown]
      started := fun _ => by
        simp only [twins.id, twins.matchId, twins.mapId, players, twins.settings.duration]
      matchId := by simp only [twins.matchId]
      lobby := twins.lobby.clearHolds }
  · have waiting' : v.state ≠ .waiting := by rwa [twins.state]
    unfold Room.requestStart
    rw [if_pos waiting, if_pos waiting']
    exact ⟨rfl, twins⟩

end

section
variable {gone : Finset ActorId} {h g : HostedRoom K}

omit [JsNumber K] in
theorem roomAfter_apart {r : Room} (apart : r.state ≠ .playing) (now : Int) (n : RoomNotice K) :
    roomAfter now r n = r := by
  cases n with
  | skillRejected rejection => rfl
  | finishGame winnerIds => simp only [roomAfter, Room.finishGame, if_pos apart]
  | event event =>
    cases event with
    | eliminated playerId source => exact if_pos apart
    | _ => rfl

theorem eliminate_apart (apart : h.room.state ≠ .playing) (now : Int) (playerId : Nat) :
    (h.eliminate now playerId).room = h.room := by
  unfold HostedRoom.eliminate
  cases h.session with
  | none => rfl
  | some s =>
    dsimp only
    rw [notices_room]
    generalize (s.game.eliminateDisconnected playerId).notices = ns
    dsimp only
    induction ns with
    | nil => rfl
    | cons n ns ih => rw [List.foldl_cons, roomAfter_apart apart, ih]

omit [JsNumber K] in
theorem Twins.close (twins : Twins gone h.room g.room) :
    Twins gone h.close.room g.close.room := by
  unfold HostedRoom.close
  rw [twins.state]
  split
  · exact twins
  · rename_i open_
    have may (state : RoomState) (before : state ≠ .closed) : canTransition state .closed = true := by
      cases state with
      | closed => exact absurd rfl before
      | _ => rfl
    have closes (room : Room) (before : room.state ≠ .closed) :
        room.transition .closed = { room with state := .closed } :=
      if_pos (may room.state before)
    dsimp only [HostedRoom.stopRoom]
    have open' : g.room.state ≠ .closed := by rwa [twins.state]
    rw [closes { h.room with roster := h.room.roster.clearHolds } open_,
      closes { g.room with roster := g.room.roster.clearHolds } open']
    exact { twins with
      state := rfl, going := nofun, counting := nofun, started := by simp
      lobby := twins.lobby.clearHolds }

omit [JsNumber K] in
theorem Twins.closeIfEmpty (twins : Twins gone h.room g.room) :
    Twins gone h.closeIfEmpty.room g.closeIfEmpty.room := by
  unfold HostedRoom.closeIfEmpty
  rw [twins.lobby.size]
  split
  · exact twins.close
  · exact twins

theorem Twins.removeMember (twins : Twins gone h.room g.room) (apart : h.room.state ≠ .playing)
    (now : Int) (userId : ActorId) (told : Bool) : Twins gone (h.removeMember now userId told).1.room
      (g.removeMember now userId told).1.room := by
  obtain ⟨found, lobby⟩ := twins.lobby.remove userId
  unfold HostedRoom.removeMember
  dsimp only
  cases here : (h.room.roster.remove userId).2 with
  | none =>
    rw [here, Option.map_none, Option.map_eq_none_iff] at found
    rw [found]
    exact twins
  | some m =>
    rw [here, Option.map_some, Option.map_eq_some_iff] at found
    obtain ⟨n, there, seat⟩ := found
    rw [there]
    have left : Twins gone { h.room with roster := (h.room.roster.remove userId).1 }
        { g.room with roster := (g.room.roster.remove userId).1 } := { twins with lobby }
    dsimp only
    refine Twins.closeIfEmpty ?_
    cases told with
    | false => exact left
    | true =>
      simp only [if_true]
      rw [eliminate_apart (by exact apart), eliminate_apart (by
        rw [← twins.state] at apart
        exact apart)]
      exact left

theorem Twins.kick (twins : Twins gone h.room g.room) (now : Int) (requester : ActorId)
    (playerId : Nat) :
    (g.kick now requester playerId).2 = (h.kick now requester playerId).2 ∧
      Twins gone (h.kick now requester playerId).1.room (g.kick now requester playerId).1.room := by
  have found := twins.lobby.find playerId
  have host : g.room.roster.isHost requester = h.room.roster.isHost requester := by
    unfold LobbyRoster.isHost
    rw [twins.lobby.host]
  unfold HostedRoom.kick
  rw [twins.state, host]
  split
  · exact ⟨rfl, twins⟩
  rename_i waiting
  have apart : h.room.state ≠ .playing := by
    rw [not_not.mp waiting]
    nofun
  split
  · exact ⟨rfl, twins⟩
  cases here : h.room.roster.getByPlayerId playerId with
  | none =>
    rw [here, Option.map_none, Option.map_eq_none_iff] at found
    rw [found]
    exact ⟨rfl, twins⟩
  | some m =>
    rw [here, Option.map_some, Option.map_eq_some_iff] at found
    obtain ⟨n, there, seat⟩ := found
    have own : n.userId = m.userId := congrArg (fun seat => seat.1.userId) seat
    rw [there]
    dsimp only
    rw [own]
    split
    · exact ⟨rfl, twins⟩
    · refine ⟨rfl, Twins.removeMember ?_ (by exact apart) now m.userId true⟩
      refine { twins with kicked := fun userId => ?_ }
      show userId ∈ insert m.userId h.room.kickedUsers ↔
        userId ∈ gone ∨ userId ∈ insert m.userId g.room.kickedUsers
      rw [Finset.mem_insert, Finset.mem_insert, twins.kicked]
      exact or_left_comm

/-- Nobody who is connected loses a seat when the room catches up with the clock. -/
theorem expireMembers_connected (connected : ∀ m ∈ h.room.roster.membersByUser.entries,
    m.connection.isSome = true) (now : Int) : h.expireMembers now =
      h.mapRoom fun room => { room with roster := room.roster.purgeExpiredHolds now } := by
  unfold HostedRoom.expireMembers
  dsimp only
  have stays (ms : List LobbyMember) (all : ∀ m ∈ ms, m.connection.isSome = true)
      (h : HostedRoom K) : ms.foldl (HostedRoom.expireMember now) h = h := by
    induction ms generalizing h with
    | nil => rfl
    | cons m rest ih =>
      have on : m.connection.isNone = false := by
        rw [Option.isNone_eq_false_iff]
        exact all m List.mem_cons_self
      have same : h.expireMember now m = h := by
        simp [HostedRoom.expireMember, HostedRoom.admissionExpired, HostedRoom.seatExpired, on]
      rw [List.foldl_cons, same]
      exact ih (fun n inside => all n (List.mem_cons_of_mem m inside)) h
  exact stays _ (fun m inside => connected m (LobbyRoster.mem_members.mp inside)) _

theorem startGame_isSome (h g : HostedRoom K) (env : StartEnv K) (snapshot : RoomStartSnapshot) :
    (h.startGame env snapshot).isSome = (g.startGame env snapshot).isSome := by
  unfold HostedRoom.startGame
  simp only [Option.isSome_map]

theorem Twins.startIfDue (twins : Twins gone h.room g.room) (env : StartEnv K) (now : Int) :
    Twins gone (h.startIfDue env now).room (g.startIfDue env now).room := by
  by_cases counts : h.room.state = .countdown
  · unfold HostedRoom.startIfDue
    rw [twins.state, twins.counting counts, twins.started (.inl counts)]
    split
    · cases h.room.startSnapshot with
      | none => exact twins
      | some snapshot =>
        dsimp only
        have both := startGame_isSome h g env snapshot
        cases begun : h.startGame env snapshot with
        | none =>
          rw [begun, Option.isSome_none] at both
          rw [Option.isSome_eq_false_iff.mp both.symm |> Option.isNone_iff_eq_none.mp]
          exact twins
        | some h' =>
          rw [begun, Option.isSome_some] at both
          obtain ⟨g', begun'⟩ := Option.isSome_iff_exists.mp both.symm
          rw [begun']
          dsimp only [HostedRoom.mapRoom]
          rw [startGame_room begun, startGame_room begun']
          have plays (room : Room) (counting : room.state = .countdown) :
              room.transition .playing = { room with state := .playing } := by
            unfold Room.transition
            rw [counting]
            rfl
          unfold HostedRoom.enterGame
          dsimp only
          rw [plays _ (by exact counts), plays _ (by exact twins.state.trans counts)]
          exact { twins with
            state := rfl, going := nofun, counting := nofun
            started := fun _ => twins.started (.inl counts)
            lobby := twins.lobby.updateAll _ _ (fun _ => rfl) fun _ => rfl }
    · exact twins
  · have counts' : g.room.state ≠ .countdown := by rwa [twins.state]
    unfold HostedRoom.startIfDue
    rw [if_neg fun due => counts due.1, if_neg fun due => counts' due.1]
    exact twins

theorem Twins.advance (twins : Twins gone h.room g.room) (env : StartEnv K) (now : Int) :
    Twins gone (h.advance env now).room (g.advance env now).room := by
  have lobby := twins.lobby.purgeExpiredHolds now
  have purged : Twins gone (h.mapRoom fun room =>
      { room with roster := room.roster.purgeExpiredHolds now }).room (g.mapRoom fun room =>
        { room with roster := room.roster.purgeExpiredHolds now }).room := { twins with lobby }
  have lasts {h : HostedRoom K} (off : h.room.state ≠ .postGame) : h.returnIfDue now = h :=
    if_neg fun due => off due.1
  unfold HostedRoom.advance
  rw [twins.state, twins.thawed.1, twins.thawed.2, expireMembers_connected twins.lobby.connected,
    expireMembers_connected twins.lobby.connected']
  split
  · exact twins
  · dsimp only
    rw [purged.lobby.size, purged.lobby.occupiedSize, purged.state]
    split
    · split
      · exact purged.close
      · exact purged
    · have due := purged.startIfDue env now
      have going := due.going
      rw [lasts going, lasts (by rwa [due.state])]
      exact due

theorem Twins.ask (twins : Twins gone h.room g.room) {op : LobbyOp K}
    (may : Askable gone h.room g.room op) :
    (g.ask op).2 = (h.ask op).2 ∧ Twins gone (h.ask op).1.room (g.ask op).1.room := by
  cases op with
  | reserveJoin env now reservation password =>
    obtain ⟨answer, after⟩ := (twins.advance env now).reserveJoin may now password
    exact ⟨congrArg LobbyAnswer.reserved answer, after⟩
  | grantMatchId matchId => exact ⟨rfl, twins.grantMatchId matchId⟩
  | requestStart now requester gate =>
    obtain ⟨answer, after⟩ := twins.requestStart may.1 may.2 requester gate
    exact ⟨congrArg LobbyAnswer.told answer, after⟩
  | kick now requester playerId =>
    obtain ⟨answer, after⟩ := twins.kick now requester playerId
    exact ⟨congrArg LobbyAnswer.told answer, after⟩
  | moveSlot userId slot =>
    obtain ⟨answer, after⟩ := twins.moveSlot userId slot
    exact ⟨congrArg LobbyAnswer.moved answer, after⟩
  | passHost requester playerId =>
    obtain ⟨answer, after⟩ := twins.passHost requester playerId
    exact ⟨congrArg LobbyAnswer.told answer, after⟩

end
end SwitchRemake.Game

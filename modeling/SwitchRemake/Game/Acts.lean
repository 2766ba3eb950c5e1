import SwitchRemake.Game.HostRun
import SwitchRemake.Game.MatchLaws
import SwitchRemake.Rooms.Seats

/-!
# What the operations of a room come down to

Every operation is a chain of a few kinds of acts, apart from the ones that lock a lineup, take a
match id or look at the clock.
-/

namespace SwitchRemake.Game.HostedRoom
open Lib Simulation Rooms GameSession

/-- The ids of the room and of its matches stay. -/
structure SameMatch (r v : Room) : Prop where
  options : v.options = r.options
  matchId : v.matchId = r.matchId
  grantedMatchId : v.grantedMatchId = r.grantedMatchId
  playedGames : v.playedGames = r.playedGames

theorem SameMatch.refl (r : Room) : SameMatch r r := ⟨rfl, rfl, rfl, rfl⟩

/-- Connected, or somebody whose seat is kept after a lost connection. -/
def Reachable (m : LobbyMember) : Prop := m.connection ≠ none ∨ m.reconnectUntil ≠ none

def Stays (r v : LobbyRoster) : Prop :=
  ∀ m ∈ r.membersByUser.entries, ∃ n ∈ v.membersByUser.entries,
    LobbyRoster.SameSeat m n ∧ (Reachable m → Reachable n)

theorem Stays.refl (r : LobbyRoster) : Stays r r :=
  fun m member => ⟨m, member, LobbyRoster.SameSeat.refl m, id⟩

/-- A change of the room that no match notices: nobody is new, and nobody goes. -/
structure Quiet (r v : Room) : Prop where
  same : SameMatch r v
  state : v.state = r.state
  startSnapshot : v.startSnapshot = r.startSnapshot
  fades : LobbyRoster.Fades r.roster v.roster
  stays : Stays r.roster v.roster

theorem Quiet.refl (r : Room) : Quiet r r :=
  ⟨SameMatch.refl r, rfl, rfl, LobbyRoster.Fades.refl _, Stays.refl _⟩

variable {K : Type}

inductive Act : HostedRoom K → HostedRoom K → Prop where
  | quiet (h : HostedRoom K) {room : Room} (still : Quiet h.room room) : Act h { h with room }
  | play (h : HostedRoom K) {s : Registered K} {game : GameSession K} (on : h.session = some s)
      (plays : ∀ t, Tracks t s.game.world → Plays s.game game) :
      Act h { h with session := some { s with game } }
  | mark (h : HostedRoom K) {m : LobbyMember} (playing : h.room.state = .playing)
      (found : h.room.roster.getByUser m.userId = some m) (current : m.inCurrentGame = true)
      (out : h.OutOfMatch m.playerId) :
      Act h { h with room := h.room.markEliminatedMember m.userId }
  | remove (h : HostedRoom K) {m : LobbyMember}
      (found : h.room.roster.getByUser m.userId = some m) (out : h.OutOfMatch m.playerId) :
      Act h { h with
        room := { h.room with roster := (h.room.roster.remove m.userId).1 } }
  | finish (h : HostedRoom K) (playing : h.room.state = .playing) (returnsAt : Int) :
      Act h { h with
        room := { h.room with postGameEndsAt := some returnsAt, state := .postGame } }
  | isOver (h : HostedRoom K) {s : Registered K} (on : h.session = some s)
      (idle : h.room.state ≠ .playing) (game : GameSession K) :
      Act h { h with session := some { s with game } }
  | storing (h : HostedRoom K) {s : Registered K} (on : h.session = some s)
      (idle : h.room.state ≠ .playing) : Act h { h with storing := h.storing ++ [s.serial] }
  | stored (h : HostedRoom K) {serial : Nat} (member : serial ∈ h.storing) : Act h (h.stored serial)
  | close (h : HostedRoom K) {room : Room} {session : Option (Registered K)}
      (closed : room.state = .closed) (same : SameMatch h.room room)
      (fades : LobbyRoster.Fades h.room.roster room.roster)
      (gone : session = none ∨ session = h.session) : Act h { h with room, session }
  | hold (h : HostedRoom K) (reservation : SeatReservation)
      (admits : h.room.state = .waiting ∨ h.room.state = .playing) :
      Act h { h with room := { h.room with
        roster := (h.room.roster.hold reservation h.room.lockedPlayerIds).1 } }
  | claim (h : HostedRoom K) (userId : ActorId) (now : Int) (role : PlayerRole)
      (late : h.room.state = .playing → role ≠ .player) :
      Act h { h with room := { h.room with roster := (h.room.roster.claim userId now role).1 } }
  | wake (h : HostedRoom K) (allocating : h.room.state = .allocating) :
      Act h { h with room := { h.room with state := .waiting } }
  | shift (h : HostedRoom K) (userId : ActorId) (slot : Nat)
      (editable : h.room.state = .waiting ∨ h.room.state = .postGame) :
      Act h { h with room := { h.room with roster := (h.room.roster.moveSlot userId slot).1 } }

abbrev Acts : HostedRoom K → HostedRoom K → Prop := Relation.ReflTransGen Act

/-! ## Room operations that are quiet -/

theorem update_quiet (r : Room) (userId : ActorId) {f : LobbyMember → LobbyMember}
    (keeps : ∀ m, (f m).userId = m.userId) (same : ∀ m, LobbyRoster.SameSeat m (f m))
    (stays : ∀ m, Reachable m → Reachable (f m)) : Quiet r (r.updateMember userId f keeps) := by
  refine ⟨⟨rfl, rfl, rfl, rfl⟩, rfl, rfl, LobbyRoster.update_fades _ userId keeps same, ?_⟩
  intro m member
  by_cases own : m.userId = userId
  · have image : f m ∈ (r.roster.membersByUser.modify userId f keeps).entries :=
      KeyedList.mem_modify.mpr ⟨m, member, Or.inl ⟨own, rfl⟩⟩
    exact ⟨f m, image, same m, stays m⟩
  · have image : m ∈ (r.roster.membersByUser.modify userId f keeps).entries :=
      KeyedList.mem_modify.mpr ⟨m, member, Or.inr ⟨own, rfl⟩⟩
    exact ⟨m, image, LobbyRoster.SameSeat.refl m, id⟩

/-- The members are as they were. -/
theorem quiet_of_members {r v : Room} (same : SameMatch r v) (state : v.state = r.state)
    (startSnapshot : v.startSnapshot = r.startSnapshot)
    (fades : LobbyRoster.Fades r.roster v.roster)
    (members : v.roster.membersByUser = r.roster.membersByUser) : Quiet r v := by
  refine ⟨same, state, startSnapshot, fades, ?_⟩
  intro m member
  refine ⟨m, ?_, LobbyRoster.SameSeat.refl m, id⟩
  rw [members]
  exact member

theorem bindConnection_quiet (r : Room) (now : Int) (connection : Connection) :
    Quiet r (r.bindConnection now connection).1 := by
  unfold Room.bindConnection
  split
  · exact Quiet.refl r
  split
  · exact Quiet.refl r
  split
  · exact Quiet.refl r
  · exact update_quiet r _ _ (fun _ => ⟨rfl, rfl, rfl, rfl, rfl, rfl⟩) fun _ _ => Or.inl nofun

theorem passHost_quiet (r : Room) (requester : ActorId) (playerId : Nat) :
    Quiet r (r.passHost requester playerId).1 := by
  unfold Room.passHost
  split
  · exact Quiet.refl r
  split
  · exact Quiet.refl r
  dsimp only
  split
  · refine quiet_of_members ⟨rfl, rfl, rfl, rfl⟩ rfl rfl
      (LobbyRoster.passHost_fades r.roster requester playerId) ?_
    dsimp only
    unfold LobbyRoster.passHost
    split
    · rfl
    · split <;> rfl
  · exact Quiet.refl r

theorem setLocked_quiet (r : Room) (requester : ActorId) (locked : Bool) :
    Quiet r (r.setLocked requester locked).1 := by
  unfold Room.setLocked
  split
  · exact Quiet.refl r
  split
  · exact Quiet.refl r
  · exact quiet_of_members ⟨rfl, rfl, rfl, rfl⟩ rfl rfl (LobbyRoster.Fades.refl _) rfl

theorem setMap_quiet (r : Room) (now : Int) (requester : ActorId) (mapId : String) :
    Quiet r (r.setMap now requester mapId).1 := by
  unfold Room.setMap
  repeat' split
  all_goals exact quiet_of_members ⟨rfl, rfl, rfl, rfl⟩ rfl rfl (LobbyRoster.Fades.refl _) rfl

theorem setLoadout_quiet (r : Room) (userId : ActorId) (loadout : SkillId) :
    Quiet r (r.setLoadout userId loadout).1 := by
  unfold Room.setLoadout
  split
  · exact Quiet.refl r
  split
  · exact Quiet.refl r
  split
  · exact Quiet.refl r
  · exact update_quiet r _ _ (fun _ => ⟨rfl, rfl, rfl, rfl, rfl, rfl⟩) fun _ => id

theorem setSpectating_quiet (r : Room) (userId : ActorId) (spectating : Bool) :
    Quiet r (r.setSpectating userId spectating).1 := by
  unfold Room.setSpectating
  split
  · exact Quiet.refl r
  split
  · exact Quiet.refl r
  split
  · exact Quiet.refl r
  · exact update_quiet r _ _ (fun _ => ⟨rfl, rfl, rfl, rfl, rfl, rfl⟩) fun _ => id

theorem freezeForHandOff_quiet (r : Room) : Quiet r r.freezeForHandOff.1 := by
  unfold Room.freezeForHandOff
  split
  · exact quiet_of_members ⟨rfl, rfl, rfl, rfl⟩ rfl rfl (LobbyRoster.Fades.refl _) rfl
  · exact Quiet.refl r

/-! ## The game -/

theorem Acts.quiet (h : HostedRoom K) {f : Room → Room} (still : ∀ r, Quiet r (f r)) :
    Acts h (h.mapRoom f) :=
  .single (.quiet h (still h.room))

theorem Acts.mapGame (h : HostedRoom K) {f : GameSession K → GameSession K}
    (plays : ∀ s, h.session = some s → ∀ t, Tracks t s.game.world → Plays s.game (f s.game)) :
    Acts h (h.mapGame f) := by
  cases on : h.session with
  | none =>
    have same : h.mapGame f = h := by
      unfold HostedRoom.mapGame
      rw [on, Option.map_none, ← on]
    rw [same]
  | some s =>
    have moved : h.mapGame f = { h with session := some { s with game := f s.game } } := by
      unfold HostedRoom.mapGame
      rw [on, Option.map_some]
    rw [moved]
    exact .single (.play h on (plays s on))

theorem requestFullSnapshot_acts (h : HostedRoom K) (playerId : Nat) :
    Acts h (h.requestFullSnapshot playerId) :=
  .mapGame h fun _ _ _ tracks => .of_world tracks rfl rfl rfl rfl

theorem connectionChanged_acts (h : HostedRoom K) (playerId : Nat) (connected : Bool) :
    Acts h (h.connectionChanged playerId connected) :=
  .mapGame h fun _ _ _ tracks => connectionChanged_plays tracks playerId connected

theorem transition_closed (r : Room) : (r.transition .closed).state = .closed := by
  unfold Room.transition
  cases state : r.state <;> simp [canTransition, state]

theorem close_acts (h : HostedRoom K) : Acts h h.close := by
  unfold HostedRoom.close
  split
  · exact .refl
  · refine .single (.close h (transition_closed _) ?_ ?_ (Or.inl rfl))
    · unfold Room.transition
      split <;> exact ⟨rfl, rfl, rfl, rfl⟩
    · unfold Room.transition
      split <;> exact LobbyRoster.clearHolds_fades _

theorem closeIfEmpty_acts (h : HostedRoom K) : Acts h h.closeIfEmpty := by
  unfold closeIfEmpty
  split
  · exact close_acts h
  · exact .refl

theorem bindConnection_acts (h : HostedRoom K) (now : Int) (connection : Connection) :
    Acts h (h.bindConnection now connection).1 := by
  unfold HostedRoom.bindConnection
  dsimp only
  split
  · have bound : Acts h (h.mapRoom fun room => (room.bindConnection now connection).1) :=
      .quiet h fun r => bindConnection_quiet r now connection
    exact bound.trans (connectionChanged_acts _ connection.playerId true)
  · exact .refl

/-! ## What a session tells its room -/

/-- What a notice other than the end of the match does to the room. -/
def tellRoom (room : Room) : RoomNotice K → Room
  | .event (.eliminated playerId _) => room.markEliminated playerId
  | _ => room

/-- Everything but the end of a match. -/
def Told (h : HostedRoom K) : RoomNotice K → Prop
  | .event (.eliminated playerId _) => h.OutOfMatch playerId
  | .finishGame _ => False
  | _ => True

theorem Told.not_finish {h : HostedRoom K} {n : RoomNotice K} (told : Told h n)
    (winners : List Nat) : n ≠ .finishGame winners := by
  rintro rfl
  exact told

theorem notices_told (h : HostedRoom K) (now : Int) (serial : Nat) {ns : List (RoomNotice K)}
    (goesOn : ∀ n ∈ ns, ∀ winners, n ≠ .finishGame winners) :
    h.notices now serial ns = { h with room := ns.foldl tellRoom h.room } := by
  unfold HostedRoom.notices
  suffices run : ∀ room : Room, ns.foldl (notice now serial) { h with room } =
      { h with room := ns.foldl tellRoom room } from run h.room
  intro room
  induction ns generalizing room with
  | nil => rfl
  | cons n rest ih =>
    have later := ih fun m member => goesOn m (List.mem_cons_of_mem n member)
    have first := goesOn n List.mem_cons_self
    rw [List.foldl_cons, List.foldl_cons, ← later]
    cases n with
    | skillRejected _ => rfl
    | finishGame winners => exact absurd rfl (first winners)
    | event e => cases e <;> rfl

/-- Notices leave the session where it is, unless they close the room. -/
theorem notices_session (h : HostedRoom K) (now : Int) (serial : Nat) (ns : List (RoomNotice K)) :
    (h.notices now serial ns).session = none ∨ (h.notices now serial ns).session = h.session := by
  unfold HostedRoom.notices
  induction ns generalizing h with
  | nil => exact Or.inr rfl
  | cons n rest ih =>
    have first : (notice now serial h n).session = none ∨
        (notice now serial h n).session = h.session := by
      unfold notice
      split
      · exact Or.inr rfl
      · split
        · unfold HostedRoom.close
          split
          · exact Or.inr rfl
          · exact Or.inl rfl
        · exact Or.inr rfl
        · exact Or.inr rfl
      · exact Or.inr rfl
    rw [List.foldl_cons]
    rcases ih (notice now serial h n) with gone | same
    · exact Or.inl gone
    · rw [same]
      exact first

theorem markEliminated_acts (h : HostedRoom K) {playerId : Nat} (out : h.OutOfMatch playerId) :
    Acts h { h with room := h.room.markEliminated playerId } := by
  unfold Room.markEliminated
  split
  · exact .refl
  rename_i playing
  rw [not_not] at playing
  split
  · exact .refl
  rename_i m found
  split
  · exact .refl
  · rename_i flags
    obtain ⟨member, rfl⟩ := LobbyRoster.getByPlayerId_some found
    have current : m.inCurrentGame = true := by
      cases flag : m.inCurrentGame with
      | true => rfl
      | false => simp [flag] at flags
    exact .single (.mark h playing (KeyedList.get?_of_mem member) current out)

theorem notices_acts {h : HostedRoom K} (now : Int) (serial : Nat) {ns : List (RoomNotice K)}
    (told : ∀ n ∈ ns, Told h n) : Acts h (h.notices now serial ns) := by
  rw [notices_told h now serial fun n member => (told n member).not_finish]
  suffices run : ∀ room : Room, Acts { h with room } { h with room := ns.foldl tellRoom room } from
    run h.room
  intro room
  induction ns generalizing room with
  | nil => exact .refl
  | cons n rest ih =>
    have first := told n List.mem_cons_self
    refine Relation.ReflTransGen.trans ?_
      (ih (fun m member => told m (List.mem_cons_of_mem n member)) (tellRoom room n))
    cases n with
    | skillRejected _ => exact .refl
    | finishGame _ => exact .refl
    | event e =>
      cases e with
      | eliminated playerId _ => exact markEliminated_acts { h with room } first
      | tagged => exact .refl
      | blinked => exact .refl
      | skillArea => exact .refl

/-- The end of a match takes the room out of it, so it does not matter what became of the game. -/
theorem finish_acts {h : HostedRoom K} {s : Registered K} (on : h.session = some s) (now : Int)
    (game : GameSession K) (winners : List Nat) :
    Acts h (notice now s.serial { h with session := some { s with game } }
      (.finishGame winners)) := by
  unfold notice
  dsimp only
  by_cases playing : h.room.state = .playing
  · unfold Room.finishGame
    simp only [playing, ne_eq, not_true_eq_false, if_false]
    split
    · have stopped : ({ h with session := some { s with game } } : HostedRoom K).close =
          h.close := by
        unfold HostedRoom.close
        simp only [playing, reduceCtorEq, if_false]
        rfl
      rw [stopped]
      exact close_acts h
    · rename_i ended
      split at ended <;> simp at ended
    · rename_i ended
      split at ended
      · simp at ended
      · simp only [Option.some.injEq, Prod.mk.injEq, and_true] at ended
        subst ended
        let finished : HostedRoom K := { h with
          room := { h.room with
            postGameEndsAt := some (now + h.room.options.timing.postGameMs), state := .postGame } }
        have first : Act h finished := .finish h playing _
        have second : Act finished { finished with session := some { s with game } } :=
          .isOver finished on nofun game
        have third : Act { finished with session := some { s with game } } _ :=
          .storing { finished with session := some { s with game } } rfl nofun
        have chain := (Relation.ReflTransGen.single first).tail second |>.tail third
        simpa only [finished, Room.transition, playing, canTransition, if_true] using chain
  · have idle : h.room.finishGame now winners = some (h.room, false) := by
      unfold Room.finishGame
      simp only [ne_eq, playing, not_false_eq_true, if_true]
    rw [idle]
    exact .single (.isOver h on playing game)

/-- The last notices of a session that has just ended. -/
theorem ending_acts {h : HostedRoom K} {s : Registered K} (on : h.session = some s) (now : Int)
    {ns : List (RoomNotice K)} (told : ∀ n ∈ ns, Told h n) (game : GameSession K)
    (winners : List Nat) :
    Acts h (({ h with session := some { s with game } } : HostedRoom K).notices now s.serial
      (ns ++ [.finishGame winners])) := by
  have goesOn : ∀ n ∈ ns, ∀ winners, n ≠ .finishGame winners :=
    fun n member => (told n member).not_finish
  have heard := notices_acts now s.serial told
  have split : ({ h with session := some { s with game } } : HostedRoom K).notices now s.serial
        (ns ++ [.finishGame winners]) =
      notice now s.serial (({ h with session := some { s with game } } : HostedRoom K).notices now
        s.serial ns) (.finishGame winners) := by
    unfold HostedRoom.notices
    rw [List.foldl_append]
    rfl
  rw [split, notices_told _ now s.serial goesOn]
  rw [notices_told h now s.serial goesOn] at heard
  exact heard.trans (finish_acts (h := { h with room := ns.foldl tellRoom h.room }) on now game _)

end SwitchRemake.Game.HostedRoom

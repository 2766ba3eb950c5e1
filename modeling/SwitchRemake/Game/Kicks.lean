import SwitchRemake.Game.RoomLife
import SwitchRemake.Game.Spectators

/-!
# Kicks

Whoever is kicked from a room stays on the list of the room, as long as the room is not handed on.
-/

namespace SwitchRemake.Game
open Lib Simulation Rooms

/-! ## What writes the list -/

namespace HostedRoom

variable {K : Type} (h : HostedRoom K)

@[simp] theorem transition_kicked (r : Room) (next : RoomState) :
    (r.transition next).kickedUsers = r.kickedUsers := by
  unfold Room.transition
  split <;> rfl

@[simp] theorem mapGame_kicked (f : GameSession K → GameSession K) :
    (h.mapGame f).room.kickedUsers = h.room.kickedUsers := rfl

@[simp] theorem connectionChanged_kicked (playerId : Nat) (connected : Bool) :
    (h.connectionChanged playerId connected).room.kickedUsers = h.room.kickedUsers := rfl

@[simp] theorem close_kicked : h.close.room.kickedUsers = h.room.kickedUsers := by
  unfold HostedRoom.close
  split
  · rfl
  · exact transition_kicked _ _

@[simp] theorem closeIfEmpty_kicked : h.closeIfEmpty.room.kickedUsers = h.room.kickedUsers := by
  unfold closeIfEmpty
  split
  · exact close_kicked h
  · rfl

@[simp] theorem markEliminated_kicked (r : Room) (playerId : Nat) :
    (r.markEliminated playerId).kickedUsers = r.kickedUsers := by
  unfold Room.markEliminated
  split
  · rfl
  split
  · rfl
  split <;> rfl

theorem finishGame_kicked {r after : Room} {now : Int} {winnerIds : List Nat} {ended : Bool}
    (finished : r.finishGame now winnerIds = some (after, ended)) :
    after.kickedUsers = r.kickedUsers := by
  unfold Room.finishGame at finished
  split at finished
  · cases finished
    rfl
  · dsimp only at finished
    split at finished
    · cases finished
    · cases finished
      exact transition_kicked _ _

theorem notice_kicked (now : Int) (serial : Nat) (n : RoomNotice K) :
    (notice now serial h n).room.kickedUsers = h.room.kickedUsers := by
  unfold notice
  split
  · exact markEliminated_kicked _ _
  · split
    · exact close_kicked h
    · rfl
    · rename_i finished
      exact finishGame_kicked finished
  · rfl

@[simp] theorem notices_kicked (now : Int) (serial : Nat) (ns : List (RoomNotice K)) :
    (h.notices now serial ns).room.kickedUsers = h.room.kickedUsers := by
  unfold notices
  induction ns generalizing h with
  | nil => rfl
  | cons n rest ih => exact (ih _).trans (notice_kicked h now serial n)

variable [JsNumber K]

@[simp] theorem eliminate_kicked (now : Int) (playerId : Nat) :
    (h.eliminate now playerId).room.kickedUsers = h.room.kickedUsers := by
  unfold HostedRoom.eliminate
  split
  · rfl
  · exact notices_kicked _ _ _ _

@[simp] theorem removeMember_kicked (now : Int) (userId : ActorId) (told : Bool) :
    (h.removeMember now userId told).1.room.kickedUsers = h.room.kickedUsers := by
  unfold removeMember
  dsimp only
  split
  · rfl
  · split <;> simp [mapRoom]

@[simp] theorem disconnect_kicked (now : Int) (connection : Connection) :
    (h.disconnect now connection).room.kickedUsers = h.room.kickedUsers := by
  unfold disconnect
  split
  · rfl
  split
  · rfl
  dsimp only
  split
  · exact eliminate_kicked _ _ _
  · rfl

@[simp] theorem releaseSeat_kicked (now : Int) (userId : ActorId) :
    (h.releaseSeat now userId).1.room.kickedUsers = h.room.kickedUsers := by
  unfold releaseSeat
  dsimp only
  split
  · split
    · exact close_kicked _
    · rfl
  · exact removeMember_kicked h now userId true

/-! ## The clock -/

@[simp] theorem expireMember_kicked (now : Int) (m : LobbyMember) :
    (expireMember now h m).room.kickedUsers = h.room.kickedUsers := by
  unfold expireMember
  split
  · exact removeMember_kicked h now m.userId false
  · dsimp only
    split <;> split <;> simp [mapRoom, Room.updateMember]

@[simp] theorem expireMembers_kicked (now : Int) :
    (h.expireMembers now).room.kickedUsers = h.room.kickedUsers := by
  have swept (ms : List LobbyMember) (g : HostedRoom K) :
      (ms.foldl (expireMember now) g).room.kickedUsers = g.room.kickedUsers := by
    induction ms generalizing g with
    | nil => rfl
    | cons m rest ih => exact (ih _).trans (expireMember_kicked g now m)
  exact swept _ _

theorem startGame_kicked {env : StartEnv K} {snapshot : RoomStartSnapshot} {started : HostedRoom K}
    (starts : h.startGame env snapshot = some started) :
    started.room.kickedUsers = h.room.kickedUsers := by
  unfold startGame at starts
  obtain ⟨_, -, rfl⟩ := Option.map_eq_some_iff.mp starts
  rfl

@[simp] theorem startIfDue_kicked (env : StartEnv K) (now : Int) :
    (h.startIfDue env now).room.kickedUsers = h.room.kickedUsers := by
  rcases startIfDue_cases h env now with same | ⟨snapshot, started, -, -, -, starts, same⟩
  · rw [same]
  · rw [same]
    exact (transition_kicked _ _).trans (startGame_kicked h starts)

omit [JsNumber K] in
@[simp] theorem returnIfDue_kicked (now : Int) :
    (h.returnIfDue now).room.kickedUsers = h.room.kickedUsers := by
  rcases returnIfDue_cases h now with same | ⟨-, same⟩
  · rw [same]
  · rw [same]
    exact transition_kicked _ _

@[simp] theorem advance_kicked (env : StartEnv K) (now : Int) :
    (h.advance env now).room.kickedUsers = h.room.kickedUsers := by
  unfold HostedRoom.advance
  split
  · rfl
  dsimp only
  split
  · split <;> simp
  · simp

@[simp] theorem tick_kicked (now : Int) (inputs : List (ResolvedInput K))
    (training : TrainingTurn K) (publication : Option (Nat → Nat)) :
    (h.tick now inputs training publication).host.room.kickedUsers = h.room.kickedUsers := by
  unfold tick
  split
  · rfl
  dsimp only
  split <;> simp

/-! ## The operations of the room -/

omit [JsNumber K] in
@[simp] theorem reserveJoin_kicked (r : Room) (now : Int) (reservation : SeatReservation)
    (password : Option String) :
    (r.reserveJoin now reservation password).1.kickedUsers = r.kickedUsers := by
  unfold Room.reserveJoin
  split
  · rfl
  split
  · rfl
  split
  · rfl
  split
  · rfl
  split
  · rfl
  dsimp only
  split <;> rfl

omit [JsNumber K] in
@[simp] theorem admitReservation_kicked (r : Room) (now : Int) (reservation : SeatReservation) :
    (r.admitReservation now reservation).1.kickedUsers = r.kickedUsers := by
  unfold Room.admitReservation
  split
  · rfl
  split
  · split
    · rfl
    split <;> rfl
  split
  · rfl
  split
  · rfl
  split
  · rfl
  dsimp only
  split
  · rfl
  · dsimp only
    split
    · exact transition_kicked _ _
    · rfl

omit [JsNumber K] in
@[simp] theorem requestStart_kicked (r : Room) (now : Int) (requester : ActorId)
    (gate : Room.StartGate) : (r.requestStart now requester gate).1.kickedUsers = r.kickedUsers := by
  rcases requestStart_cases r now requester gate with ⟨reason, refused⟩ | ⟨_, _, _, _, starts⟩
  · rw [refused]
  · rw [starts]

omit [JsNumber K] in
@[simp] theorem bindConnection_kicked (now : Int) (connection : Connection) :
    (h.bindConnection now connection).1.room.kickedUsers = h.room.kickedUsers := by
  have bound : (h.room.bindConnection now connection).1.kickedUsers = h.room.kickedUsers := by
    unfold Room.bindConnection
    split
    · rfl
    split
    · rfl
    split <;> rfl
  unfold HostedRoom.bindConnection
  dsimp only
  split
  · exact bound
  · rfl

omit [JsNumber K] in
@[simp] theorem passHost_kicked (r : Room) (requester : ActorId) (playerId : Nat) :
    (r.passHost requester playerId).1.kickedUsers = r.kickedUsers := by
  unfold Room.passHost
  split
  · rfl
  split
  · rfl
  dsimp only
  split <;> rfl

omit [JsNumber K] in
@[simp] theorem setLocked_kicked (r : Room) (requester : ActorId) (locked : Bool) :
    (r.setLocked requester locked).1.kickedUsers = r.kickedUsers := by
  unfold Room.setLocked
  split
  · rfl
  split <;> rfl

omit [JsNumber K] in
@[simp] theorem setMap_kicked (r : Room) (now : Int) (requester : ActorId) (mapId : String) :
    (r.setMap now requester mapId).1.kickedUsers = r.kickedUsers := by
  unfold Room.setMap
  split
  · rfl
  split
  · rfl
  split
  · rfl
  split <;> rfl

omit [JsNumber K] in
@[simp] theorem setLoadout_kicked (r : Room) (userId : ActorId) (loadout : SkillId) :
    (r.setLoadout userId loadout).1.kickedUsers = r.kickedUsers := by
  unfold Room.setLoadout
  split
  · rfl
  split
  · rfl
  split <;> rfl

omit [JsNumber K] in
@[simp] theorem moveSlot_kicked (r : Room) (userId : ActorId) (slot : Nat) :
    (r.moveSlot userId slot).1.kickedUsers = r.kickedUsers := by
  unfold Room.moveSlot
  split <;> rfl

omit [JsNumber K] in
@[simp] theorem setSpectating_kicked (r : Room) (userId : ActorId) (spectating : Bool) :
    (r.setSpectating userId spectating).1.kickedUsers = r.kickedUsers := by
  unfold Room.setSpectating
  split
  · rfl
  split
  · rfl
  split <;> rfl

omit [JsNumber K] in
@[simp] theorem grantMatchId_kicked (r : Room) (matchId : MatchId) :
    (r.grantMatchId matchId).kickedUsers = r.kickedUsers := by
  unfold Room.grantMatchId
  split <;> rfl

omit [JsNumber K] in
@[simp] theorem freezeForHandOff_kicked (r : Room) :
    r.freezeForHandOff.1.kickedUsers = r.kickedUsers := by
  unfold Room.freezeForHandOff
  split <;> rfl

omit [JsNumber K] in
@[simp] theorem stored_kicked (serial : Nat) :
    (h.stored serial).room.kickedUsers = h.room.kickedUsers := by
  unfold HostedRoom.stored
  split <;> rfl

/-- A kick that is carried out puts its target on the list. -/
theorem kick_listed (now : Int) (requester : ActorId) (playerId : Nat) :
    h.room.kickedUsers ⊆ (h.kick now requester playerId).1.room.kickedUsers ∧
      ((h.kick now requester playerId).2 = none →
        ∀ target, h.room.roster.getByPlayerId playerId = some target →
          target.userId ∈ (h.kick now requester playerId).1.room.kickedUsers) := by
  unfold HostedRoom.kick
  split
  · exact ⟨subset_rfl, nofun⟩
  split
  · exact ⟨subset_rfl, nofun⟩
  split
  · exact ⟨subset_rfl, nofun⟩
  rename_i target found
  split
  · exact ⟨subset_rfl, nofun⟩
  · dsimp only
    rw [removeMember_kicked]
    refine ⟨Finset.subset_insert _ _, fun _ other same => ?_⟩
    obtain rfl := Option.some.inj (found.symm.trans same)
    exact Finset.mem_insert_self _ _

theorem forceKick_listed (now : Int) (userId : ActorId) :
    (h.forceKick now userId).1.room.kickedUsers = insert userId h.room.kickedUsers := by
  unfold HostedRoom.forceKick
  dsimp only
  split
  · rfl
  · exact removeMember_kicked _ now userId true

/-- No operation takes anybody off the list. -/
theorem apply_kicked (op : HostOp K) : h.room.kickedUsers ⊆ (h.apply op).room.kickedUsers := by
  cases op with
  | reserveJoin env now reservation password => simp [HostedRoom.apply, HostedRoom.reserveJoin]
  | canReserveResume env now userId => simp [HostedRoom.apply, HostedRoom.canReserveResume]
  | admitReservation env now reservation =>
    simp [HostedRoom.apply, HostedRoom.admitReservation]
  | bindConnection now connection => simp [HostedRoom.apply]
  | disconnect now connection => simp [HostedRoom.apply]
  | releaseSeat now userId => simp [HostedRoom.apply]
  | kick now requester playerId => exact (kick_listed h now requester playerId).1
  | forceKick now userId =>
    rw [HostedRoom.apply, forceKick_listed]
    exact Finset.subset_insert _ _
  | passHost requester playerId => simp [HostedRoom.apply, mapRoom]
  | setLocked requester locked => simp [HostedRoom.apply, mapRoom]
  | setMap now requester mapId => simp [HostedRoom.apply, mapRoom]
  | setLoadout userId loadout => simp [HostedRoom.apply, mapRoom]
  | moveSlot userId slot => simp [HostedRoom.apply, mapRoom]
  | requestStart now requester gate => simp [HostedRoom.apply, mapRoom]
  | grantMatchId matchId => simp [HostedRoom.apply, mapRoom]
  | markEliminated playerId => simp [HostedRoom.apply, mapRoom]
  | setSpectating userId spectating => simp [HostedRoom.apply, mapRoom]
  | finishGame now winnerIds =>
    cases finished : h.room.finishGame now winnerIds with
    | none => simp [HostedRoom.apply, mapRoom, finished]
    | some after => simp [HostedRoom.apply, mapRoom, finished, finishGame_kicked finished]
  | freezeForHandOff => simp [HostedRoom.apply, mapRoom]
  | cancelHandOff => exact subset_rfl
  | requestFullSnapshot playerId => exact subset_rfl
  | queueSkill request => exact subset_rfl
  | queueEmoji request => exact subset_rfl
  | advance env now => simp [HostedRoom.apply]
  | tick now inputs publication => simp [HostedRoom.apply]
  | stored serial => simp [HostedRoom.apply]
  | close => simp [HostedRoom.apply]

end HostedRoom

namespace HostedRoom

variable {K : Type} [JsNumber K] {h : HostedRoom K}

theorem kicks_listed (op : HostOp K) {userId : ActorId} (kicked : userId ∈ h.kicks op) :
    userId ∈ (h.apply op).room.kickedUsers := by
  unfold kicks at kicked
  split at kicked
  · rename_i now requester playerId
    split at kicked
    · rename_i granted
      obtain ⟨target, found, rfl⟩ := Option.map_eq_some_iff.mp (Option.mem_toList.mp kicked)
      exact (kick_listed h now requester playerId).2 granted target found
    · cases kicked
  · rename_i now target
    rw [List.mem_singleton.mp kicked, HostedRoom.apply, forceKick_listed]
    exact Finset.mem_insert_self _ _
  · cases kicked

omit [JsNumber K] in
theorem reserveJoin_refused {r : Room} {now : Int} {reservation : SeatReservation}
    {password : Option String} (listed : reservation.userId ∈ r.kickedUsers) :
    (r.reserveJoin now reservation password).2 ≠ none := by
  unfold Room.reserveJoin
  -- the state, the ticket and the lock are looked at first
  split
  · exact nofun
  split
  · exact nofun
  split
  · exact nofun
  · exact nofun

end HostedRoom

namespace RoomLife

variable {K : Type} [JsNumber K] {r : RoomLife K}

/-- Everybody who was kicked is on the list of the room. -/
def Listed (r : RoomLife K) : Prop := ∀ userId ∈ r.kicked, userId ∈ r.host.room.kickedUsers

theorem reserveJoin_frame (draining : Bool) (env : StartEnv K) (now : Int)
    (reservation : SeatReservation) (password : Option String) :
    (r.reserveJoin draining env now reservation password).1.host.room.kickedUsers =
        r.host.room.kickedUsers ∧
      (r.reserveJoin draining env now reservation password).1.kicked = r.kicked := by
  have same : (r.host.reserveJoin env now reservation password).1.room.kickedUsers =
      r.host.room.kickedUsers := by simp [HostedRoom.reserveJoin]
  unfold RoomLife.reserveJoin
  split
  · exact ⟨rfl, rfl⟩
  split
  · exact ⟨rfl, rfl⟩
  split
  · exact ⟨rfl, rfl⟩
  split
  · exact ⟨rfl, rfl⟩
  dsimp only
  split <;> exact ⟨same, rfl⟩

theorem reserveJoin_refused {draining : Bool} {env : StartEnv K} {now : Int}
    {reservation : SeatReservation} {password : Option String}
    (listed : reservation.userId ∈ r.host.room.kickedUsers) :
    (r.reserveJoin draining env now reservation password).2 ≠ none := by
  have refused : (r.host.reserveJoin env now reservation password).2 ≠ none :=
    HostedRoom.reserveJoin_refused (by rw [HostedRoom.advance_kicked]; exact listed)
  unfold RoomLife.reserveJoin
  split
  · exact nofun
  split
  · exact nofun
  split
  · exact nofun
  split
  · exact nofun
  dsimp only
  split
  · exact nofun
  · rename_i granted
    exact absurd granted refused

theorem Listed.apply (listed : r.Listed) {op : LifeOp K} (may : r.Allowed op) :
    (r.apply op).Listed := by
  intro userId kicked
  cases op with
  | op op =>
    rcases List.mem_append.mp kicked with old | new
    · exact r.host.apply_kicked op (listed userId old)
    · exact HostedRoom.kicks_listed op new
  | train now inputs training publication =>
    rw [RoomLife.apply, HostedRoom.tick_kicked]
    exact listed userId kicked
  | reserveJoin draining env now reservation password =>
    obtain ⟨list, same⟩ := reserveJoin_frame (r := r) draining env now reservation password
    rw [RoomLife.apply] at kicked ⊢
    rw [same] at kicked
    rw [list]
    exact listed userId kicked
  | kickUser now target =>
    rw [RoomLife.apply, RoomLife.kickUser] at kicked ⊢
    split
    · rename_i unreached
      rw [if_pos unreached] at kicked
      exact listed userId kicked
    · rename_i reached
      rw [if_neg reached] at kicked
      dsimp only at kicked ⊢
      rw [HostedRoom.forceKick_listed, Finset.mem_insert]
      rcases List.mem_append.mp kicked with old | new
      · exact .inr (listed userId old)
      · exact .inl (List.mem_singleton.mp new)
  | releaseSeat now target =>
    rw [RoomLife.apply, RoomLife.releaseSeat] at kicked ⊢
    split
    · rename_i unreached
      rw [if_pos unreached] at kicked
      exact listed userId kicked
    · rename_i reached
      rw [if_neg reached] at kicked
      dsimp only
      rw [HostedRoom.releaseSeat_kicked]
      exact listed userId kicked
  | publish now => exact listed userId kicked
  | handOff options adoptedAt committedAt =>
    rw [RoomLife.apply, RoomLife.handOff] at kicked ⊢
    split
    · rename_i frozen
      rw [if_pos frozen] at kicked
      have known := listed userId kicked
      rw [may frozen] at known
      exact absurd known (Finset.notMem_empty _)
    · rename_i stays
      rw [if_neg stays] at kicked
      exact listed userId kicked

/-- Kicks hold in every run without a hand-off of a room that somebody was kicked from. -/
theorem kicks_hold {options : RoomOptions} {capacity : Nat} {mapId : String} {matchId : MatchId}
    {owner : SeatReservation}
    (run : Reach RoomLife.Allowed RoomLife.apply (.start options capacity mapId matchId owner) r) :
    r.KicksHold := by
  have listed : r.Listed := run.invariant (fun _ none_ => absurd none_ List.not_mem_nil)
    fun _ _ listed may => listed.apply may
  exact fun _ _ _ reservation _ kicked => reserveJoin_refused (listed reservation.userId kicked)

end RoomLife

/-! ## A hand-off after a kick -/

/-- The host of a room kicks the other user, and the registry publishes. -/
def kickOps : List (LifeOp ℚ) :=
  (join 1).tail.map .op ++ [.reserveJoin false startEnv 0 (ticket 2 false 15000) none] ++
    (join 2).tail.map .op ++
    [.publish 0, .op (.kick 1000 (.account 1) 2), .publish 1000]

/-- The room goes to another server, and its host comes back to it there. -/
def moveOps : List (LifeOp ℚ) :=
  [.op .freezeForHandOff, .handOff matchOptions 2000 2000,
    .op (.admitReservation startEnv 2000 (ticket 1 true 15000)),
    .op (.bindConnection 2000 (socket 1 1 true)), .publish 2000]

def opened : RoomLife ℚ := .start matchOptions 8 "yard" "M1" (ticket 1 false 15000)

theorem kicks_hold_here :
    ((kickOps.foldl RoomLife.apply opened).reserveJoin false startEnv 62000
      (ticket 2 false 77000) none).2 ≠ none := by
  have may : AllowedRun RoomLife.Allowed RoomLife.apply opened kickOps :=
    ⟨trivial, trivial, trivial, trivial, trivial, trivial, trivial, trivial, trivial⟩
  exact RoomLife.kicks_hold (Reach.of_list may) false startEnv 62000 (ticket 2 false 77000) none
    (by decide +kernel)

/-- A minute after the hand-off the keys of Redis are gone, and the kicked user has a seat again. -/
theorem kick_forgotten : ¬ ∀ r : RoomLife ℚ,
    Reach (fun _ _ => True) RoomLife.apply opened r → r.KicksHold := by
  intro holds
  have may (ops : List (LifeOp ℚ)) : ∀ s : RoomLife ℚ,
      AllowedRun (fun _ _ => True) RoomLife.apply s ops := by
    induction ops with
    | nil => exact fun _ => trivial
    | cons op rest ih => exact fun _ => ⟨trivial, ih _⟩
  have refused := holds _ (Reach.of_list (may (kickOps ++ moveOps) opened)) false startEnv 62000
    (ticket 2 false 77000) none (by decide +kernel)
  exact refused (by decide +kernel)

end SwitchRemake.Game

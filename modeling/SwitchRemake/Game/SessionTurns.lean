import SwitchRemake.Game.Operations

/-!
# What the operations of a room do to its sessions

A session runs, ends and is taken off the list, and another takes its place. The room is left open.
-/

namespace SwitchRemake.Game.HostedRoom
open Lib Simulation Rooms GameSession

variable {K : Type}

inductive Turn : HostedRoom K → HostedRoom K → Prop where
  | room (h : HostedRoom K) (room : Room) : Turn h { h with room }
  | play (h : HostedRoom K) {s : Registered K} {game : GameSession K} (on : h.session = some s)
      (same : game.finished = s.game.finished) : Turn h { h with session := some { s with game } }
  | finish (h : HostedRoom K) {s : Registered K} {game : GameSession K} (on : h.session = some s)
      (running : s.game.finished = false) (isOver : game.finished = true) (stores : Bool) :
      Turn h { h with
        session := some { s with game }
        storing := if stores then h.storing ++ [s.serial] else h.storing }
  | stop (h : HostedRoom K) : Turn h h.stopRoom
  | begin (h : HostedRoom K) {game : GameSession K} (running : game.finished = false) :
      Turn h { h with session := some ⟨h.serials, game⟩, serials := h.serials + 1 }
  | stored (h : HostedRoom K) {serial : Nat} (member : serial ∈ h.storing) :
      Turn h (h.stored serial)

abbrev Turns : HostedRoom K → HostedRoom K → Prop := Relation.ReflTransGen Turn

theorem Turns.room (h : HostedRoom K) (room : Room) : Turns h { h with room } :=
  .single (.room h room)

theorem Turns.mapGame (h : HostedRoom K) {f : GameSession K → GameSession K}
    (same : ∀ s, h.session = some s → (f s.game).finished = s.game.finished) :
    Turns h (h.mapGame f) := by
  unfold HostedRoom.mapGame
  cases on : h.session with
  | none =>
    rw [Option.map_none, ← on]
  | some s => exact .single (.play h on (same s on))

theorem connectionChanged_finished (s : GameSession K) (playerId : Nat) (connected : Bool) :
    (s.connectionChanged playerId connected).finished = s.finished := by
  obtain ⟨_, _, writes, _⟩ := connectionChanged_writes s playerId connected
  rw [writes]

theorem connectionChanged_turns (h : HostedRoom K) (playerId : Nat) (connected : Bool) :
    Turns h (h.connectionChanged playerId connected) :=
  .mapGame h fun s _ => connectionChanged_finished s.game playerId connected

theorem close_turns (h : HostedRoom K) : Turns h h.close := by
  unfold HostedRoom.close
  split
  · exact .refl
  · exact .tail (.single (.stop h)) (.room _ _)

theorem closeIfEmpty_turns (h : HostedRoom K) : Turns h h.closeIfEmpty := by
  unfold closeIfEmpty
  split
  · exact close_turns h
  · exact .refl

theorem bindConnection_turns (h : HostedRoom K) (now : Int) (connection : Connection) :
    Turns h (h.bindConnection now connection).1 := by
  unfold HostedRoom.bindConnection
  dsimp only
  split
  · exact (Turns.room h _).trans (connectionChanged_turns _ connection.playerId true)
  · exact .refl

/-! ## The end of a match -/

/-- The last notices of a session: it is over, whatever the room says to the winners. -/
theorem ending_turns {h : HostedRoom K} {s : Registered K} (on : h.session = some s) (now : Int)
    {ns : List (RoomNotice K)} (goesOn : ∀ n ∈ ns, ∀ winners, n ≠ .finishGame winners)
    {game : GameSession K} (running : s.game.finished = false) (isOver : game.finished = true)
    (winners : List Nat) :
    Turns h (({ h with session := some { s with game } } : HostedRoom K).notices now s.serial
      (ns ++ [.finishGame winners])) := by
  unfold HostedRoom.notices
  rw [List.foldl_append]
  change Turns h (notice now s.serial
    (({ h with session := some { s with game } } : HostedRoom K).notices now s.serial ns)
      (.finishGame winners))
  rw [notices_told _ now s.serial goesOn]
  have ended (stores : Bool) := Turn.finish h on running isOver stores
  unfold notice
  dsimp only
  split
  · exact ((Relation.ReflTransGen.single (ended false)).tail (.room _ _)).trans (close_turns _)
  · exact (Relation.ReflTransGen.single (ended false)).tail (.room _ _)
  · exact (Relation.ReflTransGen.single (ended true)).tail (.room _ _)

variable [JsNumber K]

theorem eliminate_turns (h : HostedRoom K) (now : Int) (playerId : Nat) :
    Turns h (h.eliminate now playerId) := by
  unfold HostedRoom.eliminate
  split
  · exact .refl
  rename_i s on
  dsimp only
  have law := eliminateDisconnected_departs s.game playerId
  generalize s.game.eliminateDisconnected playerId = departed at law ⊢
  have plain (events : List (WorldEvent K)) :
      ∀ n ∈ events.map RoomNotice.event, ∀ winners, n ≠ .finishGame winners := by
    intro n member winners same
    obtain ⟨_, _, rfl⟩ := List.mem_map.mp member
    cases same
  cases law with
  | ignored idle =>
    have same : ({ h with session := some { s with game := s.game } } : HostedRoom K) = h := by
      rw [← on]
    rw [same]
    exact .refl
  | left replay events running lived departed tags goesOn =>
    rw [notices_told _ now s.serial (plain events)]
    exact (Relation.ReflTransGen.single (.play h on rfl)).tail (.room _ _)
  | ended replay events winners running lived departed tags ends =>
    exact ending_turns on now (plain events) running rfl winners

theorem removeMember_turns (h : HostedRoom K) (now : Int) (userId : ActorId) (tells : Bool) :
    Turns h (h.removeMember now userId tells).1 := by
  unfold removeMember
  dsimp only
  split
  · exact .refl
  · have left := Turns.room h { h.room with roster := (h.room.roster.remove userId).1 }
    cases tells with
    | true => exact (left.trans (eliminate_turns _ now _)).trans (closeIfEmpty_turns _)
    | false => exact left.trans (closeIfEmpty_turns _)

theorem disconnect_turns (h : HostedRoom K) (now : Int) (connection : Connection) :
    Turns h (h.disconnect now connection) := by
  unfold disconnect
  split
  · exact .refl
  rename_i m _
  split
  · exact .refl
  dsimp only
  have noted := (Turns.room h _).trans (connectionChanged_turns
    (h.mapRoom fun room => room.updateMember connection.userId (fun m =>
      { m with
        connection := none
        admissionPendingUntil := none
        reconnectUntil := some (now + h.room.options.timing.reconnectGraceMs) }) fun _ => rfl)
    m.playerId false)
  split
  · exact (noted.tail (.room _ _)).trans (eliminate_turns _ now m.playerId)
  · exact noted

theorem releaseSeat_turns (h : HostedRoom K) (now : Int) (userId : ActorId) :
    Turns h (h.releaseSeat now userId).1 := by
  unfold releaseSeat
  dsimp only
  split
  · have freed := Turns.room h { h.room with roster := (h.room.roster.releaseHold userId).1 }
    split
    · exact freed.trans (close_turns _)
    · exact freed
  · exact removeMember_turns h now userId true

theorem kick_turns (h : HostedRoom K) (now : Int) (requester : ActorId) (playerId : Nat) :
    Turns h (h.kick now requester playerId).1 := by
  unfold kick
  split
  · exact .refl
  split
  · exact .refl
  split
  · exact .refl
  split
  · exact .refl
  · exact (Turns.room h _).trans (removeMember_turns _ now _ true)

theorem forceKick_turns (h : HostedRoom K) (now : Int) (userId : ActorId) :
    Turns h (h.forceKick now userId).1 := by
  unfold forceKick
  dsimp only
  split
  · exact .room h _
  · exact (Turns.room h _).trans (removeMember_turns _ now userId true)

omit [JsNumber K] in
theorem tickNotices_plain (frame : AuthoritativeFrame K) :
    ∀ n ∈ tickNotices frame, ∀ winners, n ≠ .finishGame winners := by
  intro n member winners same
  subst same
  rcases List.mem_append.mp member with rejected | happened
  · obtain ⟨_, _, none⟩ := List.mem_map.mp rejected
    cases none
  · obtain ⟨_, _, none⟩ := List.mem_map.mp happened
    cases none

theorem tick_turns (h : HostedRoom K) (now : Int) (inputs : List (ResolvedInput K))
    (publication : Option (Nat → Nat)) :
    Turns h (h.tick now inputs noTraining publication).host := by
  unfold tick
  split
  · exact .refl
  rename_i s on
  dsimp only
  have law := step_ticks s.game inputs noTraining
  generalize s.game.step inputs noTraining = result at law ⊢
  have moved : Turns h (({ h with session := some { s with game := result.session } } :
      HostedRoom K).notices now s.serial result.notices) := by
    cases law with
    | isOver finished =>
      have same : ({ h with session := some { s with game := s.game } } : HostedRoom K) = h := by
        rw [← on]
      rw [same]
      exact .refl
    | on replay running simulated trained goesOn =>
      rw [notices_told _ now s.serial (tickNotices_plain _)]
      exact (Relation.ReflTransGen.single (.play h on rfl)).tail (.room _ _)
    | ended replay winners running simulated trained ends =>
      exact ending_turns on now (tickNotices_plain _) running rfl winners
  split
  · rename_i frame bufferedBytes _
    refine moved.trans (Turns.mapGame (f := fun _ => (result.session.publish frame _).1) _
      fun x same => ?_)
    obtain ⟨_, _, writes⟩ := publish_writes result.session frame (publicationTargets
      (({ h with session := some { s with game := result.session } } :
        HostedRoom K).notices now s.serial result.notices).room bufferedBytes)
    rw [writes]
    rcases notices_session ({ h with session := some { s with game := result.session } } :
      HostedRoom K) now s.serial result.notices with gone | kept
    · rw [gone] at same
      cases same
    · rw [kept, Option.some.injEq] at same
      subst same
      rfl
  · exact moved

/-! ## The clock -/

omit [JsNumber K] in
theorem sweep_turns {now : Int} {h v : HostedRoom K} (sweep : Sweep now h v) : Turns h v := by
  cases sweep with
  | purge => exact .room h _
  | settle userId => exact .room h _
  | expire found expired => exact .room h _
  | close => exact close_turns h

theorem startGame_turns {h started : HostedRoom K} {env : StartEnv K} {snapshot : RoomStartSnapshot}
    (starts : h.startGame env snapshot = some started) : Turns h started := by
  unfold HostedRoom.startGame at starts
  obtain ⟨world, _, rfl⟩ := Option.map_eq_some_iff.mp starts
  exact .single (.begin h rfl)

theorem advance_turns (h : HostedRoom K) (env : StartEnv K) (now : Int) :
    Turns h (h.advance env now) := by
  obtain ⟨mid, swept, ends⟩ := advance_cases h env now
  have first : Turns h mid := by
    clear ends
    induction swept with
    | refl => exact .refl
    | tail _ sweep ih => exact ih.trans (sweep_turns sweep)
  rcases ends with same | starts
  · rw [same]
    exact first
  · rw [starts]
    have begun : Turns mid (mid.startIfDue env now) := by
      rcases startIfDue_cases mid env now with idle | ⟨_, started, _, _, _, starts, moved⟩
      · rw [idle]
      · rw [moved]
        exact (startGame_turns starts).tail (.room _ _)
    rcases returnIfDue_cases (mid.startIfDue env now) now with stays | ⟨_, back⟩
    · rw [stays]
      exact first.trans begun
    · rw [back]
      exact (first.trans begun).tail (.room _ _)

theorem apply_turns (h : HostedRoom K) (op : HostOp K) : Turns h (h.apply op) := by
  cases op with
  | reserveJoin env now reservation password => exact (advance_turns h env now).tail (.room _ _)
  | canReserveResume env now userId => exact advance_turns h env now
  | admitReservation env now reservation => exact (advance_turns h env now).tail (.room _ _)
  | bindConnection now connection => exact bindConnection_turns h now connection
  | disconnect now connection => exact disconnect_turns h now connection
  | releaseSeat now userId => exact releaseSeat_turns h now userId
  | kick now requester playerId => exact kick_turns h now requester playerId
  | forceKick now userId => exact forceKick_turns h now userId
  | requestFullSnapshot playerId =>
    exact Turns.mapGame (f := fun game => game.requestFullSnapshot playerId) h fun _ _ => rfl
  | queueSkill request =>
    apply Turns.mapGame (f := fun game => (game.queueSkill request).1)
    intro s _
    obtain ⟨_, writes⟩ := queueSkill_writes s.game request
    rw [writes]
  | queueEmoji request =>
    apply Turns.mapGame (f := fun game => (game.queueEmoji request).1)
    intro s _
    obtain ⟨_, writes⟩ := queueEmoji_writes s.game request
    rw [writes]
  | advance env now => exact advance_turns h env now
  | tick now inputs publication => exact tick_turns h now inputs publication
  | stored serial =>
    change Turns h (h.stored serial)
    by_cases member : serial ∈ h.storing
    · exact .single (.stored h member)
    · unfold HostedRoom.stored
      rw [if_neg member]
  | close => exact close_turns h
  | _ => exact .room h _

/-! ## A session that is over -/

omit [JsNumber K] in
theorem Turns.serials {h v : HostedRoom K} (turns : Turns h v) : h.serials ≤ v.serials := by
  induction turns with
  | refl => exact le_rfl
  | tail _ turn ih =>
    apply ih.trans
    cases turn with
    | begin => exact Nat.le_succ _
    | stored member =>
      unfold HostedRoom.stored
      split <;> exact le_rfl
    | _ => exact le_rfl

/-- The session with this number has had its turn. -/
structure Retired (serial : Nat) (h : HostedRoom K) : Prop where
  taken : serial < h.serials
  isOver : ∀ s, h.session = some s → s.serial = serial → s.game.finished = true

omit [JsNumber K] in
theorem Retired.turn {serial : Nat} {h v : HostedRoom K} (retired : Retired serial h)
    (turn : Turn h v) : Retired serial v := by
  cases turn with
  | room => exact ⟨retired.taken, retired.isOver⟩
  | play on same =>
    refine ⟨retired.taken, ?_⟩
    rintro _ ⟨⟩ here
    exact same.trans (retired.isOver _ on here)
  | finish on running isOver stores =>
    refine ⟨retired.taken, ?_⟩
    rintro _ ⟨⟩ _
    exact isOver
  | stop => exact ⟨retired.taken, nofun⟩
  | begin running =>
    refine ⟨Nat.lt_succ_of_lt retired.taken, ?_⟩
    rintro _ ⟨⟩ here
    exact absurd here (Nat.ne_of_gt retired.taken)
  | stored member =>
    unfold HostedRoom.stored
    rw [if_pos member]
    refine ⟨retired.taken, ?_⟩
    intro s on here
    exact retired.isOver s (Option.filter_eq_some_iff.mp on).1 here

omit [JsNumber K] in
theorem Turns.retired {serial : Nat} {h v : HostedRoom K} (turns : Turns h v)
    (retired : Retired serial h) : Retired serial v := by
  induction turns with
  | refl => exact retired
  | tail _ turn ih => exact ih.turn turn

theorem Retired.apply {serial : Nat} {h : HostedRoom K} (retired : Retired serial h)
    (op : HostOp K) : Retired serial (h.apply op) :=
  Turns.retired (apply_turns h op) retired

/-- The sessions are numbered, and whatever waits for its replay waits once and is over. -/
structure Numbered (h : HostedRoom K) : Prop where
  known : ∀ s, h.session = some s → s.serial < h.serials
  once : h.storing.Nodup
  isOver : ∀ serial ∈ h.storing, Retired serial h

omit [JsNumber K] in
theorem Retired.not_running {serial : Nat} {h : HostedRoom K} (retired : Retired serial h)
    {s : Registered K} (on : h.session = some s) (running : s.game.finished = false) :
    s.serial ≠ serial := by
  intro here
  rw [retired.isOver s on here] at running
  cases running

omit [JsNumber K] in
theorem Numbered.turn {h v : HostedRoom K} (numbered : Numbered h) (turn : Turn h v) :
    Numbered v ∧ ∀ serial ∈ v.storing, serial ∈ h.storing ∨ ¬Retired serial h := by
  have later := fun serial waits => (numbered.isOver serial waits).turn turn
  cases turn with
  | room room => exact ⟨⟨numbered.known, numbered.once, later⟩, fun _ => .inl⟩
  | @play s game on same =>
    refine ⟨⟨?_, numbered.once, later⟩, fun _ => .inl⟩
    rintro _ ⟨⟩
    exact numbered.known s on
  | @finish s game on running isOver stores =>
    have known := numbered.known s on
    have fresh : ∀ serial, Retired serial h → s.serial ≠ serial :=
      fun serial retired => retired.not_running on running
    cases stores with
    | false =>
      refine ⟨⟨?_, numbered.once, later⟩, fun _ => .inl⟩
      rintro _ ⟨⟩
      exact known
    | true =>
      refine ⟨⟨?_, ?_, ?_⟩, ?_⟩
      · rintro _ ⟨⟩
        exact known
      · change (h.storing ++ [s.serial]).Nodup
        rw [List.nodup_append]
        refine ⟨numbered.once, List.nodup_singleton _, ?_⟩
        rintro serial waits _ single rfl
        obtain rfl := List.mem_singleton.mp single
        exact fresh _ (numbered.isOver _ waits) rfl
      · intro serial waits
        rcases List.mem_append.mp waits with old | new
        · exact later serial old
        · obtain rfl := List.mem_singleton.mp new
          refine ⟨known, ?_⟩
          rintro _ ⟨⟩ _
          exact isOver
      · intro serial waits
        rcases List.mem_append.mp waits with old | new
        · exact .inl old
        · obtain rfl := List.mem_singleton.mp new
          exact .inr fun retired => fresh _ retired rfl
  | stop => exact ⟨⟨nofun, numbered.once, later⟩, fun _ => .inl⟩
  | begin running =>
    refine ⟨⟨?_, numbered.once, later⟩, fun _ => .inl⟩
    rintro _ ⟨⟩
    exact Nat.lt_succ_self _
  | @stored serial member =>
    unfold HostedRoom.stored at later ⊢
    rw [if_pos member] at later ⊢
    refine ⟨⟨?_, numbered.once.erase _, fun x waits => later x (List.mem_of_mem_erase waits)⟩,
      fun x waits => .inl (List.mem_of_mem_erase waits)⟩
    intro s on
    exact numbered.known s (Option.filter_eq_some_iff.mp on).1

omit [JsNumber K] in
/-- A session that is over does not come to wait for its replay. -/
theorem Numbered.turns {h v : HostedRoom K} (numbered : Numbered h) (turns : Turns h v) :
    Numbered v ∧ ∀ serial ∈ v.storing, serial ∈ h.storing ∨ ¬Retired serial h := by
  induction turns with
  | refl => exact ⟨numbered, fun _ => .inl⟩
  | tail earlier turn ih =>
    obtain ⟨middle, before⟩ := ih
    obtain ⟨after, added⟩ := middle.turn turn
    refine ⟨after, fun serial waits => ?_⟩
    rcases added serial waits with old | new
    · exact before serial old
    · exact .inr fun retired => new (Turns.retired earlier retired)

omit [JsNumber K] in
/-- The session on the list is the one from before, which does not start again, or a new one. -/
theorem Turns.session {h v : HostedRoom K} (turns : Turns h v) {t : Registered K}
    (on : v.session = some t) : h.serials ≤ t.serial ∨ ∃ s, h.session = some s ∧
      s.serial = t.serial ∧ (s.game.finished = true → t.game.finished = true) := by
  induction turns generalizing t with
  | refl => exact .inr ⟨t, on, rfl, id⟩
  | @tail b c earlier turn ih =>
    cases turn with
    | room room => exact ih on
    | play before same =>
      cases on
      rcases ih before with new | ⟨s, there, serial, isOver⟩
      · exact .inl new
      · exact .inr ⟨s, there, serial, fun finished => same.trans (isOver finished)⟩
    | finish before running isOver stores =>
      cases on
      rcases ih before with new | ⟨s, there, serial, _⟩
      · exact .inl new
      · exact .inr ⟨s, there, serial, fun _ => isOver⟩
    | stop => cases on
    | begin running =>
      cases on
      exact .inl (Turns.serials earlier)
    | stored member =>
      unfold HostedRoom.stored at on
      rw [if_pos member] at on
      exact ih (Option.filter_eq_some_iff.mp on).1

end SwitchRemake.Game.HostedRoom

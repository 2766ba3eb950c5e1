import SwitchRemake.Game.SessionLaws
import SwitchRemake.Game.SingleTagger
import SwitchRemake.Simulation.Living

/-!
# A match that goes on

What the room relies on: a match keeps its players, and none of them comes back to life.
-/

namespace SwitchRemake.Game
open Lib Simulation GameSession

variable {K : Type} {s r : GameSession K} {w v : World K} {t : Token Nat}

def playerIds (w : World K) : List Nat := w.players.map PlayerState.playerId

/-- From `s` to `r` the match goes on. -/
structure Plays (s r : GameSession K) : Prop where
  mode : r.mode = s.mode
  matchId : r.matchId = s.matchId
  finished : r.finished = s.finished
  ids : playerIds r.world = playerIds s.world
  living : living r.world ⊆ living s.world
  tracked : ∃ t, Tracks t r.world

theorem Plays.of_sameRoles (tracks : Tracks t s.world) (mode : r.mode = s.mode)
    (matchId : r.matchId = s.matchId) (finished : r.finished = s.finished)
    (roles : SameRoles s.world r.world) (clock : r.world.taggerChangedAtTick ≤ r.world.tick) :
    Plays s r :=
  ⟨mode, matchId, finished, ids_of_roles roles, roles.living.subset,
    ⟨t, tracks.of_sameRoles roles clock⟩⟩

/-- What is not the world does not matter. -/
theorem Plays.of_world (tracks : Tracks t s.world) (mode : r.mode = s.mode)
    (matchId : r.matchId = s.matchId) (finished : r.finished = s.finished)
    (world : r.world = s.world) : Plays s r := by
  refine .of_sameRoles tracks mode matchId finished ?_ ?_
  · rw [world]
    exact SameRoles.refl _
  · rw [world]
    exact tracks.clock

theorem connectionChanged_plays (tracks : Tracks t s.world) (playerId : Nat) (connected : Bool) :
    Plays s (s.connectionChanged playerId connected) := by
  have roles : SameRoles s.world (s.world.update playerId fun p => { p with connected }) :=
    update_sameRoles _ _ fun _ => rfl
  unfold connectionChanged
  split
  · exact .of_world tracks rfl rfl rfl rfl
  · dsimp only
    split
    · exact .of_sameRoles tracks rfl rfl rfl roles tracks.clock
    · exact .of_sameRoles tracks rfl rfl rfl roles tracks.clock

theorem queueSkill_plays (tracks : Tracks t s.world) (request : SkillRequest) :
    Plays s (s.queueSkill request).1 := by
  obtain ⟨pending, writes⟩ := queueSkill_writes s request
  rw [writes]
  exact .of_world tracks rfl rfl rfl rfl

theorem queueEmoji_plays (tracks : Tracks t s.world) (request : EmojiRequest) :
    Plays s (s.queueEmoji request).1 := by
  obtain ⟨pending, writes⟩ := queueEmoji_writes s request
  rw [writes]
  exact .of_world tracks rfl rfl rfl rfl

variable [JsNumber K]

theorem publish_plays (tracks : Tracks t s.world) (frame : AuthoritativeFrame K)
    (targets : List Target) : Plays s (s.publish frame targets).1 := by
  obtain ⟨flags, replay, writes⟩ := publish_writes s frame targets
  rw [writes]
  exact .of_world tracks rfl rfl rfl rfl

/-! ## Departures -/

omit [JsNumber K] in
theorem playerIds_map {f : PlayerState K → PlayerState K} {players : List (PlayerState K)}
    (names : ∀ p, (f p).playerId = p.playerId) :
    (players.map f).map PlayerState.playerId = players.map PlayerState.playerId := by
  rw [List.map_map]
  exact List.map_congr_left fun p _ => names p

omit [JsNumber K] in
theorem playerIds_update (w : World K) (id : Nat) {f : PlayerState K → PlayerState K}
    (names : ∀ p, (f p).playerId = p.playerId) : playerIds (w.update id f) = playerIds w :=
  playerIds_map fun p => by split <;> simp only [names]

theorem playerIds_handTo (w : World K) (picked : Nat) (state : BitVec 32) :
    playerIds (w.handTo picked state) = playerIds w := by
  rw [playerIds, handTo_players]
  exact playerIds_map (handed_playerId w picked)

theorem afterDeparture_playerIds (s : GameSession K) (playerId : Nat) :
    playerIds (s.afterDeparture playerId).1.world = playerIds s.world := by
  have left : playerIds (disconnectPlayer s.world playerId) = playerIds s.world :=
    playerIds_update _ _ fun _ => rfl
  rcases afterDeparture_eq s playerId with same | ⟨picked, _, state, same⟩
  · rw [same]
    exact left
  · rw [same]
    exact (playerIds_handTo _ _ _).trans left

theorem afterDeparture_living (s : GameSession K) (playerId : Nat) :
    living (s.afterDeparture playerId).1.world = living s.world \ {playerId} := by
  have left : living (disconnectPlayer s.world playerId) = living s.world \ {playerId} :=
    update_dead s.world playerId fun _ => rfl
  rcases afterDeparture_eq s playerId with same | ⟨picked, _, state, same⟩
  · rw [same]
    exact left
  · rw [same]
    exact (living_handTo _ _ _).trans left

theorem afterDeparture_plays (tracks : Tracks t s.world) (playerId : Nat)
    (replay : List (ReplayCall K)) :
    Plays s { s with world := (s.afterDeparture playerId).1.world, replay } := by
  obtain ⟨u, later, _⟩ := afterDeparture_tracks s tracks playerId
  refine ⟨rfl, rfl, rfl, afterDeparture_playerIds s playerId, ?_, ⟨u, later⟩⟩
  exact (afterDeparture_living s playerId).subset.trans Set.sdiff_subset

/-! ## A tick -/

theorem stepWorld_plays (tracks : Tracks t s.world) (inputs : List (ResolvedInput K)) (replay : List (ReplayCall K))
    {stepped : AuthoritativeFrame K}
    (simulated : stepWorld s.world (s.requests inputs noTraining) = stepped) :
    Plays s (advance s stepped (noTraining.after stepped.world) replay) := by
  obtain ⟨u, steps, later, _⟩ := stepWorld_tracks tracks (s.requests inputs noTraining)
  have bodies := (stepWorld_sameShape tracks.distinct (s.requests inputs noTraining)).bodies
  rw [simulated] at later bodies
  have fewer := steps.live_subset
  rw [later.live_eq, tracks.live_eq] at fewer
  have ids : playerIds stepped.world = playerIds s.world := by
    simpa only [playerIds, List.map_map, Function.comp_def, body] using
      congrArg (List.map Prod.fst) bodies
  exact ⟨rfl, rfl, rfl, ids, fewer, ⟨u, later⟩⟩

end SwitchRemake.Game

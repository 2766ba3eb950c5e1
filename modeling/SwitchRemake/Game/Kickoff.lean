import SwitchRemake.Game.GameLifecycle
import SwitchRemake.Game.MatchLaws

/-!
# A match that starts

The world of a new match has the players of the start snapshot, all alive, and one tagger.
-/

namespace SwitchRemake.Game
open Lib Simulation Rooms GameSession

variable {K : Type} [JsNumber K]

theorem placePlayers_ids (serverMap : ServerMap K) (players : List RoomStartPlayer) :
    (placePlayers serverMap players).map PlayerState.playerId =
      (sortById RoomStartPlayer.playerId players).map RoomStartPlayer.playerId := by
  unfold placePlayers
  apply List.ext_getElem?
  intro n
  simp only [List.getElem?_map, List.getElem?_mapIdx, Option.map_map]
  rfl

theorem placePlayers_mem {serverMap : ServerMap K} {players : List RoomStartPlayer}
    {p : PlayerState K} (member : p ∈ placePlayers serverMap players) :
    p.alive = true ∧ p.isTagger = false ∧ p.stats = emptyStats ∧
      (∀ type, p.effects type = none) ∧ ∀ skill, p.cooldowns skill = none := by
  obtain ⟨_, _, rfl⟩ := List.mem_mapIdx.mp member
  exact ⟨rfl, rfl, rfl, fun _ => rfl, fun _ => rfl⟩

/-- One player is drawn, and every flag but its own stays down. -/
theorem drawTagger_some {w v : World K} (drawn : drawTagger w = some v) :
    ∃ tagger ∈ w.players, ∃ state, v = ({ w with randomState := state } : World K).update
      tagger.playerId fun p => grantTaggerFrenzy w { p with isTagger := true } := by
  unfold drawTagger at drawn
  obtain ⟨state, rolled⟩ := nextRandomInt_world w w.players.length
  obtain ⟨tagger, picked, rfl⟩ := Option.map_eq_some_iff.mp drawn
  refine ⟨tagger, ?_, state, by rw [rolled]⟩
  cases found : w.players[(w.nextRandomInt w.players.length).1]? with
  | none =>
    rw [found, Option.none_or] at picked
    exact List.mem_of_mem_head? picked
  | some p =>
    rw [found, Option.some_or, Option.some.injEq] at picked
    rw [← picked]
    exact List.mem_of_getElem? found

theorem drawTagger_tracks {w v : World K} (distinct : DistinctIds w.players)
    (unflagged : ∀ p ∈ w.players, p.isTagger = false) (clock : w.taggerChangedAtTick ≤ w.tick)
    (drawn : drawTagger w = some v) :
    playerIds v = playerIds w ∧ living v = living w ∧ ∃ t, Tracks t v := by
  obtain ⟨tagger, _, state, rfl⟩ := drawTagger_some drawn
  let flag (p : PlayerState K) : PlayerState K :=
    if p.playerId = tagger.playerId then grantTaggerFrenzy w { p with isTagger := true } else p
  have names (p : PlayerState K) : (flag p).playerId = p.playerId := by
    unfold flag
    split <;> rfl
  have lives (p : PlayerState K) : (flag p).alive = p.alive := by
    unfold flag
    split <;> rfl
  have alive : living (({ w with randomState := state } : World K).update tagger.playerId
      fun p => grantTaggerFrenzy w { p with isTagger := true }) = living w :=
    living_map (f := flag) names lives rfl rfl
  refine ⟨playerIds_map names, alive, ⟨living w, tagger.playerId⟩, ⟨?_, ?_, ?_⟩, clock⟩
  · exact (playerIds_map names).symm ▸ distinct
  · intro id
    rw [← alive]
    exact Iff.rfl
  · intro q image
    obtain ⟨p, member, rfl⟩ := List.mem_map.mp image
    dsimp only
    by_cases hit : p.playerId = tagger.playerId
    · rw [if_pos hit]
      exact ⟨fun _ => hit, fun _ => rfl⟩
    · rw [if_neg hit, unflagged p member]
      exact ⟨nofun, fun same => absurd same hit⟩

/-- What `startGame` registers for a match. -/
structure Starts (snapshot : RoomStartSnapshot) (game : GameSession K) : Prop where
  mode : game.mode = RoomMode.match
  matchId : game.matchId = snapshot.matchId
  running : game.finished = false
  tracked : ∃ t, Tracks t game.world
  players : ∀ id, id ∈ playerIds game.world ↔ id ∈ snapshot.playerIds

theorem startGame_starts {h started : HostedRoom K} {env : StartEnv K}
    {snapshot : RoomStartSnapshot} (mode : snapshot.mode = RoomMode.match)
    (distinct : snapshot.playerIds.Nodup) (begins : h.startGame env snapshot = some started) :
    ∃ game, Starts snapshot game ∧
      started = { h with session := some ⟨h.serials, game⟩, serials := h.serials + 1 } := by
  unfold HostedRoom.startGame at begins
  simp only [mode, reduceCtorEq, if_false, List.append_nil] at begins
  obtain ⟨world, drawn, rfl⟩ := Option.map_eq_some_iff.mp begins
  have ids := placePlayers_ids (env.bundle snapshot.mapId) snapshot.players
  have sorted := (sortById_perm RoomStartPlayer.playerId snapshot.players).map
    RoomStartPlayer.playerId
  obtain ⟨same, _, tracked⟩ := drawTagger_tracks (by
    rw [DistinctIds, createWorld, ids]
    exact sorted.nodup_iff.mpr distinct) (fun p member => (placePlayers_mem member).2.1) le_rfl drawn
  refine ⟨_, ⟨rfl, rfl, rfl, tracked, fun id => ?_⟩, rfl⟩
  change id ∈ playerIds world ↔ _
  rw [same, playerIds, createWorld, ids]
  exact sorted.mem_iff

end SwitchRemake.Game

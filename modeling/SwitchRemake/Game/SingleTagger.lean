import SwitchRemake.Game.SessionLaws
import SwitchRemake.Simulation.Tagger

/-!
# One living tagger until the match has ended
-/

namespace SwitchRemake.Game
open Lib Simulation GameSession

variable {K : Type} {t : Token Nat} {w : World K} {s : GameSession K}

theorem disconnectPlayer_tracks (tracks : Tracks t w) (playerId : Nat) :
    Tracks (t.leave playerId) (disconnectPlayer w playerId) :=
  ⟨tracks.leave playerId _ fun _ => rfl, tracks.clock⟩

theorem survivors_of_not_ended (running : s.matchHasEnded = false) :
    Gameplay.survivorsToWin < (survivors s.world).length ∧ s.world.tick < s.maxDurationTicks := by
  simp only [matchHasEnded, isFinished, Bool.or_eq_false_iff, decide_eq_false_iff_not] at running
  omega

/-- The invariant: the flags show a token, which is held while the match is on. -/
structure TaggerInvariant (s : GameSession K) : Prop where
  competing : s.mode = RoomMode.match
  token : ∃ t, Tracks t s.world ∧ (s.matchHasEnded = false → t.Held)

/-- The rule for a step of the session. -/
theorem TaggerInvariant.next {r : GameSession K} (inv : TaggerInvariant s) (mode : r.mode = s.mode)
    (limit : r.maxDurationTicks = s.maxDurationTicks) (tick : s.world.tick ≤ r.world.tick)
    (moves : ∀ t, Tracks t s.world → ∃ u, Tracks u r.world ∧ u.live ⊆ t.live ∧
      (t.Held → r.matchHasEnded = false → u.Held)) :
    TaggerInvariant r := by
  obtain ⟨t, tracks, held⟩ := inv.token
  obtain ⟨u, later, fewer, holds⟩ := moves t tracks
  refine ⟨mode.trans inv.competing, u, later, fun running => holds (held ?_) running⟩
  have survivors := survivors_length_le tracks later fewer
  have bounds := survivors_of_not_ended running
  simp only [matchHasEnded, isFinished, Bool.or_eq_false_iff, decide_eq_false_iff_not]
  omega

/-- As `startGame` builds it: distinct slots, and exactly one player flagged, which is alive. -/
structure Opening (s : GameSession K) : Prop where
  competing : s.mode = RoomMode.match
  distinct : DistinctIds s.world.players
  populated : 3 ≤ (survivors s.world).length
  tagger : ∃ p ∈ s.world.players, p.alive = true ∧
    ∀ q ∈ s.world.players, q.isTagger = true ↔ q = p
  clock : s.world.taggerChangedAtTick ≤ s.world.tick

theorem Opening.invariant (opening : Opening s) : TaggerInvariant s := by
  obtain ⟨p, member, alive, only⟩ := opening.tagger
  let t : Token Nat :=
    ⟨{ id | ∃ q ∈ s.world.players, q.playerId = id ∧ q.alive = true }, p.playerId⟩
  have shows : Token.Shows PlayerState.playerId PlayerState.alive PlayerState.isTagger t
      s.world.players := by
    refine ⟨opening.distinct, fun id => Iff.rfl, fun q inside => ?_⟩
    rw [only q inside]
    exact ⟨congrArg PlayerState.playerId, List.inj_on_of_nodup_map opening.distinct inside member⟩
  exact ⟨opening.competing, t, ⟨shows, opening.clock⟩, fun _ => ⟨p, member, rfl, alive⟩⟩

variable [JsNumber K]

theorem replaceTagger_tracks (tracks : Tracks t w) {v : World K} {next : Nat}
    (found : replaceTagger w = some (v, next)) :
    next ∈ t.live ∧ Tracks (t.pass next) v ∧ v.tick = w.tick := by
  obtain ⟨picked, candidate, state, rfl, rfl⟩ := replaceTagger_eq found
  obtain ⟨member, alive, _⟩ := mem_livingRunners.mp candidate
  exact ⟨(tracks.shows.live_of_mem member).mp alive, ⟨handTo_shows tracks _ _, le_rfl⟩, rfl⟩

/-- Without a living tagger every survivor is a candidate. -/
theorem replaceTagger_isSome (vacant : livingTagger w = none)
    (populated : 0 < (survivors w).length) : (replaceTagger w).isSome := by
  obtain ⟨p, member⟩ := List.exists_mem_of_length_pos populated
  obtain ⟨inside, alive⟩ := List.mem_filter.mp member
  have runner : p ∈ rotationCandidates w := by
    refine mem_livingRunners.mpr ⟨inside, alive, ?_⟩
    have noFlag := List.find?_eq_none.mp vacant p inside
    simpa [alive] using noFlag
  have bound := nextRandomInt_lt w (List.length_pos_of_mem runner)
  simp only [replaceTagger, Option.isSome_map, List.getElem?_eq_getElem bound, Option.isSome_some]

/-- What a departure does to the token, whether or not it ends the match. -/
theorem afterDeparture_tracks (s : GameSession K) (tracks : Tracks t s.world) (playerId : Nat) :
    ∃ u, Tracks u (s.afterDeparture playerId).1.world ∧ u.live = t.live \ {playerId} ∧
      (s.mode = RoomMode.match → (s.afterDeparture playerId).1.matchHasEnded = false → u.Held) ∧
      (s.afterDeparture playerId).1.world.tick = s.world.tick := by
  have left := disconnectPlayer_tracks tracks playerId
  unfold afterDeparture
  dsimp only
  by_cases vacated : ({ s with world := disconnectPlayer s.world playerId } : GameSession K).mode =
      RoomMode.match ∧
    ({ s with world := disconnectPlayer s.world playerId } : GameSession K).matchHasEnded = false ∧
    livingTagger (disconnectPlayer s.world playerId) = none
  · rw [if_pos vacated]
    obtain ⟨_, running, vacant⟩ := vacated
    have populated := (survivors_of_not_ended running).1
    obtain ⟨⟨v, next⟩, found⟩ := Option.isSome_iff_exists.mp
      (replaceTagger_isSome vacant (Nat.zero_lt_of_lt populated))
    obtain ⟨member, replaced, tick⟩ := replaceTagger_tracks left found
    simp only [found]
    exact ⟨_, replaced, rfl, fun _ _ => member, tick⟩
  · rw [if_neg vacated]
    refine ⟨_, left, rfl, fun competing running => ?_, rfl⟩
    have occupied : livingTagger (disconnectPlayer s.world playerId) ≠ none :=
      fun vacant => vacated ⟨competing, running, vacant⟩
    rw [← left.livingTagger_isSome]
    exact Option.isSome_iff_ne_none.mpr occupied

/-- One operation of a match: the bare simulation step, the session's own step, a departure. -/
inductive MatchOp (K : Type) where
  | stepWorld (requests : TickRequests K)
  | step (inputs : List (ResolvedInput K))
  | eliminateDisconnected (playerId : Nat)

def MatchOp.apply (s : GameSession K) : MatchOp K → GameSession K
  | .stepWorld requests => { s with world := (Simulation.stepWorld s.world requests).world }
  | .step inputs => (s.step inputs noTraining).session
  | .eliminateDisconnected playerId => (s.eliminateDisconnected playerId).session

def runMatch (s : GameSession K) (ops : List (MatchOp K)) : GameSession K := ops.foldl MatchOp.apply s

theorem stepWorld_invariant (inv : TaggerInvariant s) (requests : TickRequests K) :
    TaggerInvariant { s with world := (stepWorld s.world requests).world } := by
  refine inv.next rfl rfl ?_ fun t tracks => ?_
  · obtain ⟨t, tracks, _⟩ := inv.token
    obtain ⟨_, _, _, tick⟩ := stepWorld_tracks tracks requests
    exact (Nat.le_succ _).trans tick.ge
  · obtain ⟨u, steps, later, _⟩ := stepWorld_tracks tracks requests
    exact ⟨u, later, steps.live_subset, fun held _ => steps.held held⟩

/-- The session's step leaves the world of the bare step behind. -/
theorem step_world (s : GameSession K) (inputs : List (ResolvedInput K)) (on : s.finished = false) :
    (s.step inputs noTraining).session.world =
      (stepWorld s.world (s.requests inputs noTraining)).world ∧
    (s.step inputs noTraining).session.mode = s.mode ∧
    (s.step inputs noTraining).session.maxDurationTicks = s.maxDurationTicks := by
  unfold GameSession.step
  simp only [on, Bool.false_eq_true, if_false]
  generalize stepWorld s.world (s.requests inputs noTraining) = stepped
  split <;> exact ⟨rfl, rfl, rfl⟩

theorem afterDeparture_frame (s : GameSession K) (playerId : Nat) :
    (s.afterDeparture playerId).1.mode = s.mode ∧
      (s.afterDeparture playerId).1.maxDurationTicks = s.maxDurationTicks := by
  rcases afterDeparture_eq s playerId with same | ⟨picked, _, state, same⟩ <;> rw [same] <;>
    exact ⟨rfl, rfl⟩

theorem eliminateDisconnected_world (s : GameSession K) (playerId : Nat) :
    (s.eliminateDisconnected playerId).session = s ∨
      (s.eliminateDisconnected playerId).session.world = (s.afterDeparture playerId).1.world ∧
      (s.eliminateDisconnected playerId).session.mode = s.mode ∧
      (s.eliminateDisconnected playerId).session.maxDurationTicks = s.maxDurationTicks := by
  have frame := afterDeparture_frame s playerId
  unfold GameSession.eliminateDisconnected
  split
  · exact .inl rfl
  · split
    · exact .inl rfl
    · dsimp only
      split
      · exact .inr ⟨rfl, frame⟩
      · exact .inr ⟨rfl, frame⟩

theorem MatchOp.apply_invariant (inv : TaggerInvariant s) (op : MatchOp K) :
    TaggerInvariant (op.apply s) := by
  cases op with
  | stepWorld requests => exact stepWorld_invariant inv requests
  | step inputs =>
    by_cases on : s.finished = false
    · obtain ⟨world, mode, limit⟩ := step_world s inputs on
      have stepped := stepWorld_invariant inv (s.requests inputs noTraining)
      refine ⟨mode.trans inv.competing, ?_⟩
      obtain ⟨u, later, held⟩ := stepped.token
      refine ⟨u, by rw [MatchOp.apply, world]; exact later, fun running => held ?_⟩
      simpa only [MatchOp.apply, matchHasEnded, world, limit] using running
    · simp only [MatchOp.apply, GameSession.step, Bool.not_eq_false] at on ⊢
      simpa only [on, if_true] using inv
  | eliminateDisconnected playerId =>
    rcases eliminateDisconnected_world s playerId with same | ⟨world, mode, limit⟩
    · simpa only [MatchOp.apply, same] using inv
    · obtain ⟨t, tracks, _⟩ := inv.token
      obtain ⟨_, _, _, _, tick⟩ := afterDeparture_tracks s tracks playerId
      refine inv.next mode limit (by rw [MatchOp.apply, world, tick]) fun t tracks => ?_
      obtain ⟨u, later, live, held, _⟩ := afterDeparture_tracks s tracks playerId
      have fewer : u.live ⊆ t.live := live ▸ Set.sdiff_subset
      refine ⟨u, by rw [MatchOp.apply, world]; exact later, fewer,
        fun _ running => held inv.competing ?_⟩
      have sameLimit := (afterDeparture_frame s playerId).2
      simpa only [MatchOp.apply, matchHasEnded, world, limit, sameLimit] using running

theorem runMatch_invariant (inv : TaggerInvariant s) (ops : List (MatchOp K)) :
    TaggerInvariant (runMatch s ops) := by
  induction ops generalizing s with
  | nil => exact inv
  | cons op rest ih => exact ih (MatchOp.apply_invariant inv op)

theorem single_tagger (opening : Opening s) (ops : List (MatchOp K)) :
    ((runMatch s ops).matchHasEnded = false →
      ∃ p ∈ (runMatch s ops).world.players, p.alive = true ∧
        ∀ q ∈ (runMatch s ops).world.players, q.isTagger = true ↔ q = p) ∧
    (∀ requests victim source,
      WorldEvent.eliminated victim source ∈ (stepWorld (runMatch s ops).world requests).events →
      ∀ p ∈ (beforeTags (runMatch s ops).world requests).1.players,
        p.playerId = victim → p.isTagger = false) ∧
    (runMatch s ops).world.taggerChangedAtTick ≤ (runMatch s ops).world.tick := by
  obtain ⟨t, tracks, held⟩ := (runMatch_invariant opening.invariant ops).token
  refine ⟨fun running => tracks.shows.existsUnique (held running), ?_, tracks.clock⟩
  intro requests victim source event p member same
  obtain ⟨holder, tags, flags⟩ := stepWorld_tagsBy tracks requests
  obtain ⟨_, other⟩ := tags victim source event
  cases flag : p.isTagger with
  | false => rfl
  | true => exact absurd (same.symm.trans ((flags p member).mp flag)) other

/-- A match of three in the corners of an empty map; the first player is the tagger. -/
def threePlayers : GameSession ℚ :=
  let player (id : Nat) (x y : ℚ) (isTagger : Bool) : PlayerState ℚ :=
    { playerId := id, x, y, vx := 0, vy := 0, facingX := 0, facingY := 1
      radius := Gameplay.playerRadiusPx, sightRange := Gameplay.sightRangePx, colorIndex := id - 1
      alive := true, isTagger, connected := true, effects := fun _ => none
      cooldowns := fun _ => none, loadout := .dash, emoji := none, stats := emptyStats }
  let map : WorldMap ℚ :=
    { mapId := "yard", cols := 4, rows := 4, tileSize := tilePx
      tiles := List.replicate 4 (List.replicate 4 .floor), barrierSpeed := 1
      timeline := fun _ => [] }
  let world : World ℚ :=
    { tick := 0, simulationHz := Network.simulationHz, map
      players := [player 1 128 128 true, player 2 896 128 false, player 3 128 896 false]
      storm := none, tileChanges := [], taggerChangedAtTick := 0, randomState := 1 }
  GameSession.start "room" "match" RoomMode.match world [⟨1, "a"⟩, ⟨2, "b"⟩, ⟨3, "c"⟩] []
    Gameplay.maxMatchDurationTicks

theorem threePlayers_opening : Opening threePlayers where
  competing := rfl
  distinct := by decide +kernel
  populated := by decide +kernel
  tagger := by decide +kernel
  clock := le_rfl

theorem single_tagger_threePlayers :
    ∃ p ∈ (runMatch threePlayers [.step [], .stepWorld ⟨[], [], []⟩]).world.players, p.alive = true ∧
      ∀ q ∈ (runMatch threePlayers [.step [], .stepWorld ⟨[], [], []⟩]).world.players,
        q.isTagger = true ↔ q = p :=
  (single_tagger threePlayers_opening _).1 (by decide +kernel)

end SwitchRemake.Game

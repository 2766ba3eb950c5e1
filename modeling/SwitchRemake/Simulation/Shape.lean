import SwitchRemake.Simulation.Tagger

/-!
# The arena and the bodies

A tick changes neither the size of the map, nor the speed of the storm, nor anybody's radius.
-/

namespace SwitchRemake.Simulation
open Lib

variable {K : Type} {w v u : World K}

def body (p : PlayerState K) : Nat × K := (p.playerId, p.radius)

structure SameShape (w v : World K) : Prop where
  cols : v.map.cols = w.map.cols
  rows : v.map.rows = w.map.rows
  tileSize : v.map.tileSize = w.map.tileSize
  barrierSpeed : v.map.barrierSpeed = w.map.barrierSpeed
  bodies : v.players.map body = w.players.map body

theorem SameShape.refl (w : World K) : SameShape w w := ⟨rfl, rfl, rfl, rfl, rfl⟩

theorem SameShape.trans (first : SameShape w v) (second : SameShape v u) : SameShape w u where
  cols := second.cols.trans first.cols
  rows := second.rows.trans first.rows
  tileSize := second.tileSize.trans first.tileSize
  barrierSpeed := second.barrierSpeed.trans first.barrierSpeed
  bodies := second.bodies.trans first.bodies

/-- What every phase but the clock, the timeline and the movement leaves alone. -/
structure SameArena (w v : World K) : Prop where
  tick : v.tick = w.tick
  map : v.map = w.map
  tileChanges : v.tileChanges = w.tileChanges
  bodies : v.players.map body = w.players.map body

theorem SameArena.refl (w : World K) : SameArena w w := ⟨rfl, rfl, rfl, rfl⟩

theorem SameArena.trans (first : SameArena w v) (second : SameArena v u) : SameArena w u where
  tick := second.tick.trans first.tick
  map := second.map.trans first.map
  tileChanges := second.tileChanges.trans first.tileChanges
  bodies := second.bodies.trans first.bodies

theorem SameArena.shape (same : SameArena w v) : SameShape w v := by
  refine ⟨?_, ?_, ?_, ?_, same.bodies⟩ <;> rw [same.map]

theorem map_body {f : PlayerState K → PlayerState K} {players : List (PlayerState K)}
    (keeps : ∀ p ∈ players, body (f p) = body p) :
    (players.map f).map body = players.map body := by
  rw [List.map_map]
  exact List.map_congr_left keeps

theorem update_sameArena (w : World K) (id : Nat) {f : PlayerState K → PlayerState K}
    (keeps : ∀ p, body (f p) = body p) : SameArena w (w.update id f) := by
  refine ⟨rfl, rfl, rfl, map_body fun p _ => ?_⟩
  split
  · exact keeps p
  · rfl

theorem foldl_sameArena {β : Type} {f : World K → β → World K}
    (each : ∀ w b, SameArena w (f w b)) (w : World K) (bs : List β) :
    SameArena w (bs.foldl f w) := by
  induction bs generalizing w with
  | nil => exact SameArena.refl w
  | cons b rest ih => exact (each w b).trans (ih (f w b))

theorem SameShape.radius (shape : SameShape w v) (distinct : DistinctIds w.players)
    {p q : PlayerState K} (before : p ∈ w.players) (after : q ∈ v.players)
    (same : q.playerId = p.playerId) : q.radius = p.radius := by
  have image : body q ∈ v.players.map body := List.mem_map_of_mem after
  rw [shape.bodies] at image
  obtain ⟨source, member, equal⟩ := List.mem_map.mp image
  have sameId : source.playerId = p.playerId := (congrArg Prod.fst equal).trans same
  have sameBody := List.inj_on_of_nodup_map distinct member before sameId
  rw [← sameBody]
  exact (congrArg Prod.snd equal).symm

theorem SameShape.exists_mem (shape : SameShape w v) {p : PlayerState K} (member : p ∈ w.players) :
    ∃ q ∈ v.players, q.playerId = p.playerId := by
  have image : body p ∈ w.players.map body := List.mem_map_of_mem member
  rw [← shape.bodies] at image
  obtain ⟨q, origin, equal⟩ := List.mem_map.mp image
  exact ⟨q, origin, congrArg Prod.fst equal⟩

variable [JsNumber K]

theorem useExhaust_sameArena (w : World K) (caster : PlayerState K) :
    SameArena w (useExhaust w caster).world := by
  have cooling := update_sameArena w caster.playerId (f := fun p =>
    startCooldown w p .exhaust (JsNumber.ofRat Skills.Exhaust.cooldownMs)) fun _ => rfl
  have slowed := foldl_sameArena (f := fun (w : World K) id => w.update id fun p =>
    applyEffect w p .exhaust (JsNumber.ofRat Skills.Exhaust.speedDecrease)
      (JsNumber.ofRat Skills.Exhaust.durationMs)) fun w id => update_sameArena w id fun _ => rfl
  unfold useExhaust
  dsimp only
  split
  · exact cooling
  · exact cooling.trans ((slowed _ _).trans (update_sameArena _ _ fun _ => rfl))

theorem useSwitch_sameArena (w : World K) (caster : PlayerState K) (target : Option Nat) :
    SameArena w (useSwitch w caster target).world := by
  unfold useSwitch
  split
  · exact SameArena.refl w
  split
  · exact SameArena.refl w
  dsimp only
  have tried (count : MatchStats → MatchStats) : SameArena w (w.update caster.playerId fun p =>
      withStats count (startCooldown w p .switch (JsNumber.ofRat Skills.Switch.cooldownMs))) :=
    update_sameArena w caster.playerId fun _ => rfl
  split
  · exact tried _
  split
  · exact tried _
  · rename_i tagger _ _ _ picked _
    have cleared := (tried fun s => { s with switchTry := s.switchTry + 1 }).trans
      (update_sameArena _ tagger.playerId (f := fun p =>
        applyEffect w { p with isTagger := false } .exhaust
          (JsNumber.ofRat Skills.SwitchVictim.speedDecrease)
          (JsNumber.ofRat Skills.SwitchVictim.durationMs)) fun _ => rfl)
    have chosen := cleared.trans (update_sameArena _ picked.playerId (f := fun p =>
      grantTaggerFrenzy w { p with isTagger := true }) fun _ => rfl)
    exact chosen.trans (⟨rfl, rfl, rfl, map_body fun p _ => by split <;> rfl⟩)

theorem useSkill_sameArena (w : World K) (request : SkillRequest) :
    SameArena w (useSkill w request).world := by
  unfold useSkill
  split
  · exact SameArena.refl w
  split
  · exact SameArena.refl w
  split
  · exact SameArena.refl w
  split
  · exact SameArena.refl w
  split
  · exact SameArena.refl w
  split
  · exact update_sameArena w _ fun _ => rfl
  · unfold useFlash
    dsimp only
    split
    · exact SameArena.refl w
    · exact update_sameArena w _ fun _ => rfl
  · exact useExhaust_sameArena w _
  · exact useSwitch_sameArena w _ _

theorem runSkills_sameArena (w : World K) (requests : List SkillRequest) :
    SameArena w (runSkills w requests).world := by
  unfold runSkills
  generalize sortById SkillRequest.playerId requests = ordered
  suffices run : ∀ s : SkillPhase K, SameArena s.world (ordered.foldl SkillPhase.use s).world from
    run ⟨w, [], []⟩
  induction ordered with
  | nil => exact fun s => SameArena.refl s.world
  | cons request rest ih =>
    exact fun s => (useSkill_sameArena s.world request).trans (ih (s.use request))

theorem runEmojis_sameArena (w : World K) (requests : List EmojiRequest) :
    SameArena w (runEmojis w requests) := by
  refine foldl_sameArena (fun w request => ?_) w _
  unfold showEmoji
  split
  · exact SameArena.refl w
  · exact update_sameArena w _ fun _ => rfl

theorem body_movePlayer (map : WorldMap K) (storm : StormRect K) (inputs : List (ResolvedInput K))
    (p : PlayerState K) : body (movePlayer map storm inputs p) = body p := by
  unfold movePlayer
  split
  · rfl
  · cases inputById inputs p.playerId with
    | none => rfl
    | some input =>
      unfold integrate
      dsimp only
      split <;> rfl

theorem moveAll_sameShape (distinct : DistinctIds w.players) (inputs : List (ResolvedInput K)) :
    SameShape w (moveAll w inputs).1 := by
  obtain ⟨tiles, changes, equal⟩ := applyMapTimeline_frame w
  have moves (storm : StormRect K) (map : WorldMap K) :
      (w.players.map (movePlayer map storm inputs)).map body = w.players.map body :=
    map_body fun p _ => body_movePlayer map storm inputs p
  refine ⟨?_, ?_, ?_, ?_, ?_⟩
  all_goals
    unfold moveAll
    rw [equal]
  dsimp only
  rw [map_of_unplaced (fun _ => rfl) (runCollisions_unplaced _ _ ?_), moves]
  rw [DistinctIds, ids_of_roles (map_role fun p _ => role_movePlayer _ _ inputs p)]
  exact distinct

theorem resolvePair_sameArena (taggerId : Nat) (w : World K) (events : List (WorldEvent K))
    (pair : CollisionPair) : SameArena w (resolvePair taggerId (w, events) pair).1 := by
  unfold resolvePair
  dsimp only
  split
  · exact SameArena.refl w
  · rename_i victim _
    have struck := update_sameArena w victim.playerId (f := fun p =>
      withStats (fun stats =>
        { stats with taggedCount := stats.taggedCount + 1, eliminatedAtTick := some w.tick })
        { p with alive := false }) fun _ => rfl
    have credited := update_sameArena (w.update victim.playerId fun p =>
      withStats (fun stats =>
        { stats with taggedCount := stats.taggedCount + 1, eliminatedAtTick := some w.tick })
        { p with alive := false }) taggerId (f := fun p =>
          extendFrenzyOnTag w (withStats (fun s => { s with tagCount := s.tagCount + 1 }) p)) fun p => by
        unfold extendFrenzyOnTag
        split <;> rfl
    exact (struck.trans credited).trans (⟨rfl, rfl, rfl, rfl⟩)

theorem resolvePairs_sameArena (taggerId : Nat) (w : World K) (events : List (WorldEvent K))
    (pairs : List CollisionPair) :
    SameArena w (pairs.foldl (resolvePair taggerId) (w, events)).1 := by
  induction pairs generalizing w events with
  | nil => exact SameArena.refl w
  | cons pair rest ih => exact (resolvePair_sameArena taggerId w events pair).trans (ih _ _)

theorem resolveTagging_sameArena (w : World K) (pairs : List CollisionPair)
    (events : List (WorldEvent K)) : SameArena w (resolveTagging w pairs events).1 := by
  unfold resolveTagging
  split
  · exact SameArena.refl w
  · exact resolvePairs_sameArena _ w events pairs

theorem rotateTaggerIfStale_sameArena (w : World K) (events : List (WorldEvent K)) :
    SameArena w (rotateTaggerIfStale w events).1 := by
  rcases rotateTaggerIfStale_eq w events with same | ⟨picked, _, state, same⟩
  · rw [same]
    exact SameArena.refl w
  · rw [same]
    have flagged : SameArena w
        { w with
          players := w.players.map fun p => { p with isTagger := p.playerId = picked.playerId }
          taggerChangedAtTick := w.tick
          randomState := state } := ⟨rfl, rfl, rfl, map_body fun _ _ => rfl⟩
    exact flagged.trans (update_sameArena _ picked.playerId fun _ => rfl)

theorem requested_sameArena (w : World K) (requests : TickRequests K) :
    SameArena (beginTick w) (afterRequests w requests) :=
  (runSkills_sameArena _ _).trans (runEmojis_sameArena _ _)

/-- From the contacts on. -/
theorem tagged_sameArena (w : World K) (requests : TickRequests K) :
    SameArena (beforeTags w requests).1 (stepWorld w requests).world := by
  have tagged : SameArena (beforeTags w requests).1 (afterTags w requests).1 :=
    resolveTagging_sameArena _ _ _
  rw [stepWorld_world, afterRotation]
  split
  · exact tagged
  · exact tagged.trans (rotateTaggerIfStale_sameArena _ _)

theorem afterRequests_sameShape (w : World K) (requests : TickRequests K) :
    SameShape w (afterRequests w requests) := by
  have begun : SameShape w (beginTick w) := ⟨rfl, rfl, rfl, rfl, map_body fun _ _ => rfl⟩
  exact begun.trans (requested_sameArena w requests).shape

omit [JsNumber K] in
theorem SameShape.ids (same : SameShape w v) :
    v.players.map PlayerState.playerId = w.players.map PlayerState.playerId := by
  have slots := congrArg (List.map Prod.fst) same.bodies
  simpa only [List.map_map, Function.comp_def, body] using slots

theorem stepWorld_sameShape (distinct : DistinctIds w.players) (requests : TickRequests K) :
    SameShape w (stepWorld w requests).world := by
  have asked := afterRequests_sameShape w requests
  have shown : DistinctIds (afterRequests w requests).players := by
    rw [DistinctIds, SameShape.ids asked]
    exact distinct
  exact (asked.trans (moveAll_sameShape shown _)).trans (tagged_sameArena w requests).shape

/-! ## The tiles -/

omit [JsNumber K] in
theorem applyTileChange_cases (w : World K) (c : TileChange) :
    applyTileChange w c = w ∨ (applyTileChange w c).tileChanges = w.tileChanges ++ [c] ∧
      (applyTileChange w c).map.tiles = writeTile w.map.tiles c := by
  unfold applyTileChange
  split
  · exact Or.inl rfl
  · exact Or.inr ⟨rfl, rfl⟩

omit [JsNumber K] in
/-- The timeline records every change it makes, in the order it makes them. -/
theorem applyMapTimeline_records (w : World K) :
    ∃ made, (applyMapTimeline w).tileChanges = w.tileChanges ++ made ∧
      (applyMapTimeline w).map.tiles = made.foldl writeTile w.map.tiles := by
  unfold applyMapTimeline
  generalize w.map.timeline w.tick = changes
  induction changes generalizing w with
  | nil => exact ⟨[], (List.append_nil _).symm, rfl⟩
  | cons c rest ih =>
    obtain ⟨made, recorded, tiles⟩ := ih (applyTileChange w c)
    rw [List.foldl_cons]
    rcases applyTileChange_cases w c with idle | ⟨added, written⟩
    · rw [idle] at recorded tiles ⊢
      exact ⟨made, recorded, tiles⟩
    · rw [added, List.append_assoc] at recorded
      rw [written] at tiles
      exact ⟨c :: made, recorded, tiles⟩

theorem stepWorld_tick (w : World K) (requests : TickRequests K) :
    (stepWorld w requests).world.tick = w.tick + 1 := by
  obtain ⟨tiles, changes, equal⟩ := applyMapTimeline_frame (afterRequests w requests)
  have moved : (beforeTags w requests).1.tick = (afterRequests w requests).tick := by
    unfold beforeTags moveAll
    rw [equal]
  rw [(tagged_sameArena w requests).tick, moved, (requested_sameArena w requests).tick]
  rfl

/-- The changes of a tick take the tiles before it to the tiles after it. -/
theorem stepWorld_tiles (w : World K) (requests : TickRequests K) :
    (stepWorld w requests).world.map.tiles =
      (stepWorld w requests).world.tileChanges.foldl writeTile w.map.tiles := by
  have requested := requested_sameArena w requests
  obtain ⟨made, recorded, tiles⟩ := applyMapTimeline_records (afterRequests w requests)
  rw [requested.tileChanges] at recorded
  rw [requested.map] at tiles
  rw [(tagged_sameArena w requests).map, (tagged_sameArena w requests).tileChanges]
  show (applyMapTimeline (afterRequests w requests)).map.tiles =
    (applyMapTimeline (afterRequests w requests)).tileChanges.foldl writeTile w.map.tiles
  rw [recorded, tiles]
  rfl

end SwitchRemake.Simulation

import SwitchRemake.Simulation.Shape
import SwitchRemake.Simulation.Turns

/-!
# The order of the players

A tick over the same players and requests in another order is the same tick: every loop that could
see the order sorts by slot first.
-/

namespace SwitchRemake.Simulation
open Lib

variable {K : Type} {w v u : World K}

/-! ## Sorting -/

theorem sortById_eq {α : Type} {slot : α → Nat} {xs ys : List α} (perm : ys.Perm xs)
    (distinct : (xs.map slot).Nodup) : sortById slot ys = sortById slot xs := by
  have sorted (zs : List α) : (sortById slot zs).Pairwise fun a b => slot a ≤ slot b :=
    List.pairwise_insertionSort _ zs
  refine List.Perm.eq_of_pairwise (fun a b left right below above => ?_) (sorted ys) (sorted xs)
    (((sortById_perm slot ys).trans perm).trans (sortById_perm slot xs).symm)
  have first : a ∈ xs := perm.mem_iff.mp (mem_sortById.mp left)
  have second : b ∈ xs := mem_sortById.mp right
  exact List.inj_on_of_nodup_map distinct first second (le_antisymm below above)

/-- What at most one element satisfies is found in any order. -/
theorem find?_perm {α : Type} {p : α → Bool} {xs ys : List α} (perm : ys.Perm xs)
    (unique : ∀ a ∈ xs, ∀ b ∈ xs, p a = true → p b = true → a = b) :
    ys.find? p = xs.find? p := by
  cases found : xs.find? p with
  | none =>
    refine List.find?_eq_none.mpr fun a member => ?_
    exact List.find?_eq_none.mp found a (perm.mem_iff.mp member)
  | some a =>
    have inside := List.mem_of_find?_eq_some found
    have holds : p a = true := List.find?_some found
    have present : (ys.find? p).isSome := by
      rw [List.find?_isSome]
      exact ⟨a, perm.mem_iff.mpr inside, holds⟩
    obtain ⟨b, other⟩ := Option.isSome_iff_exists.mp present
    have there := perm.mem_iff.mp (List.mem_of_find?_eq_some other)
    rw [other, unique b there a inside (List.find?_some other) holds]

theorem inputById_eq {xs ys : List (ResolvedInput K)} (perm : ys.Perm xs)
    (distinct : (xs.map ResolvedInput.playerId).Nodup) (id : Nat) :
    inputById ys id = inputById xs id := by
  refine find?_perm ((ys.reverse_perm.trans perm).trans xs.reverse_perm.symm) fun a first b second left right => ?_
  simp only [decide_eq_true_eq] at left right
  exact List.inj_on_of_nodup_map distinct (List.mem_reverse.mp first) (List.mem_reverse.mp second)
    (left.trans right.symm)

/-! ## Worlds in another order -/

def Shuffled (w v : World K) : Prop :=
  ∃ players : List (PlayerState K), players.Perm w.players ∧ v = { w with players }

def Tags (p : PlayerState K) : Prop := p.alive = true ∧ p.isTagger = true

/-- Distinct slots and at most one living tagger. -/
structure Orderly (w : World K) : Prop where
  distinct : DistinctIds w.players
  sole : ∀ p ∈ w.players, ∀ q ∈ w.players, Tags p → Tags q → p.playerId = q.playerId

theorem Shuffled.find_eq (shuffled : Shuffled w v) (distinct : DistinctIds w.players) (id : Nat) :
    v.find id = w.find id := by
  obtain ⟨players, perm, rfl⟩ := shuffled
  refine find?_perm perm fun a first b second left right => ?_
  simp only [decide_eq_true_eq] at left right
  exact List.inj_on_of_nodup_map distinct first second (left.trans right.symm)

theorem Shuffled.map (shuffled : Shuffled w v) (f : PlayerState K → PlayerState K) :
    Shuffled { w with players := w.players.map f } { v with players := v.players.map f } := by
  obtain ⟨players, perm, rfl⟩ := shuffled
  exact ⟨players.map f, perm.map f, rfl⟩

theorem Shuffled.update (shuffled : Shuffled w v) (id : Nat) (f : PlayerState K → PlayerState K) :
    Shuffled (w.update id f) (v.update id f) :=
  shuffled.map _

theorem Shuffled.changedAt (shuffled : Shuffled w v) (tick : Nat) :
    Shuffled { w with taggerChangedAtTick := tick } { v with taggerChangedAtTick := tick } := by
  obtain ⟨players, perm, rfl⟩ := shuffled
  exact ⟨players, perm, rfl⟩

theorem Shuffled.livingTagger_eq (shuffled : Shuffled w v) (orderly : Orderly w) :
    livingTagger v = livingTagger w := by
  obtain ⟨players, perm, rfl⟩ := shuffled
  refine find?_perm perm fun a first b second left right => ?_
  simp only [Bool.and_eq_true] at left right
  exact List.inj_on_of_nodup_map orderly.distinct first second
    (orderly.sole a first b second left.symm right.symm)

theorem Shuffled.sorted_eq (shuffled : Shuffled w v) (distinct : DistinctIds w.players)
    (keep : PlayerState K → Bool) :
    sortById PlayerState.playerId (v.players.filter keep) =
      sortById PlayerState.playerId (w.players.filter keep) := by
  obtain ⟨players, perm, rfl⟩ := shuffled
  refine sortById_eq (perm.filter keep) ?_
  exact distinct.sublist (List.filter_sublist.map _)

theorem Shuffled.isFinished_eq (shuffled : Shuffled w v) : isFinished v = isFinished w := by
  obtain ⟨players, perm, rfl⟩ := shuffled
  rw [isFinished, isFinished, survivors, survivors, (perm.filter PlayerState.alive).length_eq]

theorem Orderly.of_roles (orderly : Orderly w) (same : SameRoles w v) : Orderly v where
  distinct := same.distinct orderly.distinct
  sole p first q second left right := by
    have source {r : PlayerState K} (member : r ∈ v.players) :
        ∃ s ∈ w.players, role s = role r := by
      have image : role r ∈ v.players.map role := List.mem_map_of_mem member
      rw [same] at image
      exact List.mem_map.mp image
    obtain ⟨a, before, equal⟩ := source first
    obtain ⟨b, origin, matching⟩ := source second
    simp only [role, Prod.mk.injEq] at equal matching
    rw [← equal.1, ← matching.1]
    refine orderly.sole a before b origin ?_ ?_
    · exact ⟨equal.2.1.trans left.1, equal.2.2.trans left.2⟩
    · exact ⟨matching.2.1.trans right.1, matching.2.2.trans right.2⟩

theorem Orderly.map {f : PlayerState K → PlayerState K} (orderly : Orderly w)
    (slots : ∀ p, (f p).playerId = p.playerId)
    (sole : ∀ p ∈ w.players, ∀ q ∈ w.players, Tags (f p) → Tags (f q) → p.playerId = q.playerId) :
    Orderly { w with players := w.players.map f } where
  distinct := by
    have ids : (w.players.map f).map PlayerState.playerId = w.players.map PlayerState.playerId := by
      rw [List.map_map]
      exact List.map_congr_left fun p _ => slots p
    rw [DistinctIds, ids]
    exact orderly.distinct
  sole p first q second left right := by
    obtain ⟨a, before, rfl⟩ := List.mem_map.mp first
    obtain ⟨b, origin, rfl⟩ := List.mem_map.mp second
    rw [slots, slots]
    exact sole a before b origin left right

theorem Orderly.changedAt (orderly : Orderly w) (tick : Nat) :
    Orderly { w with taggerChangedAtTick := tick } :=
  ⟨orderly.distinct, orderly.sole⟩

variable [JsNumber K]

/-! ## Skills -/

structure SameResult (first second : SkillResult K) : Prop where
  world : Shuffled first.world second.world
  events : second.events = first.events
  outcome : second.outcome = first.outcome

omit [JsNumber K] in
theorem foldl_shuffled {β : Type} {f : World K → β → World K}
    (each : ∀ w v b, Shuffled w v → Shuffled (f w b) (f v b)) (bs : List β)
    (shuffled : Shuffled w v) : Shuffled (bs.foldl f w) (bs.foldl f v) := by
  induction bs generalizing w v with
  | nil => exact shuffled
  | cons b rest ih => exact ih (each w v b shuffled)

theorem Shuffled.applyEffect (shuffled : Shuffled w v) (id : Nat) (type : EffectType)
    (magnitude durationMs : K) :
    Shuffled (w.update id fun p => applyEffect w p type magnitude durationMs)
      (v.update id fun p => Simulation.applyEffect v p type magnitude durationMs) := by
  obtain ⟨players, perm, rfl⟩ := shuffled
  exact Shuffled.update ⟨players, perm, rfl⟩ id _

theorem useDash_same (shuffled : Shuffled w v) (caster : PlayerState K) :
    SameResult (useDash w caster) (useDash v caster) := by
  obtain ⟨players, perm, rfl⟩ := shuffled
  exact ⟨Shuffled.update ⟨players, perm, rfl⟩ _ _, rfl, rfl⟩

theorem useFlash_same (shuffled : Shuffled w v) (caster : PlayerState K) :
    SameResult (useFlash w caster) (useFlash v caster) := by
  obtain ⟨players, perm, rfl⟩ := shuffled
  unfold useFlash
  dsimp only
  split
  · exact ⟨⟨players, perm, rfl⟩, rfl, rfl⟩
  · exact ⟨Shuffled.update ⟨players, perm, rfl⟩ _ _, rfl, rfl⟩

theorem useExhaust_same (shuffled : Shuffled w v) (distinct : DistinctIds w.players)
    (caster : PlayerState K) : SameResult (useExhaust w caster) (useExhaust v caster) := by
  have hits := shuffled.sorted_eq distinct fun p => p.alive && p.playerId != caster.playerId &&
    decide (Simulation.distance caster p ≤ JsNumber.ofRat Skills.Exhaust.rangePx)
  have cooling : Shuffled
      (w.update caster.playerId fun p =>
        startCooldown w p .exhaust (JsNumber.ofRat Skills.Exhaust.cooldownMs))
      (v.update caster.playerId fun p =>
        startCooldown v p .exhaust (JsNumber.ofRat Skills.Exhaust.cooldownMs)) := by
    obtain ⟨players, perm, rfl⟩ := shuffled
    exact Shuffled.update ⟨players, perm, rfl⟩ _ _
  unfold useExhaust
  rw [hits]
  dsimp only
  split
  · exact ⟨cooling, rfl, rfl⟩
  · refine ⟨Shuffled.applyEffect ?_ _ _ _ _, rfl, rfl⟩
    exact foldl_shuffled (fun _ _ id same => same.applyEffect id _ _ _) _ cooling

theorem useSwitch_same (shuffled : Shuffled w v) (orderly : Orderly w) (caster : PlayerState K)
    (target : Option Nat) : SameResult (useSwitch w caster target) (useSwitch v caster target) := by
  have holds := shuffled.livingTagger_eq orderly
  have finds : v.find = w.find := funext (shuffled.find_eq orderly.distinct)
  unfold useSwitch
  rw [holds, finds]
  obtain ⟨players, perm, rfl⟩ := shuffled
  have same : Shuffled w { w with players } := ⟨players, perm, rfl⟩
  split
  · exact ⟨same, rfl, rfl⟩
  split
  · exact ⟨same, rfl, rfl⟩
  dsimp only
  have tried := same.update caster.playerId fun p =>
    withStats (fun s => { s with switchTry := s.switchTry + 1 })
      (startCooldown w p .switch (JsNumber.ofRat Skills.Switch.cooldownMs))
  split
  · exact ⟨tried, rfl, rfl⟩
  split
  · exact ⟨tried, rfl, rfl⟩
  · rename_i tagger _ _ _ picked _
    have cleared := tried.update tagger.playerId fun p =>
      Simulation.applyEffect w { p with isTagger := false } .exhaust
        (JsNumber.ofRat Skills.SwitchVictim.speedDecrease)
        (JsNumber.ofRat Skills.SwitchVictim.durationMs)
    have chosen := cleared.update picked.playerId fun p =>
      grantTaggerFrenzy w { p with isTagger := true }
    exact ⟨(chosen.changedAt w.tick).update _ _, rfl, rfl⟩

theorem useSkill_same (shuffled : Shuffled w v) (orderly : Orderly w) (request : SkillRequest) :
    SameResult (useSkill w request) (useSkill v request) := by
  unfold useSkill
  rw [shuffled.find_eq orderly.distinct]
  split
  · exact ⟨shuffled, rfl, rfl⟩
  split
  · exact ⟨shuffled, rfl, rfl⟩
  split
  · exact ⟨shuffled, rfl, rfl⟩
  split
  · exact ⟨shuffled, rfl, rfl⟩
  split
  · exact ⟨shuffled, rfl, rfl⟩
  split
  · exact useDash_same shuffled _
  · exact useFlash_same shuffled _
  · exact useExhaust_same shuffled orderly.distinct _
  · exact useSwitch_same shuffled orderly _ _

theorem useSkill_orderly (orderly : Orderly w) (request : SkillRequest) :
    Orderly (useSkill w request).world := by
  have casts := useSkill_casts orderly.distinct request
  generalize useSkill w request = result at casts
  cases casts with
  | refused _ _ => exact orderly
  | used rewrites _ _ _ =>
    obtain ⟨f, spares, rfl⟩ := rewrites
    refine orderly.map (fun p => (spares p).slot) fun p first q second left right => ?_
    have tags (r : PlayerState K) (after : Tags (f r)) : Tags r :=
      ⟨(spares r).alive.symm.trans after.1, (spares r).isTagger.symm.trans after.2⟩
    exact orderly.sole p first q second (tags p left) (tags q right)
  | @switched caster tagger target _ hit =>
    obtain ⟨holds, flag, alive⟩ := livingTagger_some hit.holds
    have casterIn := (find_some hit.found).1
    -- Whoever carries the flag after it is the target.
    have named (p : PlayerState K) (member : p ∈ w.players)
        (after : Tags (switchPlayer w caster.playerId tagger.playerId target.playerId p)) :
        p.playerId = target.playerId := by
      obtain ⟨lives, raised⟩ := after
      rw [switchPlayer_alive] at lives
      rw [switchPlayer_isTagger] at raised
      by_cases cast : p.playerId = caster.playerId
      · rw [if_pos cast, List.inj_on_of_nodup_map orderly.distinct member casterIn cast,
          hit.runner] at raised
        exact absurd raised Bool.false_ne_true
      · rw [if_neg cast] at raised
        by_cases held : p.playerId = tagger.playerId
        · simp [held] at raised
        · by_cases aimed : p.playerId = target.playerId
          · exact aimed
          · rw [if_neg held, if_neg aimed] at raised
            exact absurd (orderly.sole p member tagger holds ⟨lives, raised⟩ ⟨alive, flag⟩) held
    refine (orderly.map (switchPlayer_playerId w _ _ _) fun p first q second left right => ?_).changedAt _
    exact (named p first left).trans (named q second right).symm

/-! ## The phases -/

structure SamePhase (first second : SkillPhase K) : Prop where
  world : Shuffled first.world second.world
  orderly : Orderly first.world
  events : second.events = first.events
  rejections : second.rejections = first.rejections

theorem SamePhase.use {first second : SkillPhase K} (same : SamePhase first second)
    (request : SkillRequest) : SamePhase (first.use request) (second.use request) := by
  have result := useSkill_same same.world same.orderly request
  refine ⟨result.world, useSkill_orderly same.orderly request, ?_, ?_⟩
  · simp only [SkillPhase.use, same.events, result.events]
  · simp only [SkillPhase.use, same.rejections, result.outcome]

theorem runSkills_same (shuffled : Shuffled w v) (orderly : Orderly w) {xs ys : List SkillRequest}
    (perm : ys.Perm xs) (distinct : (xs.map SkillRequest.playerId).Nodup) :
    SamePhase (runSkills w xs) (runSkills v ys) := by
  unfold runSkills
  rw [sortById_eq perm distinct]
  generalize sortById SkillRequest.playerId xs = ordered
  suffices run : ∀ first second, SamePhase first second →
      SamePhase (ordered.foldl SkillPhase.use first) (ordered.foldl SkillPhase.use second) from
    run _ _ ⟨shuffled, orderly, rfl, rfl⟩
  induction ordered with
  | nil => exact fun _ _ same => same
  | cons request rest ih => exact fun _ _ same => ih _ _ (same.use request)

theorem beginTick_same (shuffled : Shuffled w v) (orderly : Orderly w) :
    Shuffled (beginTick w) (beginTick v) := by
  have ticked : livingTagger { v with tick := v.tick + 1, tileChanges := [] } =
      livingTagger { w with tick := w.tick + 1, tileChanges := [] } :=
    shuffled.livingTagger_eq orderly
  unfold beginTick
  dsimp only
  rw [ticked]
  obtain ⟨players, perm, rfl⟩ := shuffled
  exact ⟨_, perm.map _, rfl⟩

omit [JsNumber K] in
theorem foldl_orderly {β : Type} {f : World K → β → World K}
    (each : ∀ w b, SameRoles w (f w b)) (bs : List β) (orderly : Orderly w) :
    Orderly (bs.foldl f w) := by
  induction bs generalizing w with
  | nil => exact orderly
  | cons b rest ih => exact ih (orderly.of_roles (each w b))

theorem showEmoji_same (shuffled : Shuffled w v) (orderly : Orderly w) (request : EmojiRequest) :
    Shuffled (showEmoji w request) (showEmoji v request) := by
  unfold showEmoji
  rw [shuffled.find_eq orderly.distinct]
  obtain ⟨players, perm, rfl⟩ := shuffled
  split
  · exact ⟨players, perm, rfl⟩
  · exact Shuffled.update ⟨players, perm, rfl⟩ _ _

theorem runEmojis_same (shuffled : Shuffled w v) (orderly : Orderly w) {xs ys : List EmojiRequest}
    (perm : ys.Perm xs) (distinct : (xs.map EmojiRequest.playerId).Nodup) :
    Shuffled (runEmojis w xs) (runEmojis v ys) ∧ Orderly (runEmojis w xs) := by
  unfold runEmojis
  rw [sortById_eq perm distinct]
  generalize sortById EmojiRequest.playerId xs = ordered
  refine ⟨?_, foldl_orderly showEmoji_sameRoles ordered orderly⟩
  induction ordered generalizing w v with
  | nil => exact shuffled
  | cons request rest ih =>
    exact ih (showEmoji_same shuffled orderly request)
      (orderly.of_roles (showEmoji_sameRoles w request))

/-! ## Movement -/

theorem collide_perm (map : WorldMap K) (storm : StormRect K) {players others : List (PlayerState K)}
    (perm : others.Perm players) (distinct : DistinctIds players) :
    (collide map storm others).1.Perm (collide map storm players).1 ∧
      (collide map storm others).2 = (collide map storm players).2 := by
  have active : resolvePlayerCollisions others = resolvePlayerCollisions players := by
    unfold resolvePlayerCollisions
    rw [sortById_eq (perm.filter _) (distinct.sublist (List.filter_sublist.map _))]
  unfold collide
  rw [active]
  exact ⟨perm.map _, rfl⟩

theorem settle_perm (map : WorldMap K) (storm : StormRect K) (passes : Nat)
    {players others : List (PlayerState K)} (perm : others.Perm players)
    (distinct : DistinctIds players) :
    (settle map storm passes others).Perm (settle map storm passes players) := by
  induction passes generalizing players others with
  | zero => exact perm
  | succ passes ih =>
    obtain ⟨moved, pairs⟩ := collide_perm map storm perm distinct
    simp only [settle]
    rw [pairs]
    split
    · exact moved
    · exact ih moved (collide_distinct map storm distinct)

theorem runCollisions_perm (map : WorldMap K) (storm : StormRect K)
    {players others : List (PlayerState K)} (perm : others.Perm players)
    (distinct : DistinctIds players) :
    (runCollisions map storm others).1.Perm (runCollisions map storm players).1 ∧
      (runCollisions map storm others).2 = (runCollisions map storm players).2 := by
  obtain ⟨moved, pairs⟩ := collide_perm map storm perm distinct
  unfold runCollisions
  dsimp only
  rw [pairs]
  split
  · exact ⟨moved, rfl⟩
  · exact ⟨settle_perm map storm _ moved (collide_distinct map storm distinct), rfl⟩

omit [JsNumber K] in
/-- The timeline does not look at the players. -/
theorem applyMapTimeline_players (w : World K) (players : List (PlayerState K)) :
    applyMapTimeline { w with players } = { applyMapTimeline w with players } := by
  unfold applyMapTimeline
  dsimp only
  generalize w.map.timeline w.tick = changes
  induction changes generalizing w with
  | nil => rfl
  | cons c rest ih =>
    have one : applyTileChange { w with players } c = { applyTileChange w c with players } := by
      unfold applyTileChange
      dsimp only
      split <;> rfl
    rw [List.foldl_cons, List.foldl_cons, one, ih]

theorem movePlayer_inputs (map : WorldMap K) (storm : StormRect K) {xs ys : List (ResolvedInput K)}
    (perm : ys.Perm xs) (distinct : (xs.map ResolvedInput.playerId).Nodup) :
    movePlayer map storm ys = movePlayer map storm xs := by
  funext p
  unfold movePlayer
  rw [inputById_eq perm distinct]

theorem moveAll_same (shuffled : Shuffled w v) (orderly : Orderly w) {xs ys : List (ResolvedInput K)}
    (perm : ys.Perm xs) (distinct : (xs.map ResolvedInput.playerId).Nodup) :
    Shuffled (moveAll w xs).1 (moveAll v ys).1 ∧ (moveAll v ys).2 = (moveAll w xs).2 := by
  obtain ⟨players, reordered, rfl⟩ := shuffled
  obtain ⟨tiles, changes, equal⟩ := applyMapTimeline_frame w
  have timed := applyMapTimeline_players w players
  rw [equal] at timed
  unfold moveAll
  rw [timed, equal]
  dsimp only
  rw [movePlayer_inputs _ _ perm distinct]
  have moves (map : WorldMap K) (storm : StormRect K) :
      DistinctIds (w.players.map (movePlayer map storm xs)) := by
    rw [DistinctIds, ids_of_roles (map_role fun p _ => role_movePlayer map storm xs p)]
    exact orderly.distinct
  obtain ⟨collided, pairs⟩ := runCollisions_perm { w.map with tiles := tiles }
    (stormRect { w with map := { w.map with tiles := tiles }, tileChanges := changes })
    (reordered.map _) (moves _ _)
  exact ⟨⟨_, collided, rfl⟩, pairs⟩

/-! ## Tags and rotation -/

theorem resolvePair_same (shuffled : Shuffled w v) (distinct : DistinctIds w.players)
    (taggerId : Nat) (events : List (WorldEvent K)) (pair : CollisionPair) :
    Shuffled (resolvePair taggerId (w, events) pair).1 (resolvePair taggerId (v, events) pair).1 ∧
      (resolvePair taggerId (v, events) pair).2 = (resolvePair taggerId (w, events) pair).2 := by
  have finds : v.find = w.find := funext (shuffled.find_eq distinct)
  unfold resolvePair
  dsimp only
  rw [finds]
  obtain ⟨players, perm, rfl⟩ := shuffled
  have same : Shuffled w { w with players } := ⟨players, perm, rfl⟩
  split
  · exact ⟨same, rfl⟩
  · exact ⟨((same.update _ _).update _ _).changedAt _, rfl⟩

theorem resolvePairs_same (shuffled : Shuffled w v) (distinct : DistinctIds w.players)
    (taggerId : Nat) (events : List (WorldEvent K)) (pairs : List CollisionPair) :
    Shuffled (pairs.foldl (resolvePair taggerId) (w, events)).1
        (pairs.foldl (resolvePair taggerId) (v, events)).1 ∧
      (pairs.foldl (resolvePair taggerId) (v, events)).2 =
        (pairs.foldl (resolvePair taggerId) (w, events)).2 := by
  induction pairs generalizing w v events with
  | nil => exact ⟨shuffled, rfl⟩
  | cons pair rest ih =>
    obtain ⟨world, told⟩ := resolvePair_same shuffled distinct taggerId events pair
    have slots := (resolvePair_unturned taggerId w events pair).distinct (fun _ _ kept => kept.1) distinct
    have later := ih world slots (resolvePair taggerId (w, events) pair).2
    have state : resolvePair taggerId (v, events) pair =
        ((resolvePair taggerId (v, events) pair).1, (resolvePair taggerId (w, events) pair).2) :=
      Prod.ext rfl told
    rw [List.foldl_cons, List.foldl_cons, state]
    exact later

theorem resolveTagging_same (shuffled : Shuffled w v) (orderly : Orderly w)
    (events : List (WorldEvent K)) (pairs : List CollisionPair) :
    Shuffled (resolveTagging w pairs events).1 (resolveTagging v pairs events).1 ∧
      (resolveTagging v pairs events).2 = (resolveTagging w pairs events).2 := by
  unfold resolveTagging
  rw [shuffled.livingTagger_eq orderly]
  split
  · exact ⟨shuffled, rfl⟩
  · exact resolvePairs_same shuffled orderly.distinct _ events pairs

omit [JsNumber K] in
/-- The generator does not look at the players. -/
theorem nextRandomInt_players (w : World K) (players : List (PlayerState K)) (n : Nat) :
    ({ w with players } : World K).nextRandomInt n =
      ((w.nextRandomInt n).1, { (w.nextRandomInt n).2 with players }) := by
  unfold World.nextRandomInt
  split <;> rfl

theorem rotateTaggerIfStale_same (shuffled : Shuffled w v) (distinct : DistinctIds w.players)
    (events : List (WorldEvent K)) :
    Shuffled (rotateTaggerIfStale w events).1 (rotateTaggerIfStale v events).1 ∧
      (rotateTaggerIfStale v events).2 = (rotateTaggerIfStale w events).2 := by
  have runners : rotationCandidates v = rotationCandidates w :=
    shuffled.sorted_eq distinct fun p => p.alive && !p.isTagger
  obtain ⟨players, perm, rfl⟩ := shuffled
  obtain ⟨state, drawn⟩ := nextRandomInt_world w (rotationCandidates w).length
  unfold rotateTaggerIfStale
  dsimp only
  have others := nextRandomInt_players w players (rotationCandidates w).length
  rw [runners, others]
  dsimp only
  rw [drawn]
  split
  · exact ⟨⟨players, perm, rfl⟩, rfl⟩
  split
  · exact ⟨⟨players, perm, rfl⟩, rfl⟩
  · rename_i picked _
    exact ⟨⟨_, (perm.map _).map _, rfl⟩, rfl⟩

/-! ## A whole tick -/

structure OnePerPlayer (requests : TickRequests K) : Prop where
  inputs : (requests.inputs.map ResolvedInput.playerId).Nodup
  skills : (requests.skillRequests.map SkillRequest.playerId).Nodup
  emojis : (requests.emojiRequests.map EmojiRequest.playerId).Nodup

structure Reordered (requests others : TickRequests K) : Prop where
  inputs : others.inputs.Perm requests.inputs
  skills : others.skillRequests.Perm requests.skillRequests
  emojis : others.emojiRequests.Perm requests.emojiRequests

section Tick

variable {requests others : TickRequests K}

theorem beforeTags_same (shuffled : Shuffled w v) (orderly : Orderly w) (one : OnePerPlayer requests)
    (reordered : Reordered requests others) :
    Shuffled (beforeTags w requests).1 (beforeTags v others).1 ∧
      (beforeTags v others).2 = (beforeTags w requests).2 ∧ Orderly (beforeTags w requests).1 := by
  have begun := orderly.of_roles (beginTick_sameRoles w)
  have skills := runSkills_same (beginTick_same shuffled orderly) begun reordered.skills one.skills
  obtain ⟨emojis, asked⟩ := runEmojis_same skills.world skills.orderly reordered.emojis one.emojis
  obtain ⟨moved, pairs⟩ := moveAll_same emojis asked reordered.inputs one.inputs
  exact ⟨moved, pairs, asked.of_roles (moveAll_sameRoles asked.distinct requests.inputs)⟩

theorem afterTags_same (shuffled : Shuffled w v) (orderly : Orderly w) (one : OnePerPlayer requests)
    (reordered : Reordered requests others) :
    Shuffled (afterTags w requests).1 (afterTags v others).1 ∧
      (afterTags v others).2 = (afterTags w requests).2 := by
  have begun := orderly.of_roles (beginTick_sameRoles w)
  have skills := runSkills_same (beginTick_same shuffled orderly) begun reordered.skills one.skills
  obtain ⟨moved, pairs, before⟩ := beforeTags_same shuffled orderly one reordered
  unfold afterTags
  rw [pairs, skills.events]
  exact resolveTagging_same moved before _ _

omit [JsNumber K] in
theorem SameArena.distinct (same : SameArena w v) (distinct : DistinctIds w.players) :
    DistinctIds v.players := by
  have ids := congrArg (List.map Prod.fst) same.bodies
  simp only [List.map_map, Function.comp_def, body] at ids
  rw [DistinctIds, ids]
  exact distinct

theorem stepWorld_same (shuffled : Shuffled w v) (orderly : Orderly w) (one : OnePerPlayer requests)
    (reordered : Reordered requests others) :
    Shuffled (stepWorld w requests).world (stepWorld v others).world ∧
      (stepWorld v others).events = (stepWorld w requests).events := by
  obtain ⟨_, _, before⟩ := beforeTags_same shuffled orderly one reordered
  obtain ⟨tagged, told⟩ := afterTags_same shuffled orderly one reordered
  have slots := (resolveTagging_unturned (beforeTags w requests).1 (beforeTags w requests).2
    (runSkills (beginTick w) requests.skillRequests).events).distinct (fun _ _ kept => kept.1)
    before.distinct
  rw [stepWorld_world, stepWorld_world, stepWorld_events, stepWorld_events, afterRotation,
    afterRotation, tagged.isFinished_eq]
  split
  · exact ⟨tagged, told⟩
  · rw [told]
    exact rotateTaggerIfStale_same tagged slots _

theorem stepWorld_tick_eq (w : World K) (requests : TickRequests K) :
    (stepWorld w requests).tick = (stepWorld w requests).world.tick := rfl

theorem stepWorld_rejections (w : World K) (requests : TickRequests K) :
    (stepWorld w requests).skillRejections =
      (runSkills (beginTick w) requests.skillRequests).rejections := rfl

theorem stepWorld_order (distinct : DistinctIds w.players)
    (sole : ∀ p ∈ w.players, ∀ q ∈ w.players, Tags p → Tags q → p = q)
    (one : OnePerPlayer requests) (reordered : Reordered requests others)
    {players : List (PlayerState K)} (perm : players.Perm w.players) :
    let frame := stepWorld w requests
    let other := stepWorld { w with players } others
    other.tick = frame.tick ∧ other.events = frame.events ∧
      other.skillRejections = frame.skillRejections ∧
      (∀ id, other.world.find id = frame.world.find id) ∧
      other.world.players.Perm frame.world.players ∧
      other.world = { frame.world with players := other.world.players } := by
  have shuffled : Shuffled w { w with players } := ⟨players, perm, rfl⟩
  have orderly : Orderly w :=
    ⟨distinct, fun p first q second left right => congrArg _ (sole p first q second left right)⟩
  have skills := runSkills_same (beginTick_same shuffled orderly)
    (orderly.of_roles (beginTick_sameRoles w)) reordered.skills one.skills
  obtain ⟨_, _, before⟩ := beforeTags_same shuffled orderly one reordered
  obtain ⟨same, events⟩ := stepWorld_same shuffled orderly one reordered
  have slots := (tagged_sameArena w requests).distinct before.distinct
  have finds := same.find_eq slots
  dsimp only
  rw [stepWorld_tick_eq, stepWorld_tick_eq, stepWorld_rejections, stepWorld_rejections]
  refine ⟨?_, events, skills.rejections, finds, ?_⟩
  · generalize (stepWorld { w with players } others).world = after at same
    obtain ⟨_, _, rfl⟩ := same
    rfl
  · generalize (stepWorld { w with players } others).world = after at same
    obtain ⟨_, rearranged, rfl⟩ := same
    exact ⟨rearranged, rfl⟩

end Tick

/-- Two players side by side, the first of them the tagger. -/
def sideBySide : World ℚ :=
  let player (id : Nat) (x : ℚ) (isTagger : Bool) : PlayerState ℚ :=
    { playerId := id, x, y := 128, vx := 0, vy := 0, facingX := 0, facingY := 1
      radius := Gameplay.playerRadiusPx, sightRange := Gameplay.sightRangePx, colorIndex := id - 1
      alive := true, isTagger, connected := true, effects := fun _ => none
      cooldowns := fun _ => none, loadout := .dash, emoji := none, stats := emptyStats }
  { tick := 0, simulationHz := Network.simulationHz
    map := ⟨"yard", 2, 2, tilePx, List.replicate 2 (List.replicate 2 .floor), 1, fun _ => []⟩
    players := [player 1 128 true, player 2 200 false]
    storm := none, tileChanges := [], taggerChangedAtTick := 0, randomState := 1 }

def bothDash : TickRequests ℚ := ⟨[], [⟨1, slotMovement, none⟩, ⟨2, slotMovement, none⟩], []⟩

theorem stepWorld_order_sideBySide :
    let frame := stepWorld sideBySide bothDash
    let other := stepWorld { sideBySide with players := sideBySide.players.reverse }
      { bothDash with skillRequests := bothDash.skillRequests.reverse }
    other.events = frame.events ∧ other.world.find 1 = frame.world.find 1 := by
  have distinct : DistinctIds sideBySide.players := by decide
  have sole : ∀ p ∈ sideBySide.players, ∀ q ∈ sideBySide.players, Tags p → Tags q → p = q := by
    unfold Tags
    decide +kernel
  have one : OnePerPlayer bothDash := ⟨by decide, by decide, by decide⟩
  have reordered : Reordered bothDash
      { bothDash with skillRequests := bothDash.skillRequests.reverse } :=
    ⟨List.Perm.refl _, List.reverse_perm _, List.Perm.refl _⟩
  obtain ⟨_, events, _, finds, _⟩ :=
    stepWorld_order distinct sole one reordered (List.reverse_perm sideBySide.players)
  exact ⟨events, finds 1⟩

end SwitchRemake.Simulation

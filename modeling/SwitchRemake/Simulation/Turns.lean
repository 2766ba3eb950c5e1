import SwitchRemake.Simulation.Casts
import SwitchRemake.Simulation.Tagger
import Mathlib.Data.List.Forall2

/-!
# The turns of a tick

A tick judges the requests one after the other; then everybody moves, which leaves everything but
places, speeds and emojis alone.
-/

namespace SwitchRemake.Simulation
open Lib

variable {K : Type} {w v u : World K}

/-! ## Player by player -/

/-- The players of two worlds correspond, and every pair is related. -/
def Each (R : PlayerState K → PlayerState K → Prop) (w v : World K) : Prop :=
  List.Forall₂ R w.players v.players

section Each

variable {R S : PlayerState K → PlayerState K → Prop}

theorem each_map {f : PlayerState K → PlayerState K} (maps : v.players = w.players.map f)
    (related : ∀ p ∈ w.players, R p (f p)) : Each R w v := by
  rw [Each, maps, List.forall₂_map_right_iff, List.forall₂_same]
  exact related

theorem each_update (id : Nat) {f : PlayerState K → PlayerState K}
    (here : ∀ p, p.playerId = id → R p (f p)) (elsewhere : ∀ p, p.playerId ≠ id → R p p) :
    Each R w (w.update id f) := by
  refine each_map rfl fun p _ => ?_
  split
  · exact here p ‹_›
  · exact elsewhere p ‹_›

theorem Each.refl (reflexive : ∀ p, R p p) (w : World K) : Each R w w :=
  List.forall₂_same.mpr fun p _ => reflexive p

theorem Each.imp (weaker : ∀ p q, R p q → S p q) (each : Each R w v) : Each S w v :=
  List.Forall₂.imp weaker each

theorem Each.trans {T : PlayerState K → PlayerState K → Prop}
    (joins : ∀ p q r, R p q → S q r → T p r) (first : Each R w v) (second : Each S v u) :
    Each T w u := by
  unfold Each at first second ⊢
  generalize w.players = players, v.players = others, u.players = last at first second
  induction first generalizing last with
  | nil =>
    cases second
    exact .nil
  | cons related _ ih =>
    cases second with
    | cons next rest => exact .cons (joins _ _ _ related next) (ih _ rest)

theorem Each.exists_right {p : PlayerState K} (each : Each R w v) (member : p ∈ w.players) :
    ∃ q ∈ v.players, R p q := by
  unfold Each at each
  generalize w.players = players, v.players = others at each member
  induction each with
  | nil => exact absurd member List.not_mem_nil
  | cons related _ ih =>
    rcases List.mem_cons.mp member with rfl | inside
    · exact ⟨_, List.mem_cons_self, related⟩
    · obtain ⟨q, there, holds⟩ := ih inside
      exact ⟨q, List.mem_cons_of_mem _ there, holds⟩

theorem Each.exists_left {q : PlayerState K} (each : Each R w v) (member : q ∈ v.players) :
    ∃ p ∈ w.players, R p q := by
  have flipped : Each (fun a b => R b a) v w := List.Forall₂.flip each
  exact flipped.exists_right member

/-- Players of one slot correspond. -/
theorem Each.at_slot (each : Each R w v) (slots : ∀ p q, R p q → q.playerId = p.playerId)
    (distinct : DistinctIds w.players) {p q : PlayerState K} (before : p ∈ w.players)
    (after : q ∈ v.players) (same : q.playerId = p.playerId) : R p q := by
  obtain ⟨source, member, related⟩ := each.exists_left after
  have origin : source = p :=
    List.inj_on_of_nodup_map distinct member before ((slots _ _ related).symm.trans same)
  exact origin ▸ related

theorem Each.map_eq {β : Type} {f : PlayerState K → β} (keeps : ∀ p q, R p q → f q = f p)
    (each : Each R w v) : v.players.map f = w.players.map f := by
  unfold Each at each
  generalize w.players = players, v.players = others at each
  induction each with
  | nil => rfl
  | cons related _ ih => rw [List.map_cons, List.map_cons, keeps _ _ related, ih]

theorem Each.distinct (each : Each R w v) (slots : ∀ p q, R p q → q.playerId = p.playerId)
    (distinct : DistinctIds w.players) : DistinctIds v.players := by
  rw [DistinctIds, each.map_eq slots]
  exact distinct

theorem Each.of_map {β : Type} {f : PlayerState K → β} (fits : ∀ p q, f q = f p → R p q)
    (same : v.players.map f = w.players.map f) : Each R w v := by
  unfold Each
  generalize w.players = players, v.players = others at same
  induction players generalizing others with
  | nil => rw [List.map_eq_nil_iff.mp same]; exact .nil
  | cons p rest ih =>
    cases others with
    | nil => exact absurd same.symm (by simp)
    | cons q later =>
      simp only [List.map_cons, List.cons.injEq] at same
      exact .cons (fits p q same.1) (ih later same.2)

end Each

variable [JsNumber K]

/-! ## Requests -/

/-- The world at the turn of each request. -/
def skillTurns (w : World K) : List SkillRequest → List (World K × SkillRequest)
  | [] => []
  | request :: rest => (w, request) :: skillTurns (useSkill w request).world rest

def afterSkills (w : World K) (requests : List SkillRequest) : World K :=
  requests.foldl (fun w request => (useSkill w request).world) w

theorem runSkills_world (w : World K) (requests : List SkillRequest) :
    (runSkills w requests).world = afterSkills w (sortById SkillRequest.playerId requests) := by
  unfold runSkills afterSkills
  generalize sortById SkillRequest.playerId requests = ordered
  suffices run : ∀ s : SkillPhase K, (ordered.foldl SkillPhase.use s).world =
      ordered.foldl (fun w request => (useSkill w request).world) s.world from run ⟨w, [], []⟩
  induction ordered with
  | nil => exact fun s => rfl
  | cons request rest ih => exact fun s => ih (s.use request)

/-- The rule for requests: what one keeps, all keep. -/
theorem afterSkills_induction {I : World K → Prop} (holds : I w)
    (keeps : ∀ w request, I w → I (useSkill w request).world) (requests : List SkillRequest) :
    I (afterSkills w requests) ∧ ∀ turn ∈ skillTurns w requests, I turn.1 := by
  induction requests generalizing w with
  | nil => exact ⟨holds, fun turn member => absurd member List.not_mem_nil⟩
  | cons request rest ih =>
    obtain ⟨final, turns⟩ := ih (keeps w request holds)
    refine ⟨final, fun turn member => ?_⟩
    rcases List.mem_cons.mp member with rfl | later
    · exact holds
    · exact turns turn later

/-! ## Emojis and movement -/

/-- A player without what emojis and movement change. -/
def still (p : PlayerState K) : PlayerState K :=
  { p with x := 0, y := 0, vx := 0, vy := 0, facingX := 0, facingY := 0, emoji := none }

theorem still_showEmoji (w : World K) (request : EmojiRequest) :
    (showEmoji w request).players.map still = w.players.map still := by
  unfold showEmoji
  split
  · rfl
  · simp only [World.update, List.map_map]
    refine List.map_congr_left fun p _ => ?_
    simp only [Function.comp_apply]
    split <;> rfl

theorem still_runEmojis (w : World K) (requests : List EmojiRequest) :
    (runEmojis w requests).players.map still = w.players.map still := by
  unfold runEmojis
  generalize sortById EmojiRequest.playerId requests = ordered
  induction ordered generalizing w with
  | nil => rfl
  | cons request rest ih => rw [List.foldl_cons, ih, still_showEmoji]

theorem still_movePlayer (map : WorldMap K) (storm : StormRect K) (inputs : List (ResolvedInput K))
    (p : PlayerState K) : still (movePlayer map storm inputs p) = still p := by
  unfold movePlayer
  split
  · rfl
  · cases inputById inputs p.playerId with
    | none => rfl
    | some input =>
      unfold integrate
      dsimp only
      split <;> rfl

theorem still_moveAll (distinct : DistinctIds w.players) (inputs : List (ResolvedInput K)) :
    (moveAll w inputs).1.players.map still = w.players.map still := by
  obtain ⟨tiles, changes, equal⟩ := applyMapTimeline_frame w
  have moves (storm : StormRect K) (map : WorldMap K) :
      (w.players.map (movePlayer map storm inputs)).map still = w.players.map still := by
    rw [List.map_map]
    exact List.map_congr_left fun p _ => still_movePlayer map storm inputs p
  unfold moveAll
  rw [equal]
  dsimp only
  rw [map_of_unplaced (fun _ => rfl) (runCollisions_unplaced _ _ ?_), moves]
  rw [DistinctIds, ids_of_roles (map_role fun p _ => role_movePlayer _ _ inputs p)]
  exact distinct

theorem still_eq {p q : PlayerState K} (same : still q = still p) :
    q.playerId = p.playerId ∧ q.alive = p.alive ∧ q.isTagger = p.isTagger ∧
      q.cooldowns = p.cooldowns ∧ q.effects = p.effects ∧ q.stats = p.stats := by
  have slot := congrArg PlayerState.playerId same
  have alive := congrArg PlayerState.alive same
  have flag := congrArg PlayerState.isTagger same
  have cooldowns := congrArg PlayerState.cooldowns same
  have effects := congrArg PlayerState.effects same
  have stats := congrArg PlayerState.stats same
  exact ⟨slot, alive, flag, cooldowns, effects, stats⟩

theorem afterRequests_distinct {requests : TickRequests K}
    (distinct : DistinctIds (runSkills (beginTick w) requests.skillRequests).world.players) :
    DistinctIds (afterRequests w requests).players := by
  have same := still_runEmojis (runSkills (beginTick w) requests.skillRequests).world
    requests.emojiRequests
  have ids := congrArg (List.map PlayerState.playerId) same
  simp only [List.map_map, Function.comp_def, still] at ids
  rw [DistinctIds, afterRequests, ids]
  exact distinct

/-- From the last request to the first contact. -/
theorem still_beforeTags {requests : TickRequests K}
    (distinct : DistinctIds (runSkills (beginTick w) requests.skillRequests).world.players) :
    (beforeTags w requests).1.players.map still =
      (runSkills (beginTick w) requests.skillRequests).world.players.map still := by
  rw [beforeTags, still_moveAll (afterRequests_distinct distinct), afterRequests, still_runEmojis]

/-! ## Tags -/

/-- A tag changes lives and counters, and the Frenzy of the tagger. -/
def Unturned (p q : PlayerState K) : Prop :=
  q.playerId = p.playerId ∧ q.isTagger = p.isTagger ∧ q.cooldowns = p.cooldowns

omit [JsNumber K] in
theorem Unturned.trans {p q r : PlayerState K} (first : Unturned p q) (second : Unturned q r) :
    Unturned p r :=
  ⟨second.1.trans first.1, second.2.1.trans first.2.1, second.2.2.trans first.2.2⟩

omit [JsNumber K] in
theorem Unturned.each_refl (w : World K) : Each Unturned w w :=
  Each.refl (fun _ => ⟨rfl, rfl, rfl⟩) w

omit [JsNumber K] in
theorem Unturned.each_trans (first : Each Unturned w v) (second : Each Unturned v u) :
    Each Unturned w u :=
  Each.trans (R := Unturned) (S := Unturned) (fun _ _ _ => Unturned.trans) first second

theorem unturned_extendFrenzyOnTag (w : World K) (p : PlayerState K) :
    Unturned p (extendFrenzyOnTag w p) := by
  unfold extendFrenzyOnTag
  split <;> exact ⟨rfl, rfl, rfl⟩

theorem resolvePair_unturned (taggerId : Nat) (w : World K) (events : List (WorldEvent K))
    (pair : CollisionPair) : Each Unturned w (resolvePair taggerId (w, events) pair).1 := by
  unfold resolvePair
  dsimp only
  split
  · exact Unturned.each_refl w
  · rename_i victim _
    have struck : Each Unturned w (w.update victim.playerId fun p =>
        withStats (fun s =>
          { s with taggedCount := s.taggedCount + 1, eliminatedAtTick := some w.tick })
          { p with alive := false }) :=
      each_update _ (fun _ _ => ⟨rfl, rfl, rfl⟩) fun _ _ => ⟨rfl, rfl, rfl⟩
    refine Unturned.each_trans struck ?_
    refine each_update (R := Unturned) taggerId (fun p _ => ?_) fun _ _ => ⟨rfl, rfl, rfl⟩
    exact unturned_extendFrenzyOnTag w
      (withStats (fun s => { s with tagCount := s.tagCount + 1 }) p)

theorem resolvePairs_unturned (taggerId : Nat) (w : World K) (events : List (WorldEvent K))
    (pairs : List CollisionPair) :
    Each Unturned w (pairs.foldl (resolvePair taggerId) (w, events)).1 := by
  induction pairs generalizing w events with
  | nil => exact Unturned.each_refl w
  | cons pair rest ih =>
    exact Unturned.each_trans (resolvePair_unturned taggerId w events pair) (ih _ _)

theorem resolveTagging_unturned (w : World K) (pairs : List CollisionPair)
    (events : List (WorldEvent K)) : Each Unturned w (resolveTagging w pairs events).1 := by
  unfold resolveTagging
  split
  · exact Unturned.each_refl w
  · exact resolvePairs_unturned _ w events pairs

end SwitchRemake.Simulation

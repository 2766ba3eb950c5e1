import SwitchRemake.Lib.Token
import SwitchRemake.Simulation.Roles

/-!
# The tagger is a token

Being the tagger is a token that a living player holds. Every phase of a tick moves the world along
steps of that token: a Switch and a forced rotation pass it, a tag retires somebody else.
-/

namespace SwitchRemake.Simulation
open Lib

variable {K : Type} {t t' : Token Nat} {w v u : World K}

/-- The flags of the world show the token, and the last change of tagger is not in the future. -/
structure Tracks (t : Token Nat) (w : World K) : Prop where
  shows : Token.Shows PlayerState.playerId PlayerState.alive PlayerState.isTagger t w.players
  clock : w.taggerChangedAtTick ≤ w.tick

theorem Tracks.distinct (tracks : Tracks t w) : DistinctIds w.players := tracks.shows.distinct

/-- What a phase does in which nobody dies: at most it passes the token. -/
structure Advances (w v : World K) : Prop where
  tick : v.tick = w.tick
  tracks : ∀ t, Tracks t w → ∃ u, t.Steps u ∧ u.live = t.live ∧ Tracks u v

theorem Advances.refl (w : World K) : Advances w w :=
  ⟨rfl, fun t tracks => ⟨t, .refl, rfl, tracks⟩⟩

theorem Advances.trans (first : Advances w v) (second : Advances v u) : Advances w u := by
  refine ⟨second.tick.trans first.tick, fun t tracks => ?_⟩
  obtain ⟨t₁, steps₁, live₁, tracks₁⟩ := first.tracks t tracks
  obtain ⟨t₂, steps₂, live₂, tracks₂⟩ := second.tracks t₁ tracks₁
  exact ⟨t₂, steps₁.trans steps₂, live₂.trans live₁, tracks₂⟩

theorem Tracks.of_sameRoles (tracks : Tracks t w) (same : SameRoles w v)
    (clock : v.taggerChangedAtTick ≤ v.tick) : Tracks t v :=
  ⟨tracks.shows.congr same, clock⟩

theorem Advances.of_sameRoles (same : SameRoles w v) (tick : v.tick = w.tick)
    (changed : v.taggerChangedAtTick = w.taggerChangedAtTick) : Advances w v := by
  refine ⟨tick, fun t tracks => ⟨t, .refl, rfl, tracks.of_sameRoles same ?_⟩⟩
  rw [tick, changed]
  exact tracks.clock

theorem foldl_advances {β : Type} {f : World K → β → World K}
    (each : ∀ w b, Advances w (f w b)) (w : World K) (bs : List β) :
    Advances w (bs.foldl f w) := by
  induction bs generalizing w with
  | nil => exact Advances.refl w
  | cons b rest ih => exact (each w b).trans (ih (f w b))

/-! ## Looking players up -/

theorem livingTagger_some {p : PlayerState K} (found : livingTagger w = some p) :
    p ∈ w.players ∧ p.isTagger = true ∧ p.alive = true := by
  have flags := List.find?_some found
  simp only [Bool.and_eq_true] at flags
  exact ⟨List.mem_of_find?_eq_some found, flags⟩

theorem Tracks.livingTagger (tracks : Tracks t w) {p : PlayerState K}
    (found : livingTagger w = some p) : p.playerId = t.holder := by
  obtain ⟨member, tagger, _⟩ := livingTagger_some found
  exact (tracks.shows.holds_iff p member).mp tagger

theorem Tracks.livingTagger_isSome (tracks : Tracks t w) :
    (Simulation.livingTagger w).isSome = true ↔ t.Held := by
  rw [Simulation.livingTagger, List.find?_isSome]
  constructor
  · rintro ⟨p, member, flags⟩
    simp only [Bool.and_eq_true] at flags
    have holder := (tracks.shows.holds_iff p member).mp flags.1
    exact (tracks.shows.live_iff t.holder).mpr ⟨p, member, holder, flags.2⟩
  · intro held
    obtain ⟨p, member, _, alive, flag⟩ := tracks.shows.holder held
    exact ⟨p, member, by simp [alive, flag]⟩

theorem mem_livingRunners {p : PlayerState K} :
    p ∈ livingRunners w ↔ p ∈ w.players ∧ p.alive = true ∧ p.isTagger = false := by
  rw [livingRunners, mem_sortById, List.mem_filter]
  simp

theorem Tracks.survivors_nodup (tracks : Tracks t w) :
    ((survivors w).map PlayerState.playerId).Nodup :=
  tracks.distinct.sublist (List.filter_sublist.map _)

theorem Tracks.mem_survivors (tracks : Tracks t w) (id : Nat) :
    id ∈ (survivors w).map PlayerState.playerId ↔ id ∈ t.live := by
  simp only [tracks.shows.live_iff, survivors, List.mem_map, List.mem_filter]
  constructor
  · rintro ⟨p, ⟨member, alive⟩, same⟩
    exact ⟨p, member, same, alive⟩
  · rintro ⟨p, member, same, alive⟩
    exact ⟨p, ⟨member, alive⟩, same⟩

theorem survivors_length_le (tracks : Tracks t w) (later : Tracks t' v) (fewer : t'.live ⊆ t.live) :
    (survivors v).length ≤ (survivors w).length := by
  have subset : (survivors v).map PlayerState.playerId ⊆
      (survivors w).map PlayerState.playerId := fun id member =>
    (tracks.mem_survivors id).mpr (fewer ((later.mem_survivors id).mp member))
  simpa only [List.length_map] using (later.survivors_nodup.subperm subset).length_le

theorem survivors_length_lt (tracks : Tracks t w) (later : Tracks t' v) (fewer : t'.live ⊆ t.live)
    {victim : Nat} (lived : victim ∈ t.live) (gone : victim ∉ t'.live) :
    (survivors v).length < (survivors w).length := by
  have fresh : victim ∉ (survivors v).map PlayerState.playerId :=
    fun member => gone ((later.mem_survivors victim).mp member)
  have subset : victim :: (survivors v).map PlayerState.playerId ⊆
      (survivors w).map PlayerState.playerId := by
    intro id member
    rw [tracks.mem_survivors]
    rcases List.mem_cons.mp member with rfl | rest
    · exact lived
    · exact fewer ((later.mem_survivors id).mp rest)
  have bound := ((later.survivors_nodup.cons fresh).subperm subset).length_le
  simp only [List.length_cons, List.length_map] at bound
  exact bound

/-! ## Skills -/

/-- The rule for a skill that only writes through slots and keeps every role. -/
theorem update_advances (w : World K) (id : Nat) {f : PlayerState K → PlayerState K}
    (keeps : ∀ p, role (f p) = role p) : Advances w (w.update id f) :=
  .of_sameRoles (update_sameRoles w id keeps) rfl rfl

/-- Clearing the flag of the holder and raising that of a living player passes the token. -/
theorem Tracks.pass (tracks : Tracks t w) (target : Nat)
    (clear choose : PlayerState K → PlayerState K)
    (cleared : ∀ p, role (clear p) = (p.playerId, p.alive, false))
    (chosen : ∀ p, role (choose p) = (p.playerId, p.alive, true)) :
    Token.Shows PlayerState.playerId PlayerState.alive PlayerState.isTagger
      (t.pass target) ((w.update t.holder clear).update target choose).players := by
  have combined (p : PlayerState K) :
      role (let q := if p.playerId = t.holder then clear p else p
        if q.playerId = target then choose q else q) =
      (p.playerId, p.alive, if p.playerId = target then true
        else if p.playerId = t.holder then false else p.isTagger) := by
    have clearedId : (clear p).playerId = p.playerId := congrArg Prod.fst (cleared p)
    have clearedLive : (clear p).alive = p.alive := congrArg (·.2.1) (cleared p)
    by_cases held : p.playerId = t.holder
    · simp only [held, if_true]
      by_cases aimed : (clear p).playerId = target
      · simp only [aimed, if_true, chosen, clearedLive]
        simp only [← aimed, clearedId, held, if_true]
      · simp only [aimed, if_false, cleared]
        simp only [clearedId, held] at aimed
        simp only [held, aimed, if_false]
    · simp only [held, if_false]
      by_cases aimed : p.playerId = target
      · simp only [aimed, if_true, chosen]
      · simp only [aimed, if_false, role]
  rw [World.update, World.update, List.map_map]
  refine tracks.shows.map (fun p _ => ?_) (fun p inside => ?_) subset_rfl fun p inside => ?_
  · exact congrArg Prod.fst (combined p)
  · rw [Token.pass_live, ← tracks.shows.live_of_mem inside]
    exact Bool.eq_iff_iff.mp (congrArg (·.2.1) (combined p))
  · refine (Eq.congr_left (congrArg (·.2.2) (combined p))).trans ?_
    rw [Token.pass_holder]
    by_cases held : p.playerId = t.holder
    · by_cases aimed : t.holder = target
      · simp only [held, aimed, if_true]
      · simp only [held, aimed, if_true, if_false, Bool.false_eq_true]
    · by_cases aimed : p.playerId = target
      · simp only [aimed, if_true]
      · simpa only [held, aimed, if_false] using tracks.shows.holds_iff p inside

/-- A player that dies leaves the token where it is. -/
theorem Tracks.leave (tracks : Tracks t w) (who : Nat) (die : PlayerState K → PlayerState K)
    (dead : ∀ p, role (die p) = (p.playerId, false, p.isTagger)) :
    Token.Shows PlayerState.playerId PlayerState.alive PlayerState.isTagger (t.leave who)
      (w.update who die).players := by
  have sameId (p : PlayerState K) : (die p).playerId = p.playerId := congrArg Prod.fst (dead p)
  have sameFlag (p : PlayerState K) : (die p).isTagger = p.isTagger := congrArg (·.2.2) (dead p)
  have noLife (p : PlayerState K) : (die p).alive = false := congrArg (·.2.1) (dead p)
  refine tracks.shows.map (fun p _ => ?_) (fun p inside => ?_) Set.sdiff_subset fun p inside => ?_
  · split
    · exact sameId p
    · rfl
  · by_cases hit : p.playerId = who
    · simp only [hit, if_true, noLife, Token.leave_live, Set.mem_sdiff, Set.mem_singleton_iff,
        not_true_eq_false, and_false, Bool.false_eq_true]
    · simp only [hit, if_false, Token.leave_live, Set.mem_sdiff, Set.mem_singleton_iff,
        not_false_eq_true, and_true]
      exact tracks.shows.live_of_mem inside
  · rw [Token.leave_holder, ← tracks.shows.holds_iff p inside]
    split
    · rw [sameFlag]
    · rfl

theorem rotationCandidates_getElem {n : Nat} {picked : PlayerState K}
    (found : (rotationCandidates w)[n]? = some picked) :
    picked ∈ w.players ∧ picked.alive = true ∧ picked.isTagger = false :=
  mem_livingRunners.mp (List.mem_of_getElem? found)

/-- Every flag is rewritten, so exactly the picked player carries it. -/
theorem flagOnly_shows (picked : Nat) {live : Set Nat} {players : List (PlayerState K)} (distinct : DistinctIds players)
    (lives : ∀ id, id ∈ live ↔ ∃ p ∈ players, p.playerId = id ∧ p.alive = true) :
    Token.Shows PlayerState.playerId PlayerState.alive PlayerState.isTagger ⟨live, picked⟩
      (players.map fun p => { p with isTagger := p.playerId = picked }) := by
  refine ⟨?_, fun id => ?_, ?_⟩
  · rw [List.map_map]
    exact distinct
  · rw [lives]
    simp only [List.mem_map]
    constructor
    · rintro ⟨p, inside, same, alive⟩
      exact ⟨_, ⟨p, inside, rfl⟩, same, alive⟩
    · rintro ⟨_, ⟨p, inside, rfl⟩, same, alive⟩
      exact ⟨p, inside, same, alive⟩
  · intro q image
    obtain ⟨p, _, rfl⟩ := List.mem_map.mp image
    simp

variable [JsNumber K]

theorem useDash_advances (w : World K) (caster : PlayerState K) :
    Advances w (useDash w caster).world :=
  update_advances w _ fun _ => rfl

theorem useFlash_advances (w : World K) (caster : PlayerState K) :
    Advances w (useFlash w caster).world := by
  unfold useFlash
  dsimp only
  split
  · exact Advances.refl w
  · exact update_advances w _ fun _ => rfl

theorem useExhaust_advances (w : World K) (caster : PlayerState K) :
    Advances w (useExhaust w caster).world := by
  unfold useExhaust
  dsimp only
  split
  · exact update_advances w _ fun _ => rfl
  · have cooling := update_advances w caster.playerId (f := fun p =>
      startCooldown w p .exhaust (JsNumber.ofRat Skills.Exhaust.cooldownMs)) fun _ => rfl
    have slowed := foldl_advances (f := fun (w : World K) id => w.update id fun p =>
      applyEffect w p .exhaust (JsNumber.ofRat Skills.Exhaust.speedDecrease)
        (JsNumber.ofRat Skills.Exhaust.durationMs)) fun w id => update_advances w id fun _ => rfl
    exact cooling.trans ((slowed _ _).trans (update_advances _ _ fun _ => rfl))

theorem useSwitch_advances (w : World K) (caster : PlayerState K) (target : Option Nat) :
    Advances w (useSwitch w caster target).world := by
  unfold useSwitch
  split
  · exact Advances.refl w
  cases found : livingTagger w with
  | none => exact Advances.refl w
  | some tagger =>
    have same (count : MatchStats → MatchStats) : SameRoles w (w.update caster.playerId fun p =>
        withStats count (startCooldown w p .switch (JsNumber.ofRat Skills.Switch.cooldownMs))) :=
      update_sameRoles w caster.playerId fun _ => rfl
    have tried := Advances.of_sameRoles (same fun s => { s with switchTry := s.switchTry + 1 }) rfl rfl
    dsimp only
    split
    · exact tried
    split
    · exact tried
    · rename_i picked aimed
      obtain ⟨lookup, valid⟩ := Option.filter_eq_some_iff.mp aimed
      obtain ⟨id, _, lookup⟩ := Option.bind_eq_some_iff.mp lookup
      obtain ⟨member, _⟩ := find_some lookup
      simp only [Bool.and_eq_true] at valid
      refine ⟨rfl, fun t tracks => ?_⟩
      have holder : tagger.playerId = t.holder := tracks.livingTagger found
      have live : picked.playerId ∈ t.live := (tracks.shows.live_of_mem member).mp valid.1.1
      have attempted := tracks.of_sameRoles (same (fun s => { s with switchTry := s.switchTry + 1 }))
        tracks.clock
      have passed := attempted.pass picked.playerId
        (fun p => applyEffect w { p with isTagger := false } .exhaust
          (JsNumber.ofRat Skills.SwitchVictim.speedDecrease)
          (JsNumber.ofRat Skills.SwitchVictim.durationMs))
        (fun p => grantTaggerFrenzy w { p with isTagger := true }) (fun _ => rfl) (fun _ => rfl)
      rw [← holder] at passed
      refine ⟨_, .single (.pass t picked.playerId live), rfl, ?_, le_rfl⟩
      exact passed.congr (map_role fun p _ => by split <;> rfl)

theorem useSkill_advances (w : World K) (request : SkillRequest) :
    Advances w (useSkill w request).world := by
  unfold useSkill
  split
  · exact Advances.refl w
  split
  · exact Advances.refl w
  split
  · exact Advances.refl w
  split
  · exact Advances.refl w
  split
  · exact Advances.refl w
  split
  · exact useDash_advances w _
  · exact useFlash_advances w _
  · exact useExhaust_advances w _
  · exact useSwitch_advances w _ _

theorem runSkills_advances (w : World K) (requests : List SkillRequest) :
    Advances w (runSkills w requests).world := by
  unfold runSkills
  generalize sortById SkillRequest.playerId requests = ordered
  suffices run : ∀ s : SkillPhase K, Advances s.world (ordered.foldl SkillPhase.use s).world from
    run ⟨w, [], []⟩
  induction ordered with
  | nil => exact fun s => Advances.refl s.world
  | cons request rest ih => exact fun s => (useSkill_advances s.world request).trans (ih (s.use request))

theorem runEmojis_advances (w : World K) (requests : List EmojiRequest) :
    Advances w (runEmojis w requests) := by
  refine foldl_advances (fun w request => ?_) w _
  refine .of_sameRoles (showEmoji_sameRoles w request) ?_ ?_
  · unfold showEmoji; split <;> rfl
  · unfold showEmoji; split <;> rfl

theorem moveAll_advances (w : World K) (inputs : List (ResolvedInput K)) :
    Advances w (moveAll w inputs).1 := by
  obtain ⟨tiles, changes, storm, players, equal⟩ := moveAll_frame w inputs
  refine ⟨by rw [equal], fun t tracks => ⟨t, .refl, rfl, ?_⟩⟩
  refine tracks.of_sameRoles (moveAll_sameRoles tracks.distinct inputs) ?_
  rw [equal]
  exact tracks.clock

/-! ## Tags -/

/-- A contact with the holder kills the other player of the contact. -/
theorem resolvePair_tracks (events : List (WorldEvent K)) (tracks : Tracks t w)
    {pair : CollisionPair} (apart : pair.a ≠ pair.b) :
    ∃ u, t.Steps u ∧ u.holder = t.holder ∧
      Tracks u (resolvePair t.holder (w, events) pair).1 ∧
      (resolvePair t.holder (w, events) pair).1.tick = w.tick ∧
      ∀ other, pair.opponent t.holder = some other → other ∉ u.live := by
  unfold resolvePair
  dsimp only
  split
  · rename_i nobody
    refine ⟨t, .refl, rfl, tracks, rfl, fun other met alive => ?_⟩
    obtain ⟨p, member, rfl, lives⟩ := (tracks.shows.live_iff other).mp alive
    rw [met, Option.bind_some, find_of_mem tracks.distinct member] at nobody
    simp [lives] at nobody
  · rename_i victim struck
    obtain ⟨lookup, alive⟩ := Option.filter_eq_some_iff.mp struck
    obtain ⟨id, met, lookup⟩ := Option.bind_eq_some_iff.mp lookup
    obtain ⟨member, rfl⟩ := find_some lookup
    have different := (CollisionPair.opponent_ne apart met).symm
    refine ⟨_, .single (.retire t victim.playerId different), rfl, ⟨?_, le_rfl⟩, rfl, ?_⟩
    · have struck := tracks.leave victim.playerId (fun p => withStats (fun stats =>
        { stats with taggedCount := stats.taggedCount + 1, eliminatedAtTick := some w.tick })
        { p with alive := false }) fun _ => rfl
      exact struck.congr (map_role fun p _ => by
        split
        · exact role_extendFrenzyOnTag w _
        · rfl)
    · intro other same gone
      rw [met, Option.some.injEq] at same
      exact gone.2 same.symm

theorem resolvePairs_tracks {pairs : List CollisionPair} (apart : ∀ pair ∈ pairs, pair.a ≠ pair.b)
    (events : List (WorldEvent K)) (tracks : Tracks t w) :
    ∃ u, t.Steps u ∧ u.holder = t.holder ∧
      Tracks u (pairs.foldl (resolvePair t.holder) (w, events)).1 ∧
      (pairs.foldl (resolvePair t.holder) (w, events)).1.tick = w.tick ∧
      ∀ pair ∈ pairs, ∀ other, pair.opponent t.holder = some other → other ∉ u.live := by
  induction pairs generalizing t w events with
  | nil => exact ⟨t, .refl, rfl, tracks, rfl, by simp⟩
  | cons pair rest ih =>
    obtain ⟨t₁, steps₁, holder₁, tracks₁, tick₁, dead₁⟩ :=
      resolvePair_tracks events tracks (apart pair List.mem_cons_self)
    obtain ⟨t₂, steps₂, holder₂, tracks₂, tick₂, dead₂⟩ :=
      ih (fun pair member => apart pair (List.mem_cons_of_mem _ member))
        (resolvePair t.holder (w, events) pair).2 tracks₁
    rw [holder₁] at holder₂ tracks₂ tick₂ dead₂
    refine ⟨t₂, steps₁.trans steps₂, holder₂, tracks₂, tick₂.trans tick₁, ?_⟩
    intro contact member other met
    rcases List.mem_cons.mp member with rfl | later
    · exact fun alive => dead₁ other met (steps₂.live_subset alive)
    · exact dead₂ contact later other met

theorem resolveTagging_tracks {pairs : List CollisionPair}
    (apart : ∀ pair ∈ pairs, pair.a ≠ pair.b) (events : List (WorldEvent K)) (tracks : Tracks t w) :
    ∃ u, t.Steps u ∧ Tracks u (resolveTagging w pairs events).1 ∧
      (resolveTagging w pairs events).1.tick = w.tick ∧
      (t.Held → ∀ pair ∈ pairs, ∀ other, pair.opponent t.holder = some other → other ∉ u.live) := by
  unfold resolveTagging
  cases found : livingTagger w with
  | none =>
    refine ⟨t, .refl, tracks, rfl, fun held => ?_⟩
    rw [← tracks.livingTagger_isSome, found] at held
    exact absurd held (by simp)
  | some tagger =>
    simp only [tracks.livingTagger found]
    obtain ⟨u, steps, _, later, tick, dead⟩ := resolvePairs_tracks apart events tracks
    exact ⟨u, steps, later, tick, fun _ => dead⟩

/-! ## Forced rotation -/

theorem handTo_shows (tracks : Tracks t w) (picked : Nat) (state : BitVec 32) :
    Token.Shows PlayerState.playerId PlayerState.alive PlayerState.isTagger ⟨t.live, picked⟩
      (w.handTo picked state).players := by
  refine (flagOnly_shows picked tracks.distinct tracks.shows.live_iff).congr ?_
  exact map_role fun p _ => by split <;> rfl

theorem rotateTaggerIfStale_advances (w : World K) (events : List (WorldEvent K)) :
    Advances w (rotateTaggerIfStale w events).1 := by
  rcases rotateTaggerIfStale_eq w events with same | ⟨picked, candidate, state, same⟩
  · rw [same]
    exact Advances.refl w
  · rw [same]
    refine ⟨rfl, fun t tracks => ?_⟩
    obtain ⟨member, alive, _⟩ := mem_livingRunners.mp candidate
    have live : picked.playerId ∈ t.live := (tracks.shows.live_of_mem member).mp alive
    exact ⟨_, .single (.pass t picked.playerId live), rfl, handTo_shows tracks _ _, le_rfl⟩

/-! ## A whole tick -/

theorem afterRequests_tracks (tracks : Tracks t w) (requests : TickRequests K) :
    ∃ u, t.Steps u ∧ u.live = t.live ∧ Tracks u (afterRequests w requests) ∧
      (afterRequests w requests).tick = w.tick + 1 := by
  have begun : Tracks t (beginTick w) :=
    tracks.of_sameRoles (beginTick_sameRoles w) (Nat.le_succ_of_le tracks.clock)
  have phases := (runSkills_advances (beginTick w) requests.skillRequests).trans
    (runEmojis_advances _ requests.emojiRequests)
  obtain ⟨u, steps, live, after⟩ := phases.tracks t begun
  exact ⟨u, steps, live, after, phases.tick⟩

theorem beforeTags_tracks (tracks : Tracks t w) (requests : TickRequests K) :
    ∃ u, t.Steps u ∧ u.live = t.live ∧ Tracks u (beforeTags w requests).1 ∧
      (beforeTags w requests).1.tick = w.tick + 1 := by
  obtain ⟨t₁, steps₁, live₁, shown, tick⟩ := afterRequests_tracks tracks requests
  have moves := moveAll_advances (afterRequests w requests) requests.inputs
  obtain ⟨t₂, steps₂, live₂, moved⟩ := moves.tracks t₁ shown
  exact ⟨t₂, steps₁.trans steps₂, live₂.trans live₁, moved, moves.tick.trans tick⟩

theorem beforeTags_apart (tracks : Tracks t w) (requests : TickRequests K) :
    ∀ pair ∈ (beforeTags w requests).2, pair.a ≠ pair.b := by
  obtain ⟨u, _, _, shown, _⟩ := afterRequests_tracks tracks requests
  exact fun pair member => moveAll_pairs shown.distinct requests.inputs member

/-- One tick moves the world along steps of the token and its clock by one. Whoever touched a
living tagger is dead after it. -/
theorem stepWorld_contacts (tracks : Tracks t w) (requests : TickRequests K) :
    ∃ u v, t.Steps u ∧ u.live = t.live ∧ Tracks u (beforeTags w requests).1 ∧ u.Steps v ∧
      Tracks v (stepWorld w requests).world ∧ (stepWorld w requests).world.tick = w.tick + 1 ∧
      (u.Held → ∀ pair ∈ (beforeTags w requests).2, ∀ other,
        pair.opponent u.holder = some other → other ∉ v.live) := by
  obtain ⟨t₁, steps₁, live₁, tracks₁, tick₁⟩ := beforeTags_tracks tracks requests
  obtain ⟨t₂, steps₂, tracks₂, tick₂, dead⟩ := resolveTagging_tracks
    (beforeTags_apart tracks requests)
    (runSkills (beginTick w) requests.skillRequests).events tracks₁
  rw [← afterTags] at tracks₂ tick₂
  rw [stepWorld_world, afterRotation]
  split
  · exact ⟨t₁, t₂, steps₁, live₁, tracks₁, steps₂, tracks₂, tick₂.trans tick₁, dead⟩
  · obtain ⟨t₃, steps₃, _, tracks₃⟩ := (rotateTaggerIfStale_advances _ _).tracks t₂ tracks₂
    refine ⟨t₁, t₃, steps₁, live₁, tracks₁, steps₂.trans steps₃, tracks₃, ?_, fun held => ?_⟩
    · exact ((rotateTaggerIfStale_advances _ _).tick.trans tick₂).trans tick₁
    · exact fun pair member other met alive =>
        dead held pair member other met (steps₃.live_subset alive)

/-- Nobody dies in a tick in which nobody touches the tagger. -/
theorem stepWorld_noContact (tracks : Tracks t w) (requests : TickRequests K)
    (apart : ∀ tagger, livingTagger (beforeTags w requests).1 = some tagger →
      ∀ pair ∈ (beforeTags w requests).2, pair.opponent tagger.playerId = none) :
    ∃ u, u.live = t.live ∧ Tracks u (stepWorld w requests).world := by
  obtain ⟨u, _, live, before, _⟩ := beforeTags_tracks tracks requests
  have spared : (afterTags w requests).1 = (beforeTags w requests).1 := by
    unfold afterTags resolveTagging
    generalize (runSkills (beginTick w) requests.skillRequests).events = events
    cases found : livingTagger (beforeTags w requests).1 with
    | none => rfl
    | some tagger =>
      have none := apart tagger found
      generalize (beforeTags w requests).2 = pairs at none ⊢
      dsimp only
      induction pairs with
      | nil => rfl
      | cons pair rest ih =>
        have first := none pair List.mem_cons_self
        simp only [List.foldl_cons, resolvePair, first, Option.bind_none, Option.filter_none]
        exact ih fun contact member => none contact (List.mem_cons_of_mem pair member)
  rw [stepWorld_world, afterRotation]
  split
  · exact ⟨u, live, spared ▸ before⟩
  · rw [spared]
    obtain ⟨v, _, live', after⟩ := (rotateTaggerIfStale_advances _ _).tracks u before
    exact ⟨v, live'.trans live, after⟩

theorem stepWorld_tracks (tracks : Tracks t w) (requests : TickRequests K) :
    ∃ u, t.Steps u ∧ Tracks u (stepWorld w requests).world ∧
      (stepWorld w requests).world.tick = w.tick + 1 := by
  obtain ⟨u, v, first, _, _, second, later, tick, _⟩ := stepWorld_contacts tracks requests
  exact ⟨v, first.trans second, later, tick⟩

/-! ## Who is eliminated -/

/-- The eliminations of a list of events are tags of players other than `holder`, made by it. -/
def TagsBy (holder : Nat) (events : List (WorldEvent K)) : Prop :=
  ∀ victim source, WorldEvent.eliminated victim source ∈ events →
    source = some holder ∧ victim ≠ holder

theorem useSkill_noElimination (w : World K) (request : SkillRequest) (victim : Nat)
    (source : Option Nat) : WorldEvent.eliminated victim source ∉ (useSkill w request).events := by
  unfold useSkill
  repeat' split
  all_goals try simp
  · simp [useDash]
  · unfold useFlash
    dsimp only
    split <;> simp
  · unfold useExhaust
    dsimp only
    split <;> simp
  · unfold useSwitch
    split
    · simp
    split
    · simp
    dsimp only
    split
    · simp
    split <;> simp

theorem runSkills_noElimination (w : World K) (requests : List SkillRequest) (victim : Nat)
    (source : Option Nat) : WorldEvent.eliminated victim source ∉ (runSkills w requests).events := by
  unfold runSkills
  generalize sortById SkillRequest.playerId requests = ordered
  suffices run : ∀ s : SkillPhase K, WorldEvent.eliminated victim source ∉ s.events →
      WorldEvent.eliminated victim source ∉ (ordered.foldl SkillPhase.use s).events from
    run ⟨w, [], []⟩ (by simp)
  induction ordered with
  | nil => exact fun s clean => clean
  | cons request rest ih =>
    intro s clean
    apply ih
    simp only [SkillPhase.use, List.mem_append, not_or]
    exact ⟨clean, useSkill_noElimination s.world request victim source⟩

theorem resolvePair_tagsBy {holder : Nat} {events : List (WorldEvent K)} (tags : TagsBy holder events)
    {pair : CollisionPair} (apart : pair.a ≠ pair.b) :
    TagsBy holder (resolvePair holder (w, events) pair).2 := by
  unfold resolvePair
  dsimp only
  split
  · exact tags
  · rename_i struck found
    obtain ⟨lookup, _⟩ := Option.filter_eq_some_iff.mp found
    obtain ⟨id, met, lookup⟩ := Option.bind_eq_some_iff.mp lookup
    obtain ⟨_, rfl⟩ := find_some lookup
    intro victim source member
    rcases List.mem_append.mp member with old | new
    · exact tags victim source old
    · simp only [List.mem_singleton, WorldEvent.eliminated.injEq] at new
      obtain ⟨rfl, rfl⟩ := new
      exact ⟨rfl, CollisionPair.opponent_ne apart met⟩

theorem resolvePairs_tagsBy {holder : Nat} {pairs : List CollisionPair}
    (apart : ∀ pair ∈ pairs, pair.a ≠ pair.b) {events : List (WorldEvent K)}
    (tags : TagsBy holder events) :
    TagsBy holder (pairs.foldl (resolvePair holder) (w, events)).2 := by
  induction pairs generalizing w events with
  | nil => exact tags
  | cons pair rest ih =>
    exact ih (fun pair member => apart pair (List.mem_cons_of_mem _ member))
      (resolvePair_tagsBy tags (apart pair List.mem_cons_self))

/-- Every elimination of a tick is a tag by the player who carried the flag when contact was
judged, and its victim did not carry it. -/
theorem stepWorld_tagsBy (tracks : Tracks t w) (requests : TickRequests K) :
    ∃ holder, TagsBy holder (stepWorld w requests).events ∧
      ∀ p ∈ (beforeTags w requests).1.players, p.isTagger = true ↔ p.playerId = holder := by
  obtain ⟨u, _, _, before, _⟩ := beforeTags_tracks tracks requests
  refine ⟨u.holder, ?_, before.shows.holds_iff⟩
  have clean : TagsBy u.holder (runSkills (beginTick w) requests.skillRequests).events :=
    fun victim source member => absurd member (runSkills_noElimination _ _ victim source)
  have tagged : TagsBy u.holder (afterTags w requests).2 := by
    unfold afterTags resolveTagging
    cases found : livingTagger (beforeTags w requests).1 with
    | none => exact clean
    | some tagger =>
      simp only [before.livingTagger found]
      exact resolvePairs_tagsBy (beforeTags_apart tracks requests) clean
  rw [stepWorld_events, afterRotation]
  split
  · exact tagged
  · rcases rotateTaggerIfStale_eq (afterTags w requests).1 (afterTags w requests).2 with
      same | ⟨picked, _, state, same⟩
    · rw [same]
      exact tagged
    · rw [same]
      intro victim source member
      rcases List.mem_append.mp member with old | new
      · exact tagged victim source old
      · simp at new

end SwitchRemake.Simulation

import SwitchRemake.Simulation.Turns

/-!
# Frenzy

Exact arithmetic. A tag adds to an active Frenzy; a Switch renews it with the values of a fresh one.
-/

namespace SwitchRemake.Simulation
open Lib

variable {w v : World ℝ} {p : PlayerState ℝ} {e : Effect ℝ}

/-! ## Ticks and effects -/

theorem ofInt_real (n : Int) : (JsNumber.ofInt n : ℝ) = n := by
  simp [JsNumber.ofInt, JsNumber.ofRat]

theorem msToTicks_whole {ms : ℝ} {hz n : Nat} (whole : ms / 1000 * hz = n) (positive : 0 < n) :
    msToTicks ms hz = n := by
  have rounded : JsNumber.round (ms / JsNumber.ofRat 1000 * JsNumber.ofInt hz) = (n : Int) := by
    have cast : ms / JsNumber.ofRat 1000 * JsNumber.ofInt hz = (n : ℝ) := by
      rw [ofInt_real]
      simpa [JsNumber.ofRat] using whole
    rw [cast]
    show ⌊(n : ℝ) + ((1 / 2 : ℚ) : ℝ)⌋ = (n : Int)
    rw [Int.floor_eq_iff]
    norm_num
  rw [msToTicks, rounded]
  omega

def fiveSeconds (hz : Nat) : Nat := 5 * hz

theorem frenzy_ticks {hz : Nat} (running : 0 < hz) :
    msToTicks (JsNumber.ofRat Skills.Frenzy.durationMs : ℝ) hz = fiveSeconds hz := by
  refine msToTicks_whole ?_ (by unfold fiveSeconds; omega)
  simp [JsNumber.ofRat, Skills.Frenzy.durationMs, fiveSeconds]
  norm_num

theorem bonus_ticks {hz : Nat} (running : 0 < hz) (left : Nat) :
    msToTicks ((JsNumber.ofInt left : ℝ) * (JsNumber.ofRat 1000 / JsNumber.ofInt hz) +
      JsNumber.ofRat Skills.Frenzy.tagBonusMs) hz = left + fiveSeconds hz := by
  have nonzero : (hz : ℝ) ≠ 0 := by positivity
  refine msToTicks_whole ?_ (by unfold fiveSeconds; omega)
  rw [ofInt_real, ofInt_real]
  simp only [JsNumber.ofRat, Skills.Frenzy.tagBonusMs, fiveSeconds]
  push_cast
  field_simp
  ring

theorem applyEffect_frenzy (w : World ℝ) (p : PlayerState ℝ) (magnitude durationMs : ℝ) :
    (applyEffect w p .frenzy magnitude durationMs).effects .frenzy =
      some (match p.effects .frenzy with
        | some e => ⟨max e.endTick (w.tick + msToTicks durationMs w.simulationHz),
            max e.magnitude magnitude⟩
        | none => ⟨w.tick + msToTicks durationMs w.simulationHz, magnitude⟩) := by
  unfold applyEffect
  simp only [Function.update_self]
  cases p.effects .frenzy <;> rfl

/-- What a fresh Frenzy is at this moment. -/
noncomputable def freshFrenzy (w : World ℝ) : Effect ℝ :=
  ⟨w.tick + fiveSeconds w.simulationHz, (Skills.Frenzy.speedIncrease : ℝ)⟩

theorem grant_unlit (running : 0 < w.simulationHz) (unlit : p.effects .frenzy = none) :
    (grantTaggerFrenzy w p).effects .frenzy = some (freshFrenzy w) := by
  rw [grantTaggerFrenzy, applyEffect_frenzy, unlit, frenzy_ticks running]
  rfl

theorem grant_lit (running : 0 < w.simulationHz) (lit : p.effects .frenzy = some e) :
    (grantTaggerFrenzy w p).effects .frenzy =
      some ⟨max e.endTick (freshFrenzy w).endTick, max e.magnitude (freshFrenzy w).magnitude⟩ := by
  rw [grantTaggerFrenzy, applyEffect_frenzy, lit, frenzy_ticks running]
  rfl

/-- A Frenzy after `tags` more tags. -/
noncomputable def Effect.extended (e : Effect ℝ) (hz tags : Nat) : Effect ℝ :=
  ⟨e.endTick + tags * fiveSeconds hz, e.magnitude + tags * (Skills.Frenzy.tagBonusIncrease : ℝ)⟩

theorem extend_lit (running : 0 < w.simulationHz) (lit : p.effects .frenzy = some e)
    (active : w.tick < e.endTick) :
    (extendFrenzyOnTag w p).effects .frenzy = some (e.extended w.simulationHz 1) := by
  have left : max 0 ((e.endTick : Int) - w.tick) = ((e.endTick - w.tick : Nat) : Int) := by omega
  have ends : w.tick + (e.endTick - w.tick + fiveSeconds w.simulationHz) =
      e.endTick + fiveSeconds w.simulationHz := by omega
  have bonus : (0 : ℝ) ≤ (Skills.Frenzy.tagBonusIncrease : ℝ) := by
    norm_num [Skills.Frenzy.tagBonusIncrease]
  unfold extendFrenzyOnTag
  rw [lit]
  dsimp only
  rw [applyEffect_frenzy, lit, left]
  dsimp only
  rw [bonus_ticks running, ends]
  simp only [Effect.extended, Nat.cast_one, one_mul, JsNumber.ofRat]
  rw [max_eq_right (by omega), max_eq_right (by linarith)]

theorem extend_unlit (unlit : p.effects .frenzy = none) : extendFrenzyOnTag w p = p := by
  unfold extendFrenzyOnTag
  rw [unlit]

/-! ## The worlds inside a tick -/

/-- Every Frenzy still there ends later. -/
structure Lit (w : World ℝ) : Prop where
  distinct : DistinctIds w.players
  running : 0 < w.simulationHz
  active : ∀ p ∈ w.players, ∀ e, p.effects .frenzy = some e → w.tick < e.endTick

def frenzyAt (w : World ℝ) (id : Nat) : Option (Effect ℝ) :=
  (w.find id).bind fun p => p.effects .frenzy

noncomputable def activeFrenzy (w : World ℝ) (id : Nat) : Option (Effect ℝ) :=
  (frenzyAt w id).filter fun e => w.tick < e.endTick

theorem Lit.activeFrenzy (lit : Lit w) (id : Nat) : activeFrenzy w id = frenzyAt w id := by
  unfold Simulation.activeFrenzy
  cases shown : frenzyAt w id with
  | none => rfl
  | some e =>
    obtain ⟨p, found, effect⟩ := Option.bind_eq_some_iff.mp shown
    have active := lit.active p (find_some found).1 e effect
    simp [active]

theorem frenzyAt_found {id : Nat} (found : w.find id = some p) :
    frenzyAt w id = p.effects .frenzy := by
  rw [frenzyAt, found, Option.bind_some]

theorem find_map {f : PlayerState ℝ → PlayerState ℝ} (slots : ∀ p, (f p).playerId = p.playerId)
    (maps : v.players = w.players.map f) (id : Nat) : v.find id = (w.find id).map f := by
  rw [World.find, World.find, maps, List.find?_map]
  congr 2
  funext p
  simp only [Function.comp_apply, slots]

theorem activeFrenzy_of {id : Nat} (shown : frenzyAt w id = some e) (active : w.tick < e.endTick) :
    activeFrenzy w id = some e := by
  rw [activeFrenzy, shown]
  simp [active]

theorem freshFrenzy_active (running : 0 < w.simulationHz) : w.tick < (freshFrenzy w).endTick := by
  simp only [freshFrenzy, fiveSeconds]
  omega

theorem frenzyAt_map {f : PlayerState ℝ → PlayerState ℝ} (slots : ∀ p, (f p).playerId = p.playerId)
    (maps : v.players = w.players.map f) {id : Nat} (found : w.find id = some p) :
    frenzyAt v id = (f p).effects .frenzy := by
  rw [frenzyAt, find_map slots maps, found, Option.map_some, Option.bind_some]

/-- The rule for a step of a tick. -/
theorem Lit.next (lit : Lit w) (tick : v.tick = w.tick) (hz : v.simulationHz = w.simulationHz)
    (each : Each (fun p q => q.playerId = p.playerId ∧
      ((∀ e, p.effects .frenzy = some e → w.tick < e.endTick) →
        ∀ e, q.effects .frenzy = some e → w.tick < e.endTick)) w v) : Lit v where
  distinct := each.distinct (fun _ _ related => related.1) lit.distinct
  running := by
    rw [hz]
    exact lit.running
  active q after e shown := by
    obtain ⟨p, before, _, keeps⟩ := each.exists_left after
    rw [tick]
    exact keeps (lit.active p before) e shown

theorem beginTick_lit (distinct : DistinctIds w.players) (running : 0 < w.simulationHz) :
    Lit (beginTick w) where
  distinct := (beginTick_sameRoles w).distinct distinct
  running := running
  active q member e shown := by
    obtain ⟨p, _, rfl⟩ := List.mem_map.mp member
    obtain ⟨_, active⟩ := Option.filter_eq_some_iff.mp shown
    have later : w.tick + 1 < e.endTick := by simpa using active
    exact later

theorem grant_active (running : 0 < w.simulationHz) (p : PlayerState ℝ) :
    ∀ e, (grantTaggerFrenzy w p).effects .frenzy = some e → w.tick < e.endTick := by
  intro e shown
  have later := freshFrenzy_active running
  cases lit : p.effects .frenzy with
  | none =>
    rw [grant_unlit running lit, Option.some.injEq] at shown
    exact shown ▸ later
  | some _ =>
    rw [grant_lit running lit, Option.some.injEq] at shown
    exact shown ▸ lt_of_lt_of_le later (le_max_right _ _)

theorem useSkill_lit (lit : Lit w) (request : SkillRequest) : Lit (useSkill w request).world := by
  have casts := useSkill_casts lit.distinct request
  generalize useSkill w request = result at casts
  cases casts with
  | refused _ _ => exact lit
  | used rewrites _ _ _ =>
    obtain ⟨f, spares, rfl⟩ := rewrites
    refine lit.next rfl rfl (each_map rfl fun p _ => ⟨(spares p).slot, fun active => ?_⟩)
    rw [(spares p).frenzy]
    exact active
  | @switched caster tagger target _ _ =>
    refine lit.next rfl rfl (each_map rfl fun p _ => ⟨switchPlayer_playerId .., fun active => ?_⟩)
    unfold switchPlayer
    split
    · exact grant_active lit.running _
    split
    · simpa [applyEffect] using active
    split
    · exact grant_active lit.running _
    · exact active

theorem useSkill_hz (distinct : DistinctIds w.players) (request : SkillRequest) :
    (useSkill w request).world.simulationHz = w.simulationHz := by
  have casts := useSkill_casts distinct request
  generalize useSkill w request = result at casts
  cases casts with
  | refused _ _ => rfl
  | used rewrites _ _ _ =>
    obtain ⟨f, _, rfl⟩ := rewrites
    rfl
  | switched _ => rfl

theorem runSkills_lit (lit : Lit w) (requests : List SkillRequest) :
    Lit (runSkills w requests).world ∧
      (runSkills w requests).world.simulationHz = w.simulationHz := by
  rw [runSkills_world]
  refine (afterSkills_induction (I := fun v => Lit v ∧ v.simulationHz = w.simulationHz)
    ⟨lit, rfl⟩ (fun v request kept => ?_) _).1
  exact ⟨useSkill_lit kept.1 request, (useSkill_hz kept.1.distinct request).trans kept.2⟩

theorem runEmojis_frame (w : World ℝ) (requests : List EmojiRequest) :
    ∃ players, runEmojis w requests = { w with players } := by
  unfold runEmojis
  generalize sortById EmojiRequest.playerId requests = ordered
  induction ordered generalizing w with
  | nil => exact ⟨w.players, rfl⟩
  | cons request rest ih =>
    obtain ⟨players, shown⟩ : ∃ players, showEmoji w request = { w with players } := by
      unfold showEmoji
      split <;> exact ⟨_, rfl⟩
    obtain ⟨others, equal⟩ := ih { w with players }
    rw [List.foldl_cons, shown]
    exact ⟨others, equal⟩

theorem beforeTags_lit (distinct : DistinctIds w.players) (running : 0 < w.simulationHz)
    (requests : TickRequests ℝ) : Lit (beforeTags w requests).1 ∧
      (beforeTags w requests).1.simulationHz = w.simulationHz := by
  obtain ⟨judged, hz⟩ := runSkills_lit (beginTick_lit distinct running) requests.skillRequests
  obtain ⟨shown, emojis⟩ := runEmojis_frame (runSkills (beginTick w) requests.skillRequests).world
    requests.emojiRequests
  obtain ⟨tiles, changes, storm, players, moved⟩ :=
    moveAll_frame (afterRequests w requests) requests.inputs
  have sameHz : (beforeTags w requests).1.simulationHz =
      (runSkills (beginTick w) requests.skillRequests).world.simulationHz := by
    rw [beforeTags, moved, afterRequests, emojis]
  refine ⟨judged.next ?_ sameHz (Each.of_map ?_ (still_beforeTags judged.distinct)),
    sameHz.trans hz⟩
  · rw [beforeTags, moved, afterRequests, emojis]
  · intro p q same
    obtain ⟨slot, _, _, _, effects, _⟩ := still_eq same
    refine ⟨slot, fun active e shown => ?_⟩
    rw [effects] at shown
    exact active e shown

/-! ## Tags -/

def tagsOf (taggerId : Nat) (events : List (WorldEvent ℝ)) : Nat :=
  events.countP fun
    | .eliminated _ source => source = some taggerId
    | _ => false

theorem extended_extended (e : Effect ℝ) (hz m n : Nat) :
    (e.extended hz m).extended hz n = e.extended hz (m + n) := by
  simp only [Effect.extended, Effect.mk.injEq]
  push_cast
  constructor <;> ring

theorem extended_active {hz n : Nat} (active : w.tick < e.endTick) :
    w.tick < (e.extended hz n).endTick :=
  lt_of_lt_of_le active (Nat.le_add_right _ _)

theorem extend_frenzy (running : 0 < w.simulationHz)
    (active : ∀ e, p.effects .frenzy = some e → w.tick < e.endTick) :
    (extendFrenzyOnTag w p).effects .frenzy =
      (p.effects .frenzy).map fun e => e.extended w.simulationHz 1 := by
  cases lit : p.effects .frenzy with
  | none => rw [extend_unlit lit, lit, Option.map_none]
  | some e => rw [extend_lit running lit (active e lit), Option.map_some]

theorem extendFrenzyOnTag_playerId (w : World ℝ) (p : PlayerState ℝ) :
    (extendFrenzyOnTag w p).playerId = p.playerId :=
  congrArg Prod.fst (role_extendFrenzyOnTag w p)

/-- The state of the contacts so far: the tagger's Frenzy has grown by one step for each tag. -/
structure Grown (w : World ℝ) (events : List (WorldEvent ℝ)) (p : PlayerState ℝ) (taggerId : Nat)
    (state : World ℝ × List (WorldEvent ℝ)) : Prop where
  lit : Lit state.1
  tick : state.1.tick = w.tick
  hz : state.1.simulationHz = w.simulationHz
  frenzy : ∃ q k, state.1.find taggerId = some q ∧
    tagsOf taggerId state.2 = tagsOf taggerId events + k ∧
    q.effects .frenzy = (p.effects .frenzy).map fun e => e.extended w.simulationHz k

theorem resolvePair_cases (lit : Lit w) {taggerId : Nat} (found : w.find taggerId = some p)
    (events : List (WorldEvent ℝ)) {pair : CollisionPair} (apart : pair.a ≠ pair.b) :
    resolvePair taggerId (w, events) pair = (w, events) ∨
    ∃ v victim q, resolvePair taggerId (w, events) pair =
        (v, events ++ [.eliminated victim (some taggerId)]) ∧
      Lit v ∧ v.tick = w.tick ∧ v.simulationHz = w.simulationHz ∧ v.find taggerId = some q ∧
      q.effects .frenzy = (p.effects .frenzy).map fun e => e.extended w.simulationHz 1 := by
  obtain ⟨member, slot⟩ := find_some found
  unfold resolvePair
  dsimp only
  split
  · exact .inl rfl
  · rename_i victim struck
    obtain ⟨looked, _⟩ := Option.filter_eq_some_iff.mp struck
    obtain ⟨id, met, looked⟩ := Option.bind_eq_some_iff.mp looked
    obtain ⟨_, rfl⟩ := find_some looked
    have other : victim.playerId ≠ taggerId := CollisionPair.opponent_ne apart met
    let die (q : PlayerState ℝ) : PlayerState ℝ := if q.playerId = victim.playerId then
      withStats (fun s =>
        { s with taggedCount := s.taggedCount + 1, eliminatedAtTick := some w.tick })
        { q with alive := false } else q
    let credit (q : PlayerState ℝ) : PlayerState ℝ := if q.playerId = taggerId then
      extendFrenzyOnTag w (withStats (fun s => { s with tagCount := s.tagCount + 1 }) q) else q
    have dies (q : PlayerState ℝ) : (die q).playerId = q.playerId ∧ (die q).effects = q.effects := by
      simp only [die]
      split <;> exact ⟨rfl, rfl⟩
    have credits (q : PlayerState ℝ) : (credit q).playerId = q.playerId := by
      simp only [credit]
      split
      · exact extendFrenzyOnTag_playerId w _
      · rfl
    have grows (q : PlayerState ℝ) (active : ∀ e, q.effects .frenzy = some e → w.tick < e.endTick)
        (own : q.playerId = taggerId) : (credit q).effects .frenzy =
          (q.effects .frenzy).map fun e => e.extended w.simulationHz 1 := by
      simp only [credit, if_pos own]
      exact extend_frenzy lit.running active
    refine .inr ⟨_, victim.playerId, credit p, rfl, ?_, rfl, rfl, ?_, ?_⟩
    · refine lit.next rfl rfl (each_map (f := fun q => credit (die q)) ?_ fun q _ => ?_)
      · simp only [World.update, List.map_map]
        rfl
      · refine ⟨(credits _).trans (dies q).1, fun active e shown => ?_⟩
        rw [← (dies q).2] at active
        by_cases own : (die q).playerId = taggerId
        · rw [grows _ active own] at shown
          obtain ⟨before, lit, rfl⟩ := Option.map_eq_some_iff.mp shown
          exact extended_active (active before lit)
        · simp only [credit, if_neg own] at shown
          exact active e shown
    · have spared : die p = p := if_neg fun hit => other (hit.symm.trans slot)
      let struck : World ℝ := { w with players := w.players.map die }
      have first : struck.find taggerId = some p := by
        rw [find_map (fun q => (dies q).1) rfl, found, Option.map_some, spared]
      have second := find_map (w := struck) credits (v := struck.update taggerId fun q =>
        extendFrenzyOnTag w (withStats (fun s => { s with tagCount := s.tagCount + 1 }) q)) rfl
      exact (second taggerId).trans (congrArg (Option.map credit) first)
    · exact grows p (lit.active p member) slot

theorem tagsOf_append (taggerId : Nat) (events : List (WorldEvent ℝ)) (victim : Nat) :
    tagsOf taggerId (events ++ [.eliminated victim (some taggerId)]) = tagsOf taggerId events + 1 := by
  simp [tagsOf, List.countP_append]

theorem resolvePairs_grown {taggerId : Nat} (lit : Lit w) (found : w.find taggerId = some p)
    (events : List (WorldEvent ℝ)) {pairs : List CollisionPair}
    (apart : ∀ pair ∈ pairs, pair.a ≠ pair.b) :
    Grown w events p taggerId (pairs.foldl (resolvePair taggerId) (w, events)) := by
  suffices run : ∀ state, Grown w events p taggerId state →
      Grown w events p taggerId (pairs.foldl (resolvePair taggerId) state) from
    run (w, events) ⟨lit, rfl, rfl, p, 0, found, rfl, by simp [Effect.extended]⟩
  induction pairs with
  | nil => exact fun state grown => grown
  | cons pair rest ih =>
    intro state grown
    refine ih (fun contact member => apart contact (List.mem_cons_of_mem _ member)) _ ?_
    obtain ⟨q, k, there, counted, frenzy⟩ := grown.frenzy
    rcases resolvePair_cases grown.lit there state.2 (apart pair List.mem_cons_self) with
      same | ⟨v, victim, r, struck, later, tick, hz, after, extended⟩
    · rw [same]
      exact grown
    · rw [struck]
      refine ⟨later, tick.trans grown.tick, hz.trans grown.hz, r, k + 1, after, ?_, ?_⟩
      · rw [tagsOf_append, counted, Nat.add_assoc]
      · rw [extended, frenzy, Option.map_map, grown.hz]
        simp only [Function.comp_def, extended_extended]

/-! ## A whole tick -/

def Rises (id : Nat) (w v : World ℝ) : Prop :=
  ∀ e, activeFrenzy w id = some e → ∃ after, activeFrenzy v id = some after ∧
    e.magnitude < after.magnitude ∧ e.endTick < after.endTick

def Starts (id : Nat) (w v : World ℝ) : Prop :=
  activeFrenzy w id = none → activeFrenzy v id = some (freshFrenzy w)

noncomputable def turnsOf (w : World ℝ) (requests : TickRequests ℝ) : List (World ℝ × SkillRequest) :=
  skillTurns (beginTick w) (sortById SkillRequest.playerId requests.skillRequests)

/-- The contacts before `earlier` ends, judged. -/
noncomputable def afterContacts (w : World ℝ) (requests : TickRequests ℝ) (taggerId : Nat)
    (earlier : List CollisionPair) : World ℝ × List (WorldEvent ℝ) :=
  earlier.foldl (resolvePair taggerId)
    ((beforeTags w requests).1, (runSkills (beginTick w) requests.skillRequests).events)

structure Accumulates (w : World ℝ) (requests : TickRequests ℝ) : Prop where
  switched : ∀ turn ∈ turnsOf w requests, (useSkill turn.1 turn.2).outcome = .ok .switch →
    Rises turn.2.playerId turn.1 (useSkill turn.1 turn.2).world
  tagged : ∀ tagger, livingTagger (beforeTags w requests).1 = some tagger →
    ∀ earlier pair later, (beforeTags w requests).2 = earlier ++ pair :: later →
      ∀ victim, (afterContacts w requests tagger.playerId (earlier ++ [pair])).2 =
          (afterContacts w requests tagger.playerId earlier).2 ++
            [.eliminated victim (some tagger.playerId)] →
        Rises tagger.playerId (afterContacts w requests tagger.playerId earlier).1
          (afterContacts w requests tagger.playerId (earlier ++ [pair])).1
  summed : ∀ tagger e, livingTagger (beforeTags w requests).1 = some tagger →
    activeFrenzy (beforeTags w requests).1 tagger.playerId = some e →
      activeFrenzy (afterTags w requests).1 tagger.playerId = some
        (e.extended w.simulationHz (tagsOf tagger.playerId (afterTags w requests).2))
  startsBySwitch : ∀ turn ∈ turnsOf w requests, ∀ caster target,
    .tagged target (some caster) ∈ (useSkill turn.1 turn.2).events →
      Starts caster turn.1 (useSkill turn.1 turn.2).world ∧
      Starts target turn.1 (useSkill turn.1 turn.2).world
  startsByRotation : ∀ next, (stepWorld w requests).events =
      (afterTags w requests).2 ++ [.tagged next none] →
    Starts next (afterTags w requests).1 (stepWorld w requests).world

/-- A successful Switch meets a Frenzy of its caster that is weaker and ends earlier than a fresh one. -/
def Outgrown (w : World ℝ) (requests : TickRequests ℝ) : Prop :=
  ∀ turn ∈ turnsOf w requests, ∀ caster tagger target, Switches turn.1 turn.2 caster tagger target →
    ∀ e, activeFrenzy turn.1 caster.playerId = some e →
      e.magnitude < (freshFrenzy turn.1).magnitude ∧ e.endTick < (freshFrenzy turn.1).endTick

section Switch

variable {request : SkillRequest} {caster tagger target : PlayerState ℝ}

theorem turn_lit (distinct : DistinctIds w.players) (running : 0 < w.simulationHz)
    (requests : TickRequests ℝ) : ∀ turn ∈ turnsOf w requests, Lit turn.1 :=
  (afterSkills_induction (beginTick_lit distinct running)
    (fun _ request lit => useSkill_lit lit request) _).2

theorem exists_switches (distinct : DistinctIds w.players)
    (hits : (useSkill w request).outcome = .ok .switch) :
    ∃ caster tagger target, Switches w request caster tagger target := by
  have casts := useSkill_casts distinct request
  generalize useSkill w request = result at casts hits
  cases casts with
  | refused reason _ => exact absurd hits (by simp)
  | used _ _ _ missed => exact absurd hits missed
  | switched hit => exact ⟨_, _, _, hit⟩

theorem switch_frenzy (lit : Lit w) (hit : Switches w request caster tagger target) :
    activeFrenzy (useSkill w request).world caster.playerId =
        (grantTaggerFrenzy w caster).effects .frenzy ∧
      activeFrenzy (useSkill w request).world target.playerId =
        (grantTaggerFrenzy w target).effects .frenzy := by
  obtain ⟨_, named, others⟩ := hit.apart lit.distinct
  have casterIn := find_of_mem lit.distinct (find_some hit.found).1
  obtain ⟨_, _, looked⟩ := Option.bind_eq_some_iff.mp hit.looked
  have targetIn := find_of_mem lit.distinct (find_some looked).1
  rw [(useSkill_lit lit request).activeFrenzy, (useSkill_lit lit request).activeFrenzy,
    (hit.casts lit.distinct).1]
  refine ⟨(frenzyAt_map (switchPlayer_playerId w _ _ _) rfl casterIn).trans ?_,
    (frenzyAt_map (switchPlayer_playerId w _ _ _) rfl targetIn).trans ?_⟩
  · rw [switchPlayer, if_pos rfl]
    rfl
  · rw [switchPlayer, if_neg named, if_neg others, if_pos rfl]
    rfl

theorem switch_rises (lit : Lit w) (hit : Switches w request caster tagger target) :
    Rises caster.playerId w (useSkill w request).world ↔
      ∀ e, activeFrenzy w caster.playerId = some e →
        e.magnitude < (freshFrenzy w).magnitude ∧ e.endTick < (freshFrenzy w).endTick := by
  have casterIn := find_of_mem lit.distinct (find_some hit.found).1
  unfold Rises
  rw [(switch_frenzy lit hit).1, lit.activeFrenzy, frenzyAt_found casterIn]
  refine forall₂_congr fun e shown => ?_
  rw [grant_lit lit.running shown]
  constructor
  · rintro ⟨after, same, magnitude, endTick⟩
    rw [← Option.some.inj same] at magnitude endTick
    exact ⟨(lt_max_iff.mp magnitude).resolve_left (lt_irrefl _),
      (lt_max_iff.mp endTick).resolve_left (lt_irrefl _)⟩
  · rintro ⟨magnitude, endTick⟩
    exact ⟨_, rfl, lt_max_of_lt_right magnitude, lt_max_of_lt_right endTick⟩

theorem switch_starts (lit : Lit w) (hit : Switches w request caster tagger target) :
    Starts caster.playerId w (useSkill w request).world ∧
      Starts target.playerId w (useSkill w request).world := by
  have casterIn := find_of_mem lit.distinct (find_some hit.found).1
  obtain ⟨_, _, looked⟩ := Option.bind_eq_some_iff.mp hit.looked
  have targetIn := find_of_mem lit.distinct (find_some looked).1
  obtain ⟨first, second⟩ := switch_frenzy lit hit
  constructor
  · intro unlit
    rw [lit.activeFrenzy, frenzyAt_found casterIn] at unlit
    rw [first, grant_unlit lit.running unlit]
  · intro unlit
    rw [lit.activeFrenzy, frenzyAt_found targetIn] at unlit
    rw [second, grant_unlit lit.running unlit]

end Switch

theorem rotation_starts (lit : Lit w) (events : List (WorldEvent ℝ)) {next : Nat}
    (rotated : (rotateTaggerIfStale w events).2 = events ++ [.tagged next none]) :
    Starts next w (rotateTaggerIfStale w events).1 := by
  unfold rotateTaggerIfStale at rotated ⊢
  split
  · rename_i early
    rw [if_pos early] at rotated
    exact absurd rotated (by simp)
  · rename_i due
    rw [if_neg due] at rotated
    obtain ⟨state, drawn⟩ := nextRandomInt_world w (rotationCandidates w).length
    dsimp only at rotated ⊢
    rw [drawn] at rotated ⊢
    cases found : (rotationCandidates w)[(w.nextRandomInt (rotationCandidates w).length).1]? with
    | none =>
      rw [found] at rotated
      exact absurd rotated (by simp)
    | some picked =>
      rw [found] at rotated
      obtain ⟨inside, _⟩ := rotationCandidates_getElem found
      have named : picked.playerId = next := by simpa using rotated
      subst named
      have unlitAt := lit.activeFrenzy picked.playerId
      rw [frenzyAt_found (find_of_mem lit.distinct inside)] at unlitAt
      intro unlit
      rw [unlitAt] at unlit
      let raise (p : PlayerState ℝ) : PlayerState ℝ :=
        let q := { p with isTagger := p.playerId = picked.playerId }
        if q.playerId = picked.playerId then grantTaggerFrenzy w q else q
      have slots (p : PlayerState ℝ) : (raise p).playerId = p.playerId := by
        simp only [raise]
        split <;> rfl
      have granted : (raise picked).effects .frenzy = some (freshFrenzy w) := by
        simp only [raise, if_true]
        exact grant_unlit lit.running unlit
      refine activeFrenzy_of ((frenzyAt_map slots ?_ (find_of_mem lit.distinct inside)).trans granted)
        (freshFrenzy_active lit.running)
      simp only [World.update, List.map_map]
      rfl

section Contacts

variable {tagger : PlayerState ℝ} {requests : TickRequests ℝ}

theorem contacts_apart (distinct : DistinctIds w.players) (running : 0 < w.simulationHz)
    (requests : TickRequests ℝ) : ∀ pair ∈ (beforeTags w requests).2, pair.a ≠ pair.b := by
  have judged := (runSkills_lit (beginTick_lit distinct running) requests.skillRequests).1
  exact fun pair member => moveAll_pairs (afterRequests_distinct judged.distinct) _ member

theorem afterContacts_grown (distinct : DistinctIds w.players) (running : 0 < w.simulationHz)
    (holds : livingTagger (beforeTags w requests).1 = some tagger) {earlier later : List CollisionPair}
    (split : (beforeTags w requests).2 = earlier ++ later) :
    Grown (beforeTags w requests).1 (runSkills (beginTick w) requests.skillRequests).events tagger
      tagger.playerId (afterContacts w requests tagger.playerId earlier) := by
  have before := (beforeTags_lit distinct running requests).1
  have found := find_of_mem before.distinct (livingTagger_some holds).1
  refine resolvePairs_grown before found _ fun pair member => ?_
  refine contacts_apart distinct running requests pair ?_
  rw [split]
  exact List.mem_append_left later member

theorem afterTags_grown (distinct : DistinctIds w.players) (running : 0 < w.simulationHz)
    (holds : livingTagger (beforeTags w requests).1 = some tagger) :
    Grown (beforeTags w requests).1 (runSkills (beginTick w) requests.skillRequests).events tagger
      tagger.playerId (afterTags w requests) := by
  have all := afterContacts_grown distinct running holds (List.append_nil _).symm
  simpa only [afterTags, resolveTagging, holds, afterContacts] using all

theorem afterTags_lit (distinct : DistinctIds w.players) (running : 0 < w.simulationHz)
    (requests : TickRequests ℝ) : Lit (afterTags w requests).1 := by
  cases holds : livingTagger (beforeTags w requests).1 with
  | none =>
    simpa only [afterTags, resolveTagging, holds] using (beforeTags_lit distinct running requests).1
  | some tagger => exact (afterTags_grown distinct running holds).lit

/-- Nobody is tagged while skills are judged. -/
theorem tagsOf_skills (taggerId : Nat) (w : World ℝ) (requests : List SkillRequest) :
    tagsOf taggerId (runSkills w requests).events = 0 := by
  refine List.countP_eq_zero.mpr fun event member => ?_
  cases event with
  | eliminated victim source => exact absurd member (runSkills_noElimination w requests victim source)
  | _ => simp

theorem extended_rises {w v : World ℝ} {id k : Nat} (lit : Lit w) (later : Lit v)
    (grown : frenzyAt v id = (frenzyAt w id).map fun e => e.extended k 1) (running : 0 < k) :
    Rises id w v := by
  intro e shown
  rw [lit.activeFrenzy] at shown
  rw [later.activeFrenzy, grown, shown]
  refine ⟨_, rfl, ?_, ?_⟩
  · simp only [Effect.extended, Skills.Frenzy.tagBonusIncrease]
    norm_num
  · simp only [Effect.extended, fiveSeconds]
    omega

theorem contact_rises (distinct : DistinctIds w.players) (running : 0 < w.simulationHz)
    (holds : livingTagger (beforeTags w requests).1 = some tagger)
    {earlier later : List CollisionPair} {pair : CollisionPair} {victim : Nat}
    (split : (beforeTags w requests).2 = earlier ++ pair :: later)
    (struck : (afterContacts w requests tagger.playerId (earlier ++ [pair])).2 =
      (afterContacts w requests tagger.playerId earlier).2 ++
        [.eliminated victim (some tagger.playerId)]) :
    Rises tagger.playerId (afterContacts w requests tagger.playerId earlier).1
      (afterContacts w requests tagger.playerId (earlier ++ [pair])).1 := by
  obtain ⟨lit, _, _, q, _, found, _, _⟩ := afterContacts_grown distinct running holds split
  have apart : pair.a ≠ pair.b := contacts_apart distinct running requests pair (by simp [split])
  have next : afterContacts w requests tagger.playerId (earlier ++ [pair]) =
      resolvePair tagger.playerId (afterContacts w requests tagger.playerId earlier) pair := by
    simp only [afterContacts, List.foldl_append, List.foldl_cons, List.foldl_nil]
  rw [next] at struck ⊢
  rcases resolvePair_cases lit found _ apart with same | ⟨v, _, r, equal, later, _, _, after, grown⟩
  · rw [same] at struck
    exact absurd struck (by simp)
  · rw [equal]
    refine extended_rises lit later ?_ lit.running
    rw [frenzyAt_found after, frenzyAt_found found]
    exact grown

end Contacts

theorem frenzy_accumulates (distinct : DistinctIds w.players) (running : 0 < w.simulationHz)
    (requests : TickRequests ℝ) :
    (Accumulates w requests ↔ Outgrown w requests) ∧
      ∀ p : PlayerState ℝ, p.effects .frenzy = none →
        (grantTaggerFrenzy w p).effects .frenzy = some (freshFrenzy w) := by
  refine ⟨?_, fun p => grant_unlit running⟩
  have turns := turn_lit distinct running requests
  obtain ⟨before, hz⟩ := beforeTags_lit distinct running requests
  constructor
  · intro accumulates turn member caster tagger target hit
    have rises := accumulates.switched turn member hit.outcome
    rw [← (find_some hit.found).2] at rises
    exact (switch_rises (turns turn member) hit).mp rises
  · intro outgrown
    refine ⟨?_, ?_, ?_, ?_, ?_⟩
    · intro turn member hits
      obtain ⟨caster, tagger, target, hit⟩ := exists_switches (turns turn member).distinct hits
      rw [← (find_some hit.found).2]
      exact (switch_rises (turns turn member) hit).mpr (outgrown turn member _ _ _ hit)
    · intro tagger holds earlier pair later split victim struck
      exact contact_rises distinct running holds split struck
    · intro tagger e holds shown
      obtain ⟨lit, _, _, q, k, found, counted, frenzy⟩ := afterTags_grown distinct running holds
      rw [tagsOf_skills, Nat.zero_add] at counted
      have start := find_of_mem before.distinct (livingTagger_some holds).1
      rw [before.activeFrenzy, frenzyAt_found start] at shown
      rw [lit.activeFrenzy, frenzyAt_found found, frenzy, shown, counted, Option.map_some,
        hz]
    · intro turn member caster target tagged
      have casts := useSkill_casts (turns turn member).distinct turn.2
      have starts (c t : PlayerState ℝ) (g : PlayerState ℝ) (hit : Switches turn.1 turn.2 c g t) :=
        switch_starts (turns turn member) hit
      generalize useSkill turn.1 turn.2 = result at casts starts tagged
      cases casts with
      | refused _ _ => simp at tagged
      | used _ harmless _ _ => exact absurd tagged (harmless.2 _ _)
      | switched hit =>
        simp only [List.mem_cons, reduceCtorEq, WorldEvent.tagged.injEq, Option.some.injEq,
          List.not_mem_nil, or_false, false_or] at tagged
        rw [tagged.1, tagged.2]
        exact starts _ _ _ hit
    · intro next rotated
      have tagged := afterTags_lit distinct running requests
      rw [stepWorld_events, afterRotation] at rotated
      rw [stepWorld_world, afterRotation]
      split
      · rename_i isOver
        rw [if_pos isOver] at rotated
        exact absurd rotated (by simp)
      · rename_i goesOn
        rw [if_neg goesOn] at rotated
        exact rotation_starts tagged _ rotated

/-- Three players on one spot: a runner in Frenzy, the tagger and another runner. -/
noncomputable def onOneSpot (frenzy : Option (Effect ℝ)) : World ℝ :=
  let player (id : Nat) (isTagger : Bool) (frenzy : Option (Effect ℝ)) : PlayerState ℝ :=
    { playerId := id, x := 0, y := 0, vx := 0, vy := 0, facingX := 0, facingY := 1
      radius := 1, sightRange := 1, colorIndex := id, alive := true, isTagger, connected := true
      effects := fun type => if type = .frenzy then frenzy else none
      cooldowns := fun _ => none, loadout := .dash, emoji := none, stats := emptyStats }
  { tick := 0, simulationHz := Network.simulationHz
    map := ⟨"spot", 0, 0, 1, [], 1, fun _ => []⟩
    players := [player 1 false frenzy, player 2 true none, player 3 false none]
    storm := none, tileChanges := [], taggerChangedAtTick := 0, randomState := 1 }

def switchToThird : SkillRequest := ⟨1, slotSwitch, some 3⟩

theorem onOneSpot_distinct (frenzy : Option (Effect ℝ)) : DistinctIds (onOneSpot frenzy).players := by
  simp [DistinctIds, onOneSpot]

theorem onOneSpot_switches (frenzy : Option (Effect ℝ)) :
    ∃ caster tagger target,
      Switches (beginTick (onOneSpot frenzy)) switchToThird caster tagger target := by
  refine ⟨_, _, _, ⟨rfl, rfl, rfl, rfl, ?_, rfl, ?_, rfl, rfl⟩⟩
  · simp [isReady, tickCooldowns, expireEffects]
  · show ¬ ((Skills.Switch.rangePx : ℚ) : ℝ) < Real.sqrt ((0 - 0) * (0 - 0) + (0 - 0) * (0 - 0))
    norm_num [Skills.Switch.rangePx, tilePx]

theorem frenzy_absorbed : ¬ Accumulates (onOneSpot (some ⟨400, 1 / 4⟩)) ⟨[], [switchToThird], []⟩ := by
  intro accumulates
  obtain ⟨caster, tagger, target, hit⟩ := onOneSpot_switches (some ⟨400, 1 / 4⟩)
  have lit := beginTick_lit (onOneSpot_distinct (some ⟨400, 1 / 4⟩)) (by decide)
  have rises := accumulates.switched (beginTick (onOneSpot (some ⟨400, 1 / 4⟩)), switchToThird)
    (List.mem_singleton.mpr rfl) hit.outcome
  have own : switchToThird.playerId = caster.playerId := (find_some hit.found).2.symm
  rw [own, switch_rises lit hit, ← own] at rises
  have shown : activeFrenzy (beginTick (onOneSpot (some ⟨400, 1 / 4⟩))) switchToThird.playerId =
      some ⟨400, 1 / 4⟩ := by
    refine activeFrenzy_of ?_ (show (1 : Nat) < 400 by decide)
    simp [frenzyAt, World.find, beginTick, onOneSpot, switchToThird, tickCooldowns, expireEffects]
  have weaker := (rises _ shown).1
  norm_num [freshFrenzy, Skills.Frenzy.speedIncrease] at weaker

theorem frenzy_accumulates_spot : Accumulates (onOneSpot none) ⟨[], [switchToThird], []⟩ := by
  refine ((frenzy_accumulates (onOneSpot_distinct none) (by decide) _).1).mpr ?_
  intro turn member caster tagger target hit e shown
  rw [List.mem_singleton.mp member] at hit shown
  rw [(find_some hit.found).2] at shown
  have unlit : activeFrenzy (beginTick (onOneSpot none)) switchToThird.playerId = none := by
    simp [activeFrenzy, frenzyAt, World.find, beginTick, onOneSpot, switchToThird, tickCooldowns,
      expireEffects]
  exact absurd (unlit.symm.trans shown) (by simp)

end SwitchRemake.Simulation

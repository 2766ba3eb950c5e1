import SwitchRemake.Simulation.Roles

/-!
# What one use of a skill does

A request is refused, or it writes to the players without touching roles and Frenzy, or it is a
Switch that hits.
-/

namespace SwitchRemake.Simulation
open Lib

variable {K : Type} {w v u : World K}

/-- What a skill of `id` that changes no role does to one player. -/
structure Spares (id : Nat) (p q : PlayerState K) : Prop where
  slot : q.playerId = p.playerId
  alive : q.alive = p.alive
  isTagger : q.isTagger = p.isTagger
  frenzy : q.effects .frenzy = p.effects .frenzy
  cooldowns : p.playerId ≠ id → q.cooldowns = p.cooldowns
  stats : ∃ more, q.stats = { p.stats with switchTry := p.stats.switchTry + more }

theorem Spares.refl (id : Nat) (p : PlayerState K) : Spares id p p :=
  ⟨rfl, rfl, rfl, rfl, fun _ => rfl, 0, rfl⟩

theorem Spares.trans {id : Nat} {p q r : PlayerState K} (first : Spares id p q)
    (second : Spares id q r) : Spares id p r where
  slot := second.slot.trans first.slot
  alive := second.alive.trans first.alive
  isTagger := second.isTagger.trans first.isTagger
  frenzy := second.frenzy.trans first.frenzy
  cooldowns other := (second.cooldowns (first.slot ▸ other)).trans (first.cooldowns other)
  stats := by
    obtain ⟨m, before⟩ := first.stats
    obtain ⟨n, after⟩ := second.stats
    refine ⟨m + n, ?_⟩
    rw [after, before]
    simp only [Nat.add_assoc]

/-- The players are rewritten one by one, and nothing else is. -/
def Rewrites (id : Nat) (w v : World K) : Prop :=
  ∃ f, (∀ p, Spares id p (f p)) ∧ v = { w with players := w.players.map f }

theorem Rewrites.refl (id : Nat) (w : World K) : Rewrites id w w :=
  ⟨fun p => p, Spares.refl id, by rw [List.map_id']⟩

theorem Rewrites.trans {id : Nat} (first : Rewrites id w v) (second : Rewrites id v u) :
    Rewrites id w u := by
  obtain ⟨f, spares, rfl⟩ := first
  obtain ⟨g, others, rfl⟩ := second
  refine ⟨fun p => g (f p), fun p => (spares p).trans (others (f p)), ?_⟩
  simp only [List.map_map, Function.comp_def]

theorem update_rewrites (id : Nat) (w : World K) (slot : Nat) {f : PlayerState K → PlayerState K}
    (spares : ∀ p, p.playerId = slot → Spares id p (f p)) : Rewrites id w (w.update slot f) := by
  refine ⟨fun p => if p.playerId = slot then f p else p, fun p => ?_, rfl⟩
  dsimp only
  split
  · exact spares p ‹_›
  · exact Spares.refl id p

theorem foldl_rewrites {β : Type} {id : Nat} {f : World K → β → World K}
    (each : ∀ w b, Rewrites id w (f w b)) (w : World K) (bs : List β) :
    Rewrites id w (bs.foldl f w) := by
  induction bs generalizing w with
  | nil => exact Rewrites.refl id w
  | cons b rest ih => exact (each w b).trans (ih (f w b))

variable [JsNumber K]

theorem spares_applyEffect (id : Nat) (w : World K) (p : PlayerState K) {type : EffectType}
    (other : type ≠ .frenzy) (magnitude durationMs : K) :
    Spares id p (applyEffect w p type magnitude durationMs) where
  slot := rfl
  alive := rfl
  isTagger := rfl
  frenzy := Function.update_of_ne other.symm _ _
  cooldowns _ := rfl
  stats := ⟨0, rfl⟩

theorem spares_startCooldown {id : Nat} (w : World K) {p : PlayerState K} (own : p.playerId = id)
    (skill : SkillId) (cooldownMs : K) : Spares id p (startCooldown w p skill cooldownMs) :=
  ⟨rfl, rfl, rfl, rfl, fun other => absurd own other, 0, rfl⟩

/-! ## A Switch that hits -/

/-- Everything a Switch needs to hit. -/
structure Switches (w : World K) (request : SkillRequest) (caster tagger target : PlayerState K) :
    Prop where
  found : w.find request.playerId = some caster
  alive : caster.alive = true
  runner : caster.isTagger = false
  skill : skillInSlot caster request.slot = some .switch
  ready : isReady caster .switch = true
  holds : livingTagger w = some tagger
  inRange : ¬ JsNumber.ofRat Skills.Switch.rangePx < distance caster tagger
  looked : request.targetPlayerId.bind w.find = some target
  valid : (target.alive && !target.isTagger && target.playerId != caster.playerId) = true

/-- What a Switch that hits does to one player. -/
def switchPlayer (w : World K) (caster tagger target : Nat) (p : PlayerState K) : PlayerState K :=
  if p.playerId = caster then
    withStats (fun s =>
        { s with switchTry := s.switchTry + 1, switchSuccess := s.switchSuccess + 1 })
      (grantTaggerFrenzy w
        (startCooldown w p .switch (JsNumber.ofRat Skills.Switch.cooldownMs)))
  else if p.playerId = tagger then
    applyEffect w { p with isTagger := false } .exhaust
      (JsNumber.ofRat Skills.SwitchVictim.speedDecrease)
      (JsNumber.ofRat Skills.SwitchVictim.durationMs)
  else if p.playerId = target then grantTaggerFrenzy w { p with isTagger := true }
  else p

@[simp] theorem switchPlayer_playerId (w : World K) (caster tagger target : Nat)
    (p : PlayerState K) : (switchPlayer w caster tagger target p).playerId = p.playerId := by
  unfold switchPlayer
  split
  · rfl
  split
  · rfl
  split <;> rfl

@[simp] theorem switchPlayer_alive (w : World K) (caster tagger target : Nat)
    (p : PlayerState K) : (switchPlayer w caster tagger target p).alive = p.alive := by
  unfold switchPlayer
  split
  · rfl
  split
  · rfl
  split <;> rfl

theorem switchPlayer_isTagger (w : World K) (caster tagger target : Nat) (p : PlayerState K) :
    (switchPlayer w caster tagger target p).isTagger =
      if p.playerId = caster then p.isTagger
      else if p.playerId = tagger then false
      else if p.playerId = target then true
      else p.isTagger := by
  unfold switchPlayer
  split
  · rfl
  split
  · rfl
  split <;> rfl

theorem switchPlayer_cooldowns (w : World K) {caster tagger target : Nat} {p : PlayerState K}
    (other : p.playerId ≠ caster) :
    (switchPlayer w caster tagger target p).cooldowns = p.cooldowns := by
  unfold switchPlayer
  rw [if_neg other]
  split
  · rfl
  split <;> rfl

theorem Switches.outcome {request : SkillRequest} {caster tagger target : PlayerState K}
    (hit : Switches w request caster tagger target) :
    (useSkill w request).outcome = .ok .switch := by
  have aimed : (request.targetPlayerId.bind w.find).filter (fun p =>
      p.alive && !p.isTagger && p.playerId != caster.playerId) = some target :=
    Option.filter_eq_some_iff.mpr ⟨hit.looked, hit.valid⟩
  simp only [useSkill, hit.found, hit.alive, not_true_eq_false, if_false, hit.skill, hit.ready,
    useSwitch, hit.runner, Bool.false_eq_true, and_false, hit.holds, hit.inRange, aimed]

/-- The players of a Switch that hits are three different ones. -/
theorem Switches.apart {request : SkillRequest} {caster tagger target : PlayerState K}
    (distinct : DistinctIds w.players) (hit : Switches w request caster tagger target) :
    tagger.playerId ≠ caster.playerId ∧ target.playerId ≠ caster.playerId ∧
      target.playerId ≠ tagger.playerId := by
  have same {p q : PlayerState K} (here : p ∈ w.players) (there : q ∈ w.players)
      (equal : p.playerId = q.playerId) : p = q :=
    List.inj_on_of_nodup_map distinct here there equal
  have casterIn := (find_some hit.found).1
  have taggerIn : tagger ∈ w.players := List.mem_of_find?_eq_some hit.holds
  have flag : tagger.isTagger = true := by
    have := List.find?_some hit.holds
    simp only [Bool.and_eq_true] at this
    exact this.1
  obtain ⟨_, _, looked⟩ := Option.bind_eq_some_iff.mp hit.looked
  have targetIn := (find_some looked).1
  have valid := hit.valid
  simp only [Bool.and_eq_true, Bool.not_eq_true', bne_iff_ne] at valid
  refine ⟨fun equal => ?_, valid.2, fun equal => ?_⟩
  · have runner := hit.runner
    rw [← same taggerIn casterIn equal, flag] at runner
    exact Bool.noConfusion runner
  · have runner := valid.1.2
    rw [same targetIn taggerIn equal, flag] at runner
    exact Bool.noConfusion runner

/-! ## The law of a request -/

/-- Nobody is eliminated and nobody becomes the tagger. -/
def Harmless (events : List (WorldEvent K)) : Prop :=
  (∀ victim source, WorldEvent.eliminated victim source ∉ events) ∧
    ∀ next source, WorldEvent.tagged next source ∉ events

inductive Casts (w : World K) (request : SkillRequest) : SkillResult K → Prop where
  | refused (reason : SkillRejection)
      (cooling : reason = .onCooldown →
        ∃ caster skill, w.find request.playerId = some caster ∧ isReady caster skill = false) :
      Casts w request ⟨w, [], .error reason⟩
  | used {world : World K} {events : List (WorldEvent K)} {outcome : SkillOutcome}
      (rewrites : Rewrites request.playerId w world) (harmless : Harmless events)
      (judged : outcome ≠ .error .onCooldown) (missed : outcome ≠ .ok .switch) :
      Casts w request ⟨world, events, outcome⟩
  | switched {caster tagger target : PlayerState K} {area : SkillArea K}
      (hit : Switches w request caster tagger target) :
      Casts w request
        { world := { w with
            players := w.players.map
              (switchPlayer w caster.playerId tagger.playerId target.playerId)
            taggerChangedAtTick := w.tick }
          events := [.skillArea area, .tagged target.playerId (some caster.playerId)]
          outcome := .ok .switch }

section Laws

variable {request : SkillRequest} {caster : PlayerState K}

theorem useDash_casts (found : w.find request.playerId = some caster) :
    Casts w request (useDash w caster) := by
  obtain ⟨_, slot⟩ := find_some found
  refine .used (update_rewrites _ w _ fun p same => ?_) (by simp [Harmless]) (by simp) (by simp)
  have dash : EffectType.dash ≠ .frenzy := by simp
  refine (spares_applyEffect _ w p dash _ _).trans (spares_startCooldown w ?_ .dash _)
  exact same.trans slot

theorem useFlash_casts (found : w.find request.playerId = some caster) :
    Casts w request (useFlash w caster) := by
  obtain ⟨_, slot⟩ := find_some found
  unfold useFlash
  dsimp only
  split
  · exact .refused .noTarget (by simp)
  · refine .used (update_rewrites _ w _ fun p same => ?_) (by simp [Harmless]) (by simp) (by simp)
    exact ⟨rfl, rfl, rfl, rfl, fun other => absurd (same.trans slot) other, 0, rfl⟩

theorem useExhaust_casts (found : w.find request.playerId = some caster) :
    Casts w request (useExhaust w caster) := by
  obtain ⟨_, slot⟩ := find_some found
  have cooling : Rewrites request.playerId w (w.update caster.playerId fun p =>
      startCooldown w p .exhaust (JsNumber.ofRat Skills.Exhaust.cooldownMs)) := by
    exact update_rewrites _ w _ fun p same => spares_startCooldown w (same.trans slot) .exhaust _
  have slow (magnitude durationMs : ℚ) (w : World K) (id : Nat) :
      Rewrites request.playerId w (w.update id fun p =>
        applyEffect w p .exhaust (JsNumber.ofRat magnitude) (JsNumber.ofRat durationMs)) :=
    update_rewrites _ w id fun p _ => spares_applyEffect _ w p (by simp) _ _
  unfold useExhaust
  dsimp only
  split
  · exact .used cooling (by simp [Harmless]) (by simp) (by simp)
  · have slowed := foldl_rewrites (slow Skills.Exhaust.speedDecrease Skills.Exhaust.durationMs)
    exact .used (cooling.trans ((slowed _ _).trans (slow _ _ _ _))) (by simp [Harmless])
      (by simp) (by simp)

theorem useSwitch_casts (distinct : DistinctIds w.players)
    (found : w.find request.playerId = some caster) (alive : caster.alive = true)
    (skill : skillInSlot caster request.slot = some .switch)
    (ready : isReady caster .switch = true) :
    Casts w request (useSwitch w caster request.targetPlayerId) := by
  obtain ⟨_, slot⟩ := find_some found
  unfold useSwitch
  split
  · exact .refused .role (by simp)
  rename_i runner
  rw [Bool.not_eq_true] at runner
  split
  · exact .refused .noTagger (by simp)
  rename_i tagger holds
  have tried : Rewrites request.playerId w (w.update caster.playerId fun p =>
      withStats (fun s => { s with switchTry := s.switchTry + 1 })
        (startCooldown w p .switch (JsNumber.ofRat Skills.Switch.cooldownMs))) := by
    refine update_rewrites _ w _ fun p same => ?_
    exact ⟨rfl, rfl, rfl, rfl, fun other => absurd (same.trans slot) other, 1, rfl⟩
  dsimp only
  split
  · exact .used tried (by simp [Harmless]) (by simp) (by simp)
  rename_i inRange
  split
  · exact .used tried (by simp [Harmless]) (by simp) (by simp)
  rename_i target aimed
  obtain ⟨looked, valid⟩ := Option.filter_eq_some_iff.mp aimed
  have hit : Switches w request caster tagger target :=
    ⟨found, alive, runner, skill, ready, holds, inRange, looked, valid⟩
  obtain ⟨taggerApart, targetApart, others⟩ := hit.apart distinct
  let area : SkillArea K :=
    ⟨.switch, caster.playerId, caster.x, caster.y, request.targetPlayerId⟩
  have law : Casts w request ⟨_, [.skillArea area, _], _⟩ := Casts.switched hit
  convert law using 2
  simp only [World.update, List.map_map, World.mk.injEq, true_and, and_true]
  refine List.map_congr_left fun p _ => ?_
  simp only [Function.comp_apply, switchPlayer]
  by_cases cast : p.playerId = caster.playerId
  · simp [cast, taggerApart.symm, targetApart.symm, withStats, startCooldown, grantTaggerFrenzy,
      applyEffect]
  · by_cases held : p.playerId = tagger.playerId
    · simp [held, others.symm, applyEffect, taggerApart]
    · by_cases named : p.playerId = target.playerId
      · simp [named, others, targetApart, grantTaggerFrenzy, applyEffect]
      · simp [cast, held, named]

theorem useSkill_casts (distinct : DistinctIds w.players) (request : SkillRequest) :
    Casts w request (useSkill w request) := by
  unfold useSkill
  split
  · exact .refused .notAlive (by simp)
  rename_i caster found
  split
  · exact .refused .notAlive (by simp)
  rename_i alive
  rw [not_not] at alive
  split
  · exact .refused .role (by simp)
  split
  · exact .refused .noSkill (by simp)
  rename_i skill slot
  split
  · rename_i cooling
    rw [Bool.not_eq_true] at cooling
    exact .refused .onCooldown fun _ => ⟨caster, skill, found, cooling⟩
  rename_i ready
  rw [not_not] at ready
  split
  · exact useDash_casts found
  · exact useFlash_casts found
  · exact useExhaust_casts found
  · exact useSwitch_casts distinct found alive slot ready

/-- A Switch with everything it needs goes through. -/
theorem Switches.casts (distinct : DistinctIds w.players) {tagger target : PlayerState K}
    (hit : Switches w request caster tagger target) :
    (useSkill w request).world = { w with
      players := w.players.map (switchPlayer w caster.playerId tagger.playerId target.playerId)
      taggerChangedAtTick := w.tick } ∧
    ∃ area, (useSkill w request).events =
      [.skillArea area, .tagged target.playerId (some caster.playerId)] := by
  have casts := useSkill_casts distinct request
  have hits := hit.outcome
  generalize useSkill w request = result at casts hits
  cases casts with
  | refused reason _ => exact absurd hits (by simp)
  | used _ _ _ missed => exact absurd hits missed
  | switched other =>
    obtain rfl := Option.some.inj (other.found.symm.trans hit.found)
    obtain rfl := Option.some.inj (other.holds.symm.trans hit.holds)
    obtain rfl := Option.some.inj (other.looked.symm.trans hit.looked)
    exact ⟨rfl, _, rfl⟩

end Laws
end SwitchRemake.Simulation

import SwitchRemake.Simulation.Books

/-!
# The ledger of the events

The counters of a player are entered in the events of a tick as well: who tagged whom, who tried its
Switch and whose Switch went through, who fell.
-/

namespace SwitchRemake.Simulation
open Lib

variable {K : Type} {w v u : World K} {tick : Nat} {events more : List (WorldEvent K)}

def WorldEvent.isKillOf (id : Nat) : WorldEvent K → Bool
  | .eliminated victim (some source) => source = id && victim != id
  | _ => false

def WorldEvent.isFallOf (id : Nat) : WorldEvent K → Bool
  | .eliminated victim _ => victim = id
  | _ => false

def WorldEvent.isTryOf (id : Nat) : WorldEvent K → Bool
  | .skillArea area => area.skill = .switch && area.playerId = id
  | _ => false

def WorldEvent.isHitOf (id : Nat) : WorldEvent K → Bool
  | .tagged _ (some source) => source = id
  | _ => false

open WorldEvent

/-- What the events of a tick say of a player is what has happened to its counters. -/
structure Posted (tick : Nat) (events : List (WorldEvent K)) (p q : PlayerState K) : Prop where
  slot : q.playerId = p.playerId
  tagCount : q.stats.tagCount = p.stats.tagCount + events.countP (isKillOf p.playerId)
  switchTry : q.stats.switchTry = p.stats.switchTry + events.countP (isTryOf p.playerId)
  switchSuccess : q.stats.switchSuccess = p.stats.switchSuccess + events.countP (isHitOf p.playerId)
  lives : events.countP (isFallOf p.playerId) = 0 ∧ q.alive = p.alive ∧
      q.stats.eliminatedAtTick = p.stats.eliminatedAtTick ∨
    events.countP (isFallOf p.playerId) = 1 ∧ p.alive = true ∧ q.alive = false ∧
      q.stats.eliminatedAtTick = some tick

/-- Events that no counter knows of. -/
def Unposted (events : List (WorldEvent K)) : Prop :=
  ∀ id, ∀ event ∈ events, isKillOf id event = false ∧ isTryOf id event = false ∧
    isHitOf id event = false ∧ isFallOf id event = false

theorem Unposted.nil : Unposted (K := K) [] := fun _ _ member => absurd member List.not_mem_nil

theorem Posted.silent (unposted : Unposted events) {p q : PlayerState K}
    (slot : q.playerId = p.playerId) (alive : q.alive = p.alive) (stats : q.stats = p.stats) :
    Posted tick events p q := by
  have none_ (f : WorldEvent K → Bool) (never : ∀ event ∈ events, f event = false) :
      events.countP f = 0 :=
    List.countP_eq_zero.mpr fun event member => by simp [never event member]
  refine ⟨slot, ?_, ?_, ?_, .inl ⟨?_, alive, by rw [stats]⟩⟩
  · rw [none_ _ fun event member => (unposted _ event member).1, stats, Nat.add_zero]
  · rw [none_ _ fun event member => (unposted _ event member).2.1, stats, Nat.add_zero]
  · rw [none_ _ fun event member => (unposted _ event member).2.2.1, stats, Nat.add_zero]
  · exact none_ _ fun event member => (unposted _ event member).2.2.2

theorem Posted.trans {p q r : PlayerState K} (first : Posted tick events p q)
    (second : Posted tick more q r) : Posted tick (events ++ more) p r := by
  obtain ⟨slot, kills, tries, hits, lives⟩ := first
  obtain ⟨slot', kills', tries', hits', lives'⟩ := second
  rw [slot] at slot' kills' tries' hits' lives'
  refine ⟨slot', ?_, ?_, ?_, ?_⟩
  · rw [kills', kills, List.countP_append, Nat.add_assoc]
  · rw [tries', tries, List.countP_append, Nat.add_assoc]
  · rw [hits', hits, List.countP_append, Nat.add_assoc]
  · rw [List.countP_append]
    rcases lives with ⟨zero, alive, ends⟩ | ⟨one, lived, dead, ends⟩
    · rcases lives' with ⟨zero', alive', ends'⟩ | ⟨one', lived', dead', ends'⟩
      · exact .inl ⟨by rw [zero, zero'], alive'.trans alive, ends'.trans ends⟩
      · exact .inr ⟨by rw [zero, one'], alive ▸ lived', dead', ends'⟩
    · rcases lives' with ⟨zero', alive', ends'⟩ | ⟨one', lived', dead', ends'⟩
      · exact .inr ⟨by rw [one, zero'], lived, alive'.trans dead, ends'.trans ends⟩
      · rw [dead] at lived'
        cases lived'

theorem Posted.each_trans (first : Each (Posted tick events) w v)
    (second : Each (Posted tick more) v u) : Each (Posted tick (events ++ more)) w u := by
  have joins (p q r : PlayerState K) (first : Posted tick events p q)
      (second : Posted tick more q r) : Posted tick (events ++ more) p r := first.trans second
  exact first.trans joins second

/-- A phase without events that leaves lives and counters alone. -/
theorem Posted.each_silent
    (each : Each (fun p q => q.playerId = p.playerId ∧ q.alive = p.alive ∧ q.stats = p.stats) w v) :
    Each (Posted tick []) w v :=
  each.imp fun _ _ same => .silent .nil same.1 same.2.1 same.2.2

/-- Nobody tries twice in these events, and no Switch goes through untried. -/
def TriedOnce (events : List (WorldEvent K)) : Prop :=
  ∀ id, events.countP (isHitOf id) ≤ events.countP (isTryOf id) ∧ events.countP (isTryOf id) ≤ 1

theorem TriedOnce.append (once : TriedOnce events)
    (without : ∀ id, ∀ event ∈ more, isTryOf id event = false ∧ isHitOf id event = false) :
    TriedOnce (events ++ more) := by
  intro id
  have tries : more.countP (isTryOf id) = 0 :=
    List.countP_eq_zero.mpr fun event member => by simp [without id event member]
  have hits : more.countP (isHitOf id) = 0 :=
    List.countP_eq_zero.mpr fun event member => by simp [without id event member]
  rw [List.countP_append, List.countP_append, tries, hits]
  exact once id

/-! ## Requests -/

/-- A request of somebody else, or of another skill. -/
structure Untried (p q : PlayerState K) : Prop where
  slot : q.playerId = p.playerId
  alive : q.alive = p.alive
  cooldown : q.cooldowns .switch = p.cooldowns .switch
  stats : q.stats = p.stats

theorem Untried.refl (p : PlayerState K) : Untried p p := ⟨rfl, rfl, rfl, rfl⟩

theorem Untried.trans {p q r : PlayerState K} (first : Untried p q) (second : Untried q r) :
    Untried p r :=
  ⟨second.slot.trans first.slot, second.alive.trans first.alive,
    second.cooldown.trans first.cooldown, second.stats.trans first.stats⟩

theorem Untried.each_trans (first : Each Untried w v) (second : Each Untried v u) :
    Each Untried w u :=
  Each.trans (R := Untried) (S := Untried) (fun _ _ _ => Untried.trans) first second

theorem update_untried {id : Nat} {f : PlayerState K → PlayerState K}
    (untried : ∀ p, Untried p (f p)) : Each Untried w (w.update id f) :=
  each_update (R := Untried) id (fun p _ => untried p) fun p _ => Untried.refl p

theorem foldl_untried {β : Type} {f : World K → β → World K} (each : ∀ w b, Each Untried w (f w b))
    (bs : List β) (w : World K) : Each Untried w (bs.foldl f w) := by
  induction bs generalizing w with
  | nil => exact Each.refl Untried.refl w
  | cons b rest ih => exact Untried.each_trans (each w b) (ih (f w b))

variable [JsNumber K]

/-- One player tries its Switch, which has to cool down then. -/
structure TriedBy (id hits : Nat) (p q : PlayerState K) : Prop where
  slot : q.playerId = p.playerId
  alive : q.alive = p.alive
  others : p.playerId ≠ id → Untried p q
  own : p.playerId = id →
    q.stats = { p.stats with
      switchTry := p.stats.switchTry + 1, switchSuccess := p.stats.switchSuccess + hits } ∧
    ∃ ticks : Nat, 0 < ticks ∧ q.cooldowns .switch = some (JsNumber.ofInt ticks)

theorem TriedBy.untried {id hits : Nat} {p q r : PlayerState K} (first : TriedBy id hits p q)
    (second : Untried q r) : TriedBy id hits p r where
  slot := second.slot.trans first.slot
  alive := second.alive.trans first.alive
  others other := (first.others other).trans second
  own same := by
    obtain ⟨stats, ticks, positive, cooling⟩ := first.own same
    exact ⟨second.stats.trans stats, ticks, positive, second.cooldown.trans cooling⟩

theorem TriedBy.each_untried {id hits : Nat} (first : Each (TriedBy id hits) w v)
    (second : Each Untried v u) : Each (TriedBy id hits) w u :=
  Each.trans (R := TriedBy id hits) (S := Untried) (fun _ _ _ => TriedBy.untried) first second

/-- The ways a request can treat the Switch of its player. -/
inductive Tries (w : World K) (request : SkillRequest) : SkillResult K → Prop where
  | other {world : World K} {events : List (WorldEvent K)} {outcome : SkillOutcome}
      (silent : Unposted events) (each : Each Untried w world) :
      Tries w request ⟨world, events, outcome⟩
  | missed {world : World K} {outcome : SkillOutcome} {caster : PlayerState K} {area : SkillArea K}
      (member : caster ∈ w.players) (ready : isReady caster .switch = true)
      (circle : area.skill = .switch ∧ area.playerId = caster.playerId)
      (each : Each (TriedBy caster.playerId 0) w world) :
      Tries w request ⟨world, [.skillArea area], outcome⟩
  | hit {world : World K} {outcome : SkillOutcome} {caster : PlayerState K} {area : SkillArea K}
      {target : Nat} (member : caster ∈ w.players) (ready : isReady caster .switch = true)
      (circle : area.skill = .switch ∧ area.playerId = caster.playerId)
      (each : Each (TriedBy caster.playerId 1) w world) :
      Tries w request ⟨world, [.skillArea area, .tagged target (some caster.playerId)], outcome⟩

theorem Tries.refused {request : SkillRequest} {outcome : SkillOutcome} :
    Tries w request ⟨w, [], outcome⟩ :=
  .other .nil (Each.refl Untried.refl w)

theorem msToTicks_pos (ms : K) (simulationHz : Nat) : 0 < msToTicks ms simulationHz := by
  unfold msToTicks
  omega

theorem startCooldown_untried (w : World K) (p : PlayerState K) {skill : SkillId}
    (other : skill ≠ .switch) (ms : K) : Untried p (startCooldown w p skill ms) :=
  ⟨rfl, rfl, Function.update_of_ne other.symm _ _, rfl⟩

theorem useExhaust_tries (request : SkillRequest) (caster : PlayerState K) :
    Tries w request (useExhaust w caster) := by
  have cooling : Each Untried w (w.update caster.playerId fun p =>
      startCooldown w p .exhaust (JsNumber.ofRat Skills.Exhaust.cooldownMs)) :=
    update_untried fun p => startCooldown_untried w p (by simp) _
  have slow (magnitude durationMs : ℚ) (w : World K) (id : Nat) :
      Each Untried w (w.update id fun p =>
        applyEffect w p .exhaust (JsNumber.ofRat magnitude) (JsNumber.ofRat durationMs)) :=
    update_untried fun p => ⟨rfl, rfl, rfl, rfl⟩
  unfold useExhaust
  dsimp only
  split
  · exact .other (by simp [Unposted, isKillOf, isTryOf, isHitOf, isFallOf]) cooling
  · have slowed := foldl_untried (slow Skills.Exhaust.speedDecrease Skills.Exhaust.durationMs)
    exact .other (by simp [Unposted, isKillOf, isTryOf, isHitOf, isFallOf])
      (Untried.each_trans cooling (Untried.each_trans (slowed _ _) (slow _ _ _ _)))

theorem useSwitch_tries {request : SkillRequest} {caster : PlayerState K}
    (member : caster ∈ w.players) (ready : isReady caster .switch = true)
    (targetPlayerId : Option Nat) : Tries w request (useSwitch w caster targetPlayerId) := by
  have tried : Each (TriedBy caster.playerId 0) w (w.update caster.playerId fun p =>
      withStats (fun s => { s with switchTry := s.switchTry + 1 })
        (startCooldown w p .switch (JsNumber.ofRat Skills.Switch.cooldownMs))) := by
    refine each_update (R := TriedBy caster.playerId 0) _ (fun p same => ?_) fun p other => ?_
    · refine ⟨rfl, rfl, fun other => absurd same other, fun _ => ⟨rfl, ?_⟩⟩
      refine ⟨_, msToTicks_pos (JsNumber.ofRat (K := K) Skills.Switch.cooldownMs) w.simulationHz, ?_⟩
      exact Function.update_self SkillId.switch _ p.cooldowns
    · exact ⟨rfl, rfl, fun _ => .refl p, fun same => absurd same other⟩
  unfold useSwitch
  split
  · exact .refused
  split
  · exact .refused
  dsimp only
  split
  · exact .missed member ready ⟨rfl, rfl⟩ tried
  split
  · exact .missed member ready ⟨rfl, rfl⟩ tried
  · refine .hit member ready ⟨rfl, rfl⟩ ?_
    rename_i tagger _ _ _ target _
    let clear (p : PlayerState K) : PlayerState K :=
      applyEffect w { p with isTagger := false } .exhaust
        (JsNumber.ofRat Skills.SwitchVictim.speedDecrease)
        (JsNumber.ofRat Skills.SwitchVictim.durationMs)
    let choose (p : PlayerState K) : PlayerState K := grantTaggerFrenzy w { p with isTagger := true }
    have cleared := TriedBy.each_untried tried
      (@update_untried K _ tagger.playerId clear fun p => ⟨rfl, rfl, rfl, rfl⟩)
    have moved := TriedBy.each_untried cleared
      (@update_untried K _ target.playerId choose fun p => ⟨rfl, rfl, rfl, rfl⟩)
    refine Each.trans (R := TriedBy caster.playerId 0) (S := fun q r =>
      (q.playerId = caster.playerId → r = withStats (fun s =>
        { s with switchSuccess := s.switchSuccess + 1 }) (grantTaggerFrenzy w q)) ∧
      (q.playerId ≠ caster.playerId → r = q)) (fun p q r first last => ?_) moved
      (each_update _ (fun q same => ⟨fun _ => rfl, fun other => absurd same other⟩)
        fun q other => ⟨fun same => absurd same other, fun _ => rfl⟩)
    by_cases own : p.playerId = caster.playerId
    · obtain ⟨stats, ticks, positive, cooling⟩ := first.own own
      rw [last.1 (first.slot.trans own)]
      refine ⟨first.slot, first.alive, fun other => absurd own other, fun _ =>
        ⟨?_, ticks, positive, cooling⟩⟩
      simp [withStats, grantTaggerFrenzy, applyEffect, stats]
    · rw [last.2 fun same => own (first.slot.symm.trans same)]
      exact ⟨first.slot, first.alive, first.others, fun same => absurd same own⟩

theorem useSkill_tries (w : World K) (request : SkillRequest) :
    Tries w request (useSkill w request) := by
  unfold useSkill
  split
  · exact .refused
  rename_i caster found
  split
  · exact .refused
  split
  · exact .refused
  split
  · exact .refused
  rename_i skill _
  split
  · exact .refused
  rename_i ready
  rw [not_not] at ready
  split
  · unfold useDash
    refine .other (by simp [Unposted, isKillOf, isTryOf, isHitOf, isFallOf])
      (update_untried fun p => ⟨rfl, rfl, ?_, rfl⟩)
    simp [startCooldown, applyEffect]
  · unfold useFlash
    dsimp only
    split
    · exact .refused
    · refine .other (by simp [Unposted, isKillOf, isTryOf, isHitOf, isFallOf])
        (update_untried fun p => ⟨rfl, rfl, ?_, rfl⟩)
      simp [startCooldown]
  · exact useExhaust_tries request caster
  · exact useSwitch_tries (find_some found).1 ready request.targetPlayerId

theorem useSkill_posted (w : World K) (request : SkillRequest) :
    Each (Posted tick (useSkill w request).events) w (useSkill w request).world := by
  have tries := useSkill_tries w request
  generalize useSkill w request = result at tries
  cases tries with
  | other silent each =>
    exact each.imp fun p q same => .silent silent same.slot same.alive same.stats
  | @missed world outcome caster area member ready circle each =>
    refine each.imp fun p q tried => ?_
    by_cases own : p.playerId = caster.playerId
    · obtain ⟨stats, _⟩ := tried.own own
      refine ⟨tried.slot, ?_, ?_, ?_, .inl ⟨?_, tried.alive, ?_⟩⟩ <;>
        simp [stats, isKillOf, isTryOf, isHitOf, isFallOf, circle, own]
    · have stats := (tried.others own).stats
      refine ⟨tried.slot, ?_, ?_, ?_, .inl ⟨?_, tried.alive, ?_⟩⟩ <;>
        simp [stats, isKillOf, isTryOf, isHitOf, isFallOf, circle, Ne.symm own]
  | @hit world outcome caster area target member ready circle each =>
    refine each.imp fun p q tried => ?_
    by_cases own : p.playerId = caster.playerId
    · obtain ⟨stats, _⟩ := tried.own own
      refine ⟨tried.slot, ?_, ?_, ?_, .inl ⟨?_, tried.alive, ?_⟩⟩ <;>
        simp [stats, isKillOf, isTryOf, isHitOf, isFallOf, circle, own]
    · have stats := (tried.others own).stats
      refine ⟨tried.slot, ?_, ?_, ?_, .inl ⟨?_, tried.alive, ?_⟩⟩ <;>
        simp [stats, isKillOf, isTryOf, isHitOf, isFallOf, circle, Ne.symm own]

/-- Whoever has tried its Switch in a tick cannot try it again. -/
structure Spent (events : List (WorldEvent K)) (w : World K) : Prop where
  once : TriedOnce events
  cooling : ∀ p ∈ w.players, events.countP (isTryOf p.playerId) = 1 → isReady p .switch = false

/-- A number of ticks that is not zero is positive. -/
class CountingNumber (K : Type) [JsNumber K] : Prop where
  ofInt_pos (n : Nat) : 0 < n → ¬ (JsNumber.ofInt n : K) ≤ 0

instance : CountingNumber ℚ where
  ofInt_pos n positive := not_le.mpr (show (0 : ℚ) < ((n : Int) : ℚ) by exact_mod_cast positive)

noncomputable instance : CountingNumber ℝ where
  ofInt_pos n positive :=
    not_le.mpr (show (0 : ℝ) < (((n : Int) : ℚ) : ℝ) by exact_mod_cast positive)

theorem Spent.tried [CountingNumber K] {caster : PlayerState K} {hits : Nat}
    (spent : Spent events w) (member : caster ∈ w.players)
    (ready : isReady caster .switch = true) (each : Each (TriedBy caster.playerId hits) w v)
    (few : hits ≤ 1) (tries : ∀ id, more.countP (isTryOf id) = if id = caster.playerId then 1 else 0)
    (through : ∀ id, more.countP (isHitOf id) = if id = caster.playerId then hits else 0) :
    Spent (events ++ more) v := by
  have fresh : events.countP (isTryOf caster.playerId) = 0 := by
    have bound := (spent.once caster.playerId).2
    by_contra tried
    have cooling := spent.cooling caster member (by omega)
    rw [ready] at cooling
    cases cooling
  refine ⟨fun id => ?_, fun q after tried => ?_⟩
  · have bounds := spent.once id
    rw [List.countP_append, List.countP_append, tries, through]
    split
    · subst id
      omega
    · exact bounds
  · obtain ⟨p, before, law⟩ := each.exists_left after
    rw [List.countP_append, tries, law.slot] at tried
    by_cases own : p.playerId = caster.playerId
    · obtain ⟨_, ticks, positive, cooling⟩ := law.own own
      simp [isReady, cooling, CountingNumber.ofInt_pos ticks positive]
    · rw [if_neg own, Nat.add_zero] at tried
      have cooling := spent.cooling p before tried
      rwa [isReady, ← (law.others own).cooldown] at cooling

theorem Spent.use [CountingNumber K] (spent : Spent events w) (request : SkillRequest) :
    Spent (events ++ (useSkill w request).events) (useSkill w request).world := by
  have tries := useSkill_tries w request
  generalize useSkill w request = result at tries
  cases tries with
  | @other world more outcome silent each =>
    have quiet (id : Nat) (event : WorldEvent K) (member : event ∈ more) :=
      And.intro (silent id event member).2.1 (silent id event member).2.2.1
    refine ⟨spent.once.append quiet, fun q after tried => ?_⟩
    obtain ⟨p, before, untried⟩ := each.exists_left after
    have zero : more.countP (isTryOf p.playerId) = 0 :=
      List.countP_eq_zero.mpr fun event member => by simp [quiet p.playerId event member]
    rw [List.countP_append, untried.slot, zero] at tried
    have cooling := spent.cooling p before tried
    rwa [isReady, ← untried.cooldown] at cooling
  | missed member ready circle each =>
    refine spent.tried member ready each (Nat.zero_le 1) (fun id => ?_) fun id => ?_
    · simp [List.countP_cons, isTryOf, circle, eq_comm]
    · simp [isHitOf]
  | hit member ready circle each =>
    refine spent.tried member ready each le_rfl (fun id => ?_) fun id => ?_
    · simp [List.countP_cons, isTryOf, circle, eq_comm]
    · simp [List.countP_cons, isHitOf, eq_comm]

theorem runSkills_posted (w : World K) (requests : List SkillRequest) :
    Each (Posted tick (runSkills w requests).events) w (runSkills w requests).world := by
  unfold runSkills
  generalize sortById SkillRequest.playerId requests = ordered
  suffices run : ∀ s : SkillPhase K, Each (Posted tick s.events) w s.world →
      Each (Posted tick (ordered.foldl SkillPhase.use s).events) w
        (ordered.foldl SkillPhase.use s).world from
    run ⟨w, [], []⟩ (Posted.each_silent (Each.refl (fun p => ⟨rfl, rfl, rfl⟩) w))
  induction ordered with
  | nil => exact fun s posted => posted
  | cons request rest ih =>
    exact fun s posted => ih (s.use request) (Posted.each_trans posted (useSkill_posted s.world request))

theorem runSkills_spent [CountingNumber K] (w : World K) (requests : List SkillRequest) :
    Spent (runSkills w requests).events (runSkills w requests).world := by
  unfold runSkills
  generalize sortById SkillRequest.playerId requests = ordered
  suffices run : ∀ s : SkillPhase K, Spent s.events s.world →
      Spent (ordered.foldl SkillPhase.use s).events (ordered.foldl SkillPhase.use s).world from
    run ⟨w, [], []⟩ ⟨fun id => by simp, fun p _ => nofun⟩
  induction ordered with
  | nil => exact fun s spent => spent
  | cons request rest ih => exact fun s spent => ih (s.use request) (spent.use request)

/-! ## The rest of the tick -/

/-- What has become of a world in a tick, with the events of it. -/
structure Tallied (w : World K) (tick : Nat) (state : World K × List (WorldEvent K)) : Prop where
  clock : state.1.tick = tick
  each : Each (Posted tick state.2) w state.1
  once : TriedOnce state.2

theorem beforeTags_tallied [CountingNumber K] (distinct : DistinctIds w.players)
    (requests : TickRequests K) :
    Tallied w (w.tick + 1)
      ((beforeTags w requests).1, (runSkills (beginTick w) requests.skillRequests).events) := by
  have begun : Each (Posted (w.tick + 1) []) w (beginTick w) :=
    Posted.each_silent (each_map rfl fun p _ => ⟨rfl, rfl, rfl⟩)
  have judged := Posted.each_trans begun (runSkills_posted _ requests.skillRequests)
  have apart := judged.distinct (fun _ _ posted => posted.slot) distinct
  have moved : Each (Posted (w.tick + 1) [])
      (runSkills (beginTick w) requests.skillRequests).world (beforeTags w requests).1 := by
    refine Posted.each_silent (.of_map (fun p q same => ?_) (still_beforeTags apart))
    obtain ⟨slot, alive, _, _, _, stats⟩ := still_eq same
    exact ⟨slot, alive, stats⟩
  refine ⟨beforeTags_tick w requests, ?_, (runSkills_spent _ _).once⟩
  have both := Posted.each_trans judged moved
  rwa [List.append_nil] at both

theorem Tallied.resolvePair (distinct : DistinctIds w.players)
    {state : World K × List (WorldEvent K)} (tallied : Tallied w tick state) (taggerId : Nat)
    {pair : CollisionPair} (apart : pair.a ≠ pair.b) :
    Tallied w tick (resolvePair taggerId state pair) := by
  unfold Simulation.resolvePair
  dsimp only
  split
  · exact tallied
  rename_i victim struck
  obtain ⟨lookup, lived⟩ := Option.filter_eq_some_iff.mp struck
  obtain ⟨id, met, found⟩ := Option.bind_eq_some_iff.mp lookup
  obtain ⟨member, rfl⟩ := find_some found
  have other : victim.playerId ≠ taggerId := CollisionPair.opponent_ne apart met
  have unique := tallied.each.distinct (fun _ _ posted => posted.slot) distinct
  refine ⟨tallied.clock, Posted.each_trans tallied.each ?_, tallied.once.append ?_⟩
  · let die (p : PlayerState K) : PlayerState K := withStats (fun s =>
      { s with taggedCount := s.taggedCount + 1, eliminatedAtTick := some state.1.tick })
      { p with alive := false }
    let credit (p : PlayerState K) : PlayerState K :=
      extendFrenzyOnTag state.1 (withStats (fun s => { s with tagCount := s.tagCount + 1 }) p)
    have dies : Each (fun p q => (p.playerId = victim.playerId → p.alive = true ∧ q = die p) ∧
        (p.playerId ≠ victim.playerId → q = p)) state.1 (state.1.update victim.playerId die) := by
      refine each_map rfl fun p there => ?_
      split
      · rename_i same
        obtain rfl := List.inj_on_of_nodup_map unique there member same
        exact ⟨fun _ => ⟨lived, rfl⟩, fun other => absurd rfl other⟩
      · rename_i elsewhere
        exact ⟨fun same => absurd same elsewhere, fun _ => rfl⟩
    have credits : Each (fun q r => (q.playerId = taggerId → r = credit q) ∧
        (q.playerId ≠ taggerId → r = q)) (state.1.update victim.playerId die)
        ((state.1.update victim.playerId die).update taggerId credit) :=
      each_update _ (fun q same => ⟨fun _ => rfl, fun other => absurd same other⟩)
        fun q other => ⟨fun same => absurd same other, fun _ => rfl⟩
    refine Each.trans (fun p q r first last => ?_) dies credits
    by_cases hit : p.playerId = victim.playerId
    · obtain ⟨lived, rfl⟩ := first.1 hit
      rw [last.2 fun same => other (hit.symm.trans same)]
      refine ⟨rfl, ?_, ?_, ?_, .inr ⟨?_, lived, rfl, congrArg some tallied.clock⟩⟩
      · simp [die, withStats, isKillOf, hit]
      · simp [die, withStats, isTryOf]
      · simp [die, withStats, isHitOf]
      · simp [isFallOf, hit]
    · obtain rfl := first.2 hit
      by_cases tags : q.playerId = taggerId
      · have credited : (credit q).playerId = q.playerId ∧ (credit q).alive = q.alive ∧
            (credit q).stats = { q.stats with tagCount := q.stats.tagCount + 1 } := by
          unfold credit extendFrenzyOnTag
          split <;> exact ⟨rfl, rfl, rfl⟩
        obtain ⟨slot, alive, stats⟩ := credited
        rw [last.1 tags]
        refine ⟨slot, ?_, ?_, ?_, .inl ⟨?_, alive, by rw [stats]⟩⟩
        · simp [stats, isKillOf, tags, other]
        · simp [stats, isTryOf]
        · simp [stats, isHitOf]
        · simp [isFallOf, Ne.symm hit]
      · rw [last.2 tags]
        refine ⟨rfl, ?_, ?_, ?_, .inl ⟨?_, rfl, rfl⟩⟩
        · simp [isKillOf, Ne.symm tags]
        · simp [isTryOf]
        · simp [isHitOf]
        · simp [isFallOf, Ne.symm hit]
  · simp [isTryOf, isHitOf]

theorem Tallied.resolvePairs (distinct : DistinctIds w.players)
    {state : World K × List (WorldEvent K)} (tallied : Tallied w tick state) (taggerId : Nat)
    {pairs : List CollisionPair} (apart : ∀ pair ∈ pairs, pair.a ≠ pair.b) :
    Tallied w tick (pairs.foldl (Simulation.resolvePair taggerId) state) := by
  induction pairs generalizing state with
  | nil => exact tallied
  | cons pair rest ih =>
    exact ih (tallied.resolvePair distinct taggerId (apart pair List.mem_cons_self))
      fun pair later => apart pair (List.mem_cons_of_mem _ later)

theorem afterTags_tallied [CountingNumber K] (distinct : DistinctIds w.players)
    (requests : TickRequests K) : Tallied w (w.tick + 1) (afterTags w requests) := by
  have tallied := beforeTags_tallied distinct requests
  unfold afterTags resolveTagging
  split
  · exact tallied
  · have begun : Each (Posted (w.tick + 1) []) w (beginTick w) :=
      Posted.each_silent (each_map rfl fun p _ => ⟨rfl, rfl, rfl⟩)
    have judged := Posted.each_trans begun (runSkills_posted _ requests.skillRequests)
    have apart := judged.distinct (fun _ _ posted => posted.slot) distinct
    exact tallied.resolvePairs distinct _ fun pair member =>
      moveAll_pairs (afterRequests_distinct apart) requests.inputs member

/-- The role goes to somebody without a Switch. -/
theorem handTo_posted (w : World K) (picked : Nat) (state : BitVec 32) :
    Each (Posted tick [.tagged picked none]) w (w.handTo picked state) := by
  have unposted : Unposted (K := K) [.tagged picked none] := by
    simp [Unposted, isKillOf, isTryOf, isHitOf, isFallOf]
  exact each_map (handTo_players w picked state) fun p _ =>
    .silent unposted (handed_playerId w picked p) (handed_alive w picked p) (handed_stats w picked p)

theorem Tallied.rotate {state : World K × List (WorldEvent K)} (tallied : Tallied w tick state) :
    Tallied w tick (rotateTaggerIfStale state.1 state.2) := by
  obtain ⟨v, events⟩ := state
  rcases rotateTaggerIfStale_eq v events with same | ⟨picked, _, drawn, same⟩
  · rw [same]
    exact tallied
  · rw [same]
    exact ⟨tallied.clock, Posted.each_trans tallied.each (handTo_posted v _ _),
      tallied.once.append (by simp [isTryOf, isHitOf])⟩

theorem stepWorld_tallied [CountingNumber K] (distinct : DistinctIds w.players)
    (requests : TickRequests K) :
    Tallied w (w.tick + 1) ((stepWorld w requests).world, (stepWorld w requests).events) := by
  have tagged := afterTags_tallied distinct requests
  rw [stepWorld_world, stepWorld_events, afterRotation]
  split
  · exact tagged
  · exact tagged.rotate

end SwitchRemake.Simulation

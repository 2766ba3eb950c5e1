import SwitchRemake.Simulation.Turns

/-!
# The books of a match

Every tag is entered twice, once for each of the two players, and every death once.
-/

namespace SwitchRemake.Simulation
open Lib

variable {K : Type} {w v u : World K} {deaths : Nat}

def total (f : PlayerState K → Nat) (w : World K) : Nat := (w.players.map f).sum

def tagCount (p : PlayerState K) : Nat := p.stats.tagCount
def taggedCount (p : PlayerState K) : Nat := p.stats.taggedCount
def fallen (p : PlayerState K) : Nat := if p.alive then 0 else 1

/-- The counters of one player. -/
structure Entry (tick : Nat) (p : PlayerState K) : Prop where
  once : taggedCount p ≤ fallen p
  ends : p.stats.eliminatedAtTick = none ↔ p.alive = true
  past : ∀ end_ ∈ p.stats.eliminatedAtTick, end_ ≤ tick
  switches : p.stats.switchSuccess ≤ p.stats.switchTry

structure Books (deaths : Nat) (w : World K) : Prop where
  distinct : DistinctIds w.players
  entries : ∀ p ∈ w.players, Entry w.tick p
  tags : total tagCount w = total taggedCount w
  buried : total fallen w = deaths

/-- Nobody dies and nobody is tagged. -/
structure Carried (p q : PlayerState K) : Prop where
  slot : q.playerId = p.playerId
  alive : q.alive = p.alive
  tagCount : q.stats.tagCount = p.stats.tagCount
  taggedCount : q.stats.taggedCount = p.stats.taggedCount
  eliminatedAtTick : q.stats.eliminatedAtTick = p.stats.eliminatedAtTick
  switches : p.stats.switchSuccess ≤ p.stats.switchTry → q.stats.switchSuccess ≤ q.stats.switchTry

theorem Carried.of_stats {p q : PlayerState K} (slot : q.playerId = p.playerId)
    (alive : q.alive = p.alive) (stats : q.stats = p.stats) : Carried p q := by
  refine ⟨slot, alive, ?_, ?_, ?_, ?_⟩ <;> rw [stats]
  exact id

theorem Carried.of_spares {id : Nat} {p q : PlayerState K} (spares : Spares id p q) :
    Carried p q := by
  obtain ⟨more, stats⟩ := spares.stats
  refine ⟨spares.slot, spares.alive, ?_, ?_, ?_, fun bound => ?_⟩ <;> rw [stats]
  exact Nat.le_add_right_of_le bound

theorem Books.next (books : Books deaths w) (tick : w.tick ≤ v.tick) (each : Each Carried w v) :
    Books deaths v where
  distinct := each.distinct (fun _ _ carried => carried.slot) books.distinct
  entries q after := by
    obtain ⟨p, before, carried⟩ := each.exists_left after
    obtain ⟨once, ends, past, switches⟩ := books.entries p before
    refine ⟨?_, ?_, ?_, carried.switches switches⟩
    · simpa only [taggedCount, fallen, carried.taggedCount, carried.alive] using once
    · rw [carried.eliminatedAtTick, carried.alive]
      exact ends
    · rw [carried.eliminatedAtTick]
      exact fun end_ shown => (past end_ shown).trans tick
  tags := by
    have first := each.map_eq (f := tagCount) fun _ _ carried => carried.tagCount
    have second := each.map_eq (f := taggedCount) fun _ _ carried => carried.taggedCount
    rw [total, total, first, second]
    exact books.tags
  buried := by
    have same := each.map_eq (f := fallen) fun p q carried => by
      rw [fallen, fallen, carried.alive]
    rw [total, same]
    exact books.buried

/-! ## One entry changes -/

theorem sum_map_update {f : PlayerState K → Nat} {g : PlayerState K → PlayerState K}
    {players : List (PlayerState K)} (distinct : DistinctIds players) {p : PlayerState K}
    (member : p ∈ players) :
    (players.map fun q => f (if q.playerId = p.playerId then g q else q)).sum + f p =
      (players.map f).sum + f (g p) := by
  induction players with
  | nil => exact absurd member List.not_mem_nil
  | cons q rest ih =>
    rw [DistinctIds, List.map_cons, List.nodup_cons] at distinct
    simp only [List.map_cons, List.sum_cons]
    rcases List.mem_cons.mp member with rfl | inside
    · have others : (rest.map fun q => f (if q.playerId = p.playerId then g q else q)) =
          rest.map f := by
        refine List.map_congr_left fun r there => ?_
        have other : r.playerId ≠ p.playerId := fun same =>
          distinct.1 (List.mem_map.mpr ⟨r, there, same⟩)
        rw [if_neg other]
      rw [others, if_pos rfl]
      omega
    · have other : q.playerId ≠ p.playerId :=
        fun same => distinct.1 (List.mem_map.mpr ⟨p, inside, same.symm⟩)
      have later := ih distinct.2 inside
      rw [if_neg other]
      omega

theorem total_update (f : PlayerState K → Nat) (g : PlayerState K → PlayerState K)
    (distinct : DistinctIds w.players) {p : PlayerState K} (member : p ∈ w.players) :
    total f (w.update p.playerId g) + f p = total f w + f (g p) := by
  have sums := sum_map_update (f := f) (g := g) distinct member
  simpa only [total, World.update, List.map_map, Function.comp_def] using sums

theorem total_unchanged {f : PlayerState K → Nat} (id : Nat) {g : PlayerState K → PlayerState K}
    (same : ∀ p, f (g p) = f p) : total f (w.update id g) = total f w := by
  simp only [total, World.update, List.map_map]
  congr 1
  refine List.map_congr_left fun p _ => ?_
  simp only [Function.comp_apply]
  split
  · exact same p
  · rfl

def deathsIn (events : List (WorldEvent K)) : Nat :=
  events.countP fun
    | .eliminated _ _ => true
    | _ => false

theorem deathsIn_harmless {events : List (WorldEvent K)}
    (clean : ∀ victim source, WorldEvent.eliminated victim source ∉ events) : deathsIn events = 0 := by
  refine List.countP_eq_zero.mpr fun event member => ?_
  cases event with
  | eliminated victim source => exact absurd member (clean victim source)
  | _ => simp

/-- A player dies at this tick, tagged `times` times by it. -/
structure Dies (tick times : Nat) (p q : PlayerState K) : Prop where
  slot : q.playerId = p.playerId
  dead : q.alive = false
  stats : q.stats =
    { p.stats with taggedCount := p.stats.taggedCount + times, eliminatedAtTick := some tick }

section Death

variable {p : PlayerState K} {die : PlayerState K → PlayerState K} {times : Nat}

theorem Books.alive_untagged (books : Books deaths w) (member : p ∈ w.players)
    (lived : p.alive = true) : p.stats.taggedCount = 0 ∧ fallen p = 0 := by
  have once := (books.entries p member).once
  simpa [taggedCount, fallen, lived] using once

theorem Books.death_distinct (books : Books deaths w)
    (dies : ∀ q, Dies w.tick times q (die q)) (id : Nat) :
    DistinctIds (w.update id die).players := by
  have each : Each (fun p q => q.playerId = p.playerId) w (w.update id die) :=
    each_update id (fun q _ => (dies q).slot) fun _ _ => rfl
  exact each.distinct (fun _ _ same => same) books.distinct

theorem Books.death_entries (books : Books deaths w) (member : p ∈ w.players)
    (lived : p.alive = true) (few : times ≤ 1) (dies : ∀ q, Dies w.tick times q (die q)) :
    ∀ q ∈ (w.update p.playerId die).players, Entry w.tick q := by
  intro q after
  obtain ⟨r, before, rfl⟩ := List.mem_map.mp after
  split
  · rename_i same
    obtain rfl := List.inj_on_of_nodup_map books.distinct before member same
    obtain ⟨untagged, _⟩ := books.alive_untagged member lived
    have switches := (books.entries r member).switches
    obtain ⟨_, dead, stats⟩ := dies r
    refine ⟨?_, ?_, ?_, ?_⟩
    · simpa [taggedCount, fallen, stats, dead, untagged] using few
    · simp [stats, dead]
    · simp [stats]
    · simpa [stats] using switches
  · exact books.entries r before

theorem Books.death_totals (books : Books deaths w) (member : p ∈ w.players)
    (lived : p.alive = true) (dies : ∀ q, Dies w.tick times q (die q)) :
    total tagCount (w.update p.playerId die) = total tagCount w ∧
      total taggedCount (w.update p.playerId die) = total taggedCount w + times ∧
      total fallen (w.update p.playerId die) = deaths + 1 := by
  have tags := total_unchanged (w := w) p.playerId (f := tagCount) (g := die) fun q => by
    rw [tagCount, (dies q).stats, tagCount]
  have tagged := total_update taggedCount die books.distinct member
  have buried := total_update fallen die books.distinct member
  have dead : fallen (die p) = 1 := by simp [fallen, (dies p).dead]
  have count : taggedCount (die p) = taggedCount p + times := by
    rw [taggedCount, (dies p).stats, taggedCount]
  rw [(books.alive_untagged member lived).2, dead, books.buried] at buried
  rw [count] at tagged
  exact ⟨tags, by omega, buried⟩

/-- A death without a tag. -/
theorem Books.departs (books : Books deaths w) (member : p ∈ w.players) (lived : p.alive = true)
    (dies : ∀ q, Dies w.tick 0 q (die q)) : Books (deaths + 1) (w.update p.playerId die) := by
  obtain ⟨tags, tagged, buried⟩ := books.death_totals member lived dies
  refine ⟨books.death_distinct dies _, books.death_entries member lived (Nat.zero_le 1) dies, ?_,
    buried⟩
  rw [tags, tagged, books.tags]
  rfl

/-- A death by a tag, which is credited to another player. -/
theorem Books.tagged (books : Books deaths w) (member : p ∈ w.players) (lived : p.alive = true)
    (dies : ∀ q, Dies w.tick 1 q (die q)) {tagger : PlayerState K} (there : tagger ∈ w.players)
    (other : tagger.playerId ≠ p.playerId) {credit : PlayerState K → PlayerState K}
    (credits : ∀ q, (credit q).playerId = q.playerId ∧ (credit q).alive = q.alive ∧
      (credit q).stats = { q.stats with tagCount := q.stats.tagCount + 1 }) :
    Books (deaths + 1) ((w.update p.playerId die).update tagger.playerId credit) := by
  obtain ⟨tags, tagged, buried⟩ := books.death_totals member lived dies
  have distinct := books.death_distinct dies p.playerId
  have entries := books.death_entries member lived (Nat.le_refl 1) dies
  have present : tagger ∈ (w.update p.playerId die).players :=
    List.mem_map.mpr ⟨tagger, there, if_neg other⟩
  have counted := total_update tagCount credit distinct present
  have count : tagCount (credit tagger) = tagCount tagger + 1 := by
    rw [tagCount, (credits tagger).2.2, tagCount]
  have sameTagged := total_unchanged (w := w.update p.playerId die) tagger.playerId
    (f := taggedCount) (g := credit) fun q => by rw [taggedCount, (credits q).2.2, taggedCount]
  have sameFallen := total_unchanged (w := w.update p.playerId die) tagger.playerId
    (f := fallen) (g := credit) fun q => by rw [fallen, (credits q).2.1, fallen]
  have each : Each (fun p q => q.playerId = p.playerId ∧ (Entry w.tick p → Entry w.tick q))
      (w.update p.playerId die) ((w.update p.playerId die).update tagger.playerId credit) := by
    refine each_update _ (fun q _ => ⟨(credits q).1, fun entry => ?_⟩) fun q _ => ⟨rfl, id⟩
    obtain ⟨once, ends, past, switches⟩ := entry
    obtain ⟨_, alive, stats⟩ := credits q
    refine ⟨?_, ?_, ?_, ?_⟩
    · simpa [taggedCount, fallen, stats, alive] using once
    · simpa [stats, alive] using ends
    · simpa [stats] using past
    · simpa [stats] using switches
  refine ⟨each.distinct (fun _ _ kept => kept.1) distinct, fun q after => ?_, ?_, ?_⟩
  · obtain ⟨r, before, _, keeps⟩ := each.exists_left after
    exact keeps (entries r before)
  · rw [sameTagged, tagged]
    have balance := books.tags
    omega
  · rw [sameFallen, buried]

end Death

/-! ## The phases of a tick -/

variable [JsNumber K]

theorem beginTick_books (books : Books deaths w) : Books deaths (beginTick w) :=
  books.next (Nat.le_succ w.tick) (each_map rfl fun _ _ => .of_stats rfl rfl rfl)

theorem switchPlayer_carried (w : World K) (caster tagger target : Nat) (p : PlayerState K) :
    Carried p (switchPlayer w caster tagger target p) := by
  unfold switchPlayer
  split
  · exact ⟨rfl, rfl, rfl, rfl, rfl, Nat.succ_le_succ⟩
  split
  · exact Carried.of_stats rfl rfl rfl
  split
  · exact Carried.of_stats rfl rfl rfl
  · exact Carried.of_stats rfl rfl rfl

/-- A request kills nobody. -/
theorem useSkill_books (books : Books deaths w) (request : SkillRequest) :
    Books deaths (useSkill w request).world ∧ deathsIn (useSkill w request).events = 0 := by
  have casts := useSkill_casts books.distinct request
  generalize useSkill w request = result at casts
  cases casts with
  | refused => exact ⟨books, rfl⟩
  | used rewrites harmless =>
    obtain ⟨f, spares, rfl⟩ := rewrites
    have each : Each Carried w { w with players := w.players.map f } :=
      each_map rfl fun p _ => Carried.of_spares (spares p)
    exact ⟨books.next le_rfl each, deathsIn_harmless harmless.1⟩
  | switched hit =>
    exact ⟨books.next le_rfl (each_map rfl fun p _ => switchPlayer_carried w _ _ _ p), rfl⟩

theorem runSkills_books (books : Books deaths w) (requests : List SkillRequest) :
    Books deaths (runSkills w requests).world ∧ deathsIn (runSkills w requests).events = 0 := by
  unfold runSkills
  generalize sortById SkillRequest.playerId requests = ordered
  suffices run : ∀ s : SkillPhase K, Books deaths s.world ∧ deathsIn s.events = 0 →
      Books deaths (ordered.foldl SkillPhase.use s).world ∧
        deathsIn (ordered.foldl SkillPhase.use s).events = 0 from run ⟨w, [], []⟩ ⟨books, rfl⟩
  induction ordered with
  | nil => exact fun s kept => kept
  | cons request rest ih =>
    intro s ⟨balanced, quiet⟩
    obtain ⟨after, harmless⟩ := useSkill_books balanced request
    refine ih (s.use request) ⟨after, ?_⟩
    simp only [SkillPhase.use, deathsIn, List.countP_append] at quiet harmless ⊢
    rw [quiet, harmless]

theorem beforeTags_tick (w : World K) (requests : TickRequests K) :
    (beforeTags w requests).1.tick = w.tick + 1 := by
  obtain ⟨_, _, _, _, moved⟩ := moveAll_frame (afterRequests w requests) requests.inputs
  have skills := (runSkills_advances (beginTick w) requests.skillRequests).tick
  have emojis := (runEmojis_advances (runSkills (beginTick w) requests.skillRequests).world
    requests.emojiRequests).tick
  rw [beforeTags, moved]
  exact emojis.trans skills

theorem beforeTags_books (books : Books deaths w) (requests : TickRequests K) :
    Books deaths (beforeTags w requests).1 ∧
      deathsIn (runSkills (beginTick w) requests.skillRequests).events = 0 := by
  obtain ⟨judged, harmless⟩ := runSkills_books (beginTick_books books) requests.skillRequests
  have tick : (runSkills (beginTick w) requests.skillRequests).world.tick = w.tick + 1 :=
    (runSkills_advances (beginTick w) requests.skillRequests).tick
  refine ⟨judged.next ?_ (.of_map (fun p q same => ?_) (still_beforeTags judged.distinct)), harmless⟩
  · rw [tick, beforeTags_tick]
  · obtain ⟨slot, alive, _, _, _, stats⟩ := still_eq same
    exact .of_stats slot alive stats

/-- The books after the events of a phase. -/
def Balanced (deaths : Nat) (state : World K × List (WorldEvent K)) : Prop :=
  Books (deaths + deathsIn state.2) state.1

theorem resolvePair_balanced {state : World K × List (WorldEvent K)} (balanced : Balanced deaths state)
    {tagger : PlayerState K} (there : tagger ∈ state.1.players) {pair : CollisionPair}
    (apart : pair.a ≠ pair.b) : Balanced deaths (resolvePair tagger.playerId state pair) := by
  unfold resolvePair
  dsimp only
  split
  · exact balanced
  · rename_i victim struck
    obtain ⟨lookup, lived⟩ := Option.filter_eq_some_iff.mp struck
    obtain ⟨id, met, found⟩ := Option.bind_eq_some_iff.mp lookup
    obtain ⟨member, rfl⟩ := find_some found
    have other := (CollisionPair.opponent_ne apart met).symm
    have dies (p : PlayerState K) : Dies state.1.tick 1 p (withStats (fun s =>
        { s with taggedCount := s.taggedCount + 1, eliminatedAtTick := some state.1.tick })
        { p with alive := false }) := ⟨rfl, rfl, rfl⟩
    let credit (p : PlayerState K) : PlayerState K :=
      extendFrenzyOnTag state.1 (withStats (fun s => { s with tagCount := s.tagCount + 1 }) p)
    have credits (p : PlayerState K) : (credit p).playerId = p.playerId ∧
        (credit p).alive = p.alive ∧
        (credit p).stats = { p.stats with tagCount := p.stats.tagCount + 1 } := by
      unfold credit extendFrenzyOnTag
      split <;> exact ⟨rfl, rfl, rfl⟩
    have died := balanced.tagged member lived dies there other credits
    have count : deathsIn (state.2 ++ [.eliminated victim.playerId (some tagger.playerId)]) =
        deathsIn state.2 + 1 := by
      simp only [deathsIn, List.countP_append]
      rfl
    rw [Balanced, count, ← Nat.add_assoc]
    exact died.next le_rfl (.refl (fun p => .of_stats rfl rfl rfl) _)

theorem resolvePairs_balanced {state : World K × List (WorldEvent K)}
    (balanced : Balanced deaths state) {tagger : PlayerState K} (there : tagger ∈ state.1.players)
    {pairs : List CollisionPair} (apart : ∀ pair ∈ pairs, pair.a ≠ pair.b) :
    Balanced deaths (pairs.foldl (resolvePair tagger.playerId) state) := by
  induction pairs generalizing state tagger with
  | nil => exact balanced
  | cons pair rest ih =>
    have first := resolvePair_balanced balanced there (apart pair List.mem_cons_self)
    obtain ⟨again, member, same, _⟩ :=
      (resolvePair_unturned tagger.playerId state.1 state.2 pair).exists_right there
    rw [List.foldl_cons, ← same]
    rw [← same] at first
    exact ih first (same ▸ member) fun pair later => apart pair (List.mem_cons_of_mem _ later)

theorem afterTags_balanced (books : Books deaths w) (requests : TickRequests K) :
    Balanced deaths (afterTags w requests) := by
  obtain ⟨moved, harmless⟩ := beforeTags_books books requests
  have start : Balanced deaths ((beforeTags w requests).1,
      (runSkills (beginTick w) requests.skillRequests).events) := by
    rw [Balanced, harmless]
    exact moved
  unfold afterTags resolveTagging
  split
  · exact start
  · rename_i tagger holds
    have judged := (runSkills_books (beginTick_books books) requests.skillRequests).1
    refine resolvePairs_balanced start (livingTagger_some holds).1 fun pair member => ?_
    exact moveAll_pairs (afterRequests_distinct judged.distinct) requests.inputs member

theorem handTo_books (books : Books deaths w) (picked : Nat) (state : BitVec 32) :
    Books deaths (w.handTo picked state) :=
  books.next le_rfl (each_map (handTo_players w picked state) fun p _ =>
    .of_stats (handed_playerId w picked p) (handed_alive w picked p) (handed_stats w picked p))

theorem rotateTaggerIfStale_balanced {state : World K × List (WorldEvent K)}
    (balanced : Balanced deaths state) : Balanced deaths (rotateTaggerIfStale state.1 state.2) := by
  obtain ⟨w, events⟩ := state
  rcases rotateTaggerIfStale_eq w events with same | ⟨picked, _, state, same⟩
  · rw [same]
    exact balanced
  · rw [same]
    have count : deathsIn (events ++ [.tagged picked.playerId none]) = deathsIn events := by
      simp only [deathsIn, List.countP_append]
      rfl
    rw [Balanced, count]
    exact handTo_books balanced _ _

theorem stepWorld_books (books : Books deaths w) (requests : TickRequests K) :
    Books (deaths + deathsIn (stepWorld w requests).events) (stepWorld w requests).world := by
  have tagged := afterTags_balanced books requests
  rw [stepWorld_world, stepWorld_events, afterRotation]
  split
  · exact tagged
  · exact rotateTaggerIfStale_balanced tagged

end SwitchRemake.Simulation

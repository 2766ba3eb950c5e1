import SwitchRemake.Game.SessionLaws
import SwitchRemake.Game.SingleTagger
import SwitchRemake.Simulation.Turns

/-!
# What a change of tagger does to cooldowns

A run of a match cut into moments: one for each request, one for the forced rotation, one for each
departure, and the stretches of a tick in which nobody changes role.
-/

namespace SwitchRemake.Game
open Lib Simulation GameSession

variable {K : Type} [JsNumber K] {w v u : World K} {s : GameSession K} {t : Token Nat}

inductive Cause (K : Type) where
  | upkeep
  | request (request : SkillRequest)
  | rotation
  | departure (session : GameSession K) (playerId : Nat)

structure Moment (K : Type) where
  cause : Cause K
  before : World K
  after : World K

def skillMoment (turn : World K × SkillRequest) : Moment K :=
  ⟨.request turn.2, turn.1, (useSkill turn.1 turn.2).world⟩

def requestMoments (w : World K) (requests : List SkillRequest) : List (Moment K) :=
  (skillTurns w (sortById SkillRequest.playerId requests)).map skillMoment

def rotationMoments (w : World K) (requests : TickRequests K) : List (Moment K) :=
  if isFinished (afterTags w requests).1 then []
  else [⟨.rotation, (afterTags w requests).1, (stepWorld w requests).world⟩]

def tickMoments (w : World K) (requests : TickRequests K) : List (Moment K) :=
  ⟨.upkeep, w, beginTick w⟩ ::
    (requestMoments (beginTick w) requests.skillRequests ++
      ⟨.upkeep, (runSkills (beginTick w) requests.skillRequests).world, (beforeTags w requests).1⟩ ::
      ⟨.upkeep, (beforeTags w requests).1, (afterTags w requests).1⟩ :: rotationMoments w requests)

def MatchOp.moments (s : GameSession K) : MatchOp K → List (Moment K)
  | .stepWorld requests => tickMoments s.world requests
  | .step inputs => if s.finished then [] else tickMoments s.world (s.requests inputs noTraining)
  | .eliminateDisconnected playerId =>
    if s.finished ∨ (s.world.find playerId).filter PlayerState.alive = none then []
    else [⟨.departure s playerId, s.world, (s.afterDeparture playerId).1.world⟩]

def runMoments (s : GameSession K) : List (MatchOp K) → List (Moment K)
  | [] => []
  | op :: rest => op.moments s ++ runMoments (op.apply s) rest

/-- Each moment begins where the one before it ended. -/
def Linked : World K → List (Moment K) → World K → Prop
  | w, [], v => w = v
  | w, m :: rest, v => m.before = w ∧ Linked m.after rest v

omit [JsNumber K] in
theorem Linked.append {first second : List (Moment K)} (left : Linked w first v)
    (right : Linked v second u) : Linked w (first ++ second) u := by
  induction first generalizing w with
  | nil => exact left ▸ right
  | cons m rest ih => exact ⟨left.1, ih left.2⟩

omit [JsNumber K] in
theorem Linked.split {first second : List (Moment K)} (linked : Linked w (first ++ second) u) :
    ∃ middle, Linked w first middle ∧ Linked middle second u := by
  induction first generalizing w with
  | nil => exact ⟨w, rfl, linked⟩
  | cons m rest ih =>
    obtain ⟨middle, left, right⟩ := ih linked.2
    exact ⟨middle, ⟨linked.1, left⟩, right⟩

/-! ## Who becomes the tagger -/

/-- The runner the generator picks. -/
def Draws (w : World K) (next : Nat) : Prop :=
  ∃ picked, (rotationCandidates w)[(w.nextRandomInt (rotationCandidates w).length).1]? = some picked ∧
    picked.playerId = next

def RotationDue (w : World K) : Prop :=
  ¬ (w.tick : Int) - w.taggerChangedAtTick < rotationCooldownTicks K w.simulationHz

/-- The match goes on without a living tagger once `playerId` is gone. -/
def Orphaned (s : GameSession K) (playerId : Nat) : Prop :=
  s.mode = RoomMode.match ∧
    ({ s with world := disconnectPlayer s.world playerId } : GameSession K).matchHasEnded = false ∧
    livingTagger (disconnectPlayer s.world playerId) = none

/-- In the world before the moment everything is there that makes `next` the tagger. -/
def Moment.Passes (m : Moment K) (next : Nat) : Prop :=
  match m.cause with
  | .upkeep => False
  | .request request => ∃ caster tagger target,
      Switches m.before request caster tagger target ∧ target.playerId = next
  | .rotation => RotationDue m.before ∧ Draws m.before next
  | .departure s playerId => Orphaned s playerId ∧ Draws (disconnectPlayer s.world playerId) next

def Cold (p : PlayerState K) : Prop := ∀ skill, p.cooldowns skill = none

/-- Whoever is about to change role has no cooldown left. -/
def Moment.Rested (m : Moment K) : Prop :=
  ∀ next, m.Passes next → ∀ p ∈ m.before.players, p.isTagger ≠ decide (p.playerId = next) → Cold p

def Moment.Turns (m : Moment K) (p q : PlayerState K) : Prop :=
  p ∈ m.before.players ∧ q ∈ m.after.players ∧ q.playerId = p.playerId ∧ q.isTagger ≠ p.isTagger

def Moment.Asks (m : Moment K) (id : Nat) : Prop :=
  ∃ request, m.cause = .request request ∧ request.playerId = id

structure RoleReset (moments : List (Moment K)) : Prop where
  emptied : ∀ m ∈ moments, ∀ p q, m.Turns p q → Cold q
  answered : ∀ earlier m between n later, moments = earlier ++ m :: (between ++ n :: later) →
    ∀ p q, m.Turns p q → (∀ k ∈ between, ¬ k.Asks p.playerId) →
    ∀ request, n.cause = .request request → request.playerId = p.playerId →
      (useSkill n.before request).outcome ≠ .error .onCooldown

/-! ## The law of a moment -/

/-- Cooldowns start with a request of the player's own. -/
def Moment.Keeps (m : Moment K) (p q : PlayerState K) : Prop :=
  q.playerId = p.playerId ∧ (¬ m.Asks p.playerId → Cold p → Cold q)

/-- A change of role leaves exactly one flag up, and cooldowns alone. -/
def Hands (next : Nat) (p q : PlayerState K) : Prop :=
  q.playerId = p.playerId ∧ q.isTagger = decide (p.playerId = next) ∧
    (q.isTagger ≠ p.isTagger → q.cooldowns = p.cooldowns)

structure Moment.Lawful (m : Moment K) : Prop where
  distinct : DistinctIds m.before.players
  keeps : Each m.Keeps m.before m.after
  roles : ((∀ next, ¬ m.Passes next) ∧
      Each (fun p q => q.playerId = p.playerId ∧ q.isTagger = p.isTagger) m.before m.after) ∨
    ∃ next, m.Passes next ∧ (∀ other, m.Passes other → other = next) ∧
      Each (Hands next) m.before m.after

theorem Moment.Lawful.emptied_iff {m : Moment K} (law : m.Lawful) :
    (∀ p q, m.Turns p q → Cold q) ↔ m.Rested := by
  rcases law.roles with ⟨nobody, same⟩ | ⟨next, passes, only, hands⟩
  · refine ⟨fun _ next passes => absurd passes (nobody next), fun _ p q turns => ?_⟩
    obtain ⟨before, after, slot, changed⟩ := turns
    have related := same.at_slot (fun _ _ related => related.1) law.distinct before after slot
    exact absurd related.2 changed
  · constructor
    · intro emptied other passes p before differs
      rw [only other passes] at differs
      obtain ⟨q, after, slot, flag, cooldowns⟩ := hands.exists_right before
      have changed : q.isTagger ≠ p.isTagger := by
        rw [flag]
        exact differs.symm
      have cold := emptied p q ⟨before, after, slot, changed⟩
      intro skill
      rw [← cooldowns changed]
      exact cold skill
    · intro rested p q turns
      obtain ⟨before, after, slot, changed⟩ := turns
      obtain ⟨_, flag, cooldowns⟩ :=
        hands.at_slot (fun _ _ related => related.1) law.distinct before after slot
      have cold := rested next passes p before (by rw [← flag]; exact changed.symm)
      intro skill
      rw [cooldowns changed]
      exact cold skill

theorem Moment.Lawful.after_unique {m : Moment K} (law : m.Lawful) {q r : PlayerState K}
    (first : q ∈ m.after.players) (second : r ∈ m.after.players) (same : q.playerId = r.playerId) :
    q = r := by
  have distinct := law.keeps.distinct (fun _ _ related => related.1) law.distinct
  exact List.inj_on_of_nodup_map distinct first second same

/-! ## Each kind of moment -/

theorem upkeep_lawful (distinct : DistinctIds w.players)
    (each : Each (fun p q => q.playerId = p.playerId ∧ q.isTagger = p.isTagger ∧
      (Cold p → Cold q)) w v) : Moment.Lawful ⟨.upkeep, w, v⟩ where
  distinct := distinct
  keeps := each.imp fun _ _ related => ⟨related.1, fun _ => related.2.2⟩
  roles := .inl ⟨fun _ passes => passes, each.imp fun _ _ related => ⟨related.1, related.2.1⟩⟩

theorem beginTick_lawful (tracks : Tracks t w) : Moment.Lawful ⟨.upkeep, w, beginTick w⟩ := by
  refine upkeep_lawful tracks.distinct (each_map rfl fun p _ => ⟨rfl, rfl, fun cold skill => ?_⟩)
  simp only [tickCooldowns, expireEffects, cold skill, Option.map_none, Option.filter_none]

theorem moving_lawful {requests : TickRequests K}
    (distinct : DistinctIds (runSkills (beginTick w) requests.skillRequests).world.players) :
    Moment.Lawful ⟨.upkeep, (runSkills (beginTick w) requests.skillRequests).world,
      (beforeTags w requests).1⟩ := by
  refine upkeep_lawful distinct (Each.of_map ?_ (still_beforeTags distinct))
  intro p q equal
  obtain ⟨slot, _, flag, cooldowns, _⟩ := still_eq equal
  exact ⟨slot, flag, fun cold skill => cooldowns ▸ cold skill⟩

theorem request_lawful (tracks : Tracks t w) (request : SkillRequest) :
    Moment.Lawful (skillMoment (w, request)) := by
  have casts := useSkill_casts tracks.distinct request
  have foreign (p : PlayerState K) (silent : ¬ (skillMoment (w, request)).Asks p.playerId) :
      p.playerId ≠ request.playerId := fun own => silent ⟨request, rfl, own.symm⟩
  have nobody (missed : (useSkill w request).outcome ≠ .ok .switch) (next : Nat) :
      ¬ (skillMoment (w, request)).Passes next := by
    rintro ⟨caster, tagger, target, hit, _⟩
    exact missed hit.outcome
  unfold skillMoment at foreign nobody ⊢
  generalize useSkill w request = result at casts foreign nobody
  cases casts with
  | refused reason _ =>
    exact ⟨tracks.distinct, Each.refl (fun _ => ⟨rfl, fun _ cold => cold⟩) w,
      .inl ⟨nobody (by simp), Each.refl (fun _ => ⟨rfl, rfl⟩) w⟩⟩
  | used rewrites _ _ missed =>
    obtain ⟨f, spares, rfl⟩ := rewrites
    refine ⟨tracks.distinct, each_map rfl fun p _ => ?_, .inl ⟨nobody missed, each_map rfl fun p _ => ?_⟩⟩
    · refine ⟨(spares p).slot, fun silent cold skill => ?_⟩
      rw [(spares p).cooldowns (foreign p silent)]
      exact cold skill
    · exact ⟨(spares p).slot, (spares p).isTagger⟩
  | @switched caster tagger target area hit =>
    obtain ⟨_, slot⟩ := find_some hit.found
    refine ⟨tracks.distinct, each_map rfl fun p _ => ?_, .inr ⟨target.playerId, ?_, ?_, ?_⟩⟩
    · refine ⟨switchPlayer_playerId .., fun silent cold skill => ?_⟩
      have other : p.playerId ≠ caster.playerId := slot ▸ foreign p silent
      rw [switchPlayer_cooldowns w other]
      exact cold skill
    · exact ⟨caster, tagger, target, hit, rfl⟩
    · rintro other ⟨c, g, named, again, rfl⟩
      have same := again.looked.symm.trans hit.looked
      exact congrArg PlayerState.playerId (Option.some.inj same)
    · obtain ⟨heldApart, namedApart, others⟩ := hit.apart tracks.distinct
      have carries (p : PlayerState K) (member : p ∈ w.players) :
          p.isTagger = decide (p.playerId = tagger.playerId) := by
        rw [Bool.eq_iff_iff, tracks.shows.holds_iff p member, ← tracks.livingTagger hit.holds]
        simp
      refine each_map rfl fun p member => ⟨switchPlayer_playerId .., ?_, fun changed => ?_⟩
      · rw [switchPlayer_isTagger, carries p member]
        by_cases cast : p.playerId = caster.playerId
        · simp [cast, heldApart.symm, namedApart.symm]
        · by_cases held : p.playerId = tagger.playerId
          · simp [held, heldApart, others.symm]
          · simp [cast, held]
      · refine switchPlayer_cooldowns w fun cast => changed ?_
        rw [switchPlayer_isTagger, if_pos cast]

/-- Every flag is written anew. -/
def Flagged (next : Nat) (p q : PlayerState K) : Prop :=
  q.playerId = p.playerId ∧ q.isTagger = decide (p.playerId = next) ∧ q.cooldowns = p.cooldowns

omit [JsNumber K] in
theorem flagOnly_flagged (next : Nat) (players : List (PlayerState K)) (before : w.players = players)
    (after : v.players = players.map fun p => { p with isTagger := p.playerId = next }) :
    Each (Flagged next) w v := by
  rw [← before] at after
  exact each_map after fun p _ => ⟨rfl, rfl, rfl⟩

omit [JsNumber K] in
theorem Flagged.each_unturned {next : Nat} (first : Each (Flagged next) w v)
    (second : Each Unturned v u) : Each (Flagged next) w u := by
  refine Each.trans (R := Flagged next) (S := Unturned) (fun p q r left right => ?_) first second
  exact ⟨right.1.trans left.1, right.2.1.trans left.2.1, right.2.2.trans left.2.2⟩

omit [JsNumber K] in
theorem Unturned.each_flagged {next : Nat} (first : Each Unturned w v)
    (second : Each (Flagged next) v u) : Each (Flagged next) w u := by
  refine Each.trans (R := Unturned) (S := Flagged next) (fun p q r left right => ?_) first second
  refine ⟨right.1.trans left.1, ?_, right.2.2.trans left.2.2⟩
  rw [right.2.1, left.1]

theorem granted_unturned (w x : World K) (id : Nat) :
    Each Unturned w (w.update id (grantTaggerFrenzy x)) :=
  each_update id (fun _ _ => ⟨rfl, rfl, rfl⟩) fun _ _ => ⟨rfl, rfl, rfl⟩

omit [JsNumber K] in
theorem Draws.unique {next other : Nat} (drawn : Draws w next) (again : Draws w other) :
    other = next := by
  obtain ⟨picked, found, rfl⟩ := drawn
  obtain ⟨_, same, rfl⟩ := again
  exact congrArg PlayerState.playerId (Option.some.inj (same.symm.trans found))

theorem flagged_lawful {m : Moment K} {next : Nat} (distinct : DistinctIds m.before.players)
    (passes : m.Passes next) (only : ∀ other, m.Passes other → other = next)
    (flagged : Each (Flagged next) m.before m.after) : m.Lawful where
  distinct := distinct
  keeps := flagged.imp fun _ _ related =>
    ⟨related.1, fun _ cold skill => (congrFun related.2.2 skill).trans (cold skill)⟩
  roles := .inr ⟨next, passes, only,
    flagged.imp fun _ _ related => ⟨related.1, related.2.1, fun _ => related.2.2⟩⟩

theorem unturned_lawful {m : Moment K} (distinct : DistinctIds m.before.players)
    (nobody : ∀ next, ¬ m.Passes next) (same : Each Unturned m.before m.after) : m.Lawful where
  distinct := distinct
  keeps := same.imp fun _ _ related =>
    ⟨related.1, fun _ cold skill => (congrFun related.2.2 skill).trans (cold skill)⟩
  roles := .inl ⟨nobody, same.imp fun _ _ related => ⟨related.1, related.2.1⟩⟩

theorem rotateTaggerIfStale_cases (w : World K) (events : List (WorldEvent K)) :
    ((∀ next, ¬ (RotationDue w ∧ Draws w next)) ∧ (rotateTaggerIfStale w events).1 = w) ∨
    ∃ next, (RotationDue w ∧ Draws w next) ∧
      Each (Flagged next) w (rotateTaggerIfStale w events).1 := by
  unfold rotateTaggerIfStale
  split
  · rename_i early
    exact .inl ⟨fun _ passes => passes.1 early, rfl⟩
  · rename_i due
    obtain ⟨state, drawn⟩ := nextRandomInt_world w (rotationCandidates w).length
    dsimp only
    rw [drawn]
    cases found : (rotationCandidates w)[(w.nextRandomInt (rotationCandidates w).length).1]? with
    | none =>
      refine .inl ⟨fun next passes => ?_, rfl⟩
      obtain ⟨picked, some, _⟩ := passes.2
      rw [found] at some
      exact absurd some (by simp)
    | some picked =>
      refine .inr ⟨picked.playerId, ⟨due, picked, found, rfl⟩, ?_⟩
      let flagged : World K :=
        { w with
          players := w.players.map fun p => { p with isTagger := p.playerId = picked.playerId }
          taggerChangedAtTick := w.tick
          randomState := state }
      have raised : Each (Flagged picked.playerId) w flagged := flagOnly_flagged _ _ rfl rfl
      exact Flagged.each_unturned raised (granted_unturned flagged w _)

theorem afterDeparture_cases (s : GameSession K) (playerId : Nat) :
    ((∀ next, ¬ (Orphaned s playerId ∧ Draws (disconnectPlayer s.world playerId) next)) ∧
      Each Unturned s.world (s.afterDeparture playerId).1.world) ∨
    ∃ next, (Orphaned s playerId ∧ Draws (disconnectPlayer s.world playerId) next) ∧
      Each (Flagged next) s.world (s.afterDeparture playerId).1.world := by
  have left : Each Unturned s.world (disconnectPlayer s.world playerId) :=
    each_update _ (fun _ _ => ⟨rfl, rfl, rfl⟩) fun _ _ => ⟨rfl, rfl, rfl⟩
  unfold afterDeparture
  dsimp only
  split
  · have orphaned : Orphaned s playerId := ‹_›
    generalize disconnectPlayer s.world playerId = gone at left
    obtain ⟨state, drawn⟩ := nextRandomInt_world gone (rotationCandidates gone).length
    unfold replaceTagger
    dsimp only
    rw [drawn]
    cases found :
        (rotationCandidates gone)[(gone.nextRandomInt (rotationCandidates gone).length).1]? with
    | none =>
      refine .inl ⟨fun next passes => ?_, left⟩
      obtain ⟨picked, some, _⟩ := passes.2
      rw [found] at some
      exact absurd some (by simp)
    | some picked =>
      refine .inr ⟨picked.playerId, ⟨orphaned, picked, found, rfl⟩, ?_⟩
      let flagged : World K :=
        { gone with
          players := gone.players.map fun p => { p with isTagger := p.playerId = picked.playerId }
          taggerChangedAtTick := gone.tick
          randomState := state }
      have raised : Each (Flagged picked.playerId) gone flagged := flagOnly_flagged _ _ rfl rfl
      exact Unturned.each_flagged left
        (Flagged.each_unturned raised (granted_unturned flagged gone _))
  · rename_i manned
    exact .inl ⟨fun _ passes => manned passes.1, left⟩

theorem tagging_lawful (tracks : Tracks t w) (pairs : List CollisionPair)
    (events : List (WorldEvent K)) :
    Moment.Lawful ⟨.upkeep, w, (resolveTagging w pairs events).1⟩ :=
  unturned_lawful tracks.distinct (fun _ passes => passes) (resolveTagging_unturned w pairs events)

theorem rotation_lawful (tracks : Tracks t w) (events : List (WorldEvent K)) :
    Moment.Lawful ⟨.rotation, w, (rotateTaggerIfStale w events).1⟩ := by
  rcases rotateTaggerIfStale_cases w events with ⟨nobody, same⟩ | ⟨next, passes, flagged⟩
  · refine unturned_lawful tracks.distinct nobody ?_
    rw [same]
    exact Unturned.each_refl w
  · exact flagged_lawful tracks.distinct passes (fun _ other => passes.2.unique other.2) flagged

theorem departure_lawful (tracks : Tracks t s.world) (playerId : Nat) :
    Moment.Lawful ⟨.departure s playerId, s.world, (s.afterDeparture playerId).1.world⟩ := by
  rcases afterDeparture_cases s playerId with ⟨nobody, same⟩ | ⟨next, passes, flagged⟩
  · exact unturned_lawful tracks.distinct nobody same
  · exact flagged_lawful tracks.distinct passes (fun _ other => passes.2.unique other.2) flagged

/-! ## The moments of a run -/

theorem requestMoments_lawful (tracks : Tracks t w) (requests : List SkillRequest) :
    ∀ m ∈ requestMoments w requests, m.Lawful := by
  have tracked := (afterSkills_induction (I := fun v => ∃ u, Tracks u v) ⟨t, tracks⟩
    (fun v request ⟨u, shown⟩ => by
      obtain ⟨next, _, _, later⟩ := (useSkill_advances v request).tracks u shown
      exact ⟨next, later⟩) (sortById SkillRequest.playerId requests)).2
  intro m member
  obtain ⟨turn, inside, rfl⟩ := List.mem_map.mp member
  obtain ⟨u, shown⟩ := tracked turn inside
  exact request_lawful shown turn.2

theorem skillTurns_linked (w : World K) (requests : List SkillRequest) :
    Linked w ((skillTurns w requests).map skillMoment) (afterSkills w requests) := by
  induction requests generalizing w with
  | nil => rfl
  | cons request rest ih => exact ⟨rfl, ih _⟩

theorem tickMoments_lawful (tracks : Tracks t w) (requests : TickRequests K) :
    ∀ m ∈ tickMoments w requests, m.Lawful := by
  have begun : Tracks t (beginTick w) :=
    tracks.of_sameRoles (beginTick_sameRoles w) (Nat.le_succ_of_le tracks.clock)
  obtain ⟨_, _, _, judged⟩ := (runSkills_advances _ requests.skillRequests).tracks t begun
  obtain ⟨_, _, _, moved, _⟩ := beforeTags_tracks tracks requests
  intro m member
  simp only [tickMoments, List.mem_cons, List.mem_append] at member
  rcases member with rfl | asked | rfl | rfl | turned
  · exact beginTick_lawful tracks
  · exact requestMoments_lawful begun _ m asked
  · exact moving_lawful judged.distinct
  · exact tagging_lawful moved _ _
  · obtain ⟨_, _, tagged, _⟩ := resolveTagging_tracks (beforeTags_apart tracks requests)
      (runSkills (beginTick w) requests.skillRequests).events moved
    unfold rotationMoments at turned
    split at turned
    · exact absurd turned List.not_mem_nil
    · rename_i goesOn
      rw [List.mem_singleton] at turned
      rw [turned, stepWorld_world, afterRotation, if_neg goesOn]
      exact rotation_lawful tagged _

theorem tickMoments_linked (w : World K) (requests : TickRequests K) :
    Linked w (tickMoments w requests) (stepWorld w requests).world := by
  refine ⟨rfl, Linked.append (skillTurns_linked _ _) ⟨runSkills_world _ _, rfl, ?_⟩⟩
  unfold rotationMoments
  split
  · rename_i isOver
    rw [stepWorld_world, afterRotation, if_pos isOver]
    exact rfl
  · exact ⟨rfl, rfl⟩

theorem MatchOp.moments_lawful (inv : TaggerInvariant s) (op : MatchOp K) :
    ∀ m ∈ op.moments s, m.Lawful := by
  obtain ⟨t, tracks, _⟩ := inv.token
  cases op with
  | stepWorld requests => exact tickMoments_lawful tracks requests
  | step inputs =>
    simp only [MatchOp.moments]
    split
    · exact fun m member => absurd member List.not_mem_nil
    · exact tickMoments_lawful tracks _
  | eliminateDisconnected playerId =>
    simp only [MatchOp.moments]
    split
    · exact fun m member => absurd member List.not_mem_nil
    · intro m member
      rw [List.mem_singleton.mp member]
      exact departure_lawful tracks playerId

theorem MatchOp.moments_linked (s : GameSession K) (op : MatchOp K) :
    Linked s.world (op.moments s) (op.apply s).world := by
  cases op with
  | stepWorld requests => exact tickMoments_linked s.world requests
  | step inputs =>
    simp only [MatchOp.moments, MatchOp.apply]
    split
    · rename_i isOver
      rw [step_idle isOver]
      exact rfl
    · rename_i running
      rw [(step_world s inputs (Bool.eq_false_iff.mpr running)).1]
      exact tickMoments_linked s.world _
  | eliminateDisconnected playerId =>
    have law := eliminateDisconnected_departs s playerId
    simp only [MatchOp.moments, MatchOp.apply]
    generalize s.eliminateDisconnected playerId = elimination at law
    have stays (on : s.finished = false)
        (lived : ((s.world.find playerId).filter PlayerState.alive).isSome = true) :
        ¬ (s.finished = true ∨ (s.world.find playerId).filter PlayerState.alive = none) :=
      not_or.mpr ⟨by simp [on], Option.isSome_iff_ne_none.mp lived⟩
    cases law with
    | ignored idle =>
      rw [if_pos idle]
      exact rfl
    | left _ _ on lived departed _ _ =>
      rw [if_neg (stays on lived)]
      exact ⟨rfl, departed⟩
    | ended _ _ _ on lived departed _ _ =>
      rw [if_neg (stays on lived)]
      exact ⟨rfl, departed⟩

theorem runMoments_lawful (inv : TaggerInvariant s) (ops : List (MatchOp K)) :
    ∀ m ∈ runMoments s ops, m.Lawful := by
  induction ops generalizing s with
  | nil => exact fun m member => absurd member List.not_mem_nil
  | cons op rest ih =>
    intro m member
    rcases List.mem_append.mp member with now | later
    · exact MatchOp.moments_lawful inv op m now
    · exact ih (MatchOp.apply_invariant inv op) m later

theorem runMoments_linked (s : GameSession K) (ops : List (MatchOp K)) :
    Linked s.world (runMoments s ops) (runMatch s ops).world := by
  induction ops generalizing s with
  | nil => rfl
  | cons op rest ih => exact (MatchOp.moments_linked s op).append (ih (op.apply s))

/-! ## The first request in the new role -/

def ColdAt (id : Nat) (w : World K) : Prop := ∀ p ∈ w.players, p.playerId = id → Cold p

/-- Until the player asks for something itself, nothing starts a cooldown. -/
theorem coldAt_linked {id : Nat} {moments : List (Moment K)} (linked : Linked w moments v)
    (lawful : ∀ m ∈ moments, m.Lawful) (silent : ∀ m ∈ moments, ¬ m.Asks id)
    (cold : ColdAt id w) : ColdAt id v := by
  induction moments generalizing w with
  | nil => exact linked ▸ cold
  | cons m rest ih =>
    obtain ⟨rfl, linked⟩ := linked
    refine ih linked (fun k member => lawful k (List.mem_cons_of_mem m member))
      (fun k member => silent k (List.mem_cons_of_mem m member)) fun q after same => ?_
    obtain ⟨p, before, slot, keeps⟩ := (lawful m List.mem_cons_self).keeps.exists_left after
    have origin : p.playerId = id := slot.symm.trans same
    refine keeps ?_ (cold p before origin)
    rw [origin]
    exact silent m List.mem_cons_self

/-- Zero is at most zero in every arithmetic worth the name. -/
theorem coldAt_answers (zero : (0 : K) ≤ 0) (distinct : DistinctIds w.players)
    {request : SkillRequest} (cold : ColdAt request.playerId w) :
    (useSkill w request).outcome ≠ .error .onCooldown := by
  have casts := useSkill_casts distinct request
  generalize useSkill w request = result at casts
  cases casts with
  | refused reason cooling =>
    intro refusal
    obtain ⟨caster, skill, found, waiting⟩ := cooling (by simpa using refusal)
    obtain ⟨member, slot⟩ := find_some found
    simp [isReady, cold caster member slot skill, zero] at waiting
  | used _ _ judged _ => exact judged
  | switched _ => simp

theorem cooldowns_reset (zero : (0 : K) ≤ 0) (opening : Opening s) (ops : List (MatchOp K)) :
    RoleReset (runMoments s ops) ↔ ∀ m ∈ runMoments s ops, m.Rested := by
  have lawful := runMoments_lawful opening.invariant ops
  have linked := runMoments_linked s ops
  constructor
  · exact fun reset m member => (lawful m member).emptied_iff.mp (reset.emptied m member)
  · intro rested
    have emptied (m : Moment K) (member : m ∈ runMoments s ops) :
        ∀ p q, m.Turns p q → Cold q :=
      (lawful m member).emptied_iff.mpr (rested m member)
    refine ⟨emptied, fun earlier m between n later split p q turns silent request asked own => ?_⟩
    rw [split] at lawful linked emptied
    obtain ⟨_, _, _, linked⟩ := linked.split
    obtain ⟨_, waiting, ends, _⟩ := linked.split
    subst ends
    have law := lawful m (by simp)
    have cold : ColdAt p.playerId m.after := by
      intro r after same
      rw [law.after_unique after turns.2.1 (same.trans turns.2.2.1.symm)]
      exact emptied m (by simp) p q turns
    refine coldAt_answers zero (lawful n (by simp)).distinct ?_
    rw [own]
    exact coldAt_linked waiting (fun k member => lawful k (by simp [member])) silent cold

/-- Four players on an empty map, the second within reach of the tagger. -/
def fourPlayers : GameSession ℚ :=
  let player (id : Nat) (x y : ℚ) (isTagger : Bool) : PlayerState ℚ :=
    { playerId := id, x, y, vx := 0, vy := 0, facingX := 0, facingY := 1
      radius := Gameplay.playerRadiusPx, sightRange := Gameplay.sightRangePx, colorIndex := id - 1
      alive := true, isTagger, connected := true, effects := fun _ => none
      cooldowns := fun _ => none, loadout := .dash, emoji := none, stats := emptyStats }
  let players :=
    [player 1 128 128 true, player 2 384 128 false, player 3 128 896 false, player 4 896 896 false]
  { threePlayers with world := { threePlayers.world with players } }

theorem fourPlayers_opening : Opening fourPlayers where
  competing := rfl
  distinct := by decide +kernel
  populated := by decide +kernel
  tagger := by decide +kernel
  clock := le_rfl

theorem cooldowns_reset_taggerLeaves :
    RoleReset (runMoments fourPlayers [.eliminateDisconnected 1]) := by
  have cold : ∀ m ∈ runMoments fourPlayers [.eliminateDisconnected 1],
      ∀ p ∈ m.before.players, ∀ skill, p.cooldowns skill = none := by decide +kernel
  exact (cooldowns_reset le_rfl fourPlayers_opening _).mpr fun m member _ _ p inside _ =>
    cold m member p inside

/-- The tagger dashes; a tick later a runner passes its role on. -/
def dashThenSwitch : List (MatchOp ℚ) :=
  [.stepWorld ⟨[], [⟨1, slotMovement, none⟩], []⟩, .stepWorld ⟨[], [⟨2, slotSwitch, some 3⟩], []⟩]

theorem cooldowns_kept : ¬ RoleReset (runMoments fourPlayers dashThenSwitch) := by
  have kept : ∃ m ∈ runMoments fourPlayers dashThenSwitch, ∃ p ∈ m.before.players,
      ∃ q ∈ m.after.players, q.playerId = p.playerId ∧ q.isTagger ≠ p.isTagger ∧
        q.cooldowns .dash ≠ none := by decide +kernel
  obtain ⟨m, member, p, before, q, after, slot, changed, left⟩ := kept
  exact fun reset => left (reset.emptied m member p q ⟨before, after, slot, changed⟩ .dash)

end SwitchRemake.Game

import SwitchRemake.Simulation.Turns

/-!
# The role told from the events

Every change of role inside a tick is pushed as an event, so the events of a tick say who is the
tagger after each of them.
-/

namespace SwitchRemake.Simulation
open Lib

variable {K : Type} {w v : World K} {h : Nat}

/-- The flag is up at `h` and nowhere else, if there is such a player. -/
def HeldBy (h : Nat) (w : World K) : Prop :=
  DistinctIds w.players ∧ ∀ p ∈ w.players, p.isTagger = true ↔ p.playerId = h

def nextHolder (h : Nat) : WorldEvent K → Nat
  | .tagged playerId _ => playerId
  | _ => h

def holderAfter (h : Nat) (events : List (WorldEvent K)) : Nat := events.foldl nextHolder h

theorem holderAfter_append (h : Nat) (events more : List (WorldEvent K)) :
    holderAfter h (events ++ more) = holderAfter (holderAfter h events) more :=
  List.foldl_append

theorem holderAfter_untagged {events : List (WorldEvent K)}
    (silent : ∀ next source, WorldEvent.tagged next source ∉ events) : holderAfter h events = h := by
  induction events generalizing h with
  | nil => rfl
  | cons event rest ih =>
    have later := ih (h := nextHolder h event) fun next source member =>
      silent next source (List.mem_cons_of_mem event member)
    refine Eq.trans later ?_
    cases event with
    | tagged next source => exact absurd List.mem_cons_self (silent next source)
    | _ => rfl

/-- A new holder is named by an event. -/
theorem holderAfter_named (h : Nat) (events : List (WorldEvent K)) :
    holderAfter h events = h ∨
      ∃ source, WorldEvent.tagged (holderAfter h events) source ∈ events := by
  induction events generalizing h with
  | nil => exact .inl rfl
  | cons event rest ih =>
    rcases ih (nextHolder h event) with same | ⟨source, member⟩
    · cases event with
      | tagged next source =>
        refine .inr ⟨source, ?_⟩
        have holder : holderAfter h (.tagged next source :: rest) = next := same
        rw [holder]
        exact List.mem_cons_self
      | _ => exact .inl same
    · exact .inr ⟨source, List.mem_cons_of_mem event member⟩

theorem HeldBy.each (held : HeldBy h w)
    (each : Each (fun p q => q.playerId = p.playerId ∧ q.isTagger = p.isTagger) w v) :
    HeldBy h v := by
  refine ⟨each.distinct (fun _ _ related => related.1) held.1, fun q member => ?_⟩
  obtain ⟨p, before, slot, flag⟩ := each.exists_left member
  rw [slot, flag]
  exact held.2 p before

theorem HeldBy.sameRoles (held : HeldBy h w) (same : SameRoles w v) : HeldBy h v := by
  refine held.each (Each.of_map (f := role) (fun p q equal => ?_) same)
  exact ⟨congrArg Prod.fst equal, congrArg (fun r => r.2.2) equal⟩

/-- Whoever carries the flag is the holder. -/
theorem HeldBy.livingTagger (held : HeldBy h w) {p : PlayerState K}
    (found : livingTagger w = some p) : p.playerId = h := by
  obtain ⟨member, flag, _⟩ := livingTagger_some found
  exact (held.2 p member).mp flag

/-- One flag at most is a holder, who need not be in the world. -/
theorem exists_heldBy (distinct : DistinctIds w.players)
    (one : ∀ p ∈ w.players, ∀ q ∈ w.players, p.isTagger = true → q.isTagger = true →
      p.playerId = q.playerId) : ∃ h, HeldBy h w := by
  by_cases somebody : ∃ p ∈ w.players, p.isTagger = true
  · obtain ⟨p, member, flag⟩ := somebody
    refine ⟨p.playerId, distinct, fun q other => ⟨fun up => one q other p member up flag, ?_⟩⟩
    intro same
    rw [List.inj_on_of_nodup_map distinct other member same]
    exact flag
  · refine ⟨(w.players.map PlayerState.playerId).sum + 1, distinct, fun q member => ?_⟩
    constructor
    · exact fun up => absurd ⟨q, member, up⟩ somebody
    · intro same
      have bound := List.le_sum_of_mem (List.mem_map_of_mem (f := PlayerState.playerId) member)
      omega

variable [JsNumber K]

theorem useSkill_heldBy (held : HeldBy h w) (request : SkillRequest) :
    HeldBy (holderAfter h (useSkill w request).events) (useSkill w request).world := by
  have casts := useSkill_casts held.1 request
  generalize useSkill w request = result at casts ⊢
  cases casts with
  | refused reason _ => exact held
  | used rewrites harmless _ _ =>
    rw [holderAfter_untagged harmless.2]
    obtain ⟨f, spares, rfl⟩ := rewrites
    exact held.each (each_map rfl fun p _ => ⟨(spares p).slot, (spares p).isTagger⟩)
  | @switched caster tagger target area hit =>
    obtain ⟨apart, aside, others⟩ := hit.apart held.1
    have holds := held.livingTagger hit.holds
    have each : Each (fun p q => q.playerId = p.playerId ∧
        q.isTagger = (if p.playerId = caster.playerId then p.isTagger
          else if p.playerId = tagger.playerId then false
          else if p.playerId = target.playerId then true else p.isTagger)) w
        { w with
          players := w.players.map
            (switchPlayer w caster.playerId tagger.playerId target.playerId)
          taggerChangedAtTick := w.tick } :=
      each_map rfl fun p _ =>
        ⟨switchPlayer_playerId _ _ _ _ p, switchPlayer_isTagger _ _ _ _ p⟩
    refine ⟨each.distinct (fun _ _ related => related.1) held.1, fun q member => ?_⟩
    obtain ⟨p, before, slot, flag⟩ := each.exists_left member
    show q.isTagger = true ↔ q.playerId = target.playerId
    rw [slot, flag]
    have was := held.2 p before
    rw [← holds] at was
    by_cases cast : p.playerId = caster.playerId
    · rw [if_pos cast, was, cast]
      exact ⟨fun same => absurd same.symm apart, fun same => absurd same.symm aside⟩
    · rw [if_neg cast]
      by_cases loses : p.playerId = tagger.playerId
      · simp [loses, others.symm]
      · rw [if_neg loses]
        by_cases gains : p.playerId = target.playerId
        · simp [gains]
        · simp [gains, was, loses]

theorem runSkills_heldBy (held : HeldBy h w) (requests : List SkillRequest) :
    HeldBy (holderAfter h (runSkills w requests).events) (runSkills w requests).world := by
  unfold runSkills
  generalize sortById SkillRequest.playerId requests = ordered
  suffices run : ∀ s : SkillPhase K, HeldBy (holderAfter h s.events) s.world →
      HeldBy (holderAfter h (ordered.foldl SkillPhase.use s).events)
        (ordered.foldl SkillPhase.use s).world from run ⟨w, [], []⟩ held
  induction ordered with
  | nil => exact fun s held => held
  | cons request rest ih =>
    intro s held
    apply ih
    simp only [SkillPhase.use, holderAfter_append]
    exact useSkill_heldBy held request

theorem beforeTags_heldBy {requests : TickRequests K}
    (held : HeldBy h (runSkills (beginTick w) requests.skillRequests).world) :
    HeldBy h (beforeTags w requests).1 :=
  held.each (Each.of_map (fun _ _ equal => ⟨(still_eq equal).1, (still_eq equal).2.2.1⟩)
    (still_beforeTags held.1))

theorem resolvePairs_untagged (taggerId : Nat) (state : World K × List (WorldEvent K))
    (pairs : List CollisionPair) :
    holderAfter h (pairs.foldl (resolvePair taggerId) state).2 = holderAfter h state.2 := by
  induction pairs generalizing state with
  | nil => rfl
  | cons pair rest ih =>
    rw [List.foldl_cons, ih]
    unfold resolvePair
    dsimp only
    split
    · rfl
    · exact holderAfter_append _ _ _

theorem afterTags_heldBy (held : HeldBy h w) (requests : TickRequests K) :
    HeldBy (holderAfter h (afterTags w requests).2) (afterTags w requests).1 := by
  have begun : HeldBy h (beginTick w) := held.sameRoles (beginTick_sameRoles w)
  have before := beforeTags_heldBy (runSkills_heldBy begun requests.skillRequests)
  have same : holderAfter h (afterTags w requests).2 =
      holderAfter h (runSkills (beginTick w) requests.skillRequests).events := by
    unfold afterTags resolveTagging
    split
    · rfl
    · exact resolvePairs_untagged _ _ _
  rw [same]
  exact before.each ((resolveTagging_unturned _ _ _).imp fun _ _ related =>
    ⟨related.1, related.2.1⟩)

/-- Every flag is rewritten, so exactly the picked player carries it. -/
theorem handTo_heldBy (distinct : DistinctIds w.players) (picked : Nat) (state : BitVec 32) :
    HeldBy picked (w.handTo picked state) := by
  have each : Each (fun p q => q.playerId = p.playerId ∧
      q.isTagger = decide (p.playerId = picked)) w (w.handTo picked state) :=
    each_map (handTo_players w picked state) fun p _ =>
      ⟨handed_playerId w picked p, handed_isTagger w picked p⟩
  refine ⟨each.distinct (fun _ _ related => related.1) distinct, fun q member => ?_⟩
  obtain ⟨p, _, slot, flag⟩ := each.exists_left member
  rw [slot, flag, decide_eq_true_eq]

theorem rotateTaggerIfStale_heldBy {events : List (WorldEvent K)}
    (held : HeldBy (holderAfter h events) w) :
    HeldBy (holderAfter h (rotateTaggerIfStale w events).2) (rotateTaggerIfStale w events).1 := by
  rcases rotateTaggerIfStale_eq w events with same | ⟨picked, _, state, same⟩
  · rw [same]
    exact held
  · rw [same, holderAfter_append]
    exact handTo_heldBy held.1 _ _

/-- After a tick the role is with whom its last event says, or where it was. -/
theorem stepWorld_heldBy (held : HeldBy h w) (requests : TickRequests K) :
    HeldBy (holderAfter h (stepWorld w requests).events) (stepWorld w requests).world := by
  have tagged := afterTags_heldBy held requests
  rw [stepWorld_world, stepWorld_events, afterRotation]
  split
  · exact tagged
  · exact rotateTaggerIfStale_heldBy tagged

end SwitchRemake.Simulation

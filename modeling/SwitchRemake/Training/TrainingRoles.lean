import SwitchRemake.Game.Kickoff
import SwitchRemake.Simulation.Holder
import SwitchRemake.Training.TrainingRun

/-!
# Roles in a training room

Pads, the chase zone, resets and respawns write the role besides Switch and forced rotation. The
ground takes the role away or gives it to one player after taking it from all; a sleeping zone gets
a tagger among its dummies only from a tick.
-/

namespace SwitchRemake.Training
open Lib Simulation Game Rooms TrainingGround

variable {K : Type} [JsNumber K] {w v u : World K} {g : TrainingGround K}

/-! ## At most one tagger -/

def AtMostOneTagger (w : World K) : Prop :=
  DistinctIds w.players ∧ ∀ p ∈ w.players, ∀ q ∈ w.players,
    p.isTagger = true → q.isTagger = true → p.playerId = q.playerId

omit [JsNumber K] in
theorem AtMostOneTagger.length (one : AtMostOneTagger w) :
    (w.players.filter PlayerState.isTagger).length ≤ 1 := by
  have distinct : ((w.players.filter PlayerState.isTagger).map PlayerState.playerId).Nodup :=
    one.1.sublist (List.filter_sublist.map _)
  have same : ∀ p ∈ w.players.filter PlayerState.isTagger,
      ∀ q ∈ w.players.filter PlayerState.isTagger, p.playerId = q.playerId := by
    intro p first q second
    obtain ⟨here, up⟩ := List.mem_filter.mp first
    obtain ⟨there, other⟩ := List.mem_filter.mp second
    exact one.2 p here q there up other
  match taggers : w.players.filter PlayerState.isTagger with
  | [] => simp
  | [_] => simp
  | p :: q :: rest =>
    rw [taggers] at distinct same
    have equal := same p (by simp) q (by simp)
    simp [equal] at distinct

/-- Nobody gets the role. -/
def Relieved (p q : PlayerState K) : Prop :=
  q.playerId = p.playerId ∧ (q.isTagger = true → p.isTagger = true)

omit [JsNumber K] in
theorem Relieved.each_refl (w : World K) : Each Relieved w w := Each.refl (fun _ => ⟨rfl, id⟩) w

omit [JsNumber K] in
theorem Relieved.each_trans (first : Each Relieved w v) (second : Each Relieved v u) :
    Each Relieved w u :=
  Each.trans (R := Relieved) (S := Relieved)
    (fun _ _ _ first second => ⟨second.1.trans first.1, first.2 ∘ second.2⟩) first second

omit [JsNumber K] in
theorem Relieved.foldl {f : World K → DummyState → World K} (each : ∀ w d, Each Relieved w (f w d))
    (w : World K) (states : List DummyState) : Each Relieved w (states.foldl f w) := by
  induction states generalizing w with
  | nil => exact Relieved.each_refl w
  | cons d rest ih => exact Relieved.each_trans (each w d) (ih (f w d))

omit [JsNumber K] in
theorem Relieved.update (w : World K) (id : Nat) {f : PlayerState K → PlayerState K}
    (relieves : ∀ p, Relieved p (f p)) : Each Relieved w (w.update id f) :=
  each_update id (fun p _ => relieves p) fun _ _ => ⟨rfl, fun up => up⟩

omit [JsNumber K] in
theorem AtMostOneTagger.relieved (one : AtMostOneTagger w) (each : Each Relieved w v) :
    AtMostOneTagger v := by
  refine ⟨each.distinct (fun _ _ related => related.1) one.1, fun p first q second up other => ?_⟩
  obtain ⟨p', before, slot, flag⟩ := each.exists_left first
  obtain ⟨q', before', slot', flag'⟩ := each.exists_left second
  rw [slot, slot']
  exact one.2 p' before q' before' (flag up) (flag' other)

theorem sendHome_relieved (w : World K) (d : DummyState) : Each Relieved w (sendHome w d) := by
  unfold sendHome
  split
  · exact Relieved.update w _ fun p => ⟨rfl, fun up => by simp [sentHomePlayer] at up⟩
  · exact Relieved.each_refl w

theorem respawnPlayer_relieved (w : World K) (d : DummyState) :
    Each Relieved w (respawnPlayer w d) := by
  unfold respawnPlayer
  split
  · exact Relieved.update w _ fun p => ⟨rfl, fun up => by simp [respawnedPlayer] at up⟩
  · exact Relieved.each_refl w

omit [JsNumber K] in
theorem clearRoles_unflagged (w : World K) : ∀ p ∈ (clearRoles w).players, p.isTagger = false := by
  intro p member
  obtain ⟨_, _, rfl⟩ := List.mem_map.mp member
  rfl

omit [JsNumber K] in
theorem clearRoles_relieved (w : World K) : Each Relieved w (clearRoles w) :=
  each_map rfl fun p _ => ⟨rfl, fun up => by simp [clearRole] at up⟩

theorem resetChase_relieved (g : TrainingGround K) (w : World K) :
    Each Relieved w (g.resetChase w).2 := by
  have cleared : Each Relieved w (if g.chaseActive then clearRoles w else w) := by
    split
    · exact clearRoles_relieved w
    · exact Relieved.each_refl w
  exact Relieved.each_trans cleared (Relieved.foldl sendHome_relieved _ g.states)

/-- The chosen player is the only one with a flag. -/
theorem appoint_flags (w : World K) (chosen : Option (PlayerState K)) :
    ∀ q ∈ (appoint w chosen).players, q.isTagger = true →
      ∃ p, chosen = some p ∧ q.playerId = p.playerId := by
  intro q member up
  cases chosen with
  | none =>
    have down := clearRoles_unflagged w q member
    simp [down] at up
  | some p =>
    refine ⟨p, rfl, ?_⟩
    obtain ⟨before, cleared, same⟩ := List.mem_map.mp member
    by_cases here : before.playerId = p.playerId
    · rw [if_pos here] at same
      rw [← same]
      exact here
    · rw [if_neg here] at same
      have down := clearRoles_unflagged w before cleared
      simp [← same, down] at up

theorem appoint_distinct (distinct : DistinctIds w.players) (chosen : Option (PlayerState K)) :
    DistinctIds (appoint w chosen).players := by
  have cleared := (clearRoles_relieved w).distinct (fun _ _ related => related.1) distinct
  cases chosen with
  | none => exact cleared
  | some p =>
    have same : Each (fun p q => q.playerId = p.playerId) (clearRoles w)
        ((clearRoles w).update p.playerId fun p => grantTaggerFrenzy w { p with isTagger := true }) :=
      each_update _ (fun _ _ => rfl) fun _ _ => rfl
    exact same.distinct (fun _ _ related => related) cleared

theorem appoint_one (distinct : DistinctIds w.players) (chosen : Option (PlayerState K)) :
    AtMostOneTagger (appoint w chosen) := by
  refine ⟨appoint_distinct distinct chosen, fun p first q second up other => ?_⟩
  obtain ⟨a, here, slot⟩ := appoint_flags w chosen p first up
  obtain ⟨b, there, slot'⟩ := appoint_flags w chosen q second other
  rw [slot, slot', Option.some.inj (here.symm.trans there)]

theorem prepared_one (g : TrainingGround K) (one : AtMostOneTagger w) :
    AtMostOneTagger (g.prepared w).2 := by
  have back : AtMostOneTagger (g.respawnDue w).2 :=
    one.relieved (Relieved.foldl respawnPlayer_relieved w g.states)
  show AtMostOneTagger ((g.respawnDue w).1.updateChaseZone (g.respawnDue w).2).2
  generalize (g.respawnDue w).1 = g, (g.respawnDue w).2 = w at back
  unfold updateChaseZone
  dsimp only
  repeat' split
  all_goals first
    | exact back
    | exact back.relieved (resetChase_relieved g w)
    | exact appoint_one back.1 _

theorem stepWorld_one (one : AtMostOneTagger w) (requests : TickRequests K) :
    AtMostOneTagger (stepWorld w requests).world := by
  obtain ⟨h, held⟩ := exists_heldBy one.1 one.2
  have after := stepWorld_heldBy held requests
  refine ⟨after.1, fun p first q second up other => ?_⟩
  exact ((after.2 p first).mp up).trans ((after.2 q second).mp other).symm

theorem trigger_one (g : TrainingGround K) (one : AtMostOneTagger w) (p : PlayerState K)
    (kind : TrainingPadKind) : AtMostOneTagger (g.trigger w p kind).2 := by
  cases kind with
  | tagger => exact appoint_one one.1 _
  | chaseMode => exact one.relieved (resetChase_relieved _ w)
  | _ => exact one.relieved (Relieved.update w _ fun _ => ⟨rfl, fun up => up⟩)

theorem applyPads_one (g : TrainingGround K) (one : AtMostOneTagger w) :
    AtMostOneTagger (g.applyPads w).2 := by
  unfold applyPads
  generalize w.players.map PlayerState.playerId = ids
  induction ids generalizing g w with
  | nil => exact one
  | cons id rest ih =>
    suffices first : AtMostOneTagger (applyPad (g, w) id).2 from ih _ first
    unfold applyPad
    dsimp only
    repeat' split
    all_goals first | exact one | exact trigger_one _ one _ _

theorem afterStep_one (g : TrainingGround K) (one : AtMostOneTagger w) :
    AtMostOneTagger (g.afterStep w).2 := applyPads_one g one

theorem respawn_one (g : TrainingGround K) (one : AtMostOneTagger w) (playerId : Nat) :
    AtMostOneTagger (g.respawn w playerId).2.1 := by
  unfold respawn
  split
  · exact one
  · split
    · exact one
    · refine (one.relieved (resetChase_relieved g w)).relieved (Relieved.update _ _ fun p => ?_)
      exact ⟨rfl, fun up => by simp [revivedPlayer] at up⟩

namespace TrainingRoom
variable {t next : TrainingRoom K} {op : TrainingOp K}

theorem step_one (one : AtMostOneTagger t.world) (stepped : t.step op = some next) :
    AtMostOneTagger next.world := by
  cases op with
  | tick requests =>
    obtain ⟨_, ticked, rfl⟩ := Option.map_eq_some_iff.mp stepped
    obtain ⟨resolved, found, rfl⟩ := Option.map_eq_some_iff.mp ticked
    have ready := prepared_one t.ground one
    rw [← resolveInputs_world found] at ready
    rw [finishTick_world]
    exact afterStep_one _ (stepWorld_one ready _)
  | respawn playerId =>
    cases stepped
    exact respawn_one t.ground one playerId
  | eliminateDisconnected playerId =>
    cases stepped
    unfold eliminateDisconnected
    split
    · exact one
    · exact one.relieved (Relieved.update _ _ fun _ => ⟨rfl, fun up => up⟩)

end TrainingRoom
/-! ## Which dummies there are -/

def identity (d : DummyState) : Nat × DummyRole × TilePoint × List TilePoint :=
  (d.playerId, d.kind, d.home, d.course)

def SameDummies (g g' : TrainingGround K) : Prop :=
  g'.states.map identity = g.states.map identity

omit [JsNumber K] in
theorem identity_invariant (map : WorldMap K) (i : Nat × DummyRole × TilePoint × List TilePoint) :
    DummyInvariant map (fun _ => True) (fun d => identity d = i) where
  respawned _ same _ := same
  sentHome _ same := same
  scheduled _ _ same := same
  aimed _ _ same := same
  forgot _ same := same
  turned _ same := same
  patrolled d source after route same answered := by
    unfold routeFor at answered
    split at answered
    · cases answered
      exact same
    · obtain ⟨found, _, equal⟩ := Option.map_eq_some_iff.mp answered
      cases equal
      exact same
  chased d source goal after route same answered := by
    unfold routeTo at answered
    split at answered
    · cases answered
      exact same
    · obtain ⟨found, _, equal⟩ := Option.map_eq_some_iff.mp answered
      cases equal
      exact same

omit [JsNumber K] in
theorem map_identity {f : DummyState → DummyState} (keeps : ∀ d, identity (f d) = identity d)
    (states : List DummyState) : (states.map f).map identity = states.map identity := by
  rw [List.map_map]
  exact List.map_congr_left fun d _ => keeps d

omit [JsNumber K] in
theorem mapM_map {α β γ : Type} {f : α → Option β} {k : α → γ} {j : β → γ} {xs : List α} {ys : List β}
    (keeps : ∀ x y, f x = some y → j y = k x) (mapped : xs.mapM f = some ys) :
    ys.map j = xs.map k := by
  induction xs generalizing ys with
  | nil => simp_all
  | cons x rest ih =>
    simp only [List.mapM_cons, Option.bind_eq_bind, Option.bind_eq_some_iff, Option.pure_def,
      Option.some.injEq] at mapped
    obtain ⟨y, here, others, later, rfl⟩ := mapped
    simp only [List.map_cons, keeps x y here, ih later]

theorem respawnDue_same (g : TrainingGround K) (w : World K) : SameDummies g (g.respawnDue w).1 :=
  map_identity (fun d => by split <;> rfl) g.states

theorem resetChase_same (g : TrainingGround K) (w : World K) : SameDummies g (g.resetChase w).1 :=
  map_identity (fun d => by split <;> rfl) g.states

theorem updateChaseZone_same (g : TrainingGround K) (w : World K) :
    SameDummies g (g.updateChaseZone w).1 := by
  unfold updateChaseZone
  dsimp only
  repeat' split
  all_goals first | rfl | exact resetChase_same g w

theorem prepared_same (g : TrainingGround K) (w : World K) : SameDummies g (g.prepared w).1 :=
  (updateChaseZone_same _ _).trans (respawnDue_same g w)

theorem resolveInputs_same {resolved : Resolved K} (found : g.resolveInputs w = some resolved) :
    SameDummies (g.prepared w).1 resolved.ground := by
  obtain ⟨walked, mapped, rfl⟩ := Option.map_eq_some_iff.mp found
  rw [SameDummies, List.map_map]
  exact mapM_map (fun d next walks => (identity_invariant _ _).resolveDummy rfl walks) mapped

theorem resolveSkills_same (g : TrainingGround K) (w : World K) :
    SameDummies g (g.resolveSkills w).1 := by
  unfold resolveSkills
  split
  · rfl
  · split
    · rfl
    · rename_i target _
      simp only [SameDummies, List.map_map]
      refine List.map_congr_left fun d _ => ?_
      exact (identity_invariant w.map (identity d)).cast target rfl

theorem applyPad_same (g : TrainingGround K) (w : World K) (playerId : Nat) :
    SameDummies g (applyPad (g, w) playerId).1 := by
  unfold applyPad
  dsimp only
  repeat' split
  all_goals try rfl
  rename_i pad _ _
  cases pad.kind with
  | chaseMode => exact resetChase_same _ w
  | _ => rfl

theorem applyPads_same (g : TrainingGround K) (w : World K) : SameDummies g (g.applyPads w).1 := by
  unfold applyPads
  generalize w.players.map PlayerState.playerId = ids
  induction ids generalizing g w with
  | nil => rfl
  | cons id rest ih => exact (ih _ _).trans (applyPad_same g w id)

theorem afterStep_same (g : TrainingGround K) (w : World K) : SameDummies g (g.afterStep w).1 :=
  (map_identity (fun d => by unfold schedule; split <;> rfl) _).trans (applyPads_same g w)

theorem respawn_same (g : TrainingGround K) (w : World K) (playerId : Nat) :
    SameDummies g (g.respawn w playerId).1 := by
  unfold respawn
  split
  · rfl
  · split
    · rfl
    · exact resetChase_same g w

theorem TrainingRoom.step_same {t next : TrainingRoom K} {op : TrainingOp K}
    (stepped : t.step op = some next) : SameDummies t.ground next.ground := by
  cases op with
  | tick requests =>
    obtain ⟨_, ticked, rfl⟩ := Option.map_eq_some_iff.mp stepped
    obtain ⟨resolved, found, rfl⟩ := Option.map_eq_some_iff.mp ticked
    rw [finishTick_ground]
    refine (afterStep_same _ _).trans ((resolveSkills_same _ _).trans ?_)
    exact (resolveInputs_same found).trans (prepared_same _ _)
  | respawn playerId =>
    cases stepped
    exact respawn_same t.ground t.world playerId
  | eliminateDisconnected playerId =>
    cases stepped
    unfold eliminateDisconnected
    split
    · rfl
    · rfl

/-! ## Sent home and brought back -/

/-- Alive on its tile, without effects and without the role. -/
def Fresh (map : WorldMap K) (tile : TilePoint) (p : PlayerState K) : Prop :=
  p.alive = true ∧ p.isTagger = false ∧ (∀ type, p.effects type = none) ∧
    (p.x, p.y) = tileCenter map tile

def DistinctDummies (g : TrainingGround K) : Prop := (g.states.map DummyState.playerId).Nodup

omit [JsNumber K] in
theorem mem_update {id : Nat} {f : PlayerState K → PlayerState K} {p : PlayerState K}
    (member : p ∈ (w.update id f).players) (slots : ∀ q, (f q).playerId = q.playerId) :
    (p.playerId = id ∧ ∃ q ∈ w.players, p = f q) ∨ (p.playerId ≠ id ∧ p ∈ w.players) := by
  obtain ⟨q, before, rfl⟩ := List.mem_map.mp member
  by_cases here : q.playerId = id
  · rw [if_pos here]
    exact .inl ⟨(slots q).trans here, q, before, rfl⟩
  · rw [if_neg here]
    exact .inr ⟨here, before⟩

omit [JsNumber K] in
theorem foldl_elsewhere {f : World K → DummyState → World K}
    (other : ∀ w d, ∀ p ∈ (f w d).players, p.playerId ≠ d.playerId → p ∈ w.players)
    {states : List DummyState} {p : PlayerState K} (member : p ∈ (states.foldl f w).players)
    (foreign : p.playerId ∉ states.map DummyState.playerId) : p ∈ w.players := by
  induction states generalizing w with
  | nil => exact member
  | cons d rest ih =>
    simp only [List.map_cons, List.mem_cons, not_or] at foreign
    exact other w d p (ih member foreign.2) foreign.1

/-- A write to the player of each dummy in turn leaves at each what its own write makes. -/
theorem foldl_fresh {f : World K → DummyState → World K} (tile : DummyState → TilePoint)
    (writes : Nat → DummyState → Prop) (frame : ∀ w d, (f w d).map = w.map ∧ (f w d).tick = w.tick)
    (own : ∀ w d, writes w.tick d →
      ∀ p ∈ (f w d).players, p.playerId = d.playerId → Fresh w.map (tile d) p)
    (other : ∀ w d, ∀ p ∈ (f w d).players, p.playerId ≠ d.playerId → p ∈ w.players)
    {states : List DummyState} (distinct : (states.map DummyState.playerId).Nodup) (w : World K) :
    ∀ d ∈ states, writes w.tick d → ∀ p ∈ (states.foldl f w).players, p.playerId = d.playerId →
      Fresh w.map (tile d) p := by
  induction states generalizing w with
  | nil => simp
  | cons first rest ih =>
    obtain ⟨alone, distinct⟩ := List.nodup_cons.mp distinct
    intro d member written p after slot
    rcases List.mem_cons.mp member with rfl | later
    · exact own w d written p (foldl_elsewhere other after (slot ▸ alone)) slot
    · have there := ih distinct (f w first) d later
      rw [(frame w first).1, (frame w first).2] at there
      exact there written p after slot

theorem sendHome_frame (w : World K) (d : DummyState) :
    (sendHome w d).map = w.map ∧ (sendHome w d).tick = w.tick := by
  unfold sendHome
  split
  · exact ⟨rfl, rfl⟩
  · exact ⟨rfl, rfl⟩

theorem respawnPlayer_frame (w : World K) (d : DummyState) :
    (respawnPlayer w d).map = w.map ∧ (respawnPlayer w d).tick = w.tick := by
  unfold respawnPlayer
  split
  · exact ⟨rfl, rfl⟩
  · exact ⟨rfl, rfl⟩

/-- A chase dummy that was sent home. -/
theorem resetChase_fresh (distinct : DistinctDummies g) (w : World K) {d : DummyState}
    (member : d ∈ g.states) (chases : d.kind = .chase) :
    ∀ p ∈ (g.resetChase w).2.players, p.playerId = d.playerId → Fresh w.map d.home p := by
  have cleared : (if g.chaseActive then clearRoles w else w).map = w.map := by split <;> rfl
  have sent := foldl_fresh (f := sendHome) (K := K) DummyState.home (fun _ d => d.kind = .chase)
    sendHome_frame ?_ ?_ distinct
    (if g.chaseActive then clearRoles w else w) d member chases
  · rwa [cleared] at sent
  · intro w d chases p member slot
    unfold sendHome at member
    rw [if_pos chases] at member
    rcases mem_update member fun _ => rfl with ⟨_, q, _, rfl⟩ | ⟨foreign, _⟩
    · exact ⟨rfl, rfl, fun _ => rfl, rfl⟩
    · exact absurd slot foreign
  · intro w d p member foreign
    unfold sendHome at member
    split at member
    · rcases mem_update member fun _ => rfl with ⟨slot, _⟩ | ⟨_, before⟩
      · exact absurd slot foreign
      · exact before
    · exact member

/-- A dummy that came back. -/
theorem respawnDue_fresh (distinct : DistinctDummies g) (w : World K) {d : DummyState}
    (member : d ∈ g.states) (due : isDue w.tick d) :
    ∀ p ∈ (g.respawnDue w).2.players, p.playerId = d.playerId →
      Fresh w.map (d.course.headD d.home) p := by
  refine foldl_fresh (f := respawnPlayer) (K := K) (fun d => d.course.headD d.home)
    (fun tick d => isDue tick d = true) respawnPlayer_frame ?_ ?_ distinct w d member due
  · intro w d due p member slot
    unfold respawnPlayer at member
    rw [if_pos due] at member
    rcases mem_update member fun _ => rfl with ⟨_, q, _, rfl⟩ | ⟨foreign, _⟩
    · exact ⟨rfl, rfl, fun _ => rfl, rfl⟩
    · exact absurd slot foreign
  · intro w d p member foreign
    unfold respawnPlayer at member
    split at member
    · rcases mem_update member fun _ => rfl with ⟨slot, _⟩ | ⟨_, before⟩
      · exact absurd slot foreign
      · exact before
    · exact member

/-! ## A sleeping zone -/

/-- The slot of a chase dummy whose player is the tagger. -/
def Hunts (g : TrainingGround K) (w : World K) (playerId : Nat) : Prop :=
  (∃ d ∈ g.states, d.kind = .chase ∧ d.playerId = playerId) ∧
    ∃ p ∈ w.players, p.playerId = playerId ∧ p.isTagger = true

instance (g : TrainingGround K) (w : World K) (playerId : Nat) : Decidable (Hunts g w playerId) :=
  inferInstanceAs (Decidable (_ ∧ _))

/-- Whoever hunts in a zone that sleeps afterwards did so before, and the zone slept before. -/
def Calm (g : TrainingGround K) (w : World K) (g' : TrainingGround K) (w' : World K) : Prop :=
  g'.chaseActive = false → ∀ id, Hunts g' w' id → g.chaseActive = false ∧ Hunts g w id

omit [JsNumber K] in
theorem SameDummies.hunts {g g' : TrainingGround K} (same : SameDummies g g') {id : Nat}
    (hunts : Hunts g' w id) : Hunts g w id := by
  obtain ⟨⟨d, member, chases, slot⟩, flagged⟩ := hunts
  have image : identity d ∈ g.states.map identity := same ▸ List.mem_map_of_mem member
  obtain ⟨e, listed, equal⟩ := List.mem_map.mp image
  have role : e.kind = d.kind := congrArg (fun i => i.2.1) equal
  have slots : e.playerId = d.playerId := congrArg Prod.fst equal
  exact ⟨⟨e, listed, role.trans chases, slots.trans slot⟩, flagged⟩

omit [JsNumber K] in
theorem Hunts.relieved (each : Each Relieved w v) {id : Nat} (hunts : Hunts g v id) :
    Hunts g w id := by
  obtain ⟨dummy, p, member, slot, up⟩ := hunts
  obtain ⟨q, before, same, flag⟩ := each.exists_left member
  exact ⟨dummy, q, before, same.symm.trans slot, flag up⟩

omit [JsNumber K] in
theorem Calm.trans {g₁ g₂ g₃ : TrainingGround K} {w₁ w₂ w₃ : World K} (first : Calm g₁ w₁ g₂ w₂)
    (second : Calm g₂ w₂ g₃ w₃) : Calm g₁ w₁ g₃ w₃ := by
  intro asleep id hunts
  obtain ⟨asleep, hunts⟩ := second asleep id hunts
  exact first asleep id hunts

omit [JsNumber K] in
theorem Calm.quiet {g' : TrainingGround K} (same : SameDummies g g')
    (zone : g'.chaseActive = g.chaseActive) (each : Each Relieved w v) : Calm g w g' v := by
  intro asleep id hunts
  exact ⟨zone ▸ asleep, same.hunts (hunts.relieved each)⟩

theorem resetChase_hunts (distinct : DistinctDummies g) (w : World K) (id : Nat) :
    ¬ Hunts (g.resetChase w).1 (g.resetChase w).2 id := by
  intro hunts
  obtain ⟨⟨d, member, chases, rfl⟩, p, after, slot, up⟩ := (resetChase_same g w).hunts hunts
  have fresh := resetChase_fresh distinct w member chases p after slot
  rw [fresh.2.1] at up
  exact Bool.noConfusion up

theorem resetChase_calm (distinct : DistinctDummies g) (w : World K) :
    Calm g w (g.resetChase w).1 (g.resetChase w).2 :=
  fun _ id hunts => absurd hunts (resetChase_hunts distinct w id)

omit [JsNumber K] in
theorem SameDummies.ids {g g' : TrainingGround K} (same : SameDummies g g') :
    g'.states.map DummyState.playerId = g.states.map DummyState.playerId := by
  have slots := congrArg (List.map Prod.fst) same
  simpa only [List.map_map, Function.comp_def, identity] using slots

omit [JsNumber K] in
theorem SameDummies.distinct {g g' : TrainingGround K} (same : SameDummies g g')
    (distinct : DistinctDummies g) : DistinctDummies g' := by
  rw [DistinctDummies, same.ids]
  exact distinct

theorem prepared_calm (distinct : DistinctDummies g) (w : World K) :
    Calm g w (g.prepared w).1 (g.prepared w).2 := by
  have back : Calm g w (g.respawnDue w).1 (g.respawnDue w).2 :=
    .quiet (respawnDue_same g w) rfl (Relieved.foldl respawnPlayer_relieved w g.states)
  refine back.trans ?_
  have distinct := (respawnDue_same g w).distinct distinct
  show Calm _ _ ((g.respawnDue w).1.updateChaseZone (g.respawnDue w).2).1
    ((g.respawnDue w).1.updateChaseZone (g.respawnDue w).2).2
  generalize (g.respawnDue w).1 = g, (g.respawnDue w).2 = w at distinct
  have still : Calm g w g w := fun asleep id hunts => ⟨asleep, hunts⟩
  unfold updateChaseZone
  dsimp only
  repeat' split
  all_goals first
    | exact still
    | exact resetChase_calm distinct w
    | exact fun asleep => by simp at asleep

theorem resolveInputs_zone {resolved : Resolved K} (found : g.resolveInputs w = some resolved) :
    resolved.ground.chaseActive = (g.prepared w).1.chaseActive := by
  obtain ⟨walked, _, rfl⟩ := Option.map_eq_some_iff.mp found
  rfl

theorem resolveSkills_zone (g : TrainingGround K) (w : World K) :
    (g.resolveSkills w).1.chaseActive = g.chaseActive := by
  unfold resolveSkills
  split
  · rfl
  · split <;> rfl

theorem trigger_calm (distinct : DistinctDummies g) {p : PlayerState K}
    (human : g.isDummy p.playerId = false) (w : World K) (kind : TrainingPadKind) :
    Calm g w (g.trigger w p kind).1 (g.trigger w p kind).2 := by
  have loads (f : PlayerState K → PlayerState K) (relieves : ∀ p, Relieved p (f p)) :
      Calm g w g (w.update p.playerId f) := .quiet rfl rfl (Relieved.update w _ relieves)
  cases kind with
  | tagger =>
    intro asleep id hunts
    obtain ⟨⟨d, member, chases, rfl⟩, q, after, slot, up⟩ := hunts
    obtain ⟨chosen, appointed, same⟩ := appoint_flags w _ q after up
    have self : chosen = p := by
      split at appointed
      · exact absurd appointed (by simp)
      · exact (Option.some.inj appointed).symm
    have dummy : g.isDummy p.playerId = true :=
      List.any_eq_true.mpr ⟨d, member, decide_eq_true (slot.symm.trans (same.trans (by rw [self])))⟩
    rw [dummy] at human
    exact Bool.noConfusion human
  | chaseMode => exact fun asleep id hunts => absurd hunts (resetChase_hunts distinct w id)
  | skillDash => exact loads _ fun _ => ⟨rfl, fun up => up⟩
  | skillFlash => exact loads _ fun _ => ⟨rfl, fun up => up⟩
  | skillExhaust => exact loads _ fun _ => ⟨rfl, fun up => up⟩
  | reset => exact loads _ fun _ => ⟨rfl, fun up => up⟩

theorem applyPad_calm (distinct : DistinctDummies g) (w : World K) (playerId : Nat) :
    Calm g w (applyPad (g, w) playerId).1 (applyPad (g, w) playerId).2 := by
  have still : Calm g w g w := fun asleep id hunts => ⟨asleep, hunts⟩
  unfold applyPad
  dsimp only
  split
  · exact still
  · rename_i p found
    obtain ⟨_, lives⟩ := Option.filter_eq_some_iff.mp found
    simp only [Bool.and_eq_true, Bool.not_eq_true'] at lives
    repeat' split
    · exact still
    · exact still
    · exact trigger_calm (g := g.setStanding playerId _) distinct lives.2 w _

theorem applyPads_calm (distinct : DistinctDummies g) (w : World K) :
    Calm g w (g.applyPads w).1 (g.applyPads w).2 := by
  unfold applyPads
  generalize w.players.map PlayerState.playerId = ids
  induction ids generalizing g w with
  | nil => exact fun asleep id hunts => ⟨asleep, hunts⟩
  | cons id rest ih =>
    have first := applyPad_calm distinct w id
    exact first.trans (ih ((applyPad_same g w id).distinct distinct) _)

theorem afterStep_calm (distinct : DistinctDummies g) (w : World K) :
    Calm g w (g.afterStep w).1 (g.afterStep w).2 := by
  have scheduled : Calm (g.applyPads w).1 (g.applyPads w).2 (g.afterStep w).1 (g.afterStep w).2 :=
    .quiet (map_identity (fun d => by unfold schedule; split <;> rfl) _) rfl
      (Relieved.each_refl _)
  exact (applyPads_calm distinct w).trans scheduled

theorem respawn_calm (distinct : DistinctDummies g) (w : World K) (playerId : Nat) :
    Calm g w (g.respawn w playerId).1 (g.respawn w playerId).2.1 := by
  have still : Calm g w g w := fun asleep id hunts => ⟨asleep, hunts⟩
  unfold respawn
  split
  · exact still
  · split
    · exact still
    · refine (resetChase_calm distinct w).trans (.quiet rfl rfl (Relieved.update _ _ fun p => ?_))
      exact ⟨rfl, fun up => by simp [revivedPlayer] at up⟩

/-- In a tick the role comes to a player with an event that names it. -/
theorem stepWorld_named (one : AtMostOneTagger w) (requests : TickRequests K) {id : Nat}
    (hunts : Hunts g (stepWorld w requests).world id) :
    Hunts g w id ∨ ∃ source, WorldEvent.tagged id source ∈ (stepWorld w requests).events := by
  obtain ⟨h, held⟩ := exists_heldBy one.1 one.2
  have after := stepWorld_heldBy held requests
  obtain ⟨dummy, q, member, slot, up⟩ := hunts
  have holder := (after.2 q member).mp up
  rcases holderAfter_named h (stepWorld w requests).events with same | ⟨source, named⟩
  · have image := List.mem_map_of_mem (f := PlayerState.playerId) member
    rw [SameShape.ids (stepWorld_sameShape one.1 requests)] at image
    obtain ⟨p, before, equal⟩ := List.mem_map.mp image
    refine .inl ⟨dummy, p, before, equal.trans slot, (held.2 p before).mpr ?_⟩
    exact equal.trans (holder.trans same)
  · rw [← holder, slot] at named
    exact .inr ⟨source, named⟩

namespace TrainingRoom
variable {t : TrainingRoom K}

/-- What a tick does to a sleeping zone. -/
theorem tick_hunts (one : AtMostOneTagger t.world) (distinct : DistinctDummies t.ground)
    {requests : TickRequests K} {next : TrainingRoom K} {frame : AuthoritativeFrame K}
    (ticked : t.tick requests = some (next, frame)) (asleep : next.ground.chaseActive = false)
    {id : Nat} (hunts : Hunts next.ground next.world id) :
    (t.ground.chaseActive = false ∧ Hunts t.ground t.world id) ∨
      ∃ source, WorldEvent.tagged id source ∈ frame.events := by
  obtain ⟨resolved, found, finished⟩ := Option.map_eq_some_iff.mp ticked
  have ground := congrArg (fun result => result.1.ground) finished
  have world := congrArg (fun result => result.1.world) finished
  have events : (stepWorld resolved.world (allRequests requests resolved)).events = frame.events :=
    congrArg (fun result => result.2.events) finished
  rw [finishTick_ground] at ground
  rw [finishTick_world] at world
  rw [← ground] at asleep
  rw [← ground, ← world] at hunts
  -- The ground moves, the skills of its dummies are asked for, the tick is run, the pads act.
  have moved : SameDummies t.ground resolved.ground :=
    (resolveInputs_same found).trans (prepared_same _ _)
  have calm := (prepared_calm distinct t.world).trans
    (.quiet (resolveInputs_same found) (resolveInputs_zone found) (Relieved.each_refl _))
  rw [← resolveInputs_world found] at calm
  have asked := calm.trans (.quiet (resolveSkills_same resolved.ground resolved.world)
    (resolveSkills_zone _ _) (Relieved.each_refl _))
  have dummies := (resolveSkills_same resolved.ground resolved.world).distinct (moved.distinct distinct)
  obtain ⟨asleep, hunts⟩ := afterStep_calm dummies _ asleep id hunts
  have ready := prepared_one t.ground one
  rw [← resolveInputs_world found] at ready
  rcases stepWorld_named ready _ hunts with before | named
  · exact .inl (asked asleep id before)
  · rw [events] at named
    exact .inr named

end TrainingRoom

/-! ## The beginning -/

section
variable {serverMap : ServerMap K} {markers : List MapMarker} {zones : List MapZone}
  {starts : List RoomStartPlayer} {seed : BitVec 32} {start : TrainingRoom K}

theorem dummySpawns_ids (markers : List MapMarker) (ids : List Nat) :
    List.Sublist ((dummySpawns markers ids).map DummySpawn.playerId) ids := by
  have names : (dummySpawns markers ids).map DummySpawn.playerId =
      ((markers.filterMap fun marker => (dummyRoleByMarker marker.kind).map (marker, ·)).zip ids).map
        Prod.snd := by
    apply List.ext_getElem?
    intro n
    simp only [dummySpawns, List.getElem?_map, List.getElem?_mapIdx, Option.map_map]
    rfl
  rw [names]
  clear names
  generalize (markers.filterMap fun marker => (dummyRoleByMarker marker.kind).map (marker, ·)) = marked
  induction marked generalizing ids with
  | nil => simp
  | cons first rest ih =>
    cases ids with
    | nil => simp
    | cons id others => simpa using ih others

theorem availableIds_nodup (occupied : List Nat) : (availableIds occupied).Nodup := by
  apply List.Nodup.filter
  exact List.nodup_range.map (add_left_injective 1)

theorem startTraining_roles (slots : (starts.map RoomStartPlayer.playerId).Nodup)
    (started : startTraining serverMap markers zones starts seed = some start) :
    AtMostOneTagger start.world ∧ DistinctDummies start.ground := by
  obtain ⟨⟨ground, dummies⟩, made, rfl⟩ := Option.map_eq_some_iff.mp started
  obtain ⟨states, mapped, same⟩ := Option.map_eq_some_iff.mp made
  simp only [Prod.mk.injEq] at same
  obtain ⟨rfl, rfl⟩ := same
  have humans : ((placePlayers serverMap starts).map PlayerState.playerId).Nodup := by
    rw [placePlayers_ids]
    exact ((sortById_perm _ starts).map _).nodup_iff.mpr slots
  have among := dummySpawns_ids markers
    (availableIds ((placePlayers serverMap starts).map PlayerState.playerId))
  have free := (availableIds_nodup
    ((placePlayers serverMap starts).map PlayerState.playerId)).sublist among
  constructor
  · constructor
    · simp only [createWorld, DistinctIds, List.map_append, List.map_map]
      refine List.nodup_append.mpr ⟨humans, free, fun id occupied other available => ?_⟩
      rintro rfl
      have inside := among.subset available
      simp only [availableIds, List.mem_filter, decide_eq_true_eq] at inside
      exact inside.2 occupied
    · intro p member q _ up
      rcases List.mem_append.mp member with human | dummy
      · rw [(placePlayers_mem human).2.1] at up
        exact Bool.noConfusion up
      · obtain ⟨_, _, rfl⟩ := List.mem_map.mp dummy
        exact Bool.noConfusion up
  · have ids : states.map DummyState.playerId = (dummySpawns markers (availableIds
        ((placePlayers serverMap starts).map PlayerState.playerId))).map DummySpawn.playerId := by
      refine mapM_map (fun spawn d made => ?_) mapped
      obtain ⟨_, _, rfl⟩ := Option.map_eq_some_iff.mp made
      rfl
    rw [DistinctDummies, ids]
    exact free

end

/-! ## Every run -/

/-- In every run of a training room at most one player is the tagger. A dummy that is sent home, or
that comes back, is alive on its tile without effects and without the role. Where the zone sleeps
after an operation, a chase dummy is the tagger only if it was before, in a zone that slept, or if an
event of the tick names it. -/
theorem training_roles {serverMap : ServerMap K} {markers : List MapMarker} {zones : List MapZone}
    {starts : List RoomStartPlayer} {seed : BitVec 32} {start t : TrainingRoom K}
    (slots : (starts.map RoomStartPlayer.playerId).Nodup)
    (started : startTraining serverMap markers zones starts seed = some start)
    (run : Reach TrainingRoom.Returns TrainingRoom.apply start t) :
    (t.world.players.filter PlayerState.isTagger).length ≤ 1 ∧
    (∀ g w, SameDummies t.ground g → ∀ d ∈ g.states,
      (d.kind = .chase → ∀ p ∈ (g.resetChase w).2.players, p.playerId = d.playerId →
        Fresh w.map d.home p) ∧
      (isDue w.tick d → ∀ p ∈ (g.respawnDue w).2.players, p.playerId = d.playerId →
        Fresh w.map (d.course.headD d.home) p)) ∧
    (∀ requests next frame, t.tick requests = some (next, frame) →
      next.ground.chaseActive = false → ∀ id, Hunts next.ground next.world id →
        (t.ground.chaseActive = false ∧ Hunts t.ground t.world id) ∨
          ∃ source, WorldEvent.tagged id source ∈ frame.events) ∧
    ∀ playerId, Calm t.ground t.world (t.respawn playerId).ground (t.respawn playerId).world ∧
      Calm t.ground t.world (t.eliminateDisconnected playerId).ground
        (t.eliminateDisconnected playerId).world := by
  obtain ⟨one, distinct⟩ := startTraining_roles slots started
  obtain ⟨one, distinct⟩ : AtMostOneTagger t.world ∧ DistinctDummies t.ground := by
    apply run.invariant (I := fun t => AtMostOneTagger t.world ∧ DistinctDummies t.ground)
      ⟨one, distinct⟩
    rintro t op ⟨one, distinct⟩ returns
    have stepped := TrainingRoom.apply_of_returns returns
    exact ⟨TrainingRoom.step_one one stepped, (TrainingRoom.step_same stepped).distinct distinct⟩
  refine ⟨one.length, ?_, ?_, ?_⟩
  · intro g w same d member
    have distinct := same.distinct distinct
    exact ⟨resetChase_fresh distinct w member, respawnDue_fresh distinct w member⟩
  · intro requests next frame ticked asleep id hunts
    exact TrainingRoom.tick_hunts one distinct ticked asleep hunts
  · intro playerId
    refine ⟨respawn_calm distinct t.world playerId, ?_⟩
    unfold TrainingRoom.eliminateDisconnected
    split
    · exact fun asleep id hunts => ⟨asleep, hunts⟩
    · exact .quiet rfl rfl (Relieved.update _ _ fun _ => ⟨rfl, fun up => up⟩)

/-! ## A Switch onto a sleeping dummy -/

/-- Member 1 stands on the pad that makes a tagger, and member 2 beside it hands the role to the
chase dummy at the other end, in whose zone nobody is. -/
def hallMap : ServerMap ℚ where
  map :=
    { mapId := "hall", cols := 7, rows := 3, tileSize := tilePx
      tiles :=
        [ List.replicate 7 .wall
        , [.wall, .floor, .floor, .floor, .floor, .floor, .wall]
        , List.replicate 7 .wall ]
      barrierSpeed := 1, timeline := fun _ => [] }
  startPositions _ := [(384, 384), (640, 384)]

def hallRoom : Option (TrainingRoom ℚ) :=
  startTraining hallMap [⟨.trainingDummyChase, 5, 1⟩, ⟨.tagger, 1, 1⟩] [⟨.trainingChase, 5, 1, 1, 1⟩]
    [⟨1, .dash⟩, ⟨2, .dash⟩] 7

theorem hallRoom_opens : hallRoom.isSome = true := by decide +kernel

def hallStart : TrainingRoom ℚ := hallRoom.get hallRoom_opens

theorem hallRoom_start : hallRoom = some hallStart := (Option.some_get _).symm

def handedOver : List (TrainingOp ℚ) :=
  [.tick ⟨[], [], []⟩, .tick ⟨[], [⟨2, slotSwitch, some 3⟩], []⟩]

theorem handedOver_runs : AllowedRun TrainingRoom.Returns TrainingRoom.apply hallStart handedOver := by
  decide +kernel

theorem sleeping_dummy_is_tagger : hallRoom = some hallStart ∧
    ∃ t, Reach TrainingRoom.Returns TrainingRoom.apply hallStart t ∧
      t.ground.chaseActive = false ∧ Hunts t.ground t.world 3 :=
  ⟨hallRoom_start, _, Reach.of_list handedOver_runs, by decide +kernel⟩

theorem training_roles_hall :
    ((handedOver.foldl TrainingRoom.apply hallStart).world.players.filter
      PlayerState.isTagger).length ≤ 1 :=
  (training_roles (by decide) hallRoom_start (Reach.of_list handedOver_runs)).1

end SwitchRemake.Training

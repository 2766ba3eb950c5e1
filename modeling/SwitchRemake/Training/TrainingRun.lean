import SwitchRemake.Game.GameLifecycle
import SwitchRemake.Lib.Runs
import SwitchRemake.Simulation.Shape
import SwitchRemake.Training.TrainingGround

/-!
# Runs of a training room

One tick of a session in a training room, with what a member's respawn and departure do between two
ticks. What is said of every dummy is kept by each of them as soon as the few writes to a dummy keep
it.
-/

namespace SwitchRemake.Training
open Lib Simulation Game Rooms

variable {K : Type} [JsNumber K]

structure TrainingRoom (K : Type) where
  world : World K
  ground : TrainingGround K

/-- What other people do: a tick with their requests, a respawn, a lost connection. -/
inductive TrainingOp (K : Type) where
  | tick (requests : TickRequests K)
  | respawn (playerId : Nat)
  | eliminateDisconnected (playerId : Nat)

/-- The part of `startGame` about a training room. Its map neither burns down nor closes in. -/
def startTraining (serverMap : ServerMap K) (markers : List MapMarker) (zones : List MapZone)
    (starts : List RoomStartPlayer) (seed : BitVec 32) : Option (TrainingRoom K) :=
  let map := { serverMap.map with barrierSpeed := 0, timeline := fun _ => [] }
  let players := placePlayers serverMap starts
  (newTrainingGround map markers zones (players.map PlayerState.playerId)).map
    fun (ground, dummies) => ⟨createWorld map (players ++ dummies) seed, ground⟩

namespace TrainingRoom

/-- The dummies ask in the same lists as everybody else. -/
def allRequests (requests : TickRequests K) (resolved : TrainingGround.Resolved K) : TickRequests K :=
  { requests with
    inputs := requests.inputs ++ resolved.inputs
    skillRequests :=
      requests.skillRequests ++ (resolved.ground.resolveSkills resolved.world).2 }

/-- The rest of `GameSession.step`, once the dummies have moved. -/
def finishTick (requests : TickRequests K) (resolved : TrainingGround.Resolved K) :
    TrainingRoom K × AuthoritativeFrame K :=
  let frame := stepWorld resolved.world (allRequests requests resolved)
  let after := (resolved.ground.resolveSkills resolved.world).1.afterStep frame.world
  (⟨after.2, after.1⟩, { frame with world := after.2 })

theorem finishTick_world (requests : TickRequests K) (resolved : TrainingGround.Resolved K) :
    (finishTick requests resolved).1.world =
      ((resolved.ground.resolveSkills resolved.world).1.afterStep
        (stepWorld resolved.world (allRequests requests resolved)).world).2 := by
  simp only [finishTick]

theorem finishTick_ground (requests : TickRequests K) (resolved : TrainingGround.Resolved K) :
    (finishTick requests resolved).1.ground =
      ((resolved.ground.resolveSkills resolved.world).1.afterStep
        (stepWorld resolved.world (allRequests requests resolved)).world).1 := by
  simp only [finishTick]

def tick (t : TrainingRoom K) (requests : TickRequests K) :
    Option (TrainingRoom K × AuthoritativeFrame K) :=
  (t.ground.resolveInputs t.world).map (finishTick requests)

def respawn (t : TrainingRoom K) (playerId : Nat) : TrainingRoom K :=
  let answer := t.ground.respawn t.world playerId
  ⟨answer.2.1, answer.1⟩

omit [JsNumber K] in
def eliminateDisconnected (t : TrainingRoom K) (playerId : Nat) : TrainingRoom K :=
  match (t.world.find playerId).filter PlayerState.alive with
  | none => t
  | some _ => { t with world := GameSession.disconnectPlayer t.world playerId }

/-- A thrown error is `none`. -/
def step (t : TrainingRoom K) : TrainingOp K → Option (TrainingRoom K)
  | .tick requests => (t.tick requests).map Prod.fst
  | .respawn playerId => some (t.respawn playerId)
  | .eliminateDisconnected playerId => some (t.eliminateDisconnected playerId)

def apply (t : TrainingRoom K) (op : TrainingOp K) : TrainingRoom K := (t.step op).getD t

/-- The rooms a run comes to: after an error there is no room any more. -/
def Returns (t : TrainingRoom K) (op : TrainingOp K) : Prop := (t.step op).isSome

instance (t : TrainingRoom K) (op : TrainingOp K) : Decidable (t.Returns op) :=
  inferInstanceAs (Decidable ((t.step op).isSome = true))

/-- The calls for a route that the dummies make in an operation, up to an error and beyond. -/
def routeCalls (t : TrainingRoom K) : TrainingOp K → List TrainingGround.RouteCall
  | .tick _ =>
    let ready := t.ground.prepared t.world
    ready.1.states.flatMap fun d =>
      (TrainingGround.resolveDummy ready.2 ready.1 d).elim [] fun walked =>
        walked.2.flatMap TrainingGround.Walk.calls
  | .respawn _ | .eliminateDisconnected _ => []

end TrainingRoom

/-! ## What holds of every dummy -/

omit [JsNumber K] in
theorem mapM_mem {α β : Type} {f : α → Option β} {xs : List α} {ys : List β}
    (mapped : xs.mapM f = some ys) {y : β} (member : y ∈ ys) : ∃ x ∈ xs, f x = some y := by
  induction xs generalizing ys with
  | nil => simp_all
  | cons x rest ih =>
    simp only [List.mapM_cons, Option.bind_eq_bind, Option.bind_eq_some_iff, Option.pure_def,
      Option.some.injEq] at mapped
    obtain ⟨first, here, others, later, rfl⟩ := mapped
    rcases List.mem_cons.mp member with rfl | among
    · exact ⟨x, List.mem_cons_self, here⟩
    · obtain ⟨source, listed, there⟩ := ih later among
      exact ⟨source, List.mem_cons_of_mem x listed, there⟩

/-- `P` survives each write to what the ground keeps of a dummy. Only a dummy that is `ok` comes
back. -/
structure DummyInvariant (map : WorldMap K) (ok P : DummyState → Prop) : Prop where
  respawned : ∀ d, P d → ok d → P (TrainingGround.respawned d)
  sentHome : ∀ d, P d → P (TrainingGround.sentHome d)
  scheduled : ∀ d due, P d → P { d with respawnAtTick := due }
  aimed : ∀ d tick, P d → P { d with flashAimedAtTick := tick }
  forgot : ∀ d, P d → P { d with cachedRoute := none }
  turned : ∀ d, P d → P { d with targetIndex := (d.targetIndex + 1) % d.course.length }
  patrolled : ∀ d source after route, P d →
    TrainingGround.routeFor map d source d.course[d.targetIndex]? = some (after, route) → P after
  chased : ∀ d source goal after route, P d →
    TrainingGround.routeTo map d source goal = some (after, route) → P after

def TrainingGround.Each (P : DummyState → Prop) (g : TrainingGround K) : Prop :=
  ∀ d ∈ g.states, P d

namespace DummyInvariant
open TrainingGround
variable {map : WorldMap K} {ok P : DummyState → Prop} {g : TrainingGround K} {w : World K}

theorem respawnDue (law : DummyInvariant map ok P) (each : g.Each P)
    (due : ∀ d ∈ g.states, isDue w.tick d → ok d) : (g.respawnDue w).1.Each P := by
  intro d member
  obtain ⟨before, old, rfl⟩ := List.mem_map.mp member
  by_cases back : isDue w.tick before
  · simp only [back, if_true]
    exact law.respawned before (each before old) (due before old back)
  · simp only [back]
    exact each before old

theorem resetChase (law : DummyInvariant map ok P) (each : g.Each P) (w : World K) :
    (g.resetChase w).1.Each P := by
  intro d member
  obtain ⟨before, old, rfl⟩ := List.mem_map.mp member
  by_cases chases : before.kind = .chase
  · simp only [chases, if_true]
    exact law.sentHome before (each before old)
  · simp only [chases, if_false]
    exact each before old

theorem updateChaseZone (law : DummyInvariant map ok P) (each : g.Each P) (w : World K) :
    (g.updateChaseZone w).1.Each P := by
  unfold TrainingGround.updateChaseZone
  dsimp only
  repeat' split
  all_goals first | exact each | exact law.resetChase each w

theorem prepared (law : DummyInvariant map ok P) (each : g.Each P)
    (due : ∀ d ∈ g.states, isDue w.tick d → ok d) : (g.prepared w).1.Each P :=
  law.updateChaseZone (law.respawnDue each due) _

theorem patrolRoute (law : DummyInvariant map ok P) {d after : DummyState} {p : PlayerState K}
    {call : RouteCall} {last : TilePoint} (holds : P d)
    (found : TrainingGround.patrolRoute map d p = some (after, call, last)) : P after := by
  unfold TrainingGround.patrolRoute at found
  dsimp only at found
  split at found
  · exact absurd found (by simp)
  · rename_i next route answered
    obtain ⟨end_, _, same⟩ := Option.map_eq_some_iff.mp found
    simp only [Prod.mk.injEq] at same
    exact same.1 ▸ law.patrolled d _ _ _ holds answered

theorem follow (law : DummyInvariant map ok P) {d : DummyState} {p : PlayerState K} {walked : Walk K}
    (holds : P d) (found : TrainingGround.follow map d p = some walked) : P walked.dummy := by
  unfold TrainingGround.follow at found
  split at found
  · exact absurd found (by simp)
  · rename_i after call last first
    have after := law.patrolRoute holds first
    dsimp only at found
    split at found
    · split at found
      · exact absurd found (by simp)
      · rename_i second
        obtain ⟨aim, _, rfl⟩ := Option.map_eq_some_iff.mp found
        exact law.patrolRoute (law.turned _ after) second
    · obtain ⟨aim, _, rfl⟩ := Option.map_eq_some_iff.mp found
      exact after

theorem hunt (law : DummyInvariant w.map ok P) {d : DummyState} {p : PlayerState K}
    {walked : Walk K} (holds : P d) (found : TrainingGround.hunt w g d p = some walked) :
    P walked.dummy := by
  unfold TrainingGround.hunt at found
  split at found
  · cases found
    exact law.aimed d none holds
  · split at found
    · cases found
      exact law.aimed _ none (law.forgot d holds)
    · split at found
      · cases found
        exact law.aimed d _ holds
      · obtain ⟨⟨after, route⟩, answered, rfl⟩ := Option.map_eq_some_iff.mp found
        exact law.chased _ _ _ _ _ (law.aimed d none holds) answered

theorem resolveDummy (law : DummyInvariant w.map ok P) {d : DummyState}
    {walked : DummyState × List (Walk K)} (holds : P d)
    (found : TrainingGround.resolveDummy w g d = some walked) : P walked.1 := by
  unfold TrainingGround.resolveDummy at found
  split at found
  · cases found
    exact holds
  · split at found
    · cases found
      exact holds
    · split at found
      · obtain ⟨walk, hunted, rfl⟩ := Option.map_eq_some_iff.mp found
        exact law.hunt holds hunted
      · obtain ⟨walk, followed, rfl⟩ := Option.map_eq_some_iff.mp found
        exact law.follow holds followed

theorem cast (law : DummyInvariant map ok P) {d : DummyState} (target : PlayerState K) (holds : P d) :
    P (TrainingGround.cast w target d).1 := by
  unfold TrainingGround.cast chooseSkill
  repeat' split
  all_goals first | exact holds | exact law.aimed d none holds

theorem resolveInputs (law : DummyInvariant w.map ok P) (each : g.Each P)
    (sameMap : (g.prepared w).2.map = w.map) (due : ∀ d ∈ g.states, isDue w.tick d → ok d)
    {resolved : Resolved K} (found : g.resolveInputs w = some resolved) : resolved.ground.Each P := by
  have ready := law.prepared each due
  unfold TrainingGround.resolveInputs at found
  dsimp only at found
  obtain ⟨walked, mapped, rfl⟩ := Option.map_eq_some_iff.mp found
  intro d member
  obtain ⟨entry, listed, rfl⟩ := List.mem_map.mp member
  obtain ⟨before, old, walks⟩ := mapM_mem mapped listed
  rw [← sameMap] at law
  exact law.resolveDummy (ready before old) walks

theorem resolveSkills (law : DummyInvariant map ok P) (each : g.Each P) (w : World K) :
    (g.resolveSkills w).1.Each P := by
  unfold TrainingGround.resolveSkills
  split
  · exact each
  · split
    · exact each
    · rename_i target _
      intro d member
      simp only [List.map_map, List.mem_map, Function.comp_apply] at member
      obtain ⟨before, old, rfl⟩ := member
      exact law.cast target (each before old)

theorem applyPad (law : DummyInvariant map ok P) (each : g.Each P) (w : World K) (playerId : Nat) :
    (TrainingGround.applyPad (g, w) playerId).1.Each P := by
  unfold TrainingGround.applyPad
  dsimp only
  split
  · exact each
  · split
    · exact each
    · rename_i p _ pad _
      split
      · exact each
      · cases pad.kind with
        | chaseMode => exact law.resetChase (g := { g.setStanding playerId _ with chaseMode := _ }) each w
        | _ => exact each

theorem applyPads (law : DummyInvariant map ok P) (each : g.Each P) (w : World K) :
    (g.applyPads w).1.Each P := by
  unfold TrainingGround.applyPads
  generalize w.players.map PlayerState.playerId = ids
  induction ids generalizing g w with
  | nil => exact each
  | cons id rest ih => exact ih (law.applyPad each w id) _

theorem afterStep (law : DummyInvariant map ok P) (each : g.Each P) (w : World K) :
    (g.afterStep w).1.Each P := by
  intro d member
  obtain ⟨before, old, rfl⟩ := List.mem_map.mp member
  have holds := law.applyPads each w before old
  unfold TrainingGround.schedule
  split
  · exact holds
  · exact law.scheduled before _ holds

theorem respawn (law : DummyInvariant map ok P) (each : g.Each P) (w : World K) (playerId : Nat) :
    (g.respawn w playerId).1.Each P := by
  unfold TrainingGround.respawn
  split
  · exact each
  · split
    · exact each
    · exact law.resetChase each w

end DummyInvariant

/-! ## The map of a training room -/

def Timeless (map : WorldMap K) : Prop := ∀ tick, map.timeline tick = []

section
open TrainingGround
variable {g : TrainingGround K} {w : World K}

omit [JsNumber K] in
theorem foldl_map {f : World K → DummyState → World K} (same : ∀ w d, (f w d).map = w.map)
    (w : World K) (states : List DummyState) : (states.foldl f w).map = w.map := by
  induction states generalizing w with
  | nil => rfl
  | cons d rest ih => exact (ih (f w d)).trans (same w d)

theorem resetChase_map (g : TrainingGround K) (w : World K) : (g.resetChase w).2.map = w.map := by
  have sent : ∀ w : World K, (g.states.foldl sendHome w).map = w.map := fun w =>
    foldl_map (fun w d => by unfold sendHome; split <;> rfl) w g.states
  show (g.states.foldl sendHome _).map = w.map
  rw [sent]
  split <;> rfl

theorem appoint_map (w : World K) (chosen : Option (PlayerState K)) :
    (appoint w chosen).map = w.map := by
  cases chosen <;> rfl

theorem updateChaseZone_map (g : TrainingGround K) (w : World K) :
    (g.updateChaseZone w).2.map = w.map := by
  unfold TrainingGround.updateChaseZone
  dsimp only
  repeat' split
  all_goals first | rfl | exact resetChase_map g w | exact appoint_map w _

theorem prepared_map (g : TrainingGround K) (w : World K) : (g.prepared w).2.map = w.map := by
  refine (updateChaseZone_map _ _).trans (foldl_map (fun w d => ?_) w g.states)
  unfold respawnPlayer
  split <;> rfl

theorem applyPad_map (g : TrainingGround K) (w : World K) (playerId : Nat) :
    (applyPad (g, w) playerId).2.map = w.map := by
  unfold applyPad
  dsimp only
  repeat' split
  all_goals try rfl
  rename_i pad _ _
  cases pad.kind with
  | tagger => exact appoint_map w _
  | chaseMode => exact resetChase_map _ w
  | _ => rfl

theorem applyPads_map (g : TrainingGround K) (w : World K) : (g.applyPads w).2.map = w.map := by
  unfold TrainingGround.applyPads
  generalize w.players.map PlayerState.playerId = ids
  induction ids generalizing g w with
  | nil => rfl
  | cons id rest ih => exact (ih _ _).trans (applyPad_map g w id)

theorem afterStep_map (g : TrainingGround K) (w : World K) : (g.afterStep w).2.map = w.map :=
  applyPads_map g w

theorem respawn_map (g : TrainingGround K) (w : World K) (playerId : Nat) :
    (g.respawn w playerId).2.1.map = w.map := by
  unfold TrainingGround.respawn
  split
  · rfl
  · split
    · rfl
    · exact resetChase_map g w

end

/-! ## Steps of a room -/

theorem stepWorld_map {w : World K} (timeless : Timeless w.map) (requests : TickRequests K) :
    (stepWorld w requests).world.map = w.map := by
  have asked : (afterRequests w requests).map = w.map := (requested_sameArena w requests).map
  have still : applyMapTimeline (afterRequests w requests) = afterRequests w requests := by
    rw [applyMapTimeline, asked, timeless]
    rfl
  have moved : (beforeTags w requests).1.map = (applyMapTimeline (afterRequests w requests)).map :=
    rfl
  rw [(tagged_sameArena w requests).map, moved, still, asked]

theorem resolveInputs_world {g : TrainingGround K} {w : World K}
    {resolved : TrainingGround.Resolved K} (found : g.resolveInputs w = some resolved) :
    resolved.world = (g.prepared w).2 := by
  obtain ⟨walked, _, rfl⟩ := Option.map_eq_some_iff.mp found
  rfl

namespace TrainingRoom
open TrainingGround
variable {t next : TrainingRoom K} {op : TrainingOp K} {ok P : DummyState → Prop}

/-- The dummies that come back in this operation are `ok`. -/
def DueOk (ok : DummyState → Prop) (t : TrainingRoom K) : TrainingOp K → Prop
  | .tick _ => ∀ d ∈ t.ground.states, isDue t.world.tick d → ok d
  | .respawn _ | .eliminateDisconnected _ => True

theorem step_map (timeless : Timeless t.world.map) (stepped : t.step op = some next) :
    next.world.map = t.world.map := by
  cases op with
  | tick requests =>
    obtain ⟨_, ticked, rfl⟩ := Option.map_eq_some_iff.mp stepped
    obtain ⟨resolved, found, rfl⟩ := Option.map_eq_some_iff.mp ticked
    have same : resolved.world.map = t.world.map := by
      rw [resolveInputs_world found]
      exact prepared_map t.ground t.world
    rw [← same] at timeless ⊢
    rw [finishTick_world, afterStep_map, stepWorld_map timeless]
  | respawn playerId =>
    cases stepped
    exact respawn_map t.ground t.world playerId
  | eliminateDisconnected playerId =>
    cases stepped
    unfold eliminateDisconnected
    split
    · rfl
    · rfl

theorem step_each (law : DummyInvariant t.world.map ok P) (each : t.ground.Each P)
    (due : t.DueOk ok op) (stepped : t.step op = some next) : next.ground.Each P := by
  cases op with
  | tick requests =>
    obtain ⟨_, ticked, rfl⟩ := Option.map_eq_some_iff.mp stepped
    obtain ⟨resolved, found, rfl⟩ := Option.map_eq_some_iff.mp ticked
    have walked := law.resolveInputs each (prepared_map t.ground t.world) due found
    rw [finishTick_ground]
    exact law.afterStep (law.resolveSkills walked resolved.world) _
  | respawn playerId =>
    cases stepped
    exact law.respawn each t.world playerId
  | eliminateDisconnected playerId =>
    cases stepped
    unfold eliminateDisconnected
    split
    · exact each
    · exact each

theorem apply_of_returns (returns : t.Returns op) : t.step op = some (t.apply op) := by
  obtain ⟨next, stepped⟩ := Option.isSome_iff_exists.mp returns
  rw [apply, stepped]
  rfl

/-- A run on the map it began on keeps what holds of every dummy. -/
theorem run_each {start : TrainingRoom K} {allowed : TrainingRoom K → TrainingOp K → Prop}
    (law : DummyInvariant start.world.map ok P) (timeless : Timeless start.world.map)
    (each : start.ground.Each P)
    (due : ∀ t op, t.world.map = start.world.map → t.ground.Each P → allowed t op →
      t.DueOk ok op ∧ t.Returns op) (run : Reach allowed apply start t) :
    t.world.map = start.world.map ∧ t.ground.Each P := by
  apply run.invariant (I := fun t => t.world.map = start.world.map ∧ t.ground.Each P) ⟨rfl, each⟩
  rintro t op ⟨same, each⟩ may
  obtain ⟨fine, returns⟩ := due t op same each may
  have stepped := apply_of_returns returns
  rw [← same] at law timeless
  exact ⟨(step_map timeless stepped).trans same, step_each law each fine stepped⟩

end TrainingRoom

/-! ## The beginning -/

section
variable {serverMap : ServerMap K} {markers : List MapMarker} {zones : List MapZone}
  {starts : List RoomStartPlayer} {seed : BitVec 32} {start : TrainingRoom K}

theorem startTraining_map (started : startTraining serverMap markers zones starts seed = some start) :
    start.world.map = { serverMap.map with barrierSpeed := 0, timeline := fun _ => [] } := by
  obtain ⟨_, _, rfl⟩ := Option.map_eq_some_iff.mp started
  rfl

theorem startTraining_timeless
    (started : startTraining serverMap markers zones starts seed = some start) :
    Timeless start.world.map := by
  rw [startTraining_map started]
  exact fun _ => rfl

/-- Every dummy of a new ground is that of some marker. -/
theorem startTraining_dummy {d : DummyState}
    (started : startTraining serverMap markers zones starts seed = some start)
    (member : d ∈ start.ground.states) :
    ∃ spawn, newDummy start.world.map zones spawn = some d := by
  obtain ⟨⟨ground, dummies⟩, made, rfl⟩ := Option.map_eq_some_iff.mp started
  obtain ⟨states, mapped, same⟩ := Option.map_eq_some_iff.mp made
  cases same
  obtain ⟨spawn, _, found⟩ := mapM_mem mapped member
  exact ⟨spawn, found⟩

end
end SwitchRemake.Training

import SwitchRemake.Training.TrainingRun

/-!
# Two users of one cached route

A patrol and a chase keep their routes in one place under keys of their own. A patrol always gets
the route it asks for. A chase gets another one exactly when it finds, under its own keys, a route
that a patrol has put there meanwhile and that leads elsewhere.
-/

namespace SwitchRemake.Training
open Lib Simulation Game Rooms TrainingGround

variable {K : Type} [JsNumber K]

/-- What a cached route is: the answer to the last question asked, whoever asked it. -/
def Remembers (map : WorldMap K) (d : DummyState) : Prop :=
  ∀ route, d.cachedRoute = some route → ∃ source, d.cachedFromKey = some source ∧
    ((d.cachedTargetIndex = -1 ∧ ∃ goal, d.cachedChaseTargetKey = some goal ∧
        routeToward map source goal = some route) ∨
      ∃ (i : Nat) (corner : TilePoint), d.cachedTargetIndex = i ∧ d.course[i]? = some corner ∧
        routeToward map source corner = some route)

/-- The route a patrol has stored for a corner of its course answers to the keys of this call of
`#routeTo`, and the way to that corner is not the way to the tile asked for. -/
def TrainingGround.RouteCall.Mixed (map : WorldMap K) (call : RouteCall) : Prop :=
  call.chasing = true ∧ ∃ goal, call.target = some goal ∧
    (chaseHit map call.dummy call.source goal).isSome ∧
    ∃ (i : Nat) (corner : TilePoint), call.dummy.cachedTargetIndex = i ∧
      call.dummy.course[i]? = some corner ∧
      routeToward map call.source corner ≠ routeToward map call.source goal

def TrainingGround.RouteCall.Fresh (map : WorldMap K) (call : RouteCall) : Prop :=
  call.target.bind (routeToward map call.source) = some call.route

instance (map : WorldMap K) (call : RouteCall) : Decidable (call.Fresh map) :=
  inferInstanceAs (Decidable (_ = _))

/-- A recorded call is one that the dummy made. -/
def TrainingGround.RouteCall.Made (map : WorldMap K) (call : RouteCall) : Prop :=
  (call.chasing = false ∧ call.target = call.dummy.course[call.dummy.targetIndex]? ∧
      ∃ after, routeFor map call.dummy call.source call.target = some (after, call.route)) ∨
    (call.chasing = true ∧ ∃ goal, call.target = some goal ∧
      ∃ after, routeTo map call.dummy call.source goal = some (after, call.route))

omit [JsNumber K] in
theorem hit_of_filter {d : DummyState} {keep : RouteResult → Bool} {keys : Prop} [Decidable keys]
    {route : RouteResult}
    (hit : (d.cachedRoute.filter fun cached => keep cached && decide keys) = some route) :
    d.cachedRoute = some route ∧ keys := by
  obtain ⟨cached, kept⟩ := Option.filter_eq_some_iff.mp hit
  simp only [Bool.and_eq_true, decide_eq_true_eq] at kept
  exact ⟨cached, kept.2⟩

omit [JsNumber K] in
theorem remembers_invariant (map : WorldMap K) :
    DummyInvariant map (fun _ => True) (Remembers map) where
  respawned d _ _ route cached := by simp [respawned] at cached
  sentHome d _ route cached := by simp [sentHome] at cached
  scheduled _ _ holds := holds
  aimed _ _ holds := holds
  forgot d _ route cached := by simp at cached
  turned _ holds := holds
  patrolled d source after route holds answered := by
    unfold routeFor at answered
    split at answered
    · cases answered
      exact holds
    · obtain ⟨found, searched, same⟩ := Option.map_eq_some_iff.mp answered
      cases same
      obtain ⟨corner, listed, searched⟩ := Option.bind_eq_some_iff.mp searched
      intro stored cached
      cases cached
      exact ⟨source, rfl, .inr ⟨d.targetIndex, corner, rfl, listed, searched⟩⟩
  chased d source goal after route holds answered := by
    unfold routeTo at answered
    split at answered
    · cases answered
      exact holds
    · obtain ⟨found, searched, same⟩ := Option.map_eq_some_iff.mp answered
      cases same
      intro stored cached
      cases cached
      exact ⟨source, rfl, .inl ⟨rfl, goal, rfl, searched⟩⟩

omit [JsNumber K] in
/-- A patrol that is served from the cache is served what its search would give. -/
theorem routeFor_fresh {map : WorldMap K} {d after : DummyState} {source : TilePoint}
    {route : RouteResult} (holds : Remembers map d)
    (answered : routeFor map d source d.course[d.targetIndex]? = some (after, route)) :
    (d.course[d.targetIndex]?).bind (routeToward map source) = some route := by
  unfold routeFor at answered
  split at answered
  · rename_i cached hit
    cases answered
    obtain ⟨stored, from_, index⟩ := hit_of_filter hit
    obtain ⟨origin, key, ⟨unset, _⟩ | ⟨i, corner, number, listed, searched⟩⟩ := holds _ stored
    · omega
    · have same : i = d.targetIndex := by omega
      rw [from_, Option.some.injEq] at key
      rw [← same, listed, key]
      exact searched
  · obtain ⟨found, searched, same⟩ := Option.map_eq_some_iff.mp answered
    cases same
    exact searched

omit [JsNumber K] in
theorem call_fresh_iff {map : WorldMap K} {call : RouteCall} (made : call.Made map)
    (holds : Remembers map call.dummy) : call.Fresh map ↔ ¬ call.Mixed map := by
  rcases made with ⟨patrols, target, after, answered⟩ | ⟨chases, goal, target, after, answered⟩
  · rw [target] at answered
    have fresh : call.Fresh map := by
      rw [RouteCall.Fresh, target]
      exact routeFor_fresh holds answered
    refine ⟨fun _ mixed => ?_, fun _ => fresh⟩
    simp [TrainingGround.RouteCall.Mixed, patrols] at mixed
  · have asked : call.Fresh map ↔ routeToward map call.source goal = some call.route := by
      rw [RouteCall.Fresh, target, Option.bind_some]
    rw [asked]
    unfold routeTo at answered
    split at answered
    · rename_i cached hit
      cases answered
      obtain ⟨stored, from_, key⟩ := hit_of_filter hit
      obtain ⟨origin, key', answers⟩ := holds _ stored
      rw [from_, Option.some.injEq] at key'
      subst key'
      rcases answers with ⟨unset, other, key', searched⟩ | ⟨i, corner, number, listed, searched⟩
      · rw [key, Option.some.injEq] at key'
        subst key'
        refine ⟨fun _ mixed => ?_, fun _ => searched⟩
        obtain ⟨_, _, _, _, i, _, number, _⟩ := mixed
        omega
      · constructor
        · rintro fresh ⟨_, other, target', _, j, corner', number', listed', apart⟩
          rw [target, Option.some.injEq] at target'
          have same : i = j := by omega
          subst same
          rw [listed, Option.some.injEq] at listed'
          subst listed' target'
          exact apart (searched.trans fresh.symm)
        · intro unmixed
          by_contra stale
          refine unmixed ⟨chases, goal, target, by simp [hit], i, corner, number, listed, ?_⟩
          rw [searched]
          exact Ne.symm stale
    · rename_i missed
      obtain ⟨found, searched, same⟩ := Option.map_eq_some_iff.mp answered
      cases same
      refine ⟨fun _ mixed => ?_, fun _ => searched⟩
      obtain ⟨_, other, target', hit, _⟩ := mixed
      rw [target, Option.some.injEq] at target'
      subst target'
      simp [missed] at hit

/-! ## The calls of a tick -/

theorem patrolRoute_made {map : WorldMap K} {d after : DummyState} {p : PlayerState K}
    {call : RouteCall} {last : TilePoint} (found : patrolRoute map d p = some (after, call, last)) :
    call.Made map ∧ call.dummy = d := by
  unfold patrolRoute at found
  dsimp only at found
  split at found
  · exact absurd found (by simp)
  · rename_i next route answered
    obtain ⟨tile, _, same⟩ := Option.map_eq_some_iff.mp found
    cases same
    exact ⟨.inl ⟨rfl, rfl, _, answered⟩, rfl⟩

theorem follow_made {map : WorldMap K} {ok P : DummyState → Prop} (law : DummyInvariant map ok P)
    {d : DummyState} {p : PlayerState K} {walked : Walk K} (holds : P d)
    (found : follow map d p = some walked) :
    ∀ call ∈ walked.calls, call.Made map ∧ P call.dummy := by
  unfold follow at found
  split at found
  · exact absurd found (by simp)
  · rename_i after call last first
    obtain ⟨made, same⟩ := patrolRoute_made first
    have after := law.patrolRoute holds first
    rw [← same] at holds
    dsimp only at found
    split at found
    · split at found
      · exact absurd found (by simp)
      · rename_i final second last second'
        obtain ⟨aim, _, rfl⟩ := Option.map_eq_some_iff.mp found
        obtain ⟨made', same'⟩ := patrolRoute_made second'
        have turned := law.turned _ after
        rw [← same'] at turned
        simpa using ⟨⟨made, holds⟩, made', turned⟩
    · obtain ⟨aim, _, rfl⟩ := Option.map_eq_some_iff.mp found
      simpa using ⟨made, holds⟩

theorem hunt_made {w : World K} {g : TrainingGround K} {ok P : DummyState → Prop}
    (law : DummyInvariant w.map ok P) {d : DummyState} {p : PlayerState K} {walked : Walk K}
    (holds : P d) (found : hunt w g d p = some walked) :
    ∀ call ∈ walked.calls, call.Made w.map ∧ P call.dummy := by
  unfold hunt at found
  split at found
  · cases found
    simp
  · split at found
    · cases found
      simp
    · split at found
      · cases found
        simp
      · obtain ⟨⟨after, route⟩, answered, rfl⟩ := Option.map_eq_some_iff.mp found
        have aimed := law.aimed d none holds
        intro call member
        rw [List.mem_singleton] at member
        subst member
        exact ⟨.inr ⟨rfl, _, rfl, after, answered⟩, aimed⟩

theorem resolveDummy_made {w : World K} {g : TrainingGround K} {ok P : DummyState → Prop}
    (law : DummyInvariant w.map ok P) {d : DummyState} {walked : DummyState × List (Walk K)}
    (holds : P d) (found : resolveDummy w g d = some walked) :
    ∀ call ∈ walked.2.flatMap Walk.calls, call.Made w.map ∧ P call.dummy := by
  unfold resolveDummy at found
  split at found
  · cases found
    simp
  · split at found
    · cases found
      simp
    · split at found
      · obtain ⟨walk, hunted, rfl⟩ := Option.map_eq_some_iff.mp found
        simpa using hunt_made law holds hunted
      · obtain ⟨walk, followed, rfl⟩ := Option.map_eq_some_iff.mp found
        simpa using follow_made law holds followed

theorem routeCalls_made {t : TrainingRoom K} {ok P : DummyState → Prop}
    (law : DummyInvariant t.world.map ok P) (each : t.ground.Each P) {op : TrainingOp K}
    (due : t.DueOk ok op) {call : RouteCall} (member : call ∈ t.routeCalls op) :
    call.Made t.world.map ∧ P call.dummy := by
  cases op with
  | tick requests =>
    have same := prepared_map t.ground t.world
    obtain ⟨d, ready, asked⟩ := List.mem_flatMap.mp member
    cases found : resolveDummy (t.ground.prepared t.world).2 (t.ground.prepared t.world).1 d with
    | none => simp [found] at asked
    | some walked =>
      have holds := law.prepared each due d ready
      rw [found] at asked
      rw [← same] at law ⊢
      exact resolveDummy_made law holds found call asked
  | respawn playerId => simp [TrainingRoom.routeCalls] at member
  | eliminateDisconnected playerId => simp [TrainingRoom.routeCalls] at member

/-! ## Every run -/

/-- In every run of a training room, each route a dummy is given is the one that a search from its
tile would find, unless the call is mixed up with a patrol. -/
theorem TrainingRoom.routes_fresh {serverMap : ServerMap K} {markers : List MapMarker}
    {zones : List MapZone} {starts : List RoomStartPlayer} {seed : BitVec 32}
    {start t : TrainingRoom K} (started : startTraining serverMap markers zones starts seed = some start)
    (run : Reach TrainingRoom.Returns TrainingRoom.apply start t) (op : TrainingOp K) :
    ∀ call ∈ t.routeCalls op, call.Fresh t.world.map ↔ ¬ call.Mixed t.world.map := by
  have timeless := startTraining_timeless started
  have each : start.ground.Each (Remembers start.world.map) := by
    intro d member route cached
    obtain ⟨spawn, made⟩ := startTraining_dummy started member
    obtain ⟨course, _, rfl⟩ := Option.map_eq_some_iff.mp made
    simp at cached
  have safe : ∀ (t : TrainingRoom K) op, t.DueOk (fun _ => True) op := by
    intro t op
    cases op <;> simp [DueOk]
  obtain ⟨same, holds⟩ := run_each (remembers_invariant start.world.map) timeless each
    (fun t op _ _ returns => ⟨safe t op, returns⟩) run
  rw [← same] at holds
  intro call member
  obtain ⟨made, remembers⟩ := routeCalls_made (remembers_invariant _) holds (safe t op) member
  exact call_fresh_iff made remembers

/-! ## A chase on a patrol's route -/

/-- Members 1 and 2 stand in the zone of the dummies 3 and 4, and member 1 on the pad that makes
the dummies hunt. Around the corner of a wall dummy 4 hunts member 1, who hands the role to dummy 3;
while dummy 4 is on patrol, member 2 hands it back. -/
def cornerTiles : Tiles :=
  [ List.replicate 7 .wall
  , [.wall, .floor, .floor, .floor, .floor, .floor, .wall]
  , [.wall, .wall, .floor, .floor, .floor, .floor, .wall]
  , [.wall, .floor, .floor, .floor, .floor, .floor, .wall]
  , List.replicate 7 .wall ]

def cornerMap : ServerMap ℚ where
  map :=
    { mapId := "corner", cols := 7, rows := 5, tileSize := tilePx, tiles := cornerTiles
      barrierSpeed := 1, timeline := fun _ => [] }
  startPositions _ := [(384, 896), (1152, 384)]

def cornerRoom : Option (TrainingRoom ℚ) :=
  startTraining cornerMap
    [⟨.trainingDummyChase, 5, 1⟩, ⟨.trainingDummyChase, 2, 2⟩, ⟨.trainingChaseMode, 1, 3⟩]
    [⟨.trainingChase, 0, 0, 7, 5⟩] [⟨1, .dash⟩, ⟨2, .dash⟩] 7

theorem cornerRoom_opens : cornerRoom.isSome = true := by decide +kernel

def cornerStart : TrainingRoom ℚ := cornerRoom.get cornerRoom_opens

theorem cornerRoom_start : cornerRoom = some cornerStart := (Option.some_get _).symm

def quietTick : TrainingOp ℚ := .tick ⟨[], [], []⟩

def switchTick (caster target : Nat) : TrainingOp ℚ :=
  .tick ⟨[], [⟨caster, slotSwitch, some target⟩], []⟩

def handedBack : List (TrainingOp ℚ) :=
  [quietTick, quietTick, switchTick 1 3, switchTick 2 4]

def cornerEnd : TrainingRoom ℚ := handedBack.foldl TrainingRoom.apply cornerStart

theorem chase_on_patrol_route : cornerRoom = some cornerStart ∧
    Reach TrainingRoom.Returns TrainingRoom.apply cornerStart cornerEnd ∧
    ∃ call ∈ cornerEnd.routeCalls quietTick,
      call.chasing = true ∧ call.source = (2, 2) ∧ call.target = some (1, 3) ∧
      call.route.tiles = [(2, 2), (2, 1), (1, 1)] ∧ ¬ call.Fresh cornerEnd.world.map := by
  refine ⟨cornerRoom_start, Reach.of_list (by decide +kernel), ?_⟩
  have stale : (cornerEnd.routeCalls quietTick).any
      (fun call => decide (call.chasing = true ∧ call.source = (2, 2) ∧ call.target = some (1, 3) ∧
        call.route.tiles = [(2, 2), (2, 1), (1, 1)] ∧ ¬ call.Fresh cornerEnd.world.map)) = true := by
    decide +kernel
  obtain ⟨call, member, holds⟩ := List.any_eq_true.mp stale
  exact ⟨call, member, of_decide_eq_true holds⟩

theorem routes_fresh_corner : cornerStart.Returns quietTick ∧
    ∀ call ∈ (TrainingRoom.apply cornerStart quietTick).routeCalls quietTick,
      call.Fresh (TrainingRoom.apply cornerStart quietTick).world.map ↔
        ¬ call.Mixed (TrainingRoom.apply cornerStart quietTick).world.map :=
  have returns : cornerStart.Returns quietTick := by decide +kernel
  ⟨returns, TrainingRoom.routes_fresh cornerRoom_start (.step .refl returns) quietTick⟩

end SwitchRemake.Training

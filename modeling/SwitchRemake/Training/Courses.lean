import SwitchRemake.Training.RouteCache

/-!
# Targets on short courses

A dummy without a zone, or in a narrow one, has a course of one tile. Everything but coming back
after a death gives it the index of that tile; coming back gives it the index of a second one, and
the next search for a route throws.
-/

namespace SwitchRemake.Training
open Lib Simulation Game Rooms TrainingGround

variable {K : Type} [JsNumber K]

/-- A dummy that can come back: it stands still, or there is a second tile to go to. -/
def Roomy (d : DummyState) : Prop := d.kind = .still ∨ 1 < d.course.length

instance (d : DummyState) : Decidable (Roomy d) :=
  inferInstanceAs (Decidable (d.kind = .still ∨ 1 < d.course.length))

def OnCourse (d : DummyState) : Prop :=
  d.targetIndex < d.course.length ∧ ∀ route, d.cachedRoute = some route → route.tiles ≠ []

omit [JsNumber K] in
theorem onCourse_invariant (map : WorldMap K) : DummyInvariant map Roomy OnCourse where
  respawned d holds roomy := by
    refine ⟨?_, fun route cached => by simp [respawned] at cached⟩
    have positive := holds.1
    show (if d.kind = .still then 0 else 1) < d.course.length
    split
    · omega
    · exact roomy.resolve_left ‹_›
  sentHome d holds := by
    refine ⟨?_, fun route cached => by simp [sentHome] at cached⟩
    have positive := holds.1
    show (if 1 < d.course.length then 1 else 0) < d.course.length
    split <;> omega
  scheduled _ _ holds := holds
  aimed _ _ holds := holds
  forgot d holds := ⟨holds.1, fun route cached => by simp at cached⟩
  turned d holds := ⟨Nat.mod_lt _ (by have := holds.1; omega), holds.2⟩
  patrolled d source after route holds answered := by
    unfold routeFor at answered
    split at answered
    · cases answered
      exact holds
    · obtain ⟨found, searched, same⟩ := Option.map_eq_some_iff.mp answered
      cases same
      obtain ⟨corner, _, searched⟩ := Option.bind_eq_some_iff.mp searched
      refine ⟨holds.1, fun stored cached => ?_⟩
      cases cached
      exact routeToward_tiles searched
  chased d source goal after route holds answered := by
    unfold routeTo at answered
    split at answered
    · cases answered
      exact holds
    · obtain ⟨found, searched, same⟩ := Option.map_eq_some_iff.mp answered
      cases same
      refine ⟨holds.1, fun stored cached => ?_⟩
      cases cached
      exact routeToward_tiles searched

/-! ## Nothing throws on a course -/

omit [JsNumber K] in
theorem routeFor_some {map : WorldMap K} (somewhere : Open map) {d : DummyState}
    (holds : OnCourse d) (source : TilePoint) (target : TilePoint) :
    ∃ after route, routeFor map d source (some target) = some (after, route) ∧ route.tiles ≠ [] := by
  unfold routeFor
  split
  · rename_i cached hit
    exact ⟨d, cached, rfl, holds.2 cached (Option.filter_eq_some_iff.mp hit).1⟩
  · obtain ⟨route, found⟩ := Option.isSome_iff_exists.mp (routeToward_isSome somewhere source target)
    rw [Option.bind_some, found]
    exact ⟨_, route, rfl, routeToward_tiles found⟩

theorem patrolRoute_some {map : WorldMap K} (somewhere : Open map) {d : DummyState}
    (holds : OnCourse d) (p : PlayerState K) :
    ∃ after call last target, patrolRoute map d p = some (after, call, last) ∧
      call.target = some target := by
  obtain ⟨target, listed⟩ : ∃ target, d.course[d.targetIndex]? = some target :=
    ⟨_, List.getElem?_eq_getElem holds.1⟩
  obtain ⟨after, route, answered, tiles⟩ :=
    routeFor_some somewhere holds (tileAtPoint map p.x p.y) target
  obtain ⟨last, ends⟩ := Option.isSome_iff_exists.mp (List.getLast?_isSome.mpr tiles)
  unfold patrolRoute
  simp only [listed, answered, ends, Option.map_some]
  exact ⟨after, _, last, _, rfl, rfl⟩

theorem patrolAim_isSome (map : WorldMap K) {call : RouteCall} {target : TilePoint}
    (asked : call.target = some target) (last : TilePoint) : (patrolAim map call last).isSome := by
  unfold patrolAim
  repeat' split
  all_goals simp [asked]

theorem follow_isSome {map : WorldMap K} (somewhere : Open map) {d : DummyState}
    (holds : OnCourse d) (p : PlayerState K) : (follow map d p).isSome := by
  obtain ⟨after, call, last, target, first, asked⟩ := patrolRoute_some somewhere holds p
  have moved : OnCourse after := (onCourse_invariant map).patrolRoute holds first
  have turned := (onCourse_invariant map).turned after moved
  obtain ⟨_, second, last', target', again, asked'⟩ := patrolRoute_some somewhere turned p
  unfold follow
  simp only [first, again]
  split
  · simpa using patrolAim_isSome map asked' last'
  · simpa using patrolAim_isSome map asked last

theorem hunt_isSome {w : World K} (somewhere : Open w.map) (g : TrainingGround K) (d : DummyState)
    (p : PlayerState K) : (hunt w g d p).isSome := by
  unfold hunt
  split
  · rfl
  · split
    · rfl
    · split
      · rfl
      · unfold routeTo
        dsimp only
        split
        · rfl
        · simpa using routeToward_isSome somewhere _ _

theorem resolveDummy_isSome {w : World K} (somewhere : Open w.map) (g : TrainingGround K)
    {d : DummyState} (holds : OnCourse d) : (resolveDummy w g d).isSome := by
  unfold resolveDummy
  split
  · rfl
  · split
    · rfl
    · split
      · simpa using hunt_isSome somewhere g d _
      · simpa using follow_isSome somewhere holds _

theorem mapM_isSome {α β : Type} {f : α → Option β} {xs : List α}
    (each : ∀ x ∈ xs, (f x).isSome) : (xs.mapM f).isSome := by
  induction xs with
  | nil => rfl
  | cons x rest ih =>
    obtain ⟨y, here⟩ := Option.isSome_iff_exists.mp (each x List.mem_cons_self)
    obtain ⟨ys, others⟩ := Option.isSome_iff_exists.mp
      (ih fun x member => each x (List.mem_cons_of_mem _ member))
    simp [List.mapM_cons, here, others]

namespace TrainingRoom
variable {t : TrainingRoom K}

theorem returns_of_roomy (somewhere : Open t.world.map) (each : t.ground.Each OnCourse)
    {op : TrainingOp K} (due : t.DueOk Roomy op) : t.Returns op := by
  cases op with
  | tick requests =>
    have ready := (onCourse_invariant t.world.map).prepared each due
    have walked : (t.ground.resolveInputs t.world).isSome := by
      rw [TrainingGround.resolveInputs, Option.isSome_map]
      apply mapM_isSome
      intro d member
      apply resolveDummy_isSome _ _ (ready d member)
      rwa [prepared_map]
    simpa [Returns, step, tick] using walked
  | respawn playerId => rfl
  | eliminateDisconnected playerId => rfl

/-- A dummy that comes back to a course of one tile is sent to a second one. -/
theorem offCourse_of_not_roomy {op : TrainingOp K} (cramped : ¬ t.DueOk Roomy op) :
    ∃ d ∈ (t.ground.respawnDue t.world).1.states, d.course.length ≤ d.targetIndex := by
  cases op with
  | tick requests =>
    simp only [DueOk, not_forall] at cramped
    obtain ⟨d, member, due, narrow⟩ := cramped
    simp only [Roomy, not_or, not_lt] at narrow
    refine ⟨respawned d, List.mem_map.mpr ⟨d, member, by simp [due]⟩, ?_⟩
    show d.course.length ≤ if d.kind = .still then 0 else 1
    rw [if_neg narrow.1]
    exact narrow.2
  | respawn playerId => simp [DueOk] at cramped
  | eliminateDisconnected playerId => simp [DueOk] at cramped

end TrainingRoom

/-! ## The constructor -/

omit [JsNumber K] in
theorem patrolCourse_isSome {map : WorldMap K} (somewhere : Open map) (home : TilePoint)
    (zone : Option MapZone) : (patrolCourse map home zone).isSome := by
  unfold patrolCourse
  split
  · rfl
  · dsimp only
    split
    · rfl
    · rw [Option.isSome_map]
      exact mapM_isSome fun corner _ => nearestWalkable_isSome somewhere corner

omit [JsNumber K] in
theorem patrolCourse_head {map : WorldMap K} {home : TilePoint} {zone : Option MapZone}
    {course : List TilePoint} (made : patrolCourse map home zone = some course) :
    ∃ corners, course = home :: corners := by
  unfold patrolCourse at made
  split at made
  · exact ⟨[], (Option.some.inj made).symm⟩
  · dsimp only at made
    split at made
    · exact ⟨[], (Option.some.inj made).symm⟩
    · obtain ⟨corners, _, rfl⟩ := Option.map_eq_some_iff.mp made
      exact ⟨corners, rfl⟩

omit [JsNumber K] in
theorem newDummy_onCourse {map : WorldMap K} {zones : List MapZone} {spawn : DummySpawn}
    {d : DummyState} (made : newDummy map zones spawn = some d) : OnCourse d := by
  obtain ⟨course, found, rfl⟩ := Option.map_eq_some_iff.mp made
  obtain ⟨corners, rfl⟩ := patrolCourse_head found
  refine ⟨?_, fun route cached => by simp at cached⟩
  by_cases stands : spawn.role = .still
  · simp [stands]
  · simp only [stands, if_false]
    split <;> simp_all

theorem startTraining_isSome {serverMap : ServerMap K} (somewhere : Open serverMap.map)
    (markers : List MapMarker) (zones : List MapZone) (starts : List RoomStartPlayer)
    (seed : BitVec 32) : (startTraining serverMap markers zones starts seed).isSome := by
  rw [startTraining, Option.isSome_map, newTrainingGround, Option.isSome_map]
  apply mapM_isSome
  intro spawn _
  rw [newDummy, Option.isSome_map]
  exact patrolCourse_isSome somewhere _ _

/-! ## Every run -/

/-- On a map with a walkable tile the ground is built, and in a run in which no dummy comes back to
a course of one tile every target is on its course, every cached route has a tile, and nothing
throws. A dummy that does come back to such a course has a target that is not there. -/
theorem training_never_fails {serverMap : ServerMap K} (somewhere : Open serverMap.map)
    (markers : List MapMarker) (zones : List MapZone) (starts : List RoomStartPlayer)
    (seed : BitVec 32) :
    ∃ start, startTraining serverMap markers zones starts seed = some start ∧
      ∀ t, Reach (TrainingRoom.DueOk Roomy) TrainingRoom.apply start t →
        t.ground.Each OnCourse ∧ ∀ op,
          (t.DueOk Roomy op → t.Returns op) ∧
          (¬ t.DueOk Roomy op →
            ∃ d ∈ (t.ground.respawnDue t.world).1.states, d.course.length ≤ d.targetIndex) := by
  obtain ⟨start, started⟩ :=
    Option.isSome_iff_exists.mp (startTraining_isSome somewhere markers zones starts seed)
  refine ⟨start, started, fun t run => ?_⟩
  have open_ : Open start.world.map := by
    rw [startTraining_map started]
    exact somewhere
  have each : start.ground.Each OnCourse := by
    intro d member
    obtain ⟨spawn, made⟩ := startTraining_dummy started member
    exact newDummy_onCourse made
  obtain ⟨same, holds⟩ := TrainingRoom.run_each (onCourse_invariant start.world.map)
    (startTraining_timeless started) each
    (fun t op same holds due =>
      ⟨due, TrainingRoom.returns_of_roomy (by rwa [same]) holds due⟩) run
  refine ⟨holds, fun op => ⟨fun due => ?_, TrainingRoom.offCourse_of_not_roomy⟩⟩
  exact TrainingRoom.returns_of_roomy (by rwa [same]) holds due

/-! ## Three seconds after a dummy was caught -/

/-- Member 1 steps on the pad that makes a tagger and catches the patrol beside it, whose marker is
in no zone. -/
def narrowMap : ServerMap ℚ where
  map :=
    { mapId := "narrow", cols := 5, rows := 3, tileSize := tilePx
      tiles :=
        [ List.replicate 5 .wall
        , [.wall, .floor, .floor, .floor, .wall]
        , List.replicate 5 .wall ]
      barrierSpeed := 1, timeline := fun _ => [] }
  startPositions _ := [(444, 384)]

def narrowRoom : Option (TrainingRoom ℚ) :=
  startTraining narrowMap [⟨.trainingDummyPatrol, 2, 1⟩, ⟨.tagger, 1, 1⟩] [] [⟨1, .dash⟩] 7

theorem narrowRoom_opens : narrowRoom.isSome = true := by decide +kernel

def narrowStart : TrainingRoom ℚ := narrowRoom.get narrowRoom_opens

/-- The catch, member 1's lost connection, and the three seconds after the catch. -/
def caught : List (TrainingOp ℚ) :=
  [quietTick, .tick ⟨[⟨1, 1, 0, 0, 0⟩], [], []⟩, .eliminateDisconnected 1] ++
    List.replicate 180 quietTick

theorem TrainingRoom.reach_of_foldlM {start t : TrainingRoom K} {ops : List (TrainingOp K)}
    (returned : ops.foldlM TrainingRoom.step start = some t) :
    Reach TrainingRoom.Returns TrainingRoom.apply start t := by
  induction ops generalizing start with
  | nil =>
    cases returned
    exact .refl
  | cons op rest ih =>
    obtain ⟨next, stepped, later⟩ := Option.bind_eq_some_iff.mp returned
    have returns : start.Returns op := by simp [TrainingRoom.Returns, stepped]
    have applied : start.apply op = next := by simp [TrainingRoom.apply, stepped]
    exact (Reach.step .refl returns).trans (applied ▸ ih later)

theorem patrol_comes_back_off_course : narrowRoom = some narrowStart ∧
    ∃ t, Reach TrainingRoom.Returns TrainingRoom.apply narrowStart t ∧ ¬ t.Returns quietTick := by
  refine ⟨(Option.some_get _).symm, ?_⟩
  have throws : (caught.foldlM TrainingRoom.step narrowStart).any
      (fun t => decide (¬ t.Returns quietTick)) = true := by
    decide +kernel
  obtain ⟨t, returned, fails⟩ := Option.any_eq_true _ _ |>.mp throws
  exact ⟨t, TrainingRoom.reach_of_foldlM returned, of_decide_eq_true fails⟩

theorem training_never_fails_narrow :
    ∃ start, startTraining narrowMap [⟨.trainingDummyPatrol, 2, 1⟩, ⟨.tagger, 1, 1⟩] []
        [⟨1, .dash⟩] 7 = some start ∧
      start.ground.Each OnCourse ∧ start.Returns quietTick := by
  have walkable : Open narrowMap.map := ⟨(1, 1), by decide +kernel⟩
  obtain ⟨start, started, safe⟩ := training_never_fails walkable
    [⟨.trainingDummyPatrol, 2, 1⟩, ⟨.tagger, 1, 1⟩] [] [⟨1, .dash⟩] 7
  obtain ⟨courses, ops⟩ := safe start .refl
  have same : narrowStart = start := Option.some.inj ((Option.some_get _).trans started)
  have due : ∀ d ∈ narrowStart.ground.states, isDue narrowStart.world.tick d → Roomy d := by
    decide +kernel
  exact ⟨start, started, courses, (ops quietTick).1 (same ▸ due)⟩

end SwitchRemake.Training

import SwitchRemake.Simulation.Shape

/-!
# The closed storm

Exact arithmetic. Once the storm leaves less room than a body needs, it pins everybody to one point,
and the first row of the push-apart then touches everybody.
-/

namespace SwitchRemake.Simulation
open Lib

/-! ## Pinning -/

theorem confineAxis_narrow {at_ radius start extent : ℝ} (narrow : extent < 2 * radius) :
    confineAxis at_ radius start extent = start + extent / 2 := by
  have crossed : start + extent - radius < start + radius := by linarith
  unfold confineAxis
  dsimp only
  rw [if_pos crossed]
  norm_num [JsNumber.ofRat]

/-- The point a storm with too little room pins a body to. -/
noncomputable def centre (storm : StormRect ℝ) : ℝ × ℝ :=
  (storm.x + storm.width / 2, storm.y + storm.height / 2)

def Narrow (storm : StormRect ℝ) (radius : ℝ) : Prop :=
  storm.width < 2 * radius ∧ storm.height < 2 * radius

variable {storm : StormRect ℝ} {radius : ℝ}

theorem resolveStatic_narrow (narrow : Narrow storm radius) (map : WorldMap ℝ) (x y : ℝ) :
    resolveStatic map x y radius storm = centre storm := by
  unfold resolveStatic confineToStorm
  dsimp only
  rw [confineAxis_narrow narrow.1, confineAxis_narrow narrow.2]
  rfl

theorem walk_narrow (narrow : Narrow storm radius) (map : WorldMap ℝ) (stepX stepY : ℝ)
    {steps : Nat} (moves : 0 < steps) (from_ : ℝ × ℝ) :
    walk map storm radius stepX stepY steps from_ = centre storm := by
  induction steps generalizing from_ with
  | zero => exact absurd moves (lt_irrefl 0)
  | succ steps ih =>
    rw [walk, resolveStatic_narrow narrow]
    rcases Nat.eq_zero_or_pos steps with rfl | more
    · rfl
    · exact ih more _

/-- Every move makes at least one step, so it ends at the centre. -/
theorem movePlayer_narrow {p : PlayerState ℝ} (narrow : Narrow storm p.radius)
    (alive : p.alive = true) (map : WorldMap ℝ) (inputs : List (ResolvedInput ℝ)) :
    (movePlayer map storm inputs p).x = (centre storm).1 ∧
      (movePlayer map storm inputs p).y = (centre storm).2 := by
  unfold movePlayer
  simp only [alive, not_true_eq_false, if_false]
  rw [walk_narrow narrow _ _ _ (substepCount_pos _ _ _ _)]
  exact ⟨rfl, rfl⟩

/-! ## Push-apart from one point -/

theorem pushPower_pos (p : PlayerState ℝ) (nx ny : ℝ) : 0 < pushPower p nx ny := by
  have base : (0 : ℝ) < JsNumber.ofRat Gameplay.pushBasePower := by
    simp [JsNumber.ofRat, Gameplay.pushBasePower]
  have factor : (0 : ℝ) < JsNumber.ofRat Gameplay.pushSpeedFactor := by
    simp [JsNumber.ofRat, Gameplay.pushSpeedFactor]
  have approach := le_max_left 0 (p.vx * nx + p.vy * ny)
  unfold pushPower
  positivity

/-- The first of the two moves by a proper share of the penetration. -/
theorem separate_first (a b : PlayerState ℝ) (dx dy distSq : ℝ) :
    ∃ share, 0 < share ∧ share < 1 ∧
      (separate a b dx dy distSq).1.x =
        a.x - dx / √distSq * ((a.radius + b.radius - √distSq) * share) ∧
      (separate a b dx dy distSq).1.y =
        a.y - dy / √distSq * ((a.radius + b.radius - √distSq) * share) := by
  let nx := dx / √distSq
  let ny := dy / √distSq
  have powerA := pushPower_pos a nx ny
  have powerB := pushPower_pos b (-nx) (-ny)
  refine ⟨pushPower b (-nx) (-ny) / (pushPower a nx ny + pushPower b (-nx) (-ny)), by positivity,
    ?_, ?_, ?_⟩
  · rw [div_lt_one (by positivity)]
    linarith
  · rw [← mul_div_assoc]
    rfl
  · rw [← mul_div_assoc]
    rfl

/-- A body at `(x, y)` of radius `radius`. -/
structure BodyAt (x y radius : ℝ) (p : PlayerState ℝ) : Prop where
  x : p.x = x
  y : p.y = y
  radius : p.radius = radius

/-- A player that is off the point by less than a contact touches the next player at the point, and
is still off by less than a contact afterwards. A quarter of a pixel is the least radius for which
the one pixel that coincident players are taken apart keeps the first within reach. -/
theorem pushApart_axis {a b : PlayerState ℝ} {d cx cy : ℝ} (wide : 1 / 4 ≤ radius)
    (first : BodyAt (cx + d) cy radius a) (second : BodyAt cx cy radius b)
    (near : |d| < 2 * radius) :
    (pushApart a b).2.2 = true ∧
      ∃ e, |e| < 2 * radius ∧ BodyAt (cx + e) cy radius (pushApart a b).1 := by
  have offset : b.x - a.x = -d ∧ b.y - a.y = 0 := by
    rw [first.x, first.y, second.x, second.y]
    exact ⟨by ring, by ring⟩
  have distSq : (b.x - a.x) * (b.x - a.x) + (b.y - a.y) * (b.y - a.y) = d ^ 2 := by
    rw [offset.1, offset.2]
    ring
  have touch : ¬ ((a.radius + b.radius) * (a.radius + b.radius) ≤ d ^ 2) := by
    rw [first.radius, second.radius, ← sq_abs d]
    nlinarith [abs_nonneg d]
  have keeps (dx dy distSq : ℝ) : (separate a b dx dy distSq).1.radius = radius := first.radius
  unfold pushApart
  simp only [distSq, touch, if_false, true_and]
  by_cases same : d = 0
  · obtain ⟨share, positive, proper, moveX, moveY⟩ := separate_first a b 1 0 1
    simp only [same, ne_eq, OfNat.ofNat_ne_zero, not_false_eq_true, zero_pow, if_true]
    refine ⟨-((2 * radius - 1) * share), ?_, ?_, ?_, keeps _ _ _⟩
    · rw [abs_neg, abs_lt]
      constructor <;> nlinarith
    · rw [moveX, first.x, first.radius, second.radius, same]
      simp only [Real.sqrt_one, div_one, one_mul]
      ring
    · rw [moveY, first.y]
      simp
  · simp only [same, pow_eq_zero_iff, ne_eq, OfNat.ofNat_ne_zero, not_false_eq_true, if_false]
    rw [offset.1, offset.2]
    obtain ⟨share, positive, proper, moveX, moveY⟩ := separate_first a b (-d) 0 (d ^ 2)
    rw [Real.sqrt_sq_eq_abs] at moveX moveY
    have away : 0 < |d| := abs_pos.mpr same
    refine ⟨d / |d| * (|d| + (2 * radius - |d|) * share), ?_, ?_, ?_, keeps _ _ _⟩
    · rw [abs_mul, abs_div, abs_abs, div_self away.ne', one_mul, abs_of_nonneg (by nlinarith)]
      nlinarith
    · rw [moveX, first.x, first.radius, second.radius]
      field_simp
      ring
    · rw [moveY, first.y]
      simp

/-- The first row: the players after the first have not moved yet, and all of them are touched. -/
theorem pushRow_contacts {a : PlayerState ℝ} {players : List (PlayerState ℝ)} {d cx cy : ℝ}
    (wide : 1 / 4 ≤ radius) (first : BodyAt (cx + d) cy radius a) (near : |d| < 2 * radius)
    (pinned : ∀ b ∈ players, BodyAt cx cy radius b) :
    ∀ b ∈ players, ⟨a.playerId, b.playerId⟩ ∈ (pushRow a players).2.2 := by
  induction players generalizing a d with
  | nil => simp
  | cons c rest ih =>
    obtain ⟨touched, e, close, moved⟩ :=
      pushApart_axis wide first (pinned c List.mem_cons_self) near
    have later := ih moved close fun b member => pinned b (List.mem_cons_of_mem c member)
    have sameId : (pushApart a c).1.playerId = a.playerId := by
      obtain ⟨aX, aY, bX, bY, flag, pushed⟩ := pushApart_moves a c
      rw [pushed]
    rw [sameId] at later
    intro b member
    simp only [pushRow, touched, if_true]
    rcases List.mem_cons.mp member with rfl | inner
    · exact List.mem_cons_self
    · exact List.mem_cons_of_mem _ (later b inner)

/-- Among at least two players at one point, everybody is in contact with somebody. -/
theorem pushRows_contact {players : List (PlayerState ℝ)} {cx cy : ℝ} (wide : 1 / 4 ≤ radius)
    (pinned : ∀ p ∈ players, BodyAt cx cy radius p) (several : 2 ≤ players.length)
    {p : PlayerState ℝ} (member : p ∈ players) :
    ∃ pair ∈ (pushRows players.length players).2, ∃ q ∈ players,
      pair.opponent p.playerId = some q.playerId := by
  cases players with
  | nil => exact absurd member (by simp)
  | cons a rest =>
    have first : BodyAt (cx + 0) cy radius a := by
      rw [add_zero]
      exact pinned a List.mem_cons_self
    have contacts := pushRow_contacts wide first (by simp; linarith) fun b inner =>
      pinned b (List.mem_cons_of_mem a inner)
    simp only [List.length_cons, pushRows]
    rcases List.mem_cons.mp member with rfl | later
    · obtain ⟨b, inner⟩ := List.exists_mem_of_length_pos (l := rest) (by
        rw [List.length_cons] at several
        omega)
      refine ⟨_, List.mem_append_left _ (contacts b inner), b, List.mem_cons_of_mem p inner, ?_⟩
      simp only [CollisionPair.opponent, if_true]
    · refine ⟨_, List.mem_append_left _ (contacts p later), ?_⟩
      by_cases same : a.playerId = p.playerId
      · exact ⟨p, member, by simp only [CollisionPair.opponent, same, if_true]⟩
      · exact ⟨a, List.mem_cons_self, by simp only [CollisionPair.opponent, same, if_true, if_false]⟩

/-! ## The contact of the tagger -/

/-- The room the storm leaves at a tick is less than a body needs. -/
def StormClosed (w : World ℝ) (radius : ℝ) (tick : Nat) : Prop :=
  (w.map.cols : ℝ) * w.map.tileSize - 2 * tick * w.map.barrierSpeed < 2 * radius

theorem stormRect_narrow {w : World ℝ} (square : w.map.cols = w.map.rows) (positive : 0 < radius)
    (closed : StormClosed w radius w.tick) : Narrow (stormRect w) radius := by
  have size : (w.map.cols : ℝ) * w.map.tileSize - w.tick * w.map.barrierSpeed * 2 < 2 * radius := by
    unfold StormClosed at closed
    linarith
  unfold Narrow stormRect stormInset
  simp only [JsNumber.ofInt, JsNumber.ofRat, Rat.cast_natCast, Int.cast_natCast, Rat.cast_ofNat,
    ← square]
  refine ⟨max_lt ?_ ?_, max_lt ?_ ?_⟩
  · linarith
  · exact_mod_cast size
  · linarith
  · exact_mod_cast size

theorem movePlayer_alive (map : WorldMap ℝ) (storm : StormRect ℝ) (inputs : List (ResolvedInput ℝ))
    (p : PlayerState ℝ) : (movePlayer map storm inputs p).alive = p.alive :=
  congrArg (·.2.1) (role_movePlayer map storm inputs p)

/-- Under a closed storm every survivor touches somebody, whatever the inputs. -/
theorem moveAll_contact {w : World ℝ} (square : w.map.cols = w.map.rows)
    (closed : StormClosed w radius w.tick) (wide : 1 / 4 ≤ radius)
    (radii : ∀ p ∈ w.players, p.alive = true → p.radius = radius)
    (several : 2 ≤ (survivors w).length) (inputs : List (ResolvedInput ℝ)) {p : PlayerState ℝ}
    (member : p ∈ w.players) (alive : p.alive = true) :
    ∃ pair ∈ (moveAll w inputs).2, ∃ q ∈ w.players, q.alive = true ∧
      pair.opponent p.playerId = some q.playerId := by
  obtain ⟨tiles, changes, equal⟩ := applyMapTimeline_frame w
  unfold moveAll runCollisions collide resolvePlayerCollisions
  rw [equal]
  dsimp only
  set world : World ℝ :=
    { w with map := { w.map with tiles := tiles }, tileChanges := changes } with frame
  have narrow : Narrow (stormRect world) radius := stormRect_narrow square (by linarith) closed
  set move := movePlayer world.map (stormRect world) inputs with moving
  have moves (q : PlayerState ℝ) : (move q).alive = q.alive ∧ (move q).playerId = q.playerId :=
    ⟨movePlayer_alive _ _ _ q, congrArg Prod.fst (role_movePlayer _ _ _ q)⟩
  set active := sortById PlayerState.playerId ((w.players.map move).filter PlayerState.alive)
  have pinned : ∀ q ∈ active,
      BodyAt (centre (stormRect world)).1 (centre (stormRect world)).2 radius q := by
    intro q inside
    obtain ⟨image, lives⟩ := List.mem_filter.mp (mem_sortById.mp inside)
    obtain ⟨source, origin, rfl⟩ := List.mem_map.mp image
    rw [(moves source).1] at lives
    have size := radii source origin lives
    obtain ⟨x, y⟩ := movePlayer_narrow (size ▸ narrow) lives world.map inputs
    exact ⟨x, y, (congrArg Prod.snd (body_movePlayer _ _ _ source)).trans size⟩
  have count : active.length = (survivors w).length := by
    rw [(sortById_perm _ _).length_eq, List.filter_map, List.length_map, survivors]
    congr 2
    funext q
    exact (moves q).1
  have inside : move p ∈ active := by
    refine mem_sortById.mpr (List.mem_filter.mpr ⟨List.mem_map_of_mem member, ?_⟩)
    exact (moves p).1.trans alive
  obtain ⟨pair, contact, q, touched, met⟩ :=
    pushRows_contact wide pinned (count ▸ several) inside
  obtain ⟨image, lives⟩ := List.mem_filter.mp (mem_sortById.mp touched)
  obtain ⟨source, origin, rfl⟩ := List.mem_map.mp image
  rw [(moves p).2, (moves source).2] at met
  exact ⟨pair, contact, source, origin, (moves source).1.symm.trans lives, met⟩

/-! ## The run -/

/-- A match on a square map under a moving storm: one size of living players, one tagger. -/
structure StormMatch (w : World ℝ) (radius : ℝ) : Prop where
  square : w.map.cols = w.map.rows
  shrinking : 0 < w.map.barrierSpeed
  positive : 0 < radius
  radii : ∀ p ∈ w.players, p.alive = true → p.radius = radius
  distinct : DistinctIds w.players
  tagger : ∃ p ∈ w.players, p.alive = true ∧ ∀ q ∈ w.players, q.isTagger = true ↔ q = p
  clock : w.taggerChangedAtTick ≤ w.tick

theorem tracks_of_tagger {K : Type} {w : World K} (distinct : DistinctIds w.players)
    (tagger : ∃ p ∈ w.players, p.alive = true ∧ ∀ q ∈ w.players, q.isTagger = true ↔ q = p)
    (clock : w.taggerChangedAtTick ≤ w.tick) : ∃ t, Tracks t w ∧ t.Held := by
  obtain ⟨p, member, alive, only⟩ := tagger
  let t : Token Nat := ⟨{ id | ∃ q ∈ w.players, q.playerId = id ∧ q.alive = true }, p.playerId⟩
  refine ⟨t, ⟨⟨distinct, fun id => Iff.rfl, fun q inside => ?_⟩, clock⟩, p, member, rfl, alive⟩
  rw [only q inside]
  exact ⟨congrArg PlayerState.playerId, List.inj_on_of_nodup_map distinct inside member⟩

theorem StormMatch.tracks {w : World ℝ} (inProgress : StormMatch w radius) :
    ∃ t, Tracks t w ∧ t.Held :=
  tracks_of_tagger inProgress.distinct inProgress.tagger inProgress.clock

theorem StormMatch.step {w : World ℝ} (inProgress : StormMatch w radius)
    (requests : TickRequests ℝ) : StormMatch (stepWorld w requests).world radius := by
  obtain ⟨t, tracks, held⟩ := inProgress.tracks
  obtain ⟨u, steps, later, _⟩ := stepWorld_tracks tracks requests
  have shape := stepWorld_sameShape tracks.distinct requests
  refine ⟨?_, ?_, inProgress.positive, fun q member alive => ?_, later.distinct,
    later.shows.existsUnique (steps.held held), later.clock⟩
  · rw [shape.cols, shape.rows]
    exact inProgress.square
  · rw [shape.barrierSpeed]
    exact inProgress.shrinking
  · have live := steps.live_subset ((later.shows.live_of_mem member).mp alive)
    obtain ⟨p, before, same, lived⟩ := (tracks.shows.live_iff _).mp live
    rw [shape.radius tracks.distinct before member same.symm]
    exact inProgress.radii p before lived

/-- A runner dies in every tick of a closed storm that starts with three survivors. -/
theorem StormMatch.eliminates {w : World ℝ} (inProgress : StormMatch w radius) (wide : 1 / 4 ≤ radius)
    (closed : StormClosed w radius (w.tick + 1)) (several : 3 ≤ (survivors w).length)
    (requests : TickRequests ℝ) :
    ∃ p ∈ w.players, ∃ q ∈ (stepWorld w requests).world.players,
      q.playerId = p.playerId ∧ p.alive = true ∧ q.alive = false ∧ q.isTagger = false := by
  obtain ⟨t, tracks, held⟩ := inProgress.tracks
  obtain ⟨u, first, live, shown, tick⟩ := afterRequests_tracks tracks requests
  have shape := afterRequests_sameShape w requests
  have radii : ∀ p ∈ (afterRequests w requests).players, p.alive = true → p.radius = radius := by
    intro q member alive
    have lived := (shown.shows.live_of_mem member).mp alive
    rw [live] at lived
    obtain ⟨p, before, same, lives⟩ := (tracks.shows.live_iff _).mp lived
    rw [shape.radius tracks.distinct before member same.symm]
    exact inProgress.radii p before lives
  have crowd : 2 ≤ (survivors (afterRequests w requests)).length :=
    le_trans (by omega) (survivors_length_le shown tracks live.ge)
  have narrowed : StormClosed (afterRequests w requests) radius (afterRequests w requests).tick := by
    rw [tick, StormClosed, shape.cols, shape.tileSize, shape.barrierSpeed]
    exact closed
  have square : (afterRequests w requests).map.cols = (afterRequests w requests).map.rows := by
    rw [shape.cols, shape.rows]
    exact inProgress.square
  obtain ⟨u', v, steps, live', _, second, after, _, dead⟩ := stepWorld_contacts tracks requests
  have held' : u'.Held := steps.held held
  have tagger : u'.holder ∈ u.live := by
    rw [live, ← live']
    exact held'
  obtain ⟨p, member, same, alive⟩ := (shown.shows.live_iff _).mp tagger
  obtain ⟨pair, contact, victim, origin, lives, met⟩ :=
    moveAll_contact square narrowed wide radii crowd requests.inputs member alive
  rw [same] at met
  have gone : victim.playerId ∉ v.live := dead held' pair contact victim.playerId met
  have lived : victim.playerId ∈ t.live := live ▸ (shown.shows.live_of_mem origin).mp lives
  obtain ⟨before, inside, beforeId, beforeLives⟩ := (tracks.shows.live_iff _).mp lived
  obtain ⟨left, image, leftId⟩ :=
    (stepWorld_sameShape tracks.distinct requests).exists_mem inside
  rw [beforeId] at leftId
  have noLife : left.alive = false := by
    rw [← Bool.not_eq_true, after.shows.live_of_mem image, leftId]
    exact gone
  refine ⟨before, inside, left, image, leftId.trans beforeId.symm, beforeLives, noLife, ?_⟩
  rw [← Bool.not_eq_true, after.shows.holds_iff left image, leftId]
  exact fun equal => gone (equal ▸ second.held held')

/-- The worlds of a run, one tick apart. -/
noncomputable def worldAt (w : World ℝ) (requests : Nat → TickRequests ℝ) : Nat → World ℝ
  | 0 => w
  | n + 1 => (stepWorld (worldAt w requests n) (requests n)).world

theorem worldAt_match {w : World ℝ} (inProgress : StormMatch w radius)
    (requests : Nat → TickRequests ℝ) (n : Nat) :
    StormMatch (worldAt w requests n) radius ∧ (worldAt w requests n).tick = w.tick + n ∧
      SameShape w (worldAt w requests n) := by
  induction n with
  | zero => exact ⟨inProgress, rfl, SameShape.refl w⟩
  | succ n ih =>
    obtain ⟨current, tick, shape⟩ := ih
    obtain ⟨t, tracks, _⟩ := current.tracks
    obtain ⟨_, _, _, later⟩ := stepWorld_tracks tracks (requests n)
    refine ⟨current.step (requests n), ?_, shape.trans (stepWorld_sameShape tracks.distinct (requests n))⟩
    rw [worldAt, later, tick, Nat.add_assoc]

theorem StormMatch.survivors_lt {w : World ℝ} (inProgress : StormMatch w radius)
    (wide : 1 / 4 ≤ radius) (closed : StormClosed w radius (w.tick + 1))
    (several : 3 ≤ (survivors w).length) (requests : TickRequests ℝ) :
    (survivors (stepWorld w requests).world).length < (survivors w).length := by
  obtain ⟨t, tracks, _⟩ := inProgress.tracks
  obtain ⟨u, steps, later, _⟩ := stepWorld_tracks tracks requests
  obtain ⟨p, member, q, image, same, alive, dead, _⟩ :=
    inProgress.eliminates wide closed several requests
  refine survivors_length_lt tracks later steps.live_subset
    ((tracks.shows.live_of_mem member).mp alive) fun lives => ?_
  rw [← same, ← later.shows.live_of_mem image, dead] at lives
  exact absurd lives (by simp)

theorem StormMatch.survivors_le {w : World ℝ} (inProgress : StormMatch w radius)
    (requests : TickRequests ℝ) :
    (survivors (stepWorld w requests).world).length ≤ (survivors w).length := by
  obtain ⟨t, tracks, _⟩ := inProgress.tracks
  obtain ⟨u, steps, later, _⟩ := stepWorld_tracks tracks requests
  exact survivors_length_le tracks later steps.live_subset

theorem StormClosed.mono {w : World ℝ} (shrinking : 0 < w.map.barrierSpeed) {early late : Nat}
    (closed : StormClosed w radius early) (order : early ≤ late) : StormClosed w radius late := by
  unfold StormClosed at closed ⊢
  have ticks : (early : ℝ) ≤ late := by exact_mod_cast order
  nlinarith

/-- A closed storm takes one survivor a tick until two are left. -/
theorem worldAt_survivors {w : World ℝ} (inProgress : StormMatch w radius) (wide : 1 / 4 ≤ radius)
    (requests : Nat → TickRequests ℝ) {n : Nat} (closed : StormClosed w radius (w.tick + n + 1))
    (k : Nat) :
    (survivors (worldAt w requests (n + k))).length ≤
      max 2 ((survivors (worldAt w requests n)).length - k) := by
  induction k with
  | zero => exact le_max_right _ _
  | succ k ih =>
    obtain ⟨current, tick, shape⟩ := worldAt_match inProgress requests (n + k)
    have narrowed : StormClosed (worldAt w requests (n + k)) radius
        ((worldAt w requests (n + k)).tick + 1) := by
      have later := closed.mono inProgress.shrinking (show _ ≤ w.tick + (n + k) + 1 by omega)
      rw [tick, StormClosed, shape.cols, shape.tileSize, shape.barrierSpeed]
      exact later
    rw [← Nat.add_assoc, worldAt]
    by_cases several : 3 ≤ (survivors (worldAt w requests (n + k))).length
    · have fewer := current.survivors_lt wide narrowed several (requests (n + k))
      omega
    · have noMore := current.survivors_le (requests (n + k))
      omega

/-- The first tick at which the storm is closed. -/
def IsClosingTick (w : World ℝ) (radius : ℝ) (closing : Nat) : Prop :=
  IsLeast { tick | StormClosed w radius tick } closing

theorem closingTick_exists {w : World ℝ} (inProgress : StormMatch w radius) :
    ∃ closing, IsClosingTick w radius closing := by
  have closes : ∃ tick, StormClosed w radius tick := by
    have shrinking := inProgress.shrinking
    obtain ⟨tick, bound⟩ := exists_nat_gt
      (((w.map.cols : ℝ) * w.map.tileSize - 2 * radius) / (2 * w.map.barrierSpeed))
    refine ⟨tick, ?_⟩
    rw [div_lt_iff₀ (by linarith)] at bound
    unfold StormClosed
    linarith
  classical
  exact ⟨Nat.find closes, Nat.find_spec closes, fun tick closed => Nat.find_min' closes closed⟩

theorem storm_ends_match {w : World ℝ} (inProgress : StormMatch w radius) (wide : 1 / 4 ≤ radius)
    (requests : Nat → TickRequests ℝ) :
    ∃ closing, IsClosingTick w radius closing ∧
      (∀ n, closing ≤ (worldAt w requests n).tick + 1 →
        3 ≤ (survivors (worldAt w requests n)).length →
        ∃ p ∈ (worldAt w requests n).players, ∃ q ∈ (worldAt w requests (n + 1)).players,
          q.playerId = p.playerId ∧ p.alive = true ∧ q.alive = false ∧ q.isTagger = false) ∧
      (∀ n, (worldAt w requests n).tick + 1 = closing →
        3 ≤ (survivors (worldAt w requests n)).length →
        ∃ m, (worldAt w requests m).tick =
            closing + (survivors (worldAt w requests n)).length - 3 ∧
          isFinished (worldAt w requests m) = true) ∧
      ∃ n, isFinished (worldAt w requests n) = true := by
  obtain ⟨closing, first⟩ := closingTick_exists inProgress
  have closedAt (n : Nat) (reached : closing ≤ (worldAt w requests n).tick + 1) :
      StormClosed w radius (w.tick + n + 1) := by
    rw [(worldAt_match inProgress requests n).2.1] at reached
    exact StormClosed.mono inProgress.shrinking first.1 reached
  have finishes (n : Nat) (reached : closing ≤ (worldAt w requests n).tick + 1) (m : Nat)
      (enough : (survivors (worldAt w requests n)).length ≤ m + 2) :
      isFinished (worldAt w requests (n + m)) = true := by
    have bound := worldAt_survivors inProgress wide requests (closedAt n reached) m
    have few : (survivors (worldAt w requests (n + m))).length ≤ Gameplay.survivorsToWin := by
      unfold Gameplay.survivorsToWin
      omega
    exact decide_eq_true few
  refine ⟨closing, first, fun n reached several => ?_, fun n reached several => ?_, ?_⟩
  · obtain ⟨current, tick, shape⟩ := worldAt_match inProgress requests n
    have narrowed := closedAt n reached
    rw [← tick] at narrowed
    have closedNow : StormClosed (worldAt w requests n) radius
        ((worldAt w requests n).tick + 1) := by
      rw [StormClosed, shape.cols, shape.tileSize, shape.barrierSpeed]
      exact narrowed
    rw [worldAt]
    exact current.eliminates wide closedNow several (requests n)
  · refine ⟨n + ((survivors (worldAt w requests n)).length - 2), ?_, finishes n reached.ge _ ?_⟩
    · have start := (worldAt_match inProgress requests n).2.1
      rw [(worldAt_match inProgress requests _).2.1]
      omega
    · omega
  · refine ⟨closing + (survivors (worldAt w requests closing)).length, finishes closing ?_ _ ?_⟩
    · rw [(worldAt_match inProgress requests closing).2.1]
      omega
    · omega

/-! ## Bodies too small for the push-apart -/

/-- Three players at rest on one point of a map that is closed at the first tick. -/
noncomputable def threeOnAPoint (radius : ℝ) : World ℝ :=
  let player (id : Nat) : PlayerState ℝ :=
    { playerId := id, x := 1 / 2, y := 1 / 2, vx := 0, vy := 0, facingX := 0, facingY := 1
      radius, sightRange := 1, colorIndex := id - 1, alive := true, isTagger := id = 3
      connected := true, effects := fun _ => none, cooldowns := fun _ => none, loadout := .dash
      emoji := none, stats := emptyStats }
  let map : WorldMap ℝ :=
    { mapId := "point", cols := 1, rows := 1, tileSize := 1, tiles := [[.floor]]
      barrierSpeed := 1, timeline := fun _ => [] }
  { tick := 0, simulationHz := Network.simulationHz, map, players := [player 1, player 2, player 3]
    storm := none, tileChanges := [], taggerChangedAtTick := 0, randomState := 1 }

theorem threeOnAPoint_match {radius : ℝ} (positive : 0 < radius) :
    StormMatch (threeOnAPoint radius) radius where
  square := rfl
  shrinking := one_pos
  positive := positive
  radii := by simp [threeOnAPoint]
  distinct := by simp [DistinctIds, threeOnAPoint]
  tagger := by simp [threeOnAPoint]
  clock := le_rfl

theorem storm_ends_match_threeOnAPoint :
    ∃ n, isFinished (worldAt (threeOnAPoint (512 / 5)) (fun _ => ⟨[], [], []⟩) n) = true :=
  have ⟨_, _, _, _, ends⟩ := storm_ends_match (threeOnAPoint_match (show (0 : ℝ) < 512 / 5 by norm_num))
    (by norm_num) fun _ => ⟨[], [], []⟩
  ends

theorem pushPower_rest {p : PlayerState ℝ} (restX : p.vx = 0) (restY : p.vy = 0) (nx ny : ℝ) :
    pushPower p nx ny = 1 := by
  unfold pushPower
  rw [restX, restY]
  simp [JsNumber.ofRat, Gameplay.pushBasePower]

theorem separate_rest {a b : PlayerState ℝ} (restA : a.vx = 0 ∧ a.vy = 0) (restB : b.vx = 0 ∧ b.vy = 0) :
    (separate a b 1 0 1).1.x = a.x - (a.radius + b.radius - 1) / 2 ∧
    (separate a b 1 0 1).1.y = a.y ∧
    (separate a b 1 0 1).2.x = b.x + (a.radius + b.radius - 1) / 2 ∧
    (separate a b 1 0 1).2.y = b.y := by
  have root : JsNumber.sqrt (1 : ℝ) = 1 := Real.sqrt_one
  unfold separate
  simp only [pushPower_rest restA.1 restA.2, pushPower_rest restB.1 restB.2, root]
  refine ⟨?_, ?_, ?_, ?_⟩ <;> ring

theorem pushApart_far {a b : PlayerState ℝ}
    (far : (a.radius + b.radius) * (a.radius + b.radius) ≤ (b.x - a.x) * (b.x - a.x) + (b.y - a.y) * (b.y - a.y)) :
    pushApart a b = (a, b, false) := by
  unfold pushApart
  exact if_pos far

theorem pushApart_point {a b : PlayerState ℝ} {cx cy : ℝ} (positive : 0 < radius)
    (first : BodyAt cx cy radius a) (second : BodyAt cx cy radius b) :
    pushApart a b = ((separate a b 1 0 1).1, (separate a b 1 0 1).2, true) := by
  have distSq : (b.x - a.x) * (b.x - a.x) + (b.y - a.y) * (b.y - a.y) = 0 := by
    rw [first.x, first.y, second.x, second.y]
    ring
  have touch : ¬ ((a.radius + b.radius) * (a.radius + b.radius) ≤ 0) := by
    rw [first.radius, second.radius]
    nlinarith
  unfold pushApart
  simp only [distSq, touch, if_false, if_true]

/-- Two small players at rest are taken a pixel apart, out of the reach of a third between them. -/
theorem pushRows_rest {a b c : PlayerState ℝ} {cx cy : ℝ} (positive : 0 < radius)
    (small : radius ≤ 1 / 6) (pinned : ∀ p ∈ [a, b, c], BodyAt cx cy radius p)
    (rest : ∀ p ∈ [a, b, c], p.vx = 0 ∧ p.vy = 0) :
    (pushRows 3 [a, b, c]).2 = [⟨a.playerId, b.playerId⟩] := by
  simp only [List.mem_cons, List.not_mem_nil, or_false, forall_eq_or_imp, forall_eq] at pinned rest
  obtain ⟨atA, atB, atC⟩ := pinned
  obtain ⟨restA, restB, _⟩ := rest
  obtain ⟨aX, aY, bX, bY⟩ := separate_rest restA restB
  have farA : pushApart (separate a b 1 0 1).1 c = ((separate a b 1 0 1).1, c, false) := by
    apply pushApart_far
    rw [aX, aY, atA.x, atA.y, atC.x, atC.y, atC.radius, atA.radius, atB.radius]
    rw [show (separate a b 1 0 1).1.radius = radius from atA.radius]
    nlinarith
  have farB : pushApart (separate a b 1 0 1).2 c = ((separate a b 1 0 1).2, c, false) := by
    apply pushApart_far
    rw [bX, bY, atB.x, atB.y, atC.x, atC.y, atC.radius, atA.radius, atB.radius]
    rw [show (separate a b 1 0 1).2.radius = radius from atB.radius]
    nlinarith
  simp only [pushRows, pushRow, pushApart_point positive atA atB, farA, farB, if_true]
  rfl

theorem movePlayer_rest (map : WorldMap ℝ) (storm : StormRect ℝ) (p : PlayerState ℝ)
    (alive : p.alive = true) :
    (movePlayer map storm [] p).vx = 0 ∧ (movePlayer map storm [] p).vy = 0 := by
  unfold movePlayer
  simp only [alive, not_true_eq_false, if_false]
  exact ⟨rfl, rfl⟩

/-- At the first tick nobody but the first two, of which none is the tagger, touches anybody. -/
theorem threeOnAPoint_pairs (positive : 0 < radius) (small : radius ≤ 1 / 6) :
    (beforeTags (threeOnAPoint radius) ⟨[], [], []⟩).2 = [⟨1, 2⟩] := by
  have narrow : Narrow (stormRect (beginTick (threeOnAPoint radius))) radius := by
    refine stormRect_narrow rfl positive ?_
    simp only [StormClosed, beginTick, threeOnAPoint]
    norm_num
    linarith
  have start : beforeTags (threeOnAPoint radius) ⟨[], [], []⟩ =
      moveAll (beginTick (threeOnAPoint radius)) [] := rfl
  set w := beginTick (threeOnAPoint radius) with begun
  obtain ⟨a, b, c, players, ids, living⟩ : ∃ a b c : PlayerState ℝ, w.players = [a, b, c] ∧
      (a.playerId = 1 ∧ b.playerId = 2 ∧ c.playerId = 3) ∧
      ∀ p ∈ [a, b, c], p.alive = true ∧ p.radius = radius := by
    refine ⟨_, _, _, rfl, ⟨rfl, rfl, rfl⟩, ?_⟩
    simp [tickCooldowns, expireEffects]
  set move := movePlayer w.map (stormRect w) [] with moving
  have roles (p : PlayerState ℝ) : (move p).alive = p.alive ∧ (move p).playerId = p.playerId :=
    ⟨movePlayer_alive _ _ _ p, congrArg Prod.fst (role_movePlayer _ _ _ p)⟩
  have active : sortById PlayerState.playerId (([a, b, c].map move).filter PlayerState.alive) =
      [move a, move b, move c] := by
    simp [sortById, List.filter, roles, living, ids]
  have pairs : (moveAll w []).2 = (pushRows 3 [move a, move b, move c]).2 := by
    show (resolvePlayerCollisions (w.players.map move)).2 = _
    rw [players, resolvePlayerCollisions, active]
    rfl
  have pinned : ∀ p ∈ [move a, move b, move c],
      BodyAt (centre (stormRect w)).1 (centre (stormRect w)).2 radius p := by
    have one (p : PlayerState ℝ) (member : p ∈ [a, b, c]) :
        BodyAt (centre (stormRect w)).1 (centre (stormRect w)).2 radius (move p) := by
      obtain ⟨alive, size⟩ := living p member
      obtain ⟨x, y⟩ := movePlayer_narrow (size ▸ narrow) alive w.map []
      exact ⟨x, y, (congrArg Prod.snd (body_movePlayer _ _ _ p)).trans size⟩
    intro q member
    obtain ⟨p, origin, rfl⟩ := List.mem_map.mp (show q ∈ [a, b, c].map move from member)
    exact one p origin
  have rest : ∀ p ∈ [move a, move b, move c], p.vx = 0 ∧ p.vy = 0 := by
    intro q member
    obtain ⟨p, origin, rfl⟩ := List.mem_map.mp (show q ∈ [a, b, c].map move from member)
    exact movePlayer_rest _ _ p (living p origin).1
  rw [start, pairs, pushRows_rest positive small pinned rest, (roles a).2, (roles b).2, ids.1, ids.2.1]

theorem threeOnAPoint_closing (positive : 0 < radius) (small : radius ≤ 1 / 6) :
    IsClosingTick (threeOnAPoint radius) radius 1 := by
  constructor
  · simp only [Set.mem_ofPred_eq, StormClosed, threeOnAPoint]
    norm_num
    linarith
  · intro tick closed
    by_contra early
    have zero : tick = 0 := by omega
    subst zero
    simp only [Set.mem_ofPred_eq, StormClosed, threeOnAPoint] at closed
    norm_num at closed
    linarith

theorem storm_spares_small_bodies :
    ¬ ∀ (w : World ℝ) (radius : ℝ), StormMatch w radius →
      ∀ (requests : Nat → TickRequests ℝ) (closing : Nat), IsClosingTick w radius closing →
      ∀ n, closing ≤ (worldAt w requests n).tick + 1 →
        3 ≤ (survivors (worldAt w requests n)).length →
        ∃ p ∈ (worldAt w requests n).players, ∃ q ∈ (worldAt w requests (n + 1)).players,
          q.playerId = p.playerId ∧ p.alive = true ∧ q.alive = false ∧ q.isTagger = false := by
  intro claim
  have positive : (0 : ℝ) < 1 / 10 := by norm_num
  have small : (1 / 10 : ℝ) ≤ 1 / 6 := by norm_num
  have inProgress := threeOnAPoint_match positive
  obtain ⟨p, member, q, image, same, alive, dead, _⟩ := claim (threeOnAPoint (1 / 10)) (1 / 10)
    inProgress (fun _ => ⟨[], [], []⟩) 1 (threeOnAPoint_closing positive small) 0 le_rfl
    (by simp [worldAt, survivors, threeOnAPoint])
  obtain ⟨t, tracks, _⟩ := inProgress.tracks
  have spared : ∀ tagger,
      livingTagger (beforeTags (threeOnAPoint (1 / 10)) ⟨[], [], []⟩).1 = some tagger →
      ∀ pair ∈ (beforeTags (threeOnAPoint (1 / 10)) ⟨[], [], []⟩).2,
        pair.opponent tagger.playerId = none := by
    intro tagger found pair touches
    have holder : tagger.playerId = 3 := by
      have begun : DistinctIds (beginTick (threeOnAPoint (1 / 10))).players :=
        SameRoles.distinct (beginTick_sameRoles _) inProgress.distinct
      have roles : SameRoles (threeOnAPoint (1 / 10))
          (beforeTags (threeOnAPoint (1 / 10)) ⟨[], [], []⟩).1 :=
        (beginTick_sameRoles _).trans (moveAll_sameRoles begun [])
      obtain ⟨member, flagged, _⟩ := livingTagger_some found
      have shown : role tagger ∈ (threeOnAPoint (1 / 10)).players.map role := by
        have same : (beforeTags (threeOnAPoint (1 / 10)) ⟨[], [], []⟩).1.players.map role =
            (threeOnAPoint (1 / 10)).players.map role := roles
        exact same ▸ List.mem_map_of_mem member
      simp [threeOnAPoint, role, flagged] at shown
      omega
    rw [threeOnAPoint_pairs positive small, List.mem_singleton] at touches
    rw [touches, holder]
    rfl
  obtain ⟨u, live, after⟩ := stepWorld_noContact tracks ⟨[], [], []⟩ spared
  have lived : p.playerId ∈ t.live := (tracks.shows.live_of_mem member).mp alive
  rw [← live, ← same, ← after.shows.live_of_mem image, dead] at lived
  exact absurd lived (by simp)

end SwitchRemake.Simulation

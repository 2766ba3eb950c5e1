import SwitchRemake.Lib.ShortestPath
import SwitchRemake.Training.Routes

/-!
# Shortest routes

`routeToward` is a shortest path to the reachable tile nearest to its target.
-/

namespace SwitchRemake.Training
open Lib Simulation

variable {K : Type} {map : WorldMap K}

/-- Tiles next to each other, all of them walkable, from the first to the last. -/
structure WalkTo (map : WorldMap K) (start last : TilePoint) (path : List TilePoint) : Prop where
  first : path.head? = some start
  ends : path.getLast? = some last
  adjacent : path.IsChain fun a b => tileDistance a b = 1
  walkable : ∀ tile ∈ path, isWalkable map tile = true

def Reachable (map : WorldMap K) (start tile : TilePoint) : Prop := ∃ path, WalkTo map start tile path

/-- Where a route starts: on its source, or else on a walkable tile nearest to it. -/
def StartsAt (map : WorldMap K) (source start : TilePoint) : Prop :=
  isWalkable map source = true ∧ start = source ∨
    isWalkable map source = false ∧ isWalkable map start = true ∧
      ∀ tile, isWalkable map tile = true → tileDistance start source ≤ tileDistance tile source

theorem mem_neighbours {a b : TilePoint} :
    b ∈ neighbours map a ↔ tileDistance a b = 1 ∧ isWalkable map b = true := by
  obtain ⟨ax, ay⟩ := a
  obtain ⟨bx, by_⟩ := b
  simp only [neighbours, List.mem_filter, cardinalDirections, List.map_cons, List.map_nil,
    List.mem_cons, List.not_mem_nil, or_false, Prod.mk.injEq, tileDistance]
  refine and_congr_left fun _ => ?_
  omega

theorem WalkTo.steps {start last : TilePoint} {path : List TilePoint}
    (walk : WalkTo map start last path) : Steps (neighbours map) start (path.length - 1) last := by
  refine Steps.of_path walk.first walk.ends ?_
  refine walk.adjacent.imp_of_mem_imp ?_
  exact fun a b _ member adjacent => mem_neighbours.mpr ⟨adjacent, walk.walkable b member⟩

/-- A route back from a node that was found. -/
theorem walk_of_chain {start last : TilePoint} {path : List TilePoint}
    (walkable : isWalkable map start = true) (first : path.head? = some start)
    (ends : path.getLast? = some last) (chain : path.IsChain fun a b => b ∈ neighbours map a) :
    WalkTo map start last path := by
  refine ⟨first, ends, chain.imp fun a b next => (mem_neighbours.mp next).1, ?_⟩
  refine List.IsChain.induction (isWalkable map · = true) path chain ?_ fun present => ?_
  · exact fun a b next _ => (mem_neighbours.mp next).2
  · have same : path.head present = start :=
      Option.some.inj ((List.head?_eq_some_head present).symm.trans first)
    rw [same]
    exact walkable

/-! ## The nearest walkable tile -/

theorem nearer_least {desired best : TilePoint} {candidates : List TilePoint}
    {start : Option TilePoint} (found : candidates.foldl (nearer desired) start = some best) :
    (start = some best ∨ best ∈ candidates) ∧
      ∀ tile, start = some tile ∨ tile ∈ candidates →
        tileDistance best desired ≤ tileDistance tile desired := by
  induction candidates generalizing start with
  | nil =>
    refine ⟨.inl found, ?_⟩
    rintro tile (same | member)
    · cases found.symm.trans same
      exact le_rfl
    · cases member
  | cons candidate rest ih =>
    obtain ⟨source, least⟩ := ih found
    cases start with
    | none =>
      have first : some candidate = some best ∨ best ∈ rest := source
      refine ⟨.inr (List.mem_cons.mpr (first.imp_left fun same => (Option.some.inj same).symm)), ?_⟩
      rintro tile (same | member)
      · cases same
      · rcases List.mem_cons.mp member with rfl | later
        · exact least tile (.inl rfl)
        · exact least tile (.inr later)
    | some before =>
      by_cases closer : tileDistance candidate desired < tileDistance before desired
      · have taken : nearer desired (some before) candidate = some candidate := if_pos closer
        rw [taken] at source least
        refine ⟨.inr (List.mem_cons.mpr (source.imp_left fun same => (Option.some.inj same).symm)), ?_⟩
        rintro tile (same | member)
        · cases same
          exact (least candidate (.inl rfl)).trans closer.le
        · rcases List.mem_cons.mp member with rfl | later
          · exact least tile (.inl rfl)
          · exact least tile (.inr later)
      · have kept : nearer desired (some before) candidate = some before := if_neg closer
        rw [kept] at source least
        refine ⟨source.imp_right (List.mem_cons_of_mem candidate), ?_⟩
        rintro tile (same | member)
        · exact least tile (.inl same)
        · rcases List.mem_cons.mp member with rfl | later
          · exact (least before (.inl rfl)).trans (not_lt.mp closer)
          · exact least tile (.inr later)

theorem nearestWalkable_least {desired best : TilePoint}
    (found : nearestWalkable map desired = some best) :
    isWalkable map best = true ∧ ∀ tile, isWalkable map tile = true →
      tileDistance best desired ≤ tileDistance tile desired := by
  obtain ⟨source, least⟩ := nearer_least found
  refine ⟨?_, fun tile walkable => least tile (.inr ?_)⟩
  · rcases source with none_ | member
    · cases none_
    · exact (List.mem_filter.mp member).2
  · exact List.mem_filter.mpr ⟨isWalkable_inside walkable, walkable⟩

theorem startsAt_isWalkable {source start : TilePoint} (starts : StartsAt map source start) :
    isWalkable map start = true := by
  rcases starts with ⟨walkable, rfl⟩ | ⟨-, walkable, -⟩
  · exact walkable
  · exact walkable

/-! ## Routes -/

/-- Both loops of `routeToward` have stopped by themselves: a turn more changes nothing. -/
structure Ended (map : WorldMap K) (start target : TilePoint) (route : RouteResult) : Prop where
  search (more : Nat) : Search.run (neighbours map) (tileDistance · target)
    (map.cols * map.rows + more) (Search.start (tileDistance · target) start) =
      searchRoute map start target
  back (more : Nat) : Search.traceBack (searchRoute map start target).previous
    ((searchRoute map start target).previous.length + more) (searchRoute map start target).best [] =
      route.tiles

/-- A shortest path to a tile that is nearest to the target among all that can be reached. -/
structure Shortest (map : WorldMap K) (start target : TilePoint) (route : RouteResult) : Prop where
  walk : ∃ last, WalkTo map start last route.tiles ∧
    (∀ tile, Reachable map start tile → tileDistance last target ≤ tileDistance tile target) ∧
    ∀ path, WalkTo map start last path → route.tiles.length ≤ path.length
  reached : route.reachedTarget = true ↔ Reachable map start target

theorem tileDistance_eq_zero {a b : TilePoint} : tileDistance a b = 0 ↔ a = b := by
  obtain ⟨ax, ay⟩ := a
  obtain ⟨bx, by_⟩ := b
  simp only [tileDistance, Prod.mk.injEq]
  omega

theorem routeOf_shortest {start : TilePoint} (walkable : isWalkable map start = true)
    (target : TilePoint) : Shortest map start target (routeOf (searchRoute map start target)) := by
  have inside : ∀ node, ∀ next ∈ neighbours map node, next ∈ mapTiles map.cols map.rows :=
    fun node next member => isWalkable_inside (List.mem_filter.mp member).2
  have optimal : Search.Optimal (neighbours map) (tileDistance · target) start
      (searchRoute map start target) :=
    Search.run_start (isWalkable_inside walkable) inside (mapTiles_length _ _).le
  generalize searchRoute map start target = searched at optimal
  obtain ⟨path, same, first, last, long, chain⟩ := Search.traceBack_path optimal.rooted
    optimal.linked (fun _ _ => rfl) optimal.found le_rfl []
  have tiles : (routeOf searched).tiles = path := same.trans (List.append_nil path)
  have walk := walk_of_chain walkable first last chain
  have least (tile : TilePoint) (reachable : Reachable map start tile) :
      tileDistance searched.best target ≤ tileDistance tile target := by
    obtain ⟨other, leads⟩ := reachable
    exact optimal.distance ▸ optimal.nearest _ tile leads.steps
  refine ⟨⟨searched.best, tiles ▸ walk, least, fun other leads => ?_⟩, ?_⟩
  · have shortest := optimal.shortest _ leads.steps
    have some_ : other ≠ [] := by
      rintro rfl
      cases leads.first
    have positive := List.length_pos_iff.mpr some_
    rw [tiles, long]
    simp only [Search.level] at shortest
    omega
  · rw [routeOf, decide_eq_true_iff, optimal.distance]
    constructor
    · intro zero
      exact tileDistance_eq_zero.mp zero ▸ ⟨path, walk⟩
    · intro reachable
      have near := least target reachable
      rw [tileDistance_eq_zero.mpr rfl] at near
      exact Nat.le_zero.mp near

/-- `routeToward` always returns, with a shortest path to a reachable tile nearest to the target. -/
theorem routeToward_shortest (somewhere : Open map) (source target : TilePoint) :
    ∃ route start, routeToward map source target = some route ∧ StartsAt map source start ∧
      Ended map start target route ∧ Shortest map start target route := by
  have settled (start : TilePoint) (starts : StartsAt map source start) :
      Ended map start target (routeOf (searchRoute map start target)) ∧
        Shortest map start target (routeOf (searchRoute map start target)) :=
    have walkable := startsAt_isWalkable starts
    ⟨⟨searchRoute_ends walkable target, routeOf_ends map start target⟩,
      routeOf_shortest walkable target⟩
  by_cases walkable : isWalkable map source = true
  · have starts : StartsAt map source source := .inl ⟨walkable, rfl⟩
    refine ⟨_, source, ?_, starts, settled source starts⟩
    rw [routeToward, if_pos walkable]
    rfl
  · obtain ⟨start, found⟩ := Option.isSome_iff_exists.mp (nearestWalkable_isSome somewhere source)
    obtain ⟨open_, least⟩ := nearestWalkable_least found
    have starts : StartsAt map source start :=
      .inr ⟨Bool.eq_false_of_not_eq_true walkable, open_, least⟩
    refine ⟨_, start, ?_, starts, settled start starts⟩
    rw [routeToward, if_neg walkable, found]
    rfl

/-- A wall in the middle of three by three tiles. -/
def pillar : WorldMap ℚ where
  mapId := ""
  cols := 3
  rows := 3
  tileSize := 256
  barrierSpeed := 0
  tiles := [[.floor, .floor, .floor], [.floor, .wall, .floor], [.floor, .floor, .floor]]
  timeline := fun _ => []

theorem routeToward_shortest_pillar : ∃ route start,
    routeToward pillar (1, 1) (2, 2) = some route ∧ StartsAt pillar (1, 1) start ∧
      Ended pillar start (2, 2) route ∧ Shortest pillar start (2, 2) route :=
  routeToward_shortest ⟨(0, 0), by decide⟩ (1, 1) (2, 2)

end SwitchRemake.Training

import SwitchRemake.Lib.BreadthFirst
import SwitchRemake.Simulation.World

/-!
# Tiles, straight lines and routes

The functions on a map that `training/training-ground.ts` begins with. A thrown error is `none`.
-/

namespace SwitchRemake.Training
open Lib Simulation

variable {K : Type} [JsNumber K]

abbrev TilePoint := Int × Int

def tileCenter (map : WorldMap K) (tile : TilePoint) : K × K :=
  let half : K := JsNumber.ofRat (1 / 2)
  ((JsNumber.ofInt tile.1 + half) * map.tileSize, (JsNumber.ofInt tile.2 + half) * map.tileSize)

def tileAtPoint (map : WorldMap K) (x y : K) : TilePoint :=
  (JsNumber.floor (x / map.tileSize), JsNumber.floor (y / map.tileSize))

omit [JsNumber K] in
def isWalkable (map : WorldMap K) (tile : TilePoint) : Bool :=
  decide (0 ≤ tile.1 ∧ 0 ≤ tile.2 ∧ tile.1 < map.cols ∧ tile.2 < map.rows) &&
    decide ((map.tiles[tile.2.toNat]?).bind (·[tile.1.toNat]?) ≠ some .wall)

def desiredTile (map : WorldMap K) (x y : K) : TilePoint :=
  (max 0 (min (map.cols - 1) (JsNumber.floor (x * JsNumber.ofInt map.cols))),
    max 0 (min (map.rows - 1) (JsNumber.floor (y * JsNumber.ofInt map.rows))))

/-- The middle line and the two lines a radius beside it, sampled every half radius. -/
def hasClearPath (map : WorldMap K) (source target : K × K) (radius : K) : Bool :=
  let dx := target.1 - source.1
  let dy := target.2 - source.2
  let distance := JsNumber.hypot dx dy
  if distance = 0 then true
  else
    let stepCount := (max 1 (JsNumber.ceil (distance / (radius / JsNumber.ofRat 2)))).toNat
    let sideX := -dy / distance
    let sideY := dx / distance
    [0, radius, -radius].all fun offset => (List.range (stepCount + 1)).all fun step =>
      let t : K := JsNumber.ofInt step / JsNumber.ofInt stepCount
      isWalkable map (tileAtPoint map (source.1 + dx * t + sideX * offset)
        (source.2 + dy * t + sideY * offset))

/-! ## Routes -/

def tileDistance (a b : TilePoint) : Nat := (a.1 - b.1).natAbs + (a.2 - b.2).natAbs

/-- Row by row. -/
def mapTiles (cols rows : Nat) : List TilePoint :=
  (List.range rows).flatMap fun (y : Nat) =>
    (List.range cols).map fun (x : Nat) => ((x : Int), (y : Int))

/-- The first of the nearest. -/
def nearer (desired : TilePoint) (best : Option TilePoint) (candidate : TilePoint) :
    Option TilePoint :=
  match best with
  | none => some candidate
  | some best =>
    if tileDistance candidate desired < tileDistance best desired then some candidate else some best

omit [JsNumber K] in
/-- A map with no walkable tile is an error. -/
def nearestWalkable (map : WorldMap K) (desired : TilePoint) : Option TilePoint :=
  ((mapTiles map.cols map.rows).filter (isWalkable map)).foldl (nearer desired) none

structure RouteResult where
  tiles : List TilePoint
  reachedTarget : Bool
  deriving DecidableEq

def cardinalDirections : List TilePoint := [(1, 0), (0, 1), (-1, 0), (0, -1)]

omit [JsNumber K] in
def neighbours (map : WorldMap K) (tile : TilePoint) : List TilePoint :=
  (cardinalDirections.map fun d => (tile.1 + d.1, tile.2 + d.2)).filter (isWalkable map)

omit [JsNumber K] in
/-- The loop of `routeToward`, one turn for each tile of the map. -/
def searchRoute (map : WorldMap K) (start target : TilePoint) : Search TilePoint :=
  Search.run (neighbours map) (tileDistance · target) (map.cols * map.rows)
    (Search.start (tileDistance · target) start)

/-- A tile that is a key of `previous` leads back through at most all of them. -/
def routeOf (searched : Search TilePoint) : RouteResult where
  tiles := Search.traceBack searched.previous searched.previous.length searched.best []
  reachedTarget := searched.bestDistance = 0

omit [JsNumber K] in
/-- To the target, or to the reachable tile nearest to it. -/
def routeToward (map : WorldMap K) (source target : TilePoint) : Option RouteResult :=
  (if isWalkable map source then some source else nearestWalkable map source).map fun start =>
    routeOf (searchRoute map start target)

/-! ## The two loops end -/

omit [JsNumber K]

theorem mem_mapTiles {cols rows : Nat} {tile : TilePoint} :
    tile ∈ mapTiles cols rows ↔ 0 ≤ tile.1 ∧ 0 ≤ tile.2 ∧ tile.1 < cols ∧ tile.2 < rows := by
  obtain ⟨x, y⟩ := tile
  simp only [mapTiles, List.mem_flatMap, List.mem_map, List.mem_range, Prod.mk.injEq]
  constructor
  · rintro ⟨b, row, a, column, rfl, rfl⟩
    omega
  · rintro ⟨left, top, right, bottom⟩
    exact ⟨y.toNat, by omega, x.toNat, by omega, by omega, by omega⟩

theorem mapTiles_length (cols rows : Nat) : (mapTiles cols rows).length = cols * rows := by
  simp [mapTiles, List.length_flatMap, Nat.mul_comm]

theorem isWalkable_inside {map : WorldMap K} {tile : TilePoint} (walkable : isWalkable map tile) :
    tile ∈ mapTiles map.cols map.rows := by
  simp only [isWalkable, Bool.and_eq_true, decide_eq_true_eq] at walkable
  exact mem_mapTiles.mpr walkable.1

/-- A search that was given more turns would return the same. -/
theorem searchRoute_ends {map : WorldMap K} {start : TilePoint} (walkable : isWalkable map start)
    (target : TilePoint) (more : Nat) :
    Search.run (neighbours map) (tileDistance · target) (map.cols * map.rows + more)
      (Search.start (tileDistance · target) start) = searchRoute map start target := by
  have inside : ∀ node, ∀ next ∈ neighbours map node, next ∈ mapTiles map.cols map.rows :=
    fun node next member => isWalkable_inside (List.mem_filter.mp member).2
  apply Search.run_fuel inside
  rw [← mapTiles_length]
  exact Search.start_turns (isWalkable_inside walkable)

/-- A walk back that was given more steps would return the same. -/
theorem routeOf_ends (map : WorldMap K) (start target : TilePoint) (more : Nat) :
    let searched := searchRoute map start target
    Search.traceBack searched.previous (searched.previous.length + more) searched.best [] =
      (routeOf searched).tiles :=
  Search.run_traceBack start _ more

theorem routeToward_tiles {map : WorldMap K} {source target : TilePoint} {route : RouteResult}
    (found : routeToward map source target = some route) : route.tiles ≠ [] := by
  obtain ⟨start, _, rfl⟩ := Option.map_eq_some_iff.mp found
  exact Search.traceBack_ne_nil _ _ _ _

theorem nearer_isSome {desired : TilePoint} (candidates : List TilePoint) {best : Option TilePoint}
    (present : best.isSome ∨ candidates ≠ []) :
    (candidates.foldl (nearer desired) best).isSome := by
  induction candidates generalizing best with
  | nil => simpa using present
  | cons candidate rest ih =>
    refine ih (.inl ?_)
    cases best with
    | none => rfl
    | some best =>
      simp only [nearer]
      split <;> rfl

def Open (map : WorldMap K) : Prop := ∃ tile, isWalkable map tile = true

theorem nearestWalkable_isSome {map : WorldMap K} (somewhere : Open map) (desired : TilePoint) :
    (nearestWalkable map desired).isSome := by
  obtain ⟨tile, walkable⟩ := somewhere
  refine nearer_isSome _ (.inr fun empty => ?_)
  have member := List.mem_filter.mpr ⟨isWalkable_inside walkable, walkable⟩
  simp [empty] at member

theorem routeToward_isSome {map : WorldMap K} (somewhere : Open map) (source target : TilePoint) :
    (routeToward map source target).isSome := by
  obtain ⟨tile, found⟩ := Option.isSome_iff_exists.mp (nearestWalkable_isSome somewhere source)
  unfold routeToward
  split <;> simp [found]

end SwitchRemake.Training

import SwitchRemake.Simulation.Effects

/-!
# Walls, storm and push-apart

`simulation/storm.ts`, `simulation/static-collision.ts` and `simulation/player-collision.ts`.
-/

namespace SwitchRemake.Simulation
open Lib

variable {K : Type} [JsNumber K]

/-! ## The storm -/

def stormInset (tick : Nat) (barrierSpeed : K) : K := JsNumber.ofInt tick * barrierSpeed

def stormRect (w : World K) : StormRect K :=
  let inset := stormInset w.tick w.map.barrierSpeed
  let mapW := JsNumber.ofInt w.map.cols * w.map.tileSize
  let mapH := JsNumber.ofInt w.map.rows * w.map.tileSize
  { x := inset
    y := inset
    width := max 0 (mapW - inset * JsNumber.ofRat 2)
    height := max 0 (mapH - inset * JsNumber.ofRat 2) }

/-- One axis of `confineToStorm`: a span too narrow for the circle pins it to the middle. -/
def confineAxis (at_ radius start extent : K) : K :=
  let low := start + radius
  let high := start + extent - radius
  if high < low then start + extent / JsNumber.ofRat 2 else min (max at_ low) high

def confineToStorm (x y radius : K) (rect : StormRect K) : K × K :=
  (confineAxis x radius rect.x rect.width, confineAxis y radius rect.y rect.height)

/-! ## Walls -/

def intRange (low high : Int) : List Int :=
  (List.range (high + 1 - low).toNat).map fun (k : Nat) => low + k

/-- The tiles a square around the circle touches, row by row. -/
def tilesAround (map : WorldMap K) (x y radius : K) : List (Int × Int) :=
  let index (v : K) : Int := JsNumber.floor (v / map.tileSize)
  (intRange (index (y - radius)) (index (y + radius))).flatMap fun ty =>
    (intRange (index (x - radius)) (index (x + radius))).map fun tx => (tx, ty)

/-- Everything outside the map is a wall. -/
def isSolid (map : WorldMap K) (tile : Int × Int) : Bool :=
  let (tx, ty) := tile
  if tx < 0 ∨ ty < 0 ∨ (map.cols : Int) ≤ tx ∨ (map.rows : Int) ≤ ty then true
  else ((map.tiles[ty.toNat]?).bind (·[tx.toNat]?)) = some .wall

def nearestOnTile (v start size : K) : K := max start (min v (start + size))

/-- One tile of `resolveWallCollision`. -/
def pushOutOfTile (map : WorldMap K) (radius : K) (p : K × K) (tile : Int × Int) : K × K :=
  if isSolid map tile = false then p
  else
    let left := JsNumber.ofInt tile.1 * map.tileSize
    let top := JsNumber.ofInt tile.2 * map.tileSize
    let dx := p.1 - nearestOnTile p.1 left map.tileSize
    let dy := p.2 - nearestOnTile p.2 top map.tileSize
    let distSq := dx * dx + dy * dy
    if radius * radius ≤ distSq then p
    else
      -- A centre inside the tile has no direction out of it: it leaves from the tile's middle.
      let (dx, dy) :=
        if distSq = 0 then
          let dx := p.1 - (left + map.tileSize / JsNumber.ofRat 2)
          let dy := p.2 - (top + map.tileSize / JsNumber.ofRat 2)
          (dx, if dx = 0 ∧ dy = 0 then -1 else dy)
        else (dx, dy)
      let dist := JsNumber.sqrt (dx * dx + dy * dy)
      let push := radius - dist
      (p.1 + dx / dist * push, p.2 + dy / dist * push)

def resolveWallCollision (map : WorldMap K) (x y radius : K) : K × K :=
  (tilesAround map x y radius).foldl (pushOutOfTile map radius) (x, y)

/-- Walls first, the storm last. -/
def resolveStatic (map : WorldMap K) (x y radius : K) (storm : StormRect K) : K × K :=
  let afterWall := resolveWallCollision map x y radius
  confineToStorm afterWall.1 afterWall.2 radius storm

def circleOverlapsTile (x y radius : K) (tileSize : K) (tile : Int × Int) : Bool :=
  let dx := x - nearestOnTile x (JsNumber.ofInt tile.1 * tileSize) tileSize
  let dy := y - nearestOnTile y (JsNumber.ofInt tile.2 * tileSize) tileSize
  dx * dx + dy * dy < radius * radius

def isPositionFree (map : WorldMap K) (x y radius : K) (storm : StormRect K) : Bool :=
  if x - radius < storm.x ∨ storm.x + storm.width < x + radius then false
  else if y - radius < storm.y ∨ storm.y + storm.height < y + radius then false
  else (tilesAround map x y radius).all fun tile =>
    !(isSolid map tile && circleOverlapsTile x y radius map.tileSize tile)

/-! ## Player against player -/

structure CollisionPair where
  a : Nat
  b : Nat
  deriving DecidableEq

/-- The other end of a contact of `id`. -/
def CollisionPair.opponent (pair : CollisionPair) (id : Nat) : Option Nat :=
  if pair.a = id then some pair.b else if pair.b = id then some pair.a else none

theorem CollisionPair.opponent_ne {pair : CollisionPair} (apart : pair.a ≠ pair.b) {id other : Nat}
    (met : pair.opponent id = some other) : other ≠ id := by
  unfold opponent at met
  split at met
  · rename_i first
    exact fun equal => apart (first.trans (equal.symm.trans (Option.some.inj met).symm))
  · split at met
    · rename_i second
      exact fun equal => apart ((Option.some.inj met).trans (equal.trans second.symm))
    · exact absurd met (by simp)

/-- Approaching the other player adds to the power of a push, moving away does not take from it. -/
def pushPower (p : PlayerState K) (nx ny : K) : K :=
  JsNumber.ofRat Gameplay.pushBasePower +
    max 0 (p.vx * nx + p.vy * ny) * JsNumber.ofRat Gameplay.pushSpeedFactor

/-- Two overlapping players moved apart along `(dx, dy)`; the stronger one moves less. -/
def separate (a b : PlayerState K) (dx dy distSq : K) : PlayerState K × PlayerState K :=
  let dist := JsNumber.sqrt distSq
  let nx := dx / dist
  let ny := dy / dist
  let penetration := a.radius + b.radius - dist
  let powerA := pushPower a nx ny
  let powerB := pushPower b (-nx) (-ny)
  let total := powerA + powerB
  let moveA := penetration * powerB / total
  let moveB := penetration * powerA / total
  ({ a with x := a.x - nx * moveA, y := a.y - ny * moveA },
    { b with x := b.x + nx * moveB, y := b.y + ny * moveB })

/-- One pair of `resolvePlayerCollisions`: the two players after it, and whether they touched.
Players at one point are moved apart along the x axis as if they were one pixel apart. -/
def pushApart (a b : PlayerState K) : PlayerState K × PlayerState K × Bool :=
  let dx := b.x - a.x
  let dy := b.y - a.y
  let minDist := a.radius + b.radius
  let distSq := dx * dx + dy * dy
  if minDist * minDist ≤ distSq then (a, b, false)
  else
    let moved := if distSq = 0 then separate a b 1 0 1 else separate a b dx dy distSq
    (moved.1, moved.2, true)

/-- One row of the double loop: `a` against every later player, in order. -/
def pushRow (a : PlayerState K) :
    List (PlayerState K) → PlayerState K × List (PlayerState K) × List CollisionPair
  | [] => (a, [], [])
  | b :: rest =>
    let first := pushApart a b
    let others := pushRow first.1 rest
    (others.1, first.2.1 :: others.2.1,
      if first.2.2 then ⟨a.playerId, b.playerId⟩ :: others.2.2 else others.2.2)

/-- The rows in order. `n` is the number of players: later rows see what earlier rows moved. -/
def pushRows : Nat → List (PlayerState K) → List (PlayerState K) × List CollisionPair
  | 0, players => (players, [])
  | _ + 1, [] => ([], [])
  | n + 1, a :: rest =>
    let row := pushRow a rest
    let others := pushRows n row.2.1
    (row.1 :: others.1, row.2.2 ++ others.2)

/-- The living players in the order of their slots, pushed apart, and the pairs that touched. -/
def resolvePlayerCollisions (players : List (PlayerState K)) :
    List (PlayerState K) × List CollisionPair :=
  let active := sortById PlayerState.playerId (players.filter PlayerState.alive)
  pushRows active.length active

end SwitchRemake.Simulation

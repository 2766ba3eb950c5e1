import SwitchRemake.Simulation.Collision

/-!
# The visibility core

`shared/visibility/core.ts`. It knows no match and no room: it reads the map, and of every player
the slot, the circle, the range of sight and whether it lives.
-/

namespace SwitchRemake.Visibility
open Lib Simulation

variable {K : Type}

structure VisibilityActor (K : Type) where
  playerId : Nat
  x : K
  y : K
  radius : K
  sightRange : K
  alive : Bool
  deriving DecidableEq

structure VisibilityWorld (K : Type) where
  cols : Nat
  rows : Nat
  tileSize : K
  tiles : Tiles
  players : List (VisibilityActor K)

structure TileAlpha (K : Type) where
  x : Int
  y : Int
  alpha : K
  deriving DecidableEq

structure VisibilityResult (K : Type) where
  visiblePlayerIds : List Nat
  obscuredPlayerIds : List Nat
  tileAlphas : List (TileAlpha K)

def aspect : ℚ := 9 / 16
def revealManhattan : Nat := 4
def revealAxis : Nat := 3
def nearbyConcealmentAlpha : ℚ := 9 / 20

def isConcealmentTile (physics : Option TilePhysics) : Bool :=
  physics = some .bush || physics = some .gas

/-- A tile of the map, and nothing outside of it. -/
def physicsAt (w : VisibilityWorld K) (tx ty : Int) : Option TilePhysics :=
  if tx < 0 ∨ ty < 0 ∨ (w.cols : Int) ≤ tx ∨ (w.rows : Int) ≤ ty then none
  else (w.tiles[ty.toNat]?).bind (·[tx.toNat]?)

variable [JsNumber K]

def tileIndex (w : VisibilityWorld K) (v : K) : Int := JsNumber.floor (v / w.tileSize)

/-- The whole circle lies on concealing tiles. -/
def isConcealed (w : VisibilityWorld K) (actor : VisibilityActor K) : Bool :=
  (intRange (tileIndex w (actor.y - actor.radius)) (tileIndex w (actor.y + actor.radius))).all
    fun ty =>
      (intRange (tileIndex w (actor.x - actor.radius)) (tileIndex w (actor.x + actor.radius))).all
        fun tx =>
          isConcealmentTile (physicsAt w tx ty) ||
            !circleOverlapsTile actor.x actor.y actor.radius w.tileSize (tx, ty)

def withinRevealWindow (w : VisibilityWorld K) (a b : VisibilityActor K) : Bool :=
  let dx := (tileIndex w a.x - tileIndex w b.x).natAbs
  let dy := (tileIndex w a.y - tileIndex w b.y).natAbs
  dx + dy < revealManhattan && dx < revealAxis && dy < revealAxis

def withinViewport (viewer target : VisibilityActor K) : Bool :=
  let halfW := viewer.sightRange / JsNumber.ofRat 2 + target.radius
  let halfH := viewer.sightRange * JsNumber.ofRat aspect / JsNumber.ofRat 2 + target.radius
  max (target.x - viewer.x) (-(target.x - viewer.x)) ≤ halfW &&
    max (target.y - viewer.y) (-(target.y - viewer.y)) ≤ halfH

def sees (w : VisibilityWorld K) (viewer target : VisibilityActor K) : Bool :=
  if ¬ target.alive then false
  else if target.playerId = viewer.playerId then true
  else if ¬ withinViewport viewer target then false
  else if isConcealed w target then withinRevealWindow w viewer target
  else true

def VisibilityWorld.find (w : VisibilityWorld K) (id : Nat) : Option (VisibilityActor K) :=
  w.players.find? fun p => p.playerId = id

def canSeePlayer (w : VisibilityWorld K) (viewerId targetId : Nat) : Bool :=
  match w.find viewerId, w.find targetId with
  | some viewer, some target => sees w viewer target
  | _, _ => false

/-- Row by row, the concealing tiles of the window around the viewer. -/
def nearbyConcealmentTiles (w : VisibilityWorld K) (viewer : VisibilityActor K) :
    List (TileAlpha K) :=
  let reach : Int := revealAxis - 1
  (intRange (-reach) reach).flatMap fun dy =>
    (intRange (-reach) reach).filterMap fun dx =>
      let tx := tileIndex w viewer.x + dx
      let ty := tileIndex w viewer.y + dy
      if revealManhattan ≤ dx.natAbs + dy.natAbs then none
      else if isConcealmentTile (physicsAt w tx ty) then
        some ⟨tx, ty, JsNumber.ofRat nearbyConcealmentAlpha⟩
      else none

def computeVisibility (w : VisibilityWorld K) (viewerId : Nat) : VisibilityResult K :=
  match w.find viewerId with
  | none => ⟨[], [], []⟩
  | some viewer =>
    let visible := w.players.filter (sees w viewer)
    { visiblePlayerIds := visible.map VisibilityActor.playerId
      obscuredPlayerIds := (visible.filter (isConcealed w)).map VisibilityActor.playerId
      tileAlphas := nearbyConcealmentTiles w viewer }

def toActor (p : PlayerState K) : VisibilityActor K :=
  ⟨p.playerId, p.x, p.y, p.radius, p.sightRange, p.alive⟩

/-- `toVisibilityWorld` of `simulation/world.ts`. -/
def toVisibilityWorld (w : World K) : VisibilityWorld K :=
  { cols := w.map.cols, rows := w.map.rows, tileSize := w.map.tileSize, tiles := w.map.tiles
    players := w.players.map toActor }

end SwitchRemake.Visibility

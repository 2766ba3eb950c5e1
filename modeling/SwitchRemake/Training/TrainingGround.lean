import SwitchRemake.Game.GameSession
import SwitchRemake.Rooms.LobbyState
import SwitchRemake.Training.Routes

/-!
# The training ground

`training/training-ground.ts`. A dummy's player is an object of the world, so what the ground keeps
of a dummy names that player by its slot. A thrown error is `none`.
-/

namespace SwitchRemake.Training
open Lib Simulation Game

variable {K : Type} [JsNumber K]

inductive MapMarkerKind where
  | skillDash | skillFlash | skillExhaust | tagger | reset | trainingChaseMode
  | trainingDummyStill | trainingDummyPatrol | trainingDummyChase
  deriving DecidableEq, Repr

structure MapMarker where
  kind : MapMarkerKind
  x : Int
  y : Int
  deriving DecidableEq

inductive MapZoneKind where
  | trainingCourse | trainingChase
  deriving DecidableEq, Repr

structure MapZone where
  kind : MapZoneKind
  x : Int
  y : Int
  width : Int
  height : Int
  deriving DecidableEq

/-! ## Pads -/

inductive TrainingPadKind where
  | tagger | skillDash | skillFlash | skillExhaust | reset | chaseMode
  deriving DecidableEq, Repr

structure TrainingPad (K : Type) where
  kind : TrainingPadKind
  x : K
  y : K
  radius : K

def markerRadiusTiles : ℚ := 3 / 4

def padKindByMarker : MapMarkerKind → Option TrainingPadKind
  | .skillDash => some .skillDash
  | .skillFlash => some .skillFlash
  | .skillExhaust => some .skillExhaust
  | .tagger => some .tagger
  | .reset => some .reset
  | .trainingChaseMode => some .chaseMode
  | .trainingDummyStill | .trainingDummyPatrol | .trainingDummyChase => none

def trainingPadsFromMarkers (markers : List MapMarker) (tileSize : K) : List (TrainingPad K) :=
  markers.filterMap fun marker => (padKindByMarker marker.kind).map fun kind =>
    { kind
      x := JsNumber.ofInt marker.x * tileSize + tileSize / JsNumber.ofRat 2
      y := JsNumber.ofInt marker.y * tileSize + tileSize / JsNumber.ofRat 2
      radius := JsNumber.ofRat markerRadiusTiles * tileSize }

/-! ## Dummies -/

def trainingDummyRespawnMs : ℚ := 3000
def botDashMinTiles : ℚ := 4

inductive DummyRole where
  | still | patrol | chase
  deriving DecidableEq, Repr

def dummyRoleByMarker : MapMarkerKind → Option DummyRole
  | .trainingDummyStill => some .still
  | .trainingDummyPatrol => some .patrol
  | .trainingDummyChase => some .chase
  | _ => none

/-- A key is two numbers with a comma between them, so it stands for its tile. -/
structure DummyState where
  playerId : Nat
  course : List TilePoint
  kind : DummyRole
  zone : Option MapZone
  home : TilePoint
  targetIndex : Nat
  respawnAtTick : Option Nat
  cachedChaseTargetKey : Option TilePoint
  flashAimedAtTick : Option Nat
  cachedRoute : Option RouteResult
  cachedFromKey : Option TilePoint
  cachedTargetIndex : Int
  deriving DecidableEq

omit [JsNumber K] in
/-- The four corners inside the zone, after the dummy's own place. -/
def patrolCourse (map : WorldMap K) (home : TilePoint) : Option MapZone → Option (List TilePoint)
  | none => some [home]
  | some zone =>
    let left := zone.x + 1
    let top := zone.y + 1
    let right := zone.x + zone.width - 1 - 1
    let bottom := zone.y + zone.height - 1 - 1
    if right ≤ left ∨ bottom ≤ top then some [home]
    else
      ([(left, top), (right, top), (right, bottom), (left, bottom)].mapM (nearestWalkable map)).map
        fun corners => home :: corners

def zoneContaining (zones : List MapZone) (x y : Int) (role : DummyRole) : Option MapZone :=
  let wanted : MapZoneKind := if role = .chase then .trainingChase else .trainingCourse
  zones.find? fun zone => zone.kind = wanted ∧
    zone.x ≤ x ∧ x < zone.x + zone.width ∧ zone.y ≤ y ∧ y < zone.y + zone.height

def insideZone (zone : MapZone) (tileSize x y : K) : Bool :=
  decide (JsNumber.ofInt zone.x * tileSize ≤ x ∧
    x < JsNumber.ofInt (zone.x + zone.width) * tileSize ∧
    JsNumber.ofInt zone.y * tileSize ≤ y ∧
    y < JsNumber.ofInt (zone.y + zone.height) * tileSize)

def chaseLoadout (index : Nat) : SkillId := if index % 2 = 0 then .flash else .dash

def makeDummy (playerId colorIndex : Nat) (map : WorldMap K) (start : TilePoint)
    (loadout : SkillId) : PlayerState K :=
  { playerId
    x := (tileCenter map start).1
    y := (tileCenter map start).2
    vx := 0
    vy := 0
    facingX := 0
    facingY := 1
    radius := JsNumber.ofRat Gameplay.playerRadiusPx
    sightRange := JsNumber.ofRat Gameplay.sightRangePx
    colorIndex
    alive := true
    isTagger := false
    connected := true
    effects := fun _ => none
    cooldowns := fun _ => none
    loadout
    emoji := none
    stats := emptyStats }

/-! ## The ground -/

inductive ChaseMode where
  | playerHunts | playerFlees
  deriving DecidableEq, Repr

def ChaseMode.other : ChaseMode → ChaseMode
  | .playerHunts => .playerFlees
  | .playerFlees => .playerHunts

/-- The zones are those of the world's map. -/
structure TrainingGround (K : Type) where
  states : List DummyState
  pads : List (TrainingPad K)
  zones : List MapZone
  standingOn : Nat → Option TrainingPadKind
  chaseMode : ChaseMode
  chaseActive : Bool

structure DummySpawn where
  marker : MapMarker
  role : DummyRole
  playerId : Nat
  index : Nat
  deriving DecidableEq

/-- The markers of dummies, as many of them as slots are free. -/
def dummySpawns (markers : List MapMarker) (availableIds : List Nat) : List DummySpawn :=
  let marked := markers.filterMap fun marker => (dummyRoleByMarker marker.kind).map (marker, ·)
  (marked.zip availableIds).mapIdx fun index spawn =>
    { marker := spawn.1.1, role := spawn.1.2, playerId := spawn.2, index }

omit [JsNumber K] in
def newDummy (map : WorldMap K) (zones : List MapZone) (spawn : DummySpawn) : Option DummyState :=
  let home := (spawn.marker.x, spawn.marker.y)
  let zone := zoneContaining zones spawn.marker.x spawn.marker.y spawn.role
  (patrolCourse map home zone).map fun patrol =>
    { playerId := spawn.playerId
      course := if spawn.role = .still then [home] else patrol
      kind := spawn.role
      zone
      home
      -- A narrow zone leaves a course of one tile, and then there is no second one to go to.
      targetIndex := if spawn.role = .still then 0 else if 1 < patrol.length then 1 else 0
      cachedChaseTargetKey := none
      flashAimedAtTick := none
      respawnAtTick := none
      cachedRoute := none
      cachedFromKey := none
      cachedTargetIndex := -1 }

def availableIds (occupiedPlayerIds : List Nat) : List Nat :=
  ((List.range Rooms.maxPlayersPerRoom).map (· + 1)).filter (· ∉ occupiedPlayerIds)

/-- The constructor, with the players of the dummies. -/
def newTrainingGround (map : WorldMap K) (markers : List MapMarker) (zones : List MapZone)
    (occupiedPlayerIds : List Nat) : Option (TrainingGround K × List (PlayerState K)) :=
  let spawns := dummySpawns markers (availableIds occupiedPlayerIds)
  let players := spawns.map fun spawn =>
    makeDummy spawn.playerId (spawn.playerId - 1) map (spawn.marker.x, spawn.marker.y)
      (if spawn.role = .chase then chaseLoadout spawn.index else .dash)
  (spawns.mapM (newDummy map zones)).map fun states =>
    ({ states
       pads := trainingPadsFromMarkers markers map.tileSize
       zones
       standingOn := fun _ => none
       chaseMode := .playerHunts
       chaseActive := false }, players)

namespace TrainingGround

variable {g : TrainingGround K}

omit [JsNumber K] in
def isDummy (g : TrainingGround K) (playerId : Nat) : Bool :=
  g.states.any fun d => d.playerId = playerId

omit [JsNumber K] in
def humans (g : TrainingGround K) (w : World K) : List (PlayerState K) :=
  w.players.filter fun p => p.alive && !g.isDummy p.playerId

/-! ### Coming back -/

def isDue (tick : Nat) (d : DummyState) : Bool :=
  match d.respawnAtTick with
  | none => false
  | some due => due ≤ tick

def respawned (d : DummyState) : DummyState :=
  { d with
    cachedRoute := none
    targetIndex := if d.kind = .still then 0 else 1
    respawnAtTick := none }

def respawnedPlayer (at_ : K × K) (p : PlayerState K) : PlayerState K :=
  { p with
    x := at_.1
    y := at_.2
    vx := 0
    vy := 0
    facingX := 0
    facingY := 1
    alive := true
    isTagger := false
    effects := fun _ => none
    cooldowns := fun _ => none
    emoji := none
    stats := { p.stats with eliminatedAtTick := none } }

/-- A dummy that is due stands at the first tile of its course again; a course is never empty. -/
def respawnPlayer (w : World K) (d : DummyState) : World K :=
  if isDue w.tick d then
    w.update d.playerId (respawnedPlayer (tileCenter w.map (d.course.headD d.home)))
  else w

def respawnDue (g : TrainingGround K) (w : World K) : TrainingGround K × World K :=
  ({ g with states := g.states.map fun d => if isDue w.tick d then respawned d else d },
    g.states.foldl respawnPlayer w)

/-! ### The chase zone -/

def clearRole (p : PlayerState K) : PlayerState K :=
  { p with isTagger := false, effects := Function.update p.effects .frenzy none }

def clearRoles (w : World K) : World K := { w with players := w.players.map clearRole }

def sentHome (d : DummyState) : DummyState :=
  { d with
    targetIndex := if 1 < d.course.length then 1 else 0
    cachedRoute := none
    respawnAtTick := none }

/-- `state.player.isTagger = false`, and what `#sendHome` writes to the player. -/
def sentHomePlayer (home : K × K) (p : PlayerState K) : PlayerState K :=
  { p with
    x := home.1
    y := home.2
    vx := 0
    vy := 0
    alive := true
    isTagger := false
    effects := fun _ => none
    stats := { p.stats with eliminatedAtTick := none } }

def sendHome (w : World K) (d : DummyState) : World K :=
  if d.kind = .chase then w.update d.playerId (sentHomePlayer (tileCenter w.map d.home)) else w

def resetChase (g : TrainingGround K) (w : World K) : TrainingGround K × World K :=
  let cleared := if g.chaseActive then clearRoles w else w
  ({ g with
      chaseActive := false
      states := g.states.map fun d => if d.kind = .chase then sentHome d else d },
    { g.states.foldl sendHome cleared with taggerChangedAtTick := w.tick })

omit [JsNumber K] in
def chasers (g : TrainingGround K) (w : World K) : List (PlayerState K) :=
  (g.states.filter fun d => d.kind = .chase).filterMap fun d =>
    (w.find d.playerId).filter PlayerState.alive

/-- The first of the nearest. -/
def nearestTo (self : PlayerState K) : List (PlayerState K) → Option (PlayerState K)
  | [] => none
  | first :: rest => some (rest.foldl (fun best candidate =>
      if distance candidate self < distance best self then candidate else best) first)

def appoint (w : World K) (chosen : Option (PlayerState K)) : World K :=
  let cleared := clearRoles w
  let appointed := match chosen with
    | none => cleared
    | some p => cleared.update p.playerId fun p => grantTaggerFrenzy w { p with isTagger := true }
  { appointed with taggerChangedAtTick := w.tick }

omit [JsNumber K] in
def dummyIsTagger (g : TrainingGround K) (w : World K) : Bool :=
  g.states.any fun d => decide (d.kind = .chase) &&
    ((w.find d.playerId).elim false PlayerState.isTagger)

def updateChaseZone (g : TrainingGround K) (w : World K) : TrainingGround K × World K :=
  match (g.states.find? fun d => d.kind = .chase).bind DummyState.zone with
  | none => (g, w)
  | some zone =>
    match (g.humans w).filter fun p => insideZone zone w.map.tileSize p.x p.y with
    | [] => if g.chaseActive then g.resetChase w else (g, w)
    | self :: _ =>
      if g.chaseActive then
        let expectedTagger : Bool := g.chaseMode = .playerFlees
        if expectedTagger ≠ g.dummyIsTagger w then g.resetChase w else (g, w)
      else
        ({ g with chaseActive := true },
          appoint w (if g.chaseMode = .playerHunts then some self else nearestTo self (g.chasers w)))

/-! ### Walking -/

/-- A call for a route: the dummy as it was, the tile it stood on, the tile asked for, the answer. -/
structure RouteCall where
  chasing : Bool
  dummy : DummyState
  source : TilePoint
  target : Option TilePoint
  route : RouteResult
  deriving DecidableEq

/-- What one dummy does in one tick, and the calls for a route it makes. -/
structure Walk (K : Type) where
  dummy : DummyState
  input : ResolvedInput K
  calls : List RouteCall

omit [JsNumber K] in
def stepBlocked (map : WorldMap K) (cached : RouteResult) : Bool :=
  (cached.tiles[1]?).elim false fun tile => !isWalkable map tile

omit [JsNumber K] in
/-- The route that `#routeFor` may give again. -/
def patrolHit (map : WorldMap K) (d : DummyState) (source : TilePoint) : Option RouteResult :=
  d.cachedRoute.filter fun cached => !stepBlocked map cached &&
    decide (d.cachedFromKey = some source ∧ d.cachedTargetIndex = d.targetIndex)

omit [JsNumber K] in
/-- The route that `#routeTo` may give again. -/
def chaseHit (map : WorldMap K) (d : DummyState) (source target : TilePoint) : Option RouteResult :=
  d.cachedRoute.filter fun cached => !stepBlocked map cached &&
    decide (d.cachedFromKey = some source ∧ d.cachedChaseTargetKey = some target)

omit [JsNumber K] in
/-- There is no target tile where the course is too short; the search throws on it. -/
def routeFor (map : WorldMap K) (d : DummyState) (source : TilePoint) (target : Option TilePoint) :
    Option (DummyState × RouteResult) :=
  match patrolHit map d source with
  | some cached => some (d, cached)
  | none => (target.bind (routeToward map source)).map fun route =>
    ({ d with
        cachedRoute := some route
        cachedFromKey := some source
        cachedTargetIndex := d.targetIndex }, route)

omit [JsNumber K] in
def routeTo (map : WorldMap K) (d : DummyState) (source target : TilePoint) :
    Option (DummyState × RouteResult) :=
  match chaseHit map d source target with
  | some cached => some (d, cached)
  | none => (routeToward map source target).map fun route =>
    ({ d with
        cachedRoute := some route
        cachedFromKey := some source
        cachedChaseTargetKey := some target
        cachedTargetIndex := -1 }, route)

def inputOf (playerId : Nat) (moveX moveY : K) : ResolvedInput K := ⟨playerId, moveX, moveY, 0, 0⟩

def steerTo (p : PlayerState K) (x y : K) : ResolvedInput K :=
  let dx := x - p.x
  let dy := y - p.y
  let length := JsNumber.hypot dx dy
  if length = 0 then inputOf p.playerId 0 0 else inputOf p.playerId (dx / length) (dy / length)

def arrivalRadius (map : WorldMap K) : K :=
  min (map.tileSize / JsNumber.ofRat 16) (JsNumber.ofRat Gameplay.playerRadiusPx / JsNumber.ofRat 6)

/-- One call of `#routeFor` for the tile the dummy is on its way to, and the end of the route. -/
def patrolRoute (map : WorldMap K) (d : DummyState) (p : PlayerState K) :
    Option (DummyState × RouteCall × TilePoint) :=
  let source := tileAtPoint map p.x p.y
  let target := d.course[d.targetIndex]?
  match routeFor map d source target with
  | none => none
  | some (after, route) => route.tiles.getLast?.map fun last =>
    (after, ⟨false, d, source, target, route⟩, last)

/-- Where a patrol goes with a route: its second tile, else its target, else its end. -/
def patrolAim (map : WorldMap K) (call : RouteCall) (last : TilePoint) : Option (K × K) :=
  match call.route.tiles[1]? with
  | some next => some (tileCenter map next)
  | none =>
    if call.route.reachedTarget then call.target.map (tileCenter map) else some (tileCenter map last)

def follow (map : WorldMap K) (d : DummyState) (p : PlayerState K) : Option (Walk K) :=
  match patrolRoute map d p with
  | none => none
  | some (after, call, last) =>
    let goal := tileCenter map last
    if JsNumber.hypot (p.x - goal.1) (p.y - goal.2) ≤ arrivalRadius map then
      let turned := { after with targetIndex := (after.targetIndex + 1) % after.course.length }
      match patrolRoute map turned p with
      | none => none
      | some (after, second, last) => (patrolAim map second last).map fun aim =>
        ⟨after, steerTo p aim.1 aim.2, [call, second]⟩
    else (patrolAim map call last).map fun aim => ⟨after, steerTo p aim.1 aim.2, [call]⟩

omit [JsNumber K] in
def prey (g : TrainingGround K) (w : World K) : Option (PlayerState K) := (g.humans w).head?

def flashGainsGround (w : World K) (self target : PlayerState K) : Bool :=
  let dx := target.x - self.x
  let dy := target.y - self.y
  let distance := JsNumber.hypot dx dy
  if distance = 0 then false
  else
    let landingX := self.x + dx / distance * JsNumber.ofRat Skills.Flash.distancePx
    let landingY := self.y + dy / distance * JsNumber.ofRat Skills.Flash.distancePx
    isPositionFree w.map landingX landingY self.radius (stormRect w) &&
      hasClearPath w.map (landingX, landingY) (target.x, target.y) self.radius &&
      decide (JsNumber.hypot (target.x - landingX) (target.y - landingY) < distance)

def wantsFlash (w : World K) (self target : PlayerState K) : Bool :=
  decide (self.loadout = .flash) && isReady self .flash && flashGainsGround w self target

def hunt (w : World K) (g : TrainingGround K) (d : DummyState) (p : PlayerState K) :
    Option (Walk K) :=
  match g.prey w with
  | none => some ⟨{ d with flashAimedAtTick := none }, inputOf p.playerId 0 0, []⟩
  | some target =>
    if hasClearPath w.map (p.x, p.y) (target.x, target.y) p.radius then
      some ⟨{ d with cachedRoute := none, flashAimedAtTick := none },
        steerTo p target.x target.y, []⟩
    else if wantsFlash w p target then
      some ⟨{ d with flashAimedAtTick := d.flashAimedAtTick.or (some w.tick) },
        steerTo p target.x target.y, []⟩
    else
      let d := { d with flashAimedAtTick := none }
      let source := tileAtPoint w.map p.x p.y
      let goal := tileAtPoint w.map target.x target.y
      (routeTo w.map d source goal).map fun (after, route) =>
        let aim := match route.tiles[1]? with
          | some next => tileCenter w.map next
          | none => (target.x, target.y)
        ⟨after, steerTo p aim.1 aim.2, [⟨true, d, source, some goal, route⟩]⟩

/-- One dummy of the last part of `resolveInputs`; a dead one has no input. -/
def resolveDummy (w : World K) (g : TrainingGround K) (d : DummyState) :
    Option (DummyState × List (Walk K)) :=
  match (w.find d.playerId).filter PlayerState.alive with
  | none => some (d, [])
  | some p =>
    if d.kind = .still ∨ (d.kind = .chase ∧ g.chaseActive = false) then
      some (d, [⟨d, inputOf p.playerId 0 0, []⟩])
    else if d.kind = .chase ∧ p.isTagger then (hunt w g d p).map fun walked => (walked.dummy, [walked])
    else (follow w.map d p).map fun walked => (walked.dummy, [walked])

structure Resolved (K : Type) where
  ground : TrainingGround K
  world : World K
  inputs : List (ResolvedInput K)

/-- The ground and the world that `resolveInputs` walks its dummies in. -/
def prepared (g : TrainingGround K) (w : World K) : TrainingGround K × World K :=
  let due := g.respawnDue w
  due.1.updateChaseZone due.2

def resolveInputs (g : TrainingGround K) (w : World K) : Option (Resolved K) :=
  let ready := g.prepared w
  (ready.1.states.mapM (resolveDummy ready.2 ready.1)).map fun walked =>
    { ground := { ready.1 with states := walked.map Prod.fst }
      world := ready.2
      inputs := walked.flatMap fun entry => entry.2.map Walk.input }

/-! ### Skills -/

/-- Whether the dummy casts, and the dummy after the question. -/
def chooseSkill (w : World K) (d : DummyState) (self target : PlayerState K) : Bool × DummyState :=
  if !isReady self self.loadout then (false, d)
  else if self.loadout = .flash then
    match d.flashAimedAtTick with
    | none => (false, d)
    | some aimed => if w.tick ≤ aimed then (false, d) else (true, { d with flashAimedAtTick := none })
  else if self.loadout = .dash then
    let distance := JsNumber.hypot (target.x - self.x) (target.y - self.y)
    (hasClearPath w.map (self.x, self.y) (target.x, target.y) self.radius &&
      decide (w.map.tileSize * JsNumber.ofRat botDashMinTiles < distance), d)
  else (false, d)

/-- One dummy of `resolveSkills`. -/
def cast (w : World K) (target : PlayerState K) (d : DummyState) : DummyState × List SkillRequest :=
  match (w.find d.playerId).filter fun p => p.alive && p.isTagger with
  | none => (d, [])
  | some self =>
    if d.kind ≠ .chase then (d, [])
    else
      let chosen := chooseSkill w d self target
      (chosen.2, if chosen.1 then [⟨self.playerId, slotMovement, none⟩] else [])

def resolveSkills (g : TrainingGround K) (w : World K) : TrainingGround K × List SkillRequest :=
  if !g.chaseActive then (g, [])
  else match g.prey w with
    | none => (g, [])
    | some target =>
      let cast := g.states.map (cast w target)
      ({ g with states := cast.map Prod.fst }, cast.flatMap Prod.snd)

/-! ### After the tick -/

def trigger (g : TrainingGround K) (w : World K) (p : PlayerState K) :
    TrainingPadKind → TrainingGround K × World K
  | .skillDash => (g, w.update p.playerId fun p => { p with loadout := .dash })
  | .skillFlash => (g, w.update p.playerId fun p => { p with loadout := .flash })
  | .skillExhaust => (g, w.update p.playerId fun p => { p with loadout := .exhaust })
  | .tagger => (g, appoint w (if p.isTagger then none else some p))
  | .chaseMode => resetChase { g with chaseMode := g.chaseMode.other } w
  | .reset => (g, w.update p.playerId fun p =>
      { p with cooldowns := fun _ => none, effects := fun _ => none })

omit [JsNumber K] in
def setStanding (g : TrainingGround K) (playerId : Nat) (pad : Option TrainingPadKind) :
    TrainingGround K :=
  { g with standingOn := Function.update g.standingOn playerId pad }

/-- One player of `#applyPads`: a pad acts when it is stepped on, not while it is stood on. -/
def applyPad (state : TrainingGround K × World K) (playerId : Nat) : TrainingGround K × World K :=
  let g := state.1
  let w := state.2
  match (w.find playerId).filter fun p => p.alive && !g.isDummy p.playerId with
  | none => (g, w)
  | some p =>
    let pad := g.pads.find? fun pad =>
      let dx := pad.x - p.x
      let dy := pad.y - p.y
      dx * dx + dy * dy ≤ pad.radius * pad.radius
    match pad with
    | none => (g.setStanding playerId none, w)
    | some pad =>
      let stood := g.setStanding playerId (some pad.kind)
      if g.standingOn playerId = some pad.kind then (stood, w) else stood.trigger w p pad.kind

def applyPads (g : TrainingGround K) (w : World K) : TrainingGround K × World K :=
  (w.players.map PlayerState.playerId).foldl applyPad (g, w)

def schedule (w : World K) (d : DummyState) : DummyState :=
  match (w.find d.playerId).filter fun p => !p.alive with
  | none => d
  | some _ =>
    let delayTicks := msToTicks (JsNumber.ofRat (K := K) trainingDummyRespawnMs) w.simulationHz
    { d with respawnAtTick := d.respawnAtTick.or (some (w.tick + delayTicks)) }

def afterStep (g : TrainingGround K) (w : World K) : TrainingGround K × World K :=
  let padded := g.applyPads w
  ({ padded.1 with states := padded.1.states.map (schedule padded.2) }, padded.2)

/-! ### A player comes back -/

def isSafe (g : TrainingGround K) (w : World K) (player : PlayerState K) (tile : TilePoint) : Bool :=
  let (px, py) := tileCenter w.map tile
  let near (x y reach : K) : Bool := JsNumber.hypot (x - px) (y - py) ≤ reach
  decide ((w.map.tiles[tile.2.toNat]?).bind (·[tile.1.toNat]?) = some .floor) &&
    !(g.zones.any fun zone =>
      decide (zone.kind = .trainingChase) && insideZone zone w.map.tileSize px py) &&
    !(g.pads.any fun pad => near pad.x pad.y (pad.radius + player.radius)) &&
    !(w.players.any fun other => decide (other.playerId ≠ player.playerId) && other.alive &&
      near other.x other.y (other.radius + player.radius)) &&
    isPositionFree w.map px py player.radius (stormRect w)

/-- `safeTiles[0]` once they are sorted, which is stable, by their distance from the middle. -/
def safeTile (g : TrainingGround K) (w : World K) (player : PlayerState K) : Option TilePoint :=
  let center := desiredTile w.map (JsNumber.ofRat (1 / 2)) (JsNumber.ofRat (1 / 2) : K)
  (sortById (tileDistance · center)
    ((mapTiles w.map.cols w.map.rows).filter (g.isSafe w player))).head?

def revivedPlayer (at_ : K × K) (p : PlayerState K) : PlayerState K :=
  { p with
    x := at_.1
    y := at_.2
    vx := 0
    vy := 0
    alive := true
    isTagger := false
    effects := fun _ => none
    cooldowns := fun _ => none
    stats := { p.stats with eliminatedAtTick := none } }

/-- The answer says whether the player was brought back. -/
def respawn (g : TrainingGround K) (w : World K) (playerId : Nat) :
    TrainingGround K × World K × Bool :=
  match (w.find playerId).filter fun p => !(g.isDummy playerId) && !p.alive with
  | none => (g, w, false)
  | some player =>
    match g.safeTile w player with
    | none => (g, w, false)
    | some tile =>
      let reset := g.resetChase w
      (reset.1.setStanding playerId none,
        reset.2.update playerId (revivedPlayer (tileCenter w.map tile)), true)

end TrainingGround
end SwitchRemake.Training

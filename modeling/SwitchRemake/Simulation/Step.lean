import SwitchRemake.Simulation.Skills

/-!
# One tick

`simulation/step.ts`. The phases of `stepWorld` are definitions of their own, applied in the order
of the source.
-/

namespace SwitchRemake.Simulation
open Lib

variable {K : Type} [JsNumber K]

structure EmojiRequest where
  playerId : Nat
  emojiId : Nat
  deriving DecidableEq

/-- Everything the players ask of one tick. -/
structure TickRequests (K : Type) where
  inputs : List (ResolvedInput K)
  skillRequests : List SkillRequest
  emojiRequests : List EmojiRequest

/-! ## The map timeline -/

def tileAt (tiles : Tiles) (x y : Nat) : Option TilePhysics := (tiles[y]?).bind (·[x]?)

def writeTile (tiles : Tiles) (c : TileChange) : Tiles :=
  tiles.modify c.y fun row => row.set c.x c.physics

/-- A change to a tile that is there and differs is made and recorded. -/
def applyTileChange (w : World K) (c : TileChange) : World K :=
  if tileAt w.map.tiles c.x c.y = none ∨ tileAt w.map.tiles c.x c.y = some c.physics then w
  else { w with
    map := { w.map with tiles := writeTile w.map.tiles c }
    tileChanges := w.tileChanges ++ [c] }

def applyMapTimeline (w : World K) : World K :=
  (w.map.timeline w.tick).foldl applyTileChange w

/-! ## Tagging -/

def extendFrenzyOnTag (w : World K) (tagger : PlayerState K) : PlayerState K :=
  match tagger.effects .frenzy with
  | none => tagger
  | some current =>
    let remainingMs := JsNumber.ofInt (max 0 ((current.endTick : Int) - w.tick)) *
      (JsNumber.ofRat 1000 / JsNumber.ofInt w.simulationHz)
    applyEffect w tagger .frenzy
      (current.magnitude + JsNumber.ofRat Skills.Frenzy.tagBonusIncrease)
      (remainingMs + JsNumber.ofRat Skills.Frenzy.tagBonusMs)

/-- One pair of `resolveTagging`, `taggerId` being the tagger found before the first pair. -/
def resolvePair (taggerId : Nat) (state : World K × List (WorldEvent K)) (pair : CollisionPair) :
    World K × List (WorldEvent K) :=
  let w := state.1
  match ((pair.opponent taggerId).bind w.find).filter PlayerState.alive with
  | none => state
  | some victim =>
    let struck := w.update victim.playerId fun p =>
      withStats (fun s =>
        { s with taggedCount := s.taggedCount + 1, eliminatedAtTick := some w.tick })
        { p with alive := false }
    let credited := struck.update taggerId fun p =>
      extendFrenzyOnTag w (withStats (fun s => { s with tagCount := s.tagCount + 1 }) p)
    ({ credited with taggerChangedAtTick := w.tick },
      state.2 ++ [.eliminated victim.playerId (some taggerId)])

/-- Contact is judged by the pairs of this tick: after the push-apart nobody touches anybody. -/
def resolveTagging (w : World K) (pairs : List CollisionPair) (events : List (WorldEvent K)) :
    World K × List (WorldEvent K) :=
  match livingTagger w with
  | none => (w, events)
  | some tagger => pairs.foldl (resolvePair tagger.playerId) (w, events)

def rotationCooldownTicks (K : Type) [JsNumber K] (simulationHz : Nat) : Int :=
  JsNumber.round (JsNumber.ofRat (K := K) Gameplay.taggerChangeCooldownMs / JsNumber.ofRat 1000 *
    JsNumber.ofInt simulationHz)

def rotateTaggerIfStale (w : World K) (events : List (WorldEvent K)) :
    World K × List (WorldEvent K) :=
  if (w.tick : Int) - w.taggerChangedAtTick < rotationCooldownTicks K w.simulationHz then (w, events)
  else
    let runners := rotationCandidates w
    let drawn := w.nextRandomInt runners.length
    match runners[drawn.1]? with
    | none => (w, events)
    | some picked =>
      let flag (p : PlayerState K) : PlayerState K :=
        { p with isTagger := p.playerId = picked.playerId }
      let flagged : World K :=
        { drawn.2 with players := drawn.2.players.map flag, taggerChangedAtTick := w.tick }
      (flagged.update picked.playerId (grantTaggerFrenzy w),
        events ++ [.tagged picked.playerId none])

/-! ## The phases -/

/-- Runners close to the tagger recover faster; the tagger itself does not. -/
def cooldownRate (player : PlayerState K) (tagger : Option (PlayerState K)) : K :=
  match tagger with
  | none => 1
  | some tagger =>
    if player.isTagger ∨ ¬ player.alive then 1
    else
      let dx := tagger.x - player.x
      let dy := tagger.y - player.y
      let radius : K := JsNumber.ofRat Skills.nearTaggerRadiusPx
      if radius * radius < dx * dx + dy * dy then 1
      else 1 + JsNumber.ofRat Skills.nearTaggerCooldownBonus

/-- Phase 1, and the two assignments before it. -/
def beginTick (w : World K) : World K :=
  let w := { w with tick := w.tick + 1, tileChanges := [] }
  let tagger := livingTagger w
  { w with players := w.players.map fun p =>
      let q := tickCooldowns (expireEffects w p) (cooldownRate p tagger)
      { q with emoji := q.emoji.filter fun e => ¬ e.expiresAtTick ≤ w.tick } }

structure SkillPhase (K : Type) where
  world : World K
  events : List (WorldEvent K)
  rejections : List Rejection

def SkillPhase.use (s : SkillPhase K) (request : SkillRequest) : SkillPhase K :=
  let result := useSkill s.world request
  { world := result.world
    events := s.events ++ result.events
    rejections := match result.outcome with
      | .ok _ => s.rejections
      | .error reason => s.rejections ++ [⟨request.playerId, request.slot, reason⟩] }

def runSkills (w : World K) (requests : List SkillRequest) : SkillPhase K :=
  (sortById SkillRequest.playerId requests).foldl SkillPhase.use ⟨w, [], []⟩

def showEmoji (w : World K) (request : EmojiRequest) : World K :=
  match (w.find request.playerId).filter PlayerState.alive with
  | none => w
  | some player => w.update player.playerId fun p =>
      { p with emoji := some ⟨request.emojiId,
          w.tick + msToTicks (JsNumber.ofRat (K := K) Gameplay.emojiDisplayMs) w.simulationHz⟩ }

def runEmojis (w : World K) (requests : List EmojiRequest) : World K :=
  (sortById EmojiRequest.playerId requests).foldl showEmoji w

/-- `new Map(inputs.map(i => [i.playerId, i])).get(id)`: of two inputs of a slot the last counts. -/
def inputById (inputs : List (ResolvedInput K)) (id : Nat) : Option (ResolvedInput K) :=
  inputs.reverse.find? fun i => i.playerId = id

def walk (map : WorldMap K) (storm : StormRect K) (radius stepX stepY : K) : Nat → K × K → K × K
  | 0, at_ => at_
  | steps + 1, at_ =>
    walk map storm radius stepX stepY steps
      (resolveStatic map (at_.1 + stepX) (at_.2 + stepY) radius storm)

/-- Phases 4 to 6 for one player. A player with no input stands still. -/
def movePlayer (map : WorldMap K) (storm : StormRect K) (inputs : List (ResolvedInput K))
    (player : PlayerState K) : PlayerState K :=
  if ¬ player.alive then player
  else
    let aimed : PlayerState K × K × K := match inputById inputs player.playerId with
      | some input => integrate player input
      | none => ({ player with vx := 0, vy := 0 }, player.x, player.y)
    let steps := substepCount player.x player.y aimed.2.1 aimed.2.2
    let stepX := (aimed.2.1 - player.x) / JsNumber.ofInt steps
    let stepY := (aimed.2.2 - player.y) / JsNumber.ofInt steps
    let moved := walk map storm player.radius stepX stepY steps (player.x, player.y)
    { aimed.1 with x := moved.1, y := moved.2 }

/-- One pass of phases 7 and 8. Players are written back by slot. -/
def collide (map : WorldMap K) (storm : StormRect K) (players : List (PlayerState K)) :
    List (PlayerState K) × List CollisionPair :=
  let pushed := resolvePlayerCollisions players
  (players.map fun p =>
    if ¬ p.alive then p
    else
      let q := (pushed.1.find? fun q => q.playerId = p.playerId).getD p
      let resolved := resolveStatic map q.x q.y q.radius storm
      { q with x := resolved.1, y := resolved.2 },
    pushed.2)

/-- The passes after the first. -/
def settle (map : WorldMap K) (storm : StormRect K) : Nat → List (PlayerState K) → List (PlayerState K)
  | 0, players => players
  | passes + 1, players =>
    let pass := collide map storm players
    if pass.2 = [] then pass.1 else settle map storm passes pass.1

/-- Only the pairs of the first pass count as contact. -/
def runCollisions (map : WorldMap K) (storm : StormRect K) (players : List (PlayerState K)) :
    List (PlayerState K) × List CollisionPair :=
  let first := collide map storm players
  (if first.2 = [] then first.1
    else settle map storm (Gameplay.playerCollisionIterations - 1) first.1, first.2)

/-- Phases 2 to 8: the world before tagging, and the contacts of this tick. -/
def moveAll (w : World K) (inputs : List (ResolvedInput K)) : World K × List CollisionPair :=
  let w := applyMapTimeline w
  let storm := stormRect w
  let moved := w.players.map (movePlayer w.map storm inputs)
  let collided := runCollisions w.map storm moved
  ({ w with storm := some storm, players := collided.1 }, collided.2)

/-- The clock has moved, the skills are judged and the emojis are shown. -/
def afterRequests (w : World K) (requests : TickRequests K) : World K :=
  runEmojis (runSkills (beginTick w) requests.skillRequests).world requests.emojiRequests

/-- The world just before the contacts of the tick are judged, and those contacts. -/
def beforeTags (w : World K) (requests : TickRequests K) : World K × List CollisionPair :=
  moveAll (afterRequests w requests) requests.inputs

def afterTags (w : World K) (requests : TickRequests K) : World K × List (WorldEvent K) :=
  resolveTagging (beforeTags w requests).1 (beforeTags w requests).2
    (runSkills (beginTick w) requests.skillRequests).events

def afterRotation (w : World K) (requests : TickRequests K) : World K × List (WorldEvent K) :=
  if isFinished (afterTags w requests).1 then afterTags w requests
  else rotateTaggerIfStale (afterTags w requests).1 (afterTags w requests).2

def stepWorld (w : World K) (requests : TickRequests K) : AuthoritativeFrame K :=
  let final := afterRotation w requests
  { tick := final.1.tick
    world := final.1
    events := final.2
    skillRejections := (runSkills (beginTick w) requests.skillRequests).rejections }

@[simp] theorem stepWorld_world (w : World K) (requests : TickRequests K) :
    (stepWorld w requests).world = (afterRotation w requests).1 := rfl

@[simp] theorem stepWorld_events (w : World K) (requests : TickRequests K) :
    (stepWorld w requests).events = (afterRotation w requests).2 := rfl

end SwitchRemake.Simulation

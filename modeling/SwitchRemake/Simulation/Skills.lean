import SwitchRemake.Simulation.Collision

/-!
# Skills

`simulation/skills.ts`. A skill returns the world after it and its outcome; the events it pushes
are appended to the events of the tick.
-/

namespace SwitchRemake.Simulation
open Lib

variable {K : Type} [JsNumber K]

structure SkillRequest where
  playerId : Nat
  slot : Nat
  targetPlayerId : Option Nat
  deriving DecidableEq

abbrev SkillOutcome := Except SkillRejection SkillId

structure SkillResult (K : Type) where
  world : World K
  events : List (WorldEvent K)
  outcome : SkillOutcome

def slotSwitch : Nat := 1
def slotMovement : Nat := 2

def livingRunners (w : World K) : List (PlayerState K) :=
  sortById PlayerState.playerId (w.players.filter fun p => p.alive && !p.isTagger)

def rotationCandidates (w : World K) : List (PlayerState K) := livingRunners w

def distance (a b : PlayerState K) : K := JsNumber.hypot (a.x - b.x) (a.y - b.y)

def livingTagger (w : World K) : Option (PlayerState K) :=
  w.players.find? fun p => p.isTagger && p.alive

def grantTaggerFrenzy (w : World K) (player : PlayerState K) : PlayerState K :=
  applyEffect w player .frenzy (JsNumber.ofRat Skills.Frenzy.speedIncrease)
    (JsNumber.ofRat Skills.Frenzy.durationMs)

def useDash (w : World K) (caster : PlayerState K) : SkillResult K :=
  { world := w.update caster.playerId fun p =>
      startCooldown w
        (applyEffect w p .dash (JsNumber.ofRat Skills.Dash.speedIncrease)
          (JsNumber.ofRat Skills.Dash.durationMs))
        .dash (JsNumber.ofRat Skills.Dash.cooldownMs)
    events := []
    outcome := .ok .dash }

/-- One loop of `findFlashLanding`: the first free point at most `limit` along the ray. -/
def probe (free : K → K → Bool) (x y dirX dirY stepLen limit : K) : Nat → K → Option (K × K)
  | 0, _ => none
  | fuel + 1, travelled =>
    if travelled ≤ limit then
      if free (x + dirX * travelled) (y + dirY * travelled) then
        some (x + dirX * travelled, y + dirY * travelled)
      else probe free x y dirX dirY stepLen limit fuel (travelled + stepLen)
    else none

def findFlashLanding (fromX fromY dirX dirY distance maxOvershoot radius : K)
    (free : K → K → Bool) : K × K :=
  let targetX := fromX + dirX * distance
  let targetY := fromY + dirY * distance
  if free targetX targetY then (targetX, targetY)
  else
    let stepLen := max 1 (radius / JsNumber.ofRat 2)
    -- A step is at least one pixel long, so the limit in pixels bounds the number of turns.
    let turns (limit : K) : Nat := (JsNumber.ceil limit).toNat
    match probe free targetX targetY dirX dirY stepLen maxOvershoot (turns maxOvershoot) stepLen with
    | some landing => landing
    | none =>
      match probe free targetX targetY (-dirX) (-dirY) stepLen distance (turns distance) stepLen with
      | some landing => landing
      | none => (fromX, fromY)

def useFlash (w : World K) (caster : PlayerState K) : SkillResult K :=
  let len := JsNumber.hypot caster.facingX caster.facingY
  if len = 0 then ⟨w, [], .error .noTarget⟩
  else
    let storm := stormRect w
    let free (x y : K) : Bool := isPositionFree w.map x y caster.radius storm
    let landing := findFlashLanding caster.x caster.y (caster.facingX / len) (caster.facingY / len)
      (JsNumber.ofRat Skills.Flash.distancePx) (JsNumber.ofRat Skills.Flash.wallExitMaxPx)
      caster.radius free
    { world := w.update caster.playerId fun p =>
        startCooldown w { p with x := landing.1, y := landing.2 } .flash
          (JsNumber.ofRat Skills.Flash.cooldownMs)
      events := [.blinked caster.playerId caster.x caster.y]
      outcome := .ok .flash }

/-- Everybody in range is slowed, taggers and runners alike, and the caster pays for it. -/
def useExhaust (w : World K) (caster : PlayerState K) : SkillResult K :=
  let hits := sortById PlayerState.playerId (w.players.filter fun p =>
    p.alive && p.playerId != caster.playerId &&
      decide (distance caster p ≤ JsNumber.ofRat Skills.Exhaust.rangePx))
  let area := .skillArea ⟨.exhaust, caster.playerId, caster.x, caster.y, none⟩
  let cooling := w.update caster.playerId fun p =>
    startCooldown w p .exhaust (JsNumber.ofRat Skills.Exhaust.cooldownMs)
  if hits = [] then ⟨cooling, [area], .error .outOfRange⟩
  else
    let slow (magnitude durationMs : ℚ) (w : World K) (id : Nat) : World K :=
      w.update id fun p =>
        applyEffect w p .exhaust (JsNumber.ofRat magnitude) (JsNumber.ofRat durationMs)
    let slowed := (hits.map PlayerState.playerId).foldl
      (slow Skills.Exhaust.speedDecrease Skills.Exhaust.durationMs) cooling
    { world := slow Skills.Exhaust.selfDecrease Skills.Exhaust.selfDurationMs slowed caster.playerId
      events := [area]
      outcome := .ok .exhaust }

def withStats (f : MatchStats → MatchStats) (p : PlayerState K) : PlayerState K :=
  { p with stats := f p.stats }

/-- A use that misses still costs its cooldown and shows its circle. -/
def useSwitch (w : World K) (caster : PlayerState K) (targetPlayerId : Option Nat) :
    SkillResult K :=
  if caster.isTagger then ⟨w, [], .error .role⟩
  else match livingTagger w with
    | none => ⟨w, [], .error .noTagger⟩
    | some tagger =>
      let target := (targetPlayerId.bind w.find).filter fun p =>
        p.alive && !p.isTagger && p.playerId != caster.playerId
      let tried := w.update caster.playerId fun p =>
        withStats (fun s => { s with switchTry := s.switchTry + 1 })
          (startCooldown w p .switch (JsNumber.ofRat Skills.Switch.cooldownMs))
      let area := .skillArea ⟨.switch, caster.playerId, caster.x, caster.y, targetPlayerId⟩
      if JsNumber.ofRat Skills.Switch.rangePx < distance caster tagger then
        ⟨tried, [area], .error .outOfRange⟩
      else match target with
        | none => ⟨tried, [area], .error .noTarget⟩
        | some target =>
          let cleared := tried.update tagger.playerId fun p =>
            applyEffect w { p with isTagger := false } .exhaust
              (JsNumber.ofRat Skills.SwitchVictim.speedDecrease)
              (JsNumber.ofRat Skills.SwitchVictim.durationMs)
          let chosen := cleared.update target.playerId fun p =>
            grantTaggerFrenzy w { p with isTagger := true }
          let moved := { chosen with taggerChangedAtTick := w.tick }
          { world := moved.update caster.playerId fun p =>
              withStats (fun s => { s with switchSuccess := s.switchSuccess + 1 })
                (grantTaggerFrenzy w p)
            events := [area, .tagged target.playerId (some caster.playerId)]
            outcome := .ok .switch }

def skillInSlot (player : PlayerState K) (slot : Nat) : Option SkillId :=
  if slot = slotSwitch then (if player.isTagger then none else some .switch)
  else if slot = slotMovement then some player.loadout
  else none

def useSkill (w : World K) (request : SkillRequest) : SkillResult K :=
  match w.find request.playerId with
  | none => ⟨w, [], .error .notAlive⟩
  | some caster =>
    if ¬ caster.alive then ⟨w, [], .error .notAlive⟩
    else if request.slot = slotSwitch ∧ caster.isTagger then ⟨w, [], .error .role⟩
    else match skillInSlot caster request.slot with
      | none => ⟨w, [], .error .noSkill⟩
      | some skill =>
        if ¬ isReady caster skill then ⟨w, [], .error .onCooldown⟩
        else match skill with
          | .dash => useDash w caster
          | .flash => useFlash w caster
          | .exhaust => useExhaust w caster
          | .switch => useSwitch w caster request.targetPlayerId

end SwitchRemake.Simulation

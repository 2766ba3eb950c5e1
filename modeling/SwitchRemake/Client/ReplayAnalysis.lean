import SwitchRemake.Shared.Snapshot
import SwitchRemake.Shared.ReplayFormat

/-!
# The analysis of a replay

`client/replay/analysis.ts`: what a recorded match says of its players. It reads the decoded frames
and the events of the file and nothing else. Slots are numbers of the room here, and the frames are
of any type that `decode` reads.
-/

namespace SwitchRemake.Analysis
open Lib Simulation Protocol

variable {K F : Type}

/-- A recorded event, with the slots as numbers of the room. -/
structure ReplayEvent (K : Type) where
  kind : Replay.ReplayEventKind
  playerId : Nat
  taggedBy : Option Nat := none
  fromX : Option K := none
  fromY : Option K := none
  targetPlayerId : Option Nat := none
  skillId : Option SkillId := none

structure RecordedEvent (K : Type) where
  tick : Nat
  event : ReplayEvent K

structure RecordedFrame (F : Type) where
  tick : Nat
  content : F

structure PlayerSample where
  id : Nat
  x : Int
  y : Int
  isTagger : Bool
  dash : Bool
  frenzy : Bool
  exhaust : Bool
  deriving DecidableEq

structure FrameState where
  tick : Nat
  players : List PlayerSample

inductive AnalysisEventKind where
  | taggerAssigned | switch | switchMiss | exhaust | flash | dash | elimination
  deriving DecidableEq

def AnalysisEventKind.order : AnalysisEventKind → Nat
  | taggerAssigned => 0
  | switch => 1
  | switchMiss => 2
  | exhaust => 3
  | flash => 4
  | dash => 5
  | elimination => 6

structure AnalysisEvent (K : Type) where
  tick : Nat
  frameIndex : Nat
  kind : AnalysisEventKind
  actorId : Nat
  targetId : Option Nat := none
  previousTaggerId : Option Nat := none
  x : Option K := none
  y : Option K := none
  exhaustHits : Option (List Nat) := none

structure TaggerSegment where
  playerId : Nat
  startFrame : Nat
  endFrame : Nat
  startTick : Nat
  endTick : Nat
  deriving DecidableEq

structure PlayerTotals (K : Type) where
  eliminations : Nat
  switchTry : Nat
  switchSuccess : Nat
  flash : Nat
  dash : Nat
  exhaust : Nat
  exhaustHits : Nat
  taggerTicks : Int
  distancePx : K
  alive : Bool
  eliminatedAtTick : Option Nat
  eliminatedBy : Option Nat

structure AnalysisInput (K F : Type) where
  participants : List Nat
  frames : List (RecordedFrame F)
  events : List (RecordedEvent K)
  decode : F → Option (List (SnapshotPlayer K))

/-! ## Searches in sorted lists -/

/-- The loop of `lastAtOrBefore` over the positions from `lo` up to `hi`; a turn per unit of fuel. -/
def lastFrom (sorted : List Nat) (value : Int) : Nat → Nat → Nat → Option Nat → Option Nat
  | 0, _, _, found => found
  | fuel + 1, lo, hi, found =>
    if lo < hi then
      let mid := (lo + hi - 1) / 2
      if ((sorted[mid]?).getD 0 : Int) ≤ value then lastFrom sorted value fuel (mid + 1) hi (some mid)
      else lastFrom sorted value fuel lo mid found
    else found

/-- The last position of a value that is no larger. -/
def lastAtOrBefore (sorted : List Nat) (value : Int) : Option Nat :=
  lastFrom sorted value sorted.length 0 sorted.length none

def firstFrom (sorted : List Nat) (value : Nat) : Nat → Nat → Nat → Nat
  | 0, lo, _ => lo
  | fuel + 1, lo, hi =>
    if lo < hi then
      let mid := (lo + hi) / 2
      if (sorted[mid]?).getD 0 < value then firstFrom sorted value fuel (mid + 1) hi
      else firstFrom sorted value fuel lo mid
    else lo

/-- The first position of a value that is no smaller, or the length. -/
def firstAtOrAfter (sorted : List Nat) (value : Nat) : Nat :=
  firstFrom sorted value sorted.length 0 sorted.length

variable [JsNumber K]

/-! ## The frames -/

def toSample (player : SnapshotPlayer K) : PlayerSample :=
  let on (type : EffectType) : Bool := 0 < (player.effects type).getD 0
  { id := player.id, x := player.x, y := player.y, isTagger := player.isTagger
    dash := on .dash, frenzy := on .frenzy, exhaust := on .exhaust }

/-- A frame without a list of players carries on the last one. -/
def statesFrom (decode : F → Option (List (SnapshotPlayer K))) (carried : List PlayerSample) :
    List (RecordedFrame F) → List FrameState
  | [] => []
  | frame :: rest =>
    let players := match decode frame.content with
      | some players => sortById PlayerSample.id (players.map toSample)
      | none => carried
    ⟨frame.tick, players⟩ :: statesFrom decode players rest

/-- The sorted input and the states, which every later part reads. -/
structure Footage (K : Type) where
  participantIds : List Nat
  ticks : List Nat
  states : List FrameState
  raw : List (RecordedEvent K)

def footage (input : AnalysisInput K F) : Footage K :=
  let frames := sortById RecordedFrame.tick input.frames
  { participantIds := sortById (fun id => id) input.participants
    ticks := frames.map RecordedFrame.tick
    states := statesFrom input.decode [] frames
    raw := sortById RecordedEvent.tick input.events }

namespace Footage
variable (f : Footage K)

omit [JsNumber K] in
def lastFrame : Nat := f.states.length - 1

omit [JsNumber K] in
def frameAtOrAfterTick (tick : Nat) : Nat := min f.lastFrame (firstAtOrAfter f.ticks tick)

omit [JsNumber K] in
def sampleAt (frameIndex id : Nat) : Option PlayerSample :=
  (f.states[frameIndex]?).bind fun state => state.players.find? fun p => p.id = id

omit [JsNumber K] in
def taggerIn (state : FrameState) : Option Nat :=
  (state.players.find? PlayerSample.isTagger).map PlayerSample.id

omit [JsNumber K] in
def taggerBefore (tick : Nat) : Option Nat :=
  ((lastAtOrBefore f.ticks ((tick : Int) - 1)).bind fun frame => f.states[frame]?).bind taggerIn

/-! ## The events -/

omit [JsNumber K] in
/-- The record of the change of role that belongs to a Switch, with its place in the list. -/
def successOf (record : RecordedEvent K) : Option (RecordedEvent K × Nat) :=
  f.raw.zipIdx.find? fun other =>
    other.1.tick = record.tick && other.1.event.kind = .tagged &&
      other.1.event.taggedBy = some record.event.playerId

omit [JsNumber K] in
def isSwitchArea (event : ReplayEvent K) : Bool :=
  event.kind = .skillArea && event.skillId = some .switch

omit [JsNumber K] in
def exhaustHits (record : RecordedEvent K) : List Nat :=
  let before := lastAtOrBefore f.ticks ((record.tick : Int) - 1)
  let after := f.frameAtOrAfterTick record.tick
  let weak (id : Nat) : Bool :=
    (before.bind fun frame => f.sampleAt frame id).any PlayerSample.exhaust
  ((((f.states[after]?).map FrameState.players).getD []).filter fun p =>
    p.id != record.event.playerId && p.exhaust && !weak p.id).map PlayerSample.id

/-- What the first loop makes of a record. -/
def firstEvent (record : RecordedEvent K) : Option (AnalysisEvent K) :=
  let event := record.event
  let tick := record.tick
  let frameIndex := f.frameAtOrAfterTick tick
  if isSwitchArea event then
    match f.successOf record with
    | some success => some
      { tick, frameIndex, kind := .switch, actorId := event.playerId
        targetId := some success.1.event.playerId, previousTaggerId := f.taggerBefore tick
        x := event.fromX, y := event.fromX.bind fun _ => event.fromY }
    | none => some
      { tick, frameIndex, kind := .switchMiss, actorId := event.playerId
        targetId := event.targetPlayerId, x := event.fromX
        y := event.fromX.bind fun _ => event.fromY }
  else if event.kind = .skillArea ∧ event.skillId = some .exhaust then some
    { tick, frameIndex, kind := .exhaust, actorId := event.playerId
      exhaustHits := some (f.exhaustHits record), x := event.fromX
      y := event.fromX.bind fun _ => event.fromY }
  else if event.kind = .blinked then some
    { tick, frameIndex, kind := .flash, actorId := event.playerId, x := event.fromX
      y := event.fromX.bind fun _ => event.fromY }
  else if event.kind = .eliminated then
    let victim := f.sampleAt ((lastAtOrBefore f.ticks tick).getD 0) event.playerId
    some
      { tick, frameIndex, kind := .elimination, actorId := event.taggedBy.getD event.playerId
        targetId := some event.playerId
        x := victim.map fun v => JsNumber.ofInt v.x, y := victim.map fun v => JsNumber.ofInt v.y }
  else none

omit [JsNumber K] in
/-- `consumedTags`, as places in the list. -/
def consumedTags : List Nat :=
  (f.raw.filter fun record => isSwitchArea record.event).filterMap fun record =>
    (f.successOf record).map Prod.snd

omit [JsNumber K] in
/-- What the second loop makes of a change of role that no Switch has consumed. -/
def secondEvent (record : RecordedEvent K × Nat) : Option (AnalysisEvent K) :=
  let event := record.1.event
  let tick := record.1.tick
  if event.kind ≠ .tagged ∨ record.2 ∈ f.consumedTags then none
  else match event.taggedBy with
    | none => some
      { tick, frameIndex := f.frameAtOrAfterTick tick, kind := .taggerAssigned
        actorId := event.playerId }
    | some by_ => some
      { tick, frameIndex := f.frameAtOrAfterTick tick, kind := .switch, actorId := by_
        targetId := some event.playerId, previousTaggerId := f.taggerBefore tick }

/-- A dash leaves no event; its effect coming on makes one. -/
def dashEvents : List (AnalysisEvent K) :=
  f.states.zipIdx.flatMap fun state =>
    (state.1.players.filter fun player =>
      player.dash && state.2 != 0 &&
        !(f.sampleAt (state.2 - 1) player.id).any PlayerSample.dash).map fun player =>
      { tick := state.1.tick, frameIndex := state.2, kind := .dash, actorId := player.id
        x := some (JsNumber.ofInt player.x), y := some (JsNumber.ofInt player.y) }

omit [JsNumber K] in
def eventBefore (a b : AnalysisEvent K) : Prop :=
  a.tick < b.tick ∨ a.tick = b.tick ∧ a.kind.order ≤ b.kind.order

omit [JsNumber K] in
instance : DecidableRel (eventBefore (K := K)) := fun _ _ =>
  inferInstanceAs (Decidable (_ ∨ _))

def events : List (AnalysisEvent K) :=
  (f.raw.filterMap f.firstEvent ++ f.raw.zipIdx.filterMap f.secondEvent ++
    f.dashEvents).insertionSort eventBefore

/-! ## The segments -/

omit [JsNumber K] in
/-- One turn of the loop over the frames. -/
def addFrame (segments : List TaggerSegment) (state : FrameState × Nat) : List TaggerSegment :=
  let endTick := (f.ticks[state.2 + 1]?).getD state.1.tick
  match segments.getLast?, taggerIn state.1 with
  | some current, some tagger =>
    if current.playerId = tagger ∧ current.endFrame = state.2 then
      segments.dropLast ++ [{ current with endFrame := state.2 + 1, endTick }]
    else segments ++ [⟨tagger, state.2, state.2 + 1, state.1.tick, endTick⟩]
  | none, some tagger => segments ++ [⟨tagger, state.2, state.2 + 1, state.1.tick, endTick⟩]
  | _, none => segments

omit [JsNumber K] in
def taggerSegments : List TaggerSegment := f.states.zipIdx.foldl f.addFrame []

/-! ## The totals -/

def flashedAt (frameIndex id : Nat) : Bool :=
  f.events.any fun e => e.kind = .flash && e.frameIndex = frameIndex && e.actorId = id

/-- Walked up to a frame: the steps between frames that show the player, its jumps left out. -/
def distance (id : Nat) : Nat → K
  | 0 => 0
  | i + 1 =>
    match f.sampleAt (i + 1) id, f.sampleAt i id with
    | some now, some prev =>
      if f.flashedAt (i + 1) id then distance id i
      else distance id i + JsNumber.hypot (JsNumber.ofInt (now.x - prev.x))
        (JsNumber.ofInt (now.y - prev.y))
    | _, _ => distance id i

omit [JsNumber K] in
def tickAt (i : Nat) : Nat := ((f.states[i]?).map FrameState.tick).getD 0

omit [JsNumber K] in
def taggerTicks (id : Nat) : Nat → Int
  | 0 => 0
  | i + 1 =>
    if (f.sampleAt i id).any PlayerSample.isTagger then
      taggerTicks id i + ((f.tickAt (i + 1) : Int) - f.tickAt i)
    else taggerTicks id i

def emptyTotals : PlayerTotals K :=
  { eliminations := 0, switchTry := 0, switchSuccess := 0, flash := 0, dash := 0, exhaust := 0
    exhaustHits := 0, taggerTicks := 0, distancePx := 0, alive := true, eliminatedAtTick := none
    eliminatedBy := none }

omit [JsNumber K] in
/-- What one event does to the totals of one player. -/
def credit (id : Nat) (totals : PlayerTotals K) (event : AnalysisEvent K) : PlayerTotals K :=
  let acts := event.actorId = id
  match event.kind with
  | .elimination =>
    let credited :=
      if acts ∧ some event.actorId ≠ event.targetId then
        { totals with eliminations := totals.eliminations + 1 }
      else totals
    if event.targetId = some id then
      { credited with
        alive := false
        eliminatedAtTick := some event.tick
        eliminatedBy := some event.actorId }
    else credited
  | .switch =>
    if acts then
      { totals with
        switchTry := totals.switchTry + 1
        switchSuccess := totals.switchSuccess + 1 }
    else totals
  | .switchMiss => if acts then { totals with switchTry := totals.switchTry + 1 } else totals
  | .flash => if acts then { totals with flash := totals.flash + 1 } else totals
  | .dash => if acts then { totals with dash := totals.dash + 1 } else totals
  | .exhaust =>
    if acts then
      { totals with
        exhaust := totals.exhaust + 1
        exhaustHits := totals.exhaustHits + (event.exhaustHits.getD []).length }
    else totals
  | .taggerAssigned => totals

/-- The totals of one player up to a tick; the loop stops at the first later event. -/
def totalsUpTo (id tick : Nat) : PlayerTotals K :=
  (f.events.takeWhile fun e => e.tick ≤ tick).foldl (credit id) emptyTotals

/-- The entry of `totalsAt(frameIndex)` for a participant. -/
def totalsAt (frameIndex id : Nat) : PlayerTotals K :=
  let index := min f.lastFrame frameIndex
  { f.totalsUpTo id (f.tickAt index) with
    distancePx := if index < f.states.length then f.distance id index else 0
    taggerTicks := if index < f.states.length then f.taggerTicks id index else 0 }

end Footage

/-- `buildReplayAnalysis`. -/
structure ReplayAnalysis (K : Type) where
  ticks : List Nat
  states : List FrameState
  events : List (AnalysisEvent K)
  taggerSegments : List TaggerSegment
  participantIds : List Nat
  totalsAt : Nat → List (Nat × PlayerTotals K)

def buildReplayAnalysis (input : AnalysisInput K F) : ReplayAnalysis K :=
  let f := footage input
  { ticks := f.ticks
    states := f.states
    events := f.events
    taggerSegments := f.taggerSegments
    participantIds := f.participantIds
    totalsAt := fun frameIndex => f.participantIds.map fun id => (id, f.totalsAt frameIndex id) }

end SwitchRemake.Analysis

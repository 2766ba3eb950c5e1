import SwitchRemake.Game.SnapshotView
import SwitchRemake.Simulation.Step

/-!
# One match in progress

`game/game-session.ts`. What a session asks of its room goes out as a list of notices, in the order
of the calls; the room and the clock of the process come in as arguments.
-/

namespace SwitchRemake.Game
open Lib Simulation Protocol

variable {K : Type}

/-- `Room.participants`: who a slot belongs to when the match starts. -/
structure Participant where
  playerId : Nat
  userId : ActorId
  nickname : String
  colorIndex : Nat
  guest : Bool
  deriving DecidableEq

/-- The calls a session makes on its recorder while the match runs. -/
inductive ReplayCall (K : Type) where
  | events (tick : Nat) (events : List (WorldEvent K))
  | snapshotTick (frame : AuthoritativeFrame K) (tileChanges : List TileChange)
  | finalFrame (frame : AuthoritativeFrame K) (tileChanges : List TileChange)
  | abort (reason : String)

structure GameSession (K : Type) where
  id : String
  matchId : MatchId
  mode : RoomMode
  world : World K
  roster : List RosterEntry
  identities : List Participant
  maxDurationTicks : Nat
  pendingSkills : List SkillRequest
  pendingEmojis : List EmojiRequest
  needsFullSnapshot : Finset Nat
  pendingTileChanges : List TileChange
  finished : Bool
  replay : List (ReplayCall K)

/-- A full queue is reported against the account behind the slot, or against the room. -/
inductive ViolationSubject where
  | actor (userId : ActorId)
  | roomSlot (roomId : String) (playerId : Nat)
  deriving DecidableEq

inductive QueueKind where
  | skill | emoji
  deriving DecidableEq

structure RateLimitSignal where
  userId : ViolationSubject
  roomId : String
  tick : Nat
  queue : QueueKind
  playerId : Nat
  deriving DecidableEq

/-- What the session tells its room. -/
inductive RoomNotice (K : Type) where
  | skillRejected (rejection : Rejection)
  | event (event : WorldEvent K)
  | finishGame (winnerIds : List Nat)

/-- What the training ground does around one tick: requests before it, and writes to the players
and to the time of the last change of tagger after it. A match has no training ground. -/
structure TrainingTurn (K : Type) where
  inputs : List (ResolvedInput K)
  skills : List SkillRequest
  players : List (PlayerState K) → List (PlayerState K)
  taggerChangedAtTick : Nat → Nat

def noTraining : TrainingTurn K := ⟨[], [], id, id⟩

def TrainingTurn.after (turn : TrainingTurn K) (w : World K) : World K :=
  { w with
    players := turn.players w.players
    taggerChangedAtTick := turn.taggerChangedAtTick w.taggerChangedAtTick }

namespace GameSession

/-- The constructor. Every player of the new world still has to be sent a full snapshot. -/
def start (id : String) (matchId : MatchId) (mode : RoomMode) (world : World K)
    (roster : List RosterEntry) (identities : List Participant) (maxDurationTicks : Nat) :
    GameSession K :=
  { id, matchId, mode, world, roster, identities, maxDurationTicks
    pendingSkills := []
    pendingEmojis := []
    needsFullSnapshot := (world.players.map PlayerState.playerId).toFinset
    pendingTileChanges := []
    finished := false
    replay := [] }

def actorOf (s : GameSession K) (playerId : Nat) : ViolationSubject :=
  match s.identities.find? fun p => p.playerId = playerId with
  | some p => .actor p.userId
  | none => .roomSlot s.id playerId

def rateLimitSignal (s : GameSession K) (queue : QueueKind) (playerId : Nat) : RateLimitSignal :=
  ⟨s.actorOf playerId, s.id, s.world.tick, queue, playerId⟩

def queueSkill (s : GameSession K) (request : SkillRequest) :
    GameSession K × Option RateLimitSignal :=
  if s.finished then (s, none)
  else if Network.maxJsonCommandsPerSec ≤ s.pendingSkills.length then
    (s, some (s.rateLimitSignal .skill request.playerId))
  else ({ s with pendingSkills := s.pendingSkills ++ [request] }, none)

/-- The last request of a slot counts, in the place of its first. -/
def setEmoji (requests : List EmojiRequest) (request : EmojiRequest) : List EmojiRequest :=
  if requests.any (fun r => r.playerId = request.playerId) then
    requests.map fun r => if r.playerId = request.playerId then request else r
  else requests ++ [request]

def queueEmoji (s : GameSession K) (request : EmojiRequest) :
    GameSession K × Option RateLimitSignal :=
  if s.finished then (s, none)
  else if s.pendingEmojis.all (fun r => r.playerId ≠ request.playerId) ∧
      Network.maxJsonCommandsPerSec ≤ s.pendingEmojis.length then
    (s, some (s.rateLimitSignal .emoji request.playerId))
  else ({ s with pendingEmojis := setEmoji s.pendingEmojis request }, none)

def requestFullSnapshot (s : GameSession K) (playerId : Nat) : GameSession K :=
  { s with needsFullSnapshot := insert playerId s.needsFullSnapshot }

/-- Whether the match is over: few enough are left, or the time is up. -/
def matchHasEnded (s : GameSession K) : Bool :=
  isFinished s.world || decide (s.maxDurationTicks ≤ s.world.tick)

def confirmedWinnerIds (s : GameSession K) : List Nat :=
  let winners := (s.world.players.filter fun p =>
    p.alive && s.identities.any fun identity => identity.playerId = p.playerId).map
      PlayerState.playerId
  sortById (fun slot => slot) winners.dedup

def record (s : GameSession K) (call : ReplayCall K) : GameSession K :=
  { s with replay := s.replay ++ [call] }

/-- `#startFinish` up to its first wait: the winners go to the room. -/
def finish (s : GameSession K) : GameSession K × List (RoomNotice K) :=
  ({ s with finished := true }, [.finishGame s.confirmedWinnerIds])

variable [JsNumber K]

/-- A departed tagger is replaced at once among at least three survivors. -/
def replaceTagger (w : World K) : Option (World K × Nat) :=
  let runners := rotationCandidates w
  let drawn := w.nextRandomInt runners.length
  (runners[drawn.1]?).map fun replacement =>
    let flag (p : PlayerState K) : PlayerState K :=
      { p with isTagger := p.playerId = replacement.playerId }
    let flagged : World K :=
      { drawn.2 with players := drawn.2.players.map flag, taggerChangedAtTick := w.tick }
    (flagged.update replacement.playerId (grantTaggerFrenzy w), replacement.playerId)

omit [JsNumber K] in
def disconnectPlayer (w : World K) (playerId : Nat) : World K :=
  w.update playerId fun p =>
    withStats (fun stats => { stats with eliminatedAtTick := some w.tick })
      { p with connected := false, alive := false }

structure Elimination (K : Type) where
  session : GameSession K
  eliminated : Bool
  notices : List (RoomNotice K)

/-- The part of `eliminateDisconnected` between the death and the recorder. -/
def afterDeparture (s : GameSession K) (playerId : Nat) :
    GameSession K × List (WorldEvent K) :=
  let left := { s with world := disconnectPlayer s.world playerId }
  let departure : WorldEvent K := .eliminated playerId none
  if left.mode = RoomMode.match ∧ left.matchHasEnded = false ∧ livingTagger left.world = none then
    match replaceTagger left.world with
    | none => (left, [departure])
    | some (world, replacement) =>
      ({ left with world }, [departure, .tagged replacement none])
  else (left, [departure])

def eliminateDisconnected (s : GameSession K) (playerId : Nat) : Elimination K :=
  if s.finished then ⟨s, false, []⟩
  else match (s.world.find playerId).filter PlayerState.alive with
    | none => ⟨s, false, []⟩
    | some _ =>
      let departed := s.afterDeparture playerId
      let recorded := departed.1.record (.events s.world.tick departed.2)
      -- The departure itself is known to the room, which made the call.
      let notices := (departed.2.drop 1).map RoomNotice.event
      if s.mode = RoomMode.match ∧ recorded.matchHasEnded then
        let frame : AuthoritativeFrame K := ⟨s.world.tick, recorded.world, departed.2, []⟩
        let closed := (recorded.record (.finalFrame frame recorded.pendingTileChanges)).finish
        ⟨{ closed.1 with pendingTileChanges := [] }, true, notices ++ closed.2⟩
      else ⟨recorded, true, notices⟩

structure SessionStep (K : Type) where
  session : GameSession K
  frame : Option (AuthoritativeFrame K)
  notices : List (RoomNotice K)

/-- The requests of the next tick: what the room resolved, what is queued, the training ground. -/
def requests (s : GameSession K) (inputs : List (ResolvedInput K)) (training : TrainingTurn K) :
    TickRequests K :=
  { inputs := inputs ++ training.inputs
    skillRequests := s.pendingSkills ++ training.skills
    emojiRequests := s.pendingEmojis }

def step (s : GameSession K) (inputs : List (ResolvedInput K)) (training : TrainingTurn K) :
    SessionStep K :=
  if s.finished then ⟨s, none, []⟩
  else
    let stepped := stepWorld s.world (s.requests inputs training)
    let frame := { stepped with world := training.after stepped.world }
    let notices := stepped.skillRejections.map RoomNotice.skillRejected ++
      stepped.events.map RoomNotice.event
    let advanced := ({ s with
      world := frame.world
      pendingSkills := []
      pendingEmojis := []
      pendingTileChanges := s.pendingTileChanges ++ stepped.world.tileChanges }).record
        (.events frame.tick frame.events)
    if s.mode = RoomMode.match ∧ advanced.matchHasEnded then
      let closed := (advanced.record (.finalFrame frame frame.world.tileChanges)).finish
      ⟨closed.1, some frame, notices ++ closed.2⟩
    else ⟨advanced, some frame, notices⟩

/-! ## Publication -/

/-- A connection the room wants served, with the bytes its socket has not sent yet. -/
structure Target where
  playerId : Nat
  access : SnapshotAccess
  bufferedBytes : Nat
  deriving DecidableEq

/-- One snapshot handed to `sendBinary`, and whether the transport let it through. -/
structure Delivery (K : Type) where
  playerId : Nat
  snapshot : Snapshot K
  sent : Bool

/-- `WsConnection.sendBinary` on an open socket. -/
def transportSends (bufferedBytes : Nat) : Bool :=
  decide (¬ Network.socketBufferSoftLimitBytes ≤ bufferedBytes)

def sendsFull (s : GameSession K) (frame : AuthoritativeFrame K) (playerId : Nat) : Bool :=
  decide (playerId ∈ s.needsFullSnapshot ∨ frame.tick ≤ 1)

def viewerContext (s : GameSession K) (frame : AuthoritativeFrame K) (target : Target) :
    ViewerContext :=
  { playerId := if target.access = .unfiltered then none else some target.playerId
    access := target.access
    full := s.sendsFull frame target.playerId }

/-- The body of the loop over the targets. -/
def publishTo (frame : AuthoritativeFrame K) (s : GameSession K) (target : Target) :
    GameSession K × Option (Delivery K) :=
  if target.access = .none then (s, none)
  else
    let viewer := s.viewerContext frame target
    let cleared := { s with needsFullSnapshot := s.needsFullSnapshot.erase target.playerId }
    let payload := buildSnapshot frame viewer s.roster (some s.pendingTileChanges)
    if viewer.full = false ∧ Network.socketBufferSoftLimitBytes < target.bufferedBytes then
      (cleared.requestFullSnapshot target.playerId, none)
    else (cleared, some ⟨target.playerId, payload, transportSends target.bufferedBytes⟩)

def publishAll (frame : AuthoritativeFrame K) (s : GameSession K) :
    List Target → GameSession K × List (Delivery K)
  | [] => (s, [])
  | target :: rest =>
    let first := publishTo frame s target
    let others := publishAll frame first.1 rest
    (others.1, first.2.toList ++ others.2)

def publish (s : GameSession K) (frame : AuthoritativeFrame K) (targets : List Target) :
    GameSession K × List (Delivery K) :=
  let sent := publishAll frame s targets
  let recorded :=
    if s.finished then sent.1 else sent.1.record (.snapshotTick frame s.pendingTileChanges)
  ({ recorded with pendingTileChanges := [] }, sent.2)

omit [JsNumber K] in
/-- `GameLifecycle.connectionChanged`: whoever is back needs the whole picture. -/
def connectionChanged (s : GameSession K) (playerId : Nat) (connected : Bool) : GameSession K :=
  match s.world.find playerId with
  | none => s
  | some _ =>
    let noted := { s with world := s.world.update playerId fun p => { p with connected } }
    if connected then noted.requestFullSnapshot playerId else noted

omit [JsNumber K] in
def stop (s : GameSession K) : GameSession K :=
  if s.finished then s
  else { s.record (.abort "session-stopped") with finished := true }

end GameSession
end SwitchRemake.Game

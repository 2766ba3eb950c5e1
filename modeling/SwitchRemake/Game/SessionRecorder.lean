import SwitchRemake.Client.ReplayAnalysis
import SwitchRemake.Game.SessionLaws
import SwitchRemake.Lib.Runs
import SwitchRemake.Simulation.Books
import SwitchRemake.Simulation.Holder

/-!
# What the recorder of a session writes

`game/session-recorder.ts`, and what the operations of a match that is recorded to its end do to the
world and to the record. A published frame is the one the tick has just made.
-/

namespace SwitchRemake.Game
open Lib Simulation GameSession Analysis Protocol

variable {K : Type}

/-- `recordEvents`, for one event. -/
def replayEvent : WorldEvent K → ReplayEvent K
  | .tagged playerId source => { kind := .tagged, playerId, taggedBy := source }
  | .eliminated playerId source => { kind := .eliminated, playerId, taggedBy := source }
  | .blinked playerId fromX fromY =>
    { kind := .blinked, playerId, fromX := some fromX, fromY := some fromY }
  | .skillArea area =>
    { kind := .skillArea
      playerId := area.playerId
      fromX := some area.fromX
      fromY := some area.fromY
      targetPlayerId := area.targetPlayerId
      skillId := some area.skill }

def ReplayCall.told : ReplayCall K → List (RecordedEvent K)
  | .events tick happened => happened.map fun event => ⟨tick, replayEvent event⟩
  | _ => []

def ReplayCall.frame? : ReplayCall K → Option (AuthoritativeFrame K)
  | .snapshotTick frame _ => some frame
  | .finalFrame frame _ => some frame
  | _ => none

def shownFrames (calls : List (ReplayCall K)) : List (AuthoritativeFrame K) :=
  calls.filterMap ReplayCall.frame?

def recordedEvents (calls : List (ReplayCall K)) : List (RecordedEvent K) :=
  calls.flatMap ReplayCall.told

/-- The operations of a match, without those that break off its record. -/
inductive RecordedOp (K : Type) where
  | queueSkill (request : SkillRequest)
  | queueEmoji (request : EmojiRequest)
  | requestFullSnapshot (playerId : Nat)
  | connectionChanged (playerId : Nat) (connected : Bool)
  | tick (inputs : List (ResolvedInput K)) (publication : Option (List Target))
  | eliminateDisconnected (playerId : Nat)

variable [JsNumber K]

/-- `#writeFrame`: nothing is hidden, and every so often a frame is a whole one. -/
def writeFrame (roster : List RosterEntry) (frame : AuthoritativeFrame K) (full : Bool)
    (tileChanges : List TileChange) : RecordedFrame (Snapshot K) :=
  ⟨frame.tick, buildSnapshot frame ⟨none, .unfiltered, full⟩ roster (some tileChanges)⟩

def recordedFrames (roster : List RosterEntry) :
    Nat → List (ReplayCall K) → List (RecordedFrame (Snapshot K))
  | _, [] => []
  | count, .snapshotTick frame tileChanges :: rest =>
    writeFrame roster frame (count % Replay.framesPerChunk = 0) tileChanges ::
      recordedFrames roster (count + 1) rest
  | count, .finalFrame frame tileChanges :: rest =>
    writeFrame roster frame true tileChanges :: recordedFrames roster (count + 1) rest
  | count, .events _ _ :: rest => recordedFrames roster count rest
  | count, .abort _ :: rest => recordedFrames roster count rest

/-- What the analysis of the recorded match reads. -/
def analysisInput (s : GameSession K)
    (decode : Snapshot K → Option (List (SnapshotPlayer K))) : AnalysisInput K (Snapshot K) :=
  { participants := s.identities.map Participant.playerId
    frames := recordedFrames s.roster 0 s.replay
    events := recordedEvents s.replay
    decode }

/-- The scheduler's turn: a tick, and its frame if this is a tick that publishes. -/
def GameSession.turn (s : GameSession K) (inputs : List (ResolvedInput K))
    (publication : Option (List Target)) : GameSession K :=
  let stepped := s.step inputs noTraining
  match stepped.frame, publication with
  | some frame, some targets => (stepped.session.publish frame targets).1
  | _, _ => stepped.session

def RecordedOp.apply (s : GameSession K) : RecordedOp K → GameSession K
  | .queueSkill request => (s.queueSkill request).1
  | .queueEmoji request => (s.queueEmoji request).1
  | .requestFullSnapshot playerId => s.requestFullSnapshot playerId
  | .connectionChanged playerId connected => s.connectionChanged playerId connected
  | .tick inputs publication => s.turn inputs publication
  | .eliminateDisconnected playerId => (s.eliminateDisconnected playerId).session

def Recorded : GameSession K → GameSession K → Prop :=
  Reach (fun _ (_ : RecordedOp K) => True) RecordedOp.apply

/-! ## One operation -/

/-- What can happen to the world of a match. -/
inductive Happens (s : GameSession K) : World K → List (WorldEvent K) → Prop where
  | step (requests : TickRequests K) :
      Happens s (stepWorld s.world requests).world (stepWorld s.world requests).events
  | departure {playerId : Nat} {p : PlayerState K}
      (found : (s.world.find playerId).filter PlayerState.alive = some p) :
      Happens s (s.afterDeparture playerId).1.world (s.afterDeparture playerId).2

/-- All that a silent operation may write of a player is whether it is connected. -/
structure Bystands (p q : PlayerState K) : Prop where
  slot : q.playerId = p.playerId
  alive : q.alive = p.alive
  isTagger : q.isTagger = p.isTagger
  stats : q.stats = p.stats

/-- An operation records nothing, or what has happened and then perhaps the world as it is. -/
inductive Records (s r : GameSession K) : Prop where
  | silent (replay : r.replay = s.replay) (clock : r.world.tick = s.world.tick)
      (finished : r.finished = s.finished) (each : Each Bystands s.world r.world)
  | told {events : List (WorldEvent K)} {frames : List (ReplayCall K)}
      (happens : Happens s r.world events)
      (replay : r.replay = s.replay ++ .events r.world.tick events :: frames)
      (shown : frames = [] ∧ r.finished = false ∨
        ∃ call frame, frames = [call] ∧ call.frame? = some frame ∧
          frame.tick = r.world.tick ∧ frame.world = r.world)

theorem Records.still {s r : GameSession K} (replay : r.replay = s.replay)
    (world : r.world = s.world) (finished : r.finished = s.finished) : Records s r := by
  refine .silent replay (by rw [world]) finished ?_
  rw [world]
  exact Each.refl (fun p => ⟨rfl, rfl, rfl, rfl⟩) s.world

omit [JsNumber K] in
theorem connectionChanged_bystands (s : GameSession K) (playerId : Nat) (connected : Bool) :
    (s.connectionChanged playerId connected).replay = s.replay ∧
      (s.connectionChanged playerId connected).world.tick = s.world.tick ∧
      (s.connectionChanged playerId connected).finished = s.finished ∧
      Each Bystands s.world (s.connectionChanged playerId connected).world := by
  have refl (p : PlayerState K) : Bystands p p := ⟨rfl, rfl, rfl, rfl⟩
  unfold connectionChanged
  split
  · exact ⟨rfl, rfl, rfl, Each.refl refl _⟩
  · have noted : Each Bystands s.world (s.world.update playerId fun p => { p with connected }) :=
      each_update _ (fun p _ => ⟨rfl, rfl, rfl, rfl⟩) fun p _ => refl p
    dsimp only
    split
    · exact ⟨rfl, rfl, rfl, noted⟩
    · exact ⟨rfl, rfl, rfl, noted⟩

/-- A tick of a running session records its events, and the last one its frame as well. -/
theorem step_records {s : GameSession K} (on : s.finished = false)
    (inputs : List (ResolvedInput K)) :
    let requests := s.requests inputs noTraining
    ∃ session frame frames, s.step inputs noTraining = ⟨session, some frame,
        (s.step inputs noTraining).notices⟩ ∧
      session.world = (stepWorld s.world requests).world ∧ frame.tick = session.world.tick ∧
      frame.world = session.world ∧
      session.replay = s.replay ++
        .events session.world.tick (stepWorld s.world requests).events :: frames ∧
      (frames = [] ∧ session.finished = false ∨ session.finished = true ∧
        ∃ tileChanges, frames = [.finalFrame frame tileChanges]) := by
  dsimp only
  have clock : (stepWorld s.world (s.requests inputs noTraining)).tick =
      (stepWorld s.world (s.requests inputs noTraining)).world.tick := rfl
  unfold GameSession.step
  rw [if_neg (by simp [on])]
  generalize stepWorld s.world (s.requests inputs noTraining) = stepped at clock
  dsimp only
  split
  · refine ⟨_, { stepped with world := stepped.world },
      [.finalFrame { stepped with world := stepped.world } stepped.world.tileChanges], rfl, rfl,
      clock, rfl, ?_, .inr ⟨rfl, _, rfl⟩⟩
    show s.replay ++ [.events stepped.tick stepped.events] ++ [_] =
      s.replay ++ [.events stepped.world.tick stepped.events, _]
    rw [List.append_assoc, ← clock]
    rfl
  · refine ⟨_, _, [], rfl, rfl, clock, rfl, ?_, .inl ⟨rfl, on⟩⟩
    show s.replay ++ [.events stepped.tick stepped.events] = _
    rw [clock]
    rfl

/-- A publication adds its frame to the record of a session that goes on. -/
theorem publish_records (s : GameSession K) (frame : AuthoritativeFrame K)
    (targets : List Target) :
    (s.publish frame targets).1.world = s.world ∧
      (s.publish frame targets).1.replay =
        if s.finished then s.replay else s.replay ++ [.snapshotTick frame s.pendingTileChanges] := by
  obtain ⟨flags, written⟩ := publishAll_writes frame s targets
  unfold publish
  dsimp only
  rw [written]
  split <;> exact ⟨rfl, rfl⟩

theorem tick_records (s : GameSession K) (inputs : List (ResolvedInput K))
    (publication : Option (List Target)) :
    Records s (s.turn inputs publication) := by
  unfold GameSession.turn
  cases on : s.finished with
  | true =>
    rw [step_idle on]
    exact .still rfl rfl rfl
  | false =>
    obtain ⟨session, frame, frames, stepped, world, tick, shows, replay, final⟩ :=
      step_records on inputs
    rw [stepped]
    dsimp only
    have happens : Happens s session.world
        (stepWorld s.world (s.requests inputs noTraining)).events := by
      rw [world]
      exact .step _
    cases publication with
    | none =>
      refine .told happens replay ?_
      rcases final with goesOn | ⟨_, tileChanges, rfl⟩
      · exact .inl goesOn
      · exact .inr ⟨_, frame, rfl, rfl, tick, shows⟩
    | some targets =>
      obtain ⟨same, writes⟩ := publish_records session frame targets
      dsimp only
      rcases final with ⟨rfl, goesOn⟩ | ⟨isOver, tileChanges, rfl⟩
      · refine .told (by rw [same]; exact happens) ?_
          (.inr ⟨.snapshotTick frame session.pendingTileChanges, frame, rfl, rfl,
            by rw [same, tick], by rw [same, shows]⟩)
        rw [writes, if_neg (by simp [goesOn]), same, replay, List.append_assoc]
        rfl
      · refine .told (by rw [same]; exact happens) ?_
          (.inr ⟨.finalFrame frame tileChanges, frame, rfl, rfl, by rw [same, tick],
            by rw [same, shows]⟩)
        rw [writes, if_pos isOver, same, replay]

theorem afterDeparture_tick (s : GameSession K) (playerId : Nat) :
    (s.afterDeparture playerId).1.world.tick = s.world.tick := by
  rcases afterDeparture_eq s playerId with same | ⟨picked, _, state, same⟩ <;> rw [same] <;> rfl

theorem departure_records (s : GameSession K) (playerId : Nat) :
    Records s (s.eliminateDisconnected playerId).session := by
  unfold GameSession.eliminateDisconnected
  split
  · exact .still rfl rfl rfl
  rename_i on
  rw [Bool.not_eq_true] at on
  split
  · exact .still rfl rfl rfl
  rename_i p found
  have happens := Happens.departure (s := s) found
  obtain ⟨world, events, writes, _, _⟩ := afterDeparture_writes s playerId
  have clock : (s.afterDeparture playerId).1.world.tick = s.world.tick :=
    afterDeparture_tick s playerId
  rw [writes] at happens clock ⊢
  dsimp only at happens clock ⊢
  split
  · refine .told happens ?_ (.inr ⟨.finalFrame
      ⟨s.world.tick, world, .eliminated playerId none :: events, []⟩ s.pendingTileChanges, _,
      rfl, rfl, clock.symm, rfl⟩)
    simp [finish, record, clock]
  · refine .told happens ?_ (.inl ⟨rfl, on⟩)
    simp [record, clock]

theorem RecordedOp.records (s : GameSession K) (op : RecordedOp K) : Records s (op.apply s) := by
  cases op with
  | queueSkill request =>
    obtain ⟨_, written⟩ := queueSkill_writes s request
    rw [apply, written]
    exact .still rfl rfl rfl
  | queueEmoji request =>
    obtain ⟨_, written⟩ := queueEmoji_writes s request
    rw [apply, written]
    exact .still rfl rfl rfl
  | requestFullSnapshot playerId => exact .still rfl rfl rfl
  | connectionChanged playerId connected =>
    obtain ⟨replay, clock, finished, each⟩ := connectionChanged_bystands s playerId connected
    exact .silent replay clock finished each
  | tick inputs publication => exact tick_records s inputs publication
  | eliminateDisconnected playerId => exact departure_records s playerId

section Roles
variable {s : GameSession K} {v : World K} {events : List (WorldEvent K)} {h : Nat}

theorem afterDeparture_heldBy (held : HeldBy h s.world) (playerId : Nat) :
    HeldBy (holderAfter h (s.afterDeparture playerId).2) (s.afterDeparture playerId).1.world := by
  have left : HeldBy h (disconnectPlayer s.world playerId) :=
    held.each (each_update _ (fun _ _ => ⟨rfl, rfl⟩) fun _ _ => ⟨rfl, rfl⟩)
  rcases afterDeparture_eq s playerId with same | ⟨picked, _, state, same⟩
  · rw [same]
    exact left
  · rw [same]
    exact handTo_heldBy left.1 _ _

theorem Happens.heldBy (happens : Happens s v events) (held : HeldBy h s.world) :
    HeldBy (holderAfter h events) v := by
  cases happens with
  | step requests => exact stepWorld_heldBy held requests
  | departure found => exact afterDeparture_heldBy held _

theorem Happens.clock (happens : Happens s v events) : s.world.tick ≤ v.tick := by
  cases happens with
  | step requests =>
    rw [stepWorld_tick]
    exact Nat.le_succ _
  | @departure playerId p found => exact (afterDeparture_tick s playerId).ge

end Roles

/-! ## A run -/

omit [JsNumber K] in
/-- What was recorded since the last frame. -/
def sinceFrame (calls : List (ReplayCall K)) : List (WorldEvent K) :=
  calls.foldl (fun since call => match call with
    | .events _ happened => since ++ happened
    | .abort _ => since
    | _ => []) []

/-- Frames come in the order of their ticks, and the role went on from the last of them. -/
structure Recording (s : GameSession K) : Prop where
  ordered : (shownFrames s.replay).Pairwise fun a b => a.tick ≤ b.tick
  past : ∀ frame ∈ shownFrames s.replay, frame.tick ≤ s.world.tick
  held : ∃ h, HeldBy h s.world
  shown : ∀ frame ∈ (shownFrames s.replay).getLast?, ∃ h, HeldBy h frame.world ∧
    HeldBy (holderAfter h (sinceFrame s.replay)) s.world

section Runs
variable {s r : GameSession K}

omit [JsNumber K] in
theorem Bystands.heldBy {w v : World K} {h : Nat} (each : Each Bystands w v)
    (held : HeldBy h w) : HeldBy h v :=
  held.each (each.imp fun _ _ same => ⟨same.slot, same.isTagger⟩)

omit [JsNumber K] in
theorem shownFrames_told {tick : Nat} {events : List (WorldEvent K)} {call : ReplayCall K}
    {frame : AuthoritativeFrame K} (shows : call.frame? = some frame) :
    shownFrames [.events tick events, call] = [frame] := by
  rw [shownFrames, List.filterMap_cons_none rfl, List.filterMap_cons_some shows]
  rfl

theorem Records.recording (records : Records s r) (recording : Recording s) : Recording r := by
  cases records with
  | silent replay clock finished each =>
    refine ⟨?_, ?_, ?_, ?_⟩
    · rw [replay]
      exact recording.ordered
    · rw [replay, clock]
      exact recording.past
    · obtain ⟨h, held⟩ := recording.held
      exact ⟨h, Bystands.heldBy each held⟩
    · rw [replay]
      intro frame last
      obtain ⟨h, then_, now⟩ := recording.shown frame last
      exact ⟨h, then_, Bystands.heldBy each now⟩
  | @told events frames happens replay shown =>
    have clock := happens.clock
    obtain ⟨h, held⟩ := recording.held
    have after := happens.heldBy held
    rcases shown with ⟨rfl, _⟩ | ⟨call, frame, rfl, shows, tick, world⟩
    · have same : shownFrames r.replay = shownFrames s.replay := by
        rw [replay]
        simp [shownFrames, ReplayCall.frame?]
      refine ⟨same ▸ recording.ordered, ?_, ⟨_, after⟩, ?_⟩
      · rw [same]
        exact fun shown member => (recording.past shown member).trans clock
      · rw [same]
        intro shown last
        obtain ⟨g, then_, now⟩ := recording.shown shown last
        refine ⟨g, then_, ?_⟩
        have since : sinceFrame r.replay = sinceFrame s.replay ++ events := by
          rw [replay]
          simp [sinceFrame]
        rw [since, holderAfter_append]
        exact happens.heldBy now
    · have same : shownFrames r.replay = shownFrames s.replay ++ [frame] := by
        rw [replay, ← shownFrames_told shows]
        exact List.filterMap_append
      refine ⟨?_, ?_, ⟨_, after⟩, ?_⟩
      · rw [same, List.pairwise_append]
        refine ⟨recording.ordered, List.pairwise_singleton _ _, ?_⟩
        intro a before b last
        rw [List.mem_singleton.mp last, tick]
        exact (recording.past a before).trans clock
      · rw [same]
        intro shown member
        rcases List.mem_append.mp member with before | last
        · exact (recording.past shown before).trans clock
        · rw [List.mem_singleton.mp last, tick]
      · rw [same]
        intro shown last
        obtain rfl : frame = shown := by simpa using last
        have since : sinceFrame r.replay = [] := by
          rw [replay]
          cases call with
          | snapshotTick _ _ => simp [sinceFrame]
          | finalFrame _ _ => simp [sinceFrame]
          | events _ _ => cases shows
          | abort _ => cases shows
        rw [since, world]
        exact ⟨_, after, after⟩

/-- The record only grows, by frames of later ticks. -/
structure Grows (s r : GameSession K) : Prop where
  clock : s.world.tick ≤ r.world.tick
  replay : ∃ more, r.replay = s.replay ++ more ∧
    ∀ frame ∈ shownFrames more, s.world.tick ≤ frame.tick

/-- What an operation adds shows the world it leaves behind. -/
theorem Records.more (records : Records s r) : s.world.tick ≤ r.world.tick ∧
    ∃ more, r.replay = s.replay ++ more ∧ ∀ frame ∈ shownFrames more, frame.tick = r.world.tick := by
  cases records with
  | silent replay clock finished each => exact ⟨clock.ge, [], by simp [replay], by simp [shownFrames]⟩
  | told happens replay shown =>
    refine ⟨happens.clock, _, replay, ?_⟩
    rcases shown with ⟨rfl, _⟩ | ⟨call, frame, rfl, shows, tick, world⟩
    · simp [shownFrames, ReplayCall.frame?]
    · intro shown member
      rw [shownFrames_told shows] at member
      rw [List.mem_singleton.mp member, tick]

theorem Records.grows (records : Records s r) : Grows s r := by
  obtain ⟨clock, more, replay, ticks⟩ := records.more
  exact ⟨clock, more, replay, fun frame member => (ticks frame member).symm ▸ clock⟩

theorem turn_tick (on : s.finished = false) (inputs : List (ResolvedInput K))
    (publication : Option (List Target)) :
    (s.turn inputs publication).world.tick = s.world.tick + 1 := by
  obtain ⟨session, frame, frames, stepped, world, _⟩ := step_records on inputs
  unfold GameSession.turn
  rw [stepped]
  cases publication with
  | none =>
    show session.world.tick = _
    rw [world, stepWorld_tick]
  | some targets =>
    show (session.publish frame targets).1.world.tick = _
    rw [(publish_records session frame targets).1, world, stepWorld_tick]

omit [JsNumber K] in
theorem Grows.trans {t : GameSession K} (first : Grows s r) (second : Grows r t) : Grows s t := by
  obtain ⟨clock, more, replay, later⟩ := first
  obtain ⟨clock', more', replay', later'⟩ := second
  refine ⟨clock.trans clock', more ++ more', by rw [replay', replay, List.append_assoc], ?_⟩
  intro frame member
  rw [shownFrames, List.filterMap_append] at member
  rcases List.mem_append.mp member with here | there
  · exact later frame here
  · exact clock.trans (later' frame there)

theorem Recorded.grows (run : Recorded s r) : Grows s r :=
  Reach.invariant (I := fun r => Grows s r) ⟨le_rfl, [], by simp, by simp [shownFrames]⟩
    (fun t op grows _ => grows.trans (op.records t).grows) run

/-- A match about to begin: nothing is recorded, and one player at most is flagged. -/
structure Unrecorded (s : GameSession K) : Prop where
  replay : s.replay = []
  held : ∃ h, HeldBy h s.world

theorem Recorded.recording (begins : Unrecorded s) (run : Recorded s r) : Recording r := by
  have empty : Recording s := by
    refine ⟨?_, ?_, begins.held, ?_⟩ <;> rw [begins.replay] <;> simp [shownFrames]
  exact Reach.invariant empty (fun t op recording _ => (op.records t).recording recording) run

end Runs

end SwitchRemake.Game

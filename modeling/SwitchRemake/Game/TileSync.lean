import SwitchRemake.Game.SessionLaws
import SwitchRemake.Lib.DeltaSync
import SwitchRemake.Lib.Runs

/-!
# The tiles of the clients

A client replaces its grid on a full snapshot and changes it on a delta. What the session remembers
of a connection is one bit: whether its next snapshot has to be full.
-/

namespace SwitchRemake.Game
open Lib Simulation Protocol GameSession

variable {K : Type}

/-- One participant as the network sees it. -/
structure Viewer where
  /-- A participant of the match is connected under this slot. -/
  connected : Bool
  grid : Option Tiles
  /-- Tiles changed in a snapshot that was not delivered since the last one that was. -/
  missed : Bool
  deriving DecidableEq

def tileUpdate (snapshot : Snapshot K) : Update Tiles TileChange :=
  match snapshot.map with
  | some map => .full map.tiles
  | none => .delta (snapshot.tileChanges.getD [])

def Viewer.receive (v : Viewer) (snapshot : Snapshot K) : Viewer :=
  { v with grid := (tileUpdate snapshot).receive writeTile v.grid, missed := false }

def Viewer.miss (v : Viewer) (changes : List TileChange) : Viewer :=
  { v with missed := v.missed || !changes.isEmpty }

/-- After a publication of `changes` of which the viewer got `received`. -/
def Viewer.after (v : Viewer) (changes : List TileChange) (received : List (Snapshot K)) : Viewer :=
  if received.isEmpty then v.miss changes else received.foldl Viewer.receive v

structure Audience (K : Type) where
  session : GameSession K
  viewers : Nat → Viewer

def receivedBy (id : Nat) (deliveries : List (Delivery K)) : List (Snapshot K) :=
  (deliveries.filter fun d => d.playerId = id && d.sent).map Delivery.snapshot

def setConnected (viewers : Nat → Viewer) (id : Nat) (connected fresh : Bool) : Nat → Viewer :=
  fun other =>
    if other = id then
      { viewers id with connected, grid := if fresh then none else (viewers id).grid }
    else viewers other

/-- What happens to a session between its start and its end. A tick of the scheduler publishes or
not; a viewer that comes back has a fresh page or its old one. -/
inductive AudienceOp (K : Type) where
  | tick (inputs : List (ResolvedInput K)) (training : TrainingTurn K)
      (publication : Option (List Target))
  | requestFullSnapshot (playerId : Nat)
  | resume (playerId : Nat) (fresh : Bool)
  | disconnect (playerId : Nat)
  | eliminateDisconnected (playerId : Nat)
  | queueSkill (request : SkillRequest)
  | queueEmoji (request : EmojiRequest)
  | respawn (players : List (PlayerState K) → List (PlayerState K))
  | stop

variable [JsNumber K]

/-! ## What one publication does for one viewer -/

theorem tileUpdate_buildSnapshot (frame : AuthoritativeFrame K) (viewer : ViewerContext)
    (roster : List RosterEntry) (changes : List TileChange) :
    (buildSnapshot frame viewer roster (some changes)).full = viewer.full ∧
      tileUpdate (buildSnapshot frame viewer roster (some changes)) =
        if viewer.full then .full frame.world.map.tiles else .delta changes := by
  have shared (players : Option (List (SnapshotPlayer K))) (tileAlphas selfId cooldowns) :
      tileUpdate { sharedSections frame viewer.full roster changes with
        players, tileAlphas, selfId, cooldowns } =
        if viewer.full then .full frame.world.map.tiles else .delta changes := by
    unfold tileUpdate sharedSections
    cases viewer.full with
    | true => rfl
    | false =>
      cases changes with
      | nil => rfl
      | cons change rest => rfl
  unfold buildSnapshot
  dsimp only [Option.getD_some]
  split
  · exact ⟨rfl, shared _ _ _ _⟩
  · exact ⟨rfl, shared _ _ _ _⟩
  · exact ⟨rfl, shared _ _ _ _⟩

def targetOf (targets : List Target) (playerId : Nat) : Option Target :=
  targets.find? fun t => t.playerId = playerId && t.access != .none

section Publication
variable {frame : AuthoritativeFrame K} {s : GameSession K} {t : Target} {targets : List Target}
  {playerId : Nat}

theorem publishTo_other (other : t.playerId ≠ playerId ∨ t.access = .none) :
    receivedBy playerId (publishTo frame s t).2.toList = [] := by
  unfold publishTo
  split
  · rfl
  · rename_i visible
    simp only [visible, or_false] at other
    dsimp only
    split
    · rfl
    · simp [receivedBy, other]

theorem publishTo_served (frame : AuthoritativeFrame K) (s : GameSession K)
    (visible : t.access ≠ .none) :
    (t.playerId ∈ (publishTo frame s t).1.needsFullSnapshot ↔
      s.sendsFull frame t.playerId = false ∧ Network.socketBufferSoftLimitBytes < t.bufferedBytes) ∧
    receivedBy t.playerId (publishTo frame s t).2.toList =
      if transportSends t.bufferedBytes then
        [buildSnapshot frame (s.viewerContext frame t) s.roster (some s.pendingTileChanges)]
      else [] := by
  unfold publishTo
  rw [if_neg visible]
  dsimp only
  split
  · rename_i held
    have full : transportSends t.bufferedBytes = false := by
      simp only [transportSends, not_le, decide_eq_false_iff_not, not_lt]
      exact held.2.le
    refine ⟨iff_of_true ?_ held, ?_⟩
    · exact Finset.mem_insert_self _ _
    · rw [full]
      rfl
  · rename_i goes
    refine ⟨iff_of_false (Finset.notMem_erase _ _) goes, ?_⟩
    cases transportSends t.bufferedBytes with
    | true => simp [receivedBy]
    | false => simp [receivedBy]

omit [JsNumber K] in
theorem receivedBy_append (playerId : Nat) (first second : List (Delivery K)) :
    receivedBy playerId (first ++ second) =
      receivedBy playerId first ++ receivedBy playerId second := by
  simp [receivedBy]

theorem targetOf_cons (t : Target) (rest : List Target) (playerId : Nat) :
    targetOf (t :: rest) playerId =
      if t.playerId = playerId ∧ t.access ≠ .none then some t else targetOf rest playerId := by
  unfold targetOf
  rw [List.find?_cons]
  have test : (decide (t.playerId = playerId) && t.access != .none) =
      decide (t.playerId = playerId ∧ t.access ≠ .none) := by
    rw [Bool.eq_iff_iff]
    simp
  rw [test]
  by_cases hit : t.playerId = playerId ∧ t.access ≠ .none <;> simp [hit]

theorem targetOf_some (served : targetOf targets playerId = some t) :
    t ∈ targets ∧ t.playerId = playerId ∧ t.access ≠ .none := by
  have hit := List.find?_some served
  simp only [Bool.and_eq_true, decide_eq_true_eq, bne_iff_ne] at hit
  exact ⟨List.mem_of_find?_eq_some served, hit⟩

theorem targetOf_none_of_absent (absent : playerId ∉ targets.map Target.playerId) :
    targetOf targets playerId = none := by
  cases found : targetOf targets playerId with
  | none => rfl
  | some t =>
    obtain ⟨member, same, _⟩ := targetOf_some found
    exact absurd (same ▸ List.mem_map_of_mem member) absent

theorem publishAll_unserved (frame : AuthoritativeFrame K) (s : GameSession K)
    (unserved : targetOf targets playerId = none) :
    (playerId ∈ (publishAll frame s targets).1.needsFullSnapshot ↔
      playerId ∈ s.needsFullSnapshot) ∧
    receivedBy playerId (publishAll frame s targets).2 = [] := by
  induction targets generalizing s with
  | nil => exact ⟨Iff.rfl, rfl⟩
  | cons t rest ih =>
    rw [targetOf_cons] at unserved
    split at unserved
    · cases unserved
    · rename_i missed
      have other : t.playerId ≠ playerId ∨ t.access = .none := by
        rw [not_and_or, not_not] at missed
        exact missed
      obtain ⟨flags, equal, kept⟩ := publishTo_writes frame s t
      obtain ⟨flagged, received⟩ := ih (publishTo frame s t).1 unserved
      refine ⟨?_, ?_⟩
      · rw [publishAll, flagged, equal]
        exact kept playerId other
      · rw [publishAll, receivedBy_append, publishTo_other other, received]
        rfl

/-- The targets before and after the viewer's own change nothing that it is sent. -/
theorem publishAll_served (frame : AuthoritativeFrame K)
    (served : targetOf targets playerId = some t)
    (once : (targets.map Target.playerId).Nodup) (s : GameSession K) :
    (playerId ∈ (publishAll frame s targets).1.needsFullSnapshot ↔
      s.sendsFull frame playerId = false ∧
        Network.socketBufferSoftLimitBytes < t.bufferedBytes) ∧
    receivedBy playerId (publishAll frame s targets).2 =
      if transportSends t.bufferedBytes then
        [buildSnapshot frame (s.viewerContext frame t) s.roster (some s.pendingTileChanges)]
      else [] := by
  induction targets generalizing s with
  | nil => cases served
  | cons first rest ih =>
    obtain ⟨absent, onceRest⟩ := List.nodup_cons.mp once
    rw [targetOf_cons] at served
    split at served
    · rename_i hit
      cases served
      obtain ⟨rfl, visible⟩ := hit
      obtain ⟨flagged, received⟩ := publishTo_served frame s visible
      obtain ⟨kept, silent⟩ := publishAll_unserved frame (publishTo frame s t).1
        (targetOf_none_of_absent absent)
      refine ⟨kept.trans flagged, ?_⟩
      rw [publishAll, receivedBy_append, received, silent, List.append_nil]
    · rename_i missed
      have other : first.playerId ≠ playerId ∨ first.access = .none := by
        rw [not_and_or, not_not] at missed
        exact missed
      obtain ⟨flags, equal, kept⟩ := publishTo_writes frame s first
      obtain ⟨flagged, received⟩ := ih served onceRest (publishTo frame s first).1
      have same : (publishTo frame s first).1.sendsFull frame playerId =
          s.sendsFull frame playerId := by
        rw [equal]
        unfold sendsFull
        simp only [kept playerId other]
      refine ⟨by rw [publishAll, flagged, same], ?_⟩
      obtain ⟨_, rfl, _⟩ := targetOf_some served
      rw [publishAll, receivedBy_append, publishTo_other other, received, List.nil_append]
      unfold viewerContext
      rw [same, equal]

theorem publish_frame (frame : AuthoritativeFrame K) (s : GameSession K) (targets : List Target) :
    (s.publish frame targets).1.world = s.world ∧
      (s.publish frame targets).1.pendingTileChanges = [] ∧
      (s.publish frame targets).1.needsFullSnapshot =
        (publishAll frame s targets).1.needsFullSnapshot := by
  obtain ⟨flags, equal⟩ := publishAll_writes frame s targets
  unfold publish
  dsimp only
  rw [equal]
  split <;> exact ⟨rfl, rfl, rfl⟩

end Publication

namespace Audience

def publish (a : Audience K) (frame : AuthoritativeFrame K) (targets : List Target) : Audience K :=
  let sent := a.session.publish frame targets
  { session := sent.1
    viewers := fun id =>
      (a.viewers id).after a.session.pendingTileChanges (receivedBy id sent.2) }

/-- `Scheduler.stepAll` for one target. -/
def tick (a : Audience K) (inputs : List (ResolvedInput K)) (training : TrainingTurn K)
    (publication : Option (List Target)) : Audience K :=
  let stepped := a.session.step inputs training
  let moved : Audience K := { a with session := stepped.session }
  match stepped.frame, publication with
  | some frame, some targets => moved.publish frame targets
  | _, _ => moved

def apply (a : Audience K) : AudienceOp K → Audience K
  | .tick inputs training publication => a.tick inputs training publication
  | .requestFullSnapshot playerId =>
    { a with session := a.session.requestFullSnapshot playerId }
  | .resume playerId fresh =>
    { session := (a.session.connectionChanged playerId true).requestFullSnapshot playerId
      viewers := setConnected a.viewers playerId true fresh }
  | .disconnect playerId =>
    { session := a.session.connectionChanged playerId false
      viewers := setConnected a.viewers playerId false false }
  | .eliminateDisconnected playerId =>
    { a with session := (a.session.eliminateDisconnected playerId).session }
  | .queueSkill request => { a with session := (a.session.queueSkill request).1 }
  | .queueEmoji request => { a with session := (a.session.queueEmoji request).1 }
  | .respawn players =>
    let world := { a.session.world with players := players a.session.world.players }
    { a with session := { a.session with world } }
  | .stop => { a with session := a.session.stop }

/-- What the viewers are sent by an operation. -/
def delivered (a : Audience K) : AudienceOp K → List (Delivery K)
  | .tick inputs training (some targets) =>
    let stepped := a.session.step inputs training
    stepped.frame.elim [] fun frame => (stepped.session.publish frame targets).2
  | _ => []

/-- `Room.snapshotTargets` returns connected participants, each once. -/
def Serves (a : Audience K) : AudienceOp K → Prop
  | .tick _ _ (some targets) => (targets.map Target.playerId).Nodup ∧
      ∀ t ∈ targets, (a.viewers t.playerId).connected = true
  | _ => True

instance (a : Audience K) (op : AudienceOp K) : Decidable (a.Serves op) := by
  unfold Serves
  split
  · exact inferInstanceAs (Decidable (_ ∧ _))
  · exact inferInstanceAs (Decidable True)

/-- Whoever gets a snapshot holds the tiles of the server, and gets a full one if it had none or
has missed a change. -/
def Exact (a : Audience K) (op : AudienceOp K) : Prop :=
  ∀ d ∈ a.delivered op, d.sent = true →
    ((a.apply op).viewers d.playerId).grid = some (a.apply op).session.world.map.tiles ∧
    ((a.viewers d.playerId).grid = none ∨ (a.viewers d.playerId).missed = true →
      d.snapshot.full = true)

/-- The grid lacks the unpublished changes, and nothing else. -/
structure Current (a : Audience K) (playerId : Nat) : Prop where
  trails : Trails writeTile (a.viewers playerId).grid a.session.pendingTileChanges
    a.session.world.map.tiles
  complete : (a.viewers playerId).missed = false

/-- What a publication keeps from the viewer is noted by the session: a viewer it leaves out waits
for a full snapshot, a full snapshot finds room in the buffer, and a delta does not meet the buffer
exactly at its limit. A publication without changes, to a viewer that lacks none, loses nothing. -/
def Covers (a : Audience K) (frame : AuthoritativeFrame K) (targets : List Target)
    (playerId : Nat) : Prop :=
  match targetOf targets playerId with
  | none => a.session.pendingTileChanges = [] ∨ playerId ∈ a.session.needsFullSnapshot
  | some t =>
    if a.session.sendsFull frame playerId then
      t.bufferedBytes < Network.socketBufferSoftLimitBytes ∨
        a.session.pendingTileChanges = [] ∧ a.Current playerId
    else
      a.session.pendingTileChanges = [] ∨ t.bufferedBytes ≠ Network.socketBufferSoftLimitBytes

def LosesNothing (a : Audience K) : AudienceOp K → Prop
  | .tick inputs training (some targets) =>
    ∀ frame, (a.session.step inputs training).frame = some frame →
      ∀ playerId, (a.viewers playerId).connected = true →
        Covers { a with session := (a.session.step inputs training).session } frame targets playerId
  | _ => True

/-! ## The invariant -/

/-- Every connected viewer lacks the unpublished changes only, or waits for a full snapshot. -/
def Synced (a : Audience K) : Prop :=
  ∀ playerId, (a.viewers playerId).connected = true →
    playerId ∈ a.session.needsFullSnapshot ∨ a.Current playerId

variable {a : Audience K} {frame : AuthoritativeFrame K} {targets : List Target} {playerId : Nat}

omit [JsNumber K] in
theorem after_connected (v : Viewer) (changes : List TileChange) (received : List (Snapshot K)) :
    (v.after changes received).connected = v.connected := by
  unfold Viewer.after
  split
  · rfl
  · induction received generalizing v with
    | nil => rfl
    | cons first rest ih =>
      cases rest with
      | nil => rfl
      | cons second rest => exact ih (v.receive first) (by simp)

/-- A viewer whose snapshot does not reach it. -/
theorem Current.miss (current : a.Current playerId) (idle : a.session.pendingTileChanges = [])
    (silent : receivedBy playerId (a.session.publish frame targets).2 = []) :
    (a.publish frame targets).Current playerId := by
  obtain ⟨world, published, _⟩ := publish_frame frame a.session targets
  have viewer : (a.publish frame targets).viewers playerId = (a.viewers playerId).miss [] := by
    show (a.viewers playerId).after _ (receivedBy playerId (a.session.publish frame targets).2) = _
    rw [silent, idle]
    rfl
  constructor
  · rw [viewer]
    show Trails writeTile (a.viewers playerId).grid
      (a.session.publish frame targets).1.pendingTileChanges
      (a.session.publish frame targets).1.world.map.tiles
    rw [published, world, ← idle]
    exact current.trails
  · rw [viewer]
    exact Bool.or_eq_false_iff.mpr ⟨current.complete, rfl⟩

/-- A viewer whose snapshot reaches it. -/
theorem current_of_received (world : frame.world = a.session.world)
    (known : playerId ∈ a.session.needsFullSnapshot ∨ a.Current playerId) (t : Target)
    (own : t.playerId = playerId)
    (received : receivedBy playerId (a.session.publish frame targets).2 =
      [buildSnapshot frame (a.session.viewerContext frame t) a.session.roster
        (some a.session.pendingTileChanges)]) :
    (a.publish frame targets).Current playerId := by
  obtain ⟨sameWorld, published, _⟩ := publish_frame frame a.session targets
  obtain ⟨_, update⟩ := tileUpdate_buildSnapshot frame (a.session.viewerContext frame t)
    a.session.roster a.session.pendingTileChanges
  have viewer : (a.publish frame targets).viewers playerId = (a.viewers playerId).receive
      (buildSnapshot frame (a.session.viewerContext frame t) a.session.roster
        (some a.session.pendingTileChanges)) := by
    show (a.viewers playerId).after _ (receivedBy playerId (a.session.publish frame targets).2) = _
    rw [received]
    rfl
  constructor
  · show Trails writeTile ((a.publish frame targets).viewers playerId).grid
      (a.session.publish frame targets).1.pendingTileChanges
      (a.session.publish frame targets).1.world.map.tiles
    rw [published, sameWorld, trails_nil, viewer]
    show (tileUpdate _).receive writeTile (a.viewers playerId).grid = _
    rw [update]
    cases full : (a.session.viewerContext frame t).full with
    | true =>
      rw [if_pos rfl, world]
      rfl
    | false =>
      have unflagged : playerId ∉ a.session.needsFullSnapshot := by
        intro flagged
        rw [← own] at flagged
        simp [viewerContext, sendsFull, flagged] at full
      rw [if_neg Bool.false_ne_true]
      exact (known.resolve_left unflagged).trails.receive
  · rw [viewer]
    rfl

/-- A publication that loses nothing keeps every viewer in step, or its session aware of it. -/
theorem publish_current (world : frame.world = a.session.world)
    (once : (targets.map Target.playerId).Nodup)
    (known : playerId ∈ a.session.needsFullSnapshot ∨ a.Current playerId)
    (covers : a.Covers frame targets playerId) :
    playerId ∈ (a.publish frame targets).session.needsFullSnapshot ∨
      (a.publish frame targets).Current playerId := by
  obtain ⟨_, _, needs⟩ := publish_frame frame a.session targets
  have flags : (a.publish frame targets).session.needsFullSnapshot =
      (publishAll frame a.session targets).1.needsFullSnapshot := needs
  unfold Covers at covers
  cases served : targetOf targets playerId with
  | none =>
    obtain ⟨kept, silent⟩ := publishAll_unserved frame a.session served
    rw [served] at covers
    rcases known with flagged | current
    · exact Or.inl (flags ▸ kept.mpr flagged)
    · rcases covers with idle | flagged
      · exact Or.inr (current.miss idle silent)
      · exact Or.inl (flags ▸ kept.mpr flagged)
  | some t =>
    obtain ⟨flagged, received⟩ := publishAll_served frame served once a.session
    obtain ⟨_, own, _⟩ := targetOf_some served
    rw [served] at covers
    dsimp only at covers
    cases sends : transportSends t.bufferedBytes with
    | true =>
      rw [sends, if_pos rfl] at received
      exact Or.inr (current_of_received world known t own received)
    | false =>
      rw [sends, if_neg Bool.false_ne_true] at received
      have blocked : Network.socketBufferSoftLimitBytes ≤ t.bufferedBytes := by
        simpa [transportSends] using sends
      cases full : a.session.sendsFull frame playerId with
      | true =>
        rw [full, if_pos rfl] at covers
        rcases covers with room | ⟨idle, current⟩
        · exact absurd room blocked.not_gt
        · exact Or.inr (current.miss idle received)
      | false =>
        rw [full, if_neg Bool.false_ne_true] at covers
        rcases blocked.lt_or_eq with isOver | limit
        · exact Or.inl (flags ▸ flagged.mpr ⟨full, isOver⟩)
        · have unflagged : playerId ∉ a.session.needsFullSnapshot := by
            intro waits
            simp [sendsFull, waits] at full
          have idle := covers.resolve_right (not_not.mpr limit.symm)
          exact Or.inr ((known.resolve_left unflagged).miss idle received)

/-! ## Runs -/

omit [JsNumber K] in
/-- A session that keeps its tiles and owes its viewers no less. -/
theorem Synced.keep (synced : a.Synced) {s : GameSession K}
    (tiles : s.world.map.tiles = a.session.world.map.tiles)
    (pending : s.pendingTileChanges = a.session.pendingTileChanges)
    (needs : a.session.needsFullSnapshot ⊆ s.needsFullSnapshot) :
    Synced { a with session := s } := by
  intro playerId connected
  rcases synced playerId connected with flagged | current
  · exact Or.inl (needs flagged)
  · refine Or.inr ⟨?_, current.complete⟩
    show Trails writeTile (a.viewers playerId).grid s.pendingTileChanges s.world.map.tiles
    rw [tiles, pending]
    exact current.trails

theorem Synced.step (synced : a.Synced) (inputs : List (ResolvedInput K))
    (training : TrainingTurn K) :
    Synced { a with session := (a.session.step inputs training).session } := by
  have advanced {stepped : AuthoritativeFrame K} (replay : List (ReplayCall K)) (finished : Bool)
      (simulated : stepWorld a.session.world (a.session.requests inputs training) = stepped) :
      Synced { a with
        session := { advance a.session stepped (training.after stepped.world) replay with
          finished } } := by
    intro playerId connected
    rcases synced playerId connected with flagged | current
    · exact Or.inl flagged
    · refine Or.inr ⟨current.trails.extend ?_, current.complete⟩
      have tiles := stepWorld_tiles a.session.world (a.session.requests inputs training)
      rw [simulated] at tiles
      exact tiles
  have ticks := step_ticks a.session inputs training
  generalize a.session.step inputs training = result at ticks ⊢
  cases ticks with
  | isOver finished => exact synced
  | on replay running simulated trained goesOn =>
    subst trained
    exact advanced replay a.session.finished simulated
  | ended replay winners running simulated trained ends =>
    subst trained
    exact advanced replay true simulated

theorem step_frame_world {frame : AuthoritativeFrame K} {s : GameSession K}
    {inputs : List (ResolvedInput K)} {training : TrainingTurn K}
    (stepped : (s.step inputs training).frame = some frame) :
    s.finished = false ∧ frame.world = (s.step inputs training).session.world := by
  have ticks := step_ticks s inputs training
  generalize s.step inputs training = result at ticks stepped
  cases ticks with
  | isOver finished => cases stepped
  | on replay running simulated trained goesOn =>
    cases stepped
    exact ⟨running, rfl⟩
  | ended replay winners running simulated trained ends =>
    cases stepped
    exact ⟨running, rfl⟩

/-- The invariant of a run: a session that is over publishes no more. -/
def Steady (a : Audience K) : Prop := a.session.finished = false → a.Synced

theorem tick_steady (steady : a.Steady) (inputs : List (ResolvedInput K))
    (training : TrainingTurn K) (publication : Option (List Target))
    (serves : a.Serves (.tick inputs training publication))
    (loses : a.LosesNothing (.tick inputs training publication)) :
    (a.tick inputs training publication).Steady := by
  by_cases on : a.session.finished = false
  · have moved := (steady on).step inputs training
    unfold tick
    dsimp only
    split
    · rename_i frame targets stepped
      have world := (step_frame_world stepped).2
      intro _ playerId connected
      have was : (a.viewers playerId).connected = true := by
        rw [← connected]
        exact (after_connected _ _ _).symm
      exact publish_current world serves.1 (moved playerId was) (loses frame stepped playerId was)
    · exact fun _ => moved
  · rw [Bool.not_eq_false] at on
    have idle : (a.tick inputs training publication).session = a.session := by
      unfold tick
      dsimp only
      rw [step_idle on]
    intro running
    rw [idle, on] at running
    cases running

omit [JsNumber K] in
/-- A connection that comes or goes, once the session waits for it. -/
theorem Synced.setConnected (synced : a.Synced) {playerId : Nat} {connected fresh : Bool}
    (waits : connected = true → playerId ∈ a.session.needsFullSnapshot) :
    Synced { a with viewers := Game.setConnected a.viewers playerId connected fresh } := by
  intro other isConnected
  by_cases own : other = playerId
  · subst own
    have back : connected = true := by simpa [Game.setConnected] using isConnected
    exact Or.inl (waits back)
  · have same : Game.setConnected a.viewers playerId connected fresh other = a.viewers other :=
      if_neg own
    rcases synced other (same ▸ isConnected) with flagged | current
    · exact Or.inl flagged
    · refine Or.inr ⟨?_, ?_⟩
      · show Trails writeTile (Game.setConnected a.viewers playerId connected fresh other).grid _ _
        rw [same]
        exact current.trails
      · show (Game.setConnected a.viewers playerId connected fresh other).missed = false
        rw [same]
        exact current.complete

omit [JsNumber K] in
theorem resume_steady (steady : a.Steady) (playerId : Nat) (fresh : Bool) :
    Steady
      { session := (a.session.connectionChanged playerId true).requestFullSnapshot playerId
        viewers := Game.setConnected a.viewers playerId true fresh } := by
  obtain ⟨world, flags, writes, map, _, grows⟩ := connectionChanged_writes a.session playerId true
  intro on
  rw [writes] at on ⊢
  have kept := (steady on).keep
    (s := ({ a.session with world, needsFullSnapshot := flags }).requestFullSnapshot playerId)
    (congrArg WorldMap.tiles map) rfl (grows.trans (Finset.subset_insert _ _))
  exact kept.setConnected fun _ => Finset.mem_insert_self _ _

omit [JsNumber K] in
theorem disconnect_steady (steady : a.Steady) (playerId : Nat) :
    Steady
      { session := a.session.connectionChanged playerId false
        viewers := Game.setConnected a.viewers playerId false false } := by
  obtain ⟨world, flags, writes, map, _, grows⟩ := connectionChanged_writes a.session playerId false
  intro on
  rw [writes] at on ⊢
  have kept := (steady on).keep (s := { a.session with world, needsFullSnapshot := flags })
    (congrArg WorldMap.tiles map) rfl grows
  exact kept.setConnected nofun

/-- A departure that ends the match empties the list, but nothing is published after it. -/
theorem eliminate_steady (steady : a.Steady) (playerId : Nat) :
    Steady { a with session := (a.session.eliminateDisconnected playerId).session } := by
  have map : (a.session.afterDeparture playerId).1.world.map = a.session.world.map := by
    obtain ⟨_, _, writes, same, _⟩ := afterDeparture_writes a.session playerId
    rw [writes]
    exact same
  have departs := eliminateDisconnected_departs a.session playerId
  generalize a.session.eliminateDisconnected playerId = result at departs ⊢
  cases departs with
  | ignored idle => exact steady
  | left replay events on lived departed tags goesOn =>
    subst departed
    exact fun on => (steady on).keep (congrArg WorldMap.tiles map) rfl (Finset.Subset.refl _)
  | ended replay events winners on lived departed tags ends =>
    intro running
    cases running

theorem apply_steady (steady : a.Steady) (op : AudienceOp K) (serves : a.Serves op)
    (loses : a.LosesNothing op) : (a.apply op).Steady := by
  cases op with
  | tick inputs training publication => exact tick_steady steady inputs training publication serves loses
  | requestFullSnapshot playerId =>
    exact fun on => (steady on).keep rfl rfl (Finset.subset_insert _ _)
  | resume playerId fresh => exact resume_steady steady playerId fresh
  | disconnect playerId => exact disconnect_steady steady playerId
  | eliminateDisconnected playerId => exact eliminate_steady steady playerId
  | queueSkill request =>
    obtain ⟨_, writes⟩ := queueSkill_writes a.session request
    intro on
    simp only [apply, writes] at on ⊢
    exact (steady on).keep rfl rfl (Finset.Subset.refl _)
  | queueEmoji request =>
    obtain ⟨_, writes⟩ := queueEmoji_writes a.session request
    intro on
    simp only [apply, writes] at on ⊢
    exact (steady on).keep rfl rfl (Finset.Subset.refl _)
  | respawn players => exact fun on => (steady on).keep rfl rfl (Finset.Subset.refl _)
  | stop =>
    intro on
    rw [apply, stop_finished] at on
    cases on

theorem publish_exact {d : Delivery K} (world : frame.world = a.session.world)
    (once : (targets.map Target.playerId).Nodup)
    (connected : ∀ t ∈ targets, (a.viewers t.playerId).connected = true) (synced : a.Synced)
    (delivered : d ∈ (a.session.publish frame targets).2) (sent : d.sent = true) :
    ((a.publish frame targets).viewers d.playerId).grid = some a.session.world.map.tiles ∧
      ((a.viewers d.playerId).grid = none ∨ (a.viewers d.playerId).missed = true →
        d.snapshot.full = true) := by
  have got : d.snapshot ∈ receivedBy d.playerId (a.session.publish frame targets).2 :=
    List.mem_map_of_mem (List.mem_filter.mpr ⟨delivered, by simp [sent]⟩)
  cases served : targetOf targets d.playerId with
  | none =>
    have silent : receivedBy d.playerId (a.session.publish frame targets).2 = [] :=
      (publishAll_unserved frame a.session served).2
    rw [silent] at got
    cases got
  | some t =>
    obtain ⟨member, own, _⟩ := targetOf_some served
    have known := synced d.playerId (own ▸ connected t member)
    have received : receivedBy d.playerId (a.session.publish frame targets).2 = _ :=
      (publishAll_served frame served once a.session).2
    cases sends : transportSends t.bufferedBytes with
    | false =>
      rw [received, sends] at got
      cases got
    | true =>
      rw [sends, if_pos rfl] at received
      rw [received, List.mem_singleton] at got
      have current := current_of_received world known t own received
      obtain ⟨sameWorld, published, _⟩ := publish_frame frame a.session targets
      have trails : Trails writeTile ((a.publish frame targets).viewers d.playerId).grid
          (a.session.publish frame targets).1.pendingTileChanges
          (a.session.publish frame targets).1.world.map.tiles := current.trails
      rw [published, sameWorld, trails_nil] at trails
      refine ⟨trails, fun lacking => ?_⟩
      have flagged : d.playerId ∈ a.session.needsFullSnapshot := by
        rcases known with flagged | current
        · exact flagged
        · obtain ⟨value, grid, _⟩ := current.trails
          rw [grid, current.complete] at lacking
          simp at lacking
      rw [got, (tileUpdate_buildSnapshot _ _ _ _).1]
      simp [viewerContext, sendsFull, own, flagged]

theorem Steady.exact (steady : a.Steady) (op : AudienceOp K) (serves : a.Serves op) :
    a.Exact op := by
  intro d delivers sent
  cases op with
  | tick inputs training publication =>
    cases publication with
    | none => cases delivers
    | some targets =>
      cases stepped : (a.session.step inputs training).frame with
      | none => simp [delivered, stepped] at delivers
      | some frame =>
        obtain ⟨on, world⟩ := step_frame_world stepped
        have moved := (steady on).step inputs training
        have delivers' : d ∈ ((a.session.step inputs training).session.publish frame targets).2 := by
          simpa [delivered, stepped] using delivers
        obtain ⟨tiles, full⟩ := publish_exact
          (a := { a with session := (a.session.step inputs training).session })
          world serves.1 serves.2 moved delivers' sent
        refine ⟨?_, full⟩
        have applied : a.apply (.tick inputs training (some targets)) =
            publish { a with session := (a.session.step inputs training).session } frame targets := by
          simp only [apply, tick, stepped]
        rw [applied, tiles]
        exact congrArg (fun w : World K => some w.map.tiles)
          (publish_frame frame (a.session.step inputs training).session targets).1.symm
  | requestFullSnapshot => cases delivers
  | resume => cases delivers
  | disconnect => cases delivers
  | eliminateDisconnected => cases delivers
  | queueSkill => cases delivers
  | queueEmoji => cases delivers
  | respawn => cases delivers
  | stop => cases delivers

/-- A session that has just been constructed, and the participants who are connected. -/
structure Opens (a : Audience K) : Prop where
  constructed : ∃ id matchId mode world roster identities limit,
    a.session = GameSession.start id matchId mode world roster identities limit
  viewers : ∀ playerId, (a.viewers playerId).grid = none ∧ (a.viewers playerId).missed = false
  participants : ∀ playerId, (a.viewers playerId).connected = true →
    ∃ p ∈ a.session.world.players, p.playerId = playerId

omit [JsNumber K] in
theorem Opens.steady (opens : a.Opens) : a.Steady := by
  intro _ playerId connected
  obtain ⟨_, _, _, world, _, _, _, constructed⟩ := opens.constructed
  have member := opens.participants playerId connected
  rw [constructed] at member ⊢
  left
  simpa [GameSession.start] using member

end Audience

/-! ## A viewer that looks away -/

/-- A match of four on a small map, a tile of which collapses at the fifth tick. -/
def collapsing : Audience ℚ :=
  let player (id : Nat) (x y : ℚ) : PlayerState ℚ :=
    { playerId := id, x, y, vx := 0, vy := 0, facingX := 0, facingY := 1
      radius := Gameplay.playerRadiusPx, sightRange := Gameplay.sightRangePx, colorIndex := id - 1
      alive := true, isTagger := id = 1, connected := true, effects := fun _ => none
      cooldowns := fun _ => none, loadout := .dash, emoji := none, stats := emptyStats }
  let map : WorldMap ℚ :=
    { mapId := "yard", cols := 4, rows := 4, tileSize := tilePx
      tiles := List.replicate 4 (List.replicate 4 .floor), barrierSpeed := 1
      timeline := fun tick => if tick = 5 then [⟨0, 0, .wall⟩] else [] }
  let world : World ℚ :=
    { tick := 0, simulationHz := Network.simulationHz, map
      players := [player 1 384 384, player 2 896 384, player 3 384 896, player 4 896 896]
      storm := none, tileChanges := [], taggerChangedAtTick := 0, randomState := 1 }
  { session := GameSession.start "room" "match" RoomMode.match world
      [⟨1, "a"⟩, ⟨2, "b"⟩, ⟨3, "c"⟩, ⟨4, "d"⟩] [] Gameplay.maxMatchDurationTicks
    viewers := fun playerId => ⟨decide (playerId ∈ [1, 2, 3, 4]), none, false⟩ }

/-- Every second tick is published. The fourth player leaves, is eliminated, comes back to watch,
and stops watching while the tile collapses. -/
def lookingAway : List (AudienceOp ℚ) :=
  let runners : List Target := [⟨1, .filtered, 0⟩, ⟨2, .filtered, 0⟩, ⟨3, .filtered, 0⟩]
  [ .tick [] noTraining none, .tick [] noTraining (some (runners ++ [⟨4, .filtered, 0⟩]))
  , .disconnect 4, .eliminateDisconnected 4, .resume 4 true
  , .tick [] noTraining none, .tick [] noTraining (some (runners ++ [⟨4, .unfiltered, 0⟩]))
  , .tick [] noTraining none, .tick [] noTraining (some runners), .tick [] noTraining none ]

def lookingBack : AudienceOp ℚ :=
  .tick [] noTraining (some [⟨1, .filtered, 0⟩, ⟨2, .filtered, 0⟩, ⟨3, .filtered, 0⟩,
    ⟨4, .unfiltered, 0⟩])

theorem collapsing_opens : collapsing.Opens where
  constructed := ⟨_, _, _, _, _, _, _, rfl⟩
  viewers := fun _ => ⟨rfl, rfl⟩
  participants := by
    intro playerId connected
    simp only [collapsing, decide_eq_true_eq] at connected
    simpa [collapsing, GameSession.start, eq_comm] using connected

end SwitchRemake.Game

import SwitchRemake.Game.FilteredView
import SwitchRemake.Game.Spectators
import SwitchRemake.Rooms.Broadcast
import SwitchRemake.Rooms.Seats
import SwitchRemake.Simulation.Turns

/-!
# The effects a tick shows

`GameSession.#applyEvents`: what the events of a tick send to the members of the room. A Flash, a
Switch and an Exhaust carry the place their caster stood at. The filter asks where the caster is
when the tick is over.
-/

namespace SwitchRemake.Game
open Lib Simulation Visibility Rooms

variable {K : Type}

/-- The caster an event shows, and where. -/
def eventPlace : WorldEvent K → Option (Nat × K × K)
  | .blinked playerId fromX fromY => some (playerId, fromX, fromY)
  | .skillArea area => some (area.playerId, area.fromX, area.fromY)
  | _ => none

def messagePlace : RoomMessage K → Option (Nat × K × K)
  | .blinked playerId fromX fromY => some (playerId, fromX, fromY)
  | .skillArea area => some (area.playerId, area.fromX, area.fromY)
  | _ => none

def noticePlace : RoomNotice K → Option (Nat × K × K)
  | .event event => eventPlace event
  | _ => none

def closedRoom (r : Room) : Room :=
  if r.state = .closed then r
  else ({ r with roster := r.roster.clearHolds } : Room).transition .closed

/-- What a notice makes of the room. -/
def roomAfter (now : Int) (r : Room) : RoomNotice K → Room
  | .event (.eliminated playerId _) => r.markEliminated playerId
  | .finishGame winnerIds =>
    match r.finishGame now winnerIds with
    | none => closedRoom r
    | some (_, false) => r
    | some (ended, true) => ended
  | _ => r

theorem notice_room (now : Int) (serial : Nat) (h : HostedRoom K) (n : RoomNotice K) :
    (HostedRoom.notice now serial h n).room = roomAfter now h.room n := by
  cases n with
  | skillRejected rejection => rfl
  | event event => cases event <;> rfl
  | finishGame winnerIds =>
    simp only [HostedRoom.notice, roomAfter]
    cases h.room.finishGame now winnerIds with
    | none =>
      simp only [HostedRoom.close, closedRoom]
      split <;> rfl
    | some ended =>
      obtain ⟨room, settled⟩ := ended
      cases settled <;> rfl

theorem notices_room (now : Int) (serial : Nat) (h : HostedRoom K) (ns : List (RoomNotice K)) :
    (h.notices now serial ns).room = ns.foldl (roomAfter now) h.room := by
  induction ns generalizing h with
  | nil => rfl
  | cons n rest ih =>
    show ((HostedRoom.notice now serial h n).notices now serial rest).room = _
    rw [ih, notice_room]
    rfl

variable [JsNumber K]

/-- The caster, set down at a place, is seen by the viewer. -/
def seesAt (v : VisibilityWorld K) (viewerId casterId : Nat) (x y : K) : Bool :=
  match v.find viewerId, v.find casterId with
  | some viewer, some caster => sees v viewer { caster with x, y }
  | _, _ => false

def noticeMessages (now : Int) (v : VisibilityWorld K) (r : Room) :
    RoomNotice K → List (Sent K)
  | .skillRejected rejection => r.sendSkillRejected rejection
  | .event (.eliminated playerId source) =>
    r.eliminationMessages now playerId (source.getD playerId)
  | .event (.tagged playerId source) => r.broadcastTagged playerId source
  | .event (.blinked playerId fromX fromY) =>
    r.broadcastBlinked playerId fromX fromY fun viewer => canSeePlayer v viewer playerId
  | .event (.skillArea area) =>
    r.broadcastSkillArea area fun viewer => canSeePlayer v viewer area.playerId
  | .finishGame winnerIds => r.finishMessages now winnerIds

/-- The messages of a list of notices, while the room changes under them. -/
def noticesMessages (now : Int) (v : VisibilityWorld K) :
    Room → List (RoomNotice K) → List (Sent K)
  | _, [] => []
  | r, n :: rest => noticeMessages now v r n ++ noticesMessages now v (roomAfter now r n) rest

namespace HostedRoom

/-- The session's part of `tick`. -/
def stepped (h : HostedRoom K) (inputs : List (ResolvedInput K)) : Option (GameSession.SessionStep K) :=
  h.session.map fun s => s.game.step inputs noTraining

def tickMessages (h : HostedRoom K) (now : Int) (inputs : List (ResolvedInput K)) :
    List (Sent K) :=
  match h.stepped inputs with
  | none => []
  | some tick =>
    noticesMessages now (toVisibilityWorld tick.session.world) h.room tick.notices

end HostedRoom

/-! ## Places come from casts -/

theorem useSkill_places (w : World K) (request : SkillRequest) :
    ∀ event ∈ (useSkill w request).events,
      (∃ caster, w.find request.playerId = some caster ∧
        eventPlace event = some (caster.playerId, caster.x, caster.y)) ∨
      ∃ next source, event = .tagged next source := by
  unfold useSkill
  split
  · simp
  rename_i caster found
  split
  · simp
  split
  · simp
  split
  · simp
  split
  · simp
  split
  · simp [useDash]
  · unfold useFlash
    dsimp only
    split
    · simp
    · simp [found, eventPlace]
  · unfold useExhaust
    dsimp only
    split <;> simp [found, eventPlace]
  · unfold useSwitch
    split
    · simp
    split
    · simp
    dsimp only
    split
    · simp [found, eventPlace]
    split <;> simp [found, eventPlace]

theorem runSkills_events (w : World K) (requests : List SkillRequest) :
    (runSkills w requests).events =
      (skillTurns w (sortById SkillRequest.playerId requests)).flatMap fun turn =>
        (useSkill turn.1 turn.2).events := by
  unfold runSkills
  generalize sortById SkillRequest.playerId requests = ordered
  suffices run : ∀ s : SkillPhase K, (ordered.foldl SkillPhase.use s).events =
      s.events ++ (skillTurns s.world ordered).flatMap fun turn => (useSkill turn.1 turn.2).events by
    simpa using run ⟨w, [], []⟩
  induction ordered with
  | nil => simp [skillTurns]
  | cons request rest ih =>
    intro s
    rw [List.foldl_cons, ih (s.use request)]
    simp [SkillPhase.use, skillTurns]

theorem resolvePairs_places (taggerId : Nat) (state : World K × List (WorldEvent K))
    (pairs : List CollisionPair) :
    ∃ later, (pairs.foldl (resolvePair taggerId) state).2 = state.2 ++ later ∧
      ∀ event ∈ later, eventPlace event = none := by
  induction pairs generalizing state with
  | nil => exact ⟨[], by simp, by simp⟩
  | cons pair rest ih =>
    obtain ⟨later, same, silent⟩ := ih (resolvePair taggerId state pair)
    rw [List.foldl_cons, same]
    unfold resolvePair
    dsimp only
    split
    · exact ⟨later, rfl, silent⟩
    · refine ⟨_ :: later, List.append_assoc _ _ _, fun event member => ?_⟩
      rcases List.mem_cons.mp member with rfl | after
      · rfl
      · exact silent event after

/-- After the skills of a tick nothing more shows a place. -/
theorem stepWorld_places (w : World K) (requests : TickRequests K) :
    ∃ later, (stepWorld w requests).events =
        (runSkills (beginTick w) requests.skillRequests).events ++ later ∧
      ∀ event ∈ later, eventPlace event = none := by
  have tags : ∃ later, (afterTags w requests).2 =
        (runSkills (beginTick w) requests.skillRequests).events ++ later ∧
      ∀ event ∈ later, eventPlace event = none := by
    unfold afterTags resolveTagging
    split
    · exact ⟨[], by simp, by simp⟩
    · exact resolvePairs_places _ _ _
  obtain ⟨later, same, silent⟩ := tags
  rw [stepWorld_events]
  unfold afterRotation
  split
  · exact ⟨later, same, silent⟩
  rcases rotateTaggerIfStale_eq (afterTags w requests).1 (afterTags w requests).2 with
    rests | ⟨picked, _, state, passes⟩
  · rw [rests]
    exact ⟨later, same, silent⟩
  · rw [passes]
    refine ⟨later ++ [.tagged picked.playerId none], ?_, ?_⟩
    · rw [same, List.append_assoc]
    · intro event member
      rcases List.mem_append.mp member with before | last
      · exact silent event before
      · rw [List.mem_singleton.mp last]
        rfl

/-- The players whose casts of the tick show a place, each as it stood at its turn. -/
def castersOf (w : World K) (requests : TickRequests K) : List (PlayerState K) :=
  (skillTurns (beginTick w) (sortById SkillRequest.playerId requests.skillRequests)).filterMap
    fun turn =>
      if (useSkill turn.1 turn.2).events.any fun event => (eventPlace event).isSome then
        turn.1.find turn.2.playerId
      else none

theorem mem_castersOf {w : World K} {requests : TickRequests K} {caster : PlayerState K} :
    caster ∈ castersOf w requests →
      ∃ event ∈ (runSkills (beginTick w) requests.skillRequests).events,
        eventPlace event = some (caster.playerId, caster.x, caster.y) := by
  intro member
  obtain ⟨turn, taken, cast⟩ := List.mem_filterMap.mp member
  split at cast
  · rename_i shows
    obtain ⟨event, among, placed⟩ := List.any_eq_true.mp shows
    refine ⟨event, ?_, ?_⟩
    · rw [runSkills_events]
      exact List.mem_flatMap.mpr ⟨turn, taken, among⟩
    · rcases useSkill_places turn.1 turn.2 event among with ⟨other, found, place⟩ | ⟨_, _, rfl⟩
      · rwa [Option.some.inj (cast.symm.trans found)]
      · cases placed
  · cases cast

theorem castersOf_of_place {w : World K} {requests : TickRequests K} {event : WorldEvent K}
    {id : Nat} {x y : K}
    (member : event ∈ (runSkills (beginTick w) requests.skillRequests).events)
    (placed : eventPlace event = some (id, x, y)) :
    ∃ caster ∈ castersOf w requests, caster.playerId = id ∧ caster.x = x ∧ caster.y = y := by
  rw [runSkills_events] at member
  obtain ⟨turn, taken, among⟩ := List.mem_flatMap.mp member
  rcases useSkill_places turn.1 turn.2 event among with ⟨caster, found, place⟩ | ⟨_, _, rfl⟩
  · refine ⟨caster, List.mem_filterMap.mpr ⟨turn, taken, ?_⟩, ?_⟩
    · rw [if_pos (List.any_eq_true.mpr ⟨event, among, by rw [place]; rfl⟩)]
      exact found
    · simpa using place.symm.trans placed
  · cases placed

/-! ## The messages of a tick -/

omit [JsNumber K] in
theorem sendJson_message {r : Room} {message : RoomMessage K} {receives : LobbyMember → Bool}
    {sent : Sent K} (member : sent ∈ r.sendJson (fun _ => message) receives) :
    sent.message = message := by
  obtain ⟨m, _, rfl⟩ := List.mem_map.mp member
  rfl

theorem noticeMessages_silent {now : Int} {v : VisibilityWorld K} {r : Room} {n : RoomNotice K}
    (silent : noticePlace n = none) :
    ∀ sent ∈ noticeMessages now v r n, messagePlace sent.message = none := by
  intro sent member
  cases n with
  | skillRejected rejection =>
    simp only [noticeMessages, Room.sendSkillRejected] at member
    split at member
    · cases member
    · split at member
      · cases member
      · rw [List.mem_singleton.mp member]
        rfl
  | event event =>
    cases event with
    | tagged playerId source =>
      rw [sendJson_message member]
      rfl
    | eliminated playerId source =>
      simp only [noticeMessages, Room.eliminationMessages] at member
      split at member
      · cases member
      split at member
      · cases member
      split at member
      · cases member
      rcases List.mem_append.mp member with first | lobby
      · rcases List.mem_append.mp first with out | spectates
        · rw [sendJson_message out]
          rfl
        · rw [sendJson_message spectates]
          rfl
      · unfold Room.broadcastLobbyState at lobby
        split at lobby
        · cases lobby
        · obtain ⟨m, _, rfl⟩ := List.mem_map.mp lobby
          rfl
    | blinked playerId fromX fromY => cases silent
    | skillArea area => cases silent
  | finishGame winnerIds =>
    simp only [noticeMessages, Room.finishMessages] at member
    split at member
    · rw [sendJson_message member]
      rfl
    · cases member

theorem noticesMessages_silent {now : Int} {v : VisibilityWorld K} {r : Room}
    {ns : List (RoomNotice K)} (silent : ∀ n ∈ ns, noticePlace n = none) :
    ∀ sent ∈ noticesMessages now v r ns, messagePlace sent.message = none := by
  induction ns generalizing r with
  | nil =>
    intro sent member
    cases member
  | cons n rest ih =>
    intro sent member
    rcases List.mem_append.mp member with here | later
    · exact noticeMessages_silent (silent n List.mem_cons_self) sent here
    · exact ih (fun m after => silent m (List.mem_cons_of_mem n after)) sent later

/-- A notice with a place is sent to whoever may see its caster. -/
theorem noticeMessages_place {n : RoomNotice K} {id : Nat} {x y : K}
    (placed : noticePlace n = some (id, x, y)) :
    ∃ message, messagePlace message = some (id, x, y) ∧
      (∀ now (r : Room), roomAfter now r n = r) ∧
      ∀ now v (r : Room), noticeMessages now v r n =
        r.broadcastToViewers message id fun viewer => canSeePlayer v viewer id := by
  cases n with
  | skillRejected rejection => cases placed
  | event event =>
    cases event with
    | tagged playerId source => cases placed
    | eliminated playerId source => cases placed
    | blinked playerId fromX fromY =>
      obtain ⟨rfl, rfl, rfl⟩ : playerId = id ∧ fromX = x ∧ fromY = y := by
        simpa [noticePlace, eventPlace] using placed
      exact ⟨_, rfl, fun _ _ => rfl, fun _ _ _ => rfl⟩
    | skillArea area =>
      obtain ⟨rfl, rfl, rfl⟩ : area.playerId = id ∧ area.fromX = x ∧ area.fromY = y := by
        simpa [noticePlace, eventPlace] using placed
      exact ⟨_, rfl, fun _ _ => rfl, fun _ _ _ => rfl⟩
  | finishGame winnerIds => cases placed

theorem noticesMessages_append {now : Int} {v : VisibilityWorld K} {r : Room}
    {calm : List (RoomNotice K)} (same : ∀ n ∈ calm, roomAfter now r n = r)
    (more : List (RoomNotice K)) :
    noticesMessages now v r (calm ++ more) =
      calm.flatMap (noticeMessages now v r) ++ noticesMessages now v r more := by
  induction calm with
  | nil => rfl
  | cons n rest ih =>
    show _ ++ noticesMessages now v (roomAfter now r n) (rest ++ more) = _
    rw [same n List.mem_cons_self, ih fun m after => same m (List.mem_cons_of_mem n after)]
    simp

/-- A tick first shows its casts, and the room stands still meanwhile. -/
structure ShowsCasts (tick : GameSession.SessionStep K) (casters : List (PlayerState K))
    (calm later : List (RoomNotice K)) : Prop where
  notices : tick.notices = calm ++ later
  still : ∀ n ∈ calm, ∀ now (r : Room), roomAfter now r n = r
  silent : ∀ n ∈ later, noticePlace n = none
  shown : ∀ n ∈ calm, ∀ id x y, noticePlace n = some (id, x, y) →
    ∃ caster ∈ casters, caster.playerId = id ∧ caster.x = x ∧ caster.y = y
  shows : ∀ caster ∈ casters, ∃ n ∈ calm,
    noticePlace n = some (caster.playerId, caster.x, caster.y)

/-- The casts of a tick: none, once the match is over. -/
def sessionCasters (s : GameSession K) (inputs : List (ResolvedInput K)) : List (PlayerState K) :=
  if s.finished then [] else castersOf s.world (s.requests inputs noTraining)

theorem step_showsCasts (s : GameSession K) (inputs : List (ResolvedInput K)) :
    ∃ calm later, ShowsCasts (s.step inputs noTraining) (sessionCasters s inputs) calm later := by
  unfold GameSession.step sessionCasters
  split
  · exact ⟨[], [], rfl, by simp, by simp, by simp, by simp⟩
  obtain ⟨tail, events, silent⟩ := stepWorld_places s.world (s.requests inputs noTraining)
  dsimp only
  set requests := s.requests inputs noTraining
  set skills := (runSkills (beginTick s.world) requests.skillRequests).events
  set calm : List (RoomNotice K) :=
    (stepWorld s.world requests).skillRejections.map RoomNotice.skillRejected ++
      skills.map RoomNotice.event with calmIs
  have notices : (stepWorld s.world requests).skillRejections.map RoomNotice.skillRejected ++
      (stepWorld s.world requests).events.map RoomNotice.event =
        calm ++ tail.map RoomNotice.event := by
    rw [events, List.map_append, ← List.append_assoc]
  have still : ∀ n ∈ calm, ∀ now (r : Room), roomAfter now r n = r := by
    intro n member now r
    rcases List.mem_append.mp member with refused | shown
    · obtain ⟨rejection, _, rfl⟩ := List.mem_map.mp refused
      rfl
    · obtain ⟨event, among, rfl⟩ := List.mem_map.mp shown
      rw [show skills = _ from runSkills_events _ _] at among
      obtain ⟨turn, _, cast⟩ := List.mem_flatMap.mp among
      rcases useSkill_places turn.1 turn.2 event cast with ⟨caster, _, place⟩ | ⟨_, _, rfl⟩
      · obtain ⟨_, _, stays, _⟩ := noticeMessages_place (n := .event event) place
        exact stays now r
      · rfl
  have shown : ∀ n ∈ calm, ∀ id x y, noticePlace n = some (id, x, y) →
      ∃ caster ∈ castersOf s.world requests,
        caster.playerId = id ∧ caster.x = x ∧ caster.y = y := by
    intro n member id x y placed
    rcases List.mem_append.mp member with refused | shown
    · obtain ⟨rejection, _, rfl⟩ := List.mem_map.mp refused
      cases placed
    · obtain ⟨event, among, rfl⟩ := List.mem_map.mp shown
      exact castersOf_of_place among placed
  have shows : ∀ caster ∈ castersOf s.world requests, ∃ n ∈ calm,
      noticePlace n = some (caster.playerId, caster.x, caster.y) := by
    intro caster member
    obtain ⟨event, among, place⟩ := mem_castersOf member
    exact ⟨.event event, List.mem_append_right _ (List.mem_map_of_mem among), place⟩
  have quiet : ∀ n ∈ tail.map RoomNotice.event, noticePlace n = none := by
    intro n member
    obtain ⟨event, among, rfl⟩ := List.mem_map.mp member
    exact silent event among
  split
  · refine ⟨calm, _, by rw [notices, List.append_assoc], still, ?_, shown, shows⟩
    · intro n member
      rcases List.mem_append.mp member with before | last
      · exact quiet n before
      · rw [List.mem_singleton.mp last]
        rfl
  · exact ⟨calm, tail.map RoomNotice.event, notices, still, quiet, shown, shows⟩

/-! ## Places and their viewers -/

/-- A player is told of a place where it would not see the caster. -/
def Leaks (v : VisibilityWorld K) (sent : Sent K) : Prop :=
  ∃ place ∈ messagePlace sent.message, sent.access = .filtered ∧ sent.member.playerId ≠ place.1 ∧
    seesAt v sent.member.playerId place.1 place.2.1 place.2.2 = false

instance (v : VisibilityWorld K) (sent : Sent K) : Decidable (Leaks v sent) :=
  inferInstanceAs (Decidable (∃ place ∈ messagePlace sent.message, _))

/-- In the world of the tick, every place a player is told of is one where it sees the caster. -/
def HostedRoom.NoLeak (h : HostedRoom K) (now : Int) (inputs : List (ResolvedInput K)) : Prop :=
  ∀ tick ∈ h.stepped inputs, ∀ sent ∈ h.tickMessages now inputs,
    ¬ Leaks (toVisibilityWorld tick.session.world) sent

/-- Of the casts of the tick, none was made where a player could not see its caster who sees it when
the tick is over. -/
def HostedRoom.NobodyEmerges (h : HostedRoom K) (inputs : List (ResolvedInput K)) : Prop :=
  ∀ s ∈ h.session, ∀ caster ∈ sessionCasters s.game inputs, ∀ m ∈ h.room.members,
    h.room.snapshotAccess m.userId = .filtered → m.playerId ≠ caster.playerId →
    canSeePlayer (toVisibilityWorld (s.game.step inputs noTraining).session.world) m.playerId
      caster.playerId = true →
    seesAt (toVisibilityWorld (s.game.step inputs noTraining).session.world) m.playerId
      caster.playerId caster.x caster.y = true

theorem connected_of_filtered {r : Room} {m : LobbyMember} (member : m ∈ r.members)
    (access : r.snapshotAccess m.userId = .filtered) : m.connection.isSome = true := by
  have found : r.roster.getByUser m.userId = some m :=
    KeyedList.get?_of_mem (LobbyRoster.mem_members.mp member)
  simp only [Room.snapshotAccess, found, Room.memberAccess] at access
  split at access
  · cases access
  split at access
  · cases access
  rename_i connected
  exact Option.isSome_iff_ne_none.mpr connected

omit [JsNumber K] in
theorem mem_broadcastToViewers {r : Room} {message : RoomMessage K} {source : Nat}
    {canSee : Nat → Bool} {sent : Sent K}
    (member : sent ∈ r.broadcastToViewers message source canSee) :
    sent.member ∈ r.members ∧ sent.access = r.snapshotAccess sent.member.userId ∧
      sent.message = message ∧
      (sent.access = .filtered → sent.member.playerId ≠ source →
        canSee sent.member.playerId = true) := by
  obtain ⟨m, listed, rfl⟩ := List.mem_map.mp member
  obtain ⟨present, receives⟩ := List.mem_filter.mp listed
  refine ⟨present, rfl, rfl, fun access other => ?_⟩
  have access : r.snapshotAccess m.userId = .filtered := access
  have other : m.playerId ≠ source := other
  have sees : m.connection.isSome = true ∧ canSee m.playerId = true := by
    simpa [Room.viewerReceives, access, other] using receives
  exact sees.2

omit [JsNumber K] in
theorem broadcastToViewers_sends {r : Room} (message : RoomMessage K) (source : Nat)
    (canSee : Nat → Bool) {m : LobbyMember} (member : m ∈ r.members)
    (access : r.snapshotAccess m.userId = .filtered) (sees : canSee m.playerId = true) :
    ⟨m, .filtered, message⟩ ∈ r.broadcastToViewers message source canSee := by
  have receives : r.viewerReceives source canSee m = true := by
    simp [Room.viewerReceives, access, sees]
  refine List.mem_map.mpr ⟨m, List.mem_filter.mpr ⟨member, ?_⟩, by rw [access]⟩
  rw [connected_of_filtered member access, receives]
  rfl

theorem HostedRoom.tickMessages_eq {h : HostedRoom K} {s : Registered K}
    (on : h.session = some s) (now : Int) (inputs : List (ResolvedInput K)) :
    h.tickMessages now inputs =
      noticesMessages now (toVisibilityWorld (s.game.step inputs noTraining).session.world) h.room
        (s.game.step inputs noTraining).notices := by
  unfold tickMessages stepped
  rw [on]
  rfl

/-- No place leaks in a tick exactly if nobody who casts in it comes into view. -/
theorem tick_noLeak_iff (h : HostedRoom K) (now : Int) (inputs : List (ResolvedInput K)) :
    h.NoLeak now inputs ↔ h.NobodyEmerges inputs := by
  cases on : h.session with
  | none => simp [HostedRoom.NoLeak, HostedRoom.NobodyEmerges, HostedRoom.stepped, on]
  | some s =>
  have tick : s.game.step inputs noTraining ∈ h.stepped inputs := by
    simp [HostedRoom.stepped, on]
  obtain ⟨calm, later, casts⟩ := step_showsCasts s.game inputs
  have messages := HostedRoom.tickMessages_eq on now inputs
  rw [casts.notices, noticesMessages_append fun n member => casts.still n member now h.room]
    at messages
  unfold HostedRoom.NoLeak
  rw [messages]
  constructor
  · intro tight t here caster cast m member access other sees
    obtain rfl : s = t := Option.some.inj (on.symm.trans here)
    obtain ⟨n, among, placed⟩ := casts.shows caster cast
    obtain ⟨message, place, _, sends⟩ := noticeMessages_place placed
    have sent := broadcastToViewers_sends message caster.playerId
      (fun viewer => canSeePlayer
        (toVisibilityWorld (s.game.step inputs noTraining).session.world) viewer caster.playerId)
      member access sees
    rw [← sends now] at sent
    have kept := tight _ tick _ (List.mem_append_left _ (List.mem_flatMap.mpr ⟨n, among, sent⟩))
    by_contra hidden
    exact kept ⟨_, place, rfl, other, eq_false_of_ne_true hidden⟩
  · rintro covered _ taken sent member ⟨⟨id, x, y⟩, place, access, other, hidden⟩
    obtain rfl := Option.some.inj ((show some _ = h.stepped inputs from tick.symm).trans taken)
    rcases List.mem_append.mp member with here | after
    · obtain ⟨n, among, tells⟩ := List.mem_flatMap.mp here
      cases placed : noticePlace n with
      | none =>
        rw [noticeMessages_silent placed sent tells] at place
        cases place
      | some shown =>
        obtain ⟨source, fromX, fromY⟩ := shown
        obtain ⟨message, carries, _, sends⟩ := noticeMessages_place placed
        rw [sends] at tells
        obtain ⟨present, granted, rfl, visible⟩ := mem_broadcastToViewers tells
        obtain ⟨rfl, rfl, rfl⟩ : source = id ∧ fromX = x ∧ fromY = y := by
          simpa using carries.symm.trans place
        obtain ⟨caster, cast, rfl, rfl, rfl⟩ := casts.shown n among _ _ _ placed
        have seen := covered s on caster cast sent.member present (granted.symm.trans access) other
          (visible access other)
        rw [hidden] at seen
        cases seen
    · rw [noticesMessages_silent casts.silent sent after] at place
      cases place

/-! ## Two runs -/

/-- Two notices of a viewer's two runs: the same, or of a caster that is hidden where it stands. -/
inductive Hides (v v' : VisibilityWorld K) (viewerId : Nat) :
    RoomNotice K → RoomNotice K → Prop where
  | same (n : RoomNotice K) : Hides v v' viewerId n n
  | blinked {id : Nat} {x y x' y' : K} (other : viewerId ≠ id)
      (hidden : seesAt v viewerId id x y = false) (hidden' : seesAt v' viewerId id x' y' = false) :
      Hides v v' viewerId (.event (.blinked id x y)) (.event (.blinked id x' y'))
  | skillArea {area : SkillArea K} {x' y' : K} (other : viewerId ≠ area.playerId)
      (hidden : seesAt v viewerId area.playerId area.fromX area.fromY = false)
      (hidden' : seesAt v' viewerId area.playerId x' y' = false) :
      Hides v v' viewerId (.event (.skillArea area))
        (.event (.skillArea { area with fromX := x', fromY := y' }))

/-- Two rooms whose next ticks differ only in where casters stand whom the viewer does not see. -/
structure DifferInHiding (viewerId : Nat) (h h' : HostedRoom K)
    (inputs inputs' : List (ResolvedInput K)) : Prop where
  room : h'.room = h.room
  session : h'.session.isSome = h.session.isSome
  self : ∀ tick ∈ h.stepped inputs, ∀ tick' ∈ h'.stepped inputs',
    tick'.session.world.find viewerId = tick.session.world.find viewerId
  seen : ∀ tick ∈ h.stepped inputs, ∀ tick' ∈ h'.stepped inputs',
    seenPlayers tick'.session.world viewerId = seenPlayers tick.session.world viewerId
  notices : ∀ tick ∈ h.stepped inputs, ∀ tick' ∈ h'.stepped inputs',
    List.Forall₂ (Hides (toVisibilityWorld tick.session.world)
      (toVisibilityWorld tick'.session.world) viewerId) tick.notices tick'.notices

def messagesTo (userId : ActorId) (sent : List (Sent K)) : List (RoomMessage K) :=
  (sent.filter fun s => s.member.userId = userId).map Sent.message

omit [JsNumber K] in
theorem messagesTo_append (userId : ActorId) (sent more : List (Sent K)) :
    messagesTo userId (sent ++ more) = messagesTo userId sent ++ messagesTo userId more := by
  simp [messagesTo]

theorem canSee_of_seen {w w' : World K} {viewerId : Nat}
    (seen : seenPlayers w' viewerId = seenPlayers w viewerId) (id : Nat) :
    canSeePlayer (toVisibilityWorld w') viewerId id =
      canSeePlayer (toVisibilityWorld w) viewerId id := by
  have one {w w' : World K} (seen : seenPlayers w' viewerId = seenPlayers w viewerId)
      (sees : canSeePlayer (toVisibilityWorld w) viewerId id = true) :
      canSeePlayer (toVisibilityWorld w') viewerId id = true := by
    have target : ∃ p, w.find id = some p := by
      by_contra nobody
      have missing : w.find id = none := by
        cases found : w.find id with
        | none => rfl
        | some p => exact absurd ⟨p, found⟩ nobody
      simp only [canSeePlayer, find_toVisibilityWorld, missing] at sees
      split at sees
      · rename_i looked
        cases looked
      · cases sees
    obtain ⟨p, found⟩ := target
    obtain ⟨member, rfl⟩ := find_some found
    have among : p ∈ seenPlayers w viewerId := List.mem_filter.mpr ⟨member, sees⟩
    rw [← seen] at among
    exact (List.mem_filter.mp among).2
  rw [Bool.eq_iff_iff]
  exact ⟨one seen.symm, one seen⟩

omit [JsNumber K] in
/-- Whether one member gets a message with a place depends on what this member sees. -/
theorem messagesTo_viewers {r : Room} {m : LobbyMember} (member : m ∈ r.members)
    (message : RoomMessage K) (source : Nat) (canSee : Nat → Bool) :
    messagesTo m.userId (r.broadcastToViewers message source canSee) =
      ((r.members.filter fun other => other.connection.isSome && decide (other.userId = m.userId) &&
        r.viewerReceives source canSee m).map fun _ => message) := by
  unfold messagesTo Room.broadcastToViewers Room.sendJson
  rw [List.filter_map, List.map_map, List.filter_filter]
  refine congrArg (List.map _) (List.filter_congr fun other among => ?_)
  by_cases same : other.userId = m.userId
  · have one : other = m := r.roster.membersByUser.eq_of_key (LobbyRoster.mem_members.mp among)
      (LobbyRoster.mem_members.mp member) same
    simp [one]
  · simp [same]

theorem noticeMessages_blind {n : RoomNotice K} (silent : noticePlace n = none) (now : Int)
    (v v' : VisibilityWorld K) (r : Room) :
    noticeMessages now v' r n = noticeMessages now v r n := by
  cases n with
  | event event =>
    cases event with
    | blinked playerId fromX fromY => cases silent
    | skillArea area => cases silent
    | tagged playerId source => rfl
    | eliminated playerId source => rfl
  | skillRejected rejection => rfl
  | finishGame winnerIds => rfl

section Viewer
variable {now : Int} {v v' : VisibilityWorld K} {r₀ : Room} {m : LobbyMember}

omit [JsNumber K] in
/-- A message whose caster the member does not see does not reach it. -/
theorem messagesTo_unseen (message : RoomMessage K) {source : Nat} (canSee : Nat → Bool)
    (member : m ∈ r₀.members) (access : r₀.snapshotAccess m.userId = .filtered)
    (other : m.playerId ≠ source) (unseen : canSee m.playerId = false) :
    messagesTo m.userId (r₀.broadcastToViewers message source canSee) = [] := by
  rw [messagesTo_viewers member]
  simp [Room.viewerReceives, access, other, unseen]

/-- The run rule: the lists go on alike, and the places come while the room stands still. -/
theorem messagesTo_hides (member : m ∈ r₀.members)
    (access : r₀.snapshotAccess m.userId = .filtered)
    (alike : ∀ id, canSeePlayer v' m.playerId id = canSeePlayer v m.playerId id)
    {ns ns' : List (RoomNotice K)} (hides : List.Forall₂ (Hides v v' m.playerId) ns ns') (r : Room)
    (still : ∀ before n after, ns = before ++ n :: after → noticePlace n ≠ none →
      before.foldl (roomAfter now) r = r₀)
    (covered : ∀ n ∈ ns, ∀ id x y, noticePlace n = some (id, x, y) → m.playerId ≠ id →
      canSeePlayer v m.playerId id = true → seesAt v m.playerId id x y = true) :
    messagesTo m.userId (noticesMessages now v' r ns') =
      messagesTo m.userId (noticesMessages now v r ns) := by
  induction hides generalizing r with
  | nil => rfl
  | @cons n n' rest rest' pair _ ih =>
    have first : messagesTo m.userId (noticeMessages now v' r n') =
        messagesTo m.userId (noticeMessages now v r n) ∧
        roomAfter now r n' = roomAfter now r n := by
      have here (placed : noticePlace n ≠ none) : r = r₀ := still [] n rest rfl placed
      have unseen {id : Nat} {x y : K} (placed : noticePlace n = some (id, x, y))
          (other : m.playerId ≠ id) (hidden : seesAt v m.playerId id x y = false) :
          canSeePlayer v m.playerId id = false := by
        by_contra sees
        have shown := covered n List.mem_cons_self id x y placed other (by simpa using sees)
        rw [hidden] at shown
        cases shown
      cases pair with
      | same =>
        refine ⟨?_, rfl⟩
        cases placed : noticePlace n with
        | none => rw [noticeMessages_blind placed now v v' r]
        | some shown =>
          obtain ⟨source, x, y⟩ := shown
          obtain ⟨message, _, _, sends⟩ := noticeMessages_place placed
          obtain rfl := here (by rw [placed]; simp)
          rw [sends, sends, messagesTo_viewers member, messagesTo_viewers member]
          simp only [Room.viewerReceives, alike]
      | @blinked id x y x' y' other hidden hidden' =>
        obtain rfl := here nofun
        have blind := unseen rfl other hidden
        refine ⟨?_, rfl⟩
        have quiet := messagesTo_unseen (.blinked id x y) (fun viewer =>
          canSeePlayer v viewer id) member access other blind
        have quiet' := messagesTo_unseen (.blinked id x' y') (fun viewer =>
          canSeePlayer v' viewer id) member access other (by rw [alike, blind])
        exact quiet'.trans quiet.symm
      | @skillArea area x' y' other hidden hidden' =>
        obtain rfl := here nofun
        have blind := unseen rfl other hidden
        refine ⟨?_, rfl⟩
        have quiet := messagesTo_unseen (.skillArea area) (fun viewer =>
          canSeePlayer v viewer area.playerId) member access other blind
        have quiet' := messagesTo_unseen
          (.skillArea { area with fromX := x', fromY := y' }) (fun viewer =>
            canSeePlayer v' viewer area.playerId) member access other (by rw [alike, blind])
        exact quiet'.trans quiet.symm
    show messagesTo m.userId (_ ++ noticesMessages now v' (roomAfter now r n') rest') =
      messagesTo m.userId (_ ++ noticesMessages now v (roomAfter now r n) rest)
    rw [messagesTo_append, messagesTo_append, first.1, first.2]
    refine congrArg _ (ih _ ?_ fun k among => covered k (List.mem_cons_of_mem n among))
    intro before k after split placed
    exact still (n :: before) k after (by rw [split]; rfl) placed

end Viewer

/-- A player is told the same in every other run that differs only in where casters stand whom it
does not see. -/
def HostedRoom.TellsNothing (h : HostedRoom K) (now : Int) (inputs : List (ResolvedInput K)) :
    Prop :=
  ∀ (host : HostedRoom K) (ops : List (HostOp K)) (inputs' : List (ResolvedInput K)),
    ∀ m ∈ h.room.members, h.room.snapshotAccess m.userId = .filtered →
    DifferInHiding m.playerId h (ops.foldl HostedRoom.apply host) inputs inputs' →
    messagesTo m.userId ((ops.foldl HostedRoom.apply host).tickMessages now inputs') =
      messagesTo m.userId (h.tickMessages now inputs)

theorem tick_sameMessages {h h' : HostedRoom K} {inputs inputs' : List (ResolvedInput K)}
    (now : Int) {m : LobbyMember} (member : m ∈ h.room.members)
    (access : h.room.snapshotAccess m.userId = .filtered)
    (apart : DifferInHiding m.playerId h h' inputs inputs') (covered : h.NobodyEmerges inputs) :
    messagesTo m.userId (h'.tickMessages now inputs') =
      messagesTo m.userId (h.tickMessages now inputs) := by
  cases on : h.session with
  | none =>
    have off : h'.session = none := by simpa [on] using apart.session
    simp [HostedRoom.tickMessages, HostedRoom.stepped, on, off]
  | some s =>
    obtain ⟨s', on'⟩ := Option.isSome_iff_exists.mp (by rw [apart.session, on]; rfl)
    have tick : s.game.step inputs noTraining ∈ h.stepped inputs := by
      simp [HostedRoom.stepped, on]
    have tick' : s'.game.step inputs' noTraining ∈ h'.stepped inputs' := by
      simp [HostedRoom.stepped, on']
    obtain ⟨calm, later, casts⟩ := step_showsCasts s.game inputs
    rw [HostedRoom.tickMessages_eq on, HostedRoom.tickMessages_eq on', apart.room]
    refine messagesTo_hides member access (canSee_of_seen (apart.seen _ tick _ tick'))
      (apart.notices _ tick _ tick') h.room ?_ ?_
    · intro before n after split placed
      rw [casts.notices] at split
      have calmly : ∀ k ∈ before, k ∈ calm := by
        rcases List.append_eq_append_iff.mp split with ⟨c, rfl, rest⟩ | ⟨c, rfl, _⟩
        · have among : n ∈ later := rest ▸ List.mem_append_right c List.mem_cons_self
          exact absurd (casts.silent n among) placed
        · exact fun k among => List.mem_append_left c among
      clear split
      induction before with
      | nil => rfl
      | cons k rest ih =>
        rw [List.foldl_cons, casts.still k (calmly k List.mem_cons_self)]
        exact ih fun l among => calmly l (List.mem_cons_of_mem k among)
    · intro n among id x y placed other sees
      rw [casts.notices] at among
      rcases List.mem_append.mp among with here | after
      · obtain ⟨caster, cast, rfl, rfl, rfl⟩ := casts.shown n here _ _ _ placed
        exact covered s on caster cast m member access other sees
      · rw [casts.silent n after] at placed
        cases placed

/-- The first player stands in the open, the second far off in the bushes. -/
def thicket : ServerMap ℚ where
  map :=
    { mapId := "yard", cols := 8, rows := 4, tileSize := tilePx
      tiles := List.replicate 2 (List.replicate 8 .bush) ++
        List.replicate 2 (List.replicate 8 .floor)
      barrierSpeed := 1, timeline := fun _ => [] }
  startPositions := fun _ => [(128, 896), (1408, 128), (1900, 896), (640, 896)]

/-- Four players start there, and the second is about to use its Flash. -/
def ambush : List (HostOp ℚ) :=
  gather.dropLast ++
    [.setLoadout (.account 2) .flash, .requestStart 20000 (.account 1) ⟨false, true⟩,
      .advance { startEnv with bundle := fun _ => thicket } 29000,
      .queueSkill ⟨2, slotMovement, none⟩]

end SwitchRemake.Game

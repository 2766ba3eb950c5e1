import SwitchRemake.Game.Kickoff
import SwitchRemake.Game.RoleChanges
import SwitchRemake.Game.SessionRecorder

/-!
# The tagger before a Switch

The analysis looks the tagger up in the last frame before the tick of the Switch. Between that frame
and the Switch the role may have moved.
-/

namespace SwitchRemake.Analysis
open Lib Simulation Protocol

variable {K F : Type}

/-! ## Searching -/

/-- The loop finds the end of the part that is no larger than the value. -/
theorem lastFrom_split {sorted : List Nat} {value : Int} {n : Nat}
    (split : ∀ i, i < sorted.length → (((sorted[i]?).getD 0 : Int) ≤ value ↔ i < n))
    (fuel lo hi : Nat) (found : Option Nat) (low : lo ≤ n) (high : n ≤ hi)
    (within : hi ≤ sorted.length) (enough : hi - lo ≤ fuel)
    (best : found = if lo = 0 then none else some (lo - 1)) :
    lastFrom sorted value fuel lo hi found = if n = 0 then none else some (n - 1) := by
  induction fuel generalizing lo hi found with
  | zero =>
    have same : lo = n := by omega
    rw [lastFrom, best, same]
  | succ fuel ih =>
    rw [lastFrom]
    by_cases open_ : lo < hi
    · rw [if_pos open_]
      dsimp only
      have inside : (lo + hi - 1) / 2 < sorted.length := by omega
      have decided := split _ inside
      by_cases below : ((sorted[(lo + hi - 1) / 2]?).getD 0 : Int) ≤ value
      · rw [if_pos below]
        have before := decided.mp below
        exact ih _ _ _ (by omega) high within (by omega) (by simp)
      · rw [if_neg below]
        have after := mt decided.mpr below
        exact ih _ _ _ low (by omega) (by omega) (by omega) best
    · rw [if_neg open_]
      have same : lo = n := by omega
      rw [best, same]

theorem lastAtOrBefore_append {front back : List Nat} {value : Int}
    (below : ∀ tick ∈ front, (tick : Int) ≤ value) (above : ∀ tick ∈ back, value < tick) :
    lastAtOrBefore (front ++ back) value =
      if front.length = 0 then none else some (front.length - 1) := by
  refine lastFrom_split (fun i inside => ?_) _ _ _ _ (Nat.zero_le _) (by simp) le_rfl (by simp) rfl
  by_cases here : i < front.length
  · rw [List.getElem?_append_left here, List.getElem?_eq_getElem here]
    simp [here, below _ (List.getElem_mem here)]
  · have there : i - front.length < back.length := by
      rw [List.length_append] at inside
      omega
    rw [List.getElem?_append_right (by omega), List.getElem?_eq_getElem there]
    have larger := above _ (List.getElem_mem there)
    simp only [Option.getD_some, here, iff_false]
    omega

variable [JsNumber K]

/-! ## Switches and frames -/

/-- Every Switch of the analysis names the tagger of the last frame before its tick. -/
theorem Footage.previousTagger (f : Footage K) {e : AnalysisEvent K} (member : e ∈ f.events)
    (switch : e.kind = .switch) : e.previousTaggerId = f.taggerBefore e.tick := by
  have unsorted := (List.perm_insertionSort _ _).mem_iff.mp member
  rcases List.mem_append.mp unsorted with found | dash
  · rcases List.mem_append.mp found with first | second
    · obtain ⟨record, _, made⟩ := List.mem_filterMap.mp first
      unfold firstEvent at made
      dsimp only at made
      split_ifs at made
      · split at made
        · rw [← Option.some.inj made]
        · rw [← Option.some.inj made] at switch
          cases switch
      all_goals
        rw [← Option.some.inj made] at switch
        cases switch
    · obtain ⟨record, _, made⟩ := List.mem_filterMap.mp second
      unfold secondEvent at made
      dsimp only at made
      split_ifs at made
      split at made
      · rw [← Option.some.inj made] at switch
        cases switch
      · rw [← Option.some.inj made]
  · obtain ⟨state, _, among⟩ := List.mem_flatMap.mp dash
    obtain ⟨player, _, rfl⟩ := List.mem_map.mp among
    cases switch

/-- A decoder that reads the slots and the flags as they were written. -/
def Legible (decode : Snapshot K → Option (List (SnapshotPlayer K)))
    (frames : List (RecordedFrame (Snapshot K))) : Prop :=
  ∀ frame ∈ frames, ∀ players, frame.content.players = some players →
    ∃ read, decode frame.content = some read ∧
      read.map (fun p => (p.id, p.isTagger)) = players.map fun p => (p.id, p.isTagger)

/-- The state of a frame whose players are read. -/
def Reads (decode : F → Option (List (SnapshotPlayer K))) (state : FrameState)
    (frame : RecordedFrame F) : Prop :=
  ∃ read, decode frame.content = some read ∧
    state.players = sortById PlayerSample.id (read.map toSample)

theorem statesFrom_reads {decode : F → Option (List (SnapshotPlayer K))}
    {frames : List (RecordedFrame F)} (reads : ∀ frame ∈ frames, (decode frame.content).isSome)
    (carried : List PlayerSample) :
    List.Forall₂ (Reads decode) (statesFrom decode carried frames) frames := by
  induction frames generalizing carried with
  | nil => exact .nil
  | cons frame rest ih =>
    obtain ⟨read, found⟩ := Option.isSome_iff_exists.mp (reads frame List.mem_cons_self)
    rw [statesFrom, found]
    exact .cons ⟨read, found, rfl⟩ (ih (fun f member => reads f (List.mem_cons_of_mem _ member)) _)

/-- A tagger that a state shows is flagged in what was read. -/
theorem taggerIn_read {decode : F → Option (List (SnapshotPlayer K))} {state : FrameState}
    {frame : RecordedFrame F} (reads : Reads decode state frame) {id : Nat}
    (shown : Footage.taggerIn state = some id) :
    ∃ read, decode frame.content = some read ∧ (id, true) ∈ read.map fun p => (p.id, p.isTagger) := by
  obtain ⟨read, found, players⟩ := reads
  refine ⟨read, found, ?_⟩
  obtain ⟨sample, first, rfl⟩ := Option.map_eq_some_iff.mp shown
  have listed := List.mem_of_find?_eq_some first
  have flag := List.find?_some first
  rw [players, mem_sortById] at listed
  obtain ⟨p, member, rfl⟩ := List.mem_map.mp listed
  exact List.mem_map.mpr ⟨p, member, Prod.ext rfl flag⟩

end SwitchRemake.Analysis

namespace SwitchRemake.Game
open Lib Simulation Rooms GameSession Analysis Protocol

variable {K : Type} [JsNumber K]

/-- A recorded frame shows the living players of its world. -/
structure Shows (written : RecordedFrame (Snapshot K)) (frame : AuthoritativeFrame K) : Prop where
  tick : written.tick = frame.tick
  players : written.content.players = some ((frame.world.players.filter PlayerState.alive).map
    fun p => toSnapshotPlayer p false frame.tick frame.world.simulationHz)

theorem recordedFrames_shows (roster : List RosterEntry) (count : Nat)
    (calls : List (ReplayCall K)) :
    List.Forall₂ Shows (recordedFrames roster count calls) (shownFrames calls) := by
  induction calls generalizing count with
  | nil => exact .nil
  | cons call rest ih =>
    cases call with
    | events tick happened => exact ih count
    | abort reason => exact ih count
    | snapshotTick frame tileChanges => exact .cons ⟨rfl, rfl⟩ (ih (count + 1))
    | finalFrame frame tileChanges => exact .cons ⟨rfl, rfl⟩ (ih (count + 1))

theorem shows_ticks {written : List (RecordedFrame (Snapshot K))}
    {frames : List (AuthoritativeFrame K)} (shows : List.Forall₂ Shows written frames) :
    written.map RecordedFrame.tick = frames.map AuthoritativeFrame.tick := by
  induction shows with
  | nil => rfl
  | cons first _ ih => rw [List.map_cons, List.map_cons, first.tick, ih]

/-- A record in the order of its ticks is not moved by sorting. -/
theorem footage_of_ordered (input : AnalysisInput K (Snapshot K))
    {frames : List (AuthoritativeFrame K)} (shows : List.Forall₂ Shows input.frames frames)
    (ordered : frames.Pairwise fun a b => a.tick ≤ b.tick) :
    (footage input).ticks = frames.map AuthoritativeFrame.tick ∧
      (footage input).states = statesFrom input.decode [] input.frames := by
  have ticks := shows_ticks shows
  have inOrder : input.frames.Pairwise fun a b => a.tick ≤ b.tick := by
    have mapped : (input.frames.map RecordedFrame.tick).Pairwise (· ≤ ·) := by
      rw [ticks]
      exact List.pairwise_map.mpr ordered
    exact List.pairwise_map.mp mapped
  have sorted : sortById RecordedFrame.tick input.frames = input.frames :=
    List.Pairwise.insertionSort_eq inOrder
  exact ⟨by rw [footage, sorted, ← ticks], by rw [footage, sorted]⟩

/-- Whom the analysis takes for the tagger before a tick is flagged in the last earlier frame. -/
theorem taggerBefore_flagged (input : AnalysisInput K (Snapshot K))
    {early late : List (AuthoritativeFrame K)} (shows : List.Forall₂ Shows input.frames (early ++ late))
    (ordered : (early ++ late).Pairwise fun a b => a.tick ≤ b.tick)
    (legible : Legible input.decode input.frames) {tick : Nat}
    (before : ∀ frame ∈ early, frame.tick < tick) (after : ∀ frame ∈ late, tick ≤ frame.tick)
    {id : Nat} (found : (footage input).taggerBefore tick = some id) :
    ∃ frame ∈ early.getLast?, ∃ p ∈ frame.world.players, p.playerId = id ∧ p.isTagger = true := by
  obtain ⟨ticks, states⟩ := footage_of_ordered input shows ordered
  unfold Footage.taggerBefore at found
  rw [ticks, List.map_append, lastAtOrBefore_append (by
      intro t member
      obtain ⟨frame, among, rfl⟩ := List.mem_map.mp member
      have earlier := before frame among
      omega) (by
      intro t member
      obtain ⟨frame, among, rfl⟩ := List.mem_map.mp member
      have later := after frame among
      omega), List.length_map, states] at found
  obtain ⟨state, looked, shown⟩ := Option.bind_eq_some_iff.mp found
  by_cases empty : early.length = 0
  · rw [if_pos empty] at looked
    cases looked
  rw [if_neg empty, Option.bind_some] at looked
  have readable : ∀ frame ∈ input.frames, (input.decode frame.content).isSome := by
    intro frame member
    obtain ⟨i, inside, rfl⟩ := List.getElem_of_mem member
    have shown := shows.get inside (by rw [← shows.length_eq]; exact inside)
    obtain ⟨read, decoded, _⟩ := legible _ member _ shown.players
    exact Option.isSome_iff_exists.mpr ⟨read, decoded⟩
  have reads := statesFrom_reads readable []
  obtain ⟨inStates, rfl⟩ := List.getElem?_eq_some_iff.mp looked
  have inFrames : early.length - 1 < input.frames.length := reads.length_eq ▸ inStates
  have inEarly : early.length - 1 < early.length := by omega
  have read := reads.get inStates inFrames
  have shown' := shows.get inFrames (by rw [← shows.length_eq]; exact inFrames)
  obtain ⟨players, decoded, flagged⟩ := taggerIn_read read shown
  obtain ⟨players', decoded', same⟩ := legible _ (List.getElem_mem inFrames) _ shown'.players
  obtain rfl : players = players' := Option.some.inj (decoded.symm.trans decoded')
  rw [same, List.map_map] at flagged
  obtain ⟨p, member, equal⟩ := List.mem_map.mp flagged
  obtain ⟨rfl, flag⟩ := Prod.mk.inj equal
  refine ⟨early[early.length - 1], ?_, p, ?_, rfl, flag⟩
  · rw [List.getLast?_eq_getElem?, List.getElem?_eq_getElem inEarly]
    rfl
  · have inside := (List.mem_filter.mp member).1
    rwa [List.get_eq_getElem, List.getElem_append_left inEarly] at inside

/-! ## The role through a match -/

/-- As `startGame` leaves it, a match has no record yet. -/
theorem startGame_unrecorded {h started : HostedRoom K} {env : StartEnv K}
    {snapshot : RoomStartSnapshot} (mode : snapshot.mode = RoomMode.match)
    (distinct : snapshot.playerIds.Nodup) (begins : h.startGame env snapshot = some started) :
    ∃ game, started.session = some ⟨h.serials, game⟩ ∧ Unrecorded game := by
  obtain ⟨game, starts, rfl⟩ := startGame_starts mode distinct begins
  refine ⟨game, rfl, ?_, ?_⟩
  · unfold HostedRoom.startGame at begins
    obtain ⟨world, _, same⟩ := Option.map_eq_some_iff.mp begins
    have games := congrArg (fun h => h.session.map fun s => s.game.replay) same
    exact (Option.some.inj games).symm
  · obtain ⟨t, tracks⟩ := starts.tracked
    exact ⟨t.holder, tracks.shows.distinct, tracks.shows.holds_iff⟩

theorem skillTurns_heldBy {w : World K} {h : Nat} (held : HeldBy h w)
    {requests : List SkillRequest} {earlier later : List (World K × SkillRequest)}
    {turn : World K × SkillRequest} (turns : skillTurns w requests = earlier ++ turn :: later) :
    HeldBy (holderAfter h (earlier.flatMap fun turn => (useSkill turn.1 turn.2).events)) turn.1 := by
  induction requests generalizing w h earlier with
  | nil =>
    rw [skillTurns] at turns
    exact absurd turns (by simp)
  | cons request rest ih =>
    rw [skillTurns] at turns
    cases earlier with
    | nil =>
      obtain ⟨rfl, _⟩ := List.cons.inj turns
      exact held
    | cons first more =>
      obtain ⟨rfl, following⟩ := List.cons.inj turns
      rw [List.flatMap_cons, holderAfter_append]
      exact ih (useSkill_heldBy held request) following

/-- The changes of role recorded since the last frame, and those of the requests that came earlier in
the tick, leave the role with the player whom that frame shows. -/
def RoleRests (s : GameSession K) (earlier : List (World K × SkillRequest)) : Prop :=
  ∀ frame ∈ (shownFrames s.replay).getLast?, ∀ p ∈ frame.world.players, p.isTagger = true →
    holderAfter p.playerId (sinceFrame s.replay ++
      earlier.flatMap fun turn => (useSkill turn.1 turn.2).events) = p.playerId

/-- In every recorded run: a Switch of the analysis names the player whose role the Switch took,
exactly if the role has rested since the last frame before its tick. -/
theorem previous_tagger {start s r : GameSession K} (begins : Unrecorded start)
    (run : Recorded start s) (on : s.finished = false) (inputs : List (ResolvedInput K))
    (publication : Option (List Target)) {earlier later : List (World K × SkillRequest)}
    {turn : World K × SkillRequest}
    (turns : skillTurns (beginTick s.world)
      (sortById SkillRequest.playerId (s.requests inputs noTraining).skillRequests) =
        earlier ++ turn :: later)
    {caster tagger target : PlayerState K} (hit : Switches turn.1 turn.2 caster tagger target)
    (rest : Recorded (s.turn inputs publication) r)
    {decode : Snapshot K → Option (List (SnapshotPlayer K))}
    (legible : Legible decode (recordedFrames r.roster 0 r.replay)) :
    ∀ e ∈ (buildReplayAnalysis (analysisInput r decode)).events, e.kind = .switch →
      e.tick = s.world.tick + 1 → e.actorId = caster.playerId → ∀ previous,
      e.previousTaggerId = some previous →
        (previous = tagger.playerId ↔ RoleRests s earlier) := by
  intro e member switch tick _ previous named
  have recording := run.recording begins
  obtain ⟨_, more, replay, ticks⟩ := (tick_records s inputs publication).more
  obtain ⟨clock, rest', replay', ticks'⟩ := rest.grows
  have next := turn_tick on inputs publication
  have whole : r.replay = s.replay ++ (more ++ rest') := by
    rw [replay', replay, List.append_assoc]
  have shown : shownFrames r.replay = shownFrames s.replay ++ shownFrames (more ++ rest') := by
    rw [whole]
    exact List.filterMap_append
  have after : ∀ frame ∈ shownFrames (more ++ rest'), s.world.tick + 1 ≤ frame.tick := by
    intro frame among
    rw [shownFrames, List.filterMap_append] at among
    rcases List.mem_append.mp among with here | there
    · exact (next.symm.trans (ticks frame here).symm).le
    · exact next.symm.le.trans (ticks' frame there)
  have before : ∀ frame ∈ shownFrames s.replay, frame.tick < s.world.tick + 1 :=
    fun frame among => Nat.lt_succ_of_le (recording.past frame among)
  have one : Recorded s (RecordedOp.apply s (.tick inputs publication)) := .step .refl trivial
  have whole' : Recorded start r := (run.trans one).trans rest
  have ordered := (whole'.recording begins).ordered
  have shows := recordedFrames_shows r.roster 0 r.replay
  rw [shown] at ordered shows
  rw [Footage.previousTagger _ member switch, tick] at named
  obtain ⟨frame, last, p, inside, rfl, flag⟩ :=
    taggerBefore_flagged (analysisInput r decode) shows ordered legible before after named
  obtain ⟨h, then_, now⟩ := recording.shown frame last
  have begun : HeldBy (holderAfter h (sinceFrame s.replay)) (beginTick s.world) :=
    now.sameRoles (beginTick_sameRoles s.world)
  have role := (skillTurns_heldBy begun turns).livingTagger hit.holds
  rw [← holderAfter_append] at role
  have shows : p.playerId = h := (then_.2 p inside).mp flag
  rw [shows, role]
  constructor
  · intro same other there q among up
    obtain rfl := Option.some.inj (last.symm.trans there)
    rw [(then_.2 q among).mp up]
    exact same.symm
  · intro rests
    have kept := rests frame last p inside flag
    rw [shows] at kept
    exact kept.symm

/-! A match of four, in whose second tick two runners use their Switch. -/

def crossing : GameSession ℚ :=
  { fourPlayers with world := fourPlayers.world.update 4 fun p => { p with x := 384 } }

def twoSwitches : List SkillRequest := [⟨2, slotSwitch, some 3⟩, ⟨4, slotSwitch, some 2⟩]

/-- The first tick is shown, and the requests are queued. -/
def beforeSwitches : GameSession ℚ :=
  ([RecordedOp.tick [] (some [])] ++ twoSwitches.map RecordedOp.queueSkill).foldl RecordedOp.apply
    crossing

/-- Two players leave after the Switches, and the match is over. -/
def afterSwitches : GameSession ℚ :=
  ([.eliminateDisconnected 1, .eliminateDisconnected 3] : List (RecordedOp ℚ)).foldl
    RecordedOp.apply (beforeSwitches.turn [] none)

def secondWorld : World ℚ := (useSkill (beginTick beforeSwitches.world) ⟨2, slotSwitch, some 3⟩).world

theorem crossing_unrecorded : Unrecorded crossing where
  replay := rfl
  held := ⟨1, by decide +kernel, by decide +kernel⟩

theorem beforeSwitches_run : Recorded crossing beforeSwitches := by
  apply Reach.of_list
  simp only [twoSwitches, List.map_cons, List.map_nil, List.cons_append, List.nil_append, AllowedRun,
    and_self]

theorem afterSwitches_run : Recorded (beforeSwitches.turn [] none) afterSwitches := by
  apply Reach.of_list
  simp only [AllowedRun, and_self]

theorem crossing_turns : skillTurns (beginTick beforeSwitches.world) (sortById SkillRequest.playerId
      (beforeSwitches.requests [] noTraining).skillRequests) =
    [(beginTick beforeSwitches.world, ⟨2, slotSwitch, some 3⟩)] ++
      (secondWorld, ⟨4, slotSwitch, some 2⟩) :: [] := by
  have sorted : sortById SkillRequest.playerId
      (beforeSwitches.requests [] noTraining).skillRequests = twoSwitches := by decide +kernel
  rw [sorted]
  rfl

theorem legible_players (frames : List (RecordedFrame (Snapshot ℚ))) :
    Legible Snapshot.players frames :=
  fun _ _ players shown => ⟨players, shown, rfl⟩

/-- What a Switch needs, where all of it can be computed. -/
theorem switches_of (w : World ℚ) (request : SkillRequest)
    (needs : ∃ caster ∈ w.find request.playerId, ∃ tagger ∈ livingTagger w,
      ∃ target ∈ request.targetPlayerId.bind w.find, caster.alive = true ∧
        caster.isTagger = false ∧ skillInSlot caster request.slot = some .switch ∧
        isReady caster .switch = true ∧
        ¬ JsNumber.ofRat Skills.Switch.rangePx < distance caster tagger ∧
        (target.alive && !target.isTagger && target.playerId != caster.playerId) = true) :
    ∃ caster tagger target, Switches w request caster tagger target := by
  obtain ⟨caster, found, tagger, holds, target, looked, alive, runner, skill, ready, near, valid⟩ :=
    needs
  exact ⟨caster, tagger, target, found, alive, runner, skill, ready, holds, near, looked, valid⟩

/-- The second Switch takes the role from player 3, and the analysis names player 1. -/
theorem switch_after_switch : ¬ ∀ (start s r : GameSession ℚ) (inputs : List (ResolvedInput ℚ))
    (publication : Option (List Target)) (earlier later : List (World ℚ × SkillRequest))
    (turn : World ℚ × SkillRequest) (caster tagger target : PlayerState ℚ)
    (decode : Snapshot ℚ → Option (List (SnapshotPlayer ℚ))),
    Unrecorded start → Recorded start s → s.finished = false →
    skillTurns (beginTick s.world)
      (sortById SkillRequest.playerId (s.requests inputs noTraining).skillRequests) =
        earlier ++ turn :: later →
    Switches turn.1 turn.2 caster tagger target → Recorded (s.turn inputs publication) r →
    r.finished = true → Legible decode (recordedFrames r.roster 0 r.replay) →
    ∀ e ∈ (buildReplayAnalysis (analysisInput r decode)).events, e.kind = .switch →
      e.tick = s.world.tick + 1 → e.actorId = caster.playerId → ∀ previous,
      e.previousTaggerId = some previous → previous = tagger.playerId := by
  intro claim
  obtain ⟨caster, tagger, target, hit⟩ :=
    switches_of secondWorld ⟨4, slotSwitch, some 2⟩ (by decide +kernel)
  have tells : ∃ e ∈ (buildReplayAnalysis (analysisInput afterSwitches Snapshot.players)).events,
      e.kind = .switch ∧ e.tick = beforeSwitches.world.tick + 1 ∧ e.actorId = 4 ∧
        e.previousTaggerId = some 1 := by
    decide +kernel
  have holder : ∀ p ∈ livingTagger secondWorld, p.playerId = 3 := by decide +kernel
  obtain ⟨e, member, switch, tick, actor, named⟩ := tells
  have slot : caster.playerId = 4 := (find_some hit.found).2
  have wrong := claim crossing beforeSwitches afterSwitches [] none _ [] _ caster tagger target
    Snapshot.players crossing_unrecorded beforeSwitches_run (by decide +kernel) crossing_turns hit
    afterSwitches_run (by decide +kernel) (legible_players _) e member switch tick
    (actor.trans slot.symm) 1 named
  rw [holder tagger hit.holds] at wrong
  cases wrong

/-- The first of the two is named right: the role rests until then. -/
theorem previous_tagger_crossing :
    ∃ tagger ∈ livingTagger (beginTick beforeSwitches.world),
      (1 = tagger.playerId ↔ RoleRests beforeSwitches []) := by
  obtain ⟨caster, tagger, target, hit⟩ := switches_of (beginTick beforeSwitches.world)
    ⟨2, slotSwitch, some 3⟩ (by decide +kernel)
  have tells : ∃ e ∈ (buildReplayAnalysis (analysisInput afterSwitches Snapshot.players)).events,
      e.kind = .switch ∧ e.tick = beforeSwitches.world.tick + 1 ∧ e.actorId = 2 ∧
        e.previousTaggerId = some 1 := by
    decide +kernel
  obtain ⟨e, member, switch, tick, actor, named⟩ := tells
  have slot : caster.playerId = 2 := (find_some hit.found).2
  have turns : skillTurns (beginTick beforeSwitches.world) (sortById SkillRequest.playerId
        (beforeSwitches.requests [] noTraining).skillRequests) =
      [] ++ (beginTick beforeSwitches.world, ⟨2, slotSwitch, some 3⟩) ::
        [(secondWorld, ⟨4, slotSwitch, some 2⟩)] := crossing_turns
  exact ⟨tagger, hit.holds, previous_tagger crossing_unrecorded beforeSwitches_run
    (by decide +kernel) [] none turns hit afterSwitches_run (legible_players _) e member
    switch tick (actor.trans slot.symm) 1 named⟩

end SwitchRemake.Game

import SwitchRemake.Client.ReplayTotals
import SwitchRemake.Game.PreviousTagger
import SwitchRemake.Game.SessionLedger

/-!
# The analysis agrees with the server

The analysis pairs the events of a tick again. What it counts up to the last frame is what the server
has counted.
-/

namespace SwitchRemake.Game
open Lib Simulation Rooms GameSession Analysis Protocol
open WorldEvent (isKillOf isFallOf isTryOf isHitOf)
open AnalysisEvent (kills buries tries hits)

variable {K : Type}

def replayRecord (e : Nat × WorldEvent K) : RecordedEvent K := ⟨e.1, replayEvent e.2⟩

theorem circle_of_try {id : Nat} {event : WorldEvent K} (tries : isTryOf id event = true) :
    Footage.isSwitchArea (replayEvent event) = true ∧ (replayEvent event).playerId = id := by
  cases event with
  | skillArea area => simpa [Footage.isSwitchArea, replayEvent, isTryOf] using tries
  | tagged playerId source => cases tries
  | eliminated playerId source => cases tries
  | blinked playerId x y => cases tries

/-- A Switch is found again where one went through at the tick. -/
def matchesHit (record other : RecordedEvent K) : Bool :=
  other.tick = record.tick && other.event.kind = .tagged &&
    other.event.taggedBy = some record.event.playerId

theorem matchesHit_iff (record : RecordedEvent K) (e : Nat × WorldEvent K) :
    matchesHit record (replayRecord e) = true ↔
      e.1 = record.tick ∧ isHitOf record.event.playerId e.2 = true := by
  obtain ⟨tick, event⟩ := e
  cases event with
  | tagged playerId source =>
    cases source with
    | none => simp [matchesHit, replayRecord, replayEvent, isHitOf]
    | some source =>
      simp only [matchesHit, replayRecord, replayEvent, isHitOf, Bool.and_eq_true, decide_eq_true_eq,
        Option.some.injEq, and_true]
      exact and_congr_left' decide_eq_true_iff
  | eliminated playerId source => simp [matchesHit, replayRecord, replayEvent, isHitOf]
  | blinked playerId x y => simp [matchesHit, replayRecord, replayEvent, isHitOf]
  | skillArea area => simp [matchesHit, replayRecord, replayEvent, isHitOf]

/-- The hits of a player come at different ticks. -/
theorem hit_unique {kind : WorldEvent K → Bool} {log : List (Nat × WorldEvent K)}
    (once : (ticksOf kind log).Pairwise (· < ·)) {i j : Nat} {a b : Nat × WorldEvent K}
    (first : log[i]? = some a) (second : log[j]? = some b) (hitA : kind a.2 = true)
    (hitB : kind b.2 = true) (same : a.1 = b.1) : i = j := by
  have ordered := List.pairwise_filterMap.mp once
  obtain ⟨inA, rfl⟩ := List.getElem?_eq_some_iff.mp first
  obtain ⟨inB, rfl⟩ := List.getElem?_eq_some_iff.mp second
  have apart (i j : Nat) (hi : i < log.length) (hj : j < log.length) (less : i < j)
      (hitI : kind log[i].2 = true) (hitJ : kind log[j].2 = true) : log[i].1 < log[j].1 :=
    List.pairwise_iff_getElem.mp ordered i j hi hj less _ (if_pos hitI) _ (if_pos hitJ)
  rcases Nat.lt_trichotomy i j with less | equal | less
  · have before := apart i j inA inB less hitA hitB
    omega
  · exact equal
  · have before := apart j i inB inA less hitB hitA
    omega

section Counts
variable [JsNumber K] {f : Footage K} {log : List (Nat × WorldEvent K)}

omit [JsNumber K] in
theorem successOf_some {record : RecordedEvent K} {success : RecordedEvent K × Nat}
    (raw : f.raw = log.map replayRecord) (found : f.successOf record = some success) :
    ∃ e, log[success.2]? = some e ∧ e.1 = record.tick ∧
      isHitOf record.event.playerId e.2 = true := by
  have listed := List.mem_of_find?_eq_some found
  have fits := List.find?_some found
  change matchesHit record success.1 = true at fits
  obtain ⟨record', k⟩ := success
  have at_ := List.mem_zipIdx_iff_getElem?.mp listed
  rw [raw, List.getElem?_map, Option.map_eq_some_iff] at at_
  obtain ⟨e, there, rfl⟩ := at_
  exact ⟨e, there, (matchesHit_iff record e).mp fits⟩

omit [JsNumber K] in
theorem successOf_isSome (raw : f.raw = log.map replayRecord) (record : RecordedEvent K) :
    (f.successOf record).isSome = true ↔
      record.tick ∈ ticksOf (isHitOf record.event.playerId) log := by
  constructor
  · intro some_
    obtain ⟨success, found⟩ := Option.isSome_iff_exists.mp some_
    obtain ⟨e, there, tick, hit⟩ := successOf_some raw found
    exact List.mem_filterMap.mpr ⟨e, List.mem_of_getElem? there, by rw [if_pos hit, tick]⟩
  · intro member
    obtain ⟨e, among, tick, hit⟩ := ticksOf_subset member
    obtain ⟨k, inside, rfl⟩ := List.getElem_of_mem among
    refine List.find?_isSome.mpr ⟨(replayRecord log[k], k), ?_, ?_⟩
    · refine List.mem_zipIdx_iff_getElem?.mpr ?_
      simp [raw, inside]
    · exact (matchesHit_iff record _).mpr ⟨tick, hit⟩

omit [JsNumber K] in
/-- Every change of role by a Switch belongs to the circle of it. -/
theorem secondEvent_assigned (raw : f.raw = log.map replayRecord)
    (paired : ∀ id, Paired (ticksOf (isTryOf id) log) (ticksOf (isHitOf id) log)) :
    ∀ x ∈ f.raw.zipIdx.filterMap f.secondEvent, x.kind = .taggerAssigned := by
  intro x member
  obtain ⟨⟨record, k⟩, listed, made⟩ := List.mem_filterMap.mp member
  have at_ := List.mem_zipIdx_iff_getElem?.mp listed
  rw [raw, List.getElem?_map, Option.map_eq_some_iff] at at_
  obtain ⟨e, there, rfl⟩ := at_
  unfold Footage.secondEvent at made
  dsimp only at made
  split at made
  · cases made
  rename_i open_
  rw [not_or, not_not] at open_
  obtain ⟨kind, free⟩ := open_
  split at made
  · rw [← Option.some.inj made]
  · rename_i source taggedBy
    exfalso
    have hit : isHitOf source e.2 = true := by
      obtain ⟨tick, event⟩ := e
      cases event with
      | tagged playerId by_ =>
        obtain rfl : by_ = some source := taggedBy
        simp [isHitOf]
      | eliminated playerId by_ => cases kind
      | blinked playerId x y => cases kind
      | skillArea area => cases kind
    have among : e.1 ∈ ticksOf (isHitOf source) log :=
      List.mem_filterMap.mpr ⟨e, List.mem_of_getElem? there, if_pos hit⟩
    obtain ⟨cast, castIn, tick, tries⟩ := ticksOf_subset ((paired source).tried _ among)
    obtain ⟨circle, slot⟩ := circle_of_try tries
    have slot' : (replayRecord cast).event.playerId = source := slot
    obtain ⟨success, found⟩ := Option.isSome_iff_exists.mp
      ((successOf_isSome raw (replayRecord cast)).mpr (by
        rw [slot']
        show cast.1 ∈ _
        rw [tick]
        exact among))
    obtain ⟨other, there', tick', hit'⟩ := successOf_some raw found
    rw [slot'] at hit'
    have same : success.2 = k :=
      hit_unique (paired source).through there' there hit' hit (tick'.trans tick)
    refine free (List.mem_filterMap.mpr ⟨replayRecord cast, List.mem_filter.mpr ⟨?_, circle⟩, ?_⟩)
    · rw [raw]
      exact List.mem_map_of_mem castIn
    · rw [found, ← same]
      rfl

/-- What the first loop makes of an event. -/
inductive Shown (f : Footage K) : Nat × WorldEvent K → Option (AnalysisEvent K) → Prop where
  | other {e : Nat × WorldEvent K} {x : Option (AnalysisEvent K)}
      (event : ∀ id, isKillOf id e.2 = false ∧ isFallOf id e.2 = false ∧ isTryOf id e.2 = false)
      (plain : ∀ y ∈ x, y.kind = .exhaust ∨ y.kind = .flash) : Shown f e x
  | elimination {tick victim : Nat} {source : Option Nat} {x : AnalysisEvent K}
      (kind : x.kind = .elimination) (time : x.tick = tick) (actor : x.actorId = source.getD victim)
      (target : x.targetId = some victim) : Shown f (tick, .eliminated victim source) (some x)
  | circle {tick : Nat} {area : SkillArea K} {x : AnalysisEvent K} (skill : area.skill = .switch)
      (time : x.tick = tick) (actor : x.actorId = area.playerId)
      (kind : x.kind = if (f.successOf (replayRecord (tick, .skillArea area))).isSome then .switch
        else .switchMiss) : Shown f (tick, .skillArea area) (some x)

theorem firstEvent_shown (f : Footage K) (e : Nat × WorldEvent K) :
    Shown f e (f.firstEvent (replayRecord e)) := by
  obtain ⟨tick, event⟩ := e
  cases event with
  | tagged playerId source =>
    refine .other (fun id => ⟨rfl, rfl, rfl⟩) fun y made => ?_
    simp [Footage.firstEvent, replayRecord, replayEvent, Footage.isSwitchArea] at made
  | blinked playerId x y =>
    refine .other (fun id => ⟨rfl, rfl, rfl⟩) fun z made => .inr ?_
    simp [Footage.firstEvent, replayRecord, replayEvent, Footage.isSwitchArea] at made
    rw [← made]
  | eliminated victim source =>
    have made : ∃ x, f.firstEvent (replayRecord (tick, .eliminated victim source)) = some x ∧
        x.kind = .elimination ∧ x.tick = tick ∧ x.actorId = source.getD victim ∧
        x.targetId = some victim := by
      simp [Footage.firstEvent, replayRecord, replayEvent, Footage.isSwitchArea]
    obtain ⟨x, made, kind, time, actor, target⟩ := made
    rw [made]
    exact .elimination kind time actor target
  | skillArea area =>
    by_cases switch : area.skill = .switch
    · have made : ∃ x, f.firstEvent (replayRecord (tick, .skillArea area)) = some x ∧
          x.tick = tick ∧ x.actorId = area.playerId ∧
          x.kind = if (f.successOf (replayRecord (tick, .skillArea area))).isSome then .switch
            else .switchMiss := by
        have circle : Footage.isSwitchArea (replayRecord (tick, .skillArea area)).event = true := by
          simp [Footage.isSwitchArea, replayRecord, replayEvent, switch]
        unfold Footage.firstEvent
        dsimp only
        rw [if_pos circle]
        cases f.successOf (replayRecord (tick, .skillArea area)) with
        | none => exact ⟨_, rfl, rfl, rfl, rfl⟩
        | some success => exact ⟨_, rfl, rfl, rfl, rfl⟩
      obtain ⟨x, made, time, actor, kind⟩ := made
      rw [made]
      exact .circle switch time actor kind
    · refine .other (fun id => ⟨rfl, rfl, by simp [isTryOf, switch]⟩) fun y made => .inl ?_
      simp [Footage.firstEvent, replayRecord, replayEvent, Footage.isSwitchArea, switch] at made
      rw [← made.2]

/-- The events that the first loop makes, at the ticks of those they were made of. -/
theorem firstEvents_ticks {g : AnalysisEvent K → Bool} {pick : Nat × WorldEvent K → Option Nat}
    (raw : f.raw = log.map replayRecord)
    (each : ∀ e, ((f.firstEvent (replayRecord e)).filter g).map AnalysisEvent.tick = pick e) :
    ((f.raw.filterMap f.firstEvent).filter g).map AnalysisEvent.tick = log.filterMap pick := by
  rw [raw, List.filterMap_map, List.filter_filterMap, List.map_filterMap]
  exact List.filterMap_congr fun e _ => each e

theorem kills_ticks (raw : f.raw = log.map replayRecord) (id : Nat) :
    ((f.raw.filterMap f.firstEvent).filter (kills id)).map AnalysisEvent.tick =
      ticksOf (isKillOf id) log := by
  refine firstEvents_ticks raw fun e => ?_
  have shown := firstEvent_shown f e
  generalize f.firstEvent (replayRecord e) = made at shown
  cases shown with
  | other event plain =>
    rw [(event id).1]
    cases made with
    | none => rfl
    | some x => rcases plain x rfl with kind | kind <;> simp [kills, kind]
  | @elimination tick victim source x kind time actor target =>
    cases source with
    | none => simp [kills, isKillOf, kind, actor, target]
    | some source =>
      by_cases own : source = id
      · by_cases self : victim = id
        · simp [kills, isKillOf, kind, actor, target, own, self]
        · simp [kills, isKillOf, kind, actor, target, own, self, Ne.symm self, time]
      · simp [kills, isKillOf, kind, actor, own]
  | circle skill time actor kind =>
    split at kind <;> simp [kills, isKillOf, kind]

theorem buries_ticks (raw : f.raw = log.map replayRecord) (id : Nat) :
    ((f.raw.filterMap f.firstEvent).filter (buries id)).map AnalysisEvent.tick =
      ticksOf (isFallOf id) log := by
  refine firstEvents_ticks raw fun e => ?_
  have shown := firstEvent_shown f e
  generalize f.firstEvent (replayRecord e) = made at shown
  cases shown with
  | other event plain =>
    rw [(event id).2.1]
    cases made with
    | none => rfl
    | some x => rcases plain x rfl with kind | kind <;> simp [buries, kind]
  | @elimination tick victim source x kind time actor target =>
    by_cases own : victim = id <;> simp [buries, isFallOf, kind, target, own, time]
  | circle skill time actor kind =>
    split at kind <;> simp [buries, isFallOf, kind]

theorem tries_ticks (raw : f.raw = log.map replayRecord) (id : Nat) :
    ((f.raw.filterMap f.firstEvent).filter (tries id)).map AnalysisEvent.tick =
      ticksOf (isTryOf id) log := by
  refine firstEvents_ticks raw fun e => ?_
  have shown := firstEvent_shown f e
  generalize f.firstEvent (replayRecord e) = made at shown
  cases shown with
  | other event plain =>
    rw [(event id).2.2]
    cases made with
    | none => rfl
    | some x => rcases plain x rfl with kind | kind <;> simp [tries, kind]
  | elimination kind time actor target => simp [tries, isTryOf, kind]
  | @circle tick area x skill time actor kind =>
    by_cases own : area.playerId = id <;> split at kind <;>
      simp [tries, isTryOf, kind, skill, actor, own, time]

theorem hits_ticks (raw : f.raw = log.map replayRecord) (id : Nat) :
    ((f.raw.filterMap f.firstEvent).filter (hits id)).map AnalysisEvent.tick =
      (ticksOf (isTryOf id) log).filter fun tick => tick ∈ ticksOf (isHitOf id) log := by
  have picked : ((ticksOf (isTryOf id) log).filter fun tick => tick ∈ ticksOf (isHitOf id) log) =
      log.filterMap fun e => (if isTryOf id e.2 then some e.1 else none).filter
        fun tick => tick ∈ ticksOf (isHitOf id) log := List.filter_filterMap
  rw [picked]
  refine firstEvents_ticks raw fun e => ?_
  have shown := firstEvent_shown f e
  generalize f.firstEvent (replayRecord e) = made at shown
  cases shown with
  | other event plain =>
    rw [(event id).2.2]
    cases made with
    | none => rfl
    | some x => rcases plain x rfl with kind | kind <;> simp [hits, kind]
  | elimination kind time actor target => simp [hits, isTryOf, kind]
  | @circle tick area x skill time actor kind =>
    by_cases own : area.playerId = id
    · have through := successOf_isSome raw (replayRecord (tick, .skillArea area))
      rw [show (replayRecord (tick, WorldEvent.skillArea area)).event.playerId = id from own] at through
      have tried : isTryOf id (.skillArea area : WorldEvent K) = true := by
        simp [isTryOf, skill, own]
      rw [if_pos tried]
      by_cases found : (f.successOf (replayRecord (tick, .skillArea area))).isSome = true
      · rw [if_pos found] at kind
        have there : tick ∈ ticksOf (isHitOf id) log := through.mp found
        have hit : hits id x = true := by simp [hits, kind, actor, own]
        rw [Option.filter_some_pos hit, Option.filter_some_pos (by simp [there])]
        exact congrArg some time
      · rw [if_neg found] at kind
        have missing : tick ∉ ticksOf (isHitOf id) log := mt through.mpr found
        have miss : hits id x = false := by simp [hits, kind]
        rw [Option.filter_some_neg (by simp [miss]), Option.filter_some_neg (by simp [missing])]
        rfl
    · split at kind <;> simp [hits, isTryOf, kind, skill, actor, own]

/-! ## All events -/

/-- Of what the other loops make, the counters know nothing. -/
structure Plain (g : AnalysisEvent K → Bool) : Prop where
  assigned : ∀ x, x.kind = .taggerAssigned → g x = false
  dash : ∀ x, x.kind = .dash → g x = false

theorem dashEvents_dash (f : Footage K) : ∀ x ∈ f.dashEvents, x.kind = .dash := by
  intro x member
  obtain ⟨state, _, among⟩ := List.mem_flatMap.mp member
  obtain ⟨player, _, rfl⟩ := List.mem_map.mp among
  rfl

theorem events_ticks (raw : f.raw = log.map replayRecord)
    (paired : ∀ id, Paired (ticksOf (isTryOf id) log) (ticksOf (isHitOf id) log))
    {g : AnalysisEvent K → Bool} (plain : Plain g) :
    ((f.events.filter g).map AnalysisEvent.tick).Perm
      (((f.raw.filterMap f.firstEvent).filter g).map AnalysisEvent.tick) := by
  have sorted := (List.perm_insertionSort Footage.eventBefore
    (f.raw.filterMap f.firstEvent ++ f.raw.zipIdx.filterMap f.secondEvent ++ f.dashEvents))
  have second : (f.raw.zipIdx.filterMap f.secondEvent).filter g = [] :=
    List.filter_eq_nil_iff.mpr fun x member =>
      by simp [plain.assigned x (secondEvent_assigned raw paired x member)]
  have third : f.dashEvents.filter g = [] :=
    List.filter_eq_nil_iff.mpr fun x member => by simp [plain.dash x (dashEvents_dash f x member)]
  have kept := (sorted.filter g).map AnalysisEvent.tick
  rwa [List.filter_append, List.filter_append, second, third, List.append_nil, List.append_nil] at kept

theorem firstEvent_tick {record : RecordedEvent K} {x : AnalysisEvent K}
    (made : f.firstEvent record = some x) : x.tick = record.tick := by
  unfold Footage.firstEvent at made
  dsimp only at made
  split_ifs at made
  · split at made <;> rw [← Option.some.inj made]
  all_goals rw [← Option.some.inj made]

omit [JsNumber K] in
theorem secondEvent_tick {record : RecordedEvent K × Nat} {x : AnalysisEvent K}
    (made : f.secondEvent record = some x) : x.tick = record.1.tick := by
  unfold Footage.secondEvent at made
  dsimp only at made
  split_ifs at made
  split at made <;> rw [← Option.some.inj made]

theorem events_past (raw : f.raw = log.map replayRecord) {last : Nat}
    (past : ∀ e ∈ log, e.1 ≤ last) (shown : ∀ state ∈ f.states, state.tick ≤ last) :
    ∀ x ∈ f.events, x.tick ≤ last := by
  have records : ∀ record ∈ f.raw, record.tick ≤ last := by
    rw [raw]
    intro record member
    obtain ⟨e, among, rfl⟩ := List.mem_map.mp member
    exact past e among
  intro x member
  have unsorted := (List.perm_insertionSort _ _).mem_iff.mp member
  rcases List.mem_append.mp unsorted with found | dash
  · rcases List.mem_append.mp found with first | second
    · obtain ⟨record, among, made⟩ := List.mem_filterMap.mp first
      rw [firstEvent_tick made]
      exact records record among
    · obtain ⟨record, among, made⟩ := List.mem_filterMap.mp second
      rw [secondEvent_tick made]
      exact records record.1 (List.mem_of_getElem? (List.mem_zipIdx_iff_getElem?.mp among))
  · obtain ⟨state, among, here⟩ := List.mem_flatMap.mp dash
    obtain ⟨player, _, rfl⟩ := List.mem_map.mp here
    exact shown state.1 (List.mem_of_getElem? (List.mem_zipIdx_iff_getElem?.mp among))

/-- The totals of a player are its counters. -/
structure Tells (totals : PlayerTotals K) (p : PlayerState K) : Prop where
  eliminations : totals.eliminations = p.stats.tagCount
  switchTry : totals.switchTry = p.stats.switchTry
  switchSuccess : totals.switchSuccess = p.stats.switchSuccess
  alive : totals.alive = p.alive
  eliminatedAtTick : totals.eliminatedAtTick = p.stats.eliminatedAtTick

theorem foldl_tells (raw : f.raw = log.map replayRecord)
    (paired : ∀ id, Paired (ticksOf (isTryOf id) log) (ticksOf (isHitOf id) log))
    {p : PlayerState K} (account : Account log p) :
    Tells (f.events.foldl (Footage.credit p.playerId) Footage.emptyTotals) p := by
  have credited := foldl_credited p.playerId Footage.emptyTotals f.events
  have counted (g : AnalysisEvent K → Bool) (plain : Plain g) :
      f.events.countP g = (((f.raw.filterMap f.firstEvent).filter g).map AnalysisEvent.tick).length := by
    rw [← (events_ticks raw paired plain).length_eq, List.length_map, List.countP_eq_length_filter]
  have through : ((ticksOf (isTryOf p.playerId) log).filter
      fun tick => tick ∈ ticksOf (isHitOf p.playerId) log).Perm (ticksOf (isHitOf p.playerId) log) := by
    obtain ⟨once, hit, tried⟩ := paired p.playerId
    refine (List.perm_ext_iff_of_nodup ((once.imp fun less => Nat.ne_of_lt less).filter _)
      (hit.imp fun less => Nat.ne_of_lt less)).mpr fun tick => ?_
    simp only [List.mem_filter, decide_eq_true_eq]
    exact ⟨fun both => both.2, fun member => ⟨tried tick member, member⟩⟩
  have ends : (f.events.filter (buries p.playerId)).map AnalysisEvent.tick =
      p.stats.eliminatedAtTick.toList := by
    have same := events_ticks (g := buries p.playerId) raw paired
      ⟨fun x kind => by simp [buries, kind], fun x kind => by simp [buries, kind]⟩
    rw [buries_ticks raw, account.ends] at same
    cases stats : p.stats.eliminatedAtTick with
    | none =>
      rw [stats] at same
      exact same.eq_nil
    | some tick =>
      rw [stats] at same
      exact List.perm_singleton.mp same
  refine ⟨?_, ?_, ?_, ?_, ?_⟩
  · rw [credited.eliminations, counted _ ⟨fun x kind => by simp [kills, kind],
      fun x kind => by simp [kills, kind]⟩, kills_ticks raw, account.tagCount]
    exact Nat.zero_add _
  · rw [credited.switchTry, counted _ ⟨fun x kind => by simp [tries, kind],
      fun x kind => by simp [tries, kind]⟩, tries_ticks raw, account.switchTry]
    exact Nat.zero_add _
  · rw [credited.switchSuccess, counted _ ⟨fun x kind => by simp [hits, kind],
      fun x kind => by simp [hits, kind]⟩, hits_ticks raw, through.length_eq, account.switchSuccess]
    exact Nat.zero_add _
  · rw [credited.alive, account.alive]
    have none_ : (f.events.filter (buries p.playerId)).isEmpty =
        ((f.events.filter (buries p.playerId)).map AnalysisEvent.tick).isEmpty := by
      rw [List.isEmpty_map]
    rw [none_, ends]
    cases p.stats.eliminatedAtTick <;> rfl
  · rw [credited.eliminatedAtTick, ends]
    cases p.stats.eliminatedAtTick <;> rfl

end Counts

/-! ## A whole record -/

section Record
variable [JsNumber K] {s r : GameSession K} {decode : Snapshot K → Option (List (SnapshotPlayer K))}

variable (decode) in
theorem footage_raw (ledger : Ledger r) :
    (footage (analysisInput r decode)).raw = (loggedIn r.replay).map replayRecord := by
  have sorted : (recordedEvents r.replay).Pairwise fun a b => a.tick ≤ b.tick := by
    rw [recordedEvents_eq]
    exact List.pairwise_map.mpr ledger.sorted
  show sortById RecordedEvent.tick (recordedEvents r.replay) = _
  rw [show sortById RecordedEvent.tick (recordedEvents r.replay) = recordedEvents r.replay from
    List.Pairwise.insertionSort_eq sorted, recordedEvents_eq]
  rfl

variable (decode) in
/-- The last state is the one of the last tick. -/
theorem footage_last (recording : Recording r) (ledger : Ledger r) (isOver : r.finished = true) :
    (footage (analysisInput r decode)).tickAt (footage (analysisInput r decode)).lastFrame =
        r.world.tick ∧
      ∀ state ∈ (footage (analysisInput r decode)).states, state.tick ≤ r.world.tick := by
  have shows := recordedFrames_shows r.roster 0 r.replay
  obtain ⟨ticks, states⟩ := footage_of_ordered (analysisInput r decode) shows
    recording.ordered
  have same : (footage (analysisInput r decode)).states.map FrameState.tick =
      (shownFrames r.replay).map AuthoritativeFrame.tick := by
    rw [← ticks]
    exact statesFrom_ticks _ _ _
  obtain ⟨frame, last, tick⟩ := ledger.closed isOver
  constructor
  · have final : ((footage (analysisInput r decode)).states.map FrameState.tick).getLast? =
        some r.world.tick := by
      rw [same, List.getLast?_map, last, Option.map_some, tick]
    rw [List.getLast?_map, List.getLast?_eq_getElem?] at final
    unfold Footage.tickAt Footage.lastFrame
    rw [final]
    rfl
  · intro state member
    have among : state.tick ∈ (shownFrames r.replay).map AuthoritativeFrame.tick := by
      rw [← same]
      exact List.mem_map_of_mem member
    obtain ⟨shown, inside, equal⟩ := List.mem_map.mp among
    rw [← equal]
    exact recording.past shown inside

theorem totalsAt_tells (recording : Recording r) (ledger : Ledger r) (isOver : r.finished = true)
    {p : PlayerState K} (member : p ∈ r.world.players) :
    Tells ((footage (analysisInput r decode)).totalsAt (footage (analysisInput r decode)).lastFrame
      p.playerId) p := by
  obtain ⟨final, past⟩ := footage_last decode recording ledger isOver
  have raw := footage_raw decode ledger
  generalize footage (analysisInput r decode) = f at final past raw
  have all : (f.events.takeWhile fun e => e.tick ≤ r.world.tick) = f.events :=
    List.takeWhile_eq_self_iff.mpr fun x among =>
      decide_eq_true (events_past raw ledger.past past x among)
  obtain ⟨kills, tries, hits, alive, ends⟩ :=
    foldl_tells raw ledger.paired (ledger.accounts p member)
  unfold Footage.totalsAt Footage.totalsUpTo
  rw [Nat.min_self]
  dsimp only
  rw [final, all]
  exact ⟨kills, tries, hits, alive, ends⟩

/-- A tagger is shown in the states where the frames of the record have one. -/
theorem states_tagged (recording : Recording r)
    (legible : Legible decode (recordedFrames r.roster 0 r.replay)) (i : Nat) :
    (∃ state ∈ (footage (analysisInput r decode)).states[i]?, ∃ p ∈ state.players,
        p.isTagger = true) ↔
      ∃ frame ∈ (shownFrames r.replay)[i]?, ∃ p ∈ frame.world.players,
        p.alive = true ∧ p.isTagger = true := by
  have shows := recordedFrames_shows r.roster 0 r.replay
  obtain ⟨_, states⟩ := footage_of_ordered (analysisInput r decode) shows
    recording.ordered
  have written (i : Nat) (inside : i < (recordedFrames r.roster 0 r.replay).length)
      (inside' : i < (shownFrames r.replay).length) := shows.get inside inside'
  have readable : ∀ frame ∈ recordedFrames r.roster 0 r.replay,
      (decode frame.content).isSome := by
    intro frame member
    obtain ⟨i, inside, rfl⟩ := List.getElem_of_mem member
    obtain ⟨read, decoded, _⟩ := legible _ member _
      (written i inside (by rw [← shows.length_eq]; exact inside)).players
    exact Option.isSome_iff_exists.mpr ⟨read, decoded⟩
  have reads := statesFrom_reads readable []
  rw [states]
  change (∃ state ∈ (statesFrom decode [] (recordedFrames r.roster 0 r.replay))[i]?, _) ↔ _
  by_cases inside : i < (recordedFrames r.roster 0 r.replay).length
  · have inStates : i < (statesFrom decode [] (recordedFrames r.roster 0 r.replay)).length :=
      reads.length_eq ▸ inside
    have inShown : i < (shownFrames r.replay).length := shows.length_eq ▸ inside
    obtain ⟨read, decoded, players⟩ := reads.get inStates inside
    rw [List.get_eq_getElem] at players
    obtain ⟨read', decoded', same⟩ := legible _ (List.getElem_mem inside) _
      (written i inside inShown).players
    obtain rfl : read = read' := Option.some.inj (decoded.symm.trans decoded')
    have flags := congrArg (List.map Prod.snd) same
    simp only [List.map_map, Function.comp_def] at flags
    rw [List.getElem?_eq_getElem inStates, List.getElem?_eq_getElem inShown]
    simp only [Option.mem_some_iff, exists_eq_left']
    constructor
    · rintro ⟨sample, member, flag⟩
      rw [players, mem_sortById] at member
      obtain ⟨p, among, rfl⟩ := List.mem_map.mp member
      have flagged : true ∈ read.map SnapshotPlayer.isTagger := List.mem_map.mpr ⟨p, among, flag⟩
      rw [flags] at flagged
      obtain ⟨q, there, up⟩ := List.mem_map.mp flagged
      obtain ⟨there, alive⟩ := List.mem_filter.mp there
      exact ⟨q, there, alive, up⟩
    · rintro ⟨q, there, alive, up⟩
      have flagged : true ∈ read.map SnapshotPlayer.isTagger := by
        rw [flags]
        exact List.mem_map.mpr ⟨q, List.mem_filter.mpr ⟨there, alive⟩, up⟩
      obtain ⟨p, among, flag⟩ := List.mem_map.mp flagged
      refine ⟨toSample p, ?_, flag⟩
      rw [players, mem_sortById]
      exact List.mem_map_of_mem among
  · rw [List.getElem?_eq_none (by rw [reads.length_eq]; omega),
      List.getElem?_eq_none (by rw [← shows.length_eq]; omega)]
    simp

/-- What an analysis says of a match is what the server says. -/
structure Agrees (decode : Snapshot K → Option (List (SnapshotPlayer K)))
    (analysis : ReplayAnalysis K) (s : GameSession K) : Prop where
  participants : ∀ i, ((analysis.totalsAt i).map Prod.fst).Perm
    (s.identities.map Participant.playerId)
  numbers : ∀ entry ∈ analysis.totalsAt (analysis.states.length - 1), ∀ p ∈ s.world.players,
    p.playerId = entry.1 → Tells entry.2 p
  nonempty : ∀ segment ∈ analysis.taggerSegments, segment.startFrame < segment.endFrame
  apart : analysis.taggerSegments.Pairwise fun a b => a.endFrame ≤ b.startFrame
  covers : ∀ i,
    (∃ segment ∈ analysis.taggerSegments, segment.startFrame ≤ i ∧ i < segment.endFrame) ↔
      ∃ state ∈ analysis.states[i]?, ∃ p ∈ state.players, p.isTagger = true
  shows : Legible decode (recordedFrames s.roster 0 s.replay) → ∀ i,
    (∃ segment ∈ analysis.taggerSegments, segment.startFrame ≤ i ∧ i < segment.endFrame) ↔
      ∃ frame ∈ (shownFrames s.replay)[i]?, ∃ p ∈ frame.world.players,
        p.alive = true ∧ p.isTagger = true
  monotone : ∀ i j, i ≤ j →
    List.Forall₂ (fun a b => a.1 = b.1 ∧ a.2.Below b.2) (analysis.totalsAt i) (analysis.totalsAt j)

theorem taggerIn_isSome (state : FrameState) :
    (Footage.taggerIn state).isSome = true ↔ ∃ p ∈ state.players, p.isTagger = true := by
  simp [Footage.taggerIn]

omit [JsNumber K] in
theorem segments_cover (f : Footage K) (i : Nat) :
    (∃ segment ∈ f.taggerSegments, segment.startFrame ≤ i ∧ i < segment.endFrame) ↔
      ∃ state ∈ f.states[i]?, ∃ p ∈ state.players, p.isTagger = true := by
  have covers := f.taggerSegments_segmented.covers i
  constructor
  · rintro ⟨segment, member, low, high⟩
    obtain ⟨_, shown⟩ := (covers segment.playerId).mp ⟨segment, member, rfl, low, high⟩
    obtain ⟨state, here, tagger⟩ := Option.bind_eq_some_iff.mp shown
    exact ⟨state, here, (taggerIn_isSome state).mp (Option.isSome_iff_exists.mpr ⟨_, tagger⟩)⟩
  · rintro ⟨state, here, flagged⟩
    obtain ⟨id, tagger⟩ := Option.isSome_iff_exists.mp ((taggerIn_isSome state).mpr flagged)
    obtain ⟨inside, _⟩ := List.getElem?_eq_some_iff.mp here
    obtain ⟨segment, member, _, low, high⟩ :=
      (covers id).mpr ⟨inside, Option.bind_eq_some_iff.mpr ⟨state, here, tagger⟩⟩
    exact ⟨segment, member, low, high⟩

/-- At the end of every match that was recorded completely, the analysis agrees with the server. -/
theorem analysis_agrees [CountingNumber K] [MeasuredNumber K] (begins : Uncounted s)
    (run : Recorded s r) (isOver : r.finished = true)
    (decode : Snapshot K → Option (List (SnapshotPlayer K))) :
    Agrees decode (buildReplayAnalysis (analysisInput r decode)) r := by
  have recording := run.recording begins.toUnrecorded
  have ledger := run.ledger begins
  refine ⟨fun i => ?_, ?_, ?_, ?_, ?_, ?_, ?_⟩
  · show (List.map Prod.fst (List.map _ (sortById (fun id => id) _))).Perm _
    rw [List.map_map]
    exact (List.map_id'' (fun _ => rfl) _).symm ▸ sortById_perm _ _
  · intro entry member p inside slot
    obtain ⟨id, _, rfl⟩ := List.mem_map.mp member
    obtain rfl : p.playerId = id := slot
    exact totalsAt_tells recording ledger isOver inside
  · exact (footage (analysisInput r decode)).taggerSegments_segmented.nonempty
  · exact (footage (analysisInput r decode)).taggerSegments_segmented.apart
  · exact segments_cover _
  · intro legible i
    exact (segments_cover _ i).trans (states_tagged recording legible i)
  · intro i j order
    refine List.forall₂_map_left_iff.mpr (List.forall₂_map_right_iff.mpr ?_)
    exact List.forall₂_same.mpr fun id _ =>
      ⟨rfl, Footage.totalsAt_mono (footage_ordered _) id order⟩

end Record

/-- Two Switches in one tick, and two departures that end the match. -/
theorem analysis_agrees_crossing : Agrees Snapshot.players
    (buildReplayAnalysis (analysisInput afterSwitches Snapshot.players)) afterSwitches := by
  have begins : Uncounted crossing := ⟨crossing_unrecorded, rfl, by decide +kernel⟩
  have turn : Recorded beforeSwitches (RecordedOp.apply beforeSwitches (.tick [] none)) :=
    .step .refl trivial
  exact analysis_agrees begins ((beforeSwitches_run.trans turn).trans afterSwitches_run)
    (by decide +kernel) Snapshot.players

/-- As `startGame` leaves it, a match has counted nothing. -/
theorem startGame_uncounted [JsNumber K] {h started : HostedRoom K} {env : StartEnv K}
    {snapshot : RoomStartSnapshot} (mode : snapshot.mode = RoomMode.match)
    (distinct : snapshot.playerIds.Nodup) (begins : h.startGame env snapshot = some started) :
    ∃ game, started.session = some ⟨h.serials, game⟩ ∧ Uncounted game := by
  obtain ⟨game, session, unrecorded⟩ := startGame_unrecorded mode distinct begins
  unfold HostedRoom.startGame at begins
  simp only [mode, reduceCtorEq, if_false, List.append_nil] at begins
  obtain ⟨world, drawn, rfl⟩ := Option.map_eq_some_iff.mp begins
  obtain rfl := (Registered.mk.inj (Option.some.inj session)).2
  refine ⟨_, rfl, unrecorded, rfl, ?_⟩
  obtain ⟨tagger, _, state, rfl⟩ := drawTagger_some drawn
  intro p member
  obtain ⟨q, before, rfl⟩ := List.mem_map.mp member
  obtain ⟨alive, _, stats, _⟩ := placePlayers_mem before
  split <;> exact ⟨alive, stats⟩

end SwitchRemake.Game

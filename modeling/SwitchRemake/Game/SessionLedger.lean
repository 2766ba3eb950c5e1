import SwitchRemake.Game.SessionRecorder
import SwitchRemake.Simulation.Ledger

/-!
# The ledger of a match

What the events of a record say of a player, from the first to the last of them, is what its
counters have become.
-/

namespace SwitchRemake.Game
open Lib Simulation GameSession Analysis Protocol
open WorldEvent (isKillOf isFallOf isTryOf isHitOf)

variable {K : Type}

/-! ## The log -/

/-- The events of a record with their ticks. -/
def ReplayCall.logged : ReplayCall K → List (Nat × WorldEvent K)
  | .events tick told => told.map fun event => (tick, event)
  | _ => []

def loggedIn (calls : List (ReplayCall K)) : List (Nat × WorldEvent K) :=
  calls.flatMap ReplayCall.logged

theorem recordedEvents_eq (calls : List (ReplayCall K)) :
    recordedEvents calls = (loggedIn calls).map fun e => ⟨e.1, replayEvent e.2⟩ := by
  rw [recordedEvents, loggedIn, List.map_flatMap]
  congr 1
  funext call
  cases call <;> simp [ReplayCall.told, ReplayCall.logged]

/-- When the events of a kind happened. -/
def ticksOf (kind : WorldEvent K → Bool) (log : List (Nat × WorldEvent K)) : List Nat :=
  log.filterMap fun e => if kind e.2 then some e.1 else none

theorem ticksOf_append (kind : WorldEvent K → Bool) (log more : List (Nat × WorldEvent K)) :
    ticksOf kind (log ++ more) = ticksOf kind log ++ ticksOf kind more :=
  List.filterMap_append

theorem ticksOf_tick (kind : WorldEvent K → Bool) (tick : Nat) (events : List (WorldEvent K)) :
    ticksOf kind (events.map fun event => (tick, event)) =
      List.replicate (events.countP kind) tick := by
  induction events with
  | nil => rfl
  | cons event rest ih =>
    cases hit : kind event with
    | true => simpa [ticksOf, hit, List.replicate_succ] using ih
    | false => simpa [ticksOf, hit] using ih

theorem ticksOf_subset {kind : WorldEvent K → Bool} {log : List (Nat × WorldEvent K)} {tick : Nat}
    (member : tick ∈ ticksOf kind log) : ∃ e ∈ log, e.1 = tick ∧ kind e.2 = true := by
  obtain ⟨e, among, made⟩ := List.mem_filterMap.mp member
  split at made
  · exact ⟨e, among, Option.some.inj made, ‹_›⟩
  · cases made

/-- A player whose counters are those of a log. -/
structure Account (log : List (Nat × WorldEvent K)) (p : PlayerState K) : Prop where
  tagCount : p.stats.tagCount = (ticksOf (isKillOf p.playerId) log).length
  switchTry : p.stats.switchTry = (ticksOf (isTryOf p.playerId) log).length
  switchSuccess : p.stats.switchSuccess = (ticksOf (isHitOf p.playerId) log).length
  ends : ticksOf (isFallOf p.playerId) log = p.stats.eliminatedAtTick.toList
  alive : p.alive = p.stats.eliminatedAtTick.isNone

theorem Account.posted {log : List (Nat × WorldEvent K)} {tick : Nat}
    {events : List (WorldEvent K)} {p q : PlayerState K} (account : Account log p)
    (posted : Posted tick events p q) :
    Account (log ++ events.map fun event => (tick, event)) q := by
  obtain ⟨kills, tries, hits, ends, alive⟩ := account
  have length (kind : WorldEvent K → Bool) :
      (ticksOf kind (log ++ events.map fun event => (tick, event))).length =
        (ticksOf kind log).length + events.countP kind := by
    rw [ticksOf_append, ticksOf_tick, List.length_append, List.length_replicate]
  refine ⟨?_, ?_, ?_, ?_, ?_⟩
  · rw [length, posted.slot, posted.tagCount, kills]
  · rw [length, posted.slot, posted.switchTry, tries]
  · rw [length, posted.slot, posted.switchSuccess, hits]
  · rw [ticksOf_append, ticksOf_tick, posted.slot, ends]
    rcases posted.lives with ⟨zero, _, same⟩ | ⟨one, lived, _, fell⟩
    · rw [zero, same, List.replicate_zero, List.append_nil]
    · rw [alive, Option.isNone_iff_eq_none] at lived
      rw [one, lived, fell]
      rfl
  · rcases posted.lives with ⟨_, lives, same⟩ | ⟨_, _, dead, fell⟩
    · rw [lives, same, alive]
    · rw [dead, fell]
      rfl

/-- The ticks at which a player tried its Switch, and those at which it went through. -/
structure Paired (tries hits : List Nat) : Prop where
  once : tries.Pairwise (· < ·)
  through : hits.Pairwise (· < ·)
  tried : ∀ tick ∈ hits, tick ∈ tries

theorem Paired.still {tries hits : List Nat} (paired : Paired tries hits) {tick a b : Nat}
    (fewTries : a = 0) (fewHits : b = 0) :
    Paired (tries ++ List.replicate a tick) (hits ++ List.replicate b tick) := by
  rw [fewTries, fewHits, List.replicate_zero, List.append_nil, List.append_nil]
  exact paired

theorem Paired.next {tries hits : List Nat} (paired : Paired tries hits) {tick a b : Nat}
    (later : ∀ t ∈ tries, t < tick) (tried : b ≤ a) (few : a ≤ 1) :
    Paired (tries ++ List.replicate a tick) (hits ++ List.replicate b tick) := by
  have after (xs : List Nat) (n : Nat) (few : n ≤ 1) (order : xs.Pairwise (· < ·))
      (below : ∀ t ∈ xs, t < tick) : (xs ++ List.replicate n tick).Pairwise (· < ·) := by
    refine List.pairwise_append.mpr ⟨order, ?_, fun t member u last => ?_⟩
    · rcases Nat.le_one_iff_eq_zero_or_eq_one.mp few with rfl | rfl
      · exact .nil
      · exact List.pairwise_singleton _ _
    · rw [(List.mem_replicate.mp last).2]
      exact below t member
  refine ⟨after _ _ few paired.once later, after _ _ (tried.trans few) paired.through
    fun t member => later t (paired.tried t member), fun t member => ?_⟩
  rcases List.mem_append.mp member with before | last
  · exact List.mem_append_left _ (paired.tried t before)
  · obtain ⟨some_, rfl⟩ := List.mem_replicate.mp last
    exact List.mem_append_right _ (List.mem_replicate.mpr ⟨by omega, rfl⟩)

/-! ## One operation -/

section Operations
variable [JsNumber K] {s r : GameSession K} {v : World K} {events : List (WorldEvent K)}

/-- The events of an operation: those of a new tick, or of a departure, which is no skill. -/
structure Enters (s : GameSession K) (v : World K) (events : List (WorldEvent K)) : Prop where
  each : Each (Posted v.tick events) s.world v
  clock : v.tick = s.world.tick + 1 ∧ TriedOnce events ∨
    v.tick = s.world.tick ∧ ∀ id, events.countP (isTryOf id) = 0 ∧ events.countP (isHitOf id) = 0

theorem afterDeparture_posted {playerId : Nat} {p : PlayerState K}
    (distinct : DistinctIds s.world.players)
    (found : (s.world.find playerId).filter PlayerState.alive = some p) :
    Enters s (s.afterDeparture playerId).1.world (s.afterDeparture playerId).2 := by
  obtain ⟨looked, lived⟩ := Option.filter_eq_some_iff.mp found
  obtain ⟨member, rfl⟩ := find_some looked
  have left : Each (Posted s.world.tick [.eliminated p.playerId none]) s.world
      (disconnectPlayer s.world p.playerId) := by
    refine each_map rfl fun q there => ?_
    split
    · rename_i same
      obtain rfl := List.inj_on_of_nodup_map distinct there member same
      refine ⟨rfl, ?_, ?_, ?_, .inr ⟨?_, lived, rfl, rfl⟩⟩ <;>
        simp [withStats, isKillOf, isTryOf, isHitOf, isFallOf]
    · rename_i other
      refine ⟨rfl, ?_, ?_, ?_, .inl ⟨?_, rfl, rfl⟩⟩ <;>
        simp [isKillOf, isTryOf, isHitOf, isFallOf, Ne.symm other]
  rcases afterDeparture_eq s p.playerId with same | ⟨picked, _, state, same⟩
  · rw [same]
    exact ⟨left, .inr ⟨rfl, by simp [isTryOf, isHitOf]⟩⟩
  · rw [same]
    exact ⟨Posted.each_trans left (handTo_posted _ _ _), .inr ⟨rfl, by simp [isTryOf, isHitOf]⟩⟩

theorem Happens.enters [CountingNumber K] (happens : Happens s v events)
    (distinct : DistinctIds s.world.players) : Enters s v events := by
  cases happens with
  | step requests =>
    have tallied := stepWorld_tallied distinct requests
    generalize stepWorld s.world requests = stepped at tallied ⊢
    obtain ⟨clock, each, once⟩ := tallied
    change stepped.world.tick = s.world.tick + 1 at clock
    refine ⟨?_, .inl ⟨clock, once⟩⟩
    rw [clock]
    exact each
  | departure found => exact afterDeparture_posted distinct found

/-! ## A run -/

/-- The counters of a match are those of its record, and its last frame shows its end. -/
structure Ledger (s : GameSession K) : Prop where
  distinct : DistinctIds s.world.players
  sorted : (loggedIn s.replay).Pairwise fun a b => a.1 ≤ b.1
  past : ∀ e ∈ loggedIn s.replay, e.1 ≤ s.world.tick
  accounts : ∀ p ∈ s.world.players, Account (loggedIn s.replay) p
  paired : ∀ id, Paired (ticksOf (isTryOf id) (loggedIn s.replay))
    (ticksOf (isHitOf id) (loggedIn s.replay))
  closed : s.finished = true →
    ∃ frame ∈ (shownFrames s.replay).getLast?, frame.tick = s.world.tick

theorem Records.ledger [CountingNumber K] (records : Records s r) (ledger : Ledger s) :
    Ledger r := by
  cases records with
  | silent replay clock finished each =>
    refine ⟨each.distinct (fun _ _ same => same.slot) ledger.distinct, ?_, ?_, ?_, ?_, ?_⟩
    · rw [replay]
      exact ledger.sorted
    · rw [replay, clock]
      exact ledger.past
    · rw [replay]
      intro q member
      obtain ⟨p, before, slot, alive, _, stats⟩ := each.exists_left member
      obtain ⟨kills, tries, hits, ends, lives⟩ := ledger.accounts p before
      refine ⟨?_, ?_, ?_, ?_, ?_⟩
      · rw [stats, slot, kills]
      · rw [stats, slot, tries]
      · rw [stats, slot, hits]
      · rw [stats, slot, ends]
      · rw [stats, alive, lives]
    · rw [replay]
      exact ledger.paired
    · rw [replay, clock, finished]
      exact ledger.closed
  | @told events frames happens replay shown =>
    obtain ⟨each, clock⟩ := happens.enters ledger.distinct
    have quiet : loggedIn frames = [] := by
      rcases shown with ⟨rfl, _⟩ | ⟨call, frame, rfl, shows, _⟩
      · rfl
      · cases call with
        | snapshotTick _ _ => rfl
        | finalFrame _ _ => rfl
        | events _ _ => cases shows
        | abort _ => cases shows
    have log : loggedIn r.replay =
        loggedIn s.replay ++ events.map fun event => (r.world.tick, event) := by
      have split : loggedIn r.replay = loggedIn s.replay ++
          ((events.map fun event => (r.world.tick, event)) ++ loggedIn frames) := by
        rw [replay]
        simp [loggedIn, ReplayCall.logged]
      rw [split, quiet, List.append_nil]
    have past : ∀ e ∈ loggedIn s.replay, e.1 ≤ r.world.tick := fun e member =>
      (ledger.past e member).trans happens.clock
    refine ⟨each.distinct (fun _ _ posted => posted.slot) ledger.distinct, ?_, ?_, ?_, ?_, ?_⟩
    · rw [log]
      refine List.pairwise_append.mpr ⟨ledger.sorted, ?_, fun a before b last => ?_⟩
      · exact List.pairwise_map.mpr (List.pairwise_of_forall fun _ _ => Nat.le_refl _)
      · obtain ⟨event, _, rfl⟩ := List.mem_map.mp last
        exact past a before
    · rw [log]
      intro e member
      rcases List.mem_append.mp member with before | last
      · exact past e before
      · obtain ⟨event, _, rfl⟩ := List.mem_map.mp last
        exact Nat.le_refl _
    · rw [log]
      intro q member
      obtain ⟨p, before, posted⟩ := each.exists_left member
      exact (ledger.accounts p before).posted posted
    · intro id
      rw [log, ticksOf_append, ticksOf_append, ticksOf_tick, ticksOf_tick]
      rcases clock with ⟨clock, once⟩ | ⟨_, without⟩
      · refine (ledger.paired id).next (fun tick member => ?_) (once id).1 (once id).2
        obtain ⟨e, among, rfl, _⟩ := ticksOf_subset member
        rw [clock]
        exact Nat.lt_succ_of_le (ledger.past e among)
      · exact (ledger.paired id).still (without id).1 (without id).2
    · intro isOver
      rcases shown with ⟨_, goesOn⟩ | ⟨call, frame, rfl, shows, tick, _⟩
      · rw [goesOn] at isOver
        cases isOver
      · refine ⟨frame, ?_, tick⟩
        have same : shownFrames r.replay = shownFrames s.replay ++ [frame] := by
          rw [replay, ← shownFrames_told shows]
          exact List.filterMap_append
        rw [same]
        simp

/-- A match that begins: everybody lives, and nothing is counted yet. -/
structure Uncounted (s : GameSession K) : Prop extends Unrecorded s where
  running : s.finished = false
  players : ∀ p ∈ s.world.players, p.alive = true ∧ p.stats = emptyStats

theorem Recorded.ledger [CountingNumber K] (begins : Uncounted s) (run : Recorded s r) :
    Ledger r := by
  have empty : loggedIn s.replay = [] := by
    rw [begins.replay]
    rfl
  obtain ⟨h, held⟩ := begins.held
  have start : Ledger s := by
    refine ⟨held.1, ?_, ?_, fun p member => ?_, fun id => ?_, fun isOver => ?_⟩
    · rw [empty]
      exact .nil
    · rw [empty]
      exact nofun
    · obtain ⟨alive, stats⟩ := begins.players p member
      rw [empty]
      refine ⟨?_, ?_, ?_, ?_, ?_⟩ <;> simp [stats, alive, emptyStats, ticksOf]
    · rw [empty]
      exact ⟨.nil, .nil, nofun⟩
    · rw [begins.running] at isOver
      cases isOver
  exact Reach.invariant start (fun t op ledger _ => (op.records t).ledger ledger) run

end Operations

end SwitchRemake.Game

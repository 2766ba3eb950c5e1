import SwitchRemake.Supervisor.Draining
import Mathlib.Tactic.Linarith

/-!
# Up and down under an unchanged load

The reads show the active servers with loads of a fixed sum. A load that is too high for `n` servers
must not be too low for `n + 1` of them.
-/

namespace SwitchRemake.Supervisor
open Lib

variable {localeCompare : String → String → Ordering} {policy : ScalingPolicy} {f g : Fleet}
  {t : Tick} {T : ℚ}

namespace Fleet

/-- The heartbeats of a read are those of servers that have come up, and no active one is missing. -/
structure Shows (f : Fleet) (servers : List GameServerHeartbeat) : Prop where
  shown : ∀ s ∈ f.running, s.stage = .active →
    ∃ server ∈ servers, server.serverId = s.serverId ∧ server.draining = false
  up : ∀ server ∈ servers, ∃ s ∈ f.running, s.serverId = server.serverId ∧
    s.stage = if server.draining then .draining else .active

instance (f : Fleet) (servers : List GameServerHeartbeat) : Decidable (f.Shows servers) :=
  decidable_of_iff ((∀ s ∈ f.running, s.stage = .active →
      ∃ server ∈ servers, server.serverId = s.serverId ∧ server.draining = false) ∧
      ∀ server ∈ servers, ∃ s ∈ f.running, s.serverId = server.serverId ∧
        s.stage = if server.draining then .draining else .active)
    ⟨fun ⟨a, b⟩ => ⟨a, b⟩, fun ⟨a, b⟩ => ⟨a, b⟩⟩

/-- Every read shows the fleet. -/
def Truthful (f : Fleet) (op : Op) : Prop :=
  f.Possible op ∧ match op with
    | .tick t => ∀ servers ∈ t.read, f.Shows servers
    | _ => True

instance (f : Fleet) : ∀ op, Decidable (f.Truthful op)
  | .tick _ => inferInstanceAs (Decidable (_ ∧ ∀ _ ∈ _, _))
  | .comesUp _ => inferInstanceAs (Decidable (_ ∧ True))
  | .drains _ => inferInstanceAs (Decidable (_ ∧ True))
  | .exit _ => inferInstanceAs (Decidable (_ ∧ True))
  | .joins _ => inferInstanceAs (Decidable (_ ∧ True))

/-- And the active servers have the load `T` between them. -/
def Steady (T : ℚ) (f : Fleet) (op : Op) : Prop :=
  f.Truthful op ∧ match op with
    | .tick t => ∀ servers ∈ t.read,
      ((servers.filter fun server => !server.draining).map serverLoad).sum = T
    | _ => True

instance (T : ℚ) (f : Fleet) : ∀ op, Decidable (f.Steady T op)
  | .tick _ => inferInstanceAs (Decidable (_ ∧ ∀ _ ∈ _, _))
  | .comesUp _ => inferInstanceAs (Decidable (_ ∧ True))
  | .drains _ => inferInstanceAs (Decidable (_ ∧ True))
  | .exit _ => inferInstanceAs (Decidable (_ ∧ True))
  | .joins _ => inferInstanceAs (Decidable (_ ∧ True))

def coming (f : Fleet) : List Server := f.running.filter fun s => s.stage = .starting

def active (f : Fleet) : List Server := f.running.filter fun s => s.stage = .active

def live (f : Fleet) : List Server := f.running.filter fun s => s.stage ≠ .draining

/-- The live ones that were not told to drain. -/
def staying (f : Fleet) : List Server := f.running.filter fun s => s.stage ≠ .draining ∧ !s.told

end Fleet

/-! ## What a truthful read says -/

/-- A child whose heartbeat has been seen has come up, and the servers of others are up from the
start. -/
structure Known (policy : ScalingPolicy) (f : Fleet) : Prop where
  kept : Kept policy f
  seen : ∀ child ∈ f.children.entries, child.seen = true →
    ∀ s ∈ f.running, s.serverId = child.serverId → s.stage ≠ .starting
  own : ∀ s ∈ f.running, s.stage = .starting → s.own = true

theorem live_length (f : Fleet) : f.live.length = f.active.length + f.coming.length := by
  simp only [Fleet.live, Fleet.active, Fleet.coming]
  induction f.running with
  | nil => rfl
  | cons s rest ih =>
    simp only [ne_eq, decide_not] at ih
    cases stage : s.stage <;> simp [stage, ih] <;> omega

theorem active_length {servers : List GameServerHeartbeat} (ids : f.ids.Nodup)
    (distinct : (servers.map GameServerHeartbeat.serverId).Nodup) (shows_ : f.Shows servers) :
    (servers.filter fun server => !server.draining).length = f.active.length := by
  have one : ((servers.filter fun server => !server.draining).map
      GameServerHeartbeat.serverId).Nodup :=
    distinct.sublist (List.filter_sublist.map _)
  have two : (f.active.map Server.serverId).Nodup := ids.sublist (List.filter_sublist.map _)
  have same : ∀ id, id ∈ (servers.filter fun server => !server.draining).map
      GameServerHeartbeat.serverId ↔ id ∈ f.active.map Server.serverId := by
    intro id
    simp only [List.mem_map, Fleet.active, List.mem_filter, decide_eq_true_eq]
    constructor
    · rintro ⟨server, ⟨here, awake⟩, rfl⟩
      obtain ⟨s, member, same, stage⟩ := shows_.up server here
      simp only [Bool.not_eq_true'] at awake
      rw [awake] at stage
      exact ⟨s, ⟨member, stage⟩, same⟩
    · rintro ⟨s, ⟨member, stage⟩, rfl⟩
      obtain ⟨server, here, same, awake⟩ := shows_.shown s member stage
      exact ⟨server, ⟨here, by simp [awake]⟩, same⟩
  simpa using ((List.perm_ext_iff_of_nodup one two).mpr same).length_eq

theorem Known.marked (known : Known policy f) {servers : List GameServerHeartbeat}
    (shows_ : f.Shows servers) : Known policy (f.marked servers) where
  kept := known.kept.marked servers
  seen := by
    intro child member seen s here same
    obtain ⟨before, old, rfl⟩ := List.mem_map.mp member
    simp only [Fleet.mark, Bool.or_eq_true, List.any_eq_true, decide_eq_true_eq] at seen
    rcases seen with seen | ⟨server, heard, named⟩
    · exact known.seen before old seen s here same
    · obtain ⟨s', here', same', stage⟩ := shows_.up server heard
      have equal : s = s' := List.inj_on_of_nodup_map known.kept.ids here here'
        (same.trans (named.symm.trans same'.symm))
      rw [equal, stage]
      split <;> exact fun h => by cases h
  own := known.own

theorem coming_le (known : Known policy f) : f.coming.length ≤ f.starting := by
  have ids : (f.coming.map Server.serverId).Nodup :=
    known.kept.ids.sublist (List.filter_sublist.map _)
  have inside : f.coming.map Server.serverId ⊆
      (f.children.filter fun child => !child.seen).entries.map Child.serverId := by
    intro id member
    obtain ⟨s, comes, rfl⟩ := List.mem_map.mp member
    obtain ⟨here, stage⟩ := List.mem_filter.mp comes
    simp only [decide_eq_true_eq] at stage
    have named : s.serverId ∈ f.children.entries.map Child.serverId := by
      rw [known.kept.children]
      exact List.mem_map.mpr ⟨s, List.mem_filter.mpr ⟨here, known.own s here stage⟩, rfl⟩
    obtain ⟨child, member, same⟩ := List.mem_map.mp named
    refine List.mem_map.mpr ⟨child, KeyedList.mem_filter.mpr ⟨member, ?_⟩, same⟩
    cases seen : child.seen with
    | false => rfl
    | true => exact absurd stage (known.seen child member seen s here same.symm)
  have count := (List.subperm_of_subset ids inside).length_le
  rwa [List.length_map, List.length_map] at count


theorem Known.tick (valid : policy.Valid) (known : Known policy f)
    (may : f.Truthful (.tick t)) : Known policy (f.tick localeCompare policy t) := by
  have kept : Kept policy (f.tick localeCompare policy t) := known.kept.tick valid may.1.2
  have step := tick_ticks localeCompare policy f t
  generalize f.tick localeCompare policy t = after at kept step ⊢
  cases step with
  | unread => exact known
  | hold read => exact known.marked (may.2 _ read)
  | @up servers reason read decides =>
    have before := known.marked (may.2 _ read)
    refine ⟨kept, ?_, ?_⟩
    · intro child member seen s here same
      rcases KeyedList.mem_set.mp member with rfl | ⟨old, other⟩
      · cases seen
      · rcases List.mem_append.mp here with here | new
        · exact before.seen child old seen s here same
        · rw [List.mem_singleton] at new
          rw [new] at same
          exact absurd same.symm other
    · intro s here stage
      rcases List.mem_append.mp here with here | new
      · exact before.own s here stage
      · rw [List.mem_singleton] at new
        rw [new]
  | @down servers serverId reason children read decides same seen =>
    have before := known.marked (may.2 _ read)
    have stage_of : ∀ s ∈ (f.sendDrain serverId t.sent).running,
        ∃ old ∈ f.running, old.serverId = s.serverId ∧ old.own = s.own ∧ old.stage = s.stage := by
      intro s here
      obtain ⟨old, member, rfl⟩ := List.mem_map.mp here
      refine ⟨old, member, ?_⟩
      split <;> exact ⟨rfl, rfl, rfl⟩
    refine ⟨kept, ?_, ?_⟩
    · intro child member shown s here named
      obtain ⟨old, there, same, marked⟩ := seen child member
      obtain ⟨s', here', same', _, stage⟩ := stage_of s here
      rw [← stage]
      exact before.seen old there (marked.trans shown) s' here' (same'.trans (named.trans same.symm))
    · intro s here starts
      obtain ⟨s', here', _, own, stage⟩ := stage_of s here
      rw [← own]
      exact known.own s' here' (stage.trans starts)

theorem Known.turns (known : Known policy f) (server : Server) {stage : Stage}
    (turns : stage ≠ .starting) : Known policy (f.turns server stage) := by
  have before : ∀ s ∈ (f.turns server stage).running, ∃ old ∈ f.running,
      old.serverId = s.serverId ∧ old.own = s.own ∧ (s.stage = .starting → old.stage = .starting) := by
    intro s here
    obtain ⟨old, member, rfl⟩ := List.mem_map.mp here
    refine ⟨old, member, ?_⟩
    split
    · exact ⟨rfl, rfl, fun same => absurd same turns⟩
    · exact ⟨rfl, rfl, id⟩
  refine ⟨known.kept.renew (renews_stage server stage) rfl, ?_, ?_⟩
  · intro child member shown s here named starts
    obtain ⟨old, there, same, _, back⟩ := before s here
    exact known.seen child member shown old there (same.trans named) (back starts)
  · intro s here starts
    obtain ⟨old, there, _, own, back⟩ := before s here
    rw [← own]
    exact known.own old there (back starts)

theorem Known.apply (valid : policy.Valid) (known : Known policy f) {op : Op}
    (may : f.Truthful op) : Known policy (f.apply localeCompare policy op) := by
  cases op with
  | tick t => exact known.tick valid may
  | comesUp server => exact known.turns server (fun same => by cases same)
  | drains server => exact known.turns server (fun same => by cases same)
  | exit server =>
    refine ⟨known.kept.exit may.1, ?_, fun s here => known.own s (List.mem_of_mem_erase here)⟩
    intro child member shown s here
    refine known.seen child ?_ shown s (List.mem_of_mem_erase here)
    change child ∈ (if server.own = true then _ else _ : KeyedList Child.serverId).entries at member
    split at member
    · exact (KeyedList.mem_delete.mp member).1
    · exact member
  | joins serverId =>
    refine ⟨known.kept.apply valid may.1, ?_, ?_⟩
    · intro child member shown s here named
      rcases List.mem_append.mp here with here | new
      · exact known.seen child member shown s here named
      · rw [List.mem_singleton] at new
        rw [new]
        exact fun same => by cases same
    · intro s here starts
      rcases List.mem_append.mp here with here | new
      · exact known.own s here starts
      · rw [List.mem_singleton] at new
        rw [new] at starts
        cases starts

theorem known_run (valid : policy.Valid)
    (run : Reach Fleet.Truthful (Fleet.apply localeCompare policy) .initial f) : Known policy f :=
  run.invariant (I := Known policy)
    { kept := kept_initial valid
      seen := by
        intro child member
        cases member
      own := by
        intro s here
        cases here }
    fun _ _ known may => known.apply valid may

/-! ## Too much for some, too little for one more -/

/-- What is too much for `n` servers is not too little for `n + 1`. -/
def ScalingPolicy.Apart (policy : ScalingPolicy) : Prop :=
  policy.maxServers = policy.minServers ∨
    policy.scaleDownLoad * (policy.minServers + 1) ≤ policy.scaleUpLoad * policy.minServers

instance (policy : ScalingPolicy) : Decidable policy.Apart := inferInstanceAs (Decidable (_ ∨ _))

/-- The load `T` is not too little for `n` servers. -/
def Raised (policy : ScalingPolicy) (T : ℚ) (n : Nat) : Prop :=
  policy.scaleDownLoad * n ≤ T ∨ (n : ℚ) ≤ policy.minServers

/-- The load `T` is not too much for `n` servers. -/
def Lowered (policy : ScalingPolicy) (T : ℚ) (n : Nat) : Prop :=
  T < policy.scaleUpLoad * n ∨ policy.maxServers ≤ n

section
variable {m n : Nat}

theorem Raised.fewer (valid : policy.Valid) (raised : Raised policy T n) (fewer : m ≤ n) :
    Raised policy T m := by
  have le : (m : ℚ) ≤ n := by exact_mod_cast fewer
  rcases raised with enough | low
  · exact .inl ((mul_le_mul_of_nonneg_left le valid.2.2.1.1).trans enough)
  · exact .inr (le.trans low)

theorem Lowered.more (valid : policy.Valid) (lowered : Lowered policy T m) (more : m ≤ n) :
    Lowered policy T n := by
  have le : (m : ℚ) ≤ n := by exact_mod_cast more
  have positive : 0 ≤ policy.scaleUpLoad := valid.2.2.1.1.trans valid.2.2.1.2.le
  rcases lowered with few | high
  · exact .inl (few.trans_le (mul_le_mul_of_nonneg_left le positive))
  · exact .inr (high.trans le)

/-- The gap at the minimum is the narrowest. -/
theorem ScalingPolicy.Apart.gap (valid : policy.Valid) (apart : policy.Apart) (least : policy.minServers ≤ n)
    (room : policy.minServers < policy.maxServers) :
    policy.scaleDownLoad * ((n + 1 : Nat) : ℚ) ≤ policy.scaleUpLoad * n := by
  rcases apart with same | gap
  · exact absurd same room.ne'
  · have wider : policy.scaleDownLoad * (n - policy.minServers) ≤
        policy.scaleUpLoad * (n - policy.minServers) :=
      mul_le_mul_of_nonneg_right valid.2.2.1.2.le (sub_nonneg.mpr least)
    push_cast
    linarith

end

theorem le_of_lt_succ_safe {n : Nat} {q : ℚ} (safe : isSafeInteger q = true)
    (less : q < (n + 1 : Nat)) : q ≤ n := by
  rw [← safe_num safe] at less ⊢
  have below : q.num < (n + 1 : Nat) := by exact_mod_cast less
  exact_mod_cast Int.lt_add_one_iff.mp below

/-! ## A decision on a truthful read -/

section
variable {servers : List GameServerHeartbeat} {reason : Reason} {serverId : String}

structure Counts (f : Fleet) (input : ScalingInput) : Prop where
  active : input.active.length = f.active.length
  coming : f.coming.length ≤ input.starting

theorem Known.counts (known : Known policy f) (may : f.Truthful (.tick t))
    (read : t.read = some servers) : Counts f ((f.marked servers).input policy servers t.now) where
  active := active_length known.kept.ids (may.1.1 servers read) (may.2 servers read)
  coming := coming_le (known.marked (may.2 servers read))

theorem Counts.capacity {input : ScalingInput} (counts : Counts f input) :
    f.live.length ≤ input.capacity := by
  rw [live_length, ScalingInput.capacity, counts.active]
  exact Nat.add_le_add_left counts.coming _

theorem Counts.live {input : ScalingInput} (counts : Counts f input)
    (settled : input.starting = 0) : f.live.length = input.active.length := by
  have none_coming := counts.coming
  rw [live_length, counts.active]
  omega

theorem load_eq {input : ScalingInput} (some_active : input.active ≠ []) :
    input.averageLoad * input.active.length = input.totalLoad := by
  have positive : (input.active.length : ℚ) ≠ 0 := by
    simpa using some_active
  rw [ScalingInput.averageLoad, div_mul_cancel₀ _ positive]

/-- An `up` is for want of servers, or the load is too much for the live ones. -/
theorem Counts.up_cases {input : ScalingInput} (valid : input.policy.Valid) (counts : Counts f input)
    (decides : decideScaling localeCompare input = .up reason) :
    (reason = .belowMinimum ∧ (f.live.length : ℚ) < input.policy.minServers) ∨
    (input.policy.minServers ≤ f.live.length ∧ (f.live.length : ℚ) < input.policy.maxServers ∧
      input.policy.scaleUpLoad * f.live.length < input.totalLoad) := by
  have capacity : (f.live.length : ℚ) ≤ input.capacity := by exact_mod_cast counts.capacity
  rcases Supervisor.up_cases decides with ⟨few, below⟩ | ⟨_, least, settled, loaded, room⟩
  · exact .inl ⟨few, capacity.trans_lt below⟩
  · have same := counts.live settled
    have count : input.capacity = f.live.length := by
      rw [ScalingInput.capacity, settled, same, Nat.add_zero]
    rw [count] at least room
    have positive : (0 : ℚ) < f.live.length := lt_of_lt_of_le one_pos (valid.1.2.trans least)
    have some_active : input.active ≠ [] := by
      intro nobody
      rw [same, nobody] at positive
      exact absurd positive (lt_irrefl _)
    have high := mul_lt_mul_of_pos_right (loaded.resolve_left some_active) positive
    rw [same, load_eq some_active, ← same] at high
    exact .inr ⟨least, room, high⟩

theorem Counts.up {input : ScalingInput} (valid : input.policy.Valid) (apart : input.policy.Apart)
    (counts : Counts f input) (decides : decideScaling localeCompare input = .up reason) :
    Raised input.policy input.totalLoad (f.live.length + 1) := by
  rcases counts.up_cases valid decides with ⟨_, below⟩ | ⟨least, room, high⟩
  · exact .inr (succ_le_of_safe valid.1.1 below)
  · exact .inl ((apart.gap valid least (least.trans_lt room)).trans high.le)

theorem Counts.no_up {input : ScalingInput} {n : Nat} (valid : input.policy.Valid)
    (counts : Counts f input) (few : n ≤ f.live.length)
    (lowered : Lowered input.policy input.totalLoad n) :
    decideScaling localeCompare input ≠ .up .averageLoad := by
  intro decides
  rcases counts.up_cases valid decides with ⟨other, _⟩ | ⟨_, room, high⟩
  · cases other
  · rcases lowered.more valid few with low | full
    · exact absurd low high.not_gt
    · exact absurd room full.not_gt

theorem Counts.no_down {input : ScalingInput} (counts : Counts f input)
    (raised : Raised input.policy input.totalLoad f.live.length) :
    ¬ input.CallsForDrain := by
  intro calls
  have total := load_eq calls.some_active
  have positive : (0 : ℚ) < input.active.length := by
    exact_mod_cast List.length_pos_iff.mpr calls.some_active
  rw [counts.live calls.settled] at raised
  rcases raised with enough | low
  · have less := mul_lt_mul_of_pos_right calls.idle positive
    linarith
  · exact absurd calls.spare (not_lt.mpr low)

theorem Counts.down {input : ScalingInput} {n : Nat} (valid : input.policy.Valid)
    (apart : input.policy.Apart) (counts : Counts f input) (calls : input.CallsForDrain)
    (left : f.live.length ≤ n + 1) : Lowered input.policy input.totalLoad n := by
  have same := counts.live calls.settled
  have positive : (0 : ℚ) < input.active.length := by
    exact_mod_cast List.length_pos_iff.mpr calls.some_active
  have less := mul_lt_mul_of_pos_right calls.idle positive
  rw [load_eq calls.some_active] at less
  rw [same] at left
  have most : (input.active.length : ℚ) ≤ (n + 1 : Nat) := by exact_mod_cast left
  have least : input.policy.minServers ≤ n :=
    le_of_lt_succ_safe valid.1.1 (calls.spare.trans_le most)
  by_cases full : input.policy.maxServers ≤ n
  · exact .inr full
  · have gap := apart.gap valid least (least.trans_lt (not_le.mp full))
    have more := mul_le_mul_of_nonneg_left most valid.2.2.1.1
    exact .inl (less.trans_le (more.trans gap))

end


/-! ## How many are live after a step -/

section
variable {change : Server → Server} {p : Server → Bool}

theorem more_after (keeps : ∀ s ∈ f.running, p s = true → p (change s) = true) :
    (f.running.filter p).length ≤ ((f.running.map change).filter p).length := by
  rw [← List.countP_eq_length_filter, ← List.countP_eq_length_filter, List.countP_map]
  exact List.countP_mono_left keeps

theorem fewer_after (keeps : ∀ s ∈ f.running, p (change s) = true → p s = true) :
    ((f.running.map change).filter p).length ≤ (f.running.filter p).length := by
  rw [← List.countP_eq_length_filter, ← List.countP_eq_length_filter, List.countP_map]
  exact List.countP_mono_left keeps

end

theorem live_turns (f : Fleet) {server : Server} {stage : Stage}
    (was : stage = .draining ∨ server.stage ≠ .draining) :
    (f.turns server stage).live.length ≤ f.live.length := by
  apply fewer_after
  intro s _
  split
  · rename_i same
    rw [same]
    rcases was with rfl | was <;> simp_all
  · exact id

theorem staying_turns (f : Fleet) {server : Server} {stage : Stage}
    (was : stage ≠ .draining ∨ server.told = true) :
    f.staying.length ≤ (f.turns server stage).staying.length := by
  apply more_after
  intro s _
  split
  · rename_i same
    rw [same]
    rcases was with was | was <;> simp_all
  · exact id

theorem staying_exit (ids : f.ids.Nodup) {server : Server}
    (was : server.told = true ∨ server.stage = .draining) :
    f.staying.length ≤ ((f.apply localeCompare policy (.exit server)).staying).length := by
  show _ ≤ ((f.running.erase server).filter _).length
  rw [(ids.of_map _).erase_eq_filter, List.filter_filter, Fleet.staying]
  rw [← List.countP_eq_length_filter, ← List.countP_eq_length_filter]
  apply List.countP_mono_left
  intro s _ stays
  have other : s ≠ server := by
    rintro rfl
    rcases was with was | was <;> simp [was] at stays
  simpa [other] using stays

theorem staying_sendDrain (ids : f.ids.Nodup) (serverId : String) (sent : Bool) :
    f.staying.length ≤ (f.sendDrain serverId sent).staying.length + 1 := by
  have distinct : (f.staying.map Server.serverId).Nodup := ids.sublist (List.filter_sublist.map _)
  have one : (f.staying.filter fun s => s.serverId = serverId).length ≤ 1 := by
    have named : (f.staying.filter fun s => s.serverId = serverId).map Server.serverId ⊆
        [serverId] := by
      intro id member
      obtain ⟨s, inside, rfl⟩ := List.mem_map.mp member
      simpa using (List.mem_filter.mp inside).2
    have short := (List.subperm_of_subset
      (distinct.sublist (List.filter_sublist.map _)) named).length_le
    rwa [List.length_map] at short
  have others : (f.staying.filter fun s => !decide (s.serverId = serverId)).length ≤
      (f.sendDrain serverId sent).staying.length := by
    show _ ≤ ((f.running.map _).filter _).length
    rw [Fleet.staying, List.filter_filter, ← List.countP_eq_length_filter,
      ← List.countP_eq_length_filter, List.countP_map]
    apply List.countP_mono_left
    intro s _ stays
    simp only [Bool.and_eq_true, Bool.not_eq_true', decide_eq_false_iff_not, decide_eq_true_eq] at stays
    simp [Function.comp, stays.1, stays.2]
  have split := List.length_eq_length_filter_add (l := f.staying) fun s => s.serverId = serverId
  omega

theorem live_of_nobody_told (nobody : f.told = []) : f.staying = f.live := by
  apply List.filter_congr
  intro s here
  have silent : s.told = false := by
    simpa using List.filter_eq_nil_iff.mp nobody s here
  simp [silent]

theorem staying_le (f : Fleet) : f.staying.length ≤ f.live.length := by
  rw [Fleet.staying, Fleet.live, ← List.countP_eq_length_filter, ← List.countP_eq_length_filter]
  apply List.countP_mono_left
  simp +contextual

/-! ## Runs under one load -/

def Op.NoneJoins (op : Op) : Prop := ∀ serverId, op ≠ .joins serverId

/-- Only servers that were told to drain are on their way out. -/
def Op.Stays : Op → Prop
  | .drains server => server.told = true
  | .exit server => server.told = true ∨ server.stage = .draining
  | _ => True

def Op.joinsOne : Op → Bool
  | .joins _ => true
  | _ => false

theorem Op.noneJoins_iff (op : Op) : op.joinsOne = false ↔ op.NoneJoins := by
  cases op <;> simp [joinsOne, NoneJoins]

instance : DecidablePred Op.NoneJoins := fun op =>
  decidable_of_iff (op.joinsOne = false) op.noneJoins_iff

instance : DecidablePred Op.Stays
  | .drains _ => inferInstanceAs (Decidable (_ = _))
  | .exit _ => inferInstanceAs (Decidable (_ ∨ _))
  | .tick _ | .comesUp _ | .joins _ => isTrue trivial

/-- After a load was too much no server is drained for want of it, and after it was too little no
server is spawned for it, as long as it is the same. -/
structure NeverFlaps (localeCompare : String → String → Ordering) (policy : ScalingPolicy)
    (may : Fleet → Op → Prop) : Prop where
  raised : ∀ {T f t g t'}, Reach Fleet.Truthful (Fleet.apply localeCompare policy) .initial f →
    f.Steady T (.tick t) → f.decision localeCompare policy t = some (.up .averageLoad) →
    Reach (fun f op => f.Steady T op ∧ op.NoneJoins) (Fleet.apply localeCompare policy)
      (f.tick localeCompare policy t) g →
    g.Steady T (.tick t') →
    ∀ serverId reason, g.decision localeCompare policy t' ≠ some (.down serverId reason)
  lowered : ∀ {T f t serverId g t'},
    Reach Fleet.Truthful (Fleet.apply localeCompare policy) .initial f →
    f.Steady T (.tick t) → may f (.tick t) →
    f.decision localeCompare policy t = some (.down serverId .averageLoad) →
    Reach (fun f op => f.Steady T op ∧ op.Stays ∧ may f op) (Fleet.apply localeCompare policy)
      (f.tick localeCompare policy t) g →
    g.Steady T (.tick t') →
    g.decision localeCompare policy t' ≠ some (.up .averageLoad)

section
variable {servers : List GameServerHeartbeat} {reason : Reason} {serverId : String}

theorem decision_of_up (read : t.read = some servers)
    (decides : f.decision localeCompare policy t = some (.up reason)) :
    decideScaling localeCompare ((f.marked servers).input policy servers t.now) = .up reason := by
  rw [Fleet.decision, read, Option.map_some, Option.some_inj] at decides
  exact decideScaling_of_up decides

theorem read_of_decision {action : ScalingAction}
    (decides : f.decision localeCompare policy t = some action) : ∃ servers, t.read = some servers := by
  cases read : t.read with
  | none =>
    rw [Fleet.decision, read] at decides
    cases decides
  | some servers => exact ⟨servers, rfl⟩

/-- However it was decided, one more live server is not too many. -/
theorem raised_up (valid : policy.Valid) (apart : policy.Apart) (known : Known policy f)
    (may : f.Steady T (.tick t)) (decides : f.decision localeCompare policy t = some (.up reason)) :
    Raised policy T (f.live.length + 1) := by
  obtain ⟨servers, read⟩ := read_of_decision decides
  have total : ((f.marked servers).input policy servers t.now).totalLoad = T := may.2 servers read
  have raised := (known.counts may.1 read).up valid apart (decision_of_up read decides)
  rw [total] at raised
  exact raised

theorem raised_tick (valid : policy.Valid) (apart : policy.Apart) (known : Known policy f)
    (may : f.Steady T (.tick t))
    (before : Raised policy T f.live.length ∨
      ∃ reason, f.decision localeCompare policy t = some (.up reason)) :
    Raised policy T (f.tick localeCompare policy t).live.length := by
  have step := tick_ticks localeCompare policy f t
  generalize f.tick localeCompare policy t = after at step ⊢
  cases step with
  | unread read =>
    rcases before with raised | ⟨reason, decides⟩
    · exact raised
    · obtain ⟨servers, some_read⟩ := read_of_decision decides
      rw [read] at some_read
      cases some_read
  | hold read holds =>
    rcases before with raised | ⟨reason, decides⟩
    · exact raised
    · rw [holds] at decides
      cases decides
  | up read decides =>
    have one_more := raised_up valid apart known may decides
    have count : ((f.running ++ [(⟨t.newId, true, .starting, false⟩ : Server)]).filter
        fun s => s.stage ≠ .draining).length = f.live.length + 1 := by
      simp [Fleet.live]
    exact count ▸ one_more
  | down read downs =>
    rcases before with raised | ⟨reason, decides⟩
    · refine raised.fewer valid (fewer_after ?_)
      intro s _
      split <;> exact id
    · rw [downs] at decides
      cases decides

theorem raised_apply (valid : policy.Valid) (apart : policy.Apart) (known : Known policy f)
    (raised : Raised policy T f.live.length) {op : Op} (may : f.Steady T op) (alone : op.NoneJoins) :
    Raised policy T (f.apply localeCompare policy op).live.length := by
  cases op with
  | tick t => exact raised_tick valid apart known may (.inl raised)
  | comesUp server =>
    refine raised.fewer valid (live_turns f (.inr ?_))
    rw [may.1.1.2]
    exact fun same => by cases same
  | drains server => exact raised.fewer valid (live_turns f (.inl rfl))
  | exit server => exact raised.fewer valid (List.erase_sublist.filter _).length_le
  | joins serverId => exact absurd rfl (alone serverId)

theorem lowered_tick (valid : policy.Valid) (apart : policy.Apart) (known : Known policy f)
    (may : f.Steady T (.tick t)) (careful : f.Careful policy (.tick t))
    (before : Lowered policy T f.staying.length ∨
      ∃ serverId reason, f.decision localeCompare policy t = some (.down serverId reason)) :
    Lowered policy T (f.tick localeCompare policy t).staying.length := by
  have step := tick_ticks localeCompare policy f t
  generalize f.tick localeCompare policy t = after at step ⊢
  cases step with
  | unread read =>
    rcases before with lowered | ⟨_, _, decides⟩
    · exact lowered
    · obtain ⟨servers, some_read⟩ := read_of_decision decides
      rw [read] at some_read
      cases some_read
  | hold read holds =>
    rcases before with lowered | ⟨_, _, decides⟩
    · exact lowered
    · rw [holds] at decides
      cases decides
  | up read ups =>
    rcases before with lowered | ⟨_, _, decides⟩
    · refine lowered.more valid ?_
      show _ ≤ ((f.running ++ [_]).filter _).length
      rw [List.filter_append, List.length_append]
      exact Nat.le_add_right _ _
    · rw [ups] at decides
      cases decides
  | @down servers serverId _ _ read decides =>
    have calls := decision_calls read decides
    have nobody := (careful.2 servers read calls).left
    have most := staying_sendDrain known.kept.ids serverId t.sent
    rw [live_of_nobody_told nobody] at most
    have total : ((f.marked servers).input policy servers t.now).totalLoad = T :=
      may.2 servers read
    have lowered := (known.counts may.1 read).down valid apart calls most
    rw [total] at lowered
    exact lowered

theorem lowered_apply (valid : policy.Valid) (apart : policy.Apart) (known : Known policy f)
    (lowered : Lowered policy T f.staying.length) {op : Op} (may : f.Steady T op) (stays : op.Stays)
    (careful : f.Careful policy op) :
    Lowered policy T (f.apply localeCompare policy op).staying.length := by
  cases op with
  | tick t => exact lowered_tick valid apart known may careful (.inl lowered)
  | comesUp server =>
    exact lowered.more valid (staying_turns f (.inl fun same => by cases same))
  | drains server => exact lowered.more valid (staying_turns f (.inr stays))
  | exit server => exact lowered.more valid (staying_exit known.kept.ids stays)
  | joins serverId =>
    refine lowered.more valid ?_
    show _ ≤ ((f.running ++ [_]).filter _).length
    rw [List.filter_append, List.length_append]
    exact Nat.le_add_right _ _

end

/-- Thresholds that are apart do not flap, where every drain is decided on a current read. -/
theorem never_flaps {values : String → EnvNumber} (accepted : readScalingPolicy values = some policy)
    (apart : policy.Apart) : NeverFlaps localeCompare policy (Fleet.Careful policy) := by
  have valid := readScalingPolicy_valid accepted
  constructor
  · intro T f t g t' run steady decides later steady' serverId reason downs
    have known := known_run valid run
    have safe : Known policy g ∧ Raised policy T g.live.length :=
      later.invariant (I := fun g => Known policy g ∧ Raised policy T g.live.length)
        ⟨known.tick valid steady.1, raised_tick valid apart known steady (.inr ⟨_, decides⟩)⟩
        fun _ _ safe may => ⟨safe.1.apply valid may.1.1,
          raised_apply valid apart safe.1 safe.2 may.1 may.2⟩
    obtain ⟨servers, read⟩ := read_of_decision downs
    have total := steady'.2 servers read
    refine (safe.1.counts steady'.1 read).no_down ?_ (decision_calls read downs)
    have raised := safe.2
    rw [← total] at raised
    exact raised
  · intro T f t serverId g t' run steady careful decides later steady' ups
    have known := known_run valid run
    have safe : Known policy g ∧ Lowered policy T g.staying.length :=
      later.invariant (I := fun g => Known policy g ∧ Lowered policy T g.staying.length)
        ⟨known.tick valid steady.1,
          lowered_tick valid apart known steady careful (.inr ⟨_, _, decides⟩)⟩
        fun _ _ safe may => ⟨safe.1.apply valid may.1.1,
          lowered_apply valid apart safe.1 safe.2 may.1 may.2.1 may.2.2⟩
    obtain ⟨servers, read⟩ := read_of_decision ups
    have total := steady'.2 servers read
    refine (safe.1.counts steady'.1 read).no_up valid (staying_le g) ?_ (decision_of_up read ups)
    have lowered := safe.2
    rw [← total] at lowered
    exact lowered

theorem default_never_flaps :
    NeverFlaps compare DEFAULT_POLICY (Fleet.Careful DEFAULT_POLICY) :=
  never_flaps blank_policy (by decide +kernel)

/-- Two servers at most, and thresholds that are not apart. -/
private def closeValues (name : String) : EnvNumber :=
  if name = "SUPERVISOR_MAX_SERVERS" then .finite 2
  else if name = "SUPERVISOR_SCALE_UP_LOAD" then .finite 2
  else if name = "SUPERVISOR_SCALE_DOWN_LOAD" then .finite (13 / 10)
  else if name = "SUPERVISOR_COOLDOWN_MS" then .finite 5000
  else .blank

private def closePolicy : ScalingPolicy := ⟨1, 2, 2, 13 / 10, 5000⟩

private def loaded (serverId : String) (rooms : Nat) (loopLagMs : ℚ) : GameServerHeartbeat :=
  ⟨serverId, 0, rooms, 0, loopLagMs, false⟩

private def firstUp : List Op :=
  [.tick ⟨some [], 0, 0, "a", true⟩, .comesUp ⟨"a", true, .starting, false⟩]

private def tooMuch : Tick := ⟨some [loaded "a" 2 200], 8000, 8000, "b", true⟩

private def shared : Tick := ⟨some [loaded "a" 1 200, loaded "b" 1 0], 16000, 16000, "c", true⟩

/-- The load that was too much for one server is too little for two. -/
theorem close_thresholds_flap : ¬ ∀ (values : String → EnvNumber) (policy : ScalingPolicy),
    readScalingPolicy values = some policy →
    NeverFlaps compare policy (fun _ _ => True) := by
  intro never
  have accepted : readScalingPolicy closeValues = some closePolicy := by decide +kernel
  have before : Reach Fleet.Truthful (Fleet.apply compare closePolicy) .initial
      (firstUp.foldl (Fleet.apply compare closePolicy) .initial) :=
    Reach.of_list (by decide +kernel)
  have after : Reach (fun f op => f.Steady (11 / 5) op ∧ op.NoneJoins)
      (Fleet.apply compare closePolicy)
      ((firstUp.foldl (Fleet.apply compare closePolicy) .initial).tick compare closePolicy tooMuch)
      ([Op.comesUp ⟨"b", true, .starting, false⟩].foldl (Fleet.apply compare closePolicy)
        ((firstUp.foldl (Fleet.apply compare closePolicy) .initial).tick compare closePolicy
          tooMuch)) :=
    Reach.of_list (by decide +kernel)
  exact (never _ _ accepted).raised before (by decide +kernel) (by decide +kernel) after
    (show Fleet.Steady (11 / 5) _ (.tick shared) by decide +kernel) "b" .averageLoad
    (by decide +kernel)

end SwitchRemake.Supervisor

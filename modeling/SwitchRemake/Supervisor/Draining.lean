import SwitchRemake.Supervisor.Fleet

/-!
# What a run of ticks drains

One step changes the fleet in few ways, and the children stay the processes spawned here.
-/

namespace SwitchRemake.Supervisor
open Lib

variable {localeCompare : String → String → Ordering} {policy : ScalingPolicy} {f : Fleet} {t : Tick}

/-! ## A tick -/

inductive Ticks (localeCompare : String → String → Ordering) (policy : ScalingPolicy) (f : Fleet)
    (t : Tick) : Fleet → Prop where
  | unread (read : t.read = none) : Ticks localeCompare policy f t f
  | hold {servers : List GameServerHeartbeat} {reason : Reason} (read : t.read = some servers)
      (decides : f.decision localeCompare policy t = some (.hold reason)) :
      Ticks localeCompare policy f t (f.marked servers)
  | up {servers : List GameServerHeartbeat} {reason : Reason} (read : t.read = some servers)
      (decides : f.decision localeCompare policy t = some (.up reason)) :
      Ticks localeCompare policy f t
        ({ f.marked servers with lastActionAt := some t.stamp }.spawnServer t.newId)
  | down {servers : List GameServerHeartbeat} {serverId : String} {reason : Reason}
      {children : KeyedList Child.serverId} (read : t.read = some servers)
      (decides : f.decision localeCompare policy t = some (.down serverId reason))
      (same : children.entries.map Child.serverId = f.children.entries.map Child.serverId)
      (seen : ∀ child ∈ children.entries, ∃ old ∈ (f.marked servers).children.entries,
        old.serverId = child.serverId ∧ old.seen = child.seen) :
      Ticks localeCompare policy f t
        { f with
          running := (f.sendDrain serverId t.sent).running
          children := children
          lastActionAt := some t.stamp }

@[simp] theorem marked_ids (f : Fleet) (servers : List GameServerHeartbeat) :
    (f.marked servers).children.entries.map Child.serverId =
      f.children.entries.map Child.serverId :=
  KeyedList.keys_mapEntries f.children (g := Fleet.mark servers) fun _ => rfl

theorem tick_ticks (localeCompare : String → String → Ordering) (policy : ScalingPolicy) (f : Fleet) (t : Tick) :
    Ticks localeCompare policy f t (f.tick localeCompare policy t) := by
  cases read : t.read with
  | none =>
    simp only [Fleet.tick, read]
    exact .unread read
  | some servers =>
    have size : (f.marked servers).children.size = f.children.size := by
      simp [KeyedList.size, Fleet.marked, KeyedList.mapEntries]
    have decides : f.decision localeCompare policy t = some (decideLocalScaling localeCompare
        ((f.marked servers).input policy servers t.now) (f.marked servers).children.size) := by
      rw [Fleet.decision, read, size]
      rfl
    simp only [Fleet.tick, read]
    cases action : decideLocalScaling localeCompare
        ((f.marked servers).input policy servers t.now) (f.marked servers).children.size with
    | hold reason => exact .hold read (action ▸ decides)
    | up reason => exact .up read (action ▸ decides)
    | down serverId reason =>
      refine .down read (action ▸ decides) ?_ ?_
      · exact (KeyedList.keys_mapEntries _ _).trans (marked_ids f servers)
      · intro child member
        obtain ⟨old, before, ⟨_, rfl⟩ | ⟨_, rfl⟩⟩ := KeyedList.mem_modify.mp member
        · exact ⟨old, before, rfl, rfl⟩
        · exact ⟨child, before, rfl, rfl⟩

/-! ## Every run -/

/-- The children are the processes spawned here, and no id is used twice. -/
structure Kept (policy : ScalingPolicy) (f : Fleet) : Prop where
  ids : f.ids.Nodup
  children : f.children.entries.map Child.serverId = f.own.map Server.serverId
  few : (f.own.length : ℚ) ≤ policy.maxServers

/-- A change that leaves every server its id and its owner. -/
structure Renews (g : Server → Server) : Prop where
  id : ∀ s, (g s).serverId = s.serverId
  own : ∀ s, (g s).own = s.own

theorem ids_map {g : Server → Server} (renews : Renews g) (f : Fleet) :
    (f.running.map g).map Server.serverId = f.ids := by
  rw [List.map_map]
  exact List.map_congr_left fun s _ => renews.id s

theorem own_map {g : Server → Server} (renews : Renews g) (f : Fleet) :
    ((f.running.map g).filter Server.own).map Server.serverId = f.own.map Server.serverId := by
  rw [List.filter_map, List.map_map]
  have same : Server.own ∘ g = Server.own := funext renews.own
  rw [same]
  exact List.map_congr_left fun s _ => renews.id s

theorem Kept.renew {g : Server → Server} (kept : Kept policy f) (renews : Renews g)
    {children : KeyedList Child.serverId} {lastActionAt : Option Nat}
    (same : children.entries.map Child.serverId = f.children.entries.map Child.serverId) :
    Kept policy ⟨f.running.map g, children, lastActionAt⟩ where
  ids := by
    show ((f.running.map g).map Server.serverId).Nodup
    rw [ids_map renews f]
    exact kept.ids
  children := same.trans (kept.children.trans (own_map renews f).symm)
  few := by
    have count := congrArg List.length (own_map renews f)
    simp only [List.length_map] at count
    show (((f.running.map g).filter Server.own).length : ℚ) ≤ _
    rw [count]
    exact kept.few

theorem renews_id : Renews id := ⟨fun _ => rfl, fun _ => rfl⟩

theorem Kept.marked (kept : Kept policy f) (servers : List GameServerHeartbeat) :
    Kept policy (f.marked servers) := by
  have renewed : Kept policy ⟨f.running.map id, (f.marked servers).children, f.lastActionAt⟩ :=
    kept.renew renews_id (marked_ids f servers)
  rwa [List.map_id] at renewed

theorem renews_told (serverId : String) (sent : Bool) :
    Renews fun s => if s.serverId = serverId ∧ sent = true then { s with told := true } else s := by
  constructor <;> intro s <;> split <;> rfl

theorem renews_stage (server : Server) (stage : Stage) :
    Renews fun s => if s = server then { s with stage := stage } else s := by
  constructor <;> intro s <;> split <;> rfl

theorem Kept.size (kept : Kept policy f) : f.children.size = f.own.length := by
  have count := congrArg List.length kept.children
  rwa [List.length_map, List.length_map] at count

theorem safe_num {q : ℚ} (safe : isSafeInteger q = true) : (q.num : ℚ) = q := by
  simp only [isSafeInteger, Bool.and_eq_true, beq_iff_eq] at safe
  exact Rat.coe_int_num_of_den_eq_one safe.1

theorem succ_le_of_safe {n : Nat} {q : ℚ} (safe : isSafeInteger q = true) (less : (n : ℚ) < q) :
    ((n + 1 : Nat) : ℚ) ≤ q := by
  rw [← safe_num safe] at less ⊢
  exact_mod_cast less

theorem ids_append {s : Server} (ids : f.ids.Nodup) (fresh : s.serverId ∉ f.ids) :
    ((f.running ++ [s]).map Server.serverId).Nodup := by
  rw [List.map_append, List.nodup_append]
  refine ⟨ids, List.nodup_singleton _, ?_⟩
  intro a inside b single same
  rw [List.map_singleton, List.mem_singleton] at single
  rw [same, single] at inside
  exact fresh inside

theorem Kept.tick (valid : policy.Valid) (kept : Kept policy f) (fresh : t.newId ∉ f.ids) :
    Kept policy (f.tick localeCompare policy t) := by
  have step := tick_ticks localeCompare policy f t
  generalize f.tick localeCompare policy t = after at step ⊢
  cases step with
  | unread => exact kept
  | @hold servers _ _ _ => exact kept.marked servers
  | down read decides same _ => exact kept.renew (renews_told _ _) same
  | @up servers reason read decides =>
    have room : (f.own.length : ℚ) < policy.maxServers := by
      rw [Fleet.decision, read, Option.map_some, Option.some_inj] at decides
      have room := up_room decides
      rwa [kept.size] at room
    have own_eq : (f.running ++ [(⟨t.newId, true, .starting, false⟩ : Server)]).filter Server.own =
        f.own ++ [⟨t.newId, true, .starting, false⟩] := by
      simp [Fleet.own]
    have absent : (f.marked servers).children.has t.newId = false := by
      rw [Bool.eq_false_iff, Ne, KeyedList.has_iff]
      rintro ⟨child, member, same⟩
      have named : t.newId ∈ (f.marked servers).children.entries.map Child.serverId :=
        List.mem_map.mpr ⟨child, member, same⟩
      rw [marked_ids, kept.children] at named
      obtain ⟨s, inside, same⟩ := List.mem_map.mp named
      exact fresh (List.mem_map.mpr ⟨s, (List.mem_filter.mp inside).1, same⟩)
    constructor
    · exact ids_append kept.ids (s := ⟨t.newId, true, .starting, false⟩) fresh
    · show ((f.marked servers).children.set ⟨t.newId, false, false⟩).entries.map _ =
        ((f.running ++ [_]).filter Server.own).map _
      rw [KeyedList.entries_set_of_absent absent, own_eq, List.map_append, List.map_append,
        marked_ids, kept.children]
      rfl
    · show (((f.running ++ [_]).filter Server.own).length : ℚ) ≤ _
      rw [own_eq, List.length_append]
      exact succ_le_of_safe valid.2.1.1 room

theorem Kept.exit (kept : Kept policy f) {server : Server} (here : server ∈ f.running) :
    Kept policy (f.apply localeCompare policy (.exit server)) := by
  have distinct : f.running.Nodup := kept.ids.of_map _
  have alone : ∀ s ∈ f.running, s.serverId = server.serverId → s = server := fun s member same =>
    List.inj_on_of_nodup_map kept.ids member here same
  have own_eq : (f.running.erase server).filter Server.own =
      f.own.filter fun s => s.serverId ≠ server.serverId := by
    rw [distinct.erase_eq_filter, Fleet.own, List.filter_filter, List.filter_filter]
    apply List.filter_congr
    intro s member
    rw [Bool.and_comm]
    congr 1
    by_cases same : s.serverId = server.serverId
    · simp [alone s member same]
    · have other : s ≠ server := fun equal => same (congrArg _ equal)
      simp [same, other]
  constructor
  · exact kept.ids.sublist (List.erase_sublist.map _)
  · show (if server.own = true then _ else _ : KeyedList Child.serverId).entries.map _ =
      ((f.running.erase server).filter Server.own).map _
    rw [own_eq]
    split
    · rw [KeyedList.delete]
      have filtered := congrArg (List.filter fun id => id ≠ server.serverId) kept.children
      rw [List.filter_map, List.filter_map] at filtered
      exact filtered
    · rename_i other
      rw [kept.children, List.filter_eq_self.mpr]
      intro s member
      simp only [decide_eq_true_eq, ne_eq]
      intro same
      rw [← alone s (List.mem_filter.mp member).1 same] at other
      exact other (List.mem_filter.mp member).2
  · show (((f.running.erase server).filter Server.own).length : ℚ) ≤ _
    rw [own_eq]
    refine le_trans ?_ kept.few
    exact_mod_cast List.length_filter_le _ _

theorem Kept.apply (valid : policy.Valid) (kept : Kept policy f) {op : Op} (may : f.Possible op) :
    Kept policy (f.apply localeCompare policy op) := by
  cases op with
  | tick t => exact kept.tick valid may.2
  | comesUp server => exact kept.renew (renews_stage server .active) rfl
  | drains server => exact kept.renew (renews_stage server .draining) rfl
  | exit server => exact kept.exit may
  | joins serverId =>
    have own_eq : (f.running ++ [(⟨serverId, false, .active, false⟩ : Server)]).filter Server.own =
        f.own := by
      simp [Fleet.own]
    constructor
    · exact ids_append kept.ids (s := ⟨serverId, false, .active, false⟩) may
    · show f.children.entries.map _ = ((f.running ++ [_]).filter Server.own).map _
      rw [own_eq, kept.children]
    · show (((f.running ++ [_]).filter Server.own).length : ℚ) ≤ _
      rw [own_eq]
      exact kept.few

theorem kept_initial (valid : policy.Valid) : Kept policy .initial where
  ids := List.nodup_nil
  children := rfl
  few := by
    have least : (1 : ℚ) ≤ policy.maxServers := valid.1.2.trans valid.2.1.2.1
    exact le_trans (by simp [Fleet.own, Fleet.initial]) least

theorem kept_run (valid : policy.Valid)
    (run : Reach Fleet.Possible (Fleet.apply localeCompare policy) .initial f) : Kept policy f :=
  run.invariant (I := Kept policy) (kept_initial valid) fun _ _ kept may => kept.apply valid may

/-! ## Draining one at a time -/

/-- Every server that was told to drain has left, and the active heartbeats are of servers that are
still active. -/
structure Fleet.Current (f : Fleet) (servers : List GameServerHeartbeat) : Prop where
  left : f.told = []
  active : ∀ server ∈ servers, server.draining = false →
    ∃ s ∈ f.running, s.serverId = server.serverId ∧ s.stage = .active

instance (f : Fleet) (servers : List GameServerHeartbeat) : Decidable (f.Current servers) :=
  decidable_of_iff (f.told = [] ∧ ∀ server ∈ servers, server.draining = false →
      ∃ s ∈ f.running, s.serverId = server.serverId ∧ s.stage = .active)
    ⟨fun ⟨a, b⟩ => ⟨a, b⟩, fun ⟨a, b⟩ => ⟨a, b⟩⟩

/-- Where nothing else holds a drain back, the read is current. -/
def Fleet.Careful (policy : ScalingPolicy) (f : Fleet) (op : Op) : Prop :=
  f.Possible op ∧ match op with
    | .tick t => ∀ servers ∈ t.read,
      ((f.marked servers).input policy servers t.now).CallsForDrain → f.Current servers
    | _ => True

instance (policy : ScalingPolicy) (f : Fleet) : ∀ op, Decidable (f.Careful policy op)
  | .tick _ => inferInstanceAs (Decidable (_ ∧ ∀ _ ∈ _, _ → _))
  | .comesUp _ => inferInstanceAs (Decidable (_ ∧ True))
  | .drains _ => inferInstanceAs (Decidable (_ ∧ True))
  | .exit _ => inferInstanceAs (Decidable (_ ∧ True))
  | .joins _ => inferInstanceAs (Decidable (_ ∧ True))

/-- The tick sends a drain command. -/
def Fleet.SendsDrain (localeCompare : String → String → Ordering) (policy : ScalingPolicy)
    (f : Fleet) (t : Tick) : Prop :=
  t.sent = true ∧ ∃ serverId reason,
    f.decision localeCompare policy t = some (.down serverId reason)

theorem decision_calls {serverId : String} {reason : Reason} {servers : List GameServerHeartbeat}
    (read : t.read = some servers)
    (decides : f.decision localeCompare policy t = some (.down serverId reason)) :
    ((f.marked servers).input policy servers t.now).CallsForDrain := by
  rw [Fleet.decision, read, Option.map_some, Option.some_inj] at decides
  exact (down_cases (decideScaling_of_down decides)).1

theorem told_alone (ids : f.ids.Nodup) (nobody : f.told = []) (serverId : String) (sent : Bool) :
    (f.sendDrain serverId sent).told.length ≤ 1 := by
  have silent : ∀ s ∈ f.running, s.told = false := by
    intro s member
    simpa using List.filter_eq_nil_iff.mp nobody s member
  have named : ∀ s ∈ (f.sendDrain serverId sent).told, s.serverId = serverId := by
    intro s member
    obtain ⟨inside, told⟩ := List.mem_filter.mp member
    obtain ⟨before, old, rfl⟩ := List.mem_map.mp inside
    split
    · rename_i target
      exact target.1
    · rename_i other
      rw [if_neg other, silent before old] at told
      cases told
  have distinct : ((f.sendDrain serverId sent).told.map Server.serverId).Nodup := by
    refine List.Nodup.sublist (List.filter_sublist.map _) ?_
    show ((f.running.map _).map Server.serverId).Nodup
    rw [ids_map (renews_told serverId sent)]
    exact ids
  have same : (f.sendDrain serverId sent).told.map Server.serverId ⊆ [serverId] := by
    intro id member
    obtain ⟨s, inside, rfl⟩ := List.mem_map.mp member
    exact List.mem_singleton.mpr (named s inside)
  simpa using (List.subperm_of_subset distinct same).length_le

theorem told_tick (kept : Kept policy f) (one : f.told.length ≤ 1)
    (may : f.Careful policy (.tick t)) : (f.tick localeCompare policy t).told.length ≤ 1 := by
  have step := tick_ticks localeCompare policy f t
  generalize f.tick localeCompare policy t = after at step ⊢
  cases step with
  | unread => exact one
  | hold => exact one
  | up =>
    show ((f.running ++ [_]).filter Server.told).length ≤ 1
    rw [List.filter_append]
    simpa [Fleet.told] using one
  | @down servers serverId reason _ read decides =>
    exact told_alone kept.ids (may.2 _ read (decision_calls read decides)).left serverId t.sent

theorem told_turns (f : Fleet) (server : Server) (stage : Stage) :
    (f.turns server stage).told.length = f.told.length := by
  show ((f.running.map _).filter Server.told).length = _
  rw [List.filter_map, List.length_map, Fleet.told]
  congr 2
  funext s
  simp only [Function.comp]
  split <;> rfl

theorem one_told (kept : Kept policy f) (one : f.told.length ≤ 1) {op : Op}
    (may : f.Careful policy op) : (f.apply localeCompare policy op).told.length ≤ 1 := by
  cases op with
  | tick t => exact told_tick kept one may
  | comesUp server => exact (told_turns f server .active).le.trans one
  | drains server => exact (told_turns f server .draining).le.trans one
  | exit server => exact (List.erase_sublist.filter _).length_le.trans one
  | joins serverId =>
    show ((f.running ++ [_]).filter Server.told).length ≤ 1
    rw [List.filter_append]
    simpa [Fleet.told] using one

theorem serving_of_current {servers : List GameServerHeartbeat} (current : f.Current servers)
    (distinct : (servers.map GameServerHeartbeat.serverId).Nodup) :
    (servers.filter fun server => !server.draining).length ≤ f.serving.length := by
  have ids : ((servers.filter fun server => !server.draining).map
      GameServerHeartbeat.serverId).Nodup :=
    distinct.sublist (List.filter_sublist.map _)
  have inside : (servers.filter fun server => !server.draining).map GameServerHeartbeat.serverId ⊆
      f.serving.map Server.serverId := by
    intro id member
    obtain ⟨server, active, rfl⟩ := List.mem_map.mp member
    obtain ⟨here, awake⟩ := List.mem_filter.mp active
    obtain ⟨s, member, same, stage⟩ := current.active server here (by simpa using awake)
    have silent : s.told = false := by
      simpa using List.filter_eq_nil_iff.mp current.left s member
    refine List.mem_map.mpr ⟨s, ?_, same⟩
    simp [Fleet.serving, member, stage, silent]
  simpa using (List.subperm_of_subset ids inside).length_le

/-- Where every drain is decided on a current read, the fleet stays within its bound, one server at
most is on its way out, and no drain takes the serving ones below the minimum. -/
theorem drains_safely {values : String → EnvNumber} (accepted : readScalingPolicy values = some policy)
    (run : Reach (Fleet.Careful policy) (Fleet.apply localeCompare policy) .initial f) :
    (f.own.length : ℚ) ≤ policy.maxServers ∧ f.told.length ≤ 1 ∧
      ∀ t, f.Careful policy (.tick t) → f.SendsDrain localeCompare policy t →
        policy.minServers < f.serving.length := by
  have valid := readScalingPolicy_valid accepted
  have safe : Kept policy f ∧ f.told.length ≤ 1 :=
    run.invariant (I := fun f => Kept policy f ∧ f.told.length ≤ 1)
      ⟨kept_initial valid, Nat.zero_le 1⟩
      fun _ _ safe may => ⟨safe.1.apply valid may.1, one_told safe.1 safe.2 may⟩
  refine ⟨safe.1.few, safe.2, ?_⟩
  intro t may ⟨_, serverId, reason, decides⟩
  cases read : t.read with
  | none =>
    rw [Fleet.decision, read] at decides
    cases decides
  | some servers =>
    have calls := decision_calls read decides
    have current := may.2 servers read calls
    refine lt_of_lt_of_le calls.spare ?_
    exact_mod_cast serving_of_current current (may.1.1 servers read)


private def quiet (serverId : String) : GameServerHeartbeat := ⟨serverId, 0, 0, 0, 0, false⟩

theorem blank_policy : readScalingPolicy (fun _ => .blank) = some DEFAULT_POLICY := by
  decide +kernel

private def drainRun : List Op :=
  [.joins "a", .joins "b", .joins "c",
    .tick ⟨some [quiet "a", quiet "b", quiet "c"], 0, 0, "d", true⟩,
    .drains ⟨"a", false, .active, true⟩, .exit ⟨"a", false, .draining, true⟩]

theorem drains_safely_twice :
    (drainRun.foldl (Fleet.apply compare DEFAULT_POLICY) .initial).told.length ≤ 1 ∧
      DEFAULT_POLICY.minServers <
        (drainRun.foldl (Fleet.apply compare DEFAULT_POLICY) .initial).serving.length := by
  have run : Reach (Fleet.Careful DEFAULT_POLICY) (Fleet.apply compare DEFAULT_POLICY) .initial
      (drainRun.foldl (Fleet.apply compare DEFAULT_POLICY) .initial) :=
    Reach.of_list (by decide +kernel)
  have safe := drains_safely blank_policy run
  refine ⟨safe.2.1, safe.2.2 ⟨some [quiet "b", quiet "c"], 30000, 30000, "d", true⟩ ?_ ?_⟩
  · decide +kernel
  · exact ⟨rfl, "b", .averageLoad, by decide +kernel⟩

private def staleRun : List Op :=
  [.joins "a", .joins "b", .joins "c",
    .tick ⟨some [quiet "a", quiet "b", quiet "c"], 0, 0, "d", true⟩,
    .tick ⟨some [{ quiet "a" with waitingRooms := 1 }, quiet "b", quiet "c"], 30000, 30000, "d", true⟩]

/-- The second drain is decided before the first one shows. -/
theorem drains_on_stale_read : ¬ ∀ (values : String → EnvNumber) (policy : ScalingPolicy) (f : Fleet),
    readScalingPolicy values = some policy →
    Reach Fleet.Possible (Fleet.apply compare policy) .initial f →
    (f.own.length : ℚ) ≤ policy.maxServers ∧ f.told.length ≤ 1 ∧
      ∀ t, f.Possible (.tick t) → f.SendsDrain compare policy t →
        policy.minServers < f.serving.length := by
  intro safe
  have run : Reach Fleet.Possible (Fleet.apply compare DEFAULT_POLICY) .initial
      (staleRun.foldl (Fleet.apply compare DEFAULT_POLICY) .initial) :=
    Reach.of_list (by decide +kernel)
  have one := (safe _ _ _ blank_policy run).2.1
  exact absurd one (by decide +kernel)

end SwitchRemake.Supervisor

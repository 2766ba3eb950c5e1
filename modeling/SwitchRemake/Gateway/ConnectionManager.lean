import SwitchRemake.Lib.KeyedList

/-!
# Connection accounting

`gateway/connection-manager.ts`: the live connections, two counters for each address, and the one
connection of each user.
-/

namespace SwitchRemake.Lib.KeyedList

variable {α κ : Type} {key : α → κ} [DecidableEq κ] {xs : KeyedList key} {x : α} {k : κ}

/-- The entries around the one of a key. -/
theorem split_of_get? (found : xs.get? k = some x) : ∃ before after,
    xs.entries = before ++ x :: after ∧ (∀ y ∈ before, key y ≠ k) ∧ ∀ y ∈ after, key y ≠ k := by
  obtain ⟨mem, named⟩ := mem_of_get? found
  obtain ⟨before, after, split_⟩ := List.append_of_mem mem
  have distinct := xs.distinct
  rw [split_, List.map_append, List.map_cons, List.nodup_append] at distinct
  obtain ⟨_, tail, apart⟩ := distinct
  refine ⟨before, after, split_, fun y there same => ?_, fun y there same => ?_⟩
  · exact apart _ (List.mem_map_of_mem there) _ List.mem_cons_self (same.trans named.symm)
  · refine (List.nodup_cons.mp tail).1 ?_
    rw [named, ← same]
    exact List.mem_map_of_mem there

theorem entries_delete_of_split {before after : List α} (whole : xs.entries = before ++ x :: after)
    (named : key x = k) (left : ∀ y ∈ before, key y ≠ k) (right : ∀ y ∈ after, key y ≠ k) :
    (xs.delete k).entries = before ++ after := by
  have keeps (ys : List α) (others : ∀ y ∈ ys, key y ≠ k) :
      ys.filter (fun y => key y ≠ k) = ys :=
    List.filter_eq_self.mpr fun y mem => decide_eq_true (others y mem)
  change xs.entries.filter (fun y => key y ≠ k) = before ++ after
  rw [whole, List.filter_append, List.filter_cons_of_neg (by simp [named]), keeps before left,
    keeps after right]

theorem entries_modify_of_split {f : α → α} {keeps : ∀ x, key (f x) = key x} {before after : List α}
    (whole : xs.entries = before ++ x :: after) (named : key x = k)
    (left : ∀ y ∈ before, key y ≠ k) (right : ∀ y ∈ after, key y ≠ k) :
    (xs.modify k f keeps).entries = before ++ f x :: after := by
  have stays (ys : List α) (others : ∀ y ∈ ys, key y ≠ k) :
      ys.map (fun y => if key y = k then f y else y) = ys := by
    refine (List.map_congr_left fun y mem => ?_).trans (List.map_id ys)
    rw [if_neg (others y mem)]
    rfl
  change xs.entries.map (fun y => if key y = k then f y else y) = before ++ f x :: after
  rw [whole, List.map_append, List.map_cons, if_pos named, stays before left, stays after right]

theorem countP_delete (found : xs.get? k = some x) (p : α → Bool) :
    (xs.delete k).entries.countP p + (if p x then 1 else 0) = xs.entries.countP p := by
  obtain ⟨before, after, whole, left, right⟩ := split_of_get? found
  rw [entries_delete_of_split whole (mem_of_get? found).2 left right, whole, List.countP_append,
    List.countP_append, List.countP_cons]
  omega

theorem countP_modify (f : α → α) (keeps : ∀ x, key (f x) = key x) (found : xs.get? k = some x)
    (p : α → Bool) :
    (xs.modify k f keeps).entries.countP p + (if p x then 1 else 0) =
      xs.entries.countP p + if p (f x) then 1 else 0 := by
  obtain ⟨before, after, whole, left, right⟩ := split_of_get? found
  rw [entries_modify_of_split whole (mem_of_get? found).2 left right, whole, List.countP_append,
    List.countP_append, List.countP_cons, List.countP_cons]
  omega

end SwitchRemake.Lib.KeyedList

namespace SwitchRemake.Gateway
open Lib

structure OpenConnection where
  id : Nat
  ip : String
deriving DecidableEq

structure ConnectionRecord (User : Type) where
  id : Nat
  ip : String
  userId : Option User
deriving DecidableEq

structure ConnectionLimits where
  maxConnections : Nat
  maxUnauthenticatedPerIp : Nat
  maxAuthenticatedPerIp : Nat

abbrev IpCounters := KeyedList (Prod.fst : String × Nat → String)

namespace IpCounters

def value (counters : IpCounters) (ip : String) : Nat := ((counters.get? ip).map Prod.snd).getD 0

def increment (counters : IpCounters) (ip : String) : IpCounters :=
  counters.set (ip, counters.value ip + 1)

def decrement (counters : IpCounters) (ip : String) : IpCounters :=
  let next := ((counters.get? ip).map Prod.snd).getD 1 - 1
  if next ≤ 0 then counters.delete ip else counters.set (ip, next)

end IpCounters

structure ConnectionManager (User : Type) where
  connections : KeyedList (ConnectionRecord.id : ConnectionRecord User → Nat)
  unauthenticatedByIp : IpCounters
  authenticatedByIp : IpCounters
  activeUsers : KeyedList (Prod.fst : User × Nat → User)
  limits : ConnectionLimits
  nextId : Nat

namespace ConnectionManager
variable {User : Type} [DecidableEq User]

def new (limits : ConnectionLimits) : ConnectionManager User where
  connections := .empty
  unauthenticatedByIp := .empty
  authenticatedByIp := .empty
  activeUsers := .empty
  limits
  nextId := 1

def unauthenticatedCount (m : ConnectionManager User) (ip : String) : Nat :=
  m.unauthenticatedByIp.value ip

def authenticatedCount (m : ConnectionManager User) (ip : String) : Nat :=
  m.authenticatedByIp.value ip

def canOpen (m : ConnectionManager User) (ip : String) : Bool :=
  m.connections.size < m.limits.maxConnections ∧
    m.unauthenticatedCount ip < m.limits.maxUnauthenticatedPerIp

def open_ (m : ConnectionManager User) (ip : String) :
    ConnectionManager User × Option OpenConnection :=
  if ¬ m.canOpen ip then (m, none)
  else
    ({ m with
      connections := m.connections.set ⟨m.nextId, ip, none⟩
      unauthenticatedByIp := m.unauthenticatedByIp.increment ip
      nextId := m.nextId + 1 }, some ⟨m.nextId, ip⟩)

def canAuthenticate (m : ConnectionManager User) (id : Nat) (userId : User) : Bool :=
  match m.connections.get? id with
  | none => false
  | some record => record.userId = none ∧ ¬ m.activeUsers.has userId ∧
      m.authenticatedCount record.ip < m.limits.maxAuthenticatedPerIp

def authenticate (m : ConnectionManager User) (id : Nat) (userId : User) :
    ConnectionManager User × Bool :=
  match m.connections.get? id with
  | none => (m, false)
  | some record =>
    if ¬ m.canAuthenticate id userId then (m, false)
    else
      ({ m with
        connections := m.connections.modify id (fun r => { r with userId := some userId }) fun _ => rfl
        unauthenticatedByIp := m.unauthenticatedByIp.decrement record.ip
        authenticatedByIp := m.authenticatedByIp.increment record.ip
        activeUsers := m.activeUsers.set (userId, id) }, true)

def close (m : ConnectionManager User) (id : Nat) :
    ConnectionManager User × Option (ConnectionRecord User) :=
  match m.connections.get? id with
  | none => (m, none)
  | some record =>
    let left := { m with connections := m.connections.delete id }
    match record.userId with
    | none =>
      ({ left with unauthenticatedByIp := m.unauthenticatedByIp.decrement record.ip }, some record)
    | some userId =>
      ({ left with
        authenticatedByIp := m.authenticatedByIp.decrement record.ip
        activeUsers := if (m.activeUsers.get? userId).map Prod.snd = some id then
          m.activeUsers.delete userId else m.activeUsers }, some record)

end ConnectionManager

inductive ConnectionCall (User : Type) where
  | open_ (ip : String)
  | authenticate (id : Nat) (userId : User)
  | close (id : Nat)

namespace ConnectionManager
variable {User : Type} [DecidableEq User] {m : ConnectionManager User} {ip : String} {id : Nat}
  {userId : User}

/-- The manager after a call, and whether the call went through. -/
def call (m : ConnectionManager User) : ConnectionCall User → ConnectionManager User × Bool
  | .open_ ip => ((m.open_ ip).1, (m.open_ ip).2.isSome)
  | .authenticate id userId => m.authenticate id userId
  | .close id => ((m.close id).1, (m.close id).2.isSome)

/-! ## The counters -/

theorem IpCounters.value_increment (counters : IpCounters) (ip other : String) :
    (IpCounters.increment counters ip).value other =
      if other = ip then counters.value ip + 1 else counters.value other := by
  rw [IpCounters.value, IpCounters.increment, KeyedList.get?_set]
  split <;> rfl

theorem IpCounters.value_decrement (counters : IpCounters) (ip other : String) :
    (IpCounters.decrement counters ip).value other =
      if other = ip then counters.value ip - 1 else counters.value other := by
  unfold IpCounters.decrement IpCounters.value
  dsimp only
  cases found : counters.get? ip with
  | none =>
    rw [Option.map_none, Option.getD_none, if_pos (Nat.le_refl _), KeyedList.get?_delete]
    split <;> rfl
  | some entry =>
    rw [Option.map_some, Option.getD_some, Option.getD_some]
    by_cases last : entry.2 - 1 ≤ 0
    · rw [if_pos last, KeyedList.get?_delete]
      split
      · exact (Nat.le_zero.mp last).symm
      · rfl
    · rw [if_neg last, KeyedList.get?_set]
      split <;> rfl

/-! ## What every call keeps -/

def live (m : ConnectionManager User) : List (ConnectionRecord User) := m.connections.entries

def unauthenticatedFrom (ip : String) (r : ConnectionRecord User) : Bool :=
  r.ip = ip && r.userId.isNone

def authenticatedFrom (ip : String) (r : ConnectionRecord User) : Bool :=
  r.ip = ip && r.userId.isSome

structure Kept (m : ConnectionManager User) : Prop where
  ids : ∀ r ∈ m.live, r.id < m.nextId
  total : m.live.length ≤ m.limits.maxConnections
  unauthenticated : ∀ ip, m.unauthenticatedCount ip = m.live.countP (unauthenticatedFrom ip)
  unauthenticatedLimit : ∀ ip, m.unauthenticatedCount ip ≤ m.limits.maxUnauthenticatedPerIp
  authenticated : ∀ ip, m.authenticatedCount ip = m.live.countP (authenticatedFrom ip)
  authenticatedLimit : ∀ ip, m.authenticatedCount ip ≤ m.limits.maxAuthenticatedPerIp
  /-- The table of active users is the set of users and connections of the authenticated records. -/
  users : ∀ userId id, (userId, id) ∈ m.activeUsers.entries ↔
    ∃ r ∈ m.live, r.id = id ∧ r.userId = some userId

omit [DecidableEq User] in
theorem Kept.new (limits : ConnectionLimits) :
    Kept (.new limits : ConnectionManager User) where
  ids := by simp [live, ConnectionManager.new, KeyedList.empty]
  total := Nat.zero_le _
  unauthenticated _ := rfl
  unauthenticatedLimit _ := Nat.zero_le _
  authenticated _ := rfl
  authenticatedLimit _ := Nat.zero_le _
  users := by simp [live, ConnectionManager.new, KeyedList.empty]

omit [DecidableEq User] in
theorem Kept.open_ (kept : Kept m) (ip : String) : Kept (m.open_ ip).1 := by
  unfold ConnectionManager.open_
  split
  · exact kept
  rename_i can
  obtain ⟨room, few⟩ : m.connections.size < m.limits.maxConnections ∧
      m.unauthenticatedCount ip < m.limits.maxUnauthenticatedPerIp := by simpa [canOpen] using can
  have fresh : m.connections.has m.nextId = false := by
    rw [Bool.eq_false_iff]
    intro taken
    obtain ⟨r, mem, same⟩ := KeyedList.has_iff.mp taken
    exact absurd same (Nat.ne_of_lt (kept.ids r mem))
  have entries : (m.connections.set ⟨m.nextId, ip, none⟩).entries = m.live ++ [⟨m.nextId, ip, none⟩] :=
    KeyedList.entries_set_of_absent fresh
  have counts : ∀ other, (m.unauthenticatedByIp.increment ip).value other =
      if other = ip then m.unauthenticatedCount ip + 1 else m.unauthenticatedCount other :=
    IpCounters.value_increment _ ip
  exact {
    ids := by
      intro r mem
      rw [live, entries, List.mem_append, List.mem_singleton] at mem
      rcases mem with old | rfl
      · exact Nat.lt_succ_of_lt (kept.ids r old)
      · exact Nat.lt_succ_self _
    total := by
      rw [live, entries, List.length_append, List.length_singleton]
      exact room
    unauthenticated := by
      intro other
      rw [unauthenticatedCount, counts, live, entries, List.countP_append]
      by_cases same : other = ip
      · rw [if_pos same, ← same, kept.unauthenticated, List.countP_singleton]
        simp [unauthenticatedFrom]
      · rw [if_neg same, kept.unauthenticated, List.countP_singleton]
        simp [unauthenticatedFrom, Ne.symm same]
    unauthenticatedLimit := by
      intro other
      rw [unauthenticatedCount, counts]
      split
      · exact few
      · exact kept.unauthenticatedLimit other
    authenticated := by
      intro other
      rw [live, entries, List.countP_append, List.countP_singleton]
      simpa [authenticatedFrom, authenticatedCount] using kept.authenticated other
    authenticatedLimit := kept.authenticatedLimit
    users := by
      intro userId id
      rw [kept.users]
      simp only [live, entries, List.mem_append, List.mem_singleton]
      constructor
      · rintro ⟨r, mem, own⟩
        exact ⟨r, .inl mem, own⟩
      · rintro ⟨r, old | rfl, own⟩
        · exact ⟨r, old, own⟩
        · cases own.2 }

omit [DecidableEq User] in
theorem eq_of_user (kept : Kept m) {r other : ConnectionRecord User} (first : r ∈ m.live)
    (second : other ∈ m.live) (user : r.userId = some userId) (same : other.userId = some userId) :
    r.id = other.id := by
  have one := (kept.users userId r.id).mpr ⟨r, first, rfl, user⟩
  have two := (kept.users userId other.id).mpr ⟨other, second, rfl, same⟩
  exact congrArg Prod.snd (m.activeUsers.eq_of_key one two rfl)

theorem Kept.authenticate (kept : Kept m) (id : Nat) (userId : User) :
    Kept (m.authenticate id userId).1 := by
  unfold ConnectionManager.authenticate
  cases found : m.connections.get? id with
  | none => exact kept
  | some record =>
    dsimp only
    split
    · exact kept
    rename_i can
    obtain ⟨guest, absent, few⟩ : record.userId = none ∧ m.activeUsers.has userId = false ∧
        m.authenticatedCount record.ip < m.limits.maxAuthenticatedPerIp := by
      simpa [canAuthenticate, found] using can
    obtain ⟨mem, named⟩ := KeyedList.mem_of_get? found
    have left : ∀ other, (m.unauthenticatedByIp.decrement record.ip).value other =
        if other = record.ip then m.unauthenticatedCount record.ip - 1 else m.unauthenticatedCount other :=
      IpCounters.value_decrement _ record.ip
    have joined : ∀ other, (m.authenticatedByIp.increment record.ip).value other =
        if other = record.ip then m.authenticatedCount record.ip + 1 else m.authenticatedCount other :=
      IpCounters.value_increment _ record.ip
    have counted (p : ConnectionRecord User → Bool) := KeyedList.countP_modify
      (fun r : ConnectionRecord User => { r with userId := some userId }) (fun _ => rfl) found p
    exact {
      ids := by
        intro r there
        rw [live, KeyedList.mem_modify] at there
        obtain ⟨old, before, ⟨_, rfl⟩ | ⟨_, rfl⟩⟩ := there
        · exact kept.ids old before
        · exact kept.ids _ before
      total := Nat.le_trans (Nat.le_of_eq (List.length_map _)) kept.total
      unauthenticated := by
        intro other
        have change := counted (unauthenticatedFrom other)
        have before := kept.unauthenticated other
        simp only [live] at before ⊢
        rw [unauthenticatedCount, left]
        by_cases same : other = record.ip
        · subst same
          simp only [unauthenticatedFrom, guest] at change before ⊢
          simp at change before ⊢
          omega
        · simp only [unauthenticatedFrom, guest] at change before ⊢
          simp [same, Ne.symm same] at change before ⊢
          omega
      unauthenticatedLimit := by
        intro other
        rw [unauthenticatedCount, left]
        split
        · exact Nat.le_trans (Nat.sub_le _ _) (kept.unauthenticatedLimit _)
        · exact kept.unauthenticatedLimit other
      authenticated := by
        intro other
        have change := counted (authenticatedFrom other)
        have before := kept.authenticated other
        simp only [live] at before ⊢
        rw [authenticatedCount, joined]
        by_cases same : other = record.ip
        · subst same
          simp only [authenticatedFrom, guest] at change before ⊢
          simp at change before ⊢
          omega
        · simp only [authenticatedFrom, guest] at change before ⊢
          simp [same, Ne.symm same] at change before ⊢
          omega
      authenticatedLimit := by
        intro other
        rw [authenticatedCount, joined]
        split
        · exact few
        · exact kept.authenticatedLimit other
      users := by
        intro other connection
        have unused : ∀ r ∈ m.live, r.userId ≠ some userId := fun r there same => by
          have active := (kept.users userId r.id).mpr ⟨r, there, rfl, same⟩
          exact absurd (KeyedList.has_iff.mpr ⟨_, active, rfl⟩) (Bool.eq_false_iff.mp absent)
        rw [KeyedList.mem_set, kept.users]
        constructor
        · rintro (new | ⟨⟨r, there, own, user⟩, apart⟩)
          · cases new
            refine ⟨{ record with userId := some userId }, ?_, named, rfl⟩
            rw [live, KeyedList.mem_modify]
            exact ⟨record, mem, .inl ⟨named, rfl⟩⟩
          · refine ⟨r, ?_, own, user⟩
            rw [live, KeyedList.mem_modify]
            refine ⟨r, there, .inr ⟨fun same => ?_, rfl⟩⟩
            have one := m.connections.eq_of_key there mem (same.trans named.symm)
            rw [one, guest] at user
            cases user
        · rintro ⟨r, there, own, user⟩
          rw [live, KeyedList.mem_modify] at there
          obtain ⟨old, before, ⟨here, rfl⟩ | ⟨elsewhere, rfl⟩⟩ := there
          · cases user
            exact .inl (by rw [← own, ← here])
          · refine .inr ⟨⟨_, before, own, user⟩, fun same => ?_⟩
            exact unused _ before (user.trans (congrArg some same)) }

theorem Kept.close (kept : Kept m) (id : Nat) : Kept (m.close id).1 := by
  unfold ConnectionManager.close
  cases found : m.connections.get? id with
  | none => exact kept
  | some record =>
    obtain ⟨mem, named⟩ := KeyedList.mem_of_get? found
    have counted (p : ConnectionRecord User → Bool) := KeyedList.countP_delete found p
    have ids : ∀ r ∈ (m.connections.delete id).entries, r.id < m.nextId := fun r there =>
      kept.ids r (KeyedList.mem_delete.mp there).1
    have total : (m.connections.delete id).entries.length ≤ m.limits.maxConnections :=
      Nat.le_trans (List.length_filter_le _ _) kept.total
    dsimp only
    cases user : record.userId with
    | none =>
      have left : ∀ other, (m.unauthenticatedByIp.decrement record.ip).value other =
          if other = record.ip then m.unauthenticatedCount record.ip - 1 else m.unauthenticatedCount other :=
        IpCounters.value_decrement _ record.ip
      exact {
        ids := ids
        total := total
        unauthenticated := by
          intro other
          have change := counted (unauthenticatedFrom other)
          have before := kept.unauthenticated other
          simp only [live] at before ⊢
          rw [unauthenticatedCount, left]
          by_cases same : other = record.ip
          · subst same
            simp only [unauthenticatedFrom, user] at change before ⊢
            simp at change before ⊢
            omega
          · simp only [unauthenticatedFrom, user] at change before ⊢
            simp [same, Ne.symm same] at change before ⊢
            omega
        unauthenticatedLimit := by
          intro other
          rw [unauthenticatedCount, left]
          split
          · exact Nat.le_trans (Nat.sub_le _ _) (kept.unauthenticatedLimit _)
          · exact kept.unauthenticatedLimit other
        authenticated := by
          intro other
          have change := counted (authenticatedFrom other)
          have before := kept.authenticated other
          simp only [live] at before ⊢
          simp only [authenticatedFrom, user] at change before ⊢
          simp at change before ⊢
          rw [change]
          exact before
        authenticatedLimit := kept.authenticatedLimit
        users := by
          intro other connection
          rw [kept.users]
          constructor
          · rintro ⟨r, there, own, same⟩
            refine ⟨r, KeyedList.mem_delete.mpr ⟨there, fun here => ?_⟩, own, same⟩
            have one := m.connections.eq_of_key there mem (here.trans named.symm)
            rw [one, user] at same
            cases same
          · rintro ⟨r, there, own⟩
            exact ⟨r, (KeyedList.mem_delete.mp there).1, own⟩ }
    | some userId =>
      have left : ∀ other, (m.authenticatedByIp.decrement record.ip).value other =
          if other = record.ip then m.authenticatedCount record.ip - 1 else m.authenticatedCount other :=
        IpCounters.value_decrement _ record.ip
      have active : m.activeUsers.get? userId = some (userId, id) :=
        KeyedList.get?_eq_some.mpr ⟨(kept.users userId id).mpr ⟨record, mem, named, user⟩, rfl⟩
      have own : (m.activeUsers.get? userId).map Prod.snd = some id := by rw [active]; rfl
      dsimp only
      rw [if_pos own]
      exact {
        ids := ids
        total := total
        unauthenticated := by
          intro other
          have change := counted (unauthenticatedFrom other)
          have before := kept.unauthenticated other
          simp only [live] at before ⊢
          simp only [unauthenticatedFrom, user] at change before ⊢
          simp at change before ⊢
          rw [change]
          exact before
        unauthenticatedLimit := kept.unauthenticatedLimit
        authenticated := by
          intro other
          have change := counted (authenticatedFrom other)
          have before := kept.authenticated other
          simp only [live] at before ⊢
          rw [authenticatedCount, left]
          by_cases same : other = record.ip
          · subst same
            simp only [authenticatedFrom, user] at change before ⊢
            simp at change before ⊢
            omega
          · simp only [authenticatedFrom, user] at change before ⊢
            simp [same, Ne.symm same] at change before ⊢
            omega
        authenticatedLimit := by
          intro other
          rw [authenticatedCount, left]
          split
          · exact Nat.le_trans (Nat.sub_le _ _) (kept.authenticatedLimit _)
          · exact kept.authenticatedLimit other
        users := by
          intro other connection
          rw [KeyedList.mem_delete, kept.users]
          constructor
          · rintro ⟨⟨r, there, own, same⟩, apart⟩
            refine ⟨r, KeyedList.mem_delete.mpr ⟨there, fun here => apart ?_⟩, own, same⟩
            have one := m.connections.eq_of_key there mem (here.trans named.symm)
            rw [one, user] at same
            exact (Option.some.inj same).symm
          · rintro ⟨r, there, own, same⟩
            obtain ⟨before, elsewhere⟩ := KeyedList.mem_delete.mp there
            refine ⟨⟨r, before, own, same⟩, fun here => elsewhere ?_⟩
            exact (eq_of_user kept before mem (same.trans (congrArg some here)) user).trans named }

theorem Kept.call (kept : Kept m) (c : ConnectionCall User) : Kept (m.call c).1 := by
  cases c with
  | open_ ip => exact kept.open_ ip
  | authenticate id userId => exact kept.authenticate id userId
  | close id => exact kept.close id

/-- A call that fails leaves everything as it is. -/
theorem call_fails {c : ConnectionCall User} (fails : (m.call c).2 = false) : (m.call c).1 = m := by
  cases c with
  | open_ ip =>
    simp only [call, ConnectionManager.open_] at fails ⊢
    split
    · rfl
    · rename_i can
      rw [if_neg can] at fails
      cases fails
  | authenticate id userId =>
    simp only [call, ConnectionManager.authenticate] at fails ⊢
    cases found : m.connections.get? id with
    | none => rfl
    | some record =>
      rw [found] at fails
      dsimp only at fails ⊢
      split
      · rfl
      · rename_i can
        rw [if_neg can] at fails
        cases fails
  | close id =>
    simp only [call, ConnectionManager.close] at fails ⊢
    cases found : m.connections.get? id with
    | none => rfl
    | some record =>
      rw [found] at fails
      cases user : record.userId with
      | none => simp [user] at fails
      | some userId => simp [user] at fails

theorem call_limits (m : ConnectionManager User) (c : ConnectionCall User) :
    (m.call c).1.limits = m.limits := by
  cases c with
  | open_ ip =>
    simp only [call, ConnectionManager.open_]
    split <;> rfl
  | authenticate id userId =>
    simp only [call, ConnectionManager.authenticate]
    split
    · rfl
    · split <;> rfl
  | close id =>
    simp only [call, ConnectionManager.close]
    split
    · rfl
    · split <;> rfl

/-- The manager after calls. -/
def after (limits : ConnectionLimits) (calls : List (ConnectionCall User)) : ConnectionManager User :=
  calls.foldl (fun m c => (m.call c).1) (.new limits)

theorem after_kept (limits : ConnectionLimits) (calls : List (ConnectionCall User)) :
    Kept (after limits calls) ∧ (after limits calls).limits = limits := by
  have follows (m : ConnectionManager User) (kept : Kept m) :
      Kept (calls.foldl (fun m c => (m.call c).1) m) ∧
        (calls.foldl (fun m c => (m.call c).1) m).limits = m.limits := by
    induction calls generalizing m with
    | nil => exact ⟨kept, rfl⟩
    | cons c rest ih =>
      obtain ⟨keeps, same⟩ := ih (m.call c).1 (kept.call c)
      exact ⟨keeps, same.trans (call_limits m c)⟩
  exact follows (.new limits) (.new limits)

/-- The four tables agree after any calls, and a call that fails changes none of them. -/
theorem connections_accounted (limits : ConnectionLimits) (calls : List (ConnectionCall User)) :
    Kept (after limits calls) ∧ (after limits calls).limits = limits ∧
      (∀ r ∈ (after limits calls).live, ∀ other ∈ (after limits calls).live, ∀ userId,
        r.userId = some userId → other.userId = some userId → r.id = other.id) ∧
      ∀ c, ((after limits calls).call c).2 = false →
        ((after limits calls).call c).1 = after limits calls := by
  obtain ⟨kept, same⟩ := after_kept limits calls
  refine ⟨kept, same, fun r first other second userId user too => ?_, fun c => call_fails⟩
  exact eq_of_user kept first second user too

end ConnectionManager
end SwitchRemake.Gateway

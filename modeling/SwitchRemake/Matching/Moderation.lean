import SwitchRemake.Matching.SanctionLaws

/-!
# Runs of the sanction service

Requests, rounds of the reconciliation timer and rounds of the retention job in any order, each at
the time of its call.
-/

namespace SwitchRemake.Matching
open Lib

inductive Request where
  | apply (input : ApplySanctionInput) (id : String)
  | revoke (sanctionId : String)
  | round
  | login (userId : Nat)
  | createUser (email : String) (id : Nat)
  | deleteAccount (userId : Nat) (mfaVerified : Option String) (tombstone : String)
  | clearHmacs (taken : String → Bool)
  | deleteSanctions (sanctionDays : Nat) (taken : String → Bool)

structure Call where
  time : Int
  request : Request

/-- `checkedAt` is the time of the last round of the timer. -/
structure Moderation where
  tables : Tables
  now : Int
  checkedAt : Int

def millisecondsPerDay : Int := 24 * 60 * 60 * 1000

/-- What throws changes nothing. -/
def kept (t : Tables) : Except SanctionError Tables → Tables
  | .ok after => after
  | .error _ => t

theorem kept_cases {t : Tables} {P : Tables → Prop} {result : Except SanctionError Tables}
    (before : P t) (done : ∀ after, result = .ok after → P after) : P (kept t result) := by
  cases result with
  | error _ => exact before
  | ok after => exact done after rfl

section
variable (hmacSha256 : String → String)

def Tables.serve (t : Tables) (call : Call) : Tables :=
  match call.request with
  | .apply input id => kept t (t.apply input id call.time)
  | .revoke sanctionId => kept t (t.revoke sanctionId call.time)
  | .round => t.runScheduledReconciliation call.time
  | .login userId => (t.loginStatus userId call.time).2
  | .createUser email id => kept t (t.createUser hmacSha256 email id call.time)
  | .deleteAccount userId mfaVerified tombstone =>
    kept t (t.deleteAccount hmacSha256 userId mfaVerified tombstone call.time)
  | .clearHmacs taken => t.deleteExpiredSanctionEmailHmacs call.time taken
  | .deleteSanctions days taken =>
    t.deleteExpiredSanctions (call.time - days * millisecondsPerDay) taken

def Moderation.serve (s : Moderation) (call : Call) : Moderation :=
  { tables := s.tables.serve hmacSha256 call
    now := call.time
    checkedAt := match call.request with
      | .round => call.time
      | _ => s.checkedAt }

end

def Moderation.start (time : Int) : Moderation := ⟨.empty, time, time⟩

/-- Every ban that was announced for later and has begun was begun at the last round already. The
call may be a round itself. -/
def StartsChecked (s : Moderation) (call : Call) : Prop :=
  (match call.request with
    | .round => True
    | _ => False) ∨
  ∀ ban ∈ s.tables.sanctions.entries, ban.type = .ban → s.tables.revoked ban.id = false →
    Tables.lasts ban call.time = true → ban.createdAt < ban.startsAt →
    ban.startsAt ≤ call.time → ban.startsAt ≤ s.checkedAt

namespace Tables
variable {hmacSha256 : String → String} {t after : Tables} {now : Int}

/-! ## What the calls keep -/

structure Owned (t : Tables) (now : Int) : Prop where
  created : ∀ s ∈ t.sanctions.entries, s.createdAt ≤ now
  users : ∀ s ∈ t.sanctions.entries, (t.users.get? s.userId).isSome

theorem isSome_setStatus (t : Tables) (userId : Nat) (status : AccountStatus) (id : Nat) :
    ((t.setStatus userId status).users.get? id).isSome = (t.users.get? id).isSome := by
  unfold setStatus
  dsimp only
  rw [KeyedList.get?_modify]
  split <;> simp

theorem isSome_of_statusOf {other : Tables} {userId : Nat}
    (same : (other.statusOf userId).isSome = (t.statusOf userId).isSome) :
    (other.users.get? userId).isSome = (t.users.get? userId).isSome := by
  simpa [statusOf] using same

theorem sanctions_reconcile (t : Tables) (userId : Nat) (now : Int) :
    (t.reconcileUserStatus userId now).2.sanctions = t.sanctions ∧
      (t.reconcileUserStatus userId now).2.sanctionRevocations = t.sanctionRevocations := by
  unfold reconcileUserStatus
  split
  · exact ⟨rfl, rfl⟩
  · repeat' split
    all_goals exact ⟨rfl, rfl⟩

theorem sanctions_round (t : Tables) (now : Int) :
    (t.runScheduledReconciliation now).sanctions = t.sanctions ∧
      (t.runScheduledReconciliation now).sanctionRevocations = t.sanctionRevocations := by
  unfold runScheduledReconciliation
  generalize t.pendingAccounts now = ids
  induction ids generalizing t with
  | nil => exact ⟨rfl, rfl⟩
  | cons id rest ih =>
    have first := sanctions_reconcile t id now
    have more := ih (t.reconcileUserStatus id now).2
    exact ⟨more.1.trans first.1, more.2.trans first.2⟩

theorem loginStatus_snd (t : Tables) (userId : Nat) (now : Int) :
    (t.loginStatus userId now).2 = t ∨
      (t.loginStatus userId now).2 = (t.reconcileUserStatus userId now).2 := by
  unfold loginStatus reconcileLoginStatus
  cases t.users.get? userId with
  | none => exact .inl rfl
  | some user =>
    by_cases banned : user.accountStatus = .banned
    · right
      simp [banned]
    · left
      simp [banned]

theorem createUser_ok {email : String} {id : Nat}
    (creates : t.createUser hmacSha256 email id now = .ok after) :
    ∃ user users, user.id = id ∧ user.accountStatus = .active ∧ t.users.insert? user = some users ∧
      t.isEmailRegistrationBlocked hmacSha256 (normalizedEmail email) now = false ∧
      after = { t with users } := by
  unfold createUser at creates
  dsimp only at creates
  split at creates
  · cases creates
  · rename_i free
    split at creates
    · cases creates
    · split at creates
      · cases creates
      · rename_i users inserts
        cases creates
        exact ⟨_, users, rfl, rfl, inserts, by simpa using free, rfl⟩

theorem deleteAccount_ok {userId : Nat} {mfaVerified : Option String} {tombstone : String}
    (deletes : t.deleteAccount hmacSha256 userId mfaVerified tombstone now = .ok after) :
    ∃ user, t.users.get? userId = some user ∧ user.accountStatus ≠ .deleted ∧
      after.sanctions.entries = t.sanctions.entries.map (fun s => if t.stamps userId now s then
        { s with emailHmac := some (hmacEmail hmacSha256 user.email) } else s) ∧
      after.sanctionRevocations = t.sanctionRevocations ∧
      (∀ id, (after.users.get? id).isSome = (t.users.get? id).isSome) ∧
      ∀ id, after.statusOf id = if id = userId then (t.statusOf id).map fun _ => .deleted
        else t.statusOf id := by
  unfold deleteAccount at deletes
  split at deletes
  · cases deletes
  · rename_i user found
    split at deletes
    · cases deletes
    · rename_i alive
      split at deletes
      · cases deletes
      · cases deletes
        refine ⟨user, found, alive, rfl, rfl, ?_, ?_⟩
        · intro id
          dsimp only
          rw [KeyedList.get?_modify]
          split <;> simp
        · intro id
          unfold statusOf
          dsimp only
          rw [KeyedList.get?_modify]
          split
          · rw [Option.map_map, Option.map_map]
            rfl
          · rfl

/-- A change of the stamps is no change of the bans. -/
theorem activeBan_restamp {f : SanctionRow → Option String} {other : Tables} {userId : Nat}
    (rows : other.sanctions.entries =
      t.sanctions.entries.map fun s => { s with emailHmac := f s })
    (revocations : other.sanctionRevocations = t.sanctionRevocations) :
    other.activeBan userId now = t.activeBan userId now := by
  unfold activeBan active revoked
  rw [rows, revocations, List.any_map]
  rfl

theorem stamp_eq_restamp (t : Tables) (userId : Nat) (now : Int) (hmac : String) :
    (fun s : SanctionRow => if t.stamps userId now s then { s with emailHmac := some hmac } else s) =
      fun s => { s with
        emailHmac := if t.stamps userId now s then some hmac else s.emailHmac } := by
  funext s
  split <;> rfl

theorem clear_eq_restamp (t : Tables) (now : Int) (taken : String → Bool) :
    (fun s : SanctionRow => if t.clears now s && taken s.id then { s with emailHmac := none } else s) =
      fun s => { s with emailHmac := if t.clears now s && taken s.id then none else s.emailHmac } := by
  funext s
  split <;> rfl

theorem mem_clear {taken : String → Bool} {s : SanctionRow}
    (member : s ∈ (t.deleteExpiredSanctionEmailHmacs now taken).sanctions.entries) :
    ∃ old ∈ t.sanctions.entries,
      { old with emailHmac := if t.clears now old && taken old.id then none else old.emailHmac } =
        s := by
  have stands : s ∈ t.sanctions.entries.map _ := member
  rw [clear_eq_restamp] at stands
  exact List.mem_map.mp stands

theorem activeBan_clear (t : Tables) (at' now : Int) (taken : String → Bool) (userId : Nat) :
    (t.deleteExpiredSanctionEmailHmacs at' taken).activeBan userId now = t.activeBan userId now := by
  refine activeBan_restamp (f := fun s =>
    if t.clears at' s && taken s.id then none else s.emailHmac) ?_ rfl
  unfold deleteExpiredSanctionEmailHmacs KeyedList.mapEntries
  rw [← clear_eq_restamp]

/-- Retention leaves a sanction that stays its revocation. -/
theorem revoked_purged {cutoff : Int} {taken : String → Bool} {s : SanctionRow}
    (stays : s ∈ (t.deleteExpiredSanctions cutoff taken).sanctions.entries) :
    s ∈ t.sanctions.entries ∧
      (t.deleteExpiredSanctions cutoff taken).revoked s.id = t.revoked s.id := by
  unfold deleteExpiredSanctions at stays ⊢
  dsimp only at stays ⊢
  obtain ⟨member, keeps⟩ := KeyedList.mem_filter.mp stays
  refine ⟨member, ?_⟩
  unfold revoked
  dsimp only
  rw [KeyedList.has_eq_isSome, KeyedList.has_eq_isSome, KeyedList.get?_filter]
  cases found : t.sanctionRevocations.get? s.id with
  | none => rfl
  | some revocation =>
    obtain ⟨_, same⟩ := KeyedList.mem_of_get? found
    rw [Option.filter_some, same, KeyedList.get?_of_mem member, Option.any_some, if_pos keeps]

/-! ## One call -/

theorem respected_apply {input : ApplySanctionInput} {id : String}
    (respected : t.Respected now) (applies : t.apply input id now = .ok after) :
    after.Respected now := by
  obtain ⟨s, sanctions, user, inserts, found, alive, whose, kind, ends, created, _, rfl⟩ :=
    apply_ok applies
  obtain ⟨fresh, rfl⟩ := KeyedList.insert?_eq_some.mp inserts
  -- Another account has the bans it had; this one has none that runs unless it is banned now.
  have ban_iff : ∀ userId,
      ({ t with sanctions := t.sanctions.set s } : Tables).activeBan userId now = true →
      t.activeBan userId now = true ∨ userId = input.userId ∧ s.type = .ban ∧ s.startsAt ≤ now ∧
        lasts s now = true := by
    intro userId ban
    obtain ⟨b, member, owner, isBan, begun, still, stands⟩ := activeBan_iff.mp ban
    rcases KeyedList.mem_set.mp member with rfl | ⟨old, _⟩
    · exact .inr ⟨owner.symm.trans whose, isBan, begun, still⟩
    · exact .inl (activeBan_iff.mpr ⟨b, old, owner, isBan, begun, still, stands⟩)
  split
  · intro userId active
    rw [activeBan_setStatus]
    rw [statusOf_setStatus] at active
    split at active
    · obtain ⟨_, _, impossible⟩ := Option.map_eq_some_iff.mp active
      cases impossible
    · rename_i other
      rw [Bool.eq_false_iff]
      intro ban
      rcases ban_iff userId ban with old | ⟨same, _⟩
      · exact Bool.false_ne_true ((respected userId active).symm.trans old)
      · exact other same
  · rename_i later
    intro userId active
    rw [Bool.eq_false_iff]
    intro ban
    rcases ban_iff userId ban with old | ⟨_, immediate⟩
    · exact Bool.false_ne_true ((respected userId active).symm.trans old)
    · exact later immediate

theorem activeBan_revoked {sanctionId : String} {revocations : KeyedList RevocationRow.sanctionId}
    (inserts : t.sanctionRevocations.insert? ⟨sanctionId, now⟩ = some revocations) {userId : Nat}
    (ban : ({ t with sanctionRevocations := revocations } : Tables).activeBan userId now = true) :
    t.activeBan userId now = true := by
  obtain ⟨b, member, owner, isBan, begun, still, stands⟩ := activeBan_iff.mp ban
  rw [revoked_insert inserts, Bool.or_eq_false_iff] at stands
  exact activeBan_iff.mpr ⟨b, member, owner, isBan, begun, still, stands.1⟩

theorem respected_revoke {sanctionId : String} (respected : t.Respected now)
    (revokes : t.revoke sanctionId now = .ok after) : after.Respected now := by
  obtain ⟨sanction, revocations, _, inserts, rfl | ⟨rfl, alone, _⟩⟩ := revoke_ok revokes
  · intro userId active
    rw [Bool.eq_false_iff]
    intro ban
    exact Bool.false_ne_true ((respected userId active).symm.trans (activeBan_revoked inserts ban))
  · refine respected_setStatus ?_ fun _ => alone
    intro userId active
    rw [Bool.eq_false_iff]
    intro ban
    exact Bool.false_ne_true ((respected userId active).symm.trans (activeBan_revoked inserts ban))

theorem respected_round (t : Tables) (now : Int) : (t.runScheduledReconciliation now).Respected now := by
  intro userId active
  obtain ⟨ban, status⟩ := statusOf_round t now userId
  rw [ban]
  obtain ⟨before, _, isActive⟩ := Option.map_eq_some_iff.mp (status.symm.trans active)
  cases runs : t.activeBan userId now with
  | false => rfl
  | true =>
    rw [runs] at isActive
    cases before <;> cases isActive

theorem respected_createUser {email : String} {id : Nat} (respected : t.Respected now)
    (owned : t.Owned now) (creates : t.createUser hmacSha256 email id now = .ok after) :
    after.Respected now := by
  obtain ⟨user, users, rfl, isActive, inserts, _, rfl⟩ := createUser_ok creates
  intro userId active
  obtain ⟨fresh, rfl⟩ := KeyedList.insert?_eq_some.mp inserts
  by_cases same : userId = user.id
  · -- Nobody is sanctioned before the account exists.
    rw [Bool.eq_false_iff]
    intro ban
    obtain ⟨b, member, owner, _⟩ := activeBan_iff.mp ban
    have known := owned.users b member
    rw [owner, same, fresh] at known
    cases known
  · refine respected userId ?_
    unfold statusOf at active ⊢
    dsimp only at active
    rwa [KeyedList.get?_set, if_neg same] at active

theorem respected_deleteAccount {userId : Nat} {mfaVerified : Option String} {tombstone : String}
    (respected : t.Respected now)
    (deletes : t.deleteAccount hmacSha256 userId mfaVerified tombstone now = .ok after) :
    after.Respected now := by
  obtain ⟨user, _, _, rows, revocations, _, status⟩ := deleteAccount_ok deletes
  rw [stamp_eq_restamp] at rows
  intro id active
  rw [activeBan_restamp rows revocations]
  rw [status] at active
  split at active
  · obtain ⟨_, _, impossible⟩ := Option.map_eq_some_iff.mp active
    cases impossible
  · exact respected id active

theorem respected_serve {call : Call} (respected : t.Respected call.time) (owned : t.Owned call.time) :
    (t.serve hmacSha256 call).Respected call.time := by
  obtain ⟨time, request⟩ := call
  cases request with
  | apply input id => exact kept_cases respected fun _ => respected_apply respected
  | revoke sanctionId => exact kept_cases respected fun _ => respected_revoke respected
  | round => exact respected_round t time
  | login userId =>
    rcases loginStatus_snd t userId time with same | reconciles
    · simpa only [serve, same] using respected
    · simpa only [serve, reconciles] using respected_reconcile respected userId
  | createUser email id => exact kept_cases respected fun _ => respected_createUser respected owned
  | deleteAccount userId mfaVerified tombstone => exact kept_cases respected fun _ => respected_deleteAccount respected
  | clearHmacs taken =>
    intro userId active
    exact (activeBan_clear t time time taken userId).trans (respected userId active)
  | deleteSanctions days taken =>
    intro userId active
    rw [Bool.eq_false_iff]
    intro ban
    obtain ⟨b, member, owner, isBan, begun, still, stands⟩ := activeBan_iff.mp ban
    obtain ⟨old, same⟩ := revoked_purged member
    have ran := activeBan_iff.mpr ⟨b, old, owner, isBan, begun, still, same.symm.trans stands⟩
    exact Bool.false_ne_true ((respected userId active).symm.trans ran)

theorem owned_setStatus {userId : Nat} {status : AccountStatus} (owned : t.Owned now) :
    (t.setStatus userId status).Owned now :=
  ⟨owned.created, fun s member => (isSome_setStatus ..).trans (owned.users s member)⟩

theorem owned_reconcile (owned : t.Owned now) (userId : Nat) :
    (t.reconcileUserStatus userId now).2.Owned now := by
  unfold reconcileUserStatus
  split
  · exact owned
  · repeat' split
    all_goals first
      | exact owned
      | exact owned_setStatus owned

theorem owned_serve {call : Call} (owned : t.Owned call.time) :
    (t.serve hmacSha256 call).Owned call.time := by
  obtain ⟨time, request⟩ := call
  cases request with
  | apply input id =>
    refine kept_cases (P := fun t => t.Owned time) owned fun after applies => ?_
    obtain ⟨s, sanctions, user, inserts, found, _, whose, _, _, created, _, rfl⟩ := apply_ok applies
    obtain ⟨_, rfl⟩ := KeyedList.insert?_eq_some.mp inserts
    have more : ({ t with sanctions := t.sanctions.set s } : Tables).Owned time := by
      constructor
      · intro row member
        rcases KeyedList.mem_set.mp member with rfl | ⟨old, _⟩
        · exact created.le
        · exact owned.created row old
      · intro row member
        rcases KeyedList.mem_set.mp member with rfl | ⟨old, _⟩
        · rw [whose]
          exact Option.isSome_iff_exists.mpr ⟨user, found⟩
        · exact owned.users row old
    split
    · exact owned_setStatus more
    · exact more
  | revoke sanctionId =>
    refine kept_cases (P := fun t => t.Owned time) owned fun after revokes => ?_
    obtain ⟨_, revocations, _, _, rfl | ⟨rfl, _, _⟩⟩ := revoke_ok revokes
    · exact ⟨owned.created, owned.users⟩
    · exact owned_setStatus ⟨owned.created, owned.users⟩
  | round =>
    unfold serve runScheduledReconciliation
    dsimp only
    generalize t.pendingAccounts time = ids
    induction ids generalizing t with
    | nil => exact owned
    | cons id rest ih => exact ih (owned_reconcile owned id)
  | login userId =>
    rcases loginStatus_snd t userId time with same | reconciles
    · simpa only [serve, same] using owned
    · simpa only [serve, reconciles] using owned_reconcile owned userId
  | createUser email id =>
    refine kept_cases (P := fun t => t.Owned time) owned fun after creates => ?_
    obtain ⟨user, users, _, _, inserts, _, rfl⟩ := createUser_ok creates
    refine ⟨owned.created, fun s member => ?_⟩
    have known := owned.users s member
    dsimp only
    rw [KeyedList.get?_insert inserts]
    split
    · rfl
    · exact known
  | deleteAccount userId mfaVerified tombstone =>
    refine kept_cases (P := fun t => t.Owned time) owned fun after deletes => ?_
    obtain ⟨_, _, _, rows, _, known, _⟩ := deleteAccount_ok deletes
    rw [stamp_eq_restamp] at rows
    constructor
    · intro s member
      rw [rows] at member
      obtain ⟨old, inside, rfl⟩ := List.mem_map.mp member
      exact owned.created old inside
    · intro s member
      rw [rows] at member
      obtain ⟨old, inside, rfl⟩ := List.mem_map.mp member
      rw [known]
      exact owned.users old inside
  | clearHmacs taken =>
    constructor
    · intro s member
      obtain ⟨old, inside, rfl⟩ := mem_clear member
      exact owned.created old inside
    · intro s member
      obtain ⟨old, inside, rfl⟩ := mem_clear member
      exact owned.users old inside
  | deleteSanctions days taken =>
    exact ⟨fun s member => owned.created s (revoked_purged member).1,
      fun s member => owned.users s (revoked_purged member).1⟩

/-- Time alone makes an account pass only for an announced ban that no round has seen begin. -/
theorem respected_later {s : Moderation} {call : Call} (owned : s.tables.Owned s.now)
    (checked : s.checkedAt ≤ s.now) (respected : s.tables.Respected s.now)
    (order : s.now ≤ call.time)
    (starts : ∀ ban ∈ s.tables.sanctions.entries, ban.type = .ban → s.tables.revoked ban.id = false →
      lasts ban call.time = true → ban.createdAt < ban.startsAt → ban.startsAt ≤ call.time →
      ban.startsAt ≤ s.checkedAt) :
    s.tables.Respected call.time := by
  intro userId active
  rw [Bool.eq_false_iff]
  intro ban
  obtain ⟨b, member, owner, isBan, begun, still, stands⟩ := activeBan_iff.mp ban
  have begins : s.now < b.startsAt := by
    by_contra already
    have ran := activeBan_iff.mpr
      ⟨b, member, owner, isBan, not_lt.mp already, lasts_earlier order still, stands⟩
    exact Bool.false_ne_true ((respected userId active).symm.trans ran)
  have seen := starts b member isBan stands still
    ((owned.created b member).trans_lt begins) begun
  omega

end Tables

/-! ## Runs -/

variable {hmacSha256 : String → String}

structure Orderly (s : Moderation) : Prop where
  owned : s.tables.Owned s.now
  checked : s.checkedAt ≤ s.now
  respected : s.tables.Respected s.now

theorem orderly_serve {s : Moderation} {call : Call} (orderly : Orderly s)
    (order : s.now ≤ call.time) (starts : StartsChecked s call) :
    Orderly (s.serve hmacSha256 call) := by
  have owned : s.tables.Owned call.time :=
    ⟨fun b member => (orderly.owned.created b member).trans order, orderly.owned.users⟩
  refine ⟨Tables.owned_serve owned, ?_, ?_⟩
  · have before := orderly.checked.trans order
    unfold Moderation.serve
    dsimp only
    split
    · exact le_rfl
    · exact before
  · rcases starts with round | starts
    · obtain ⟨time, request⟩ := call
      cases request with
      | round => exact Tables.respected_round _ _
      | _ => exact round.elim
    · exact Tables.respected_serve
        (Tables.respected_later orderly.owned orderly.checked orderly.respected order starts) owned

theorem orderly_start (time : Int) : Orderly (Moderation.start time) :=
  ⟨⟨fun _ member => (List.not_mem_nil member).elim, fun _ member => (List.not_mem_nil member).elim⟩,
    le_rfl, fun _ active => by cases active⟩

end SwitchRemake.Matching

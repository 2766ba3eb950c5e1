import SwitchRemake.Matching.Moderation

/-!
# Account status

While the announced bans that have begun were seen by a round of the timer, the column follows the
set of sanctions. Between the start of such a ban and the next round the login goes by the column.
-/

namespace SwitchRemake.Matching
open Lib

variable {hmacSha256 : String → String}

namespace Tables
variable {t after : Tables} {userId : Nat} {now : Int}

theorem loginStatus_refuses (respected : t.Respected now) (ban : t.activeBan userId now = true) :
    (t.loginStatus userId now).1 ≠ some .active := by
  unfold loginStatus
  cases found : t.users.get? userId with
  | none => exact fun none => by cases none
  | some user =>
    have stands : t.statusOf userId = some user.accountStatus := by simp [statusOf, found]
    have refused : (t.reconcileLoginStatus userId user.accountStatus now).1 ≠ .active := by
      unfold reconcileLoginStatus
      split
      · intro active
        have passes := stands.trans (congrArg some active)
        exact Bool.false_ne_true ((respected userId passes).symm.trans ban)
      · rw [reconcileUserStatus_fst stands, ban]
        cases user.accountStatus <;> decide
    exact fun same => refused (Option.some.inj same)

theorem loginStatus_admits {status : AccountStatus} (stands : t.statusOf userId = some status)
    (alive : status ≠ .deleted) (free : t.activeBan userId now = false) :
    (t.loginStatus userId now).1 = some .active := by
  obtain ⟨user, found, rfl⟩ := Option.map_eq_some_iff.mp stands
  unfold loginStatus
  rw [found]
  have admitted : (t.reconcileLoginStatus userId user.accountStatus now).1 = .active := by
    unfold reconcileLoginStatus
    split
    · rename_i notBanned
      cases status : user.accountStatus with
      | active => rfl
      | banned => exact absurd status notBanned
      | deleted => exact absurd status alive
    · rw [reconcileUserStatus_fst stands, free]
      cases status : user.accountStatus with
      | deleted => exact absurd status alive
      | _ => rfl
  exact congrArg some admitted

/-- After a revocation every other sanction is as it was, and another ban that runs keeps the
status. -/
theorem revoke_spares {sanctionId : String} {type : SanctionType} {other : SanctionRow}
    (revokes : t.revoke sanctionId now = .ok after) (member : other ∈ t.sanctions.entries)
    (differs : other.id ≠ sanctionId) (runs : t.active type userId now other = true) :
    other ∈ after.sanctions.entries ∧ after.active type userId now other = true ∧
      (type = .ban → after.statusOf userId = t.statusOf userId) := by
  obtain ⟨sanction, revocations, _, inserts, change⟩ := revoke_ok revokes
  have still : ({ t with sanctionRevocations := revocations } : Tables).active type userId now other
      = true := by
    unfold active at runs ⊢
    rw [revoked_insert inserts]
    simpa [differs] using runs
  rcases change with rfl | ⟨rfl, alone, _⟩
  · exact ⟨member, still, fun _ => rfl⟩
  · refine ⟨member, still, ?_⟩
    rintro rfl
    rw [statusOf_setStatus]
    split
    · rename_i same
      rw [← same] at alone
      exact absurd (List.any_eq_true.mpr ⟨other, member, still⟩) (Bool.eq_false_iff.mp alone)
    · rfl

end Tables

theorem account_status_follows_sanctions {time : Int} {s : Moderation}
    (run : Reach (fun s call => s.now ≤ call.time ∧ StartsChecked s call)
      (Moderation.serve hmacSha256) (Moderation.start time) s) (userId : Nat) :
    (s.tables.activeBan userId s.now = true →
      s.tables.statusOf userId ≠ some .active ∧
      (s.tables.loginStatus userId s.now).1 ≠ some .active) ∧
    (∀ now, s.now ≤ now → StartsChecked s ⟨now, .login userId⟩ →
      s.tables.activeBan userId now = true → (s.tables.loginStatus userId now).1 ≠ some .active) ∧
    (∀ now status, s.tables.statusOf userId = some status → status ≠ .deleted →
      s.tables.activeBan userId now = false →
      (s.tables.reconcileUserStatus userId now).1 = .active ∧
      (s.tables.reconcileUserStatus userId now).2.statusOf userId = some .active ∧
      (s.tables.loginStatus userId now).1 = some .active ∧
      (s.tables.runScheduledReconciliation now).statusOf userId = some .active) ∧
    (∀ sanctionId now after, s.tables.revoke sanctionId now = .ok after →
      ∀ type, ∀ other ∈ s.tables.sanctions.entries, other.id ≠ sanctionId →
      s.tables.active type userId now other = true →
      other ∈ after.sanctions.entries ∧ after.active type userId now other = true ∧
      (type = .ban → after.statusOf userId = s.tables.statusOf userId)) := by
  have orderly : Orderly s := run.invariant (I := Orderly) (orderly_start time)
    fun _ _ before may => orderly_serve before may.1 may.2
  refine ⟨?_, ?_, ?_, ?_⟩
  · intro ban
    refine ⟨?_, Tables.loginStatus_refuses orderly.respected ban⟩
    intro active
    exact Bool.false_ne_true ((orderly.respected userId active).symm.trans ban)
  · intro now order starts ban
    refine Tables.loginStatus_refuses ?_ ban
    rcases starts with round | starts
    · exact round.elim
    · exact Tables.respected_later orderly.owned orderly.checked orderly.respected order starts
  · intro now status stands alive free
    refine ⟨?_, ?_, Tables.loginStatus_admits stands alive free, ?_⟩
    · rw [Tables.reconcileUserStatus_fst stands, free]
      cases status with
      | deleted => exact absurd rfl alive
      | _ => rfl
    · rw [Tables.statusOf_reconcile, if_pos rfl, stands, free, Option.map_some]
      cases status with
      | deleted => exact absurd rfl alive
      | _ => rfl
    · rw [(Tables.statusOf_round s.tables now userId).2, stands, free, Option.map_some]
      cases status with
      | deleted => exact absurd rfl alive
      | _ => rfl
  · intro sanctionId now after revokes type other member differs runs
    exact Tables.revoke_spares revokes member differs runs

/-- An account at 0, a ban announced at 1 for 10, and a login at 20. -/
def announcedBan : List Call :=
  [⟨0, .createUser "a" 1⟩, ⟨1, .apply ⟨1, .ban, some 10, none⟩ "ban"⟩, ⟨20, .login 1⟩]

theorem announced_ban_admits :
    let s := announcedBan.foldl (Moderation.serve id) (Moderation.start 0)
    s.now = 20 ∧ s.tables.activeBan 1 20 = true ∧ s.tables.statusOf 1 = some .active ∧
      (s.tables.loginStatus 1 20).1 = some .active := by
  decide +kernel

/-- The same account banned at once, and a warning taken back. -/
def immediateBan : List Call :=
  [⟨0, .createUser "a" 1⟩, ⟨1, .apply ⟨1, .ban, none, some 50⟩ "ban"⟩,
    ⟨2, .apply ⟨1, .warn, none, none⟩ "warning"⟩, ⟨3, .revoke "warning"⟩, ⟨20, .login 1⟩]

theorem immediate_ban_refuses :
    let s := immediateBan.foldl (Moderation.serve id) (Moderation.start 0)
    s.tables.statusOf 1 ≠ some .active ∧ (s.tables.loginStatus 1 s.now).1 ≠ some .active := by
  refine (account_status_follows_sanctions (Reach.of_list ?_) 1).1 (by decide +kernel)
  refine ⟨⟨by decide, .inr ?_⟩, ⟨by decide, .inr ?_⟩, ⟨by decide, .inr ?_⟩, ⟨by decide, .inr ?_⟩,
    ⟨by decide, .inr ?_⟩, trivial⟩
  all_goals decide +kernel

end SwitchRemake.Matching

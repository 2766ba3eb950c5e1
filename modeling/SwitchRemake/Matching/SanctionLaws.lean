import SwitchRemake.Lib.Runs
import SwitchRemake.Matching.Sanctions

/-!
# The status column against the set of sanctions

The column is a cache: `settled` is what it should say, and each writer is compared with that.
-/

namespace SwitchRemake.Matching
open Lib

/-- The status an account should have while a ban runs, or none does. -/
def settled (ban : Bool) : AccountStatus → AccountStatus
  | .deleted => .deleted
  | _ => if ban then .banned else .active

@[simp] theorem settled_settled (ban : Bool) (status : AccountStatus) :
    settled ban (settled ban status) = settled ban status := by
  cases status <;> cases ban <;> rfl

namespace Tables

/-- No account passes for active while a ban of it runs. -/
def Respected (t : Tables) (now : Int) : Prop :=
  ∀ userId, t.statusOf userId = some .active → t.activeBan userId now = false

theorem activeBan_iff {t : Tables} {userId : Nat} {now : Int} :
    t.activeBan userId now = true ↔ ∃ s ∈ t.sanctions.entries, s.userId = userId ∧ s.type = .ban ∧
      s.startsAt ≤ now ∧ lasts s now = true ∧ t.revoked s.id = false := by
  simp [activeBan, active, and_assoc]

theorem lasts_earlier {s : SanctionRow} {now later : Int} (order : now ≤ later)
    (still : lasts s later = true) : lasts s now = true := by
  unfold lasts at still ⊢
  cases ends : s.expiresAt with
  | none => rfl
  | some moment =>
    rw [ends, Option.all_some, decide_eq_true_eq] at still
    rw [Option.all_some, decide_eq_true_eq]
    omega

/-! ## Writing the status -/

theorem statusOf_setStatus (t : Tables) (userId other : Nat) (status : AccountStatus) :
    (t.setStatus userId status).statusOf other =
      if other = userId then (t.statusOf other).map fun _ => status else t.statusOf other := by
  unfold statusOf setStatus
  dsimp only
  rw [KeyedList.get?_modify]
  split
  · rw [Option.map_map, Option.map_map]
    rfl
  · rfl

@[simp] theorem activeBan_setStatus (t : Tables) (userId other : Nat) (status : AccountStatus)
    (now : Int) : (t.setStatus userId status).activeBan other now = t.activeBan other now := rfl

theorem respected_setStatus {t : Tables} {now : Int} (respected : t.Respected now) {userId : Nat}
    {status : AccountStatus} (fits : status = .active → t.activeBan userId now = false) :
    (t.setStatus userId status).Respected now := by
  intro other active
  rw [activeBan_setStatus]
  rw [statusOf_setStatus] at active
  split at active
  · rename_i same
    obtain ⟨_, _, same'⟩ := Option.map_eq_some_iff.mp active
    rw [same]
    exact fits same'
  · exact respected other active

/-! ## Reconciling -/

theorem reconcileUserStatus_fst {t : Tables} {userId : Nat} {now : Int} {status : AccountStatus}
    (stands : t.statusOf userId = some status) :
    (t.reconcileUserStatus userId now).1 = settled (t.activeBan userId now) status := by
  obtain ⟨user, found, rfl⟩ := Option.map_eq_some_iff.mp stands
  unfold reconcileUserStatus
  rw [found]
  dsimp only
  cases user.accountStatus <;> cases t.activeBan userId now <;> rfl

@[simp] theorem activeBan_reconcile (t : Tables) (userId other : Nat) (now now' : Int) :
    (t.reconcileUserStatus userId now).2.activeBan other now' = t.activeBan other now' := by
  unfold reconcileUserStatus
  split
  · rfl
  · repeat' split
    all_goals rfl

theorem statusOf_reconcile (t : Tables) (userId other : Nat) (now : Int) :
    (t.reconcileUserStatus userId now).2.statusOf other =
      if other = userId then (t.statusOf other).map (settled (t.activeBan userId now))
      else t.statusOf other := by
  by_cases same : other = userId
  · subst same
    rw [if_pos rfl]
    unfold reconcileUserStatus
    cases found : t.users.get? other with
    | none => simp [statusOf, found]
    | some user =>
      have stands : t.statusOf other = some user.accountStatus := by simp [statusOf, found]
      dsimp only
      cases status : user.accountStatus <;> cases ban : t.activeBan other now <;>
        simp [stands, status, settled, statusOf_setStatus]
  · rw [if_neg same]
    unfold reconcileUserStatus
    split
    · rfl
    · repeat' split
      all_goals first
        | rfl
        | exact (statusOf_setStatus t userId other _).trans (if_neg same)

theorem respected_reconcile {t : Tables} {now : Int} (respected : t.Respected now) (userId : Nat) :
    (t.reconcileUserStatus userId now).2.Respected now := by
  intro other active
  rw [activeBan_reconcile]
  rw [statusOf_reconcile] at active
  split at active
  · rename_i same
    subst same
    obtain ⟨status, _, isActive⟩ := Option.map_eq_some_iff.mp active
    cases ban : t.activeBan other now with
    | false => rfl
    | true =>
      rw [ban] at isActive
      cases status <;> cases isActive
  · exact respected other active

theorem fold_reconcile (ids : List Nat) (t : Tables) (now : Int) (userId : Nat) :
    (ids.foldl (fun t id => (t.reconcileUserStatus id now).2) t).activeBan userId now =
        t.activeBan userId now ∧
      (ids.foldl (fun t id => (t.reconcileUserStatus id now).2) t).statusOf userId =
        if userId ∈ ids then (t.statusOf userId).map (settled (t.activeBan userId now))
        else t.statusOf userId := by
  induction ids generalizing t with
  | nil => simp
  | cons id rest ih =>
    rw [List.foldl_cons]
    obtain ⟨ban, status⟩ := ih (t.reconcileUserStatus id now).2
    rw [activeBan_reconcile] at ban status
    refine ⟨ban, status.trans ?_⟩
    rw [statusOf_reconcile]
    by_cases here : userId = id
    · subst here
      rw [if_pos rfl, if_pos (List.mem_cons_self ..)]
      split
      · rw [Option.map_map]
        congr 1
        funext before
        exact settled_settled _ _
      · rfl
    · simp [here]

/-- A round leaves every account with the status it should have. -/
theorem statusOf_round (t : Tables) (now : Int) (userId : Nat) :
    (t.runScheduledReconciliation now).activeBan userId now = t.activeBan userId now ∧
      (t.runScheduledReconciliation now).statusOf userId =
        (t.statusOf userId).map (settled (t.activeBan userId now)) := by
  obtain ⟨ban, status⟩ := fold_reconcile (t.pendingAccounts now) t now userId
  refine ⟨ban, status.trans ?_⟩
  split
  · rfl
  · rename_i passed
    unfold pendingAccounts at passed
    simp only [List.mem_dedup, List.mem_append, List.mem_map, List.mem_filter, decide_eq_true_eq,
      not_or, not_exists, not_and, and_imp] at passed
    obtain ⟨notBanned, noBan⟩ := passed
    cases found : t.users.get? userId with
    | none => simp [statusOf, found]
    | some user =>
      obtain ⟨member, same⟩ := KeyedList.mem_of_get? found
      have quiet : t.activeBan userId now = false := by
        rw [Bool.eq_false_iff]
        intro ban
        obtain ⟨s, inside, whose, kind, begun, still, stands⟩ := activeBan_iff.mp ban
        exact noBan s inside (by simp [active, kind, begun, still, stands]) whose
      have stands : t.statusOf userId = some user.accountStatus := by simp [statusOf, found]
      rw [stands, quiet, Option.map_some]
      cases status : user.accountStatus with
      | banned => exact absurd same (notBanned user member status)
      | active => rfl
      | deleted => rfl

/-! ## Applying and revoking -/

theorem apply_ok {input : ApplySanctionInput} {id : String} {now : Int} {t after : Tables}
    (applies : t.apply input id now = .ok after) :
    ∃ s sanctions user, t.sanctions.insert? s = some sanctions ∧
      t.users.get? input.userId = some user ∧ user.accountStatus ≠ .deleted ∧
      s.userId = input.userId ∧ s.type = input.type ∧ s.expiresAt = input.expiresAt ∧
      s.createdAt = now ∧ s.emailHmac = none ∧
      after = if s.type = .ban ∧ s.startsAt ≤ now ∧ lasts s now = true then
          ({ t with sanctions } : Tables).setStatus input.userId .banned
        else { t with sanctions } := by
  unfold apply at applies
  dsimp only at applies
  split at applies
  · cases applies
  · split at applies
    · cases applies
    · rename_i user found
      split at applies
      · cases applies
      · rename_i alive
        split at applies
        · cases applies
        · rename_i sanctions inserts
          refine ⟨_, sanctions, user, inserts, found, alive, rfl, rfl, rfl, rfl, rfl, ?_⟩
          split at applies
          · rename_i immediate
            cases applies
            rw [if_pos]
            simpa [and_assoc] using immediate
          · rename_i later
            cases applies
            rw [if_neg]
            simpa [and_assoc] using later

theorem revoke_ok {sanctionId : String} {now : Int} {t after : Tables}
    (revokes : t.revoke sanctionId now = .ok after) :
    ∃ sanction revocations, t.sanctions.get? sanctionId = some sanction ∧
      t.sanctionRevocations.insert? ⟨sanctionId, now⟩ = some revocations ∧
      (after = { t with sanctionRevocations := revocations } ∨
        after = ({ t with sanctionRevocations := revocations } : Tables).setStatus sanction.userId
            .active ∧
          ({ t with sanctionRevocations := revocations } : Tables).activeBan sanction.userId now =
            false ∧
          t.statusOf sanction.userId = some .banned) := by
  unfold revoke at revokes
  split at revokes
  · cases revokes
  · rename_i sanction found
    split at revokes
    · cases revokes
    · rename_i revocations inserts
      refine ⟨sanction, revocations, found, inserts, ?_⟩
      dsimp only at revokes
      split at revokes
      · split at revokes
        · rename_i alone
          cases revokes
          rw [Bool.and_eq_true, Bool.not_eq_true', List.any_eq_false, decide_eq_true_eq] at alone
          refine .inr ⟨rfl, ?_, alone.2⟩
          rw [Bool.eq_false_iff]
          intro ban
          obtain ⟨s, member, whose, kind, begun, still, stands⟩ := activeBan_iff.mp ban
          refine alone.1 s member ?_
          have other : s.id ≠ sanctionId := by
            rintro rfl
            have gone : revocations.has s.id = true := by
              rw [KeyedList.has_eq_isSome, KeyedList.get?_insert inserts, if_pos rfl]
              rfl
            exact Bool.false_ne_true (stands.symm.trans gone)
          simp [active, other, whose, kind, begun, still, stands]
        · cases revokes
          exact .inl rfl
      · cases revokes
        exact .inl rfl

theorem revoked_insert {t : Tables} {sanctionId : String} {now : Int}
    {revocations : KeyedList RevocationRow.sanctionId}
    (inserts : t.sanctionRevocations.insert? ⟨sanctionId, now⟩ = some revocations) (id : String) :
    ({ t with sanctionRevocations := revocations } : Tables).revoked id =
      (t.revoked id || decide (id = sanctionId)) := by
  unfold revoked
  dsimp only
  rw [KeyedList.has_eq_isSome, KeyedList.has_eq_isSome, KeyedList.get?_insert inserts]
  by_cases same : id = sanctionId
  · simp [same]
  · simp [same]

end Tables
end SwitchRemake.Matching

import SwitchRemake.Matching.Moderation

/-!
# Registration after a deletion

Three queries decide whether an address of a deleted account is free: the registration check, the
stamping at the deletion and the clearing by retention. They agree on one predicate, `Bars`.
-/

namespace SwitchRemake.Matching
open Lib

variable {hmacSha256 : String → String}

/-- A ban without an end, and any sanction before its end, keeps an address. -/
def Bars (s : SanctionRow) (now : Int) : Prop :=
  (s.type = .ban ∧ s.expiresAt = none) ∨ ∃ ends, s.expiresAt = some ends ∧ now < ends

theorem barsUntil_iff {s : SanctionRow} {now : Int} :
    Tables.barsUntil s now = true ↔ Bars s now := by
  unfold Tables.barsUntil Bars
  cases s.expiresAt <;> simp

theorem Bars.earlier {s : SanctionRow} {now later : Int} (bars : Bars s later)
    (order : now ≤ later) : Bars s now := by
  rcases bars with permanent | ⟨ends, stands, before⟩
  · exact .inl permanent
  · exact .inr ⟨ends, stands, order.trans_lt before⟩

namespace Tables
variable {t after : Tables} {now : Int}

/-! ## The three queries -/

theorem isEmailRegistrationBlocked_iff {email : String} :
    t.isEmailRegistrationBlocked hmacSha256 email now = true ↔
      ∃ s ∈ t.sanctions.entries, s.emailHmac = some (hmacEmail hmacSha256 email) ∧
        t.revoked s.id = false ∧ Bars s now := by
  simp [isEmailRegistrationBlocked, barsUntil_iff, and_assoc]

theorem stamps_iff {userId : Nat} {s : SanctionRow} :
    t.stamps userId now s = true ↔ s.userId = userId ∧ t.revoked s.id = false ∧ Bars s now := by
  have same : t.stamps userId now s =
      (decide (s.userId = userId) && !t.revoked s.id && barsUntil s now) := rfl
  rw [same]
  simp [barsUntil_iff, and_assoc]

theorem clears_iff {s : SanctionRow} :
    t.clears now s = true ↔ s.emailHmac ≠ none ∧ ¬(t.revoked s.id = false ∧ Bars s now) := by
  unfold clears Bars
  cases s.emailHmac <;> cases s.expiresAt <;> cases t.revoked s.id <;> simp

/-! ## What keeps a stamp -/

theorem not_purged {s : SanctionRow} (sanctionDays : Nat) (bars : Bars s now)
    (stands : t.revoked s.id = false) (noWarning : s.type ≠ .warn) :
    t.purges (now - sanctionDays * millisecondsPerDay) s = false := by
  have absent : t.sanctionRevocations.get? s.id = none := by
    unfold revoked at stands
    rw [KeyedList.has_eq_isSome] at stands
    simpa using stands
  have passed : (0 : Int) ≤ sanctionDays * millisecondsPerDay :=
    mul_nonneg (Int.natCast_nonneg _) (by decide)
  unfold purges
  rw [absent]
  rcases bars with ⟨_, permanent⟩ | ⟨ends, stands', before⟩
  · simp [noWarning, permanent]
  · have late : ¬ends < now - sanctionDays * millisecondsPerDay := by omega
    simp [noWarning, stands', late]

/-- The row of a sanction that keeps the address of a deleted account. -/
structure Stamped (b : SanctionRow) (hmac : String) (t : Tables) : Prop where
  stands : t.revoked b.id = false
  row : ∃ s ∈ t.sanctions.entries, s.id = b.id ∧ s.userId = b.userId ∧ s.type = b.type ∧
    s.expiresAt = b.expiresAt ∧ s.emailHmac = some hmac

theorem deleted_setStatus {userId other : Nat} {status : AccountStatus}
    (deleted : t.statusOf other = some .deleted) (apart : other ≠ userId) :
    (t.setStatus userId status).statusOf other = some .deleted := by
  rw [statusOf_setStatus, if_neg apart]
  exact deleted

/-- A deleted account stays deleted. -/
theorem deleted_serve {call : Call} {userId : Nat} (deleted : t.statusOf userId = some .deleted) :
    (t.serve hmacSha256 call).statusOf userId = some .deleted := by
  obtain ⟨time, request⟩ := call
  have reconciled : ∀ other, (t.reconcileUserStatus other time).2.statusOf userId = some .deleted := by
    intro other
    rw [statusOf_reconcile, deleted]
    split <;> rfl
  cases request with
  | apply input id =>
    refine kept_cases (P := fun t => t.statusOf userId = some .deleted) deleted
      fun after applies => ?_
    obtain ⟨s, sanctions, user, _, found, alive, _, _, _, _, _, rfl⟩ := apply_ok applies
    split
    · refine deleted_setStatus deleted ?_
      rintro rfl
      rw [statusOf, found] at deleted
      exact alive (Option.some.inj deleted)
    · exact deleted
  | revoke sanctionId =>
    refine kept_cases (P := fun t => t.statusOf userId = some .deleted) deleted
      fun after revokes => ?_
    obtain ⟨sanction, revocations, _, _, rfl | ⟨rfl, _, banned⟩⟩ := revoke_ok revokes
    · exact deleted
    · refine deleted_setStatus deleted ?_
      rintro rfl
      rw [deleted] at banned
      cases banned
  | round => exact (statusOf_round t time userId).2.trans (by rw [deleted]; rfl)
  | login other =>
    rcases loginStatus_snd t other time with same | reconciles
    · simpa only [serve, same] using deleted
    · simpa only [serve, reconciles] using reconciled other
  | createUser email id =>
    refine kept_cases (P := fun t => t.statusOf userId = some .deleted) deleted
      fun after creates => ?_
    obtain ⟨user, users, rfl, _, inserts, _, rfl⟩ := createUser_ok creates
    obtain ⟨fresh, rfl⟩ := KeyedList.insert?_eq_some.mp inserts
    have apart : userId ≠ user.id := by
      rintro rfl
      rw [statusOf, fresh] at deleted
      cases deleted
    unfold statusOf at deleted ⊢
    dsimp only
    rw [KeyedList.get?_set, if_neg apart]
    exact deleted
  | deleteAccount other mfaVerified tombstone =>
    refine kept_cases (P := fun t => t.statusOf userId = some .deleted) deleted
      fun after deletes => ?_
    obtain ⟨_, _, _, _, _, _, status⟩ := deleteAccount_ok deletes
    rw [status, deleted]
    split <;> rfl
  | clearHmacs taken => exact deleted
  | deleteSanctions days taken => exact deleted

theorem stamped_serve {call : Call} {b : SanctionRow} {hmac : String} (stamped : Stamped b hmac t)
    (deleted : t.statusOf b.userId = some .deleted) (bars : Bars b call.time)
    (noWarning : b.type ≠ .warn)
    (unrevoked : ∀ sanctionId, call.request = .revoke sanctionId → sanctionId ≠ b.id) :
    Stamped b hmac (t.serve hmacSha256 call) := by
  obtain ⟨stands, s, member, sameId, sameUser, sameType, sameEnd, stamp⟩ := stamped
  have barsRow : Bars s call.time := by
    unfold Bars at bars ⊢
    rwa [sameType, sameEnd]
  obtain ⟨time, request⟩ := call
  cases request with
  | apply input id =>
    refine kept_cases (P := Stamped b hmac) ⟨stands, s, member, sameId, sameUser, sameType, sameEnd,
      stamp⟩ fun after applies => ?_
    obtain ⟨new, sanctions, _, inserts, _, _, _, _, _, _, _, rfl⟩ := apply_ok applies
    obtain ⟨fresh, rfl⟩ := KeyedList.insert?_eq_some.mp inserts
    have stays : s ∈ (t.sanctions.set new).entries :=
      KeyedList.mem_set.mpr (.inr ⟨member, KeyedList.get?_eq_none.mp fresh s member⟩)
    split
    · exact ⟨stands, s, stays, sameId, sameUser, sameType, sameEnd, stamp⟩
    · exact ⟨stands, s, stays, sameId, sameUser, sameType, sameEnd, stamp⟩
  | revoke sanctionId =>
    refine kept_cases (P := Stamped b hmac) ⟨stands, s, member, sameId, sameUser, sameType, sameEnd,
      stamp⟩ fun after revokes => ?_
    obtain ⟨_, revocations, _, inserts, change⟩ := revoke_ok revokes
    have still : ({ t with sanctionRevocations := revocations } : Tables).revoked b.id = false := by
      rw [revoked_insert inserts, stands, Bool.false_or]
      exact decide_eq_false fun same => unrevoked sanctionId rfl same.symm
    rcases change with rfl | ⟨rfl, _⟩
    · exact ⟨still, s, member, sameId, sameUser, sameType, sameEnd, stamp⟩
    · exact ⟨still, s, member, sameId, sameUser, sameType, sameEnd, stamp⟩
  | round =>
    obtain ⟨rows, revocations⟩ := sanctions_round t time
    refine ⟨?_, s, rows.symm ▸ member, sameId, sameUser, sameType, sameEnd, stamp⟩
    unfold revoked at stands ⊢
    exact revocations.symm ▸ stands
  | login other =>
    rcases loginStatus_snd t other time with same | reconciles
    · simpa only [serve, same] using
        ⟨stands, s, member, sameId, sameUser, sameType, sameEnd, stamp⟩
    · obtain ⟨rows, revocations⟩ := sanctions_reconcile t other time
      simp only [serve, reconciles]
      refine ⟨?_, s, rows.symm ▸ member, sameId, sameUser, sameType, sameEnd, stamp⟩
      unfold revoked at stands ⊢
      exact revocations.symm ▸ stands
  | createUser email id =>
    refine kept_cases (P := Stamped b hmac) ⟨stands, s, member, sameId, sameUser, sameType, sameEnd,
      stamp⟩ fun after creates => ?_
    obtain ⟨_, users, _, _, _, _, rfl⟩ := createUser_ok creates
    exact ⟨stands, s, member, sameId, sameUser, sameType, sameEnd, stamp⟩
  | deleteAccount other mfaVerified tombstone =>
    refine kept_cases (P := Stamped b hmac) ⟨stands, s, member, sameId, sameUser, sameType, sameEnd,
      stamp⟩ fun after deletes => ?_
    obtain ⟨user, found, alive, rows, revocations, _, _⟩ := deleteAccount_ok deletes
    -- The account of the sanction cannot be deleted a second time.
    have apart : s.userId ≠ other := by
      rintro rfl
      rw [← sameUser, statusOf, found] at deleted
      exact alive (Option.some.inj deleted)
    refine ⟨?_, s, ?_, sameId, sameUser, sameType, sameEnd, stamp⟩
    · unfold revoked at stands ⊢
      exact revocations.symm ▸ stands
    · rw [rows]
      refine List.mem_map.mpr ⟨s, member, if_neg ?_⟩
      intro stamps
      exact apart (stamps_iff.mp stamps).1
  | clearHmacs taken =>
    have untouched : t.clears time s = false := by
      rw [Bool.eq_false_iff]
      intro clears
      exact (clears_iff.mp clears).2 ⟨sameId.symm ▸ stands, barsRow⟩
    refine ⟨stands, s, ?_, sameId, sameUser, sameType, sameEnd, stamp⟩
    exact List.mem_map.mpr ⟨s, member, if_neg (by simp [untouched])⟩
  | deleteSanctions days taken =>
    have untouched := not_purged days barsRow (sameId.symm ▸ stands)
      (sameType.symm ▸ noWarning)
    have stays : s ∈ (t.deleteExpiredSanctions (time - days * millisecondsPerDay) taken).sanctions.entries :=
      KeyedList.mem_filter.mpr ⟨member, by simp [untouched]⟩
    refine ⟨?_, s, stays, sameId, sameUser, sameType, sameEnd, stamp⟩
    have same := (revoked_purged stays).2
    rw [sameId] at same
    exact same.trans stands

/-- A row after a call is one from before, restamped perhaps, or the one that was applied. -/
theorem rows_serve {call : Call} {s : SanctionRow}
    (member : s ∈ (t.serve hmacSha256 call).sanctions.entries) :
    (∃ old ∈ t.sanctions.entries, s.type = old.type ∧ s.expiresAt = old.expiresAt) ∨
      ∃ input id, call.request = .apply input id ∧ s.type = input.type ∧
        s.expiresAt = input.expiresAt := by
  obtain ⟨time, request⟩ := call
  have same : s ∈ t.sanctions.entries →
      ∃ old ∈ t.sanctions.entries, s.type = old.type ∧ s.expiresAt = old.expiresAt :=
    fun old => ⟨s, old, rfl, rfl⟩
  cases request with
  | apply input id =>
    unfold serve at member
    dsimp only at member
    cases applies : t.apply input id time with
    | error _ =>
      rw [applies] at member
      exact .inl (same member)
    | ok after =>
      obtain ⟨new, sanctions, _, inserts, _, _, _, kind, ends, _, _, change⟩ := apply_ok applies
      obtain ⟨_, rfl⟩ := KeyedList.insert?_eq_some.mp inserts
      rw [applies] at member
      have inside : s ∈ (t.sanctions.set new).entries := by
        have rows : after.sanctions = t.sanctions.set new := by
          rw [change]
          split <;> rfl
        exact rows ▸ member
      rcases KeyedList.mem_set.mp inside with rfl | ⟨old, _⟩
      · exact .inr ⟨input, id, rfl, kind, ends⟩
      · exact .inl (same old)
  | revoke sanctionId =>
    refine .inl (same ?_)
    have rows : (t.serve hmacSha256 ⟨time, .revoke sanctionId⟩).sanctions = t.sanctions := by
      refine kept_cases (P := fun after => after.sanctions = t.sanctions) rfl fun after revokes => ?_
      obtain ⟨_, _, _, _, rfl | ⟨rfl, _⟩⟩ := revoke_ok revokes <;> rfl
    exact rows ▸ member
  | round => exact .inl (same ((sanctions_round t time).1 ▸ member))
  | login other =>
    refine .inl (same ?_)
    rcases loginStatus_snd t other time with unchanged | reconciles
    · simpa only [serve, unchanged] using member
    · rw [← (sanctions_reconcile t other time).1]
      simpa only [serve, reconciles] using member
  | createUser email id =>
    refine .inl (same ?_)
    have rows : (t.serve hmacSha256 ⟨time, .createUser email id⟩).sanctions = t.sanctions := by
      refine kept_cases (P := fun after => after.sanctions = t.sanctions) rfl fun after creates => ?_
      obtain ⟨_, _, _, _, _, _, rfl⟩ := createUser_ok creates
      rfl
    exact rows ▸ member
  | deleteAccount other mfaVerified tombstone =>
    unfold serve at member
    dsimp only at member
    cases deletes : t.deleteAccount hmacSha256 other mfaVerified tombstone time with
    | error _ =>
      rw [deletes] at member
      exact .inl (same member)
    | ok after =>
      obtain ⟨_, _, _, rows, _⟩ := deleteAccount_ok deletes
      rw [deletes] at member
      have inside : s ∈ after.sanctions.entries := member
      rw [rows, stamp_eq_restamp] at inside
      obtain ⟨old, before, rfl⟩ := List.mem_map.mp inside
      exact .inl ⟨old, before, rfl, rfl⟩
  | clearHmacs taken =>
    obtain ⟨old, before, rfl⟩ := mem_clear member
    exact .inl ⟨old, before, rfl, rfl⟩
  | deleteSanctions days taken => exact .inl (same (revoked_purged member).1)

end Tables

/-! ## Runs -/

/-- The calls come in order, and a warning has no duration: the only caller of `apply` refuses one. -/
def Requested (s : Moderation) (call : Call) : Prop :=
  s.now ≤ call.time ∧ ∀ input id, call.request = .apply input id → input.type = .warn →
    input.expiresAt = none

theorem warning_has_no_end {time : Int} {s : Moderation}
    (run : Reach Requested (Moderation.serve hmacSha256) (Moderation.start time) s) :
    ∀ b ∈ s.tables.sanctions.entries, b.type = .warn → b.expiresAt = none := by
  induction run with
  | refl => exact fun _ member => (List.not_mem_nil member).elim
  | step _ may ih =>
    intro b member warns
    rcases Tables.rows_serve member with ⟨old, before, kind, ends⟩ | ⟨input, id, asks, kind, ends⟩
    · exact ends.trans (ih old before (kind.symm.trans warns))
    · exact ends.trans (may.2 input id asks (kind.symm.trans warns))

/-- Only the address of `email` is asked for. -/
theorem createUser_refused {t : Tables} {email : String} {id : Nat} {now : Int}
    (blocked : t.isEmailRegistrationBlocked hmacSha256 (normalizedEmail email) now = true) :
    t.createUser hmacSha256 email id now = .error (.conflict "EMAIL_UNAVAILABLE") := by
  unfold Tables.createUser
  exact if_pos blocked

/-- A sanction that keeps the address when its account is deleted keeps it as long as it lasts, and
the three queries select the same sanctions. -/
theorem sanctions_survive_deletion {time now : Int} {before s : Moderation} {after : Tables}
    {user : AccountRow} {mfaVerified : Option String} {tombstone : String}
    (run : Reach Requested (Moderation.serve hmacSha256) (Moderation.start time) before)
    (found : before.tables.users.get? user.id = some user)
    (deletes : before.tables.deleteAccount hmacSha256 user.id mfaVerified tombstone now = .ok after) :
    (∀ b ∈ before.tables.sanctions.entries, b.userId = user.id →
      before.tables.revoked b.id = false → Bars b now →
      Reach (fun s call => Requested s call ∧ call.request ≠ .revoke b.id)
        (Moderation.serve hmacSha256) ⟨after, now, before.checkedAt⟩ s →
      ∀ later, s.now ≤ later → Bars b later → ∀ email id, normalizedEmail email = user.email →
      s.tables.createUser hmacSha256 email id later = .error (.conflict "EMAIL_UNAVAILABLE")) ∧
    (∀ (t : Tables) (email : String) (userId : Nat) (now : Int),
      (t.isEmailRegistrationBlocked hmacSha256 email now = true ↔
        ∃ b ∈ t.sanctions.entries, b.emailHmac = some (hmacEmail hmacSha256 email) ∧
          t.revoked b.id = false ∧ Bars b now) ∧
      ∀ b, (t.stamps userId now b = true ↔
          b.userId = userId ∧ t.revoked b.id = false ∧ Bars b now) ∧
        (t.clears now b = true ↔
          b.emailHmac ≠ none ∧ ¬(t.revoked b.id = false ∧ Bars b now))) ∧
    after.sanctions.entries = before.tables.sanctions.entries.map fun b =>
      if before.tables.stamps user.id now b then
        { b with emailHmac := some (hmacEmail hmacSha256 user.email) } else b := by
  obtain ⟨row, stands, _, rows, revocations, _, status⟩ := Tables.deleteAccount_ok deletes
  have sameUser : row = user := Option.some.inj (stands.symm.trans found)
  subst sameUser
  refine ⟨?_, fun t email userId now => ⟨Tables.isEmailRegistrationBlocked_iff,
    fun b => ⟨Tables.stamps_iff, Tables.clears_iff⟩⟩, rows⟩
  intro b member whose unrevoked bars second later lateness still email id sameEmail
  have noWarning : b.type ≠ .warn := by
    intro warns
    have noEnd := warning_has_no_end run b member warns
    rcases bars with ⟨ban, _⟩ | ⟨ends, hasEnd, _⟩
    · rw [warns] at ban
      cases ban
    · rw [noEnd] at hasEnd
      cases hasEnd
  -- The row of the sanction keeps its stamp in every state of the run in which the sanction lasts.
  have kept : s.tables.statusOf b.userId = some .deleted ∧
      (Bars b s.now → Tables.Stamped b (hmacEmail hmacSha256 row.email) s.tables) := by
    clear lateness
    induction second with
    | refl =>
      constructor
      · rw [status, whose, if_pos rfl, Tables.statusOf, stands]
        rfl
      · intro _
        have stamps := Tables.stamps_iff.mpr ⟨whose, unrevoked, bars⟩
        refine ⟨?_, { b with emailHmac := some (hmacEmail hmacSha256 row.email) }, ?_, rfl, rfl, rfl,
          rfl, rfl⟩
        · unfold Tables.revoked at unrevoked ⊢
          exact revocations.symm ▸ unrevoked
        · change _ ∈ after.sanctions.entries
          rw [rows]
          exact List.mem_map.mpr ⟨b, member, if_pos stamps⟩
    | @step s call _ may ih =>
      refine ⟨Tables.deleted_serve ih.1, fun barsLater => ?_⟩
      refine Tables.stamped_serve (ih.2 (barsLater.earlier may.1.1)) ih.1 barsLater noWarning ?_
      rintro sanctionId asks rfl
      exact may.2 asks
  obtain ⟨unrevokedNow, stamped, inside, sameId, _, sameType, sameEnd, stamp⟩ :=
    kept.2 (still.earlier lateness)
  refine createUser_refused (Tables.isEmailRegistrationBlocked_iff.mpr
    ⟨stamped, inside, ?_, sameId.symm ▸ unrevokedNow, ?_⟩)
  · rw [stamp, sameEmail]
  · unfold Bars at still ⊢
    rwa [sameType, sameEnd]

/-- An account that is banned for good and deleted, and a round of retention. -/
theorem banned_address_stays :
    let before := [⟨0, .createUser "a" 1⟩, ⟨1, .apply ⟨1, .ban, none, none⟩ "ban"⟩].foldl
      (Moderation.serve id) (Moderation.start 0)
    let after := (before.tables.deleteAccount id 1 none "gone" 2).toOption.getD .empty
    (after.deleteExpiredSanctionEmailHmacs 3 fun _ => true).createUser id " A " 2 4 =
      .error (.conflict "EMAIL_UNAVAILABLE") := by
  intro before after
  have run : Reach Requested (Moderation.serve id) (Moderation.start 0) before := by
    refine Reach.of_list ⟨⟨by decide, ?_⟩, ⟨by decide, ?_⟩, trivial⟩
    · intro _ _ asks
      cases asks
    · intro _ _ asks warns
      cases asks
      cases warns
  have deletes : before.tables.deleteAccount id 1 none "gone" 2 = .ok after := by rfl
  have cleared : Reach (fun s call => Requested s call ∧ call.request ≠ .revoke "ban")
      (Moderation.serve id) ⟨after, 2, before.checkedAt⟩
      ([⟨3, .clearHmacs fun _ => true⟩].foldl (Moderation.serve id) ⟨after, 2, before.checkedAt⟩) :=
    Reach.of_list ⟨⟨⟨by decide, fun _ _ asks => by cases asks⟩, fun asks => by cases asks⟩, trivial⟩
  exact (@sanctions_survive_deletion id 0 2 before _ after ⟨1, "a", .banned, none⟩ none "gone" run
    (by decide +kernel) deletes).1 ⟨"ban", 1, .ban, 1, none, none, 1⟩ (by decide +kernel) rfl
    (by decide +kernel) (.inl ⟨rfl, rfl⟩) cleared 4 (by decide) (.inl ⟨rfl, rfl⟩) " A " 2
    (by decide +kernel)

end SwitchRemake.Matching

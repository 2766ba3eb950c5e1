import SwitchRemake.Auth.FactorAuthority

/-!
# Login challenges

A claimed challenge is out of its key until its one call puts it back or completes it. What is put
back has the lifetime it had when it was claimed.
-/

namespace SwitchRemake.Auth.Mfa
open Lib Redis

variable {security : Security} {s : MfaRun}

def Event.issues : Event → Option String
  | .issued token _ => some token
  | _ => none

def Event.completes : Event → Option String
  | .completed token => some token
  | _ => none

def Purpose.attempt : Purpose → Option LoginAttempt
  | .login attempt => some attempt
  | .operation _ => none

/-- The challenge that a call has in its hands. -/
def MfaCall.attempt : MfaCall → Option LoginAttempt
  | .readSetting request | .backupRead request | .backupUse request _ | .mailed request
  | .totpUse request _ _ => request.purpose.attempt
  | .loginDone attempt | .release attempt => some attempt
  | _ => none

theorem accept_attempt (request : FactorRequest) (method : MfaMethod) :
    (accept request method).attempt = request.purpose.attempt := by
  unfold accept
  cases request.purpose with
  | login attempt =>
    dsimp only
    split <;> rfl
  | operation kind => rfl

theorem refuse_attempt (request : FactorRequest) :
    (refuse request).attempt = request.purpose.attempt := by
  unfold refuse
  cases request.purpose <;> rfl

/-- What a turn can do to the challenges. -/
inductive ChallengeTurn (keys : MfaKeys) (draw : Draw) (call : MfaCall) : Turned → Prop where
  | same {turned : Turned} (challenges : turned.keys.challenges = keys.challenges)
      (held : turned.call.attempt = call.attempt) (issues : turned.event.bind Event.issues = none)
      (completes : turned.event.bind Event.completes = none) : ChallengeTurn keys draw call turned
  | issues {turned : Turned} {state : LoginChallengeState} (is : call = .beginStore state)
      (challenges : turned.keys.challenges = fun other => if other = draw.token then
        .put keys.now (LOGIN_CHALLENGE_TTL_SECONDS * 1000) (.challenge state) else keys.challenges other)
      (held : turned.call.attempt = none)
      (event : turned.event = some (.issued draw.token (keys.now + LOGIN_CHALLENGE_TTL_SECONDS * 1000))) :
      ChallengeTurn keys draw call turned
  | drops {turned : Turned} (token : String)
      (challenges : turned.keys.challenges = fun other => if other = token then none else keys.challenges other)
      (held : turned.call.attempt = none) (event : turned.event = none) :
      ChallengeTurn keys draw call turned
  | claims {turned : Turned} {a : LoginAttempt} {entry : Timed LoginValue} (before : call.attempt = none)
      (there : keys.challenges a.token = some entry)
      (remaining : keys.now + a.remainingTtlMs = entry.expiresAt) (left : 1 ≤ a.remainingTtlMs)
      (challenges : turned.keys.challenges = fun other =>
        if other = a.token then none else keys.challenges other)
      (held : turned.call.attempt = some a) (event : turned.event = some (.claimed a.token)) :
      ChallengeTurn keys draw call turned
  | completes {turned : Turned} {attempt : LoginAttempt} (is : call = .loginDone attempt)
      (challenges : turned.keys.challenges = keys.challenges) (held : turned.call.attempt = none)
      (event : turned.event = some (.completed attempt.token)) : ChallengeTurn keys draw call turned
  | restores {turned : Turned} {attempt : LoginAttempt} (is : call = .release attempt)
      (borrowed : (keys.claims attempt.token).get keys.now = some (.claim attempt.claimId))
      (challenges : turned.keys.challenges = fun other => if other = attempt.token then
        .put keys.now (max 1 attempt.remainingTtlMs) (.challenge attempt.state) else keys.challenges other)
      (held : turned.call.attempt = none) (event : turned.event = none) :
      ChallengeTurn keys draw call turned
  | loses {turned : Turned} {attempt : LoginAttempt} (is : call = .release attempt)
      (challenges : turned.keys.challenges = keys.challenges) (held : turned.call.attempt = none)
      (event : turned.event = none) : ChallengeTurn keys draw call turned

theorem claim_cases {α : Type} [DecidableEq α] (now : Nat) (key claimKey : Cell α) (value claim : α)
    (ttl : Nat) : ((compareAndClaim now key value claimKey claim ttl).1 ≤ 0 ∧
        (compareAndClaim now key value claimKey claim ttl).2.1 = key ∧
        (compareAndClaim now key value claimKey claim ttl).2.2 = claimKey) ∨
      ∃ entry, key = some entry ∧ now ≤ entry.expiresAt ∧
        (compareAndClaim now key value claimKey claim ttl).1 = (entry.expiresAt - now : Nat) ∧
        (compareAndClaim now key value claimKey claim ttl).2.1 = none := by
  unfold compareAndClaim
  split
  · exact .inl ⟨by simp, rfl, rfl⟩
  · split
    · exact .inl ⟨by simp, rfl, rfl⟩
    · next there =>
      rw [not_not] at there
      obtain ⟨entry, rfl, _, alive⟩ := Cell.eq_some_of_get there
      exact .inr ⟨entry, rfl, alive, rfl, rfl⟩

theorem turn_challenge (security : Security) (keys : MfaKeys) (account : Account) (draw : Draw)
    (call : MfaCall) : ChallengeTurn keys draw call (call.turn security keys account draw) := by
  cases call with
  | beginStore state =>
    refine .issues rfl rfl ?_ rfl
    simp only [MfaCall.turn]
    split <;> rfl
  | beginSend token =>
    cases sent : draw.mail with
    | true => exact .same (by simp [MfaCall.turn, sent]) rfl rfl rfl
    | false => exact .drops token (by simp [MfaCall.turn, sent, MfaKeys.setChallenge]) rfl rfl
  | loginRead token code =>
    refine .same rfl ?_ rfl rfl
    simp only [MfaCall.turn]
    split <;> rfl
  | loginClaim token code state =>
    rcases claim_cases keys.now (keys.challenges token) (keys.claims token) (.challenge state)
      (.claim draw.claimId) LOGIN_CHALLENGE_CLAIM_TTL_SECONDS with
      ⟨refused, key, _⟩ | ⟨entry, there, alive, remaining, key⟩
    · simp only [MfaCall.turn, if_pos refused]
      refine .same ?_ rfl rfl rfl
      funext other
      simp only [MfaKeys.setClaim, MfaKeys.setChallenge, key]
      split <;> simp_all
    · simp only [MfaCall.turn]
      by_cases out : entry.expiresAt - keys.now = 0
      · rw [if_pos (by omega)]
        exact .drops token (by simp [MfaKeys.setClaim, MfaKeys.setChallenge, key]) rfl rfl
      · rw [if_neg (by omega)]
        refine .claims (a := ⟨token, state, draw.claimId, _⟩) rfl there ?_ ?_
          (by simp [MfaKeys.setClaim, MfaKeys.setChallenge, key]) rfl rfl
        · simp only [remaining, Int.toNat_natCast]
          omega
        · simp only [remaining, Int.toNat_natCast]
          omega
  | readMethod operation code =>
    refine .same rfl ?_ rfl rfl
    simp only [MfaCall.turn, authorize]
    split
    · split <;> rfl
    · split
      · rfl
      · split <;> rfl
  | readSetting request =>
    refine .same rfl ?_ rfl rfl
    simp only [MfaCall.turn]
    split
    · exact refuse_attempt request
    · split
      · exact refuse_attempt request
      · split
        · rfl
        · split
          · rfl
          · split
            · exact refuse_attempt request
            · rfl
  | backupRead request =>
    refine .same rfl ?_ rfl rfl
    simp only [MfaCall.turn]
    split
    · exact refuse_attempt request
    · split
      · rfl
      · exact refuse_attempt request
  | backupUse request row =>
    simp only [MfaCall.turn]
    split
    · exact .same rfl (accept_attempt _ _) rfl rfl
    · exact .same rfl (refuse_attempt request) rfl rfl
  | mailed request =>
    simp only [MfaCall.turn]
    split
    · exact .same rfl (accept_attempt _ _) rfl rfl
    · exact .same rfl (refuse_attempt request) rfl rfl
  | totpUse request secret step =>
    simp only [MfaCall.turn]
    split
    · exact .same rfl (refuse_attempt request) rfl rfl
    · split
      · exact .same rfl (accept_attempt _ _) rfl rfl
      · exact .same rfl (refuse_attempt request) rfl rfl
  | loginDone attempt => exact .completes rfl rfl rfl rfl
  | createSession state =>
    simp only [MfaCall.turn]
    split <;> exact .same rfl rfl rfl rfl
  | release attempt =>
    by_cases borrowed : (keys.claims attempt.token).get keys.now = some (.claim attempt.claimId)
    · exact .restores rfl borrowed (by simp [MfaCall.turn, releaseClaim, borrowed, MfaKeys.setChallenge,
        MfaKeys.setClaim]) rfl rfl
    · refine .loses rfl ?_ rfl rfl
      funext other
      simp only [MfaCall.turn, releaseClaim, if_pos borrowed, MfaKeys.setChallenge, MfaKeys.setClaim]
      split <;> simp_all
  | transaction operation authorization =>
    simp only [MfaCall.turn]
    split
    · cases authorized account operation authorization <;> exact .same rfl rfl rfl rfl
    · exact .same rfl rfl rfl rfl
  | isOver => exact .same rfl rfl rfl rfl

/-! ## Once -/

/-- The call at a place has this challenge in its hands. -/
def MfaRun.Holds (s : MfaRun) (place : Nat) (a : LoginAttempt) : Prop :=
  ∃ call, s.calls[place]? = some call ∧ call.attempt = some a

/-- A challenge is in its key, or in the hands of one call, or completed, or none of these. -/
structure ChallengesOnce (s : MfaRun) : Prop where
  fresh : s.tokens.Nodup
  standing : ∀ token entry, s.keys.challenges token = some entry → token ∈ s.tokens ∧
    token ∉ s.told Event.completes ∧ ∀ place a, s.Holds place a → a.token ≠ token
  held : ∀ place a, s.Holds place a → a.token ∈ s.tokens ∧ a.token ∉ s.told Event.completes
  alone : ∀ p q a b, s.Holds p a → s.Holds q b → a.token = b.token → p = q
  known : ∀ token ∈ s.told Event.completes, token ∈ s.tokens
  once : (s.told Event.completes).Nodup

theorem tokens_eq : s.tokens = s.told Event.issues := by
  simp only [MfaRun.tokens, MfaRun.told]
  congr 1

theorem send_holds {place : Nat} {draw : Draw} {call : MfaCall} (found : s.calls[place]? = some call)
    {other : Nat} {a : LoginAttempt} (holds : (s.send security place draw call).Holds other a) :
    other = place ∧ (call.turn security s.keys s.account draw).call.attempt = some a ∨
      other ≠ place ∧ s.Holds other a := by
  obtain ⟨result, here, held⟩ := holds
  rcases MfaRun.send_calls found here with ⟨rfl, rfl⟩ | ⟨differs, old⟩
  · exact .inl ⟨rfl, held⟩
  · exact .inr ⟨differs, result, old, held⟩

namespace ChallengesOnce
variable {place : Nat} {draw : Draw} {call : MfaCall}

theorem start (account : Account) : ChallengesOnce (.start account) where
  fresh := List.nodup_nil
  standing := by simp [MfaRun.start]
  held := by simp [MfaRun.start, MfaRun.Holds]
  alone := by simp [MfaRun.start, MfaRun.Holds]
  known := by simp [MfaRun.start, MfaRun.told]
  once := List.nodup_nil

theorem begins (once : ChallengesOnce s) (free : call.attempt = none) :
    ChallengesOnce (s.begin call) := by
  have holds {other : Nat} {a : LoginAttempt} (holds : (s.begin call).Holds other a) : s.Holds other a := by
    obtain ⟨result, here, held⟩ := holds
    rcases MfaRun.begin_calls here with old | ⟨_, rfl⟩
    · exact ⟨result, old, held⟩
    · rw [free] at held
      cases held
  exact {
    fresh := once.fresh
    standing := by
      intro token entry there
      obtain ⟨issued, open_, free⟩ := once.standing token entry there
      exact ⟨issued, open_, fun place a here => free place a (holds here)⟩
    held := fun place a here => once.held place a (holds here)
    alone := fun p q a b first second => once.alone p q a b (holds first) (holds second)
    known := once.known
    once := once.once }

/-- No challenge is new, none is completed, and what is in a key or in a hand was there before. -/
theorem fewer (once : ChallengesOnce s) {s' : MfaRun} (tokens : s'.tokens = s.tokens)
    (completes : s'.told Event.completes = s.told Event.completes)
    (standing : ∀ token entry, s'.keys.challenges token = some entry →
      ∃ entry, s.keys.challenges token = some entry)
    (holds : ∀ place a, s'.Holds place a → s.Holds place a) : ChallengesOnce s' where
  fresh := tokens ▸ once.fresh
  standing token entry there := by
    obtain ⟨before, here⟩ := standing token entry there
    obtain ⟨issued, open_, free⟩ := once.standing token before here
    rw [tokens, completes]
    exact ⟨issued, open_, fun place a held => free place a (holds place a held)⟩
  held place a here := by
    rw [tokens, completes]
    exact once.held place a (holds place a here)
  alone p q a b first second := once.alone p q a b (holds p a first) (holds q b second)
  known := by
    rw [tokens, completes]
    exact once.known
  once := completes ▸ once.once

theorem send (once : ChallengesOnce s) (found : s.calls[place]? = some call)
    (may : s.Allowed (.turn place draw)) : ChallengesOnce (s.send security place draw call) := by
  have issued := told_send security s Event.issues place draw call
  have completed := told_send security s Event.completes place draw call
  rw [← tokens_eq, ← tokens_eq] at issued
  have keys : (s.send security place draw call).keys =
    (call.turn security s.keys s.account draw).keys := rfl
  cases turn_challenge security s.keys s.account draw call with
  | same challenges held issues completes =>
    rw [issues] at issued
    rw [completes] at completed
    refine once.fewer (by simpa using issued) (by simpa using completed) (fun token entry there => ?_)
      fun other a holds => ?_
    · rw [keys, challenges] at there
      exact ⟨entry, there⟩
    · rcases send_holds found holds with ⟨rfl, now⟩ | ⟨_, old⟩
      · exact ⟨call, found, held ▸ now⟩
      · exact old
  | drops token challenges held event =>
    rw [event] at issued completed
    refine once.fewer (by simpa using issued) (by simpa using completed) (fun other entry there => ?_)
      fun other a holds => ?_
    · rw [keys, challenges] at there
      dsimp only at there
      split at there
      · cases there
      · exact ⟨entry, there⟩
    · rcases send_holds found holds with ⟨rfl, now⟩ | ⟨_, old⟩
      · rw [held] at now
        cases now
      · exact old
  | loses is challenges held event =>
    rw [event] at issued completed
    refine once.fewer (by simpa using issued) (by simpa using completed) (fun other entry there => ?_)
      fun other a holds => ?_
    · rw [keys, challenges] at there
      exact ⟨entry, there⟩
    · rcases send_holds found holds with ⟨rfl, now⟩ | ⟨_, old⟩
      · rw [held] at now
        cases now
      · exact old
  | @issues state is challenges held event =>
    rw [event] at issued completed
    have tokens : (s.send security place draw call).tokens = s.tokens ++ [draw.token] := issued
    have completes : (s.send security place draw call).told Event.completes = s.told Event.completes := by
      simpa [Event.completes] using completed
    have fresh : draw.token ∉ s.tokens := by
      subst is
      simpa [MfaRun.Allowed, found] using may
    have holds {other : Nat} {a : LoginAttempt} (here : (s.send security place draw call).Holds other a) :
        s.Holds other a := by
      rcases send_holds found here with ⟨rfl, now⟩ | ⟨_, old⟩
      · rw [held] at now
        cases now
      · exact old
    constructor
    · rw [tokens]
      exact List.Nodup.append once.fresh (List.nodup_singleton _) (by simpa using fresh)
    · intro token entry there
      rw [tokens, completes]
      by_cases new : token = draw.token
      · subst new
        refine ⟨List.mem_append_right _ (List.mem_singleton_self _), fun done => fresh (once.known _ done),
          fun other a here same => fresh (same ▸ (once.held other a (holds here)).1)⟩
      · rw [keys, challenges] at there
        dsimp only at there
        rw [if_neg new] at there
        obtain ⟨before, open_, free⟩ := once.standing token entry there
        exact ⟨List.mem_append_left _ before, open_, fun other a here => free other a (holds here)⟩
    · intro other a here
      rw [tokens, completes]
      exact (once.held other a (holds here)).imp_left (List.mem_append_left _)
    · exact fun p q a b first second => once.alone p q a b (holds first) (holds second)
    · intro token done
      rw [tokens]
      exact List.mem_append_left _ (once.known token (completes ▸ done))
    · rw [completes]
      exact once.once
  | @claims a entry before there remaining left challenges held event =>
    rw [event] at issued completed
    have tokens : (s.send security place draw call).tokens = s.tokens := by
      simpa [Event.issues] using issued
    have completes : (s.send security place draw call).told Event.completes = s.told Event.completes := by
      simpa [Event.completes] using completed
    obtain ⟨stands, open_, free⟩ := once.standing a.token entry there
    constructor
    · exact tokens ▸ once.fresh
    · intro token entry' there'
      rw [tokens, completes]
      rw [keys, challenges] at there'
      dsimp only at there'
      split at there'
      · cases there'
      · next differs =>
        obtain ⟨before, open_, free⟩ := once.standing token entry' there'
        refine ⟨before, open_, fun other b here => ?_⟩
        rcases send_holds found here with ⟨_, now⟩ | ⟨_, old⟩
        · rw [held] at now
          cases now
          exact Ne.symm differs
        · exact free other b old
    · intro other b here
      rw [tokens, completes]
      rcases send_holds found here with ⟨_, now⟩ | ⟨_, old⟩
      · rw [held] at now
        cases now
        exact ⟨stands, open_⟩
      · exact once.held other b old
    · intro p q b c first second same
      rcases send_holds found first with ⟨rfl, one⟩ | ⟨_, one⟩
      · rcases send_holds found second with ⟨rfl, _⟩ | ⟨_, two⟩
        · rfl
        · rw [held] at one
          cases one
          exact absurd same.symm (free q c two)
      · rcases send_holds found second with ⟨rfl, two⟩ | ⟨_, two⟩
        · rw [held] at two
          cases two
          exact absurd same (free p b one)
        · exact once.alone p q b c one two same
    · rw [tokens, completes]
      exact once.known
    · exact completes ▸ once.once
  | @completes a is challenges held event =>
    rw [event] at issued completed
    have tokens : (s.send security place draw call).tokens = s.tokens := by
      simpa [Event.issues] using issued
    have completes : (s.send security place draw call).told Event.completes =
      s.told Event.completes ++ [a.token] := completed
    have holding : s.Holds place a := ⟨call, found, by rw [is]; rfl⟩
    obtain ⟨known, open_⟩ := once.held place a holding
    have holds {other : Nat} {b : LoginAttempt} (here : (s.send security place draw call).Holds other b) :
        s.Holds other b ∧ b.token ≠ a.token := by
      rcases send_holds found here with ⟨rfl, now⟩ | ⟨differs, old⟩
      · rw [held] at now
        cases now
      · exact ⟨old, fun same => differs (once.alone other place b a old holding same)⟩
    constructor
    · exact tokens ▸ once.fresh
    · intro token entry there
      rw [keys, challenges] at there
      obtain ⟨before, undone, free⟩ := once.standing token entry there
      rw [tokens, completes, List.mem_append, not_or]
      refine ⟨before, ⟨undone, ?_⟩, fun other b here => free other b (holds here).1⟩
      simpa using Ne.symm (free place a holding)
    · intro other b here
      obtain ⟨old, differs⟩ := holds here
      obtain ⟨before, undone⟩ := once.held other b old
      rw [tokens, completes, List.mem_append, not_or]
      exact ⟨before, undone, by simpa using differs⟩
    · exact fun p q b c first second => once.alone p q b c (holds first).1 (holds second).1
    · intro token done
      rw [completes, List.mem_append] at done
      rw [tokens]
      rcases done with old | new
      · exact once.known token old
      · obtain rfl : token = a.token := by simpa using new
        exact known
    · rw [completes]
      exact List.Nodup.append once.once (List.nodup_singleton _) (by simpa using open_)
  | @restores a is borrowed challenges held event =>
    rw [event] at issued completed
    have tokens : (s.send security place draw call).tokens = s.tokens := by
      simpa [Event.issues] using issued
    have completes : (s.send security place draw call).told Event.completes = s.told Event.completes := by
      simpa [Event.completes] using completed
    have holding : s.Holds place a := ⟨call, found, by rw [is]; rfl⟩
    obtain ⟨known, open_⟩ := once.held place a holding
    have holds {other : Nat} {b : LoginAttempt} (here : (s.send security place draw call).Holds other b) :
        s.Holds other b ∧ b.token ≠ a.token := by
      rcases send_holds found here with ⟨rfl, now⟩ | ⟨differs, old⟩
      · rw [held] at now
        cases now
      · exact ⟨old, fun same => differs (once.alone other place b a old holding same)⟩
    constructor
    · exact tokens ▸ once.fresh
    · intro token entry there
      rw [tokens, completes]
      rw [keys, challenges] at there
      dsimp only at there
      split at there
      · next same =>
        subst same
        exact ⟨known, open_, fun other b here => (holds here).2⟩
      · obtain ⟨before, undone, free⟩ := once.standing token entry there
        exact ⟨before, undone, fun other b here => free other b (holds here).1⟩
    · intro other b here
      rw [tokens, completes]
      exact once.held other b (holds here).1
    · exact fun p q b c first second => once.alone p q b c (holds first).1 (holds second).1
    · rw [tokens, completes]
      exact once.known
    · exact completes ▸ once.once

end ChallengesOnce
/-! ## In their lifetime -/

/-- The call has been over with its challenge in the millisecond that it was claimed in, or puts nothing back
because its claim has run out. -/
def MfaRun.ReleasesAtOnce (s : MfaRun) : MfaOp → Prop
  | .turn place _ => ∀ attempt claim, s.calls[place]? = some (.release attempt) →
    (s.keys.claims attempt.token).get s.keys.now = some (.claim attempt.claimId) →
    claim ∈ s.log → claim.place = place → claim.event = .claimed attempt.token →
    s.keys.now ≤ claim.clock
  | _ => True

/-- The call at the place claimed the challenge, with this much time left for it when it was issued. -/
def MfaRun.ClaimedInTime (s : MfaRun) (place : Nat) (token : String) (left : Nat) : Prop :=
  ∃ claim ∈ s.log, claim.place = place ∧ claim.event = .claimed token ∧
    ∃ issue ∈ s.log, ∃ expiresAt, issue.event = .issued token expiresAt ∧
      claim.clock + left ≤ expiresAt

structure InLifetime (s : MfaRun) : Prop where
  standing : ∀ token entry, s.keys.challenges token = some entry →
    ∃ issue ∈ s.log, ∃ expiresAt, issue.event = .issued token expiresAt ∧ entry.expiresAt ≤ expiresAt
  held : ∀ place a, s.Holds place a → 1 ≤ a.remainingTtlMs ∧
    s.ClaimedInTime place a.token a.remainingTtlMs
  completed : ∀ done ∈ s.log, ∀ token, done.event = .completed token → s.ClaimedInTime done.place token 0

theorem MfaRun.ClaimedInTime.grow {s' : MfaRun} {place left : Nat} {token : String}
    (claimed : s.ClaimedInTime place token left) (log : s.log ⊆ s'.log) :
    s'.ClaimedInTime place token left := by
  obtain ⟨claim, mem, at_, is, issue, issued, facts⟩ := claimed
  exact ⟨claim, log mem, at_, is, issue, log issued, facts⟩

theorem MfaRun.ClaimedInTime.weaken {place left : Nat} {token : String}
    (claimed : s.ClaimedInTime place token left) : s.ClaimedInTime place token 0 := by
  obtain ⟨claim, mem, at_, is, issue, issued, expiresAt, event, le⟩ := claimed
  exact ⟨claim, mem, at_, is, issue, issued, expiresAt, event, by omega⟩

namespace InLifetime
variable {place : Nat} {draw : Draw} {call : MfaCall}

theorem start (account : Account) : InLifetime (.start account) where
  standing := by simp [MfaRun.start]
  held := by simp [MfaRun.start, MfaRun.Holds]
  completed := by simp [MfaRun.start]

theorem begins (lifetime : InLifetime s) (free : call.attempt = none) : InLifetime (s.begin call) where
  standing := lifetime.standing
  held place a holds := by
    obtain ⟨result, here, held⟩ := holds
    rcases MfaRun.begin_calls here with old | ⟨_, rfl⟩
    · exact lifetime.held place a ⟨result, old, held⟩
    · rw [free] at held
      cases held
  completed := lifetime.completed

theorem send (lifetime : InLifetime s) (found : s.calls[place]? = some call)
    (atOnce : s.ReleasesAtOnce (.turn place draw)) :
    InLifetime (s.send security place draw call) := by
  have log : s.log ⊆ (s.send security place draw call).log := List.subset_append_left _ _
  have keys : (s.send security place draw call).keys =
    (call.turn security s.keys s.account draw).keys := rfl
  have stands {token : String} {entry : Timed LoginValue} (there : s.keys.challenges token = some entry) :
      ∃ issue ∈ (s.send security place draw call).log, ∃ expiresAt,
        issue.event = .issued token expiresAt ∧ entry.expiresAt ≤ expiresAt := by
    obtain ⟨issue, mem, facts⟩ := lifetime.standing token entry there
    exact ⟨issue, log mem, facts⟩
  have holds {other : Nat} {a : LoginAttempt} (here : s.Holds other a) : 1 ≤ a.remainingTtlMs ∧
      (s.send security place draw call).ClaimedInTime other a.token a.remainingTtlMs :=
    (lifetime.held other a here).imp_right (·.grow log)
  -- A turn that completes nothing.
  have done (quiet : ∀ token, (call.turn security s.keys s.account draw).event ≠ some (.completed token)) :
      ∀ done ∈ (s.send security place draw call).log, ∀ token, done.event = .completed token →
        (s.send security place draw call).ClaimedInTime done.place token 0 := by
    intro entry mem token is
    rcases MfaRun.mem_send_log.mp mem with old | ⟨_, _, new⟩
    · exact (lifetime.completed entry old token is).grow log
    · exact absurd (is ▸ new) (quiet token)
  -- A turn after which the call has no challenge in its hands.
  have freed (held : (call.turn security s.keys s.account draw).call.attempt = none) :
      ∀ other a, (s.send security place draw call).Holds other a → 1 ≤ a.remainingTtlMs ∧
        (s.send security place draw call).ClaimedInTime other a.token a.remainingTtlMs := by
    intro other a here
    rcases send_holds found here with ⟨rfl, now⟩ | ⟨_, old⟩
    · rw [held] at now
      cases now
    · exact holds old
  cases turn_challenge security s.keys s.account draw call with
  | same challenges held issues completes =>
    refine ⟨fun token entry there => ?_, fun other a here => ?_, done fun token is => ?_⟩
    · rw [keys, challenges] at there
      exact stands there
    · rcases send_holds found here with ⟨rfl, now⟩ | ⟨_, old⟩
      · exact holds ⟨call, found, held ▸ now⟩
      · exact holds old
    · rw [is] at completes
      cases completes
  | issues is challenges held event =>
    refine ⟨fun token entry there => ?_, freed held, done (by simp [event])⟩
    rw [keys, challenges] at there
    dsimp only at there
    split at there
    · next same =>
      subst same
      cases there
      exact ⟨⟨place, s.keys.now, .issued draw.token _⟩, MfaRun.mem_send_log.mpr (.inr ⟨rfl, rfl, event⟩), _,
        rfl, Nat.le_refl _⟩
    · exact stands there
  | drops token challenges held event =>
    refine ⟨fun other entry there => ?_, freed held, done (by simp [event])⟩
    rw [keys, challenges] at there
    dsimp only at there
    split at there
    · cases there
    · exact stands there
  | loses is challenges held event =>
    refine ⟨fun token entry there => ?_, freed held, done (by simp [event])⟩
    rw [keys, challenges] at there
    exact stands there
  | @claims a entry before there remaining left challenges held event =>
    refine ⟨fun token entry' there' => ?_, fun other b here => ?_, done (by simp [event])⟩
    · rw [keys, challenges] at there'
      dsimp only at there'
      split at there'
      · cases there'
      · exact stands there'
    · rcases send_holds found here with ⟨rfl, now⟩ | ⟨_, old⟩
      · rw [held] at now
        cases now
        obtain ⟨issue, mem, expiresAt, is, le⟩ := lifetime.standing a.token entry there
        exact ⟨left, ⟨other, s.keys.now, .claimed a.token⟩, MfaRun.mem_send_log.mpr (.inr ⟨rfl, rfl, event⟩),
          rfl, rfl, issue, log mem, expiresAt, is, remaining ▸ le⟩
      · exact holds old
  | @completes a is challenges held event =>
    refine ⟨fun token entry there => ?_, freed held, fun entry mem token completes => ?_⟩
    · rw [keys, challenges] at there
      exact stands there
    · rcases MfaRun.mem_send_log.mp mem with old | ⟨at_, _, new⟩
      · exact (lifetime.completed entry old token completes).grow log
      · rw [event, completes] at new
        cases new
        have holding : s.Holds place a := ⟨call, found, by rw [is]; rfl⟩
        rw [at_]
        exact ((lifetime.held place a holding).2.grow log).weaken
  | @restores a is borrowed challenges held event =>
    refine ⟨fun token entry there => ?_, freed held, done (by simp [event])⟩
    rw [keys, challenges] at there
    dsimp only at there
    split at there
    · next same =>
      subst same
      cases there
      have holding : s.Holds place a := ⟨call, found, by rw [is]; rfl⟩
      obtain ⟨left, claim, mem, at_, claimed, issue, issued, expiresAt, event', le⟩ :=
        lifetime.held place a holding
      have now : s.keys.now ≤ claim.clock := atOnce a claim (is ▸ found) borrowed mem at_ claimed
      refine ⟨issue, log issued, expiresAt, event', ?_⟩
      show s.keys.now + max 1 a.remainingTtlMs ≤ expiresAt
      omega
    · exact stands there

end InLifetime

/-! ## Every run -/

structure MfaBooks (s : MfaRun) : Prop where
  codes : CodesOnce s
  steps : StepsRise s
  vouched : Vouched s
  challenges : ChallengesOnce s

namespace MfaBooks

theorem start {account : Account} (rows : (account.backupCodes.map BackupCodeRow.id).Nodup) :
    MfaBooks (.start account) where
  codes :=
    { rows := rows
      known := fun row mem => List.mem_map_of_mem mem
      spent := by simp [MfaRun.start, MfaRun.told]
      once := List.nodup_nil }
  steps := ⟨List.Pairwise.nil, by simp [MfaRun.start, MfaRun.told]⟩
  vouched := .start account
  challenges := .start account

theorem begins (books : MfaBooks s) {call : MfaCall} (waits : call.pending = true) (vouch : call.vouch = none)
    (free : call.attempt = none) : MfaBooks (s.begin call) where
  codes := ⟨books.codes.rows, books.codes.known, books.codes.spent, books.codes.once⟩
  steps := ⟨books.steps.rising, books.steps.last⟩
  vouched := books.vouched.begins waits vouch
  challenges := books.challenges.begins free

theorem apply (books : MfaBooks s) {op : MfaOp} (may : s.Allowed op) : MfaBooks (s.apply security op) := by
  cases op with
  | tick ms =>
    exact {
      codes := ⟨books.codes.rows, books.codes.known, books.codes.spent, books.codes.once⟩
      steps := ⟨books.steps.rising, books.steps.last⟩
      vouched := ⟨books.vouched.inside, books.vouched.pending, books.vouched.vouched, books.vouched.unspent,
        books.vouched.acceptOnce, books.vouched.operateOnce, books.vouched.authorised⟩
      challenges := books.challenges.fewer rfl rfl (fun _ entry there => ⟨entry, there⟩) fun _ _ => id }
  | beginLoginChallenge | completeLoginChallenge | operate => exact books.begins rfl rfl rfl
  | turn place draw =>
    cases found : s.calls[place]? with
    | none => simpa [MfaRun.apply, found] using books
    | some call =>
      simp only [MfaRun.apply, found]
      exact ⟨books.codes.send found may, books.steps.send, books.vouched.send found,
        books.challenges.send found may⟩

end MfaBooks

theorem InLifetime.apply (lifetime : InLifetime s) {op : MfaOp}
    (atOnce : s.ReleasesAtOnce op) : InLifetime (s.apply security op) := by
  cases op with
  | tick ms => exact ⟨lifetime.standing, lifetime.held, lifetime.completed⟩
  | beginLoginChallenge | completeLoginChallenge | operate => exact lifetime.begins rfl
  | turn place draw =>
    cases found : s.calls[place]? with
    | none => simpa [MfaRun.apply, found] using lifetime
    | some call =>
      simp only [MfaRun.apply, found]
      exact lifetime.send found atOnce

/-- Everything but the lifetime holds in every run, and the lifetime in the runs in which a challenge is put
back at once. -/
theorem factors_used_once {account : Account} (rows : (account.backupCodes.map BackupCodeRow.id).Nodup)
    (run : Reach MfaRun.Allowed (MfaRun.apply security) (.start account) s) :
    (s.told Event.backupRow).Nodup ∧ (s.told Event.totpStep).Pairwise (· < ·) ∧
    (s.told Event.completes).Nodup ∧ s.accepting.Nodup ∧ s.operating.Nodup ∧
    (∀ entry ∈ s.log, ∀ method purpose, entry.event.operates = some (some method, purpose) →
      s.Accepted entry.place (method, purpose) ∨ entry.event = .operated .deleteAccount (some .email)) ∧
    (Reach (fun s op => MfaRun.Allowed s op ∧ MfaRun.ReleasesAtOnce s op) (MfaRun.apply security)
        (.start account) s →
      ∀ done ∈ s.log, ∀ token, done.event = .completed token → s.ClaimedInTime done.place token 0) := by
  have books : MfaBooks s := run.invariant (.start rows) fun _ _ books may => books.apply may
  refine ⟨books.codes.once, books.steps.rising, books.challenges.once, books.vouched.acceptOnce,
    books.vouched.operateOnce, books.vouched.authorised, fun atOnce => ?_⟩
  have lifetime : InLifetime s :=
    atOnce.invariant (InLifetime.start account) fun _ _ lifetime may => lifetime.apply may.2
  exact lifetime.completed

/-! ## A challenge that is put back late -/

/-- The code of a step is its number. -/
def plainSteps : Security :=
  ⟨fun _ step => (if step < 10 then "00000" else "0000") ++ toString step, fun code hash => code == hash⟩

def totpAccount : Account := ⟨.active, 0, some ⟨.totp, some "secret", none⟩, []⟩

def turnsAt (place count clock : Nat) : List MfaOp :=
  List.replicate count (.turn place ⟨"T", "claim", clock, true, []⟩)

/-- A wrong code is tried in the last second of a challenge, and the answer takes twenty. -/
def lateRetry : List MfaOp :=
  [.beginLoginChallenge ⟨0, .totp⟩] ++ turnsAt 0 1 0 ++ [.tick 299000, .completeLoginChallenge "T" "999999"] ++
  turnsAt 1 3 299000 ++ [.tick 20000] ++ turnsAt 1 1 319000 ++ [.completeLoginChallenge "T" "000010"] ++
  turnsAt 2 5 319000

def retried : MfaRun := lateRetry.foldl (MfaRun.apply plainSteps) (.start totpAccount)

example : retried.log = [⟨0, 0, .issued "T" 300000⟩, ⟨1, 299000, .claimed "T"⟩, ⟨2, 319000, .claimed "T"⟩,
    ⟨2, 319000, .accepted (.totp 10) .totp .login⟩, ⟨2, 319000, .completed "T"⟩] := by decide +kernel

instance (s : MfaRun) (op : MfaOp) : Decidable (s.Allowed op) := by
  cases op with
  | turn place draw =>
    simp only [MfaRun.Allowed]
    split <;> infer_instance
  | _ => exact isTrue trivial

theorem retried_reach : Reach MfaRun.Allowed (MfaRun.apply plainSteps) (.start totpAccount) retried :=
  Reach.of_list (by decide +kernel)

/-- The claim of the completing call is nineteen seconds after the end of the challenge. -/
theorem late_release_outlives : ¬ ∀ (account : Account) (s : MfaRun),
    (account.backupCodes.map BackupCodeRow.id).Nodup →
    Reach MfaRun.Allowed (MfaRun.apply plainSteps) (.start account) s →
    ∀ done ∈ s.log, ∀ token, done.event = .completed token → s.ClaimedInTime done.place token 0 := by
  intro inTime
  have logged : retried.log = [⟨0, 0, .issued "T" 300000⟩, ⟨1, 299000, .claimed "T"⟩,
      ⟨2, 319000, .claimed "T"⟩, ⟨2, 319000, .accepted (.totp 10) .totp .login⟩,
      ⟨2, 319000, .completed "T"⟩] := by decide +kernel
  obtain ⟨claim, mem, at_, is, issue, issued, expiresAt, event, le⟩ :=
    inTime totpAccount retried List.nodup_nil retried_reach ⟨2, 319000, .completed "T"⟩ (by simp [logged]) "T" rfl
  simp only [logged, List.mem_cons, List.not_mem_nil, or_false] at mem issued
  rcases mem with rfl | rfl | rfl | rfl | rfl
  · cases is
  · cases at_
  · rcases issued with rfl | rfl | rfl | rfl | rfl
    · cases event
      exact absurd le (by decide)
    · cases event
    · cases event
    · cases event
    · cases event
  · cases is
  · cases is

/-- The turn puts no challenge back. -/
def putsNothingBack (s : MfaRun) : MfaOp → Bool
  | .turn place _ =>
    match s.calls[place]? with
    | some (.release _) => false
    | _ => true
  | _ => true

theorem putsNothingBack_atOnce {op : MfaOp} (nothing : putsNothingBack s op = true) : s.ReleasesAtOnce op := by
  cases op with
  | turn place draw =>
    intro attempt claim here
    simp [putsNothingBack, here] at nothing
  | _ => trivial

/-- The same account, and the right code at once. -/
def promptLogin : List MfaOp :=
  [.beginLoginChallenge ⟨0, .totp⟩] ++ turnsAt 0 1 0 ++ [.completeLoginChallenge "T" "000001"] ++
  turnsAt 1 6 10000

def prompt : MfaRun := promptLogin.foldl (MfaRun.apply plainSteps) (.start totpAccount)

theorem factors_used_once_prompt : prompt.told Event.completes = ["T"] ∧ prompt.told Event.totpStep = [1] ∧
    prompt.accepting.Nodup ∧ prompt.ClaimedInTime 1 "T" 0 := by
  have run : Reach (fun s op => MfaRun.Allowed s op ∧ putsNothingBack s op = true)
      (MfaRun.apply plainSteps) (.start totpAccount) prompt := Reach.of_list (by decide +kernel)
  have rows : (totpAccount.backupCodes.map BackupCodeRow.id).Nodup := List.nodup_nil
  have facts := factors_used_once rows (run.mono fun _ _ may => may.1)
  have logged : prompt.log.any fun entry => entry = ⟨1, 0, .completed "T"⟩ := by decide +kernel
  obtain ⟨done, mem, is⟩ := List.any_eq_true.mp logged
  obtain rfl := of_decide_eq_true is
  refine ⟨by decide +kernel, by decide +kernel, facts.2.2.2.1, ?_⟩
  exact facts.2.2.2.2.2.2 (run.mono fun _ _ may => ⟨may.1, putsNothingBack_atOnce may.2⟩) _ mem "T" rfl

end SwitchRemake.Auth.Mfa

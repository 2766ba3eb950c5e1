import Mathlib.Data.List.Induction
import SwitchRemake.Gateway.RateLimit

/-!
# What the rate limiter counts

Every decision is one about the calls so far: how many of them each key had in a window. The buckets
keep of that what the decisions need, and the sweep takes only what they do not.
-/

namespace SwitchRemake.Gateway.AbuseRateLimiter
open Lib

/-! ## Keys -/

def RateCall.keys : RateCall → List String
  | .check rule subject _ _ policy => subjectKeys rule subject (policy.scopes.getD allScopes)
  | .cooldown rule subject _ scopes => subjectKeys rule subject (scopes.getD [.ip, .user])

def RateCall.rule : RateCall → String
  | .check rule .. => rule
  | .cooldown rule .. => rule

/-- The rule that a key is of. -/
def ruleOf (key : String) : String := String.ofList (key.toList.takeWhile (· ≠ ':'))

theorem mem_subjectKeys {rule key : String} {subject : RateSubject} {scopes : List RateScope}
    (member : key ∈ subjectKeys rule subject scopes) : ∃ rest,
      key.toList = rule.toList ++ ':' :: rest := by
  have cases_ : key = rule ++ ":connection:" ++ toString subject.connectionId ∨
      key = rule ++ ":ip:" ++ subject.ip ∨ ∃ userId, key = rule ++ ":user:" ++ userId := by
    unfold subjectKeys at member
    simp only [List.mem_append] at member
    rcases member with (first | second) | third
    · split at first
      · exact .inl (List.mem_singleton.mp first)
      · cases first
    · split at second
      · exact .inr (.inl (List.mem_singleton.mp second))
      · cases second
    · split at third
      · split at third
        · exact .inr (.inr ⟨_, List.mem_singleton.mp third⟩)
        · cases third
      · cases third
  rcases cases_ with rfl | rfl | ⟨userId, rfl⟩ <;> simp

theorem ruleOf_key {c : RateCall} {key : String} (plain : ':' ∉ c.rule.toList)
    (member : key ∈ c.keys) : ruleOf key = c.rule := by
  obtain ⟨rest, same⟩ : ∃ rest, key.toList = c.rule.toList ++ ':' :: rest := by
    cases c with
    | check rule subject limit windowMs policy => exact mem_subjectKeys member
    | cooldown rule subject cooldownMs scopes => exact mem_subjectKeys member
  have named : ∀ letter ∈ c.rule.toList, letter ≠ ':' := by
    rintro letter inside rfl
    exact plain inside
  rw [ruleOf, same, List.takeWhile_append_of_pos (by simpa using named)]
  simp

theorem subjectKeys_nodup (rule : String) (subject : RateSubject) (scopes : List RateScope) :
    (subjectKeys rule subject scopes).Nodup := by
  have apart (a b : String) (scope other : List Char) (left : a.toList = rule.toList ++ scope)
      (right : b.toList = rule.toList ++ other) (differs : scope[1]? ≠ other[1]?) : a ≠ b := by
    rintro rfl
    exact differs (congrArg (·[1]?) (List.append_cancel_left (left.symm.trans right)))
  have first (id : String) (ip : String) : rule ++ ":connection:" ++ id ≠ rule ++ ":ip:" ++ ip :=
    apart _ _ (":connection:".toList ++ id.toList) (":ip:".toList ++ ip.toList) (by simp) (by simp)
      (by simp)
  have second (id userId : String) : rule ++ ":connection:" ++ id ≠ rule ++ ":user:" ++ userId :=
    apart _ _ (":connection:".toList ++ id.toList) (":user:".toList ++ userId.toList) (by simp)
      (by simp) (by simp)
  have third (ip userId : String) : rule ++ ":ip:" ++ ip ≠ rule ++ ":user:" ++ userId :=
    apart _ _ (":ip:".toList ++ ip.toList) (":user:".toList ++ userId.toList) (by simp)
      (by simp) (by simp)
  unfold subjectKeys
  generalize scopes.contains .connection = connection
  generalize scopes.contains .ip = ip
  generalize scopes.contains .user = user
  cases subject.userId with
  | none => cases connection <;> cases ip <;> simp [first]
  | some userId => cases connection <;> cases ip <;> cases user <;> simp [first, second, third]

theorem keys_nodup (c : RateCall) : c.keys.Nodup := by
  cases c with
  | check rule subject limit windowMs policy => exact subjectKeys_nodup _ _ _
  | cooldown rule subject cooldownMs scopes => exact subjectKeys_nodup _ _ _

/-! ## Calls so far -/

/-- A call that was made, and what came of it. -/
structure RateEvent where
  now : Nat
  call : RateCall
  decision : RateDecision
deriving DecidableEq

/-- The event counts for the key in the window. -/
def RateEvent.counts (key : String) (window : Nat) (e : RateEvent) : Bool :=
  match e.call with
  | .check _ _ _ windowMs _ => e.call.keys.contains key && decide (e.now / windowMs = window)
  | .cooldown .. => false

/-- The event takes the key's cooldown. -/
def RateEvent.grants (key : String) (e : RateEvent) : Bool :=
  match e.call with
  | .cooldown .. => e.call.keys.contains key && e.decision.allowed
  | .check .. => false

def calls (log : List RateEvent) (key : String) (window : Nat) : Nat :=
  log.countP (RateEvent.counts key window)

def allowedCalls (log : List RateEvent) (key : String) (window : Nat) : Nat :=
  log.countP fun e => e.counts key window && e.decision.allowed

def Granted (log : List RateEvent) (key : String) (at_ : Nat) : Prop :=
  ∃ e ∈ log, e.grants key = true ∧ e.now = at_

/-- The key exceeds the limit in this window, and did so in each of the `windows - 1` before. -/
def Exceeds (log : List RateEvent) (key : String) (limit window windows : Nat) : Prop :=
  limit < calls log key window ∧
    ∀ i < windows - 1, i + 1 ≤ window ∧ limit < calls log key (window - (i + 1))

/-- The decision about a call, after the calls of the log. -/
def Lawful (log : List RateEvent) (e : RateEvent) : Prop :=
  match e.call with
  | .check _ _ limit windowMs policy =>
    (e.decision.allowed = true ↔
      ∀ key ∈ e.call.keys, calls (log ++ [e]) key (e.now / windowMs) ≤ limit) ∧
    (e.decision.persistent = true ↔
      ∃ key ∈ e.call.keys, Exceeds (log ++ [e]) key limit (e.now / windowMs) 3) ∧
    (e.decision.abusive = true ↔ ∃ key ∈ e.call.keys,
      Exceeds (log ++ [e]) key (limit * policy.abusiveMultiplier.getD 5) (e.now / windowMs)
        (policy.abusiveWindows.getD 5))
  | .cooldown _ _ cooldownMs _ =>
    (e.decision.allowed = true ↔
      ∀ key ∈ e.call.keys, ∀ at_, Granted log key at_ → at_ + cooldownMs ≤ e.now) ∧
    e.decision.persistent = false ∧ e.decision.abusive = false

/-- What a rule is called with. -/
structure RuleLimits where
  limit : Nat
  windowMs : Nat
  abusiveMultiplier : Nat
  abusiveWindows : Nat
  cooldownMs : Nat

def RuleLimits.threshold (limits : RuleLimits) : Nat := limits.limit * limits.abusiveMultiplier

/-- The call keeps to what its rule is always called with. -/
def Fits (rules : String → RuleLimits) (c : RateCall) : Prop :=
  ':' ∉ c.rule.toList ∧
  match c with
  | .check rule _ limit windowMs policy => 0 < windowMs ∧ (rules rule).limit = limit ∧
    (rules rule).windowMs = windowMs ∧
    (rules rule).abusiveMultiplier = policy.abusiveMultiplier.getD 5 ∧
    (rules rule).abusiveWindows = policy.abusiveWindows.getD 5
  | .cooldown rule _ cooldownMs _ => (rules rule).cooldownMs = cooldownMs

/-! ## Streaks -/

/-- The number of windows right before `window` that the predicate holds in. -/
def Before (P : Nat → Prop) (window base : Nat) : Prop :=
  ∀ n, n ≤ base ↔ ∀ i < n, i + 1 ≤ window ∧ P (window - (i + 1))

variable {P Q : Nat → Prop} {window base : Nat}

theorem Before.zero (fails : window = 0 ∨ ¬ P (window - 1)) : Before P window 0 := by
  intro n
  cases n with
  | zero => simp
  | succ n =>
    refine ⟨fun le => absurd le (Nat.not_succ_le_zero n), fun all => ?_⟩
    obtain ⟨inside, holds⟩ := all 0 (Nat.succ_pos n)
    rcases fails with zero | fails
    · omega
    · exact absurd holds fails

theorem Before.succ (before : Before P window base) (holds : P window) :
    Before P (window + 1) (base + 1) := by
  intro n
  cases n with
  | zero => simp
  | succ n =>
    rw [Nat.succ_le_succ_iff, before n]
    constructor
    · intro all i less
      cases i with
      | zero => exact ⟨by omega, by simpa using holds⟩
      | succ i =>
        obtain ⟨inside, earlier⟩ := all i (Nat.lt_of_succ_lt_succ less)
        refine ⟨Nat.succ_le_succ inside, ?_⟩
        rwa [Nat.succ_sub_succ_eq_sub]
    · intro all i less
      obtain ⟨inside, earlier⟩ := all (i + 1) (Nat.succ_lt_succ less)
      rw [Nat.succ_sub_succ_eq_sub] at earlier
      exact ⟨Nat.le_of_succ_le_succ inside, earlier⟩

theorem Before.congr (same : ∀ v < window, (P v ↔ Q v)) (before : Before P window base) :
    Before Q window base := by
  intro n
  rw [before n]
  refine forall_congr' fun i => forall_congr' fun _ => and_congr_right fun inside => ?_
  exact same _ (by omega)

/-- The streak that a window starts with, by the last window before it that was used. -/
theorem Before.next {previous streak : Nat} {flag : Bool} (holds : flag = true ↔ P previous)
    (counts : ∃ base, streak = base + (if flag then 1 else 0) ∧ Before P previous base)
    (quiet : ∀ window, previous < window → ¬ P window) (less : previous < window) :
    Before P window (if flag = true ∧ previous + 1 = window then streak else 0) := by
  obtain ⟨base, rfl, before⟩ := counts
  split
  · rename_i consecutive
    obtain ⟨flagged, rfl⟩ := consecutive
    rw [if_pos flagged]
    exact before.succ (holds.mp flagged)
  · rename_i apart
    refine .zero (.inr fun there => ?_)
    by_cases neighbour : previous + 1 = window
    · subst neighbour
      exact apart ⟨holds.mpr there, rfl⟩
    · exact quiet _ (by omega) there

/-! ## One bucket -/

/-- A bucket counts the calls of its window, and there are none in a later one. -/
structure Counted (limits : RuleLimits) (log : List RateEvent) (key : String) (b : Bucket) :
    Prop where
  named : b.key = key
  expires : b.expiresAt = (b.window + 2) * limits.windowMs
  count : b.count = calls log key b.window
  later : ∀ window, b.window < window → calls log key window = 0
  violated : b.violated = true ↔ limits.limit < b.count
  violations : ∃ base, b.violationStreak = base + (if b.violated then 1 else 0) ∧
    Before (fun window => limits.limit < calls log key window) b.window base
  abusive : b.abusive = true ↔ limits.threshold < b.count
  abuses : ∃ base, b.abusiveStreak = base + (if b.abusive then 1 else 0) ∧
    Before (fun window => limits.threshold < calls log key window) b.window base

/-- What a limiter keeps of a key. A bucket that is not there would not be looked at again. -/
def Tracks (limits : RuleLimits) (log : List RateEvent) (last : Nat) (key : String) :
    Option Bucket → Prop
  | none => ∀ window, 0 < calls log key window → (window + 2) * limits.windowMs ≤ last
  | some b => Counted limits log key b ∧ b.window ≤ last / limits.windowMs

variable {limits : RuleLimits} {log log' : List RateEvent} {last now : Nat} {key : String}
  {bucket : Option Bucket}

/-- A bucket that begins: nothing is counted yet, and the streaks are those of the window before. -/
theorem Counted.begins {vs abs : Nat} (unused : ∀ v, window ≤ v → calls log key v = 0)
    (violations : Before (fun window => limits.limit < calls log key window) window vs)
    (abuses : Before (fun window => limits.threshold < calls log key window) window abs) :
    Counted limits log key
      { key, window, expiresAt := (window + 2) * limits.windowMs, count := 0, violated := false
        violationStreak := vs, abusive := false, abusiveStreak := abs } where
  named := rfl
  expires := rfl
  count := (unused _ (Nat.le_refl _)).symm
  later window after := unused window (Nat.le_of_lt after)
  violated := by simp
  violations := ⟨vs, rfl, violations⟩
  abusive := by simp
  abuses := ⟨abs, rfl, abuses⟩

theorem Tracks.sweep (tracks : Tracks limits log last key bucket) (later : last ≤ now) :
    Tracks limits log now key (bucket.filter fun b => now < b.expiresAt) := by
  cases bucket with
  | none => exact fun window called => Nat.le_trans (tracks window called) later
  | some b =>
    obtain ⟨counted, past⟩ := tracks
    by_cases alive : now < b.expiresAt
    · rw [Option.filter_some_pos (by simpa using alive)]
      exact ⟨counted, Nat.le_trans past (Nat.div_le_div_right later)⟩
    · rw [Option.filter_some_neg (by simpa using alive)]
      intro window called
      have within : window ≤ b.window := by
        by_contra after
        have none_ := counted.later window (by omega)
        omega
      rw [counted.expires] at alive
      exact Nat.le_trans (Nat.mul_le_mul_right _ (by omega)) (Nat.not_lt.mp alive)

theorem Tracks.mono (tracks : Tracks limits log last key bucket) (later : last ≤ now) :
    Tracks limits log now key bucket := by
  cases bucket with
  | none => exact fun window called => Nat.le_trans (tracks window called) later
  | some b => exact ⟨tracks.1, Nat.le_trans tracks.2 (Nat.div_le_div_right later)⟩

/-- The bucket for the window of a call has counted the calls before it. -/
theorem Tracks.bucketFor (positive : 0 < limits.windowMs)
    (tracks : Tracks limits log now key bucket) :
    Counted limits log key (bucketFor key (now / limits.windowMs) limits.windowMs bucket) ∧
      (AbuseRateLimiter.bucketFor key (now / limits.windowMs) limits.windowMs bucket).window =
        now / limits.windowMs := by
  cases bucket with
  | none =>
    have unused (window : Nat) (late : now / limits.windowMs < window + 2) :
        calls log key window = 0 := by
      by_contra called
      have ended := tracks window (Nat.pos_of_ne_zero called)
      have passed := (Nat.le_div_iff_mul_le positive).mpr ended
      omega
    have quiet (bound : Nat) : now / limits.windowMs = 0 ∨
        ¬ bound < calls log key (now / limits.windowMs - 1) := by
      rw [unused _ (by omega)]
      exact .inr (Nat.not_lt_zero bound)
    exact ⟨.begins (fun window late => unused window (by omega)) (.zero (quiet _)) (.zero (quiet _)),
      rfl⟩
  | some b =>
    obtain ⟨counted, past⟩ := tracks
    have quiet (bound window : Nat) (after : b.window < window) : ¬ bound < calls log key window := by
      rw [counted.later window after]
      exact Nat.not_lt_zero bound
    unfold AbuseRateLimiter.bucketFor
    dsimp only
    split
    · rename_i same
      exact ⟨counted, same⟩
    · rename_i other
      have before : b.window < now / limits.windowMs := Nat.lt_of_le_of_ne past other
      refine ⟨.begins (fun window late => counted.later window (by omega)) ?_ ?_, rfl⟩
      · exact .next (counted.count ▸ counted.violated) counted.violations (quiet _) before
      · exact .next (counted.count ▸ counted.abusive) counted.abuses (quiet _) before

theorem countViolation_eq (limit : Nat) (b : Bucket) : countViolation limit b =
    { b with
      violated := b.violated || decide (limit < b.count)
      violationStreak :=
        b.violationStreak + if limit < b.count ∧ b.violated = false then 1 else 0 } := by
  obtain ⟨key, window, expiresAt, count, violated, violationStreak, abusive, abusiveStreak⟩ := b
  unfold countViolation
  by_cases exceeds : limit < count
  · cases violated <;> simp [exceeds]
  · cases violated <;> simp [exceeds]

theorem countAbuse_eq (threshold : Nat) (b : Bucket) : countAbuse threshold b =
    { b with
      abusive := b.abusive || decide (threshold < b.count)
      abusiveStreak :=
        b.abusiveStreak + if threshold < b.count ∧ b.abusive = false then 1 else 0 } := by
  obtain ⟨key, window, expiresAt, count, violated, violationStreak, abusive, abusiveStreak⟩ := b
  unfold countAbuse
  by_cases exceeds : threshold < count
  · cases abusive <;> simp [exceeds]
  · cases abusive <;> simp [exceeds]

/-- A flag that goes up with the count adds one to its streak, once. -/
theorem streak_raised {limit count streak : Nat} {flag : Bool} (holds : flag = true ↔ limit < count)
    (counts : ∃ base, streak = base + (if flag then 1 else 0) ∧ Before P window base)
    (same : ∀ v < window, (P v ↔ Q v)) :
    ((flag || decide (limit < count + 1)) = true ↔ limit < count + 1) ∧
      ∃ base, streak + (if limit < count + 1 ∧ flag = false then 1 else 0) =
          base + (if flag || decide (limit < count + 1) then 1 else 0) ∧
        Before Q window base := by
  obtain ⟨base, rfl, before⟩ := counts
  have above : flag = true → limit < count + 1 := fun up => Nat.lt_succ_of_lt (holds.mp up)
  refine ⟨by simpa using above, base, ?_, before.congr same⟩
  cases flag with
  | true => simp
  | false => simp

/-- The log has one more call of the key, in this window. -/
def OneMore (log log' : List RateEvent) (key : String) (window : Nat) : Prop :=
  ∀ v, calls log' key v = calls log key v + if v = window then 1 else 0

theorem OneMore.earlier (more : OneMore log log' key window) {v : Nat} (before : v < window) :
    calls log' key v = calls log key v := by
  rw [more, if_neg (by omega), Nat.add_zero]

/-- The bucket that a call has been counted in. -/
theorem Tracks.counted (positive : 0 < limits.windowMs)
    (tracks : Tracks limits log now key bucket)
    (more : OneMore log log' key (now / limits.windowMs)) :
    Counted limits log' key (counted key (now / limits.windowMs) limits.windowMs limits.limit
        limits.threshold bucket) ∧
      (AbuseRateLimiter.counted key (now / limits.windowMs) limits.windowMs limits.limit
        limits.threshold bucket).window = now / limits.windowMs := by
  obtain ⟨counted, here⟩ := tracks.bucketFor positive
  unfold AbuseRateLimiter.counted
  dsimp only
  generalize AbuseRateLimiter.bucketFor key (now / limits.windowMs) limits.windowMs bucket = b
    at counted here
  have again : calls log' key b.window = b.count + 1 := by
    rw [more, if_pos here, counted.count]
  have earlier (bound : Nat) : ∀ v < b.window,
      (bound < calls log key v ↔ bound < calls log' key v) := by
    intro v before
    rw [more.earlier (here ▸ before)]
  have violations := streak_raised counted.violated counted.violations (earlier _)
  have abuses := streak_raised counted.abusive counted.abuses (earlier _)
  rw [countViolation_eq, countAbuse_eq]
  refine ⟨⟨counted.named, counted.expires, again.symm, fun v after => ?_, violations.1,
    violations.2, abuses.1, abuses.2⟩, here⟩
  rw [more, counted.later v after, if_neg]
  rintro rfl
  exact Nat.lt_irrefl _ (here ▸ after)

/-! ## One call -/

/-- What a limiter keeps of a key's cooldown: that of the last grant. -/
def Waits (cooldownMs : Nat) (log : List RateEvent) (last : Nat) (key : String) :
    Option Cooldown → Prop
  | none => ∀ at_, Granted log key at_ → at_ + cooldownMs ≤ last
  | some c => ∃ at_, Granted log key at_ ∧ c.permittedAt = at_ + cooldownMs ∧
    ∀ other, Granted log key other → other ≤ at_

variable {cooldownMs : Nat} {wait : Option Cooldown}

theorem Waits.sweep (waits : Waits cooldownMs log last key wait) (later : last ≤ now) :
    Waits cooldownMs log now key (wait.filter fun c => now < c.permittedAt) := by
  cases wait with
  | none => exact fun at_ granted => Nat.le_trans (waits at_ granted) later
  | some c =>
    by_cases alive : now < c.permittedAt
    · rw [Option.filter_some_pos (by simpa using alive)]
      exact waits
    · rw [Option.filter_some_neg (by simpa using alive)]
      obtain ⟨at_, granted, permitted, latest⟩ := waits
      intro other grantedToo
      have earlier := latest other grantedToo
      omega

theorem Waits.mono (waits : Waits cooldownMs log last key wait) (later : last ≤ now) :
    Waits cooldownMs log now key wait := by
  cases wait with
  | none => exact fun at_ granted => Nat.le_trans (waits at_ granted) later
  | some c => exact waits

/-- A key waits as long as one of its grants is recent. -/
theorem Waits.allowed (waits : Waits cooldownMs log now key wait) :
    (wait.map Cooldown.permittedAt).getD 0 ≤ now ↔
      ∀ at_, Granted log key at_ → at_ + cooldownMs ≤ now := by
  cases wait with
  | none => exact iff_of_true (Nat.zero_le now) waits
  | some c =>
    obtain ⟨at_, granted, permitted, latest⟩ := waits
    simp only [Option.map_some, Option.getD_some, permitted]
    constructor
    · intro waited other grantedToo
      have earlier := latest other grantedToo
      omega
    · exact fun all => all at_ granted

/-- The state of a limiter that has served the calls of the log, the last of them at `last`. -/
structure Served (rules : String → RuleLimits) (log : List RateEvent) (last : Nat)
    (l : AbuseRateLimiter) : Prop where
  tracks : ∀ key, Tracks (rules (ruleOf key)) log last key (l.buckets.get? key)
  waits : ∀ key, Waits (rules (ruleOf key)).cooldownMs log last key (l.cooldowns.get? key)

variable {rules : String → RuleLimits} {l : AbuseRateLimiter}

theorem Served.sweep (served : Served rules log last l) (later : last ≤ now) :
    Served rules log now (l.sweep now) := by
  unfold AbuseRateLimiter.sweep
  split
  · exact ⟨fun key => (served.tracks key).mono later, fun key => (served.waits key).mono later⟩
  · refine ⟨fun key => ?_, fun key => ?_⟩
    · simp only [KeyedList.get?_filter]
      exact (served.tracks key).sweep later
    · simp only [KeyedList.get?_filter]
      exact (served.waits key).sweep later

/-- What a call begins with, swept or not. -/
theorem Served.begin (served : Served rules log last l) (later : last ≤ now) (sweeps : Bool) :
    Served rules log now (if sweeps then l.sweep now else l) := by
  split
  · exact served.sweep later
  · exact ⟨fun key => (served.tracks key).mono later, fun key => (served.waits key).mono later⟩

theorem counted_key {window windowMs limit threshold : Nat}
    (named : ∀ b, bucket = some b → b.key = key) :
    (counted key window windowMs limit threshold bucket).key = key := by
  have first : (bucketFor key window windowMs bucket).key = key := by
    unfold bucketFor
    cases bucket with
    | none => rfl
    | some b =>
      dsimp only
      split
      · exact named b rfl
      · rfl
  unfold counted
  dsimp only
  rw [countViolation_eq, countAbuse_eq]
  exact first

/-- The loop of `check` counts the call once for each of its keys. -/
theorem check_keys (window windowMs limit threshold abusiveWindows : Nat) {keys : List String}
    (distinct : keys.Nodup) (l : AbuseRateLimiter) (d : RateDecision) :
    let bucket key := counted key window windowMs limit threshold (l.buckets.get? key)
    let result := keys.foldl (checkKey window windowMs limit threshold abusiveWindows) (l, d)
    (∀ key, result.1.buckets.get? key =
      if key ∈ keys then some (bucket key) else l.buckets.get? key) ∧
    result.1.cooldowns = l.cooldowns ∧
    (result.2.allowed = true ↔ d.allowed = true ∧ ∀ key ∈ keys, (bucket key).count ≤ limit) ∧
    (result.2.persistent = true ↔ d.persistent = true ∨ ∃ key ∈ keys,
      limit < (bucket key).count ∧ 3 ≤ (bucket key).violationStreak) ∧
    (result.2.abusive = true ↔ d.abusive = true ∨ ∃ key ∈ keys,
      threshold < (bucket key).count ∧ abusiveWindows ≤ (bucket key).abusiveStreak) := by
  induction keys generalizing l d with
  | nil => simp
  | cons key rest ih =>
    obtain ⟨fresh, distinct⟩ := List.nodup_cons.mp distinct
    have named : (counted key window windowMs limit threshold (l.buckets.get? key)).key = key :=
      counted_key fun b found => (KeyedList.mem_of_get? found).2
    have other {k : String} (later : k ∈ rest) : k ≠ key := by
      rintro rfl
      exact fresh later
    have after (k : String) : (l.buckets.set
        (counted key window windowMs limit threshold (l.buckets.get? key))).get? k =
          if k = key then some (counted key window windowMs limit threshold (l.buckets.get? key))
          else l.buckets.get? k := by
      rw [KeyedList.get?_set, named]
    have unchanged {k : String} (later : k ∈ rest) : (l.buckets.set
        (counted key window windowMs limit threshold (l.buckets.get? key))).get? k =
          l.buckets.get? k := by
      rw [after, if_neg (other later)]
    obtain ⟨buckets, cooldowns, allowed, persistent, abusive⟩ := ih distinct
      (checkKey window windowMs limit threshold abusiveWindows (l, d) key).1
      (checkKey window windowMs limit threshold abusiveWindows (l, d) key).2
    dsimp only
    rw [List.foldl_cons]
    refine ⟨fun k => (buckets k).trans ?_, cooldowns, allowed.trans ?_, persistent.trans ?_,
      abusive.trans ?_⟩
    · by_cases later : k ∈ rest
      · simp [checkKey, unchanged later, later]
      · by_cases here : k = key
        · subst here
          simp [checkKey, after, later]
        · simp [checkKey, after, later, here]
    · simp only [checkKey, Bool.and_eq_true, List.forall_mem_cons, and_assoc]
      refine and_congr_right fun _ => and_congr (by simp) ?_
      exact forall₂_congr fun k later => by rw [unchanged later]
    · simp only [checkKey, Bool.or_eq_true, Bool.and_eq_true, decide_eq_true_eq, List.mem_cons,
        exists_eq_or_imp, or_assoc]
      refine or_congr_right (or_congr_right ?_)
      exact exists_congr fun k => and_congr_right fun later => by rw [unchanged later]
    · simp only [checkKey, Bool.or_eq_true, Bool.and_eq_true, decide_eq_true_eq, List.mem_cons,
        exists_eq_or_imp, or_assoc]
      refine or_congr_right (or_congr_right ?_)
      exact exists_congr fun k => and_congr_right fun later => by rw [unchanged later]

theorem Tracks.congr (same : calls log' key = calls log key)
    (tracks : Tracks limits log last key bucket) : Tracks limits log' last key bucket := by
  cases bucket with
  | none =>
    intro window called
    rw [same] at called
    exact tracks window called
  | some b =>
    obtain ⟨counted, past⟩ := tracks
    exact ⟨⟨counted.named, counted.expires, same ▸ counted.count, same ▸ counted.later,
      counted.violated, same ▸ counted.violations, counted.abusive, same ▸ counted.abuses⟩, past⟩

theorem Waits.congr (same : ∀ at_, Granted log' key at_ ↔ Granted log key at_)
    (waits : Waits cooldownMs log last key wait) : Waits cooldownMs log' last key wait := by
  cases wait with
  | none => exact fun at_ granted => waits at_ ((same at_).mp granted)
  | some c =>
    obtain ⟨at_, granted, permitted, latest⟩ := waits
    exact ⟨at_, (same at_).mpr granted, permitted, fun other too => latest other ((same other).mp too)⟩

variable {e : RateEvent}

theorem calls_append (key : String) (window : Nat) : calls (log ++ [e]) key window =
    calls log key window + if e.counts key window then 1 else 0 := by
  simp [calls, List.countP_append, List.countP_singleton]

theorem granted_append {at_ : Nat} : Granted (log ++ [e]) key at_ ↔
    Granted log key at_ ∨ e.grants key = true ∧ e.now = at_ := by
  simp [Granted, or_and_right, exists_or]

/-- A streak tells in how many windows on end the count was exceeded. -/
theorem streak_le {limit count streak : Nat} {flag : Bool} (holds : flag = true ↔ limit < count)
    (counts : ∃ base, streak = base + (if flag then 1 else 0) ∧ Before P window base)
    (exceeded : limit < count) (n : Nat) :
    n ≤ streak ↔ ∀ i < n - 1, i + 1 ≤ window ∧ P (window - (i + 1)) := by
  obtain ⟨base, rfl, before⟩ := counts
  rw [← before (n - 1), if_pos (holds.mpr exceeded)]
  omega

theorem Counted.exceeds {b : Bucket} (counted : Counted limits log key b) (n : Nat) :
    limits.limit < b.count ∧ n ≤ b.violationStreak ↔
      Exceeds log key limits.limit b.window n := by
  rw [Exceeds, ← counted.count]
  exact and_congr_right fun exceeded =>
    streak_le counted.violated counted.violations exceeded n

theorem Counted.abused {b : Bucket} (counted : Counted limits log key b) (n : Nat) :
    limits.threshold < b.count ∧ n ≤ b.abusiveStreak ↔
      Exceeds log key limits.threshold b.window n := by
  rw [Exceeds, ← counted.count]
  exact and_congr_right fun exceeded =>
    streak_le counted.abusive counted.abuses exceeded n

/-- `check` keeps count and decides by the count. -/
theorem Served.check (served : Served rules log now l) {rule : String} {subject : RateSubject}
    {limit windowMs : Nat} {policy : RateCheckPolicy}
    (fits : Fits rules (.check rule subject limit windowMs policy)) :
    let r := l.check now rule subject limit windowMs policy
    let e : RateEvent := ⟨now, .check rule subject limit windowMs policy, r.2⟩
    Served rules (log ++ [e]) now r.1 ∧ Lawful log e := by
  intro r e
  obtain ⟨plain, positive, rfl, rfl, multiplier, windows⟩ := fits
  let c : RateCall := .check rule subject (rules rule).limit (rules rule).windowMs policy
  obtain ⟨buckets, cooldowns, allowed, persistent, abusive⟩ := check_keys
    (now / (rules rule).windowMs) (rules rule).windowMs (rules rule).limit (rules rule).threshold
    (rules rule).abusiveWindows (keys_nodup c) l ⟨true, false, false⟩
  have run : c.keys.foldl (checkKey (now / (rules rule).windowMs) (rules rule).windowMs
      (rules rule).limit (rules rule).threshold (rules rule).abusiveWindows)
      (l, ⟨true, false, false⟩) = r := by
    rw [RuleLimits.threshold, multiplier, windows]
    rfl
  rw [run] at buckets cooldowns allowed persistent abusive
  have counts (key : String) (window : Nat) : e.counts key window =
      (c.keys.contains key && decide (now / (rules rule).windowMs = window)) := rfl
  have own {key : String} (member : key ∈ c.keys) :
      Counted (rules rule) (log ++ [e]) key (counted key (now / (rules rule).windowMs)
        (rules rule).windowMs (rules rule).limit (rules rule).threshold (l.buckets.get? key)) ∧
      (counted key (now / (rules rule).windowMs) (rules rule).windowMs (rules rule).limit
        (rules rule).threshold (l.buckets.get? key)).window = now / (rules rule).windowMs := by
    have tracks := served.tracks key
    rw [ruleOf_key plain member] at tracks
    refine tracks.counted positive fun window => ?_
    rw [calls_append, counts]
    by_cases here : window = now / (rules rule).windowMs
    · simp [member, here]
    · simp [member, here, Ne.symm here]
  refine ⟨⟨fun key => ?_, fun key => ?_⟩, ?_, ?_, ?_⟩
  · rw [buckets]
    by_cases member : key ∈ c.keys
    · obtain ⟨counted, here⟩ := own member
      rw [if_pos member, ruleOf_key plain member]
      exact ⟨counted, Nat.le_of_eq here⟩
    · rw [if_neg member]
      refine (served.tracks key).congr (funext fun window => ?_)
      rw [calls_append, counts]
      simp [member]
  · rw [cooldowns]
    refine (served.waits key).congr fun at_ => ?_
    rw [granted_append]
    simp [e, RateEvent.grants]
  · refine allowed.trans ?_
    simp only [true_and]
    refine forall₂_congr fun key member => ?_
    obtain ⟨counted, here⟩ := own member
    rw [counted.count, here]
  · refine persistent.trans ?_
    simp only [Bool.false_eq_true, false_or]
    refine exists_congr fun key => and_congr_right fun member => ?_
    obtain ⟨counted, here⟩ := own member
    rw [counted.exceeds, here]
  · refine abusive.trans ?_
    simp only [Bool.false_eq_true, false_or]
    refine exists_congr fun key => and_congr_right fun member => ?_
    obtain ⟨counted, here⟩ := own member
    rw [counted.abused, here, RuleLimits.threshold, multiplier, windows]

theorem grant_keys (cooldowns : KeyedList Cooldown.key) (keys : List String) (permittedAt : Nat)
    (key : String) :
    (keys.foldl (fun cooldowns key => cooldowns.set ⟨key, permittedAt⟩) cooldowns).get? key =
      if key ∈ keys then some ⟨key, permittedAt⟩ else cooldowns.get? key := by
  induction keys generalizing cooldowns with
  | nil => rfl
  | cons first rest ih =>
    rw [List.foldl_cons, ih, KeyedList.get?_set]
    by_cases later : key ∈ rest
    · simp [later]
    · by_cases here : key = first
      · simp [here]
      · simp [later, here]

/-- `cooldown` decides by the grants, and grants what it allows. -/
theorem Served.cooldown (served : Served rules log now l) {rule : String} {subject : RateSubject}
    {cooldownMs : Nat} {scopes : Option (List RateScope)}
    (fits : Fits rules (.cooldown rule subject cooldownMs scopes)) :
    let r := l.cooldown now rule subject cooldownMs scopes
    let e : RateEvent := ⟨now, .cooldown rule subject cooldownMs scopes, r.2⟩
    Served rules (log ++ [e]) now r.1 ∧ Lawful log e := by
  intro r e
  obtain ⟨plain, rfl⟩ := fits
  let c : RateCall := .cooldown rule subject (rules rule).cooldownMs scopes
  have waits {key : String} (member : key ∈ c.keys) :
      Waits (rules rule).cooldownMs log now key (l.cooldowns.get? key) := by
    have waits := served.waits key
    rwa [ruleOf_key plain member] at waits
  have allowed : r.2.allowed = true ↔
      ∀ key ∈ c.keys, ∀ at_, Granted log key at_ → at_ + (rules rule).cooldownMs ≤ now := by
    refine List.all_eq_true.trans ?_
    refine forall₂_congr fun key member => ?_
    rw [decide_eq_true_iff, (waits member).allowed]
  have grants (key : String) : e.grants key = (c.keys.contains key && r.2.allowed) := rfl
  refine ⟨⟨fun key => ?_, fun key => ?_⟩, allowed, rfl, rfl⟩
  · have same : r.1.buckets = l.buckets := by
      change (if r.2.allowed then _ else _ : AbuseRateLimiter).buckets = l.buckets
      split <;> rfl
    rw [same]
    refine (served.tracks key).congr (funext fun window => ?_)
    rw [calls_append]
    rfl
  · have cooldowns : r.1.cooldowns.get? key = if r.2.allowed = true ∧ key ∈ c.keys then
        some ⟨key, now + (rules rule).cooldownMs⟩ else l.cooldowns.get? key := by
      change (if r.2.allowed then _ else _ : AbuseRateLimiter).cooldowns.get? key = _
      split
      · rename_i granted
        refine (grant_keys l.cooldowns c.keys _ key).trans ?_
        simp [granted]
      · rename_i refused
        simp [refused]
    rw [cooldowns]
    by_cases taken : r.2.allowed = true ∧ key ∈ c.keys
    · obtain ⟨granted, member⟩ := taken
      rw [if_pos ⟨granted, member⟩, ruleOf_key plain member]
      refine ⟨now, granted_append.mpr (.inr ⟨by simp [grants, member, granted], rfl⟩), rfl,
        fun other too => ?_⟩
      rcases granted_append.mp too with before | ⟨-, here⟩
      · have waited := allowed.mp granted key member other before
        omega
      · exact Nat.le_of_eq here.symm
    · rw [if_neg taken]
      refine (served.waits key).congr fun at_ => ?_
      have none_ : e.grants key = false := by
        rw [grants, Bool.and_eq_false_iff]
        by_cases granted : r.2.allowed = true
        · exact .inl (by simpa using fun member => taken ⟨granted, member⟩)
        · exact .inr (by simpa using granted)
      rw [granted_append, none_]
      simp

theorem Served.call (served : Served rules log last l) (later : last ≤ now) {c : RateCall}
    (fits : Fits rules c) (sweeps : Bool) :
    let r := l.call sweeps now c
    Served rules (log ++ [⟨now, c, r.2⟩]) now r.1 ∧ Lawful log ⟨now, c, r.2⟩ := by
  have begins := served.begin later sweeps
  cases c with
  | check rule subject limit windowMs policy => exact begins.check fits
  | cooldown rule subject cooldownMs scopes => exact begins.cooldown fits

/-! ## Runs -/

structure RateRun where
  limiter : AbuseRateLimiter
  log : List RateEvent

def RateRun.step (sweeps : Bool) (r : RateRun) (timed : Nat × RateCall) : RateRun :=
  let answer := r.limiter.call sweeps timed.1 timed.2
  ⟨answer.1, r.log ++ [⟨timed.1, timed.2, answer.2⟩]⟩

/-- The calls, one after the other, to a limiter that sweeps or to one that does not. -/
def run (sweeps : Bool) (calls : List (Nat × RateCall)) : RateRun :=
  calls.foldl (RateRun.step sweeps) ⟨new, []⟩

theorem run_append (sweeps : Bool) (calls : List (Nat × RateCall)) (timed : Nat × RateCall) :
    run sweeps (calls ++ [timed]) = (run sweeps calls).step sweeps timed :=
  List.foldl_append.trans rfl

def LawfulLog (log : List RateEvent) : Prop :=
  ∀ before e after, log = before ++ e :: after → Lawful before e

theorem LawfulLog.append (lawful : LawfulLog log) (next : Lawful log e) : LawfulLog (log ++ [e]) := by
  intro before event after split_
  rcases List.eq_nil_or_concat after with rfl | ⟨front, last, rfl⟩
  · obtain ⟨same, rfl⟩ := List.append_inj' split_ rfl |>.imp_right List.cons.inj |>.imp_right And.left
    exact same ▸ next
  · rw [List.concat_eq_append, ← List.cons_append, ← List.append_assoc] at split_
    exact lawful before event front (List.append_inj' split_ rfl).1

def lastOf (calls : List (Nat × RateCall)) : Nat := (calls.getLast?.map Prod.fst).getD 0

theorem run_served {calls : List (Nat × RateCall)} (fits : ∀ timed ∈ calls, Fits rules timed.2)
    (ordered : (calls.map Prod.fst).Pairwise (· ≤ ·)) (sweeps : Bool) :
    Served rules (run sweeps calls).log (lastOf calls) (run sweeps calls).limiter ∧
      LawfulLog (run sweeps calls).log := by
  induction calls using List.reverseRecOn with
  | nil =>
    refine ⟨⟨fun key window called => ?_, fun key at_ granted => ?_⟩, fun before e after split_ => ?_⟩
    · simp [run, AbuseRateLimiter.calls] at called
    · simp [run, Granted] at granted
    · simp [run] at split_
  | append_singleton calls timed ih =>
    rw [List.map_append, List.pairwise_append] at ordered
    obtain ⟨ordered, -, later⟩ := ordered
    obtain ⟨served, lawful⟩ := ih (fun t member => fits t (List.mem_append_left _ member)) ordered
    have after : lastOf calls ≤ timed.1 := by
      unfold lastOf
      cases last : calls.getLast? with
      | none => exact Nat.zero_le _
      | some previous =>
        exact later previous.1 (List.mem_map_of_mem (List.mem_of_getLast? last)) timed.1 (by simp)
    have here : lastOf (calls ++ [timed]) = timed.1 := by simp [lastOf]
    obtain ⟨next, decides⟩ := served.call after (fits timed (by simp)) sweeps
    rw [run_append, here]
    exact ⟨next, lawful.append decides⟩

/-- The laws leave no choice. -/
theorem Lawful.unique {c : RateCall} {d d' : RateDecision} (first : Lawful log ⟨now, c, d⟩)
    (second : Lawful log ⟨now, c, d'⟩) : d = d' := by
  have count (key : String) (window : Nat) : calls (log ++ [⟨now, c, d⟩]) key window =
      calls (log ++ [⟨now, c, d'⟩]) key window := by
    rw [calls_append, calls_append]
    rfl
  obtain ⟨allowed, persistent, abusive⟩ := d
  obtain ⟨allowed', persistent', abusive'⟩ := d'
  cases c with
  | check rule subject limit windowMs policy =>
    simp only [Lawful, Exceeds, count] at first second
    congr 1
    · exact Bool.eq_iff_iff.mpr (first.1.trans second.1.symm)
    · exact Bool.eq_iff_iff.mpr (first.2.1.trans second.2.1.symm)
    · exact Bool.eq_iff_iff.mpr (first.2.2.trans second.2.2.symm)
  | cooldown rule subject cooldownMs scopes =>
    obtain ⟨grants, rfl, rfl⟩ := first
    obtain ⟨grants', rfl, rfl⟩ := second
    congr 1
    exact Bool.eq_iff_iff.mpr (grants.trans grants'.symm)

theorem run_unswept {calls : List (Nat × RateCall)} (fits : ∀ timed ∈ calls, Fits rules timed.2)
    (ordered : (calls.map Prod.fst).Pairwise (· ≤ ·)) : (run true calls).log = (run false calls).log := by
  induction calls using List.reverseRecOn with
  | nil => rfl
  | append_singleton calls timed ih =>
    have swept := (run_served fits ordered true).2
    have unswept := (run_served fits ordered false).2
    rw [List.map_append, List.pairwise_append] at ordered
    have same := ih (fun t member => fits t (List.mem_append_left _ member)) ordered.1
    rw [run_append] at swept unswept ⊢
    rw [run_append]
    have first := swept _ _ [] rfl
    have second := unswept _ _ [] rfl
    unfold RateRun.step
    dsimp only
    rw [← same] at second ⊢
    rw [first.unique second]

theorem run_events (sweeps : Bool) (calls : List (Nat × RateCall)) :
    (run sweeps calls).log.map (fun e => (e.now, e.call)) = calls := by
  induction calls using List.reverseRecOn with
  | nil => rfl
  | append_singleton calls timed ih => simp [run_append, RateRun.step, ih]

theorem allowedCalls_le (lawful : LawfulLog log) (fits : ∀ e ∈ log, Fits rules e.call)
    (key : String) (window : Nat) : allowedCalls log key window ≤ (rules (ruleOf key)).limit := by
  induction log using List.reverseRecOn with
  | nil => exact Nat.zero_le _
  | append_singleton log e ih =>
    by_cases counts : (e.counts key window && e.decision.allowed) = true
    · obtain ⟨counted, allowed⟩ := Bool.and_eq_true_iff.mp counts
      have below : allowedCalls (log ++ [e]) key window ≤ calls (log ++ [e]) key window :=
        List.countP_mono_left fun event _ both => (Bool.and_eq_true_iff.mp both).1
      refine Nat.le_trans below ?_
      have decides := lawful log e [] rfl
      have fit := fits e (by simp)
      obtain ⟨at_, c, d⟩ := e
      cases c with
      | cooldown rule subject cooldownMs scopes => cases counted
      | check rule subject limit windowMs policy =>
        obtain ⟨member, here⟩ := Bool.and_eq_true_iff.mp counted
        have listed : key ∈ (RateCall.check rule subject limit windowMs policy).keys := by
          simpa using member
        rw [ruleOf_key fit.1 listed, ← of_decide_eq_true here]
        exact fit.2.2.1 ▸ decides.1.mp allowed key listed
    · have same : allowedCalls (log ++ [e]) key window = allowedCalls log key window := by
        simp [allowedCalls, List.countP_append, counts]
      rw [same]
      exact ih (fun before event after split_ => lawful before event (after ++ [e]) (by simp [split_]))
        fun event member => fits event (List.mem_append_left _ member)

/-- Whatever calls come in, in the order of the clock: the sweep changes no decision, every decision
is by the calls so far, and no key is allowed more calls in a window than the limit. -/
theorem decisions_lawful {calls : List (Nat × RateCall)}
    (fits : ∀ timed ∈ calls, Fits rules timed.2)
    (ordered : (calls.map Prod.fst).Pairwise (· ≤ ·)) :
    (run true calls).log = (run false calls).log ∧ LawfulLog (run true calls).log ∧
      ∀ key window, allowedCalls (run true calls).log key window ≤ (rules (ruleOf key)).limit := by
  have lawful := (run_served fits ordered true).2
  refine ⟨run_unswept fits ordered, lawful, allowedCalls_le lawful fun e member => ?_⟩
  have listed : (e.now, e.call) ∈ calls := by
    rw [← run_events true calls]
    exact List.mem_map_of_mem member
  exact fits _ listed

/-- Two calls in a window of a limit of one, and a cooldown. -/
theorem decisions_lawful_input :
    let subject : RateSubject := ⟨1, "1.2.3.4", some "7"⟩
    let check : RateCall := .check "input" subject 1 1000 ⟨none, none, none⟩
    let calls := [(0, check), (500, check), (900, .cooldown "emoji" subject 3000 none)]
    (run true calls).log = (run false calls).log ∧ LawfulLog (run true calls).log ∧
      ∀ key window, allowedCalls (run true calls).log key window ≤ 1 := by
  intro subject check calls
  let rules : String → RuleLimits := fun _ => ⟨1, 1000, 5, 5, 3000⟩
  have fits : ∀ timed ∈ calls, Fits rules timed.2 := by
    simp [calls, check, subject, rules, Fits, RateCall.rule]
  exact decisions_lawful fits (by simp [calls])

end SwitchRemake.Gateway.AbuseRateLimiter

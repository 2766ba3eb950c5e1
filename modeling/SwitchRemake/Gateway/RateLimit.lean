import SwitchRemake.Lib.KeyedList

/-!
# Rate limits

`gateway/rate-limit.ts`. Times are milliseconds of the clock, which is an argument wherever the
source reads it.
-/

namespace SwitchRemake.Gateway
open Lib

inductive RateScope where
  | connection | ip | user
deriving DecidableEq

/-- `userId` as the text that a key has of it. -/
structure RateSubject where
  connectionId : Nat
  ip : String
  userId : Option String
deriving DecidableEq

structure RateDecision where
  allowed : Bool
  persistent : Bool
  abusive : Bool
deriving DecidableEq

structure RateCheckPolicy where
  scopes : Option (List RateScope)
  abusiveMultiplier : Option Nat
  abusiveWindows : Option Nat
deriving DecidableEq

/-- An entry of `#buckets`, with its key. -/
structure Bucket where
  key : String
  window : Nat
  expiresAt : Nat
  count : Nat
  violated : Bool
  violationStreak : Nat
  abusive : Bool
  abusiveStreak : Nat
deriving DecidableEq

/-- An entry of `#cooldowns`, with its key. -/
structure Cooldown where
  key : String
  permittedAt : Nat
deriving DecidableEq

structure AbuseRateLimiter where
  buckets : KeyedList Bucket.key
  cooldowns : KeyedList Cooldown.key
  nextSweepAt : Nat

def sweepIntervalMs : Nat := 5000

namespace AbuseRateLimiter

def new : AbuseRateLimiter := ⟨.empty, .empty, 0⟩

def sweep (l : AbuseRateLimiter) (now : Nat) : AbuseRateLimiter :=
  if now < l.nextSweepAt then l
  else
    { buckets := l.buckets.filter fun bucket => now < bucket.expiresAt
      cooldowns := l.cooldowns.filter fun cooldown => now < cooldown.permittedAt
      nextSweepAt := now + sweepIntervalMs }

def subjectKeys (rule : String) (subject : RateSubject) (scopes : List RateScope) : List String :=
  (if scopes.contains .connection then [rule ++ ":connection:" ++ toString subject.connectionId]
    else []) ++
  (if scopes.contains .ip then [rule ++ ":ip:" ++ subject.ip] else []) ++
  match subject.userId with
  | some userId => if scopes.contains .user then [rule ++ ":user:" ++ userId] else []
  | none => []

/-- The bucket of a key for this window. The streaks live on in the window that follows. -/
def bucketFor (key : String) (window windowMs : Nat) (bucket : Option Bucket) : Bucket :=
  let fresh (violationStreak abusiveStreak : Nat) : Bucket :=
    { key, window, expiresAt := (window + 2) * windowMs, count := 0, violated := false
      violationStreak, abusive := false, abusiveStreak }
  match bucket with
  | none => fresh 0 0
  | some previous =>
    if previous.window = window then previous
    else
      let consecutive := previous.violated ∧ previous.window + 1 = window
      let abusiveConsecutive := previous.abusive ∧ previous.window + 1 = window
      fresh (if consecutive then previous.violationStreak else 0)
        (if abusiveConsecutive then previous.abusiveStreak else 0)

def countViolation (limit : Nat) (bucket : Bucket) : Bucket :=
  if limit < bucket.count ∧ bucket.violated = false then
    { bucket with violated := true, violationStreak := bucket.violationStreak + 1 }
  else bucket

def countAbuse (threshold : Nat) (bucket : Bucket) : Bucket :=
  if threshold < bucket.count ∧ bucket.abusive = false then
    { bucket with abusive := true, abusiveStreak := bucket.abusiveStreak + 1 }
  else bucket

/-- A call counted in the bucket of a key. -/
def counted (key : String) (window windowMs limit threshold : Nat) (bucket : Option Bucket) : Bucket :=
  let bucket := bucketFor key window windowMs bucket
  countAbuse threshold (countViolation limit { bucket with count := bucket.count + 1 })

/-- One turn of the loop of `check`. -/
def checkKey (window windowMs limit threshold abusiveWindows : Nat)
    (state : AbuseRateLimiter × RateDecision) (key : String) : AbuseRateLimiter × RateDecision :=
  let (l, decision) := state
  let bucket := counted key window windowMs limit threshold (l.buckets.get? key)
  let exceeds : Bool := limit < bucket.count
  let abuses : Bool := threshold < bucket.count
  ({ l with buckets := l.buckets.set bucket },
    { allowed := decision.allowed && !exceeds
      persistent := decision.persistent || exceeds && decide (3 ≤ bucket.violationStreak)
      abusive := decision.abusive || abuses && decide (abusiveWindows ≤ bucket.abusiveStreak) })

/-- The scopes that `check` counts in by default. -/
def allScopes : List RateScope := [.connection, .ip, .user]

/-- `check` but for the sweep. -/
def check (l : AbuseRateLimiter) (now : Nat) (rule : String) (subject : RateSubject)
    (limit windowMs : Nat) (policy : RateCheckPolicy) : AbuseRateLimiter × RateDecision :=
  (subjectKeys rule subject (policy.scopes.getD allScopes)).foldl
    (checkKey (now / windowMs) windowMs limit (limit * policy.abusiveMultiplier.getD 5)
      (policy.abusiveWindows.getD 5))
    (l, ⟨true, false, false⟩)

/-- `cooldown` but for the sweep. -/
def cooldown (l : AbuseRateLimiter) (now : Nat) (rule : String) (subject : RateSubject)
    (cooldownMs : Nat) (scopes : Option (List RateScope)) : AbuseRateLimiter × RateDecision :=
  let keys := subjectKeys rule subject (scopes.getD [.ip, .user])
  let allowed := keys.all fun key =>
    decide (((l.cooldowns.get? key).map Cooldown.permittedAt).getD 0 ≤ now)
  let granted := keys.foldl (fun cooldowns key => cooldowns.set ⟨key, now + cooldownMs⟩) l.cooldowns
  (if allowed then { l with cooldowns := granted } else l, ⟨allowed, false, false⟩)

inductive RateCall where
  | check (rule : String) (subject : RateSubject) (limit windowMs : Nat) (policy : RateCheckPolicy)
  | cooldown (rule : String) (subject : RateSubject) (cooldownMs : Nat)
    (scopes : Option (List RateScope))
deriving DecidableEq

/-- A call of the source sweeps first. A limiter that does not is its specification. -/
def call (sweeps : Bool) (l : AbuseRateLimiter) (now : Nat) (c : RateCall) :
    AbuseRateLimiter × RateDecision :=
  let swept := if sweeps then l.sweep now else l
  match c with
  | .check rule subject limit windowMs policy => swept.check now rule subject limit windowMs policy
  | .cooldown rule subject cooldownMs scopes => swept.cooldown now rule subject cooldownMs scopes

end AbuseRateLimiter
end SwitchRemake.Gateway

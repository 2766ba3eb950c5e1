import SwitchRemake.Lib.Expiring

/-!
# RedisService's scripts

Each is one atomic command over keys that expire; `now` is the server's clock in milliseconds.
-/

namespace SwitchRemake.Redis
open Lib

variable {α : Type} [DecidableEq α]

def setIfAbsent (now : Nat) (key : Cell α) (value : α) (ttlSeconds : Nat) : Bool × Cell α :=
  match key.get now with
  | some _ => (false, key)
  | none => (true, .put now (ttlSeconds * 1000) value)

def compareAndDelete (now : Nat) (key : Cell α) (expectedValue : α) : Bool × Cell α :=
  if key.get now = some expectedValue then (true, none) else (false, key)

def setPxIfAbsent (now : Nat) (key : Cell α) (value : α) (ttlMs : Nat) : Bool × Cell α :=
  match key.get now with
  | some _ => (false, key)
  | none => (true, .put now ttlMs value)

def compareAndSetPx (now : Nat) (key : Cell α) (expectedValue value : α) (ttlMs : Nat) :
    Bool × Cell α :=
  if key.get now = some expectedValue then (true, .put now ttlMs value) else (false, key)

def compareAndExpire (now : Nat) (key : Cell α) (expectedValue : α) (ttlMs : Nat) :
    Bool × Cell α :=
  if key.get now = some expectedValue then (true, .put now ttlMs expectedValue) else (false, key)

/-- A borrowed value leaves its key for the time of the claim, and what was left of its lifetime is
returned. -/
def compareAndClaim (now : Nat) (key : Cell α) (expectedValue : α) (claimKey : Cell α)
    (claimValue : α) (claimTtlSeconds : Nat) : Int × Cell α × Cell α :=
  if (claimKey.get now).isSome then (-2, key, claimKey)
  else if key.get now ≠ some expectedValue then (-1, key, claimKey)
  else (key.remaining now, none, .put now (claimTtlSeconds * 1000) claimValue)

def releaseClaim (now : Nat) (claimKey : Cell α) (claimValue : α) (key : Cell α) (value : α)
    (ttlMilliseconds : Nat) : Bool × Cell α × Cell α :=
  if claimKey.get now ≠ some claimValue then (false, claimKey, key)
  else (true, none, .put now (max 1 ttlMilliseconds) value)

def incrementWithTtl (now : Nat) (key : Cell Nat) (ttlSeconds : Nat) : Nat × Cell Nat :=
  let counted := key.bump now (ttlSeconds * 1000)
  ((counted.get now).getD 0, counted)

end SwitchRemake.Redis

import SwitchRemake.Lib.KeyedList
import SwitchRemake.Shared.ReplayFormat
import SwitchRemake.Matching.Database

/-!
# Sanctions

`server-match/sanction/sanction.service.ts`, the registration check of `user/user.service.ts` and the
two jobs of `retention/retention.service.ts` that touch sanctions. Times are instants, `now` is the
clock of the call. A call that throws commits nothing.
-/

namespace SwitchRemake.Matching
open Lib

inductive SanctionType where
  | warn | gameRestrict | ban
  deriving DecidableEq, Repr

structure AccountRow where
  id : Nat
  email : String
  accountStatus : AccountStatus
  mfaMethod : Option String
  deriving DecidableEq

structure SanctionRow where
  id : String
  userId : Nat
  type : SanctionType
  startsAt : Int
  expiresAt : Option Int
  emailHmac : Option String
  createdAt : Int
  deriving DecidableEq

structure RevocationRow where
  sanctionId : String
  createdAt : Int
  deriving DecidableEq

structure Tables where
  users : KeyedList AccountRow.id
  sanctions : KeyedList SanctionRow.id
  sanctionRevocations : KeyedList RevocationRow.sanctionId

inductive SanctionError where
  | notFound (message : String)
  | conflict (message : String)
  | forbidden (code : String)
  deriving DecidableEq

structure ApplySanctionInput where
  userId : Nat
  type : SanctionType
  startsAt : Option Int
  expiresAt : Option Int

namespace Tables

def empty : Tables := ⟨.empty, .empty, .empty⟩

/-! ## Queries -/

def revoked (t : Tables) (sanctionId : String) : Bool := t.sanctionRevocations.has sanctionId

/-- `expires_at IS NULL OR expires_at > now`. -/
def lasts (s : SanctionRow) (now : Int) : Bool := s.expiresAt.all fun ends => now < ends

/-- The sanction stands unrevoked over this instant. -/
def active (t : Tables) (type : SanctionType) (userId : Nat) (now : Int) (s : SanctionRow) : Bool :=
  s.userId = userId && s.type = type && s.startsAt ≤ now && lasts s now && !t.revoked s.id

def activeBan (t : Tables) (userId : Nat) (now : Int) : Bool :=
  t.sanctions.entries.any (t.active .ban userId now)

def isGameRestricted (t : Tables) (userId : Nat) (now : Int) : Bool :=
  t.sanctions.entries.any (t.active .gameRestrict userId now)

def statusOf (t : Tables) (userId : Nat) : Option AccountStatus :=
  (t.users.get? userId).map AccountRow.accountStatus

def setStatus (t : Tables) (userId : Nat) (status : AccountStatus) : Tables :=
  { t with
    users := t.users.modify userId (fun user => { user with accountStatus := status }) fun _ => rfl }

/-! ## Applying and revoking -/

def apply (input : ApplySanctionInput) (id : String) (now : Int) (t : Tables) :
    Except SanctionError Tables :=
  let startsAt := input.startsAt.getD now
  if input.expiresAt.any fun ends => ends ≤ startsAt then
    .error (.conflict "Sanction expiration must be after its start")
  else match t.users.get? input.userId with
    | none => .error (.notFound "User not found")
    | some user =>
      if user.accountStatus = .deleted then
        .error (.conflict "Deleted accounts cannot be sanctioned")
      else
        let sanction : SanctionRow :=
          { id, userId := input.userId, type := input.type, startsAt, expiresAt := input.expiresAt
            emailHmac := none, createdAt := now }
        match t.sanctions.insert? sanction with
        | none => .error (.conflict "duplicate key")
        | some sanctions =>
          let t := { t with sanctions }
          if input.type = .ban && startsAt ≤ now && lasts sanction now then
            .ok (t.setStatus input.userId .banned)
          else .ok t

def revoke (sanctionId : String) (now : Int) (t : Tables) : Except SanctionError Tables :=
  match t.sanctions.get? sanctionId with
  | none => .error (.notFound "Sanction not found")
  | some sanction =>
    match t.sanctionRevocations.insert? { sanctionId, createdAt := now } with
    | none => .error (.conflict "Sanction is already revoked")
    | some sanctionRevocations =>
      let t := { t with sanctionRevocations }
      if sanction.type = .ban then
        let otherActiveBan := t.sanctions.entries.any fun s =>
          s.id ≠ sanctionId && t.active .ban sanction.userId now s
        if !otherActiveBan && t.statusOf sanction.userId = some .banned then
          .ok (t.setStatus sanction.userId .active)
        else .ok t
      else .ok t

/-! ## The status column -/

/-- `reconcileUserStatus`: what it returns and what it writes. -/
def reconcileUserStatus (userId : Nat) (now : Int) (t : Tables) : AccountStatus × Tables :=
  match t.users.get? userId with
  | none => (.deleted, t)
  | some user =>
    if user.accountStatus = .deleted then (.deleted, t)
    else if t.activeBan userId now then
      if user.accountStatus ≠ .banned then (.banned, t.setStatus userId .banned) else (.banned, t)
    else if user.accountStatus ≠ .banned then (user.accountStatus, t)
    else (.active, t.setStatus userId .active)

/-- Only a status that says banned is looked at again. -/
def reconcileLoginStatus (userId : Nat) (cachedStatus : AccountStatus) (now : Int) (t : Tables) :
    AccountStatus × Tables :=
  if cachedStatus ≠ .banned then (cachedStatus, t) else t.reconcileUserStatus userId now

/-- `login` and `requireActor` read the row and go on with `ACTIVE` only. -/
def loginStatus (userId : Nat) (now : Int) (t : Tables) : Option AccountStatus × Tables :=
  match t.users.get? userId with
  | none => (none, t)
  | some user =>
    let (status, t) := t.reconcileLoginStatus userId user.accountStatus now
    (some status, t)

/-- The accounts a round looks at: the banned ones, and those with a ban that runs. -/
def pendingAccounts (t : Tables) (now : Int) : List Nat :=
  ((t.users.entries.filter fun user => user.accountStatus = .banned).map AccountRow.id ++
    (t.sanctions.entries.filter fun s => t.active .ban s.userId now s).map
      SanctionRow.userId).dedup

def runScheduledReconciliation (now : Int) (t : Tables) : Tables :=
  (t.pendingAccounts now).foldl (fun t userId => (t.reconcileUserStatus userId now).2) t

end Tables

/-! ## Addresses -/

section
variable (hmacSha256 : String → String)

/-- `text.trim()`. -/
def trim (text : String) : String :=
  let blank (c : Char) : Bool := Replay.whiteSpace.contains c.toNat
  String.ofList (((text.toList.dropWhile blank).reverse.dropWhile blank).reverse)

def normalizedEmail (email : String) : String := toLowerCase (trim email)

/-- `hmacEmail` of the session security service. -/
def hmacEmail (email : String) : String := hmacSha256 ("email\x00" ++ normalizedEmail email)

namespace Tables

/-- `expires_at > now OR (type = 'BAN' AND expires_at IS NULL)`. -/
def barsUntil (s : SanctionRow) (now : Int) : Bool :=
  s.expiresAt.any (fun ends => now < ends) || (s.type = .ban && s.expiresAt.isNone)

def isEmailRegistrationBlocked (email : String) (now : Int) (t : Tables) : Bool :=
  t.sanctions.entries.any fun s =>
    s.emailHmac = some (hmacEmail hmacSha256 email) && !t.revoked s.id && barsUntil s now

/-- `createUser` with a code that was claimed: the row it inserts. -/
def createUser (email : String) (id : Nat) (now : Int) (t : Tables) : Except SanctionError Tables :=
  let email := normalizedEmail email
  if isEmailRegistrationBlocked hmacSha256 email now t then .error (.conflict "EMAIL_UNAVAILABLE")
  else if t.users.entries.any fun user => toLowerCase user.email = toLowerCase email then
    .error (.conflict "EMAIL_UNAVAILABLE")
  else match t.users.insert? { id, email, accountStatus := .active, mfaMethod := none } with
    | none => .error (.conflict "duplicate key")
    | some users => .ok { t with users }

/-- The sanctions that the deletion of this account stamps. -/
def stamps (t : Tables) (userId : Nat) (now : Int) (s : SanctionRow) : Bool :=
  s.userId = userId && !t.revoked s.id &&
    (s.expiresAt.any (fun ends => now < ends) || (s.type = .ban && s.expiresAt.isNone))

def deleteAccount (userId : Nat) (mfaVerified : Option String) (tombstone : String) (now : Int)
    (t : Tables) : Except SanctionError Tables :=
  match t.users.get? userId with
  | none => .error (.notFound "User not found")
  | some user =>
    if user.accountStatus = .deleted then .error (.notFound "User not found")
    else if user.mfaMethod.isSome && mfaVerified ≠ user.mfaMethod then
      .error (.forbidden "MFA_REQUIRED")
    else .ok
      { t with
        sanctions := t.sanctions.mapEntries
          (fun s => if t.stamps userId now s then
            { s with emailHmac := some (hmacEmail hmacSha256 user.email) } else s)
          fun _ => by split <;> rfl
        users := t.users.modify userId
          (fun user => { user with
            accountStatus := .deleted
            email := "deleted-" ++ tombstone ++ "@invalid.local"
            mfaMethod := none })
          fun _ => rfl }

end Tables
end

namespace Tables

/-! ## Retention -/

/-- The sanctions whose stamp the job may take off. -/
def clears (t : Tables) (now : Int) (s : SanctionRow) : Bool :=
  s.emailHmac.isSome && (s.expiresAt.any (fun ends => ends ≤ now) ||
    (s.expiresAt.isNone && s.type ≠ .ban) || t.revoked s.id)

/-- A round takes some of the candidates: at most 500, and none that is locked. -/
def deleteExpiredSanctionEmailHmacs (now : Int) (taken : String → Bool) (t : Tables) : Tables :=
  { t with
    sanctions := t.sanctions.mapEntries
      (fun s => if t.clears now s && taken s.id then { s with emailHmac := none } else s)
      fun _ => by split <;> rfl }

/-- The sanctions that are kept no longer: old warnings, and what ended or was revoked long ago. -/
def purges (t : Tables) (cutoff : Int) (s : SanctionRow) : Bool :=
  (s.type = .warn && s.createdAt < cutoff && !t.revoked s.id) ||
    (s.expiresAt.any (fun ends => ends < cutoff) && !t.revoked s.id) ||
    (t.sanctionRevocations.get? s.id).any fun revocation => revocation.createdAt < cutoff

def deleteExpiredSanctions (cutoff : Int) (taken : String → Bool) (t : Tables) : Tables :=
  { t with
    sanctions := t.sanctions.filter fun s => !(t.purges cutoff s && taken s.id)
    sanctionRevocations := t.sanctionRevocations.filter fun revocation =>
      !(t.sanctions.get? revocation.sanctionId).any fun s => t.purges cutoff s && taken s.id }

end Tables
end SwitchRemake.Matching

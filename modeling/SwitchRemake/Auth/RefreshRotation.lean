import SwitchRemake.Lib.Expiring
import SwitchRemake.Lib.Runs

/-!
# Rotation of refresh tokens

`refresh`, the row of `createSession` and `buildTokens` of `auth/auth.service.ts`, and the logouts of
`session/session.service.ts`. A transaction is one step, and so is each call of `refresh` to Redis.
Times are in milliseconds; a token is what is signed in it.
-/

namespace SwitchRemake.Auth.Rotation
open Lib

structure RefreshToken where
  sub : Nat
  email : String
  sid : String
  fid : String
  gen : Nat
  sev : Nat
  exp : Nat
deriving DecidableEq

structure AccessToken where
  sub : Nat
  email : String
  sid : String
  sev : Nat
deriving DecidableEq

structure User where
  id : Nat
  email : String
  nickname : String
  active : Bool
  securityEpoch : Nat
deriving DecidableEq

structure Session (Hash : Type) where
  id : String
  userId : Nat
  refreshTokenHash : Hash
  lastUsedAt : Nat
  expiresAt : Nat
  revokedAt : Option Nat
  familyId : String
  generation : Nat
deriving DecidableEq

structure CachedRotationResult where
  accessToken : AccessToken
  refreshToken : RefreshToken
  nickname : String
deriving DecidableEq

/-- `REFRESH_ROTATION_GRACE_MS`. -/
def refreshRotationGraceMs : Nat := 10000

def rotationLockMs : Nat := 3000

structure BuiltTokens where
  sessionId : String
  accessToken : AccessToken
  refreshToken : RefreshToken
  expiresAt : Nat

def buildTokens (now refreshTtlSeconds userId : Nat) (email familyId : String)
    (generation securityEpoch : Nat) (sessionId : String) : BuiltTokens where
  sessionId := sessionId
  accessToken := ⟨userId, email, sessionId, securityEpoch⟩
  refreshToken := ⟨userId, email, sessionId, familyId, generation, securityEpoch,
    now / 1000 + refreshTtlSeconds⟩
  expiresAt := now + refreshTtlSeconds * 1000

/-! ## A call of `refresh` -/

/-- Where a call stands. `now` is its `new Date()`, `lockId` its random id. -/
inductive Stage where
  | started
  | known
  | checked (now : Nat)
  | missed (now : Nat)
  | waiting (attempts : Nat)
  | locked (now : Nat) (lockId : String)
  | refused (lockId : String)
  | rotated (response : CachedRotationResult) (lockId : String)
  | unlocking (response : CachedRotationResult) (lockId : String)
  | done (answer : Option CachedRotationResult)
deriving DecidableEq

/-- The response that a call has got or is about to give. -/
def Stage.response : Stage → Option CachedRotationResult
  | .rotated response _ | .unlocking response _ => some response
  | .done answer => answer
  | _ => none

structure RefreshCall where
  token : RefreshToken
  stage : Stage
deriving DecidableEq

/-- What a turn meets: whether the call to Redis returns, whether one that fails was carried out,
the status after reconciliation, and a random id. -/
structure TurnEnv where
  works : Bool
  lands : Bool
  reconciled : Bool
  draw : String
deriving DecidableEq

/-- `issued` and `rotations` tell what has been: the tokens signed, and which came from which. -/
structure RefreshRun (Hash : Type) where
  now : Nat
  users : Nat → Option User
  sessions : List (Session Hash)
  results : Hash → Cell CachedRotationResult
  locks : Hash → Cell String
  calls : List RefreshCall
  issued : List RefreshToken
  rotations : List (RefreshToken × RefreshToken)

def revokeWhere {Hash : Type} (p : Session Hash → Bool) (now : Nat)
    (sessions : List (Session Hash)) : List (Session Hash) :=
  sessions.map fun row =>
    if p row = true ∧ row.revokedAt = none then { row with revokedAt := some now } else row

inductive RefreshResult where
  | ok (response : CachedRotationResult)
  | invalid
  | reuse (familyId : String) (generation : Nat)

variable {Hash : Type} [DecidableEq Hash]

namespace RefreshRun

/-- The row of a new token. -/
def openSession (hash : RefreshToken → Hash) (s : RefreshRun Hash) (now : Nat)
    (tokens : BuiltTokens) : RefreshRun Hash :=
  { s with
    sessions := s.sessions ++ [⟨tokens.sessionId, tokens.refreshToken.sub,
      hash tokens.refreshToken, now, tokens.expiresAt, none, tokens.refreshToken.fid,
      tokens.refreshToken.gen⟩]
    issued := s.issued ++ [tokens.refreshToken] }

/-- The transaction of `refresh`. -/
def rotate (hash : RefreshToken → Hash) (refreshTtlSeconds : Nat) (s : RefreshRun Hash)
    (payload : RefreshToken) (now : Nat) (draw : String) : RefreshResult × RefreshRun Hash :=
  match s.users payload.sub with
  | none => (.invalid, s)
  | some user =>
    if user.active = false ∨ user.securityEpoch ≠ payload.sev then (.invalid, s)
    else
      match s.sessions.find? fun row =>
        row.id = payload.sid ∧ row.refreshTokenHash = hash payload with
      | none => (.invalid, s)
      | some session =>
        if session.expiresAt ≤ now ∨ payload.exp ≠ 0 ∧ payload.exp * 1000 ≤ now then
          (.invalid, { s with
            sessions := revokeWhere (fun row => row.id = session.id) now s.sessions })
        else if session.userId ≠ user.id then (.invalid, s)
        else if session.familyId ≠ payload.fid ∨ session.generation ≠ payload.gen then (.invalid, s)
        else if session.revokedAt ≠ none then
          (.reuse session.familyId session.generation, { s with
            sessions := revokeWhere (fun row => row.familyId = session.familyId) now s.sessions })
        else
          let tokens := buildTokens s.now refreshTtlSeconds user.id user.email session.familyId
            (session.generation + 1) user.securityEpoch draw
          let revoked := s.sessions.map fun row =>
            if row.id = session.id then { row with revokedAt := some now, lastUsedAt := now }
            else row
          (.ok ⟨tokens.accessToken, tokens.refreshToken, user.nickname⟩,
            { openSession hash { s with sessions := revoked } now tokens with
              rotations := s.rotations ++ [(payload, tokens.refreshToken)] })

def setStage (s : RefreshRun Hash) (index : Nat) (call : RefreshCall) (stage : Stage) :
    RefreshRun Hash :=
  { s with calls := s.calls.set index { call with stage } }

/-- `compareAndDelete` of the lock. -/
def unlock (hash : RefreshToken → Hash) (s : RefreshRun Hash) (token : RefreshToken)
    (lockId : String) (env : TurnEnv) : RefreshRun Hash :=
  if (env.works || env.lands) ∧ (s.locks (hash token)).get s.now = some lockId then
    { s with locks := fun key => if key = hash token then none else s.locks key }
  else s

/-- The call goes on to its next wait. -/
def turn (hash : RefreshToken → Hash) (refreshTtlSeconds : Nat) (s : RefreshRun Hash) (index : Nat)
    (env : TurnEnv) : RefreshRun Hash :=
  match s.calls[index]? with
  | none => s
  | some call =>
    let token := call.token
    match call.stage with
    | .started =>
      if token.exp ≠ 0 ∧ token.exp * 1000 ≤ s.now then s.setStage index call (.done none)
      else
        match s.users token.sub with
        | none => s.setStage index call (.done none)
        | some user =>
          if user.securityEpoch ≠ token.sev then s.setStage index call (.done none)
          else s.setStage index call .known
    | .known =>
      s.setStage index call (if env.reconciled then .checked s.now else .done none)
    | .checked now =>
      match (if env.works then (s.results (hash token)).get s.now else none) with
      | some response => s.setStage index call (.done (some response))
      | none => s.setStage index call (.missed now)
    | .missed now =>
      let taken := ((s.locks (hash token)).get s.now).isSome
      let s := if (env.works || env.lands) ∧ taken = false then
        { s with locks := fun key =>
            if key = hash token then .put s.now rotationLockMs env.draw else s.locks key }
        else s
      s.setStage index call
        (if env.works ∧ taken = true then .waiting 40 else .locked now env.draw)
    | .waiting 0 => s.setStage index call (.done none)
    | .waiting (attempts + 1) =>
      if env.works then
        match (s.results (hash token)).get s.now with
        | some response => s.setStage index call (.done (some response))
        | none => s.setStage index call (.waiting attempts)
      else s.setStage index call (.done none)
    | .locked now lockId =>
      match s.rotate hash refreshTtlSeconds token now env.draw with
      | (.ok response, s) => s.setStage index call (.rotated response lockId)
      | (_, s) => s.setStage index call (.refused lockId)
    | .refused lockId => (s.unlock hash token lockId env).setStage index call (.done none)
    | .rotated response lockId =>
      let s := if env.works || env.lands then
        { s with results := fun key =>
            if key = hash token then .put s.now refreshRotationGraceMs response
            else s.results key }
        else s
      s.setStage index call (if env.works then .unlocking response lockId else .done (some response))
    | .unlocking response lockId =>
      (s.unlock hash token lockId env).setStage index call (.done (some response))
    | .done _ => s

end RefreshRun

inductive RefreshOp where
  | account (id : Nat) (user : Option User)
  | login (userId : Nat) (sessionId familyId : String)
  | logout (userId : Nat) (sessionId : String)
  | revoke (userId : Nat) (sessionId : String)
  | revokeOthers (userId : Nat) (currentSessionId : String)
  | revokeAll (userId : Nat)
  | deleteSessions (userId : Nat)
  | present (token : RefreshToken)
  | turn (index : Nat) (env : TurnEnv)
  | advance (ms : Nat)

namespace RefreshRun

def start : RefreshRun Hash :=
  ⟨0, fun _ => none, [], fun _ => none, fun _ => none, [], [], []⟩

def apply (hash : RefreshToken → Hash) (refreshTtlSeconds : Nat) (s : RefreshRun Hash) :
    RefreshOp → RefreshRun Hash
  | .account id user =>
    { s with users := fun other =>
        if other = id then user.map fun user => { user with id := id } else s.users other }
  | .login userId sessionId familyId =>
    match s.users userId with
    | none => s
    | some user =>
      if user.active then
        s.openSession hash s.now (buildTokens s.now refreshTtlSeconds userId user.email familyId 0
          user.securityEpoch sessionId)
      else s
  | .logout userId sessionId =>
    let chosen row := decide (row.id = sessionId ∧ row.userId = userId)
    { s with sessions := revokeWhere chosen s.now s.sessions }
  | .revoke userId sessionId =>
    let chosen row := decide (row.id = sessionId ∧ row.userId = userId ∧ s.now < row.expiresAt)
    { s with sessions := revokeWhere chosen s.now s.sessions }
  | .revokeOthers userId currentSessionId =>
    let chosen row := decide (row.userId = userId ∧ row.id ≠ currentSessionId)
    { s with sessions := revokeWhere chosen s.now s.sessions }
  | .revokeAll userId =>
    { s with sessions := revokeWhere (fun row => row.userId = userId) s.now s.sessions }
  | .deleteSessions userId =>
    { s with sessions := s.sessions.filter fun row => row.userId ≠ userId }
  | .present token => { s with calls := s.calls ++ [⟨token, .started⟩] }
  | .turn index env => s.turn hash refreshTtlSeconds index env
  | .advance ms => { s with now := s.now + ms }

/-- Random ids are new ones. -/
def Allowed (s : RefreshRun Hash) : RefreshOp → Prop
  | .login _ sessionId familyId =>
    sessionId ∉ s.issued.map RefreshToken.sid ∧ familyId ∉ s.issued.map RefreshToken.fid
  | .turn _ env => env.draw ∉ s.issued.map RefreshToken.sid
  | _ => True

instance (s : RefreshRun Hash) : (op : RefreshOp) → Decidable (s.Allowed op)
  | .login .. => inferInstanceAs (Decidable (_ ∧ _))
  | .turn .. => inferInstanceAs (Decidable (_ ∉ _))
  | .account .. | .logout .. | .revoke .. | .revokeOthers .. | .revokeAll ..
  | .deleteSessions .. | .present .. | .advance .. => isTrue trivial

end RefreshRun

end SwitchRemake.Auth.Rotation

import SwitchRemake.Lib.Runs
import SwitchRemake.Redis.Scripts

/-!
# Second factors

`mfa.service.ts`: login challenges, `verifyFactor`, and the operations that are authorised by one,
each as a call that sends one SQL statement or script a turn. One account; the key derivations and
the hash of a backup code are parameters, and what `claimVerificationCode` and its commit answer for
a mailed code is drawn.
-/

namespace SwitchRemake.Auth.Mfa
open Lib Redis

inductive MfaMethod where
  | email
  | totp
deriving DecidableEq

inductive EmailPurpose where
  | login
  | stepUp
  | resetPassword
deriving DecidableEq

/-- Without the account's id. -/
structure LoginChallengeState where
  securityEpoch : Nat
  method : MfaMethod
deriving DecidableEq

/-- What stands in a challenge's key, or in the key of its claim. -/
inductive LoginValue where
  | challenge (state : LoginChallengeState)
  | claim (claimId : String)
deriving DecidableEq

structure MfaSetting where
  method : MfaMethod
  /-- Decrypted. -/
  totpSecret : Option String
  lastTotpStep : Option Nat
deriving DecidableEq

structure BackupCodeRow where
  id : Nat
  codeId : String
  codeHash : String
  used : Bool
deriving DecidableEq

def LOGIN_CHALLENGE_TTL_SECONDS : Nat := 5 * 60
def LOGIN_CHALLENGE_CLAIM_TTL_SECONDS : Nat := 30
def TOTP_STEP_SECONDS : Nat := 30

structure Security where
  totpAtStep : String → Nat → String
  /-- `bcrypt.compare`. -/
  compare : String → String → Bool

inductive AccountStatus where
  | active
  | banned
  | deleted
deriving DecidableEq

structure Account where
  status : AccountStatus
  securityEpoch : Nat
  setting : Option MfaSetting
  backupCodes : List BackupCodeRow

structure MfaKeys where
  now : Nat
  challenges : String → Cell LoginValue
  claims : String → Cell LoginValue

namespace MfaKeys

def setChallenge (keys : MfaKeys) (token : String) (cell : Cell LoginValue) : MfaKeys :=
  { keys with challenges := fun other => if other = token then cell else keys.challenges other }

def setClaim (keys : MfaKeys) (token : String) (cell : Cell LoginValue) : MfaKeys :=
  { keys with claims := fun other => if other = token then cell else keys.claims other }

end MfaKeys

/-! ## Codes -/

/-- `/^\d{6}$/`. -/
def sixDigits (code : String) : Bool :=
  code.length = 6 && code.toList.all fun c => '0' ≤ c && c ≤ '9'

/-- The newest of the steps before, at and after the clock that the code fits. -/
def matchingTotpStep (security : Security) (secret supplied : String) (nowMs : Nat) : Option Nat :=
  if sixDigits supplied then
    let current := nowMs / 1000 / TOTP_STEP_SECONDS
    let steps := if current = 0 then [current + 1, current] else [current + 1, current, current - 1]
    steps.find? fun step => security.totpAtStep secret step = supplied
  else none

def isHex (c : Char) : Bool := ('0' ≤ c && c ≤ '9') || ('A' ≤ c && c ≤ 'F')
def isBase32 (c : Char) : Bool := ('A' ≤ c && c ≤ 'Z') || ('2' ≤ c && c ≤ '7')

/-- `/^[0-9A-F]{8}(?:-[A-Z2-7]{4}){4}$/`. -/
def isBackupCode (code : List Char) : Bool :=
  code.length = 28 && (code.take 8).all isHex &&
    [8, 13, 18, 23].all fun i => code[i]? = some '-' && ((code.drop (i + 1)).take 4).all isBase32

/-- `toUpperCase`. The pattern of a request lets ASCII through, and no blanks to trim. -/
def normalizeBackup (code : String) : String := String.ofList (code.toList.map Char.toUpper)

/-! ## Calls -/

inductive Operation where
  | disable
  | regenerateBackupCodes
  | revokeTrustedDevice
  | resetPassword
  | deleteAccount
deriving DecidableEq

/-- The operations behind `authorizeStepUp`. -/
def Operation.stepsUp : Operation → Bool
  | .disable | .regenerateBackupCodes | .revokeTrustedDevice => true
  | _ => false

def Operation.purpose : Operation → EmailPurpose
  | .resetPassword => .resetPassword
  | _ => .stepUp

inductive MfaAuthorization where
  | notEnabled
  | verified (method : MfaMethod)
deriving DecidableEq

/-- A login challenge that a call has claimed. -/
structure LoginAttempt where
  token : String
  state : LoginChallengeState
  claimId : String
  remainingTtlMs : Nat
deriving DecidableEq

/-- What the factor is for. -/
inductive Purpose where
  | login (attempt : LoginAttempt)
  | operation (operation : Operation)
deriving DecidableEq

def Purpose.email : Purpose → EmailPurpose
  | .login _ => .login
  | .operation kind => kind.purpose

/-- The arguments of a `verifyFactor`. -/
structure FactorRequest where
  code : String
  expectedMethod : MfaMethod
  purpose : Purpose
deriving DecidableEq

/-- A call by the statement it sends next. -/
inductive MfaCall where
  | beginStore (state : LoginChallengeState)
  | beginSend (token : String)
  | loginRead (token code : String)
  | loginClaim (token code : String) (state : LoginChallengeState)
  | readMethod (operation : Operation) (code : Option String)
  | readSetting (request : FactorRequest)
  | backupRead (request : FactorRequest)
  | backupUse (request : FactorRequest) (row : BackupCodeRow)
  | mailed (request : FactorRequest)
  | totpUse (request : FactorRequest) (secret : String) (step : Nat)
  | loginDone (attempt : LoginAttempt)
  | createSession (state : LoginChallengeState)
  | release (attempt : LoginAttempt)
  | transaction (operation : Operation) (authorization : MfaAuthorization)
  | isOver
deriving DecidableEq

/-- What a turn draws: the random values, the clock, the outcome of a mail or of a mailed code, and the
rows of a new set of backup codes. -/
structure Draw where
  token : String
  claimId : String
  clock : Nat
  mail : Bool
  rows : List BackupCodeRow
deriving DecidableEq

inductive Factor where
  | backup (rowId : Nat)
  | totp (step : Nat)
  | email
deriving DecidableEq

inductive Event where
  | issued (token : String) (expiresAt : Nat)
  | claimed (token : String)
  | accepted (factor : Factor) (method : MfaMethod) (purpose : EmailPurpose)
  | completed (token : String)
  /-- The operation went through, and the setting it was checked against. -/
  | loggedIn (checked : Option MfaMethod)
  | operated (operation : Operation) (checked : Option MfaMethod)
deriving DecidableEq

structure Turned where
  keys : MfaKeys
  account : Account
  call : MfaCall
  event : Option Event

/-- `verifyFactor` has returned the method; `completeLoginChallenge` compares it once more. -/
def accept (request : FactorRequest) (method : MfaMethod) : MfaCall :=
  match request.purpose with
  | .login attempt => if method = attempt.state.method then .loginDone attempt else .release attempt
  | .operation operation => .transaction operation (.verified method)

/-- `verifyFactor` has thrown. -/
def refuse (request : FactorRequest) : MfaCall :=
  match request.purpose with
  | .login attempt => .release attempt
  | .operation _ => .isOver

/-- `authorizeStepUp`, `authorizePasswordReset` and `authorizeAccountDeletion`, once the method is read. -/
def authorize (operation : Operation) (code : Option String) (method : Option MfaMethod) : MfaCall :=
  match method with
  | none => if operation.stepsUp then .isOver else .transaction operation .notEnabled
  | some method =>
    if operation = .deleteAccount ∧ method = .email then .transaction operation (.verified method)
    else
      match code with
      | none => .isOver
      | some code => .readSetting ⟨code, method, .operation operation⟩

/-- The checks of the transactions; the last answer is the method that was checked against. -/
def authorized (account : Account) (operation : Operation) (authorization : MfaAuthorization) :
    Option (Option MfaMethod) :=
  match account.setting with
  | some setting =>
    if authorization = .verified setting.method then some (some setting.method) else none
  | none => if operation.stepsUp then none else some none

def permits (account : Account) (operation : Operation) : Bool :=
  if operation = .deleteAccount then account.status ≠ .deleted else account.status = .active

def perform (account : Account) (rows : List BackupCodeRow) : Operation → Account
  | .disable => { account with setting := none, backupCodes := [] }
  | .regenerateBackupCodes => { account with backupCodes := rows }
  | .revokeTrustedDevice => account
  | .resetPassword => { account with securityEpoch := account.securityEpoch + 1 }
  | .deleteAccount =>
    { status := .deleted, securityEpoch := account.securityEpoch + 1, setting := none, backupCodes := [] }

def useBackup (rows : List BackupCodeRow) (id : Nat) : List BackupCodeRow :=
  rows.map fun row => if row.id = id then { row with used := true } else row

def MfaCall.turn (security : Security) (keys : MfaKeys) (account : Account) (draw : Draw) :
    MfaCall → Turned
  | .beginStore state =>
    ⟨keys.setChallenge draw.token
      (.put keys.now (LOGIN_CHALLENGE_TTL_SECONDS * 1000) (.challenge state)), account,
      if state.method = .email then .beginSend draw.token else .isOver,
      some (.issued draw.token (keys.now + LOGIN_CHALLENGE_TTL_SECONDS * 1000))⟩
  | .beginSend token =>
    ⟨if draw.mail then keys else keys.setChallenge token none, account, .isOver, none⟩
  | .loginRead token code =>
    ⟨keys, account, match (keys.challenges token).get keys.now with
      | some (.challenge state) => .loginClaim token code state
      | _ => .isOver, none⟩
  | .loginClaim token code state =>
    let claim := compareAndClaim keys.now (keys.challenges token) (.challenge state)
      (keys.claims token) (.claim draw.claimId) LOGIN_CHALLENGE_CLAIM_TTL_SECONDS
    let next := (keys.setChallenge token claim.2.1).setClaim token claim.2.2
    if claim.1 ≤ 0 then ⟨next, account, .isOver, none⟩
    else ⟨next, account, .readSetting ⟨code, state.method,
        .login ⟨token, state, draw.claimId, claim.1.toNat⟩⟩, some (.claimed token)⟩
  | .readMethod operation code =>
    ⟨keys, account, authorize operation code (account.setting.map MfaSetting.method), none⟩
  | .readSetting request =>
    ⟨keys, account, match account.setting with
      | none => refuse request
      | some setting =>
        if setting.method ≠ request.expectedMethod then refuse request
        else if isBackupCode (normalizeBackup request.code).toList then .backupRead request
        else
          match setting.method with
          | .email => .mailed request
          | .totp =>
            match setting.totpSecret.bind fun secret =>
                (matchingTotpStep security secret request.code draw.clock).map (secret, ·) with
            | none => refuse request
            | some (secret, step) => .totpUse request secret step, none⟩
  | .backupRead request =>
    let code := normalizeBackup request.code
    ⟨keys, account, match account.backupCodes.find? fun row =>
        row.codeId = String.ofList (code.toList.take 8) && !row.used with
      | none => refuse request
      | some row => if security.compare code row.codeHash then .backupUse request row
        else refuse request, none⟩
  | .backupUse request row =>
    if account.backupCodes.any fun other => other.id = row.id && !other.used then
      ⟨keys, { account with backupCodes := useBackup account.backupCodes row.id },
        accept request request.expectedMethod,
        some (.accepted (.backup row.id) request.expectedMethod request.purpose.email)⟩
    else ⟨keys, account, refuse request, none⟩
  | .mailed request =>
    if account.status = .active ∧ draw.mail then
      ⟨keys, account, accept request request.expectedMethod,
        some (.accepted .email request.expectedMethod request.purpose.email)⟩
    else ⟨keys, account, refuse request, none⟩
  | .totpUse request secret step =>
    match account.setting with
    | none => ⟨keys, account, refuse request, none⟩
    | some setting =>
      if setting.method = .totp ∧ setting.lastTotpStep.all (fun last => decide (last < step)) then
        ⟨keys, { account with
            setting := some { setting with totpSecret := some secret, lastTotpStep := some step } },
          accept request request.expectedMethod,
          some (.accepted (.totp step) request.expectedMethod request.purpose.email)⟩
      else ⟨keys, account, refuse request, none⟩
  | .loginDone attempt =>
    ⟨keys.setClaim attempt.token
        (compareAndDelete keys.now (keys.claims attempt.token) (.claim attempt.claimId)).2,
      account, .createSession attempt.state, some (.completed attempt.token)⟩
  | .createSession state =>
    if account.status = .active ∧ account.securityEpoch = state.securityEpoch ∧
        account.setting.all (fun setting => decide (setting.method = state.method)) then
      ⟨keys, account, .isOver, some (.loggedIn (account.setting.map MfaSetting.method))⟩
    else ⟨keys, account, .isOver, none⟩
  | .release attempt =>
    let released := releaseClaim keys.now (keys.claims attempt.token) (.claim attempt.claimId)
      (keys.challenges attempt.token) (.challenge attempt.state) attempt.remainingTtlMs
    ⟨(keys.setClaim attempt.token released.2.1).setChallenge attempt.token released.2.2, account,
      .isOver, none⟩
  | .transaction operation authorization =>
    if permits account operation then
      match authorized account operation authorization with
      | none => ⟨keys, account, .isOver, none⟩
      | some checked =>
        ⟨keys, perform account draw.rows operation, .isOver, some (.operated operation checked)⟩
    else ⟨keys, account, .isOver, none⟩
  | .isOver => ⟨keys, account, .isOver, none⟩

/-! ## Runs -/

structure Logged where
  place : Nat
  clock : Nat
  event : Event
deriving DecidableEq

structure MfaRun where
  keys : MfaKeys
  account : Account
  calls : List MfaCall
  log : List Logged
  /-- The ids of the backup codes there have been. -/
  rowIds : List Nat

inductive MfaOp where
  | tick (ms : Nat)
  | beginLoginChallenge (state : LoginChallengeState)
  | completeLoginChallenge (token code : String)
  | operate (operation : Operation) (code : Option String)
  | turn (place : Nat) (draw : Draw)
deriving DecidableEq

namespace MfaRun

def start (account : Account) : MfaRun where
  keys := ⟨0, fun _ => none, fun _ => none⟩
  account
  calls := []
  log := []
  rowIds := account.backupCodes.map BackupCodeRow.id

def begin (s : MfaRun) (call : MfaCall) : MfaRun := { s with calls := s.calls ++ [call] }

def send (security : Security) (s : MfaRun) (place : Nat) (draw : Draw) (call : MfaCall) : MfaRun :=
  let turned := call.turn security s.keys s.account draw
  { keys := turned.keys
    account := turned.account
    calls := s.calls.set place turned.call
    log := s.log ++ (turned.event.map fun event => ⟨place, s.keys.now, event⟩).toList
    rowIds := s.rowIds ++ match call with
      | .transaction .regenerateBackupCodes _ => draw.rows.map BackupCodeRow.id
      | _ => [] }

def apply (security : Security) (s : MfaRun) : MfaOp → MfaRun
  | .tick ms => { s with keys := { s.keys with now := s.keys.now + ms } }
  | .beginLoginChallenge state => s.begin (.beginStore state)
  | .completeLoginChallenge token code => s.begin (.loginRead token code)
  | .operate operation code => s.begin (.readMethod operation code)
  | .turn place draw =>
    match s.calls[place]? with
    | some call => s.send security place draw call
    | none => s

def tokens (s : MfaRun) : List String :=
  s.log.filterMap fun entry => match entry.event with
    | .issued token _ => some token
    | _ => none

/-- Drawn tokens are new, and so are the ids of the rows of a new set. -/
def Allowed (s : MfaRun) : MfaOp → Prop
  | .turn place draw =>
    match s.calls[place]? with
    | some (.beginStore _) => draw.token ∉ s.tokens
    | some (.transaction .regenerateBackupCodes _) =>
      (draw.rows.map BackupCodeRow.id).Nodup ∧ ∀ row ∈ draw.rows, row.id ∉ s.rowIds
    | _ => True
  | _ => True

end MfaRun
end SwitchRemake.Auth.Mfa

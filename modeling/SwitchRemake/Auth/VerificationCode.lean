import SwitchRemake.Lib.Runs
import SwitchRemake.Redis.Scripts

/-!
# The six-digit code of one purpose and address

`issueVerificationCode`, `claimVerificationCode`, `commitVerificationCodeClaim` and
`releaseVerificationCodeClaim` as calls that send one command a turn.
-/

namespace SwitchRemake.Auth
open Lib Redis

def VERIFICATION_CODE_TTL_SECONDS : Nat := 300
def MAX_ATTEMPTS : Nat := 5
def ISSUE_COOLDOWN_SECONDS : Nat := 60
def MAX_ISSUES_PER_MINUTE : Nat := 3
def MAX_ISSUES_PER_HOUR : Nat := 10
def CLAIM_TTL_SECONDS : Nat := 30

structure VerificationCodeClaim where
  code : String
  claimId : String
  remainingTtlMs : Nat
deriving DecidableEq

structure CodeKeys where
  now : Nat
  code : Cell String
  attempts : Cell Nat
  cooldown : Cell String
  issueMinute : Cell Nat
  issueHour : Cell Nat
  claim : Cell String
deriving DecidableEq

namespace CodeKeys

def saved (keys : CodeKeys) : Option String := keys.code.get keys.now

def holder (keys : CodeKeys) : Option String := keys.claim.get keys.now

def counted (keys : CodeKeys) : Option Nat := keys.attempts.get keys.now

end CodeKeys

/-- A call of one of the four functions, by the command it sends next. -/
inductive CodeCall where
  | issueRead
  | issueCooldown
  | issueMinute
  | issueHour (minuteCount : Nat)
  | issueStore
  | issueReset (code : String)
  | issued (code : Option String)
  | claimRead (supplied : String)
  | claimCount (saved : String)
  | claimKill
  | claimTake (saved : String)
  | claimed (claim : Option VerificationCodeClaim)
  | commitDelete (claim : VerificationCodeClaim)
  | commitReset
  | release (claim : VerificationCodeClaim)
  | settled
deriving DecidableEq

def codeMatches (saved supplied : String) : Bool := saved == supplied

/-- The next command and what the call does with its answer. `chosen` is what `randomInt` or
`randomUUID` gives, where the turn draws. -/
def CodeCall.turn (keys : CodeKeys) (chosen : String) : CodeCall → CodeKeys × CodeCall
  | .issueRead =>
    match keys.saved with
    | some _ => (keys, .issued none)
    | none => (keys, .issueCooldown)
  | .issueCooldown =>
    let set := setIfAbsent keys.now keys.cooldown "1" ISSUE_COOLDOWN_SECONDS
    ({ keys with cooldown := set.2 }, if set.1 then .issueMinute else .issued none)
  | .issueMinute =>
    let counted := incrementWithTtl keys.now keys.issueMinute 60
    ({ keys with issueMinute := counted.2 }, .issueHour counted.1)
  | .issueHour minuteCount =>
    let counted := incrementWithTtl keys.now keys.issueHour (60 * 60)
    ({ keys with issueHour := counted.2 },
      if MAX_ISSUES_PER_MINUTE < minuteCount ∨ MAX_ISSUES_PER_HOUR < counted.1 then .issued none
      else .issueStore)
  | .issueStore =>
    ({ keys with code := .put keys.now (VERIFICATION_CODE_TTL_SECONDS * 1000) chosen },
      .issueReset chosen)
  | .issueReset code => ({ keys with attempts := none }, .issued (some code))
  | .claimRead supplied =>
    match keys.saved with
    | some saved => (keys, if codeMatches saved supplied then .claimTake saved else .claimCount saved)
    | none => (keys, .claimed none)
  | .claimCount _ =>
    let counted := incrementWithTtl keys.now keys.attempts VERIFICATION_CODE_TTL_SECONDS
    ({ keys with attempts := counted.2 },
      if MAX_ATTEMPTS ≤ counted.1 then .claimKill else .claimed none)
  | .claimKill => ({ keys with code := none }, .claimed none)
  | .claimTake saved =>
    let taken := compareAndClaim keys.now keys.code saved keys.claim chosen CLAIM_TTL_SECONDS
    ({ keys with code := taken.2.1, claim := taken.2.2 },
      if taken.1 ≤ 0 then .claimed none else .claimed (some ⟨saved, chosen, taken.1.toNat⟩))
  | .commitDelete claim =>
    ({ keys with claim := (compareAndDelete keys.now keys.claim claim.claimId).2 }, .commitReset)
  | .commitReset => ({ keys with attempts := none }, .settled)
  | .release claim =>
    let released :=
      releaseClaim keys.now keys.claim claim.claimId keys.code claim.code claim.remainingTtlMs
    ({ keys with claim := released.2.1, code := released.2.2 }, .settled)
  | .issued code => (keys, .issued code)
  | .claimed claim => (keys, .claimed claim)
  | .settled => (keys, .settled)

/-! ## Runs

Beside the keys and the calls a run keeps what has happened: the codes in the order they were
stored, the claims taken, given back and committed, the code each wrong guess was compared with, and
the later codes a release has written over. -/

structure CodeRun where
  keys : CodeKeys
  calls : List CodeCall
  issued : List String
  taken : List VerificationCodeClaim
  givenBack : List String
  committed : List String
  wrong : List String
  displaced : List String
deriving DecidableEq

namespace CodeCall

def issues (chosen : String) : CodeCall → List String
  | .issueStore => [chosen]
  | _ => []

def takes (keys : CodeKeys) (chosen : String) : CodeCall → List VerificationCodeClaim
  | .claimTake saved =>
    let taken := compareAndClaim keys.now keys.code saved keys.claim chosen CLAIM_TTL_SECONDS
    if 0 ≤ taken.1 then [⟨saved, chosen, taken.1.toNat⟩] else []
  | _ => []

def givesBack (keys : CodeKeys) : CodeCall → List String
  | .release claim =>
    if (releaseClaim keys.now keys.claim claim.claimId keys.code claim.code claim.remainingTtlMs).1
    then [claim.claimId] else []
  | _ => []

def commits : CodeCall → List String
  | .commitDelete claim => [claim.claimId]
  | _ => []

/-- A guess is compared where the call has read a code. -/
def misses (keys : CodeKeys) : CodeCall → List String
  | .claimRead supplied => keys.saved.toList.filter fun saved => !codeMatches saved supplied
  | _ => []

/-- A later code that is there before the release and not after it. -/
def displaces (keys after : CodeKeys) (issued : List String) : CodeCall → List String
  | .release claim => keys.saved.toList.filter fun code =>
      issued.idxOf claim.code < issued.idxOf code && after.saved != some code
  | _ => []

end CodeCall

/-- The clock moves, a call begins, or the call at a place sends its next command. -/
inductive CodeOp where
  | tick (ms : Nat)
  | issue
  | claim (supplied : String)
  | commit (claim : VerificationCodeClaim)
  | release (claim : VerificationCodeClaim)
  | turn (place : Nat) (chosen : String)
deriving DecidableEq

namespace CodeRun

def start : CodeRun where
  keys := ⟨0, none, none, none, none, none, none⟩
  calls := []
  issued := []
  taken := []
  givenBack := []
  committed := []
  wrong := []
  displaced := []

def begin (s : CodeRun) (call : CodeCall) : CodeRun := { s with calls := s.calls ++ [call] }

def send (s : CodeRun) (place : Nat) (chosen : String) (call : CodeCall) : CodeRun :=
  let sent := call.turn s.keys chosen
  let issued := s.issued ++ call.issues chosen
  { keys := sent.1
    calls := s.calls.set place sent.2
    issued := issued
    taken := s.taken ++ call.takes s.keys chosen
    givenBack := s.givenBack ++ call.givesBack s.keys
    committed := s.committed ++ call.commits
    wrong := s.wrong ++ call.misses s.keys
    displaced := s.displaced ++ call.displaces s.keys sent.1 issued }

def apply (s : CodeRun) : CodeOp → CodeRun
  | .tick ms => { s with keys := { s.keys with now := s.keys.now + ms } }
  | .issue => s.begin .issueRead
  | .claim supplied => s.begin (.claimRead supplied)
  | .commit claim => s.begin (.commitDelete claim)
  | .release claim => s.begin (.release claim)
  | .turn place chosen =>
    match s.calls[place]? with
    | some call => s.send place chosen call
    | none => s

/-- What is drawn is new, and a claim is not committed once it has been given back: every caller
commits at the end of its work and gives back only in the handler of a failure. -/
def Draws (s : CodeRun) (chosen : String) : CodeCall → Prop
  | .issueStore => chosen ∉ s.issued
  | .claimTake _ => chosen ∉ s.taken.map (·.claimId)
  | .commitDelete claim => claim.claimId ∉ s.givenBack
  | _ => True

instance (s : CodeRun) (chosen : String) : ∀ call, Decidable (s.Draws chosen call)
  | .issueStore => inferInstanceAs (Decidable (_ ∉ _))
  | .claimTake _ => inferInstanceAs (Decidable (_ ∉ _))
  | .commitDelete _ => inferInstanceAs (Decidable (_ ∉ _))
  | .issueRead | .issueCooldown | .issueMinute | .issueHour _ | .issueReset _ | .issued _
  | .claimRead _ | .claimCount _ | .claimKill | .claimed _ | .commitReset | .release _
  | .settled => isTrue trivial

/-- Only a claim that a call has returned is committed or released. -/
def Allowed (s : CodeRun) : CodeOp → Prop
  | .commit claim => .claimed (some claim) ∈ s.calls
  | .release claim => .claimed (some claim) ∈ s.calls
  | .turn place chosen => ∀ call ∈ s.calls[place]?, s.Draws chosen call
  | _ => True

instance (s : CodeRun) : ∀ op, Decidable (s.Allowed op)
  | .commit _ => inferInstanceAs (Decidable (_ ∈ _))
  | .release _ => inferInstanceAs (Decidable (_ ∈ _))
  | .turn place chosen => inferInstanceAs (Decidable (∀ call ∈ s.calls[place]?, s.Draws chosen call))
  | .tick _ | .issue | .claim _ => isTrue trivial

end CodeRun
end SwitchRemake.Auth

import SwitchRemake.Lib.Runs
import SwitchRemake.Redis.Scripts
import SwitchRemake.Shared.HumanRound

/-!
# The human check

`human-challenge.service.ts`: `issue`, `verify` and `consumeProof`, and the two calls that keep the
login risk, each as a call that sends one command a turn. Addresses and subjects are stored as keyed
hashes; the proof of work is a parameter.
-/

namespace SwitchRemake.Auth.Human
open Lib Redis HumanCheck

inductive HumanChallengePurpose where
  | signup
  | resetPassword
  | delete
  | login
deriving DecidableEq

inductive HumanRoundKind where
  | switch
  | radio
deriving DecidableEq

structure HumanRound where
  kind : HumanRoundKind
  seed : Nat
deriving DecidableEq

structure HumanChallengeAnswer where
  slot : Nat
  atMs : Option Int
deriving DecidableEq

structure StoredChallenge where
  purpose : HumanChallengePurpose
  subjectHash : String
  contextHash : String
  issuedAt : Int
  nonce : String
  bits : Nat
  round : Option HumanRound
deriving DecidableEq

structure StoredProof where
  purpose : HumanChallengePurpose
  subjectHash : String
  contextHash : String
deriving DecidableEq

def CHALLENGE_TTL_SECONDS : Nat := 120
def PROOF_TTL_SECONDS : Nat := 180
def LOGIN_FAILURE_TTL_SECONDS : Nat := 15 * 60
def FAILURE_TTL_SECONDS : Nat := 30 * 60
def ISSUE_WINDOW_SECONDS : Nat := 10 * 60
def RADIO_WINDOW_SECONDS : Nat := 60 * 60
def ISSUES_BEFORE_ROUND : Nat := 6
def RADIO_ISSUES_PER_HOUR : Nat := 6
def LOGIN_CHALLENGE_AFTER_FAILURES : Nat := 3

/-- `POW_BITS`. -/
def baseBits : Nat := 16
def maxBits : Nat := 19
def radioExtraBits : Nat := 2
def ceilingBits : Nat := 20

/-- `hmacEmail`, `hmacIp` and `verifyPow`. -/
structure Security where
  hmacEmail : String → String
  hmacIp : String → String
  verifyPow : String → Nat → Nat → Bool

inductive FailureKind where
  | subject
  | address
deriving DecidableEq

inductive CounterKey where
  | issue (ipHash : String)
  | radio (ipHash : String)
  | failure (kind : FailureKind) (hash : String)
  | loginEmail (subjectHash : String)
  | loginPair (subjectHash ipHash : String)
deriving DecidableEq

structure HumanKeys where
  now : Nat
  challenges : String → Cell StoredChallenge
  proofs : String → Cell StoredProof
  counters : CounterKey → Cell Nat

namespace HumanKeys

def challenge (keys : HumanKeys) (token : String) : Option StoredChallenge :=
  (keys.challenges token).get keys.now

def proof (keys : HumanKeys) (token : String) : Option StoredProof :=
  (keys.proofs token).get keys.now

def count (keys : HumanKeys) (key : CounterKey) : Nat := ((keys.counters key).get keys.now).getD 0

def setChallenge (keys : HumanKeys) (token : String) (cell : Cell StoredChallenge) : HumanKeys :=
  { keys with challenges := fun other => if other = token then cell else keys.challenges other }

def setProof (keys : HumanKeys) (token : String) (cell : Cell StoredProof) : HumanKeys :=
  { keys with proofs := fun other => if other = token then cell else keys.proofs other }

def setCounter (keys : HumanKeys) (key : CounterKey) (cell : Cell Nat) : HumanKeys :=
  { keys with counters := fun other => if other = key then cell else keys.counters other }

def increment (keys : HumanKeys) (key : CounterKey) (ttlSeconds : Nat) : HumanKeys :=
  keys.setCounter key (incrementWithTtl keys.now (keys.counters key) ttlSeconds).2

end HumanKeys

/-- The arguments of an `issue`. -/
structure IssueRequest where
  purpose : HumanChallengePurpose
  subjectHash : String
  ipHash : String
  mode : HumanRoundKind
deriving DecidableEq

/-- The arguments of a `verify`. -/
structure VerifyRequest where
  challengeToken : String
  powCounter : Nat
  answer : Option HumanChallengeAnswer
  ipHash : String
deriving DecidableEq

structure ConsumeRequest where
  proofToken : String
  purpose : HumanChallengePurpose
  subjectHash : String
  ipHash : String
deriving DecidableEq

inductive ErrorCode where
  | expired
  | invalid
  | wrong
  | tooFast
deriving DecidableEq

/-- A call by the command it sends next, or by what it has returned. -/
inductive HumanCall where
  | issueCount (request : IssueRequest)
  | issueSubject (request : IssueRequest) (issues : Nat)
  | issueAddress (request : IssueRequest) (issues subjectFailures : Nat)
  | issueEmail (request : IssueRequest) (issues failures : Nat)
  | issuePair (request : IssueRequest) (issues failures emailRisk : Nat)
  | issueRadio (request : IssueRequest) (bits : Nat)
  | issueStore (request : IssueRequest) (bits : Nat) (round : Bool)
  | issued (challenge : Option (String × StoredChallenge))
  | verifyRead (request : VerifyRequest)
  | verifyTake (request : VerifyRequest) (stored : StoredChallenge)
  | failSubject (stored : StoredChallenge) (ipHash : String) (error : ErrorCode)
  | failAddress (stored : StoredChallenge) (ipHash : String) (error : ErrorCode)
  | proofStore (challengeToken : String) (stored : StoredChallenge)
  | verified (result : Except ErrorCode String)
  | consumeRead (request : ConsumeRequest)
  | consumeTake (request : ConsumeRequest) (stored : StoredProof)
  | consumed (passes : Bool)
  | riskEmail (subjectHash ipHash : String)
  | riskPair (subjectHash ipHash : String)
  | clearEmail (subjectHash ipHash : String)
  | clearPair (subjectHash ipHash : String)
  | done

/-- What a turn draws: a token, a seed, a nonce, and the reading of `Date.now()`. -/
structure Draw where
  token : String
  seed : Nat
  nonce : String
  clock : Int
deriving DecidableEq

/-! ## The judgement of an answer -/

inductive Verdict where
  | passes
  | refused (error : ErrorCode)
  /-- `recordFailure`, and then the error. -/
  | fails (error : ErrorCode)
deriving DecidableEq

def checkRound (round : HumanRound) (elapsed : Int) (answer : Option HumanChallengeAnswer) : Verdict :=
  match round.kind with
  | .radio =>
    if elapsed < minElapsedMs then .refused .tooFast
    else if answer.map HumanChallengeAnswer.slot = some (buildRadioRound round.seed) then .passes
    else .fails .wrong
  | .switch =>
    let scene := buildSwitchRound round.seed
    match answer with
    | none => .refused .tooFast
    | some given =>
      match given.atMs with
      | none => .refused .tooFast
      | some atMs =>
        if elapsed < scene.openAt - graceMs ∨ elapsed < atMs then .refused .tooFast
        else
          match checkSwitchAnswer scene given.slot atMs with
          | .ok => .passes
          | .early => .fails .tooFast
          | _ => .fails .wrong

/-- From the check of the address on. -/
def judge (security : Security) (stored : StoredChallenge) (request : VerifyRequest) (clock : Int) :
    Verdict :=
  if stored.contextHash ≠ request.ipHash then .refused .invalid
  else if !security.verifyPow stored.nonce stored.bits request.powCounter then .fails .wrong
  else
    match stored.round with
    | none => .passes
    | some round => checkRound round (clock - stored.issuedAt) request.answer

/-! ## Turns -/

/-- `needsRound` and the difficulty, once all the counters are read. -/
def assess (request : IssueRequest) (issues failures loginRisk : Nat) : HumanCall :=
  let needsRound := 0 < failures ∨ ISSUES_BEFORE_ROUND < issues ∨
    LOGIN_CHALLENGE_AFTER_FAILURES ≤ loginRisk
  let bits := min maxBits (baseBits + failures + (issues - ISSUES_BEFORE_ROUND) / 2)
  if needsRound then
    if request.mode = .radio then .issueRadio request bits else .issueStore request bits true
  else .issueStore request bits false

def challengeOf (request : IssueRequest) (bits : Nat) (round : Bool) (draw : Draw) :
    StoredChallenge :=
  { purpose := request.purpose, subjectHash := request.subjectHash, contextHash := request.ipHash
    issuedAt := draw.clock, nonce := draw.nonce, bits
    round := if round then some ⟨request.mode, draw.seed⟩ else none }

def proofOf (stored : StoredChallenge) : StoredProof :=
  ⟨stored.purpose, stored.subjectHash, stored.contextHash⟩

def HumanCall.turn (security : Security) (keys : HumanKeys) (draw : Draw) :
    HumanCall → HumanKeys × HumanCall
  | .issueCount request =>
    let next := keys.increment (.issue request.ipHash) ISSUE_WINDOW_SECONDS
    (next, .issueSubject request (next.count (.issue request.ipHash)))
  | .issueSubject request issues =>
    (keys, .issueAddress request issues (keys.count (.failure .subject request.subjectHash)))
  | .issueAddress request issues subjectFailures =>
    let failures := subjectFailures + keys.count (.failure .address request.ipHash)
    (keys, if request.purpose = .login then .issueEmail request issues failures
      else assess request issues failures 0)
  | .issueEmail request issues failures =>
    (keys, .issuePair request issues failures (keys.count (.loginEmail request.subjectHash)))
  | .issuePair request issues failures emailRisk =>
    (keys, assess request issues failures
      (max emailRisk (keys.count (.loginPair request.subjectHash request.ipHash))))
  | .issueRadio request bits =>
    let next := keys.increment (.radio request.ipHash) RADIO_WINDOW_SECONDS
    (next, if RADIO_ISSUES_PER_HOUR < next.count (.radio request.ipHash) then .issued none
      else .issueStore request (min ceilingBits (bits + radioExtraBits)) true)
  | .issueStore request bits round =>
    let stored := challengeOf request bits round draw
    (keys.setChallenge draw.token (.put keys.now (CHALLENGE_TTL_SECONDS * 1000) stored),
      .issued (some (draw.token, stored)))
  | .verifyRead request =>
    match keys.challenge request.challengeToken with
    | none => (keys, .verified (.error .expired))
    | some stored => (keys, .verifyTake request stored)
  | .verifyTake request stored =>
    let taken := compareAndDelete keys.now (keys.challenges request.challengeToken) stored
    (keys.setChallenge request.challengeToken taken.2,
      if taken.1 then
        match judge security stored request draw.clock with
        | .passes => .proofStore request.challengeToken stored
        | .refused error => .verified (.error error)
        | .fails error => .failSubject stored request.ipHash error
      else .verified (.error .expired))
  | .failSubject stored ipHash error =>
    (keys.increment (.failure .subject stored.subjectHash) FAILURE_TTL_SECONDS,
      .failAddress stored ipHash error)
  | .failAddress _ ipHash error =>
    (keys.increment (.failure .address ipHash) FAILURE_TTL_SECONDS, .verified (.error error))
  | .proofStore _ stored =>
    (keys.setProof draw.token (.put keys.now (PROOF_TTL_SECONDS * 1000) (proofOf stored)),
      .verified (.ok draw.token))
  | .consumeRead request =>
    match keys.proof request.proofToken with
    | none => (keys, .consumed false)
    | some stored =>
      (keys, if stored = ⟨request.purpose, request.subjectHash, request.ipHash⟩ then
        .consumeTake request stored else .consumed false)
  | .consumeTake request stored =>
    let taken := compareAndDelete keys.now (keys.proofs request.proofToken) stored
    (keys.setProof request.proofToken taken.2, .consumed taken.1)
  | .riskEmail subjectHash ipHash =>
    (keys.increment (.loginEmail subjectHash) LOGIN_FAILURE_TTL_SECONDS, .riskPair subjectHash ipHash)
  | .riskPair subjectHash ipHash =>
    (keys.increment (.loginPair subjectHash ipHash) LOGIN_FAILURE_TTL_SECONDS, .done)
  | .clearEmail subjectHash ipHash =>
    (keys.setCounter (.loginEmail subjectHash) none, .clearPair subjectHash ipHash)
  | .clearPair subjectHash ipHash => (keys.setCounter (.loginPair subjectHash ipHash) none, .done)
  | .issued challenge => (keys, .issued challenge)
  | .verified result => (keys, .verified result)
  | .consumed passes => (keys, .consumed passes)
  | .done => (keys, .done)

/-! ## Runs

Beside the keys and the calls a run keeps the challenges that were stored, the evaluations, the
proofs, the operations that were let through and the failures that were counted. -/

/-- A challenge was taken out of its key, and its answer judged. -/
structure Evaluation where
  place : Nat
  request : VerifyRequest
  stored : StoredChallenge
  clock : Int
deriving DecidableEq

/-- A failure counter went up, and it is there until then. -/
structure Raise where
  place : Nat
  kind : FailureKind
  hash : String
  expiresAt : Nat
deriving DecidableEq

structure HumanRun where
  keys : HumanKeys
  calls : List HumanCall
  stored : List (String × StoredChallenge)
  evaluations : List Evaluation
  /-- The token of a proof, and that of its challenge. -/
  proofs : List (String × String)
  passed : List ConsumeRequest
  raised : List Raise

namespace HumanCall

def stores (draw : Draw) : HumanCall → List (String × StoredChallenge)
  | .issueStore request bits round => [(draw.token, challengeOf request bits round draw)]
  | _ => []

def evaluates (keys : HumanKeys) (draw : Draw) (place : Nat) : HumanCall → List Evaluation
  | .verifyTake request stored =>
    if (compareAndDelete keys.now (keys.challenges request.challengeToken) stored).1 then
      [⟨place, request, stored, draw.clock⟩] else []
  | _ => []

def proves (draw : Draw) : HumanCall → List (String × String)
  | .proofStore challengeToken _ => [(draw.token, challengeToken)]
  | _ => []

def passes (keys : HumanKeys) : HumanCall → List ConsumeRequest
  | .consumeTake request stored =>
    if (compareAndDelete keys.now (keys.proofs request.proofToken) stored).1 then [request] else []
  | _ => []

/-- When the counter runs out that a turn has raised. -/
def raises (after : HumanKeys) (place : Nat) : HumanCall → List Raise
  | .failSubject stored _ _ => ((after.counters (.failure .subject stored.subjectHash)).map fun entry =>
      ⟨place, .subject, stored.subjectHash, entry.expiresAt⟩).toList
  | .failAddress _ ipHash _ => ((after.counters (.failure .address ipHash)).map fun entry =>
      ⟨place, .address, ipHash, entry.expiresAt⟩).toList
  | _ => []

end HumanCall

inductive HumanOp where
  | tick (ms : Nat)
  | issue (purpose : HumanChallengePurpose) (subject ip : String) (mode : HumanRoundKind)
  | verify (challengeToken : String) (powCounter : Nat) (answer : Option HumanChallengeAnswer)
      (ip : String)
  | consumeProof (proofToken : Option String) (purpose : HumanChallengePurpose) (subject ip : String)
  | recordLoginFailure (email ip : String)
  | clearLoginFailures (email ip : String)
  | turn (place : Nat) (draw : Draw)
deriving DecidableEq

namespace HumanRun

def start : HumanRun where
  keys := ⟨0, fun _ => none, fun _ => none, fun _ => none⟩
  calls := []
  stored := []
  evaluations := []
  proofs := []
  passed := []
  raised := []

def begin (s : HumanRun) (call : HumanCall) : HumanRun := { s with calls := s.calls ++ [call] }

def send (security : Security) (s : HumanRun) (place : Nat) (draw : Draw) (call : HumanCall) :
    HumanRun :=
  let sent := call.turn security s.keys draw
  { keys := sent.1
    calls := s.calls.set place sent.2
    stored := s.stored ++ call.stores draw
    evaluations := s.evaluations ++ call.evaluates s.keys draw place
    proofs := s.proofs ++ call.proves draw
    passed := s.passed ++ call.passes s.keys
    raised := s.raised ++ call.raises sent.1 place }

def apply (security : Security) (s : HumanRun) : HumanOp → HumanRun
  | .tick ms => { s with keys := { s.keys with now := s.keys.now + ms } }
  | .issue purpose subject ip mode =>
    s.begin (.issueCount ⟨purpose, security.hmacEmail subject, security.hmacIp ip, mode⟩)
  | .verify challengeToken powCounter answer ip =>
    s.begin (.verifyRead ⟨challengeToken, powCounter, answer, security.hmacIp ip⟩)
  | .consumeProof proofToken purpose subject ip =>
    s.begin (match proofToken with
      | none => .consumed false
      | some token =>
        .consumeRead ⟨token, purpose, security.hmacEmail subject, security.hmacIp ip⟩)
  | .recordLoginFailure email ip =>
    s.begin (.riskEmail (security.hmacEmail email) (security.hmacIp ip))
  | .clearLoginFailures email ip =>
    s.begin (.clearEmail (security.hmacEmail email) (security.hmacIp ip))
  | .turn place draw =>
    match s.calls[place]? with
    | some call => s.send security place draw call
    | none => s

/-- A token that is drawn is new. -/
def Allowed (s : HumanRun) : HumanOp → Prop
  | .turn place draw =>
    match s.calls[place]? with
    | some (.issueStore _ _ _) => draw.token ∉ s.stored.map Prod.fst
    | some (.proofStore _ _) => draw.token ∉ s.proofs.map Prod.fst
    | _ => True
  | _ => True

end HumanRun
end SwitchRemake.Auth.Human

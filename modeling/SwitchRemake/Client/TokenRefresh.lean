import SwitchRemake.Lib.Runs

/-!
# Requests and the refresh of their token

`api/http.ts` of the client, in one tab. Every `await` ends a step, so calls and answers come in any
order. `T` is a refresh token; headers and bodies of the other requests are left out.
-/

namespace SwitchRemake.Client.Api
open Lib

structure ApiError where
  status : Nat
  code : Option String
deriving DecidableEq

/-- What a request throws: an answer that is not ok, or a failure of the network or of the body. -/
inductive Thrown where
  | api (error : ApiError)
  | other
deriving DecidableEq

def isAuthenticationRejection : Thrown → Bool
  | .api error => error.status = 401 ∨ error.status = 403
  | .other => false

inductive ApiIdentityKind where
  | anonymous
  | guest
  | account
deriving DecidableEq

structure ApiIdentity where
  accessToken : Option String
  kind : ApiIdentityKind
  nickname : Option String
deriving DecidableEq

def ApiIdentity.nobody : ApiIdentity := ⟨none, .anonymous, none⟩

/-- The keys of `refreshFlights`. -/
inductive FlightKind where
  | guest
  | account
deriving DecidableEq

inductive FlightStage (T : Type) where
  | failing
  | starting
  | sent (token : Option T)
  | landed (outcome : Except Thrown Unit)
  | settled (outcome : Except Thrown Unit)

structure Flight (T : Type) where
  kind : FlightKind
  stage : FlightStage T

def Flight.flying {T : Type} (flight : Flight T) : Prop := ∀ outcome, flight.stage ≠ .settled outcome

/-- The functions that are called from outside. -/
inductive Caller where
  | apiRequest (auth retryAuth : Bool)
  | bootstrapApiIdentity
  | tryRefreshSession
  | logoutAndCreateGuest
  | abandonSessionAndCreateGuest
deriving DecidableEq

def Caller.retries : Caller → Bool
  | .apiRequest auth retryAuth => auth && retryAuth
  | .logoutAndCreateGuest => true
  | _ => false

inductive Await where
  | request
  | flight (index : Nat)
  | again
  | guest
  | nothing
deriving DecidableEq

/-- A call and what it waits for. `sends` counts how often it has sent its request. -/
structure Task where
  caller : Caller
  await : Await
  sends : Nat
deriving DecidableEq

/-- `guestRefresh` and `activeRoom` are in the session storage, `cookie` is the refresh cookie.
`presented` tells the tokens that were sent to be refreshed, `kept` those of them whose answer, if it
came, put no other token in their place, and `seen` those that came. -/
structure Tab (T : Type) where
  identity : ApiIdentity
  guestRefresh : Option T
  activeRoom : Bool
  cookie : Option T
  refreshFlights : FlightKind → Option Nat
  flights : List (Flight T)
  tasks : List Task
  presented : List (FlightKind × T)
  kept : List (FlightKind × T)
  seen : List (FlightKind × T)

/-- What comes back to a request that is not a refresh. -/
abbrev Reply := Except Thrown Unit

/-- What comes back to a refresh: a token, with the access token and the nickname unless the body is
cut off; a refusal, which may clear the cookie; or nothing. -/
inductive RefreshReply (T : Type) where
  | ok (token : T) (body : Option (String × String))
  | refused (error : ApiError) (clears : Bool)
  | lost

namespace Tab
variable {T : Type}

def start (cookie guestRefresh : Option T) (activeRoom : Bool) : Tab T where
  identity := .nobody
  guestRefresh := guestRefresh
  activeRoom := activeRoom
  cookie := cookie
  refreshFlights _ := none
  flights := []
  tasks := []
  presented := []
  kept := []
  seen := (cookie.map (.account, ·)).toList ++ (guestRefresh.map (.guest, ·)).toList

/-- Where the token of a kind is kept. -/
def holder (t : Tab T) : FlightKind → Option T
  | .guest => t.guestRefresh
  | .account => t.cookie

def setTask (t : Tab T) (index : Nat) (task : Task) : Tab T :=
  { t with tasks := t.tasks.set index task }

/-- The first stretch of a refresh, up to its `await`. The cookie is added when the request goes out. -/
def takeOff (t : Tab T) : FlightKind → FlightStage T × List (FlightKind × T)
  | .guest =>
    match t.guestRefresh with
    | some token => (.sent (some token), [(.guest, token)])
    | none => (.failing, [])
  | .account => (.starting, [])

def singleFlight (t : Tab T) (kind : FlightKind) : Nat × Tab T :=
  match t.refreshFlights kind with
  | some index => (index, t)
  | none =>
    let (stage, presented) := t.takeOff kind
    (t.flights.length, { t with
      flights := t.flights ++ [⟨kind, stage⟩]
      refreshFlights := fun other => if other = kind then some t.flights.length else
        t.refreshFlights other
      presented := t.presented ++ presented })

/-- A task goes on to wait for the refresh of a kind. -/
def awaitFlight (t : Tab T) (index : Nat) (task : Task) (kind : FlightKind) : Tab T :=
  let (flight, t) := t.singleFlight kind
  t.setTask index { task with await := .flight flight }

def refreshCurrentIdentity (t : Tab T) (index : Nat) (task : Task) : Tab T :=
  t.awaitFlight index task (if t.identity.kind = .guest then .guest else .account)

/-- The refresh has an outcome; its entry goes from the map a little later. -/
def land (t : Tab T) (index : Nat) (kind : FlightKind) (outcome : Except Thrown Unit) : Tab T :=
  { t with flights := t.flights.set index ⟨kind, .landed outcome⟩ }

/-- The `finally` of `singleFlight`. -/
def settle (t : Tab T) (index : Nat) : Tab T :=
  match t.flights[index]? with
  | some ⟨kind, .landed outcome⟩ => { t with
      flights := t.flights.set index ⟨kind, .settled outcome⟩
      refreshFlights := fun other => if other = kind then none else t.refreshFlights other }
  | _ => t

def keep (t : Tab T) (kind : FlightKind) (token : Option T) : Tab T :=
  { t with kept := t.kept ++ (token.map (kind, ·)).toList }

def acceptGuest (t : Tab T) (token : T) (accessToken nickname : String) : Tab T :=
  { t with
    guestRefresh := some token
    identity := ⟨some accessToken, .guest, some nickname⟩
    seen := t.seen ++ [(.guest, token)] }

/-- The answer to a refresh of a guest, whose token is in the body. -/
def guestAnswered (t : Tab T) (token : Option T) : RefreshReply T → Except Thrown Unit × Tab T
  | .ok new (some (accessToken, nickname)) => (.ok (), t.acceptGuest new accessToken nickname)
  | .ok _ none | .lost => (.error .other, t.keep .guest token)
  | .refused error _ => (.error (.api error), t.keep .guest token)

/-- The answer to a refresh of an account. The browser stores the cookie before the body is read. -/
def accountAnswered (t : Tab T) (token : Option T) : RefreshReply T → Except Thrown Unit × Tab T
  | .ok new body =>
    let t := { t with cookie := some new, seen := t.seen ++ [(.account, new)] }
    match body with
    | some (accessToken, nickname) =>
      (.ok (), { t with identity := ⟨some accessToken, .account, some nickname⟩ })
    | none => (.error .other, t)
  | .refused error true => (.error (.api error), { t with cookie := none })
  | .refused error false => (.error (.api error), t.keep .account token)
  | .lost => (.error .other, t.keep .account token)

def flightAnswered (t : Tab T) (index : Nat) (reply : RefreshReply T) : Tab T :=
  match t.flights[index]? with
  | some ⟨.guest, .sent token⟩ =>
    let (outcome, t) := t.guestAnswered token reply
    t.land index .guest outcome
  | some ⟨.account, .sent token⟩ =>
    let (outcome, t) := t.accountAnswered token reply
    t.land index .account outcome
  | some ⟨kind, .failing⟩ => t.land index kind (.error (.api ⟨401, none⟩))
  | _ => t

/-- The request of a refresh of the account goes out, with the cookie of that moment. -/
def transmit (t : Tab T) (index : Nat) : Tab T :=
  match t.flights[index]? with
  | some ⟨.account, .starting⟩ => { t with
      flights := t.flights.set index ⟨.account, .sent t.cookie⟩
      presented := t.presented ++ (t.cookie.map (.account, ·)).toList }
  | _ => t

def forgetGuest (t : Tab T) : Tab T := { t with guestRefresh := none }

def setApiIdentity (t : Tab T) (identity : ApiIdentity) : Tab T := { t with identity }

/-- The end of `logoutAndCreateGuest`. -/
def createGuest (t : Tab T) (index : Nat) (task : Task) : Tab T :=
  (t.forgetGuest.setApiIdentity .nobody).setTask index { task with await := .guest }

/-- What a call makes of an error of its request. -/
def throws (t : Tab T) (index : Nat) (task : Task) (error : Thrown) : Tab T :=
  if task.caller = .logoutAndCreateGuest ∧ isAuthenticationRejection error ∧
      t.identity.kind = .anonymous then
    t.createGuest index task
  else t.setTask index { task with await := .nothing }

def returns (t : Tab T) (index : Nat) (task : Task) : Tab T :=
  if task.caller = .logoutAndCreateGuest then ({ t with cookie := none }).createGuest index task
  else t.setTask index { task with await := .nothing }

/-- Only a 401 without a code of its own is an access token that has run out. -/
def canRefresh (t : Tab T) (task : Task) (error : Thrown) : Prop :=
  task.caller.retries = true ∧ t.identity.kind ≠ .anonymous ∧ error = .api ⟨401, none⟩

instance (t : Tab T) (task : Task) (error : Thrown) : Decidable (t.canRefresh task error) :=
  inferInstanceAs (Decidable (_ ∧ _))

/-- The answer to a request that is not a refresh. -/
def answered (t : Tab T) (index : Nat) (task : Task) (reply : Reply) : Tab T :=
  match task.await, reply with
  | .request, .ok () | .again, .ok () => t.returns index task
  | .request, .error error =>
    if t.canRefresh task error then t.refreshCurrentIdentity index task else t.throws index task error
  | .again, .error error => t.throws index task error
  | _, _ => t

/-- `bootstrapApiIdentity` after a refresh that was refused or failed. -/
def bootstraps (t : Tab T) (index : Nat) (task : Task) (kind : FlightKind) (error : Thrown) : Tab T :=
  match kind with
  | .guest =>
    if isAuthenticationRejection error = false ∨ t.activeRoom then
      t.setTask index { task with await := .nothing }
    else t.forgetGuest.awaitFlight index task .account
  | .account =>
    t.setTask index { task with await := if isAuthenticationRejection error then .guest else .nothing }

/-- An explicit rejection of the refresh ends the identity. -/
def rejected (t : Tab T) (error : Thrown) : Tab T :=
  if isAuthenticationRejection error then
    (if t.identity.kind = .guest then t.forgetGuest else t).setApiIdentity .nobody
  else t

/-- A task goes on after the refresh that it has waited for. -/
def resume (t : Tab T) (index : Nat) (task : Task) (kind : FlightKind) (outcome : Except Thrown Unit) :
    Tab T :=
  match task.caller, outcome with
  | .apiRequest _ _, .ok () | .logoutAndCreateGuest, .ok () =>
    t.setTask index { task with await := .again, sends := task.sends + 1 }
  | .apiRequest _ _, .error error | .logoutAndCreateGuest, .error error =>
    (t.rejected error).throws index task error
  | .bootstrapApiIdentity, .error error => t.bootstraps index task kind error
  | .bootstrapApiIdentity, .ok () | .tryRefreshSession, _ | .abandonSessionAndCreateGuest, _ =>
    t.setTask index { task with await := .nothing }

/-- The first stretch of a call. -/
def call (t : Tab T) (caller : Caller) : Tab T :=
  let index := t.tasks.length
  let idle : Task := ⟨caller, .nothing, 0⟩
  let asking : Tab T := { t with tasks := t.tasks ++ [⟨caller, .request, 1⟩] }
  let t := { t with tasks := t.tasks ++ [idle] }
  match caller with
  | .apiRequest _ _ => asking
  | .bootstrapApiIdentity =>
    t.awaitFlight index idle (if t.guestRefresh.isSome then .guest else .account)
  | .tryRefreshSession => t.awaitFlight index idle .account
  | .logoutAndCreateGuest =>
    if t.identity.kind = .anonymous then t.createGuest index idle else asking
  | .abandonSessionAndCreateGuest => ({ t with activeRoom := false }).createGuest index idle

inductive Event (T : Type) where
  | call (caller : Caller)
  | transmit (flight : Nat)
  | flightAnswered (flight : Nat) (reply : RefreshReply T)
  | answered (task : Nat) (reply : Reply)
  | resume (task : Nat)
  | guestIssued (task : Nat) (guest : Option (T × String × String))
  | signedIn (token : T) (body : Option (String × String))
  | cookieCleared
  | settle (flight : Nat)
  | activeRoom (there : Bool)

def apply (t : Tab T) : Event T → Tab T
  | .call caller => t.call caller
  | .transmit flight => t.transmit flight
  | .flightAnswered flight reply => t.flightAnswered flight reply
  | .answered index reply =>
    match t.tasks[index]? with
    | some task => t.answered index task reply
    | none => t
  | .resume index =>
    match t.tasks[index]? with
    | some ⟨caller, .flight flight, sends⟩ =>
      match t.flights[flight]? with
      | some ⟨kind, .settled outcome⟩ => t.resume index ⟨caller, .flight flight, sends⟩ kind outcome
      | _ => t
    | _ => t
  | .guestIssued index guest =>
    match t.tasks[index]? with
    | some ⟨caller, .guest, sends⟩ =>
      let t := t.setTask index ⟨caller, .nothing, sends⟩
      match guest with
      | some (token, accessToken, nickname) => t.acceptGuest token accessToken nickname
      | none => t
    | _ => t
  -- a login answers with a cookie, and `replaceGuestWithAccount` reads its body
  | .signedIn token body =>
    let t := { t with cookie := some token, seen := t.seen ++ [(.account, token)] }
    match body with
    | some (accessToken, nickname) =>
      t.forgetGuest.setApiIdentity ⟨some accessToken, .account, some nickname⟩
    | none => t
  | .cookieCleared => { t with cookie := none }
  | .settle flight => t.settle flight
  | .activeRoom there => { t with activeRoom := there }

/-- A token that comes is a new one. -/
def May [DecidableEq T] (t : Tab T) : Event T → Prop
  | .flightAnswered _ (.ok token _) => (.guest, token) ∉ t.seen ∧ (.account, token) ∉ t.seen
  | .signedIn token _ => (.account, token) ∉ t.seen
  | .guestIssued _ (some (token, _, _)) => (.guest, token) ∉ t.seen
  | _ => True

instance [DecidableEq T] (t : Tab T) : (event : Event T) → Decidable (t.May event)
  | .flightAnswered _ (.ok _ _) => inferInstanceAs (Decidable (_ ∧ _))
  | .signedIn _ _ => inferInstanceAs (Decidable (_ ∉ _))
  | .guestIssued _ (some _) => inferInstanceAs (Decidable (_ ∉ _))
  | .flightAnswered _ (.refused _ _) | .flightAnswered _ .lost | .guestIssued _ none
  | .call _ | .transmit _ | .answered _ _ | .resume _ | .cookieCleared | .settle _
  | .activeRoom _ => isTrue trivial

end Tab
end SwitchRemake.Client.Api

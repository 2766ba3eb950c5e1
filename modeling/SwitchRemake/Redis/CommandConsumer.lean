import SwitchRemake.Lib.KeyedList
import SwitchRemake.Lib.Runs

/-!
# The command consumer

`redis/command-consumer.ts`. One entry is processed at a time, and each call that is waited for is a
step of its own. What the commands do to the rooms is left to `GameServer`, so the laws hold whatever
the rooms do.
-/

namespace SwitchRemake.Redis
open Lib

def operationResultTtlMs : Int := 60000

inductive ControlErrorCode where
  | serverDraining
  | serverFull
  | invalidMap
  | roomNotFound
  | roomFull
  | roomLocked
  | badPassword
  | alreadyInRoom
  | kickedFromRoom
  | rejoinCooldown
  | noGraceSlot
  | expired
  | internal
  deriving DecidableEq

structure ControlReply (R : Type) where
  requestId : String
  serverId : String
  ok : Bool
  code : Option ControlErrorCode
  payload : Option R
  deriving DecidableEq

/-- An absent source or transfer is the empty text. -/
structure AdoptRoomPayload (P : Type) where
  sourceServerId : String
  transferId : String
  serverId : String
  room : P

inductive CommandBody (P : Type) where
  | createRoom (payload : P)
  | reserveJoin (payload : P)
  | reserveResume (payload : P)
  | releaseSeat (payload : P)
  | kickUser (payload : P)
  | drainServer (serverId : String)
  | adoptRoom (payload : AdoptRoomPayload P)
  | deleteReplay (payload : P)
  | grantMatch (payload : P)

/-- A command without its request id. -/
structure ControlCommand (P : Type) where
  deadlineAt : Int
  body : CommandBody P

/-- What the consumer calls: the rooms and their registry. Each call is synchronous. `W` is all of their
state, and `Int` the clock. -/
structure GameServer (W P R Room : Type) where
  serverId : String
  isDraining : W → Bool
  createRoom : Int → P → W → W × Except ControlErrorCode R
  reserveJoin : Int → P → W → W × Except ControlErrorCode R
  reserveResume : Int → P → W → W × Except ControlErrorCode R
  releaseSeat : P → W → W × Except ControlErrorCode R
  kickUser : P → W → W × Except ControlErrorCode R
  grantMatch : P → W → W × Except ControlErrorCode R
  beginDrain : Option (W → W)
  remainingRooms : W → R
  adoptRoom : P → W → W × Except ControlErrorCode Room
  discardStagedRoom : P → W → W
  trackAdoptedRoom : AdoptRoomPayload P → W → W
  commitAdoptedRoom : Room → W → W
  deletesReplays : Bool
  empty : R

structure CachedReply (R : Type) where
  requestId : String
  reply : ControlReply R
  expiresAt : Option Int

structure StagedAdoption (Room : Type) where
  requestId : String
  room : Room

structure Delivery where
  entryId : String
  requestId : String
  seenAt : Int

/-- The call an entry waits for. -/
inductive Call (P R Room : Type) where
  | getStored (d : Delivery)
  | getRejoin (d : Delivery) (payload : P)
  | getHandoff (d : Delivery) (payload : AdoptRoomPayload P) (room : Room)
  | claimAdoptedRoom (d : Delivery) (payload : AdoptRoomPayload P) (room : Room)
  | reconcile (d : Delivery) (payload : AdoptRoomPayload P) (room : Room)
  | deleteReplay (d : Delivery)
  | setPx (d : Delivery) (reply : ControlReply R)
  | xAdd (d : Delivery) (reply : ControlReply R)
  | xAck (d : Delivery)
  | xAddPoison (entryId : String)
  | xAckPoison (entryId : String)

def Call.delivery? {P R Room : Type} : Call P R Room → Option Delivery
  | .getStored d | .getRejoin d _ | .getHandoff d _ _ | .claimAdoptedRoom d _ _ | .reconcile d _ _
  | .deleteReplay d | .setPx d _ | .xAdd d _ | .xAck d => some d
  | .xAddPoison _ | .xAckPoison _ => none

/-- What has happened, newest first: a command is seen, its operation on the rooms begins, its reply is
sent and has been written, its entry is acknowledged, the acknowledgement has gone through, and its
reply is forgotten. -/
inductive Record (R : Type) where
  | seen (requestId : String) (clock : Int)
  | began (requestId : String)
  | sent (entryId requestId : String) (reply : ControlReply R)
  | written (entryId : String)
  | acknowledged (entryId : String)
  | closed (requestId : String) (clock : Int)
  | purged (requestId : String) (clock : Int)
  deriving DecidableEq

structure CommandConsumer (W P R Room : Type) where
  world : W
  localOperations : KeyedList (CachedReply.requestId : CachedReply R → String)
  stagedAdoptions : KeyedList (StagedAdoption.requestId : StagedAdoption Room → String)
  call : Option (Call P R Room)
  log : List (Record R)

/-- The answers of Redis are none where the call throws. The rooms also change under other hands. -/
inductive ConsumerEvent (W R : Type) where
  | deliver (entryId requestId : String)
  | deliverMalformed (entryId : String)
  | stored (answer : Option (Option (ControlReply R)))
  | rejoin (answer : Option (Bool × Bool))
  | state (answer : Option (Option String))
  | settled (works : Bool)
  | change (world : W)

/-- The rooms are left to others in this step. -/
def ConsumerEvent.Changes {W R : Type} : ConsumerEvent W R → Prop
  | .change _ => True
  | _ => False

namespace CommandConsumer
variable {W P R Room : Type}

def start (world : W) : CommandConsumer W P R Room := ⟨world, .empty, .empty, none, []⟩

variable (server : GameServer W P R Room) (commandOf : String → ControlCommand P)

def success (requestId : String) (payload : R) : ControlReply R :=
  { requestId, serverId := server.serverId, ok := true, code := none, payload := some payload }

def failure (requestId : String) (code : ControlErrorCode) : ControlReply R :=
  { requestId, serverId := server.serverId, ok := false, code := some code, payload := none }

def replyOf (requestId : String) : Except ControlErrorCode R → ControlReply R
  | .error code => failure server requestId code
  | .ok payload => success server requestId payload

/-- The reply is kept here before anything else can fail. -/
def finish (c : CommandConsumer W P R Room) (d : Delivery) (reply : ControlReply R) :
    CommandConsumer W P R Room :=
  { c with
    localOperations := c.localOperations.set ⟨d.requestId, reply, none⟩
    call := some (.setPx d reply) }

def began (c : CommandConsumer W P R Room) (d : Delivery) (world : W) :
    CommandConsumer W P R Room :=
  { c with world, log := .began d.requestId :: c.log }

def operate (c : CommandConsumer W P R Room) (d : Delivery)
    (result : W × Except ControlErrorCode R) : CommandConsumer W P R Room :=
  (c.began d result.1).finish d (replyOf server d.requestId result.2)

def drainServer (c : CommandConsumer W P R Room) (d : Delivery) (serverId : String) :
    CommandConsumer W P R Room :=
  if serverId ≠ server.serverId then c.finish d (failure server d.requestId .roomNotFound)
  else
    match server.beginDrain with
    | none => c.finish d (failure server d.requestId .internal)
    | some beginDrain =>
      c.operate server d (beginDrain c.world, .ok (server.remainingRooms (beginDrain c.world)))

/-- A staged room is taken up again; its roster is not built twice. -/
def adoptRoom (c : CommandConsumer W P R Room) (d : Delivery) (payload : AdoptRoomPayload P) :
    CommandConsumer W P R Room :=
  if payload.serverId ≠ server.serverId then
    c.finish d (failure server d.requestId .roomNotFound)
  else if server.isDraining c.world && !c.stagedAdoptions.has d.requestId then
    c.finish d (failure server d.requestId .serverDraining)
  else if payload.sourceServerId = "" || payload.transferId = "" then
    c.finish d (failure server d.requestId .internal)
  else
    match c.stagedAdoptions.get? d.requestId with
    | some staged => { c with call := some (.getHandoff d payload staged.room) }
    | none =>
      match server.adoptRoom payload.room c.world with
      | (world, .error code) => (c.began d world).finish d (failure server d.requestId code)
      | (world, .ok room) =>
        { c.began d world with
          stagedAdoptions := c.stagedAdoptions.set ⟨d.requestId, room⟩
          call := some (.getHandoff d payload room) }

def commitAdoptedRoom (c : CommandConsumer W P R Room) (d : Delivery)
    (payload : AdoptRoomPayload P) (room : Room) : CommandConsumer W P R Room :=
  { c with
    world := server.commitAdoptedRoom room (server.trackAdoptedRoom payload c.world)
    stagedAdoptions := c.stagedAdoptions.delete d.requestId }.finish d
      (success server d.requestId server.empty)

def discardStagedRoom (c : CommandConsumer W P R Room) (d : Delivery)
    (payload : AdoptRoomPayload P) : CommandConsumer W P R Room :=
  { c with
    world := server.discardStagedRoom payload.room c.world
    stagedAdoptions := c.stagedAdoptions.delete d.requestId }.finish d
      (failure server d.requestId .internal)

/-- `#execute` up to the call it waits for. -/
def execute (c : CommandConsumer W P R Room) (d : Delivery) (now : Int) :
    CommandConsumer W P R Room :=
  match (commandOf d.requestId).body with
  | .createRoom payload =>
    if server.isDraining c.world then c.finish d (failure server d.requestId .serverDraining)
    else c.operate server d (server.createRoom now payload c.world)
  | .reserveJoin payload =>
    if server.isDraining c.world then c.finish d (failure server d.requestId .serverDraining)
    else { c with call := some (.getRejoin d payload) }
  | .reserveResume payload => c.operate server d (server.reserveResume now payload c.world)
  | .releaseSeat payload => c.operate server d (server.releaseSeat payload c.world)
  | .kickUser payload => c.operate server d (server.kickUser payload c.world)
  | .grantMatch payload => c.operate server d (server.grantMatch payload c.world)
  | .drainServer serverId => c.drainServer server d serverId
  | .adoptRoom payload => c.adoptRoom server d payload
  | .deleteReplay _ =>
    if server.deletesReplays then { c.began d c.world with call := some (.deleteReplay d) }
    else c.finish d (failure server d.requestId .internal)

def expired (now : Int) (cached : CachedReply R) : Bool :=
  match cached.expiresAt with
  | some expiresAt => expiresAt ≤ now
  | none => false

/-- The replies whose time is over are forgotten. -/
def purge (c : CommandConsumer W P R Room) (now : Int) : CommandConsumer W P R Room :=
  { c with
    localOperations := c.localOperations.filter fun cached => !expired now cached
    log := (c.localOperations.entries.filter (expired now)).map
      (fun cached => .purged cached.requestId now) ++ c.log }

/-- The start of `#replyFor`. -/
def deliver (c : CommandConsumer W P R Room) (entryId requestId : String) (now : Int) :
    CommandConsumer W P R Room :=
  let d : Delivery := ⟨entryId, requestId, now⟩
  let c := c.purge now
  let c := { c with log := .seen requestId now :: c.log }
  match c.localOperations.get? requestId with
  | some cached =>
    { c with
      localOperations := c.localOperations.set { cached with expiresAt := none }
      call := some (.setPx d cached.reply) }
  | none => { c with call := some (.getStored d) }

def fail (c : CommandConsumer W P R Room) : CommandConsumer W P R Room := { c with call := none }

/-- `#replyFor` with what Redis keeps of an earlier run. -/
def stored (c : CommandConsumer W P R Room) (d : Delivery) (now : Int)
    (reply : Option (ControlReply R)) : CommandConsumer W P R Room :=
  match reply.filter fun reply =>
      reply.requestId = d.requestId && reply.serverId = server.serverId with
  | some reply => c.finish d reply
  | none =>
    if (commandOf d.requestId).deadlineAt < d.seenAt && !c.stagedAdoptions.has d.requestId then
      c.finish d (failure server d.requestId .expired)
    else c.execute server commandOf d now

/-- A call goes through or throws. -/
def settle (c : CommandConsumer W P R Room) (now : Int) (works : Bool) :
    Call P R Room → CommandConsumer W P R Room
  | .claimAdoptedRoom d payload room =>
    if works then c.commitAdoptedRoom server d payload room
    else { c with call := some (.reconcile d payload room) }
  | .deleteReplay d =>
    if works then c.finish d (success server d.requestId server.empty)
    else c.finish d (failure server d.requestId .internal)
  | .setPx d reply =>
    if works then
      { c with call := some (.xAdd d reply), log := .sent d.entryId d.requestId reply :: c.log }
    else c.fail
  | .xAdd d _ =>
    if works then
      { c with
        call := some (.xAck d)
        log := .acknowledged d.entryId :: .written d.entryId :: c.log }
    else c.fail
  | .xAck d =>
    if works then
      { c with
        localOperations := c.localOperations.modify d.requestId
          (fun cached => { cached with expiresAt := some (now + operationResultTtlMs) })
          fun _ => rfl
        call := none
        log := .closed d.requestId now :: c.log }
    else c.fail
  | .xAddPoison entryId =>
    if works then
      { c with
        call := some (.xAckPoison entryId)
        log := .acknowledged entryId :: .written entryId :: c.log }
    else c.fail
  | .xAckPoison _ => c.fail
  | _ => c

/-- A step at a reading of the clock. What nothing waits for changes nothing. -/
def apply (c : CommandConsumer W P R Room) : Int × ConsumerEvent W R → CommandConsumer W P R Room
  | (now, .deliver entryId requestId) =>
    if c.call.isSome then c else c.deliver entryId requestId now
  | (_, .deliverMalformed entryId) =>
    if c.call.isSome then c else { c with call := some (.xAddPoison entryId) }
  | (now, .stored answer) =>
    match c.call, answer with
    | some (.getStored _), none => c.fail
    | some (.getStored d), some reply => c.stored server commandOf d now reply
    | _, _ => c
  | (now, .rejoin answer) =>
    match c.call, answer with
    | some (.getRejoin _ _), none => c.fail
    | some (.getRejoin d payload), some (cooldown, kicked) =>
      if cooldown then c.finish d (failure server d.requestId .rejoinCooldown)
      else if kicked then c.finish d (failure server d.requestId .kickedFromRoom)
      else c.operate server d (server.reserveJoin now payload c.world)
    | _, _ => c
  | (_, .state answer) =>
    match c.call, answer with
    | some (.getHandoff d payload room), none => { c with call := some (.reconcile d payload room) }
    | some (.getHandoff d payload room), some state =>
      if state = some "committed" then c.commitAdoptedRoom server d payload room
      else { c with call := some (.claimAdoptedRoom d payload room) }
    | some (.reconcile _ _ _), none => c.fail
    | some (.reconcile d payload room), some state =>
      if state = some "committed" then c.commitAdoptedRoom server d payload room
      else c.discardStagedRoom server d payload
    | _, _ => c
  | (now, .settled works) =>
    match c.call with
    | some call => c.settle server now works call
    | none => c
  | (_, .change world) => { c with world }

end CommandConsumer
end SwitchRemake.Redis

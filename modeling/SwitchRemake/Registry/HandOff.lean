import SwitchRemake.Registry.GameRegistry
import SwitchRemake.Lib.Runs

/-!
# Hand-offs

A waiting room goes from the server that holds it to another. The source freezes it and offers it
under an intent; the adopter moves the directory entry, the members' claims and the intent in one
command; the source settles the intent before it thaws or releases the room.
-/

namespace SwitchRemake.Registry
open Lib Redis

structure AdoptRoomPayload where
  serverId : String
  roomId : String
  sourceServerId : String
  transferId : String
  room : RoomObject
deriving DecidableEq

def AdoptRoomPayload.members (payload : AdoptRoomPayload) : List ActorId := payload.room.members

/-- One part of an atomic replacement. -/
inductive Replacement where
  | handoff (transferId : String) (expected value : HandOffState) (ttlMs : Nat)
  | room (roomId : String) (expected value : RoomDirectoryValue) (ttlMs : Nat)
  | userActiveRoom (userId : ActorId) (expected value : ActiveRoomClaim) (ttlMs : Nat)
deriving DecidableEq

namespace Replacement

def key : Replacement → String ⊕ String ⊕ ActorId
  | .handoff transferId .. => .inl transferId
  | .room roomId .. => .inr (.inl roomId)
  | .userActiveRoom userId .. => .inr (.inr userId)

def Holds (k : Keys) : Replacement → Prop
  | .handoff transferId expected _ _ => k.handOffState transferId = some expected
  | .room roomId expected _ _ => k.entry roomId = some expected
  | .userActiveRoom userId expected _ _ => k.claim userId = some expected

instance (k : Keys) : ∀ item : Replacement, Decidable (item.Holds k)
  | .handoff .. | .room .. | .userActiveRoom .. => inferInstanceAs (Decidable (_ = _))

def put (k : Keys) : Replacement → Keys
  | .handoff transferId _ value ttlMs => k.setHandOff transferId (.put k.now ttlMs value)
  | .room roomId _ value ttlMs => k.setRoom roomId (.put k.now ttlMs value)
  | .userActiveRoom userId _ value ttlMs => k.setClaim userId (.put k.now ttlMs value)

end Replacement

/-- Two parts with one key throw before anything is sent. -/
def compareAndSetMany (k : Keys) (replacements : List Replacement) : Bool × Keys :=
  if ¬ (replacements.map (·.key)).Nodup then (false, k)
  else if ∀ item ∈ replacements, item.Holds k then (true, replacements.foldl Replacement.put k)
  else (false, k)

/-! ## Adoption -/

inductive Adoption where
  | intentGet
  | intentGot (state : Option HandOffState)
  | directoryGet
  | directoryGot (previous : Option RoomDirectoryValue)
  | claims (left : List ActorId) (replacements : List Replacement)
  | claimGot (userId : ActorId) (claim : Option ActiveRoomClaim) (left : List ActorId)
      (replacements : List Replacement)
  | commit (replacements : List Replacement)
  | replied (committed : Bool)
  | againGet
  | againGot (state : Option HandOffState)
  | thrown
  | done
deriving DecidableEq

namespace Adoption

/-- Where the room is put into the manager. -/
def Adopts : Adoption → Prop
  | .intentGot state | .againGot state => state = some .committed
  | .replied committed => committed = true
  | _ => False

instance : ∀ stage : Adoption, Decidable stage.Adopts
  | .intentGot _ | .againGot _ | .replied _ => inferInstanceAs (Decidable (_ = _))
  | .intentGet | .directoryGet | .directoryGot _ | .claims .. | .claimGot .. | .commit _
  | .againGet | .thrown | .done => isFalse not_false

/-- Where the staged room is thrown away. -/
def Discards : Adoption → Prop
  | .againGot state => state ≠ some .committed
  | _ => False

/-- A command that is delivered again finds the room staged, and a failing read in the handler
leaves it staged. -/
def failed : Adoption → Adoption
  | .done => .done
  | .thrown | .againGet | .againGot _ => .thrown
  | _ => .againGet

end Adoption

/-- A command in hand and the room staged for it, which is there until `done`. -/
structure Adopting where
  payload : AdoptRoomPayload
  stage : Adoption
deriving DecidableEq

/-! ## Settling -/

structure Settling where
  roomId : String
  transferId : String
  object : Option Nat
deriving DecidableEq

/-- Where `handOffWaitingRooms` stands. It goes over its rooms one by one. -/
inductive Source where
  | idle
  | offering (roomId : String) (object : Nat)
  | sending (roomId transferId : String) (object : Nat)
  | cancel (settling : Settling)
  | get (settling : Settling)
  | got (settling : Settling) (state : Option HandOffState)
deriving DecidableEq

structure Offered where
  roomId : String
  transferId : String
deriving DecidableEq

/-- The object that was offered under a transfer. -/
structure Offer where
  transferId : String
  object : Nat
deriving DecidableEq

/-- A game server: its registry, the hand-offs it has not settled (`pendingByManager`), the source's
run and the adoptions. `offers` are all hand-offs it has offered and `adopted` those it has taken. -/
structure Node where
  server : GameServer
  pending : KeyedList Offered.roomId
  source : Source
  adopting : List Adopting
  offers : List Offer
  adopted : List String

namespace GameServer

def setObject (s : GameServer) (object : Nat) (room : RoomObject) : GameServer :=
  { s with objects := s.objects.set object room }

def updateObject (s : GameServer) (object : Option Nat) (f : RoomObject → RoomObject) :
    GameServer :=
  { s with objects := match object with
      | some ref => s.objects.modify ref f
      | none => s.objects }

/-- A room object comes into the manager's map. -/
def addRoom (s : GameServer) (roomId : String) (room : RoomObject) : GameServer :=
  { s with
    rooms := s.rooms.set ⟨roomId, s.objects.length⟩
    objects := s.objects ++ [room]
    released := s.released.filter (· ≠ roomId)
    overtaken := s.overtaken.filter (· ≠ roomId) }

/-- The rooms that are closed leave the map. -/
def sweep (s : GameServer) : GameServer :=
  { s with rooms := s.rooms.filter fun managed =>
      !(s.objects[managed.object]?.any fun room => room.state = .closed) }

/-- The branch of a committed hand-off. -/
def releaseRoom (s : GameServer) (roomId : String) (object : Option Nat) : GameServer :=
  let s := ((s.forgetRoom roomId).updateObject object fun room =>
    { room with state := .closed }).sweep
  if (s.rooms.get? roomId).isNone then
    { s with released := roomId :: s.released, overtaken := roomId :: s.overtaken }
  else s

def trackAdoptedRoom (s : GameServer) (payload : AdoptRoomPayload) : GameServer :=
  payload.members.foldl
    (fun s userId => s.trackSeat payload.roomId userId ("adopt:" ++ payload.transferId)) s

def adoptedRoom (payload : AdoptRoomPayload) : RoomObject :=
  { payload.room with handingOff := false, held := [], kickedUsers := [] }

def adoptedClaim (s : GameServer) (payload : AdoptRoomPayload) : ActiveRoomClaim :=
  .assigned ("adopt:" ++ payload.transferId) payload.roomId s.serverId

/-- One command of `#adoptRoom` and `claimAdoptedRoom` or the code after its answer. -/
def adoptTurn (s : GameServer) (keys : Keys) (payload : AdoptRoomPayload) (now : Nat) :
    Adoption → GameServer × Keys × Adoption
  | .intentGet => (s, keys, .intentGot (keys.handOffState payload.transferId))
  | .intentGot state =>
    if state = some .committed then
      ((s.trackAdoptedRoom payload).addRoom payload.roomId (adoptedRoom payload), keys, .done)
    else if payload.sourceServerId = s.serverId then (s, keys, .againGet)
    else (s, keys, .directoryGet)
  | .directoryGet => (s, keys, .directoryGot (keys.entry payload.roomId))
  | .directoryGot previous =>
    match previous with
    | some value =>
      if value.serverId ≠ payload.sourceServerId then (s, keys, .againGet)
      else
        (s, keys, .claims payload.members
          [.handoff payload.transferId .pending .committed HAND_OFF_TTL_MS,
            .room payload.roomId value
              ⟨(adoptedRoom payload).projection payload.roomId, s.serverId, now⟩ HEARTBEAT_TTL_MS])
    | none => (s, keys, .againGet)
  | .claims left replacements =>
    match left with
    | userId :: rest => (s, keys, .claimGot userId (keys.claim userId) rest replacements)
    | [] => (s, keys, .commit replacements)
  | .claimGot userId claim left replacements =>
    match claim with
    | some (.assigned requestId roomId serverId) =>
      if roomId = payload.roomId ∧ serverId = payload.sourceServerId then
        (s, keys, .claims left (replacements ++
          [.userActiveRoom userId (.assigned requestId roomId serverId) (s.adoptedClaim payload)
            ACTIVE_ROOM_TTL_MS]))
      else (s, keys, .againGet)
    | _ => (s, keys, .againGet)
  | .commit replacements =>
    let result := compareAndSetMany keys replacements
    (s, result.2, .replied result.1)
  | .replied committed =>
    if committed then
      ((s.trackAdoptedRoom payload).addRoom payload.roomId (adoptedRoom payload), keys, .done)
    else (s, keys, .againGet)
  | .againGet => (s, keys, .againGot (keys.handOffState payload.transferId))
  | .againGot state =>
    if state = some .committed then
      ((s.trackAdoptedRoom payload).addRoom payload.roomId (adoptedRoom payload), keys, .done)
    else (s, keys, .done)
  | .thrown => (s, keys, .thrown)
  | .done => (s, keys, .done)

end GameServer

namespace Node

/-- `room?.cancelHandOff()`. -/
def thaw (n : Node) (object : Option Nat) : Node :=
  { n with server := n.server.updateObject object fun room => { room with handingOff := false } }

def settle (n : Node) (roomId transferId : String) : Node :=
  { n with source := .cancel ⟨roomId, transferId, n.server.object? roomId⟩ }

/-- The next command of the source's run or the code after its answer. A command that is sent goes
to the stream of `target`. -/
def sourceTurn (n : Node) (keys : Keys) (transferId target : String) :
    Node × Keys × List AdoptRoomPayload :=
  match n.source with
  | .idle => (n, keys, [])
  | .offering roomId object =>
    let set := setPxIfAbsent keys.now (keys.handoff transferId) .pending HAND_OFF_TTL_MS
    if set.1 then
      ({ n with
          pending := n.pending.set ⟨roomId, transferId⟩
          offers := n.offers ++ [⟨transferId, object⟩]
          source := .sending roomId transferId object }, keys.setHandOff transferId set.2, [])
    else ({ n.thaw object with source := .idle }, keys, [])
  | .sending roomId transferId object =>
    (n.settle roomId transferId, keys, (n.server.objects[object]?.map fun room =>
      ⟨target, roomId, n.server.serverId, transferId, room⟩).toList)
  | .cancel settling =>
    ({ n with source := .get settling },
      keys.setHandOff settling.transferId (compareAndSetPx keys.now
        (keys.handoff settling.transferId) .pending .cancelled HAND_OFF_TTL_MS).2, [])
  | .get settling =>
    ({ n with source := .got settling (keys.handOffState settling.transferId) }, keys, [])
  | .got settling state =>
    match state with
    | some .committed =>
      ({ n with
          server := n.server.releaseRoom settling.roomId settling.object
          pending := n.pending.delete settling.roomId
          source := .idle }, keys, [])
    | some .cancelled =>
      ({ n.thaw settling.object with
          pending := n.pending.delete settling.roomId
          source := .idle }, keys, [])
    | _ => ({ n with source := .idle }, keys, [])

/-- The command at hand has failed: an offer that may have been stored is taken back unsent, what
follows a send is settled, and a settling is left for a later run. -/
def sourceFail (n : Node) : Node :=
  match n.source with
  | .offering _ object => { n.thaw object with source := .idle }
  | .sending roomId transferId _ => n.settle roomId transferId
  | _ => { n with source := .idle }

end Node

/-! ## Runs -/

/-- What happens at a server: rooms open, change (joins, releases, votes to close) and are swept,
seats are tracked and released, the loop starts, goes on or fails, a hand-off is frozen or settled
and goes on, adoptions begin and go on. A command fails before it takes effect or after it. -/
inductive Act where
  | addRoom (roomId : String) (room : RoomObject)
  | changeRoom (object : Nat) (room : RoomObject)
  | sweep
  | trackSeat (roomId : String) (userId : ActorId) (requestId : String)
  | noteReleased (roomId : String) (userId : ActorId) (cooldown : Bool) (now : Nat)
  | noteKicked (roomId : String) (userId : ActorId)
  | publish (now : Nat)
  | turn (place now : Nat)
  | fail
  | freeze (roomId : String)
  | settle (roomId : String)
  | sourceTurn (transferId target : String)
  | sourceFail
  | adopt (payload : AdoptRoomPayload)
  | adoptTurn (place now : Nat)
  | adoptFail (place : Nat)
deriving DecidableEq

/-- `sent` are the commands that have been sent to adopt a room; a stream may deliver one again. -/
structure Cluster where
  keys : Keys
  nodes : List Node
  sent : List AdoptRoomPayload

namespace Node

/-- `#stagedRooms.has`. -/
def Stages (n : Node) (roomId : String) : Prop :=
  ∃ call ∈ n.adopting, call.payload.roomId = roomId ∧ call.stage ≠ .done

instance (n : Node) (roomId : String) : Decidable (n.Stages roomId) :=
  inferInstanceAs (Decidable (∃ call ∈ n.adopting, _ ∧ _))

def act (n : Node) (keys : Keys) : Act → Node × Keys × List AdoptRoomPayload
  | .addRoom roomId room => ({ n with server := n.server.addRoom roomId room }, keys, [])
  | .changeRoom object room => ({ n with server := n.server.setObject object room }, keys, [])
  | .sweep => ({ n with server := n.server.sweep }, keys, [])
  | .trackSeat roomId userId requestId =>
    ({ n with server := n.server.trackSeat roomId userId requestId }, keys, [])
  | .noteReleased roomId userId cooldown now =>
    ({ n with server := n.server.noteReleased roomId userId cooldown now }, keys, [])
  | .noteKicked roomId userId => ({ n with server := n.server.noteKicked roomId userId }, keys, [])
  | .publish now =>
    if n.server.loop = .idle then
      ({ n with server := { n.server with loop := .flush false, publishedAt := now } }, keys, [])
    else (n, keys, [])
  | .turn place now =>
    let result := n.server.turn keys place now
    ({ n with server := result.1 }, result.2, [])
  | .fail => ({ n with server := { n.server with loop := .idle } }, keys, [])
  | .freeze roomId =>
    match n.source, n.server.object? roomId, n.server.get roomId with
    | .idle, some object, some room =>
      if !room.handingOff && room.state = .waiting then
        ({ n with
            server := n.server.updateObject (some object) fun room =>
              { room with handingOff := true }
            source := .offering roomId object }, keys, [])
      else (n, keys, [])
    | _, _, _ => (n, keys, [])
  | .settle roomId =>
    match n.source, n.pending.get? roomId with
    | .idle, some offered => (n.settle roomId offered.transferId, keys, [])
    | _, _ => (n, keys, [])
  | .sourceTurn transferId target => n.sourceTurn keys transferId target
  | .sourceFail => (n.sourceFail, keys, [])
  | .adopt payload =>
    if payload.serverId ≠ n.server.serverId then (n, keys, [])
    else if ∃ call ∈ n.adopting, call.payload = payload ∧ call.stage = .thrown then
      ({ n with adopting := n.adopting.map fun call =>
          if call.payload = payload ∧ call.stage = .thrown then { call with stage := .intentGet }
          else call }, keys, [])
    else if n.server.rooms.has payload.roomId ∨ n.Stages payload.roomId then (n, keys, [])
    else ({ n with adopting := n.adopting ++ [⟨payload, .intentGet⟩] }, keys, [])
  | .adoptTurn place now =>
    match n.adopting[place]? with
    | some call =>
      let result := n.server.adoptTurn keys call.payload now call.stage
      ({ n with
          server := result.1
          adopting := n.adopting.set place { call with stage := result.2.2 }
          adopted := if call.stage.Adopts then call.payload.transferId :: n.adopted
            else n.adopted }, result.2.1, [])
    | none => (n, keys, [])
  | .adoptFail place =>
    ({ n with adopting := n.adopting.modify place fun call =>
        { call with stage := call.stage.failed } }, keys, [])

end Node

/-- A server acts, the clock moves, or the matching service writes a user's claim: a reservation,
an assignment or none. -/
inductive ClusterOp where
  | tick (ms : Nat)
  | matching (userId : ActorId) (claim : Cell ActiveRoomClaim)
  | act (place : Nat) (act : Act)

namespace Cluster

def apply (c : Cluster) : ClusterOp → Cluster
  | .tick ms => { c with keys := { c.keys with now := c.keys.now + ms } }
  | .matching userId claim => { c with keys := c.keys.setClaim userId claim }
  | .act place act =>
    match c.nodes[place]? with
    | some n =>
      let result := n.act c.keys act
      { keys := result.2.1, nodes := c.nodes.set place result.1, sent := c.sent ++ result.2.2 }
    | none => c

/-- What the acts of a server keep to: a room object keeps the freeze it has, and a frozen one its
state; a new room's id is not in use; a transfer's id is drawn anew; a command that is received has
been sent. -/
def Allowed (c : Cluster) : ClusterOp → Prop
  | .act place (.changeRoom object room) => ∀ n ∈ c.nodes[place]?,
      ∀ old ∈ n.server.objects[object]?, room.handingOff = old.handingOff ∧
        (old.handingOff = true → room.state = old.state)
  | .act place (.addRoom roomId room) => ∀ n ∈ c.nodes[place]?,
      n.server.rooms.has roomId = false ∧ ¬ n.Stages roomId ∧ room.handingOff = false
  | .act _ (.sourceTurn transferId _) => c.keys.handoff transferId = none
  | .act _ (.adopt payload) => payload ∈ c.sent
  | _ => True

instance (c : Cluster) : ∀ op, Decidable (c.Allowed op)
  | .act place (.changeRoom object room) =>
    inferInstanceAs (Decidable (∀ n ∈ c.nodes[place]?,
      ∀ old ∈ n.server.objects[object]?, room.handingOff = old.handingOff ∧
        (old.handingOff = true → room.state = old.state)))
  | .act place (.addRoom roomId room) =>
    inferInstanceAs (Decidable (∀ n ∈ c.nodes[place]?,
      n.server.rooms.has roomId = false ∧ ¬ n.Stages roomId ∧ room.handingOff = false))
  | .act _ (.sourceTurn _ _) => inferInstanceAs (Decidable (_ = _))
  | .act _ (.adopt _) => inferInstanceAs (Decidable (_ ∈ _))
  | .tick _ | .matching .. | .act _ .sweep | .act _ (.trackSeat ..) | .act _ (.noteReleased ..)
  | .act _ (.noteKicked ..) | .act _ (.publish _) | .act _ (.turn ..) | .act _ .fail
  | .act _ (.freeze _) | .act _ (.settle _) | .act _ .sourceFail
  | .act _ (.adoptTurn ..) | .act _ (.adoptFail _) => isTrue trivial

def newServer (serverId : String) : Node where
  server :=
    { serverId, rooms := .empty, objects := [], trackedSeats := .empty, pendingReleases := .empty
      kickedByRoom := [], lastProjectedRooms := [], publishedAt := 0, loop := .idle
      released := [], overtaken := [] }
  pending := .empty
  source := .idle
  adopting := []
  offers := []
  adopted := []

/-- The servers have just started; what is in the keys stands there from before. -/
def start (keys : Keys) (serverIds : List String) : Cluster := ⟨keys, serverIds.map newServer, []⟩

end Cluster
end SwitchRemake.Registry

import SwitchRemake.Lib.KeyedList
import SwitchRemake.Lib.Runs
import SwitchRemake.Supervisor.Policy

/-!
# A supervisor and its fleet

The processes as they are, the children as the supervisor remembers them, and the ticks between.
What a tick reads of the heartbeats need not be what is running.
-/

namespace SwitchRemake.Supervisor
open Lib

inductive Stage where
  | starting
  | active
  | draining
deriving DecidableEq

/-- A process: `own` were spawned here, and `told` ones were sent a drain command. -/
structure Server where
  serverId : String
  own : Bool
  stage : Stage
  told : Bool
deriving DecidableEq

structure Child where
  serverId : String
  seen : Bool
  draining : Bool
deriving DecidableEq

structure Fleet where
  running : List Server
  children : KeyedList Child.serverId
  lastActionAt : Option Nat

namespace Fleet

def initial : Fleet := ⟨[], .empty, none⟩

def own (f : Fleet) : List Server := f.running.filter Server.own

def told (f : Fleet) : List Server := f.running.filter Server.told

/-- The active ones that were not told to drain. -/
def serving (f : Fleet) : List Server := f.running.filter fun s => s.stage = .active ∧ !s.told

def starting (f : Fleet) : Nat := (f.children.filter fun child => !child.seen).size

/-- The marks at the start of a tick. -/
def mark (servers : List GameServerHeartbeat) (child : Child) : Child where
  serverId := child.serverId
  seen := child.seen || servers.any fun server => server.serverId = child.serverId
  draining := child.draining ||
    (servers.find? fun server => server.serverId = child.serverId).any (·.draining)

def marked (f : Fleet) (servers : List GameServerHeartbeat) : Fleet :=
  { f with children := f.children.mapEntries (mark servers) fun _ => rfl }

def input (f : Fleet) (policy : ScalingPolicy) (servers : List GameServerHeartbeat) (now : Nat) :
    ScalingInput where
  servers := servers
  starting := f.starting
  now := now
  lastActionAt := f.lastActionAt
  policy := policy

def spawnServer (f : Fleet) (serverId : String) : Fleet :=
  { f with
    running := f.running ++ [⟨serverId, true, .starting, false⟩]
    children := f.children.set ⟨serverId, false, false⟩ }

def sendDrain (f : Fleet) (serverId : String) (sent : Bool) : Fleet :=
  { f with running := f.running.map fun s =>
      if s.serverId = serverId ∧ sent = true then { s with told := true } else s }

end Fleet

/-- The clock is read for the decision and again for `lastActionAt`; a drain command that `xadd`
refuses is not `sent`. -/
structure Tick where
  read : Option (List GameServerHeartbeat)
  now : Nat
  stamp : Nat
  newId : String
  sent : Bool
deriving DecidableEq

inductive Op where
  | tick (t : Tick)
  | comesUp (server : Server)
  | drains (server : Server)
  | exit (server : Server)
  | joins (serverId : String)
deriving DecidableEq

/-- The server changes its stage. -/
def Fleet.turns (f : Fleet) (server : Server) (stage : Stage) : Fleet :=
  { f with running := f.running.map fun s => if s = server then { s with stage := stage } else s }

section
variable (localeCompare : String → String → Ordering) (policy : ScalingPolicy)

/-- What a tick decides, if its read has not failed. -/
def Fleet.decision (f : Fleet) (t : Tick) : Option ScalingAction :=
  t.read.map fun servers =>
    decideLocalScaling localeCompare ((f.marked servers).input policy servers t.now)
      f.children.size

def Fleet.tick (f : Fleet) (t : Tick) : Fleet :=
  match t.read with
  | none => f
  | some servers =>
    let f := f.marked servers
    match decideLocalScaling localeCompare (f.input policy servers t.now) f.children.size with
    | .up _ => { f with lastActionAt := some t.stamp }.spawnServer t.newId
    | .down serverId _ =>
      let f := { f with lastActionAt := some t.stamp }.sendDrain serverId t.sent
      { f with
        children := f.children.modify serverId (fun c => { c with draining := true }) fun _ => rfl }
    | .hold _ => f

def Fleet.apply (f : Fleet) : Op → Fleet
  | .tick t => f.tick localeCompare policy t
  | .comesUp server => f.turns server .active
  | .drains server => f.turns server .draining
  | .exit server =>
    { f with
      running := f.running.erase server
      children := if server.own then f.children.delete server.serverId else f.children }
  | .joins serverId => { f with running := f.running ++ [⟨serverId, false, .active, false⟩] }

end

/-- The ids of a read are the members of a sorted set. Nothing else about a read is promised. -/
def Tick.Wellformed (t : Tick) : Prop :=
  ∀ servers ∈ t.read, (servers.map GameServerHeartbeat.serverId).Nodup

instance (t : Tick) : Decidable t.Wellformed :=
  inferInstanceAs (Decidable (∀ servers ∈ t.read, _))

def Fleet.ids (f : Fleet) : List String := f.running.map Server.serverId

/-- New servers have ids of their own, and only running ones turn to something. -/
def Fleet.Possible (f : Fleet) : Op → Prop
  | .tick t => t.Wellformed ∧ t.newId ∉ f.ids
  | .comesUp server => server ∈ f.running ∧ server.stage = .starting
  | .drains server => server ∈ f.running ∧ server.stage = .active
  | .exit server => server ∈ f.running
  | .joins serverId => serverId ∉ f.ids

instance (f : Fleet) : ∀ op, Decidable (f.Possible op)
  | .tick _ => inferInstanceAs (Decidable (_ ∧ _))
  | .comesUp _ => inferInstanceAs (Decidable (_ ∧ _))
  | .drains _ => inferInstanceAs (Decidable (_ ∧ _))
  | .exit _ => inferInstanceAs (Decidable (_ ∈ _))
  | .joins _ => inferInstanceAs (Decidable (_ ∉ _))

end SwitchRemake.Supervisor

import SwitchRemake.Config
import SwitchRemake.Lib.JsNumber
import SwitchRemake.Lib.KeyedList
import SwitchRemake.Lib.Runs

/-!
# The scheduler of a process

One loop steps every registered target. What a target does at a call is up to the target: it may
add and remove targets, and it may throw, which leaves the loop.
-/

namespace SwitchRemake.Scheduling
open Lib

inductive Call where
  | step
  | publish
deriving DecidableEq

/-- How a call ends: `publish` only tells whether it throws. -/
inductive Answer where
  | frame
  | null
  | throws
deriving DecidableEq

inductive RegistryOp (Target : Type) where
  | add (target : Target)
  | remove (id : String)
deriving DecidableEq

structure Reaction (Target : Type) where
  ops : List (RegistryOp Target)
  answer : Answer
deriving DecidableEq

/-- What a target does at a call, after the calls it has received. -/
abbrev Behaviour (Target : Type) := Target → List Call → Call → Reaction Target

def EPSILON_MS : ℚ := 1 / 1000000000
def MAX_CATCHUP_STEPS : Nat := 5

structure Scheduler (K : Type) {Target : Type} (id : Target → String) where
  targets : KeyedList id
  accumulatorMs : K
  lastNowMs : Option K
  tickCounter : Nat
  timer : Bool
  loopLagMs : K
  droppedMs : K
  /-- The calls of the run. -/
  calls : List (Target × Call)
  /-- The targets that have thrown from `step`. -/
  failed : List Target
  /-- An exception that nobody catches ends the process. -/
  alive : Bool

inductive Event (K Target : Type) where
  | start (now : K)
  | stop
  | advance (now later : K) (caught : Bool)
  | add (target : Target)
  | remove (id : String)

variable {K Target : Type} [DecidableEq Target] {id : Target → String}

namespace Scheduler

def received (s : Scheduler K id) (target : Target) : List Call :=
  (s.calls.filter fun call => call.1 = target).map Prod.snd

def add (s : Scheduler K id) (target : Target) : Scheduler K id :=
  { s with targets := s.targets.set target }

def remove (s : Scheduler K id) (key : String) : Scheduler K id :=
  { s with targets := s.targets.delete key }

def register (s : Scheduler K id) : RegistryOp Target → Scheduler K id
  | .add target => s.add target
  | .remove key => s.remove key

def reaction (behaves : Behaviour Target) (s : Scheduler K id) (target : Target) (call : Call) :
    Reaction Target :=
  behaves target (s.received target) call

/-- The call is made, and the target does what it does in it. -/
def call (behaves : Behaviour Target) (s : Scheduler K id) (target : Target) (call : Call) :
    Scheduler K id :=
  (s.reaction behaves target call).ops.foldl register { s with calls := s.calls ++ [(target, call)] }

def fail (s : Scheduler K id) (target : Target) : Scheduler K id :=
  { s with failed := target :: s.failed }

/-- The loop of `stepAll` over the copy of the targets. `true` is an exception on its way out. -/
def stepEach (behaves : Behaviour Target) (isSnapshotTick : Bool) :
    List Target → Scheduler K id → Scheduler K id × Bool
  | [], s => (s, false)
  | target :: rest, s =>
    let stepped := s.call behaves target .step
    match (s.reaction behaves target .step).answer with
    | .throws => (stepped.fail target, true)
    | .null => stepEach behaves isSnapshotTick rest (stepped.remove (id target))
    | .frame =>
      if isSnapshotTick then
        let published := stepped.call behaves target .publish
        if (stepped.reaction behaves target .publish).answer = .throws then (published, true)
        else stepEach behaves isSnapshotTick rest published
      else stepEach behaves isSnapshotTick rest stepped

def ticked (s : Scheduler K id) : Scheduler K id := { s with tickCounter := s.tickCounter + 1 }

def isSnapshotTick (s : Scheduler K id) : Bool := s.tickCounter % Network.snapshotIntervalTicks = 0

def stepAll (behaves : Behaviour Target) (s : Scheduler K id) : Scheduler K id × Bool :=
  stepEach behaves s.ticked.isSnapshotTick s.targets.entries s.ticked

variable [JsNumber K]

def due (s : Scheduler K id) : Bool :=
  JsNumber.ofRat Network.simulationStepMs ≤ s.accumulatorMs + JsNumber.ofRat EPSILON_MS

def spend (s : Scheduler K id) : Scheduler K id :=
  { s with accumulatorMs := s.accumulatorMs - JsNumber.ofRat Network.simulationStepMs }

def drop (s : Scheduler K id) : Scheduler K id :=
  { s with droppedMs := s.droppedMs + s.accumulatorMs, accumulatorMs := 0 }

/-- The loop of `advance`, with so many steps left before it drops what is still due. -/
def catchUp (behaves : Behaviour Target) : Nat → Scheduler K id → Scheduler K id × Bool
  | 0, s => (if s.due then s.drop else s, false)
  | steps + 1, s =>
    if s.due then
      match s.spend.stepAll behaves with
      | (s, true) => (s, true)
      | (s, false) => catchUp behaves steps s
    else (s, false)

/-- The clock is read on the way in and on the way out. -/
def advance (behaves : Behaviour Target) (s : Scheduler K id) (now later : K) (caught : Bool) :
    Scheduler K id :=
  match s.lastNowMs with
  | none => { s with lastNowMs := some now }
  | some last =>
    match catchUp behaves MAX_CATCHUP_STEPS
        { s with lastNowMs := some now, accumulatorMs := s.accumulatorMs + (now - last) } with
    | (s, false) => { s with loopLagMs := later - now }
    | (s, true) => { s with alive := s.alive && caught }

def apply (behaves : Behaviour Target) (s : Scheduler K id) (event : Event K Target) :
    Scheduler K id :=
  if s.alive then
    match event with
    | .start now => if s.timer then s else { s with timer := true, lastNowMs := some now }
    | .stop =>
      if s.timer then { s with timer := false, lastNowMs := none, accumulatorMs := 0 } else s
    | .advance now later caught => s.advance behaves now later caught
    | .add target => s.add target
    | .remove key => s.remove key
  else s

def initial : Scheduler K id where
  targets := .empty
  accumulatorMs := 0
  lastNowMs := none
  tickCounter := 0
  timer := false
  loopLagMs := 0
  droppedMs := 0
  calls := []
  failed := []
  alive := true

end Scheduler

/-- The target that throws returns instead, `null` from `step`. -/
def returning (behaves : Behaviour Target) : Behaviour Target := fun target before call =>
  let reaction := behaves target before call
  match reaction.answer, call with
  | .throws, .step => { reaction with answer := .null }
  | .throws, .publish => { reaction with answer := .frame }
  | _, _ => reaction

end SwitchRemake.Scheduling

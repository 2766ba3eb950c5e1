import SwitchRemake.Config
import SwitchRemake.Lib.JsNumber
import Mathlib.Data.List.Sort

/-!
# How many game servers to run

The supervisor's rule over the heartbeats it has read, in exact arithmetic. The texts it logs are
left out; what they tell apart is kept as a reason.
-/

namespace SwitchRemake.Supervisor

structure ScalingPolicy where
  minServers : ℚ
  maxServers : ℚ
  scaleUpLoad : ℚ
  scaleDownLoad : ℚ
  cooldownMs : ℚ
deriving DecidableEq

def DEFAULT_POLICY : ScalingPolicy where
  minServers := 1
  maxServers := 4
  scaleUpLoad := 6
  scaleDownLoad := 3 / 2
  cooldownMs := 30000

/-- What the rule reads of a heartbeat. -/
structure GameServerHeartbeat where
  serverId : String
  waitingRooms : Nat
  playingRooms : Nat
  connections : Nat
  loopLagMs : ℚ
  draining : Bool
deriving DecidableEq

inductive Reason where
  | belowMinimum
  | cooldown
  | starting
  | averageLoad
  | alreadyDraining
  | processLimit
deriving DecidableEq

inductive ScalingAction where
  | hold (reason : Reason)
  | up (reason : Reason)
  | down (serverId : String) (reason : Reason)
deriving DecidableEq

structure ScalingInput where
  servers : List GameServerHeartbeat
  starting : Nat
  now : Nat
  lastActionAt : Option Nat
  policy : ScalingPolicy

def serverLoad (server : GameServerHeartbeat) : ℚ :=
  server.waitingRooms + server.playingRooms + server.connections / 8 + server.loopLagMs / 1000

namespace ScalingInput

def active (input : ScalingInput) : List GameServerHeartbeat :=
  input.servers.filter fun server => !server.draining

def draining (input : ScalingInput) : Nat := input.servers.length - input.active.length

def capacity (input : ScalingInput) : Nat := input.active.length + input.starting

def totalLoad (input : ScalingInput) : ℚ := (input.active.map serverLoad).sum

def averageLoad (input : ScalingInput) : ℚ := input.totalLoad / input.active.length

def Cooling (input : ScalingInput) : Prop :=
  ∃ last ∈ input.lastActionAt, (input.now : ℚ) - last < input.policy.cooldownMs

instance (input : ScalingInput) : Decidable input.Cooling :=
  inferInstanceAs (Decidable (∃ last ∈ input.lastActionAt, _))

/-- Nothing in the input keeps a server from being drained. -/
structure CallsForDrain (input : ScalingInput) : Prop where
  warm : ¬ input.Cooling
  settled : input.starting = 0
  nobody : input.draining = 0
  some_active : input.active ≠ []
  idle : input.averageLoad < input.policy.scaleDownLoad
  spare : input.policy.minServers < input.active.length

end ScalingInput

instance (input : ScalingInput) : Decidable input.CallsForDrain :=
  decidable_of_iff (¬ input.Cooling ∧ input.starting = 0 ∧ input.draining = 0 ∧ input.active ≠ [] ∧
      input.averageLoad < input.policy.scaleDownLoad ∧
      input.policy.minServers < input.active.length)
    ⟨fun ⟨a, b, c, d, e, g⟩ => ⟨a, b, c, d, e, g⟩, fun ⟨a, b, c, d, e, g⟩ => ⟨a, b, c, d, e, g⟩⟩

/-- The order of `sort`; `localeCompare` compares the ids. -/
def quieter (localeCompare : String → String → Ordering) (a b : GameServerHeartbeat) : Bool :=
  decide (serverLoad a < serverLoad b) ||
    (decide (serverLoad a = serverLoad b) && localeCompare a.serverId b.serverId != .gt)

/-- Without an active server the average load is infinite. -/
def decideScaling (localeCompare : String → String → Ordering) (input : ScalingInput) :
    ScalingAction :=
  let policy := input.policy
  if (input.capacity : ℚ) < policy.minServers then .up .belowMinimum
  else if input.Cooling then .hold .cooldown
  else if 0 < input.starting then .hold .starting
  else if (input.active = [] ∨ policy.scaleUpLoad < input.averageLoad) ∧
      (input.capacity : ℚ) < policy.maxServers then .up .averageLoad
  else if 0 < input.draining then .hold .alreadyDraining
  else if (input.active ≠ [] ∧ input.averageLoad < policy.scaleDownLoad) ∧
      policy.minServers < input.active.length then
    match (input.active.insertionSort fun a b => quieter localeCompare a b).head? with
    | some quietest => .down quietest.serverId .averageLoad
    | none => .hold .averageLoad
  else .hold .averageLoad

/-- The map of children has starting and draining ones until they exit. -/
def decideLocalScaling (localeCompare : String → String → Ordering) (input : ScalingInput)
    (liveChildren : Nat) : ScalingAction :=
  match decideScaling localeCompare input with
  | .up reason =>
    if input.policy.maxServers ≤ liveChildren then .hold .processLimit else .up reason
  | action => action

/-! ## The policy of the environment -/

/-- What `Number` makes of a variable: nothing is there, a finite number, or neither. -/
inductive EnvNumber where
  | blank
  | finite (value : ℚ)
  | other
deriving DecidableEq

def EnvNumber.read (fallback : ℚ) : EnvNumber → Option ℚ
  | .blank => some fallback
  | .finite value => some value
  | .other => none

def isSafeInteger (q : ℚ) : Bool := q.den == 1 && decide (|q| ≤ 2 ^ 53 - 1)

/-- What `readScalingPolicy` checks. -/
def ScalingPolicy.Valid (policy : ScalingPolicy) : Prop :=
  (isSafeInteger policy.minServers ∧ 1 ≤ policy.minServers) ∧
  (isSafeInteger policy.maxServers ∧ policy.minServers ≤ policy.maxServers ∧
    policy.maxServers ≤ 64) ∧
  (0 ≤ policy.scaleDownLoad ∧ policy.scaleDownLoad < policy.scaleUpLoad) ∧
  isSafeInteger policy.cooldownMs ∧ 1000 ≤ policy.cooldownMs ∧ policy.cooldownMs ≤ 3600000

instance (policy : ScalingPolicy) : Decidable policy.Valid := by
  unfold ScalingPolicy.Valid
  infer_instance

def readScalingPolicy (values : String → EnvNumber) : Option ScalingPolicy := do
  let minServers ← (values "SUPERVISOR_MIN_SERVERS").read DEFAULT_POLICY.minServers
  let maxServers ← (values "SUPERVISOR_MAX_SERVERS").read DEFAULT_POLICY.maxServers
  let scaleUpLoad ← (values "SUPERVISOR_SCALE_UP_LOAD").read DEFAULT_POLICY.scaleUpLoad
  let scaleDownLoad ← (values "SUPERVISOR_SCALE_DOWN_LOAD").read DEFAULT_POLICY.scaleDownLoad
  let cooldownMs ← (values "SUPERVISOR_COOLDOWN_MS").read DEFAULT_POLICY.cooldownMs
  let policy : ScalingPolicy := ⟨minServers, maxServers, scaleUpLoad, scaleDownLoad, cooldownMs⟩
  if policy.Valid then some policy else none

theorem readScalingPolicy_valid {values : String → EnvNumber} {policy : ScalingPolicy}
    (accepted : readScalingPolicy values = some policy) : policy.Valid := by
  simp only [readScalingPolicy, Option.bind_eq_bind, Option.bind_eq_some_iff] at accepted
  obtain ⟨_, _, _, _, _, _, _, _, _, _, checked⟩ := accepted
  split at checked
  · rename_i valid
    cases checked
    exact valid
  · cases checked

theorem default_valid : DEFAULT_POLICY.Valid := by decide +kernel

/-! ## What a decision says about what was read -/

section
variable {localeCompare : String → String → Ordering} {input : ScalingInput} {liveChildren : Nat}
  {reason : Reason} {serverId : String}

theorem up_room (ups : decideLocalScaling localeCompare input liveChildren = .up reason) :
    (liveChildren : ℚ) < input.policy.maxServers := by
  unfold decideLocalScaling at ups
  split at ups
  · split at ups
    · cases ups
    · rename_i room
      exact not_le.mp room
  · rename_i other
    exact absurd ups (other reason)

theorem decideScaling_of_up (ups : decideLocalScaling localeCompare input liveChildren = .up reason) :
    decideScaling localeCompare input = .up reason := by
  unfold decideLocalScaling at ups
  split at ups
  · rename_i decided
    split at ups
    · cases ups
    · rw [decided, ← ups]
  · exact ups

theorem decideScaling_of_down
    (downs : decideLocalScaling localeCompare input liveChildren = .down serverId reason) :
    decideScaling localeCompare input = .down serverId reason := by
  unfold decideLocalScaling at downs
  split at downs
  · split at downs <;> cases downs
  · exact downs

theorem up_cases (ups : decideScaling localeCompare input = .up reason) :
    (reason = .belowMinimum ∧ (input.capacity : ℚ) < input.policy.minServers) ∨
    (reason = .averageLoad ∧ input.policy.minServers ≤ input.capacity ∧ input.starting = 0 ∧
      (input.active = [] ∨ input.policy.scaleUpLoad < input.averageLoad) ∧
      (input.capacity : ℚ) < input.policy.maxServers) := by
  unfold decideScaling at ups
  simp only at ups
  split at ups
  · rename_i below
    cases ups
    exact .inl ⟨rfl, below⟩
  · rename_i enough
    split at ups
    · cases ups
    · split at ups
      · cases ups
      · rename_i started
        split at ups
        · rename_i loaded
          cases ups
          exact .inr ⟨rfl, not_lt.mp enough, Nat.eq_zero_of_not_pos started, loaded.1, loaded.2⟩
        · split at ups
          · cases ups
          · split at ups
            · split at ups <;> cases ups
            · cases ups

theorem down_cases (downs : decideScaling localeCompare input = .down serverId reason) :
    input.CallsForDrain ∧ ∃ server ∈ input.active, server.serverId = serverId := by
  unfold decideScaling at downs
  simp only at downs
  split at downs
  · cases downs
  · split at downs
    · cases downs
    · rename_i warm
      split at downs
      · cases downs
      · rename_i started
        split at downs
        · cases downs
        · split at downs
          · cases downs
          · rename_i none_draining
            split at downs
            · rename_i idle
              split at downs
              · rename_i quietest found
                cases downs
                have calls : input.CallsForDrain :=
                  ⟨warm, Nat.eq_zero_of_not_pos started, Nat.eq_zero_of_not_pos none_draining,
                    idle.1.1, idle.1.2, idle.2⟩
                exact ⟨calls, quietest, (List.mem_insertionSort _).mp (List.mem_of_head? found), rfl⟩
              · cases downs
            · cases downs

end

end SwitchRemake.Supervisor

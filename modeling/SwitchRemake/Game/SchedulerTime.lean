import SwitchRemake.Game.Scheduler
import Mathlib.Tactic.Linarith

/-!
# The time of the scheduler

Exact arithmetic, and targets that do not throw: what an advance does with the time between two
readings of the clock, and which calls its steps make.
-/

namespace SwitchRemake.Scheduling
open Lib

variable {K Target : Type} [DecidableEq Target] {id : Target → String} {behaves : Behaviour Target}

def Calm (behaves : Behaviour Target) : Prop :=
  ∀ target before call, (behaves target before call).answer ≠ .throws

namespace Scheduler
variable {s s' s'' : Scheduler K id} {target : Target}

/-- A step changes the targets and the calls, and nothing else. -/
structure SameClock (s s' : Scheduler K id) : Prop where
  accumulatorMs : s'.accumulatorMs = s.accumulatorMs
  lastNowMs : s'.lastNowMs = s.lastNowMs
  tickCounter : s'.tickCounter = s.tickCounter
  timer : s'.timer = s.timer
  droppedMs : s'.droppedMs = s.droppedMs
  alive : s'.alive = s.alive

namespace SameClock
omit [DecidableEq Target]

theorem refl (s : Scheduler K id) : SameClock s s := ⟨rfl, rfl, rfl, rfl, rfl, rfl⟩

theorem trans (first : SameClock s s') (second : SameClock s' s'') : SameClock s s'' where
  accumulatorMs := second.accumulatorMs.trans first.accumulatorMs
  lastNowMs := second.lastNowMs.trans first.lastNowMs
  tickCounter := second.tickCounter.trans first.tickCounter
  timer := second.timer.trans first.timer
  droppedMs := second.droppedMs.trans first.droppedMs
  alive := second.alive.trans first.alive

theorem register (s : Scheduler K id) (op : RegistryOp Target) : SameClock s (s.register op) := by
  cases op <;> exact ⟨rfl, rfl, rfl, rfl, rfl, rfl⟩

theorem ops (ops : List (RegistryOp Target)) (s : Scheduler K id) :
    SameClock s (ops.foldl Scheduler.register s) := by
  induction ops generalizing s with
  | nil => exact refl s
  | cons op rest ih => exact (register s op).trans (ih _)

end SameClock

theorem call_clock (behaves : Behaviour Target) (s : Scheduler K id) (target : Target) (c : Call) :
    SameClock s (s.call behaves target c) := by
  have logged : SameClock s { s with calls := s.calls ++ [(target, c)] } :=
    ⟨rfl, rfl, rfl, rfl, rfl, rfl⟩
  exact logged.trans (SameClock.ops _ _)

omit [DecidableEq Target] in
theorem ops_calls (ops : List (RegistryOp Target)) (s : Scheduler K id) :
    (ops.foldl register s).calls = s.calls := by
  induction ops generalizing s with
  | nil => rfl
  | cons op rest ih =>
    rw [List.foldl_cons, ih]
    cases op <;> rfl

theorem call_calls (behaves : Behaviour Target) (s : Scheduler K id) (target : Target) (c : Call) :
    (s.call behaves target c).calls = s.calls ++ [(target, c)] :=
  ops_calls _ _

/-! ## The calls of a step -/

/-- The calls one target gets in a step that begins at `s`. -/
def turn (behaves : Behaviour Target) (isSnapshotTick : Bool) (s : Scheduler K id)
    (target : Target) : List (Target × Call) :=
  (target, .step) ::
    if isSnapshotTick = true ∧ (s.reaction behaves target .step).answer = .frame then
      [(target, .publish)] else []

def stepCalls (behaves : Behaviour Target) (s : Scheduler K id) : List (Target × Call) :=
  s.targets.entries.flatMap (s.turn behaves s.ticked.isSnapshotTick)

theorem received_other {more : List (Target × Call)} (calls : s'.calls = s.calls ++ more)
    (others : ∀ call ∈ more, call.1 ≠ target) : s'.received target = s.received target := by
  have none_ : more.filter (fun call => call.1 = target) = [] := by
    rw [List.filter_eq_nil_iff]
    simpa using others
  rw [received, received, calls, List.filter_append, none_, List.append_nil]

theorem turn_of_received {snapshot : Bool} (same : s'.received target = s.received target) :
    s'.turn behaves snapshot target = s.turn behaves snapshot target := by
  rw [turn, turn, reaction, reaction, same]

theorem mem_turn {snapshot : Bool} {call : Target × Call} (mem : call ∈ s.turn behaves snapshot target) :
    call.1 = target := by
  rcases List.mem_cons.mp mem with rfl | more
  · rfl
  · split at more
    · rw [List.mem_singleton.mp more]
    · cases more

theorem stepEach_calls (calm : Calm behaves) (snapshot : Bool) {ts : List Target} (nodup : ts.Nodup)
    (s : Scheduler K id) : ∃ s', stepEach behaves snapshot ts s = (s', false) ∧ SameClock s s' ∧
      s'.calls = s.calls ++ ts.flatMap (s.turn behaves snapshot) := by
  induction ts generalizing s with
  | nil => exact ⟨s, rfl, .refl s, by simp⟩
  | cons t rest ih =>
    obtain ⟨fresh, nodup⟩ := List.nodup_cons.mp nodup
    -- What follows the calls of `t` finds the other targets as they were.
    have follows {mid : Scheduler K id} (clock : SameClock s mid)
        (calls : mid.calls = s.calls ++ s.turn behaves snapshot t) :
        ∃ s', stepEach behaves snapshot rest mid = (s', false) ∧ SameClock s s' ∧
          s'.calls = s.calls ++ (t :: rest).flatMap (s.turn behaves snapshot) := by
      obtain ⟨s', steps, same, after⟩ := ih nodup mid
      refine ⟨s', steps, clock.trans same, ?_⟩
      have others : ∀ u ∈ rest, mid.turn behaves snapshot u = s.turn behaves snapshot u := by
        intro u mem
        refine turn_of_received (received_other calls fun call mem' same' => ?_)
        exact fresh (mem_turn mem' ▸ same' ▸ mem)
      rw [after, calls, List.flatMap_cons, List.append_assoc, List.flatMap_congr others]
    have stepped := call_clock behaves s t .step
    cases answers : (s.reaction behaves t .step).answer with
    | throws => exact absurd answers (calm _ _ _)
    | null =>
      simp only [stepEach, answers]
      refine follows (stepped.trans (.register _ (.remove (id t)))) ?_
      rw [turn, answers, if_neg (by simp)]
      exact call_calls behaves s t .step
    | frame =>
      simp only [stepEach, answers]
      cases snapshot with
      | false =>
        refine follows stepped ?_
        rw [turn, answers, if_neg (by simp)]
        exact call_calls behaves s t .step
      | true =>
        have quiet : (reaction behaves (call behaves s t .step) t .publish).answer ≠ .throws := calm _ _ _
        rw [if_pos rfl, if_neg quiet]
        refine follows (stepped.trans (call_clock behaves _ t .publish)) ?_
        rw [call_calls, call_calls, turn, answers, if_pos ⟨rfl, rfl⟩, List.append_assoc]
        rfl

theorem stepAll_calls (calm : Calm behaves) (s : Scheduler K id) :
    ∃ s', s.stepAll behaves = (s', false) ∧ SameClock s.ticked s' ∧
      s'.calls = s.calls ++ s.stepCalls behaves :=
  stepEach_calls calm s.ticked.isSnapshotTick (List.Nodup.of_map _ s.targets.distinct) s.ticked

theorem mem_stepCalls {call : Target × Call} : call ∈ s.stepCalls behaves ↔
    call.1 ∈ s.targets.entries ∧ (call.2 = .step ∨ call.2 = .publish ∧
      s.ticked.isSnapshotTick = true ∧ (s.reaction behaves call.1 .step).answer = .frame) := by
  obtain ⟨t, c⟩ := call
  simp only [stepCalls, turn, List.mem_flatMap, List.mem_cons, Prod.mk.injEq]
  constructor
  · rintro ⟨u, mem, ⟨rfl, rfl⟩ | more⟩
    · exact ⟨mem, .inl rfl⟩
    · split at more
      · rename_i frames
        obtain ⟨rfl, rfl⟩ : t = u ∧ c = .publish := by simpa using more
        exact ⟨mem, .inr ⟨rfl, frames⟩⟩
      · cases more
  · rintro ⟨mem, rfl | ⟨rfl, frames⟩⟩
    · exact ⟨t, mem, .inl ⟨rfl, rfl⟩⟩
    · exact ⟨t, mem, .inr (by rw [if_pos frames]; exact List.mem_singleton.mpr rfl)⟩

theorem stepCalls_nodup : (s.stepCalls behaves).Nodup := by
  rw [stepCalls, List.nodup_flatMap]
  refine ⟨fun t _ => ?_, (List.Nodup.of_map _ s.targets.distinct).imp fun {t u} apart => ?_⟩
  · rw [turn]
    split <;> simp
  · intro call first second
    exact apart ((mem_turn first).symm.trans (mem_turn second))

/-! ## The loop of an advance -/

variable [JsNumber K]

/-- The states in which the steps of the loop begin. -/
def begins (behaves : Behaviour Target) : Nat → Scheduler K id → List (Scheduler K id)
  | 0, _ => []
  | steps + 1, s =>
    if s.due then s.spend :: begins behaves steps (s.spend.stepAll behaves).1 else []

/-- What the loop does with `steps` steps left, in exact arithmetic. -/
structure CaughtUp (behaves : Behaviour Target) (steps : Nat) (s s' : Scheduler ℝ id) : Prop where
  timer : s'.timer = s.timer
  lastNowMs : s'.lastNowMs = s.lastNowMs
  alive : s'.alive = s.alive
  few : (s.begins behaves steps).length ≤ steps
  calls : s'.calls = s.calls ++ (s.begins behaves steps).flatMap (stepCalls behaves)
  ticks : s'.tickCounter = s.tickCounter + (s.begins behaves steps).length
  time : s.accumulatorMs = (s.begins behaves steps).length * (Network.simulationStepMs : ℝ) +
    (s'.droppedMs - s.droppedMs) + s'.accumulatorMs
  below : s'.accumulatorMs < Network.simulationStepMs
  above : -(EPSILON_MS : ℝ) ≤ s.accumulatorMs → -(EPSILON_MS : ℝ) ≤ s'.accumulatorMs
  drops : s'.droppedMs = s.droppedMs ∨ (s.begins behaves steps).length = steps ∧
    (Network.simulationStepMs : ℝ) ≤ (s'.droppedMs - s.droppedMs) + EPSILON_MS
  numbered : ∀ i (inside : i < (s.begins behaves steps).length),
    ((s.begins behaves steps).get ⟨i, inside⟩).tickCounter = s.tickCounter + i

theorem epsilon_pos : (0 : ℝ) < EPSILON_MS := by norm_num [EPSILON_MS]

theorem epsilon_lt : (EPSILON_MS : ℝ) < Network.simulationStepMs := by
  norm_num [EPSILON_MS, Network.simulationStepMs, Network.simulationHz]

omit [DecidableEq Target] in
theorem due_iff {s : Scheduler ℝ id} :
    s.due = true ↔ (Network.simulationStepMs : ℝ) ≤ s.accumulatorMs + EPSILON_MS := by
  rw [due, decide_eq_true_iff]
  rfl

theorem catchUp_laws (calm : Calm behaves) (steps : Nat) (s : Scheduler ℝ id) :
    ∃ s', s.catchUp behaves steps = (s', false) ∧ CaughtUp behaves steps s s' := by
  have small := epsilon_lt
  have positive := epsilon_pos
  induction steps generalizing s with
  | zero =>
    refine ⟨if s.due then s.drop else s, rfl, ?_⟩
    by_cases more : s.due = true
    · rw [if_pos more]
      have owed := due_iff.mp more
      exact {
        timer := rfl
        lastNowMs := rfl
        alive := rfl
        few := le_rfl
        calls := by simp [drop, begins]
        ticks := rfl
        time := by simp [drop, begins]
        below := positive.trans small
        above := fun _ => neg_nonpos.mpr positive.le
        drops := .inr ⟨rfl, by simpa [drop] using owed⟩
        numbered := by simp [begins] }
    · rw [if_neg more]
      have rests := not_le.mp (mt due_iff.mpr more)
      exact {
        timer := rfl
        lastNowMs := rfl
        alive := rfl
        few := le_rfl
        calls := by simp [begins]
        ticks := rfl
        time := by simp [begins]
        below := by linarith
        above := fun low => low
        drops := .inl rfl
        numbered := by simp [begins] }
  | succ steps ih =>
    by_cases more : s.due = true
    · have owed := due_iff.mp more
      obtain ⟨stepped, step, clock, called⟩ := stepAll_calls calm s.spend
      obtain ⟨s', loops, laws⟩ := ih stepped
      have begin_ : s.begins behaves (steps + 1) = s.spend :: stepped.begins behaves steps := by
        rw [begins, if_pos more, step]
      have left : stepped.accumulatorMs = s.accumulatorMs - Network.simulationStepMs :=
        clock.accumulatorMs
      have dropped : stepped.droppedMs = s.droppedMs := clock.droppedMs
      have ticked : stepped.tickCounter = s.tickCounter + 1 := clock.tickCounter
      refine ⟨s', ?_, ?_⟩
      · rw [catchUp, if_pos more, step]
        exact loops
      · exact {
          timer := laws.timer.trans clock.timer
          lastNowMs := laws.lastNowMs.trans clock.lastNowMs
          alive := laws.alive.trans clock.alive
          few := by
            rw [begin_]
            exact Nat.succ_le_succ laws.few
          calls := by
            rw [begin_, laws.calls, called, List.flatMap_cons, List.append_assoc]
            rfl
          ticks := by
            rw [begin_, laws.ticks, ticked, List.length_cons]
            omega
          time := by
            have rest := laws.time
            rw [left, dropped] at rest
            rw [begin_, List.length_cons]
            push_cast
            linarith
          below := laws.below
          above := fun _ => laws.above (by rw [left]; linarith)
          drops := by
            rcases laws.drops with none_ | ⟨all, owes⟩
            · exact .inl (none_.trans dropped)
            · refine .inr ⟨?_, dropped ▸ owes⟩
              rw [begin_, List.length_cons, all]
          numbered := by
            rw [begin_]
            rintro (_ | i) inside
            · rfl
            · have later := laws.numbered i (Nat.lt_of_succ_lt_succ inside)
              rw [ticked] at later
              rw [List.get_cons_succ, later]
              omega }
    · have rests := not_le.mp (mt due_iff.mpr more)
      have none_ : s.begins behaves (steps + 1) = [] := by rw [begins, if_neg more]
      refine ⟨s, by rw [catchUp, if_neg more], ?_⟩
      exact {
        timer := rfl
        lastNowMs := rfl
        alive := rfl
        few := by simp [none_]
        calls := by simp [none_]
        ticks := by simp [none_]
        time := by simp [none_]
        below := by linarith
        above := fun low => low
        drops := .inl rfl
        numbered := by simp [none_] }

/-! ## Runs of a started scheduler -/

/-- The states in which the steps of an advance at `now` begin. -/
noncomputable def steps (behaves : Behaviour Target) (s : Scheduler ℝ id) (now : ℝ) : List (Scheduler ℝ id) :=
  match s.lastNowMs with
  | none => []
  | some last => begins behaves MAX_CATCHUP_STEPS
      { s with lastNowMs := some now, accumulatorMs := s.accumulatorMs + (now - last) }

structure AdvanceLaws (behaves : Behaviour Target) (s : Scheduler ℝ id) (now : ℝ)
    (s' : Scheduler ℝ id) : Prop where
  above : -(EPSILON_MS : ℝ) ≤ s'.accumulatorMs
  below : s'.accumulatorMs < Network.simulationStepMs
  few : (s.steps behaves now).length ≤ MAX_CATCHUP_STEPS
  ticks : s'.tickCounter = s.tickCounter + (s.steps behaves now).length
  drops : s'.droppedMs = s.droppedMs ∨ (s.steps behaves now).length = MAX_CATCHUP_STEPS ∧
    (Network.simulationStepMs : ℝ) ≤ (s'.droppedMs - s.droppedMs) + EPSILON_MS
  calls : s'.calls = s.calls ++ (s.steps behaves now).flatMap (stepCalls behaves)
  /-- A target that is there when each step begins is stepped once by each. -/
  stepped : ∀ target, (∀ begun ∈ s.steps behaves now, target ∈ begun.targets.entries) →
    ((s.steps behaves now).flatMap (stepCalls behaves)).count (target, .step) =
      (s.steps behaves now).length
  /-- The frame of a step is published if the counter then is a multiple of the interval. -/
  published : ∀ i (inside : i < (s.steps behaves now).length),
    ∀ target ∈ ((s.steps behaves now).get ⟨i, inside⟩).targets.entries,
      (((s.steps behaves now).get ⟨i, inside⟩).stepCalls behaves).count (target, .publish) =
        if (s.tickCounter + i + 1) % Network.snapshotIntervalTicks = 0 ∧
          (((s.steps behaves now).get ⟨i, inside⟩).reaction behaves target .step).answer = .frame
        then 1 else 0

/-- The time since `startedAt`, when the scheduler was `s`: stepped, dropped or still to come. -/
structure Accounted (s : Scheduler ℝ id) (startedAt : ℝ) (s' : Scheduler ℝ id) : Prop where
  alive : s'.alive = true
  timer : s'.timer = true
  later : s.tickCounter ≤ s'.tickCounter
  above : -(EPSILON_MS : ℝ) ≤ s'.accumulatorMs
  time : ∃ now, s'.lastNowMs = some now ∧
    now - startedAt = (s'.tickCounter - s.tickCounter : Nat) * (Network.simulationStepMs : ℝ) +
      (s'.droppedMs - s.droppedMs) + s'.accumulatorMs

/-- `advance` is the callback of the interval timer. -/
def Timed (s : Scheduler ℝ id) : Event ℝ Target → Prop
  | .advance .. => s.timer = true
  | _ => True

/-- What happens from a start to the next stop, under a clock that does not go back. -/
def Running (s : Scheduler ℝ id) : Event ℝ Target → Prop
  | .advance now _ _ => ∀ last ∈ s.lastNowMs, last ≤ now
  | .stop => False
  | _ => True

theorem stepped_once {begun : List (Scheduler ℝ id)}
    (there : ∀ s ∈ begun, target ∈ s.targets.entries) :
    (begun.flatMap (stepCalls behaves)).count (target, .step) = begun.length := by
  induction begun with
  | nil => rfl
  | cons s rest ih =>
    have here : (s.stepCalls behaves).count (target, .step) = 1 :=
      List.count_eq_one_of_mem stepCalls_nodup
        (mem_stepCalls.mpr ⟨there s List.mem_cons_self, .inl rfl⟩)
    rw [List.flatMap_cons, List.count_append, here,
      ih fun s mem => there s (List.mem_cons_of_mem _ mem), List.length_cons, Nat.add_comm]

theorem published_once {s : Scheduler ℝ id} (there : target ∈ s.targets.entries) :
    (s.stepCalls behaves).count (target, .publish) =
      if (s.tickCounter + 1) % Network.snapshotIntervalTicks = 0 ∧
        (s.reaction behaves target .step).answer = .frame then 1 else 0 := by
  have snapshot : s.ticked.isSnapshotTick = true ↔
      (s.tickCounter + 1) % Network.snapshotIntervalTicks = 0 := by
    rw [isSnapshotTick]
    exact decide_eq_true_iff
  split
  · rename_i publishes
    refine List.count_eq_one_of_mem stepCalls_nodup (mem_stepCalls.mpr ⟨there, .inr ⟨rfl, ?_⟩⟩)
    exact ⟨snapshot.mpr publishes.1, publishes.2⟩
  · rename_i silent
    refine List.count_eq_zero_of_not_mem fun mem => ?_
    rcases (mem_stepCalls.mp mem).2 with step | ⟨_, tick, frame⟩
    · cases step
    · exact silent ⟨snapshot.mp tick, frame⟩

theorem advance_laws (calm : Calm behaves) {s : Scheduler ℝ id} {last now : ℝ} (later : ℝ)
    (caught : Bool) (alive : s.alive = true) (clock : s.lastNowMs = some last) (passes : last ≤ now)
    (above : -(EPSILON_MS : ℝ) ≤ s.accumulatorMs) :
    let s' := s.apply behaves (.advance now later caught)
    AdvanceLaws behaves s now s' ∧ s'.alive = true ∧ s'.timer = s.timer ∧
      s'.lastNowMs = some now ∧
      s.accumulatorMs + (now - last) = (s.steps behaves now).length * (Network.simulationStepMs : ℝ) +
        (s'.droppedMs - s.droppedMs) + s'.accumulatorMs := by
  obtain ⟨after, loops, laws⟩ := catchUp_laws calm MAX_CATCHUP_STEPS
    { s with lastNowMs := some now, accumulatorMs := s.accumulatorMs + (now - last) }
  have result : s.apply behaves (.advance now later caught) = { after with loopLagMs := later - now } := by
    rw [apply, if_pos alive]
    simp only [advance, clock, loops]
  have taken : s.steps behaves now = begins behaves MAX_CATCHUP_STEPS
      { s with lastNowMs := some now, accumulatorMs := s.accumulatorMs + (now - last) } := by
    simp only [steps, clock]
  simp only [result]
  rw [taken]
  refine ⟨?_, laws.alive.trans alive, laws.timer, laws.lastNowMs, laws.time⟩
  exact {
    above := laws.above (by dsimp only; linarith)
    below := laws.below
    few := taken ▸ laws.few
    ticks := taken ▸ laws.ticks
    drops := taken ▸ laws.drops
    calls := taken ▸ laws.calls
    stepped := fun _ there => stepped_once there
    published := by
      rw [taken]
      intro i inside target there
      rw [published_once there, laws.numbered i inside] }

theorem Accounted.apply (calm : Calm behaves) {s s' : Scheduler ℝ id} {startedAt : ℝ}
    (accounted : Accounted s startedAt s') {event : Event ℝ Target} (running : s'.Running event) :
    Accounted s startedAt (s'.apply behaves event) := by
  obtain ⟨last, clock, time⟩ := accounted.time
  cases event with
  | start now =>
    rw [Scheduler.apply, if_pos accounted.alive]
    simpa only [accounted.timer, if_true] using accounted
  | stop => exact running.elim
  | add target =>
    rw [Scheduler.apply, if_pos accounted.alive]
    exact ⟨accounted.alive, accounted.timer, accounted.later, accounted.above, accounted.time⟩
  | remove key =>
    rw [Scheduler.apply, if_pos accounted.alive]
    exact ⟨accounted.alive, accounted.timer, accounted.later, accounted.above, accounted.time⟩
  | advance now later caught =>
    obtain ⟨laws, alive, timer, clock', spent⟩ := advance_laws calm later caught accounted.alive
      clock (running last clock) accounted.above
    have ticks := laws.ticks
    refine ⟨alive, timer.trans accounted.timer, ?_, laws.above, now, clock', ?_⟩
    · have before := accounted.later
      omega
    · have more : ((s'.apply behaves (.advance now later caught)).tickCounter - s.tickCounter : Nat) =
          (s'.tickCounter - s.tickCounter) + (s'.steps behaves now).length := by
        have before := accounted.later
        omega
      rw [more]
      push_cast
      linarith

/-- A scheduler that is not started has nothing in its accumulator. -/
structure Rests (s : Scheduler ℝ id) : Prop where
  alive : s.alive = true
  empty : s.timer = false → s.accumulatorMs = 0

theorem Rests.apply (calm : Calm behaves) {s : Scheduler ℝ id} (rests : s.Rests)
    {event : Event ℝ Target} (timed : s.Timed event) : (s.apply behaves event).Rests := by
  unfold Scheduler.apply
  rw [if_pos rests.alive]
  cases event with
  | start now =>
    dsimp only
    split
    · exact rests
    · exact ⟨rests.alive, fun off => by cases off⟩
  | stop =>
    dsimp only
    split
    · exact ⟨rests.alive, fun _ => rfl⟩
    · exact rests
  | add target => exact ⟨rests.alive, rests.empty⟩
  | remove key => exact ⟨rests.alive, rests.empty⟩
  | advance now later caught =>
    have timer : s.timer = true := timed
    dsimp only
    cases clock : s.lastNowMs with
    | none =>
      simp only [advance, clock]
      exact ⟨rests.alive, fun off => absurd (timer.symm.trans off) (by decide)⟩
    | some last =>
      obtain ⟨after, loops, laws⟩ := catchUp_laws calm MAX_CATCHUP_STEPS
        { s with lastNowMs := some now, accumulatorMs := s.accumulatorMs + (now - last) }
      simp only [advance, clock, loops]
      refine ⟨laws.alive.trans rests.alive, fun off => ?_⟩
      exact absurd (timer.symm.trans (laws.timer.symm.trans off)) (by decide)

end Scheduler
open Scheduler

/-- From a start to the next stop every millisecond is stepped, dropped or in the accumulator, and
each advance keeps its laws. -/
theorem time_accounted (calm : Calm behaves) {s s' : Scheduler ℝ id}
    (before : Reach Timed (Scheduler.apply behaves) .initial s) (off : s.timer = false)
    (startedAt : ℝ)
    (run : Reach Running (Scheduler.apply behaves) (s.apply behaves (.start startedAt)) s') :
    Accounted s startedAt s' ∧ ∀ now later caught, (∀ last ∈ s'.lastNowMs, last ≤ now) →
      AdvanceLaws behaves s' now (s'.apply behaves (.advance now later caught)) := by
  have rests : s.Rests :=
    before.invariant ⟨rfl, fun _ => rfl⟩ fun _ _ rests timed => rests.apply calm timed
  have started : Accounted s startedAt (s.apply behaves (.start startedAt)) := by
    rw [Scheduler.apply, if_pos rests.alive]
    simp only [off, Bool.false_eq_true, if_false]
    refine ⟨rests.alive, rfl, le_rfl, ?_, startedAt, rfl, ?_⟩
    · rw [rests.empty off]
      exact neg_nonpos.mpr epsilon_pos.le
    · simp [rests.empty off]
  have accounted : Accounted s startedAt s' :=
    run.invariant started fun _ _ accounted running => accounted.apply calm running
  refine ⟨accounted, fun now later caught passes => ?_⟩
  obtain ⟨last, clock, _⟩ := accounted.time
  exact (advance_laws calm later caught accounted.alive clock (passes last clock) accounted.above).1

theorem one_room_accounted :
    let behaves : Behaviour String := fun _ _ _ => ⟨[], .frame⟩
    let started := (initial : Scheduler ℝ fun name : String => name).apply behaves (.start 0)
    let s := started.apply behaves (.add "room")
    Accounted initial 0 s ∧
      AdvanceLaws behaves s 40 (s.apply behaves (.advance 40 41 true)) := by
  intro behaves started s
  have calm : Calm behaves := fun _ _ _ same => by cases same
  have run : Reach Running (Scheduler.apply behaves) started s := .step .refl trivial
  have laws := time_accounted calm (s := initial) .refl rfl 0 run
  refine ⟨laws.1, laws.2 40 41 true fun last clock => ?_⟩
  have same : (0 : ℝ) = last := Option.some.inj clock
  linarith

end SwitchRemake.Scheduling

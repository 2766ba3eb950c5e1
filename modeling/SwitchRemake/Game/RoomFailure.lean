import SwitchRemake.Game.Scheduler

/-!
# A target that throws

The run is compared with the one in which the target returns instead. They agree about the others as
long as nothing that is still to come depends on whether it threw.
-/

namespace SwitchRemake.Scheduling
open Lib

variable {K Target : Type} [DecidableEq Target] {id : Target → String} {behaves : Behaviour Target}

namespace Scheduler

/-- The call keeps clear of the targets that have failed, and a failed one touches nothing. -/
structure Tame (s : Scheduler K id) (target : Target) (reaction : Reaction Target) : Prop where
  idle : target ∈ s.failed → reaction.ops = []
  apart : ∀ t, .add t ∈ reaction.ops → id t ∉ s.failed.map id

section
variable [JsNumber K]

/-- The targets still to be called have failed before, and the tick is the last of its `advance`. -/
structure LastCall (caught : Bool) (rest : List Target) (s : Scheduler K id) : Prop where
  others : ∀ t ∈ rest, t ∈ s.failed
  due : s.due = false
  caught : caught = true

/-- The loop over the targets meets a throw only at a last call. -/
def EachContained (behaves : Behaviour Target) (isSnapshotTick caught : Bool) :
    List Target → Scheduler K id → Prop
  | [], _ => True
  | target :: rest, s =>
    let stepped := s.call behaves target .step
    s.Tame target (s.reaction behaves target .step) ∧
    match (s.reaction behaves target .step).answer with
    | .throws => stepped.LastCall caught rest ∧
      ∀ t ∈ stepped.targets.get? (id target), t = target
    | .null => EachContained behaves isSnapshotTick caught rest (stepped.remove (id target))
    | .frame =>
      if isSnapshotTick then
        let published := stepped.call behaves target .publish
        stepped.Tame target (stepped.reaction behaves target .publish) ∧
        if (stepped.reaction behaves target .publish).answer = .throws then
          published.LastCall caught rest
        else EachContained behaves isSnapshotTick caught rest published
      else EachContained behaves isSnapshotTick caught rest stepped

def CatchUpContained (behaves : Behaviour Target) (caught : Bool) : Nat → Scheduler K id → Prop
  | 0, _ => True
  | steps + 1, s => s.due = true →
    EachContained behaves s.spend.ticked.isSnapshotTick caught s.targets.entries s.spend.ticked ∧
    ((s.spend.stepAll behaves).2 = false →
      CatchUpContained behaves caught steps (s.spend.stepAll behaves).1)

def Contained (behaves : Behaviour Target) (s : Scheduler K id) : Event K Target → Prop
  | .advance now _ caught => ∀ last, s.lastNowMs = some last →
    CatchUpContained behaves caught MAX_CATCHUP_STEPS
      { s with lastNowMs := some now, accumulatorMs := s.accumulatorMs + (now - last) }
  | .add target => id target ∉ s.failed.map id
  | _ => True

end

/-! ## The two runs -/

/-- The other run has no failed targets and is the same for all the rest. -/
structure Matches (behaves : Behaviour Target) (s s' : Scheduler K id) : Prop where
  targets : s'.targets.entries = s.targets.entries.filter fun t => id t ∉ s.failed.map id
  own : ∀ t ∈ s.targets.entries, id t ∈ s.failed.map id → t ∈ s.failed
  received : ∀ t, t ∉ s.failed → s'.received t = s.received t
  threw : ∀ t ∈ s.failed, ∃ before, (behaves t before .step).answer = .throws
  accumulatorMs : s'.accumulatorMs = s.accumulatorMs
  lastNowMs : s'.lastNowMs = s.lastNowMs
  tickCounter : s'.tickCounter = s.tickCounter
  timer : s'.timer = s.timer
  alive : s'.alive = s.alive

end Scheduler

namespace Scheduler
variable {s s' : Scheduler K id} {target : Target}

theorem Matches.register (alike : Matches behaves s s') {op : RegistryOp Target}
    (apart : ∀ t, op = .add t → id t ∉ s.failed.map id) :
    Matches behaves (s.register op) (s'.register op) := by
  cases op with
  | add t =>
    refine { alike with targets := ?_, own := ?_ }
    · exact KeyedList.filter_set (p := fun key => key ∉ s.failed.map id) alike.targets
        (by simpa using apart t rfl)
    · intro x member failed
      rcases KeyedList.mem_set.mp member with rfl | ⟨old, _⟩
      · exact absurd failed (apart x rfl)
      · exact alike.own x old failed
  | remove key =>
    refine { alike with targets := ?_, own := ?_ }
    · show (s'.targets.delete key).entries = (s.targets.delete key).entries.filter _
      simp only [KeyedList.delete, alike.targets, List.filter_filter]
      exact List.filter_congr fun t _ => Bool.and_comm _ _
    · intro x member
      exact alike.own x (KeyedList.mem_delete.mp member).1

theorem Matches.remove (alike : Matches behaves s s') (key : String) :
    Matches behaves (s.remove key) (s'.remove key) := by
  have removed : Matches behaves (s.register (.remove key)) (s'.register (.remove key)) :=
    alike.register fun _ same => by cases same
  exact removed

omit [DecidableEq Target] in
theorem failed_register (s : Scheduler K id) (op : RegistryOp Target) :
    (s.register op).failed = s.failed := by
  cases op <;> rfl

omit [DecidableEq Target] in
theorem failed_ops (ops : List (RegistryOp Target)) (s : Scheduler K id) :
    (ops.foldl register s).failed = s.failed := by
  induction ops generalizing s with
  | nil => rfl
  | cons op rest ih => rw [List.foldl_cons, ih, failed_register]

theorem Matches.ops {ops : List (RegistryOp Target)} (alike : Matches behaves s s')
    (apart : ∀ t, .add t ∈ ops → id t ∉ s.failed.map id) :
    Matches behaves (ops.foldl Scheduler.register s) (ops.foldl Scheduler.register s') := by
  induction ops generalizing s s' with
  | nil => exact alike
  | cons op rest ih =>
    refine ih (alike.register fun t same => apart t ?_) fun t member => ?_
    · rw [same]
      exact List.mem_cons_self
    · rw [failed_register]
      exact apart t (List.mem_cons_of_mem _ member)

/-! ## One call -/

theorem received_append (s : Scheduler K id) (target t : Target) (c : Call) :
    ({ s with calls := s.calls ++ [(target, c)] } : Scheduler K id).received t =
      if target = t then s.received t ++ [c] else s.received t := by
  simp only [received, List.filter_append, List.map_append]
  split <;> rename_i same <;> simp [same]

/-- A target that has not failed is called in both runs. -/
theorem Matches.call (alike : Matches behaves s s') (awake : target ∉ s.failed) {c : Call}
    (tame : s.Tame target (s.reaction behaves target c)) :
    Matches behaves (s.call behaves target c) (s'.call (returning behaves) target c) := by
  have same : (s'.reaction (returning behaves) target c).ops = (s.reaction behaves target c).ops := by
    simp only [reaction, alike.received target awake, returning]
    split <;> rfl
  unfold Scheduler.call
  rw [same]
  refine Matches.ops ?_ tame.apart
  refine { alike with received := ?_ }
  intro t other
  rw [received_append, received_append, alike.received t other]

/-- One that has failed is called in the first run only. -/
theorem Matches.call_failed (alike : Matches behaves s s') (failed : target ∈ s.failed) {c : Call}
    (tame : s.Tame target (s.reaction behaves target c)) :
    Matches behaves (s.call behaves target c) s' := by
  unfold Scheduler.call
  rw [tame.idle failed]
  refine { alike with received := ?_ }
  intro t other
  have differs : target ≠ t := by
    rintro rfl
    exact other failed
  show s'.received t = ({ s with calls := _ } : Scheduler K id).received t
  rw [received_append, alike.received t other, if_neg differs]

theorem failed_call (s : Scheduler K id) (target : Target) (c : Call) :
    (s.call behaves target c).failed = s.failed := by
  unfold Scheduler.call
  rw [failed_ops]

theorem answer_returning (alike : Matches behaves s s') (awake : target ∉ s.failed) (c : Call) :
    (s'.reaction (returning behaves) target c).answer =
      match (s.reaction behaves target c).answer, c with
      | .throws, .step => .null
      | .throws, .publish => .frame
      | answer, _ => answer := by
  simp only [reaction, alike.received target awake, returning]
  split <;> rename_i answers <;> simp_all

theorem Matches.remove_failed (alike : Matches behaves s s') {key : String}
    (failed : key ∈ s.failed.map id) : Matches behaves (s.remove key) s' := by
  refine { alike with targets := ?_, own := ?_ }
  · show s'.targets.entries = (s.targets.delete key).entries.filter fun t => id t ∉ s.failed.map id
    rw [alike.targets, KeyedList.delete, List.filter_filter]
    apply List.filter_congr
    intro t _
    by_cases same : id t = key
    · rw [same]
      simp [failed]
    · simp [same]
  · intro x member
    exact alike.own x (KeyedList.mem_delete.mp member).1

theorem Matches.fail_failed (alike : Matches behaves s s') (failed : target ∈ s.failed) :
    Matches behaves (s.fail target) s' := by
  have same : ∀ key, key ∈ (s.fail target).failed.map id ↔ key ∈ s.failed.map id := by
    intro key
    simp only [fail, List.map_cons, List.mem_cons, or_iff_right_iff_imp]
    rintro rfl
    exact List.mem_map_of_mem failed
  refine { alike with targets := ?_, own := ?_, received := ?_, threw := ?_ }
  · show s'.targets.entries = s.targets.entries.filter fun t => id t ∉ (s.fail target).failed.map id
    simpa only [same] using alike.targets
  · intro x member gone
    exact List.mem_cons_of_mem _ (alike.own x member ((same _).mp gone))
  · intro t other
    exact alike.received t fun failed => other (List.mem_cons_of_mem _ failed)
  · intro t member
    rcases List.mem_cons.mp member with rfl | old
    · exact alike.threw t failed
    · exact alike.threw t old

/-- The target that throws for the first time is removed in the other run. -/
theorem Matches.fail (alike : Matches behaves s s')
    (alone : ∀ t, s.targets.get? (id target) = some t → t = target)
    (throws : ∃ before, (behaves target before .step).answer = .throws) :
    Matches behaves (s.fail target) (s'.remove (id target)) := by
  refine { alike with targets := ?_, own := ?_, received := ?_, threw := ?_ }
  · show s'.targets.entries.filter (fun t => id t ≠ id target) = s.targets.entries.filter _
    rw [alike.targets, List.filter_filter]
    apply List.filter_congr
    intro t _
    simp only [Scheduler.fail, List.map_cons, List.mem_cons, not_or]
    rw [← Bool.decide_and]
  · intro x member gone
    rcases List.mem_cons.mp (List.map_cons ▸ gone) with same | old
    · exact List.mem_cons.mpr (.inl (alone x (same ▸ KeyedList.get?_of_mem member)))
    · exact List.mem_cons_of_mem _ (alike.own x member old)
  · intro t other
    exact alike.received t fun failed => other (List.mem_cons_of_mem _ failed)
  · intro t member
    rcases List.mem_cons.mp member with rfl | old
    · exact throws
    · exact alike.threw t old

/-! ## One tick -/

variable [JsNumber K] {snapshot caught : Bool}

/-- How a loop over the targets ends in both runs. -/
structure TickMatches (behaves : Behaviour Target) (caught : Bool) (u u' : Scheduler K id × Bool) :
    Prop where
  alike : Matches behaves u.1 u'.1
  returns : u'.2 = false
  last : u.2 = true → u.1.due = false ∧ caught = true

/-- The targets with other ids than those of `failed`. -/
def sound (id : Target → String) (failed : List Target) (ts : List Target) : List Target :=
  ts.filter fun t => id t ∉ failed.map id

omit [DecidableEq Target] in
theorem nobody_left {failed rest : List Target} (known : s.failed = failed)
    (last : s.LastCall caught rest) : sound id failed rest = [] := by
  rw [sound, List.filter_eq_nil_iff]
  intro t member
  simpa using ⟨t, known ▸ last.others t member, rfl⟩

omit [DecidableEq Target] [JsNumber K] in
theorem sound_cons_of_failed {failed rest : List Target} (gone : id target ∈ failed.map id) :
    sound id failed (target :: rest) = sound id failed rest := by
  rw [sound, List.filter_cons_of_neg]
  · rfl
  · simpa using gone

omit [DecidableEq Target] [JsNumber K] in
theorem sound_cons {failed rest : List Target} (awake : id target ∉ failed.map id) :
    sound id failed (target :: rest) = target :: sound id failed rest := by
  rw [sound, List.filter_cons_of_pos]
  · rfl
  · simpa using awake

theorem Matches.stepEach {failed ts : List Target} (alike : Matches behaves s s')
    (known : s.failed = failed) (own : ∀ t ∈ ts, id t ∈ failed.map id → t ∈ failed)
    (contained : EachContained behaves snapshot caught ts s) :
    TickMatches behaves caught (Scheduler.stepEach behaves snapshot ts s)
      (Scheduler.stepEach (returning behaves) snapshot (sound id failed ts) s') := by
  induction ts generalizing s s' with
  | nil => exact ⟨alike, rfl, fun none => by cases none⟩
  | cons target rest ih =>
    obtain ⟨tame, contained⟩ := contained
    have others : ∀ t ∈ rest, id t ∈ failed.map id → t ∈ failed := fun t member =>
      own t (List.mem_cons_of_mem _ member)
    have known₁ : (s.call behaves target .step).failed = failed := (failed_call s target .step).trans known
    have known₂ : ((s.call behaves target .step).call behaves target .publish).failed = failed :=
      (failed_call _ target .publish).trans known₁
    by_cases gone : id target ∈ failed.map id
    · have fails : target ∈ failed := own target List.mem_cons_self gone
      have stepped := alike.call_failed (known ▸ fails) tame
      rw [sound_cons_of_failed gone]
      cases answer : (s.reaction behaves target .step).answer with
      | throws =>
        simp only [answer] at contained
        simp only [Scheduler.stepEach, answer, nobody_left known₁ contained.1]
        exact ⟨stepped.fail_failed (known₁ ▸ fails), rfl, fun _ =>
          ⟨contained.1.due, contained.1.caught⟩⟩
      | null =>
        simp only [answer] at contained
        simp only [Scheduler.stepEach, answer]
        exact ih (stepped.remove_failed (known₁ ▸ gone)) known₁ others contained
      | frame =>
        simp only [answer] at contained
        simp only [Scheduler.stepEach, answer]
        cases snapshot with
        | false => exact ih stepped known₁ others contained
        | true =>
          obtain ⟨tame, contained⟩ := contained
          have published := stepped.call_failed (known₁ ▸ fails) tame
          simp only [if_true] at contained ⊢
          split at contained
          · rename_i throws
            rw [if_pos throws, nobody_left known₂ contained]
            exact ⟨published, rfl, fun _ => ⟨contained.due, contained.caught⟩⟩
          · rename_i returns
            rw [if_neg returns]
            exact ih published known₂ others contained
    · have awake : target ∉ failed := fun fails => gone (List.mem_map_of_mem fails)
      have stepped := alike.call (known ▸ awake) tame
      have answers := answer_returning alike (known ▸ awake) .step
      rw [sound_cons gone]
      cases answer : (s.reaction behaves target .step).answer with
      | throws =>
        simp only [answer] at contained answers
        simp only [Scheduler.stepEach, answer, answers, nobody_left known₁ contained.1]
        exact ⟨stepped.fail contained.2 ⟨_, answer⟩, rfl, fun _ =>
          ⟨contained.1.due, contained.1.caught⟩⟩
      | null =>
        simp only [answer] at contained answers
        simp only [Scheduler.stepEach, answer, answers]
        exact ih (stepped.remove (id target)) known₁ others contained
      | frame =>
        simp only [answer] at contained answers
        simp only [Scheduler.stepEach, answer, answers]
        cases snapshot with
        | false => exact ih stepped known₁ others contained
        | true =>
          obtain ⟨tame, contained⟩ := contained
          have published := stepped.call (known₁ ▸ awake) tame
          have answers := answer_returning stepped (known₁ ▸ awake) .publish
          simp only [if_true] at contained ⊢
          have returns : ((s'.call (returning behaves) target .step).reaction (returning behaves)
              target .publish).answer ≠ .throws := by
            rw [answers]
            split <;> simp_all
          rw [if_neg returns]
          split at contained
          · rename_i throws
            rw [if_pos throws, nobody_left known₂ contained]
            exact ⟨published, rfl, fun _ => ⟨contained.due, contained.caught⟩⟩
          · rename_i returns
            rw [if_neg returns]
            exact ih published known₂ others contained

/-! ## A run -/

theorem Matches.due (alike : Matches behaves s s') : s'.due = s.due := by
  rw [Scheduler.due, Scheduler.due, alike.accumulatorMs]

theorem Matches.spend (alike : Matches behaves s s') : Matches behaves s.spend s'.spend :=
  { alike with accumulatorMs := by simp only [Scheduler.spend, alike.accumulatorMs] }

theorem Matches.drop (alike : Matches behaves s s') : Matches behaves s.drop s'.drop :=
  { alike with accumulatorMs := rfl }

theorem Matches.stepAll (alike : Matches behaves s s')
    (contained : EachContained behaves s.ticked.isSnapshotTick caught s.targets.entries s.ticked) :
    TickMatches behaves caught (s.stepAll behaves) (s'.stepAll (returning behaves)) := by
  have ticked : Matches behaves s.ticked s'.ticked :=
    { alike with tickCounter := congrArg (· + 1) alike.tickCounter }
  have known : s.ticked.failed = s.failed := rfl
  have step := ticked.stepEach known alike.own contained
  have same : s'.targets.entries = sound id s.failed s.targets.entries := alike.targets
  have parity : s'.ticked.isSnapshotTick = s.ticked.isSnapshotTick := by
    rw [isSnapshotTick, isSnapshotTick, ticked.tickCounter]
  unfold Scheduler.stepAll
  rw [same, parity]
  exact step

theorem catchUp_of_not_due (idle : s.due = false) (steps : Nat) :
    s.catchUp behaves steps = (s, false) := by
  cases steps <;> simp [catchUp, idle]

theorem Matches.catchUp {steps : Nat} (alike : Matches behaves s s')
    (contained : CatchUpContained behaves caught steps s) :
    TickMatches behaves caught (s.catchUp behaves steps) (s'.catchUp (returning behaves) steps) := by
  induction steps generalizing s s' with
  | zero =>
    simp only [Scheduler.catchUp, alike.due]
    refine ⟨?_, rfl, fun none => by cases none⟩
    split
    · exact alike.drop
    · exact alike
  | succ steps ih =>
    cases due : s.due with
    | false =>
      rw [catchUp_of_not_due due, catchUp_of_not_due (alike.due.trans due)]
      exact ⟨alike, rfl, fun none => by cases none⟩
    | true =>
      obtain ⟨each, later⟩ := contained due
      have tick := alike.spend.stepAll each
      simp only [Scheduler.catchUp, due, alike.due, if_true]
      generalize s.spend.stepAll behaves = u at tick later ⊢
      generalize s'.spend.stepAll (returning behaves) = u' at tick ⊢
      obtain ⟨u, threw⟩ := u
      obtain ⟨u', threw'⟩ := u'
      obtain rfl : threw' = false := tick.returns
      cases threw with
      | false => exact ih tick.alike (later rfl)
      | true =>
        have stops := tick.last rfl
        show TickMatches behaves caught (u, true) (u'.catchUp (returning behaves) steps)
        rw [catchUp_of_not_due (tick.alike.due.trans stops.1)]
        exact tick

theorem Matches.advance (alike : Matches behaves s s') {now later : K}
    (contained : s.Contained behaves (.advance now later caught)) :
    Matches behaves (s.advance behaves now later caught)
      (s'.advance (returning behaves) now later caught) := by
  unfold Scheduler.advance
  rw [alike.lastNowMs]
  cases last : s.lastNowMs with
  | none => exact { alike with lastNowMs := rfl }
  | some last' =>
    have elapsed : Matches behaves
        { s with lastNowMs := some now, accumulatorMs := s.accumulatorMs + (now - last') }
        { s' with lastNowMs := some now, accumulatorMs := s'.accumulatorMs + (now - last') } :=
      { alike with lastNowMs := rfl, accumulatorMs := by rw [alike.accumulatorMs] }
    have run := elapsed.catchUp (contained last' last)
    dsimp only
    generalize Scheduler.catchUp behaves MAX_CATCHUP_STEPS
      { s with lastNowMs := some now, accumulatorMs := s.accumulatorMs + (now - last') } = u at run ⊢
    generalize Scheduler.catchUp (returning behaves) MAX_CATCHUP_STEPS
      { s' with lastNowMs := some now, accumulatorMs := s'.accumulatorMs + (now - last') } = u' at run ⊢
    obtain ⟨u, threw⟩ := u
    obtain ⟨u', threw'⟩ := u'
    obtain rfl : threw' = false := run.returns
    cases threw with
    | false => exact { run.alike with }
    | true =>
      obtain ⟨_, rfl⟩ := run.last rfl
      refine { run.alike with alive := ?_ }
      show u'.alive = (u.alive && true)
      rw [Bool.and_true, run.alike.alive]

theorem Matches.apply (alike : Matches behaves s s') {event : Event K Target}
    (contained : s.Contained behaves event) :
    Matches behaves (s.apply behaves event) (s'.apply (returning behaves) event) := by
  by_cases living : s.alive = true
  · unfold Scheduler.apply
    rw [if_pos living, if_pos (alike.alive.trans living)]
    cases event with
    | start now =>
      dsimp only
      rw [alike.timer]
      split
      · exact alike
      · exact { alike with timer := rfl, lastNowMs := rfl }
    | stop =>
      dsimp only
      rw [alike.timer]
      split
      · exact { alike with timer := rfl, lastNowMs := rfl, accumulatorMs := rfl }
      · exact alike
    | advance now later caught => exact alike.advance contained
    | add target =>
      have added : Matches behaves (s.register (.add target)) (s'.register (.add target)) :=
        alike.register fun t same => by
          cases same
          exact contained
      exact added
    | remove key => exact alike.remove key
  · have dead : s'.alive ≠ true := alike.alive ▸ living
    unfold Scheduler.apply
    rw [if_neg living, if_neg dead]
    exact alike

theorem matches_initial : Matches behaves (initial : Scheduler K id) initial where
  targets := rfl
  own := by
    intro t member
    cases member
  received _ _ := rfl
  threw := by
    intro t member
    cases member
  accumulatorMs := rfl
  lastNowMs := rfl
  tickCounter := rfl
  timer := rfl
  alive := rfl

theorem Matches.run {events : List (Event K Target)} (alike : Matches behaves s s')
    (contained : AllowedRun (Contained behaves) (Scheduler.apply behaves) s events) :
    Matches behaves (events.foldl (Scheduler.apply behaves) s)
      (events.foldl (Scheduler.apply (returning behaves)) s') := by
  induction events generalizing s s' with
  | nil => exact alike
  | cons event rest ih => exact ih (alike.apply contained.1) contained.2

/-- The others receive the calls, and the process makes the ticks, of the run without the throws. -/
theorem failure_stays_in_room {events : List (Event K Target)}
    (contained : AllowedRun (Contained behaves) (apply behaves) (initial : Scheduler K id) events) :
    (∀ target, (∀ before call, (behaves target before call).answer ≠ .throws) →
      (events.foldl (apply behaves) (initial : Scheduler K id)).received target =
        (events.foldl (apply (returning behaves)) (initial : Scheduler K id)).received target) ∧
      (events.foldl (apply behaves) (initial : Scheduler K id)).tickCounter =
        (events.foldl (apply (returning behaves)) (initial : Scheduler K id)).tickCounter := by
  have alike := matches_initial.run contained
  refine ⟨fun target returns => ?_, alike.tickCounter.symm⟩
  refine (alike.received target fun failed => ?_).symm
  obtain ⟨before, throws⟩ := alike.threw target failed
  exact returns before .step throws

instance (caught : Bool) (rest : List Target) (s : Scheduler K id) :
    Decidable (s.LastCall caught rest) :=
  decidable_of_iff ((∀ t ∈ rest, t ∈ s.failed) ∧ s.due = false ∧ caught = true)
    ⟨fun ⟨a, b, c⟩ => ⟨a, b, c⟩, fun ⟨a, b, c⟩ => ⟨a, b, c⟩⟩

end Scheduler

/-- One of two targets throws at every step. -/
private def oneThrows (target : Bool) (_ : List Call) : Call → Reaction Bool
  | .step => ⟨[], if target then .frame else .throws⟩
  | .publish => ⟨[], .frame⟩

private def name (target : Bool) : String := if target then "good" else "bad"

private def lastRun : List (Event ℚ Bool) := [.start 0, .add true, .add false, .advance 17 18 true]

private theorem lastRun_contained : AllowedRun (Scheduler.Contained oneThrows)
    (Scheduler.apply oneThrows) (Scheduler.initial : Scheduler ℚ name) lastRun := by
  have tame : ∀ (s : Scheduler ℚ name) target call, s.Tame target (oneThrows target [] call) := by
    intro s target call
    cases call <;> exact ⟨fun _ => rfl, fun t added => by cases added⟩
  refine ⟨trivial, ?_, ?_, ?_, trivial⟩
  · show name true ∉ []
    exact List.not_mem_nil
  · show name false ∉ []
    exact List.not_mem_nil
  · intro last same
    cases same
    intro _
    refine ⟨⟨tame _ _ _, tame _ _ _, ⟨?_, ?_, rfl⟩, ?_⟩, ?_⟩
    · decide +kernel
    · decide +kernel
    · decide +kernel
    · intro returns
      exact absurd returns (by decide +kernel)

theorem failure_stays_in_last_room :
    (lastRun.foldl (Scheduler.apply oneThrows) (.initial : Scheduler ℚ name)).received true =
      (lastRun.foldl (Scheduler.apply (returning oneThrows)) (.initial : Scheduler ℚ name)).received
        true := by
  refine (Scheduler.failure_stays_in_room lastRun_contained).1 true fun before call throws => ?_
  cases call <;> cases throws

private def firstRun : List (Event ℚ Bool) := [.start 0, .add false, .add true, .advance 17 18 true]

/-- The target after the one that throws is not stepped. -/
theorem failure_skips_the_next : ¬ ∀ (behaves : Behaviour Bool) (events : List (Event ℚ Bool)),
    (∀ target, (∀ before call, (behaves target before call).answer ≠ .throws) →
      (events.foldl (Scheduler.apply behaves) (.initial : Scheduler ℚ name)).received target =
        (events.foldl (Scheduler.apply (returning behaves))
          (.initial : Scheduler ℚ name)).received target) ∧
      (events.foldl (Scheduler.apply behaves) (.initial : Scheduler ℚ name)).tickCounter =
        (events.foldl (Scheduler.apply (returning behaves))
          (.initial : Scheduler ℚ name)).tickCounter := by
  intro stays
  have same := (stays oneThrows firstRun).1 true fun before call throws => by
    cases call <;> cases throws
  exact absurd same (by decide +kernel)

end SwitchRemake.Scheduling

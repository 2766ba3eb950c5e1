import SwitchRemake.Lib.KeyedList
import Mathlib.Data.List.Induction

/-!
# Violations of the rate limits

`rate-limit-violations.ts`: violations of one rule on one connection become one signal, which counts
them. `D` is what a signal carries besides.
-/

namespace SwitchRemake.Gateway
open Lib

inductive Severity where
  | low
  | medium
  | high
deriving DecidableEq

def Severity.rank : Severity → Nat
  | .low => 0
  | .medium => 1
  | .high => 2

/-- The heavier of two, the first where they are equal. -/
def Severity.worse (a b : Severity) : Severity := if a.rank < b.rank then b else a

structure ViolationSignal (D : Type) where
  severity : Severity
  rest : D

structure Aggregate (D : Type) where
  key : List Char
  signal : ViolationSignal D
  ip : String
  count : Nat
  firstAt : Nat
  lastAt : Nat
  severity : Severity

/-- The signal that goes to the sink, with the fields of its detail. -/
structure Flushed (D : Type) where
  severity : Severity
  rest : D
  ip : String
  connectionId : Nat
  rule : List Char
  count : Nat
  durationMs : Nat

/-- A call of `record`. -/
structure Violation (D : Type) where
  connectionId : Nat
  ip : String
  rule : List Char
  signal : ViolationSignal D
  now : Nat

/-- The text `connectionId:rule`. -/
def keyOf (connectionId : Nat) (rule : List Char) : List Char :=
  Nat.toDigits 10 connectionId ++ ':' :: rule

def Violation.key {D : Type} (v : Violation D) : List Char := keyOf v.connectionId v.rule

structure RateLimitViolationAggregator (D : Type) where
  aggregates : KeyedList (Aggregate.key (D := D))
  sink : List (Flushed D)

namespace RateLimitViolationAggregator
variable {D : Type}

def new : RateLimitViolationAggregator D := ⟨.empty, []⟩

/-- The aggregate of a key after a violation. -/
def coalesce (existing : Option (Aggregate D)) (v : Violation D) : Aggregate D :=
  match existing with
  | none => ⟨v.key, v.signal, v.ip, 1, v.now, v.now, v.signal.severity⟩
  | some existing =>
    { existing with
      count := existing.count + 1
      lastAt := v.now
      severity := existing.severity.worse v.signal.severity
      signal := v.signal
      ip := v.ip }

def record (a : RateLimitViolationAggregator D) (v : Violation D) : RateLimitViolationAggregator D :=
  { a with aggregates := a.aggregates.set (coalesce (a.aggregates.get? v.key) v) }

/-- `#flush`: what is before the first colon is read as a number. -/
def flushed (aggregate : Aggregate D) : Flushed D where
  severity := aggregate.severity
  rest := aggregate.signal.rest
  ip := aggregate.ip
  connectionId := Nat.ofDigitChars 10 (aggregate.key.takeWhile (· ≠ ':')) 0
  rule := (aggregate.key.dropWhile (· ≠ ':')).drop 1
  count := aggregate.count
  durationMs := aggregate.lastAt - aggregate.firstAt

/-- The loops over the aggregates, each of which flushes those that it picks. -/
def flushIf (a : RateLimitViolationAggregator D) (picks : Aggregate D → Bool) :
    RateLimitViolationAggregator D where
  aggregates := a.aggregates.filter fun aggregate => !picks aggregate
  sink := a.sink ++ (a.aggregates.entries.filter picks).map flushed

def flushReady (a : RateLimitViolationAggregator D) (intervalMs now : Nat) :
    RateLimitViolationAggregator D :=
  a.flushIf fun aggregate => (aggregate.firstAt : Int) + intervalMs ≤ now

def flushConnection (a : RateLimitViolationAggregator D) (connectionId : Nat) :
    RateLimitViolationAggregator D :=
  a.flushIf fun aggregate => (Nat.toDigits 10 connectionId ++ [':']).isPrefixOf aggregate.key

def flushAll (a : RateLimitViolationAggregator D) : RateLimitViolationAggregator D :=
  a.flushIf fun _ => true

inductive Call (D : Type) where
  | record (violation : Violation D)
  | flushReady (intervalMs now : Nat)
  | flushConnection (connectionId : Nat)
  | flushAll

def call (a : RateLimitViolationAggregator D) : Call D → RateLimitViolationAggregator D
  | .record violation => a.record violation
  | .flushReady intervalMs now => a.flushReady intervalMs now
  | .flushConnection connectionId => a.flushConnection connectionId
  | .flushAll => a.flushAll

/-- The violations of the calls. -/
def violations (calls : List (Call D)) : List (Violation D) :=
  calls.filterMap fun
    | .record violation => some violation
    | _ => none

/-! ## Keys -/

theorem toDigits_no_colon {n : Nat} {c : Char} (inside : c ∈ Nat.toDigits 10 n) : c ≠ ':' := by
  have digit := Nat.isDigit_of_mem_toDigits (by decide) (by decide) inside
  rintro rfl
  exact absurd digit (by decide)

theorem takeWhile_keyOf (connectionId : Nat) (rule : List Char) :
    (keyOf connectionId rule).takeWhile (· ≠ ':') = Nat.toDigits 10 connectionId := by
  rw [keyOf, List.takeWhile_append_of_pos fun c inside => decide_eq_true (toDigits_no_colon inside)]
  simp

theorem dropWhile_keyOf (connectionId : Nat) (rule : List Char) :
    (keyOf connectionId rule).dropWhile (· ≠ ':') = ':' :: rule := by
  rw [keyOf, List.dropWhile_append_of_pos fun c inside => decide_eq_true (toDigits_no_colon inside)]
  simp

theorem connectionId_keyOf (connectionId : Nat) (rule : List Char) :
    Nat.ofDigitChars 10 ((keyOf connectionId rule).takeWhile (· ≠ ':')) 0 = connectionId := by
  rw [takeWhile_keyOf, Nat.ofDigitChars_toDigits (by decide) (by decide)]

/-- A key tells its connection and its rule. -/
theorem keyOf_inj {a b : Nat} {rule rule' : List Char} (same : keyOf a rule = keyOf b rule') :
    a = b ∧ rule = rule' := by
  constructor
  · rw [← connectionId_keyOf a rule, same, connectionId_keyOf]
  · have rest := dropWhile_keyOf a rule
    rw [same, dropWhile_keyOf] at rest
    exact (List.cons.inj rest).2.symm

theorem isPrefixOf_keyOf {connectionId other : Nat} {rule : List Char} :
    (Nat.toDigits 10 connectionId ++ [':']).isPrefixOf (keyOf other rule) = true ↔
      other = connectionId := by
  rw [List.isPrefixOf_iff_prefix]
  constructor
  · rintro ⟨rest, same⟩
    rw [List.append_assoc] at same
    have same : keyOf connectionId rest = keyOf other rule := same
    exact (keyOf_inj same).1.symm
  · rintro rfl
    exact ⟨rule, by rw [List.append_assoc]; rfl⟩

/-! ## What a signal counts -/

def worst (vs : List (Violation D)) : Severity :=
  vs.foldl (fun severity v => severity.worse v.signal.severity) .low

/-- What an aggregate holds of the violations since it was made. -/
def aggregateOf (vs : List (Violation D)) : Option (Aggregate D) :=
  vs.head?.bind fun first => vs.getLast?.map fun last =>
    ⟨first.key, last.signal, last.ip, vs.length, first.now, last.now, worst vs⟩

/-- The signal for these violations: the last of them, the worst severity, their number and how long
they went on. -/
def summary (vs : List (Violation D)) : Option (Flushed D) :=
  vs.head?.bind fun first => vs.getLast?.map fun last =>
    ⟨worst vs, last.signal.rest, last.ip, first.connectionId, first.rule, vs.length,
      last.now - first.now⟩

theorem low_worse (severity : Severity) : Severity.low.worse severity = severity := by
  cases severity <;> rfl

theorem aggregateOf_append (vs : List (Violation D)) (v : Violation D) :
    aggregateOf (vs ++ [v]) = some (coalesce (aggregateOf vs) v) := by
  cases vs with
  | nil => simp [aggregateOf, worst, low_worse, coalesce]
  | cons first rest =>
    have ends : (first :: rest ++ [v]).getLast? = some v := List.getLast?_concat
    have ends' : (first :: rest).getLast? = some ((first :: rest).getLast (List.cons_ne_nil _ _)) :=
      List.getLast?_eq_some_getLast _
    rw [aggregateOf, ends, aggregateOf, ends']
    simp [coalesce, worst]

theorem key_coalesce {existing : Option (Aggregate D)} {v : Violation D}
    (named : ∀ aggregate ∈ existing, aggregate.key = v.key) : (coalesce existing v).key = v.key := by
  cases existing with
  | none => rfl
  | some aggregate => exact named aggregate rfl

theorem summary_of_aggregateOf {vs : List (Violation D)} {aggregate : Aggregate D}
    (held : aggregateOf vs = some aggregate) : summary vs = some (flushed aggregate) := by
  obtain ⟨first, starts, held⟩ := Option.bind_eq_some_iff.mp held
  obtain ⟨last, ends, rfl⟩ := Option.map_eq_some_iff.mp held
  rw [summary, starts, Option.bind_some, ends, Option.map_some, flushed, Violation.key,
    connectionId_keyOf, dropWhile_keyOf]
  rfl

/-- Every violation is in one signal or pending, in its order: the signals of a key and what is pending
for it are what has been recorded for it, cut into pieces. -/
structure Grouped (a : RateLimitViolationAggregator D) (recorded : List (Violation D))
    (groups : List (List (Violation D))) (pending : List Char → List (Violation D)) : Prop where
  sink : groups.map summary = a.sink.map some
  aggregates : ∀ key, a.aggregates.get? key = aggregateOf (pending key)
  alike : ∀ group ∈ groups, ∃ key, ∀ v ∈ group, v.key = key
  parts : ∀ key, groups.flatten.filter (fun v => v.key = key) ++ pending key =
    recorded.filter fun v => v.key = key

section
variable {a : RateLimitViolationAggregator D} {recorded : List (Violation D)}
  {groups : List (List (Violation D))} {pending : List Char → List (Violation D)}

theorem Grouped.own (grouped : Grouped a recorded groups pending) {key : List Char}
    {v : Violation D} (inside : v ∈ pending key) : v.key = key := by
  have listed : v ∈ recorded.filter fun v => v.key = key := by
    rw [← grouped.parts key]
    exact List.mem_append_right _ inside
  exact of_decide_eq_true (List.mem_filter.mp listed).2

theorem Grouped.record (grouped : Grouped a recorded groups pending) (v : Violation D) :
    Grouped (a.record v) (recorded ++ [v]) groups
      (fun key => if key = v.key then pending key ++ [v] else pending key) where
  sink := grouped.sink
  alike := grouped.alike
  aggregates key := by
    have own : (coalesce (a.aggregates.get? v.key) v).key = v.key :=
      key_coalesce fun _ found => (KeyedList.mem_of_get? found).2
    rw [RateLimitViolationAggregator.record, KeyedList.get?_set, own]
    split
    · rw [aggregateOf_append, grouped.aggregates]
      rename_i same
      rw [same]
    · exact grouped.aggregates key
  parts key := by
    rw [List.filter_append, ← grouped.parts key]
    split
    · rename_i own
      simp [own]
    · rename_i differs
      simp [Ne.symm differs]

/-- The pieces that are flushed, each of its own key. -/
theorem filter_pieces (own : ∀ key, ∀ v ∈ pending key, v.key = key) {keys : List (List Char)}
    (distinct : keys.Nodup) (key : List Char) :
    (keys.flatMap pending).filter (fun v => v.key = key) = if key ∈ keys then pending key else [] := by
  induction keys with
  | nil => rfl
  | cons first rest ih =>
    obtain ⟨absent, distinct⟩ := List.nodup_cons.mp distinct
    rw [List.flatMap_cons, List.filter_append, ih distinct]
    by_cases here : first = key
    · subst here
      have all : (pending first).filter (fun v => v.key = first) = pending first :=
        List.filter_eq_self.mpr fun v inside => decide_eq_true (own first v inside)
      rw [all, if_neg absent, if_pos List.mem_cons_self, List.append_nil]
    · have none_ : (pending first).filter (fun v => v.key = key) = [] := by
        refine List.filter_eq_nil_iff.mpr fun v inside => ?_
        rw [own first v inside, decide_eq_true_eq]
        exact here
      rw [none_, List.nil_append]
      simp [Ne.symm here]

theorem Grouped.flushIf (grouped : Grouped a recorded groups pending) (picks : Aggregate D → Bool) :
    Grouped (a.flushIf picks) recorded
      (groups ++ (a.aggregates.entries.filter picks).map fun aggregate => pending aggregate.key)
      (fun key => if (a.aggregates.get? key).any picks then [] else pending key) where
  sink := by
    rw [List.map_append, grouped.sink, RateLimitViolationAggregator.flushIf, List.map_append,
      List.map_map, List.map_map]
    congr 1
    refine List.map_congr_left fun aggregate inside => ?_
    have held := KeyedList.get?_of_mem (List.mem_filter.mp inside).1
    rw [grouped.aggregates] at held
    exact summary_of_aggregateOf held
  aggregates key := by
    rw [RateLimitViolationAggregator.flushIf, KeyedList.get?_filter]
    cases found : a.aggregates.get? key with
    | none =>
      have held := grouped.aggregates key
      rw [found] at held
      exact held
    | some aggregate =>
      have held := grouped.aggregates key
      rw [found] at held
      by_cases picked : picks aggregate = true
      · simp [picked, aggregateOf]
      · have passed := Bool.eq_false_iff.mpr picked
        simp only [Option.filter_some, passed, Bool.not_false, if_true, Option.any_some,
          Bool.false_eq_true, if_false]
        exact held
  alike group inside := by
    rcases List.mem_append.mp inside with before | new
    · exact grouped.alike group before
    · obtain ⟨aggregate, -, rfl⟩ := List.mem_map.mp new
      exact ⟨aggregate.key, fun v inside => grouped.own inside⟩
  parts key := by
    have pieces := @filter_pieces D pending (fun key v inside => grouped.own inside) _
      (a.aggregates.distinct.sublist (List.filter_sublist (p := picks).map Aggregate.key)) key
    have moved : ((a.aggregates.entries.filter picks).map fun aggregate =>
        pending aggregate.key).flatten =
          ((a.aggregates.entries.filter picks).map Aggregate.key).flatMap pending := by
      rw [List.flatMap_map]
      rfl
    have picked : key ∈ (a.aggregates.entries.filter picks).map Aggregate.key ↔
        (a.aggregates.get? key).any picks = true := by
      rw [List.mem_map]
      constructor
      · rintro ⟨aggregate, inside, rfl⟩
        obtain ⟨listed, picked⟩ := List.mem_filter.mp inside
        rw [KeyedList.get?_of_mem listed]
        exact picked
      · intro any
        obtain ⟨aggregate, found, picked⟩ := (Option.any_eq_true _ _).mp any
        obtain ⟨listed, own⟩ := KeyedList.mem_of_get? found
        exact ⟨aggregate, List.mem_filter.mpr ⟨listed, picked⟩, own⟩
    rw [List.flatten_append, List.filter_append, moved, pieces, ← grouped.parts key, List.append_assoc]
    congr 1
    by_cases any : (a.aggregates.get? key).any picks = true
    · rw [if_pos (picked.mpr any), if_pos any, List.append_nil]
    · rw [if_neg (mt picked.mp any), if_neg any, List.nil_append]

end

theorem grouped_new : Grouped (new : RateLimitViolationAggregator D) [] [] fun _ => [] :=
  ⟨rfl, fun _ => rfl, nofun, fun _ => rfl⟩

theorem grouped_calls (calls : List (Call D)) : ∃ groups pending,
    Grouped (calls.foldl call new) (violations calls) groups pending := by
  induction calls using List.reverseRecOn with
  | nil => exact ⟨[], fun _ => [], grouped_new⟩
  | append_singleton calls last ih =>
    obtain ⟨groups, pending, grouped⟩ := ih
    rw [List.foldl_append]
    have same (quiet : violations [last] = []) : violations (calls ++ [last]) = violations calls := by
      rw [violations, List.filterMap_append]
      exact (congrArg _ quiet).trans (List.append_nil _)
    cases last with
    | record v =>
      have more : violations (calls ++ [.record v]) = violations calls ++ [v] :=
        List.filterMap_append
      rw [more]
      exact ⟨_, _, grouped.record v⟩
    | flushReady intervalMs now =>
      rw [same rfl]
      exact ⟨_, _, grouped.flushIf _⟩
    | flushConnection connectionId =>
      rw [same rfl]
      exact ⟨_, _, grouped.flushIf _⟩
    | flushAll =>
      rw [same rfl]
      exact ⟨_, _, grouped.flushIf _⟩

/-- A connection that closes leaves nothing pending, and the others keep what they have. -/
theorem flushConnection_get (a : RateLimitViolationAggregator D) (connectionId other : Nat)
    (rule : List Char) : (a.flushConnection connectionId).aggregates.get? (keyOf other rule) =
      if other = connectionId then none else a.aggregates.get? (keyOf other rule) := by
  rw [flushConnection, flushIf, KeyedList.get?_filter]
  cases found : a.aggregates.get? (keyOf other rule) with
  | none => simp
  | some aggregate =>
    have named := (KeyedList.mem_of_get? found).2
    have prefix_ := @isPrefixOf_keyOf connectionId other rule
    rw [Option.filter_some]
    by_cases own : other = connectionId
    · rw [if_pos own, named, prefix_.mpr own]
      rfl
    · rw [if_neg own, named, Bool.eq_false_iff.mpr (mt prefix_.mp own)]
      rfl

/-- In every run the violations of a rule on a connection are cut into pieces, in their order: one
signal that sums up each piece, and the piece that is pending. A connection that closes leaves none
pending. -/
theorem signals_sum_up (calls : List (Call D)) :
    (∃ groups pending, Grouped (calls.foldl call new) (violations calls) groups pending) ∧
      ∀ connectionId other rule, (((calls.foldl call new).flushConnection connectionId).aggregates.get?
        (keyOf other rule) : Option (Aggregate D)) =
          if other = connectionId then none
          else (calls.foldl call new).aggregates.get? (keyOf other rule) :=
  ⟨grouped_calls calls, flushConnection_get _⟩

end RateLimitViolationAggregator
end SwitchRemake.Gateway

import SwitchRemake.Lib.RingCounter

/-!
# The request meter

`request-meter.service.ts` of the matching server counts its requests in a ring of seconds. Counts
stay far below what a cell can hold.
-/

namespace SwitchRemake.Matching
open Lib

def WINDOW_SECONDS : Nat := 60

abbrev RequestMeter := Ring WINDOW_SECONDS

namespace RequestMeter

def new (now : Nat) : RequestMeter := .start WINDOW_SECONDS (now / 1000)

def record (m : RequestMeter) (now : Nat) : RequestMeter := (Ring.advance m (now / 1000)).bump

def requestsPerMinute (m : RequestMeter) (now : Nat) : Nat × RequestMeter :=
  let m := Ring.advance m (now / 1000)
  (m.total, m)

inductive Call where
  | record (now : Nat)
  | requestsPerMinute (now : Nat)
deriving DecidableEq

def Call.now : Call → Nat
  | .record now | .requestsPerMinute now => now

def call (m : RequestMeter) : Call → RequestMeter
  | .record now => m.record now
  | .requestsPerMinute now => (m.requestsPerMinute now).2

/-- The requests of the calls, each with the latest second that had been read. -/
def stamps (second : Nat) : List Call → List Nat
  | [] => []
  | .record now :: rest => max second (now / 1000) :: stamps (max second (now / 1000)) rest
  | .requestsPerMinute now :: rest => stamps (max second (now / 1000)) rest

/-- The latest second that has been read. -/
def latest (second : Nat) (calls : List Call) : Nat :=
  calls.foldl (fun second call => max second (call.now / 1000)) second

theorem counts_calls {m : RequestMeter} {log : SecondLog} (counts : Ring.Counts m log)
    (calls : List Call) : Ring.Counts (calls.foldl call m)
      ⟨latest log.second calls, (stamps log.second calls).reverse ++ log.events⟩ := by
  induction calls generalizing m log with
  | nil => exact counts
  | cons first rest ih =>
    cases first with
    | record now =>
      have next := ih (counts.advance (now / 1000)).bump
      rw [stamps, List.reverse_cons, List.append_assoc]
      exact next
    | requestsPerMinute now => exact ih (counts.advance (now / 1000))

/-- With a clock that does not go back these are the requests of the last sixty seconds. -/
theorem stamps_of_sorted {second : Nat} {calls : List Call}
    (sorted : calls.Pairwise fun a b => a.now ≤ b.now) (after : ∀ c ∈ calls, second ≤ c.now / 1000) :
    stamps second calls = calls.filterMap fun
      | .record now => some (now / 1000)
      | .requestsPerMinute _ => none := by
  induction calls generalizing second with
  | nil => rfl
  | cons first rest ih =>
    obtain ⟨least, sorted⟩ := List.pairwise_cons.mp sorted
    have now := after first List.mem_cons_self
    have next := @ih (first.now / 1000) sorted fun c inside =>
      Nat.div_le_div_right (least c inside)
    cases first with
    | record time =>
      have now : second ≤ time / 1000 := now
      rw [stamps, Nat.max_eq_right now]
      exact congrArg _ next
    | requestsPerMinute time =>
      have now : second ≤ time / 1000 := now
      rw [stamps, Nat.max_eq_right now]
      exact next

end RequestMeter
end SwitchRemake.Matching

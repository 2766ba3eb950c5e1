/-!
# Runs

A system is a function that applies an operation to a state, and a predicate that says which
operations are allowed in which states.
-/

namespace SwitchRemake.Lib

variable {S T Op Op' : Type}

/-- The states a run from `start` comes to. -/
inductive Reach (allowed : S → Op → Prop) (apply : S → Op → S) (start : S) : S → Prop where
  | refl : Reach allowed apply start start
  | step {s : S} {op : Op} (run : Reach allowed apply start s) (may : allowed s op) :
      Reach allowed apply start (apply s op)

/-- Every operation of the list is allowed at its turn. -/
def AllowedRun (allowed : S → Op → Prop) (apply : S → Op → S) : S → List Op → Prop
  | _, [] => True
  | s, op :: rest => allowed s op ∧ AllowedRun allowed apply (apply s op) rest

instance AllowedRun.decidable (allowed : S → Op → Prop) (apply : S → Op → S)
    [∀ s op, Decidable (allowed s op)] : ∀ s ops, Decidable (AllowedRun allowed apply s ops)
  | _, [] => isTrue trivial
  | s, op :: rest =>
    have := AllowedRun.decidable allowed apply (apply s op) rest
    inferInstanceAs (Decidable (allowed s op ∧ AllowedRun allowed apply (apply s op) rest))

namespace Reach
variable {allowed may : S → Op → Prop} {apply : S → Op → S} {start s : S}

theorem invariant {I : S → Prop} (init : I start)
    (keeps : ∀ s op, I s → allowed s op → I (apply s op)) (run : Reach allowed apply start s) :
    I s := by
  induction run with
  | refl => exact init
  | step _ may ih => exact keeps _ _ ih may

theorem mono (weaker : ∀ s op, allowed s op → may s op) (run : Reach allowed apply start s) :
    Reach may apply start s := by
  induction run with
  | refl => exact .refl
  | step _ allows ih => exact .step ih (weaker _ _ allows)

theorem trans {middle : S} (first : Reach allowed apply start middle)
    (second : Reach allowed apply middle s) : Reach allowed apply start s := by
  induction second with
  | refl => exact first
  | step _ may ih => exact .step ih may

theorem of_list {ops : List Op} (may : AllowedRun allowed apply start ops) :
    Reach allowed apply start (ops.foldl apply start) := by
  induction ops generalizing start with
  | nil => exact .refl
  | cons op rest ih => exact (Reach.step .refl may.1).trans (ih may.2)

end Reach
end SwitchRemake.Lib

/-!
# Replicas of a changing value

A source changes by small changes. A replica gets its whole value, or the changes since the last
update; it need not get every update.
-/

namespace SwitchRemake.Lib

variable {S C : Type} {apply : S → C → S} {replica : Option S} {source source' : S}
  {pending more : List C}

inductive Update (S C : Type) where
  | full (value : S)
  | delta (changes : List C)

/-- A replica that has no value yet cannot use changes. -/
def Update.receive (apply : S → C → S) (replica : Option S) : Update S C → Option S
  | .full value => some value
  | .delta changes => replica.map (changes.foldl apply)

/-- The replica lacks the pending changes, and nothing else. -/
def Trails (apply : S → C → S) (replica : Option S) (pending : List C) (source : S) : Prop :=
  ∃ value, replica = some value ∧ pending.foldl apply value = source

@[simp] theorem trails_nil : Trails apply replica [] source ↔ replica = some source := by
  constructor
  · rintro ⟨value, known, rfl⟩
    exact known
  · intro known
    exact ⟨source, known, rfl⟩

theorem Trails.extend (trails : Trails apply replica pending source)
    (changed : source' = more.foldl apply source) : Trails apply replica (pending ++ more) source' := by
  obtain ⟨value, known, rfl⟩ := trails
  refine ⟨value, known, ?_⟩
  rw [List.foldl_append, changed]

theorem Trails.receive (trails : Trails apply replica pending source) :
    (Update.delta pending).receive apply replica = some source := by
  obtain ⟨value, rfl, rfl⟩ := trails
  rfl

end SwitchRemake.Lib

import SwitchRemake.Registry.Ownership

/-!
# Intents

An intent is settled once, and what it was settled to last is what counts, also after its time.
-/

namespace SwitchRemake.Registry
open Lib Redis

namespace Keys
variable {k k' k'' : Keys} {transferId : String} {state : HandOffState}

/-- What was last stored for an intent, also when it has run out since. -/
def said (k : Keys) (transferId : String) : Option HandOffState :=
  (k.handoff transferId).map Timed.value

theorem said_of_state (reads : k.handOffState transferId = some state) :
    k.said transferId = some state := by
  obtain ⟨entry, there, value, -⟩ := Cell.eq_some_of_get reads
  rw [said, there, Option.map_some, value]

theorem said_of_handoff (same : k'.handoff transferId = k.handoff transferId) :
    k'.said transferId = k.said transferId :=
  congrArg (Option.map Timed.value) same

/-- An intent that has been committed or cancelled stays so. -/
structure Settles (k k' : Keys) : Prop where
  said : ∀ transferId, k'.said transferId = k.said transferId ∨ k.said transferId = none ∨
    k.said transferId = some .pending
  stays : ∀ transferId, k.said transferId ≠ none → k'.said transferId ≠ none

namespace Settles

theorem of_handoff (same : k'.handoff = k.handoff) : Settles k k' :=
  ⟨fun transferId => .inl (said_of_handoff (congrFun same transferId)), fun transferId stored => by
    rwa [said_of_handoff (congrFun same transferId)]⟩

theorem settled (settles : Settles k k') (over_ : state ≠ .pending)
    (was : k.said transferId = some state) : k'.said transferId = some state := by
  rcases settles.said transferId with same | absent | pending
  · exact same.trans was
  · rw [was] at absent
    cases absent
  · rw [was] at pending
    exact absurd (Option.some.inj pending) over_

/-- The only intent that changes. -/
theorem of_one (pending : k.said transferId = none ∨ k.said transferId = some .pending)
    (stored : k'.said transferId ≠ none)
    (others : ∀ other, other ≠ transferId → k'.handoff other = k.handoff other) : Settles k k' := by
  refine ⟨fun other => ?_, fun other => ?_⟩
  · by_cases same : other = transferId
    · rw [same]
      exact .inr pending
    · exact .inl (said_of_handoff (others other same))
  · by_cases same : other = transferId
    · rw [same]
      exact fun _ => stored
    · rw [said_of_handoff (others other same)]
      exact id

end Settles

theorem said_put (ttlMs : Nat) :
    (k.setHandOff transferId (.put k.now ttlMs state)).said transferId = some state := by
  simp [said, setHandOff, Cell.put]

theorem handoff_setHandOff {other : String} {cell : Cell HandOffState} (differs : other ≠ transferId) :
    (k.setHandOff transferId cell).handoff other = k.handoff other :=
  Function.update_of_ne differs _ _

/-- The source's cancellation. -/
theorem cancel_settles (k : Keys) (transferId : String) : Settles k (k.setHandOff transferId
    (compareAndSetPx k.now (k.handoff transferId) .pending .cancelled HAND_OFF_TTL_MS).2) := by
  by_cases pending : (k.handoff transferId).get k.now = some .pending
  · refine .of_one (.inr (said_of_state pending)) ?_ fun other (differs : other ≠ transferId) =>
      handoff_setHandOff differs
    rw [compareAndSetPx, if_pos pending, said_put]
    simp
  · refine .of_handoff ?_
    rw [compareAndSetPx, if_neg pending]
    exact Function.update_eq_self transferId k.handoff

/-- The intent of an offer is new. -/
theorem offer_settles (fresh : k.handoff transferId = none) :
    Settles k (k.setHandOff transferId (.put k.now HAND_OFF_TTL_MS .pending)) := by
  have absent : k.said transferId = none := by
    rw [said, fresh]
    rfl
  refine .of_one (.inl absent) ?_ fun other differs => handoff_setHandOff differs
  rw [said_put]
  simp

end Keys

/-- A commit settles the intent of its adoption. -/
structure Commits (payload : AdoptRoomPayload) (k k' : Keys) : Prop where
  pending : k.said payload.transferId = some .pending
  committed : k'.said payload.transferId = some .committed
  others : ∀ other, other ≠ payload.transferId → k'.handoff other = k.handoff other
  now : k'.now = k.now

theorem commit_keys {k : Keys} {payload : AdoptRoomPayload} {own : String} {items : List Replacement}
    (sourced : Sourced payload own items) :
    compareAndSetMany k items = (false, k) ∨ (compareAndSetMany k items).1 = true ∧
      Commits payload k (compareAndSetMany k items).2 := by
  obtain ⟨value, new, claims, rfl, source, members⟩ := sourced
  unfold compareAndSetMany
  split
  · exact .inl rfl
  split
  · rename_i holds
    right
    have intent : k.handOffState payload.transferId = some .pending := holds _ List.mem_cons_self
    have none_ (transferId : String) {expected later : HandOffState} {ttlMs : Nat} :
        Replacement.handoff transferId expected later ttlMs ∉
          Replacement.room payload.roomId value new HEARTBEAT_TTL_MS :: claims := by
      intro inside
      cases inside with
      | tail _ inside =>
        obtain ⟨userId, requestId, other⟩ := members _ inside
        cases other
    refine ⟨rfl, Keys.said_of_state intent, ?_, fun other differs => ?_, puts_now _⟩
    · rcases puts_handoff (k := (Replacement.handoff payload.transferId .pending .committed
          HAND_OFF_TTL_MS).put k) (.room payload.roomId value new HEARTBEAT_TTL_MS :: claims)
          payload.transferId with kept | ⟨expected, later, ttlMs, inside⟩
      · rw [List.foldl_cons, Keys.said_of_handoff kept]
        exact Keys.said_put HAND_OFF_TTL_MS
      · exact absurd inside (none_ _)
    · rcases puts_handoff (k := (Replacement.handoff payload.transferId .pending .committed
          HAND_OFF_TTL_MS).put k) (.room payload.roomId value new HEARTBEAT_TTL_MS :: claims)
          other with kept | ⟨expected, later, ttlMs, inside⟩
      · rw [List.foldl_cons, kept]
        exact Keys.handoff_setHandOff differs
      · exact absurd inside (none_ _)
  · exact .inl rfl

theorem Commits.settles {payload : AdoptRoomPayload} {k k' : Keys} (commits : Commits payload k k') :
    Keys.Settles k k' := by
  refine .of_one (.inr commits.pending) ?_ commits.others
  rw [commits.committed]
  simp

namespace GameServer

/-- The publishing loop leaves the rooms and the intents alone. -/
theorem turn_rest (s : GameServer) (keys : Keys) (place now : Nat) :
    (s.turn keys place now).1.rooms = s.rooms ∧ (s.turn keys place now).1.objects = s.objects ∧
      (s.turn keys place now).2.handoff = keys.handoff ∧ (s.turn keys place now).2.now = keys.now := by
  have flush (again : Bool) (release : Option PendingRelease) :
      (s.flushStep again release).rooms = s.rooms ∧ (s.flushStep again release).objects = s.objects := by
    unfold flushStep
    split
    · split <;> exact ⟨rfl, rfl⟩
    · split <;> exact ⟨rfl, rfl⟩
  have seat (walk : Option (String × Option Nat)) (seat : Option TrackedSeat) :
      (s.seatStep walk now seat).rooms = s.rooms ∧ (s.seatStep walk now seat).objects = s.objects := by
    unfold seatStep
    split
    · exact ⟨rfl, rfl⟩
    · dsimp only
      split
      · exact ⟨rfl, rfl⟩
      · unfold noteDeparted
        dsimp only
        split <;> exact ⟨rfl, rfl⟩
  unfold turn
  split
  case h_2 => exact ⟨(flush _ _).1, (flush _ _).2, rfl, rfl⟩
  case h_6 => exact ⟨(seat _ _).1, (seat _ _).2, rfl, rfl⟩
  all_goals first
    | exact ⟨rfl, rfl, rfl, rfl⟩
    | (split <;> first
        | exact ⟨rfl, rfl, rfl, rfl⟩
        | (split <;> exact ⟨rfl, rfl, rfl, rfl⟩))

end GameServer
end SwitchRemake.Registry

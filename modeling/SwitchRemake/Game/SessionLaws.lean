import SwitchRemake.Game.GameSession
import SwitchRemake.Simulation.Shape

/-!
# What an operation of a session can do

One law for each operation. The calls on the recorder are left open.
-/

namespace SwitchRemake.Game
open Lib Simulation GameSession

variable {K : Type}

/-- The session ends with this state of its world. -/
def Ends (s : GameSession K) (world : World K) : Prop :=
  s.mode = RoomMode.match ∧ ({ s with world } : GameSession K).matchHasEnded = true

theorem queueSkill_writes (s : GameSession K) (request : SkillRequest) :
    ∃ pendingSkills, (s.queueSkill request).1 = { s with pendingSkills } := by
  unfold queueSkill
  split
  · exact ⟨_, rfl⟩
  · split <;> exact ⟨_, rfl⟩

theorem queueEmoji_writes (s : GameSession K) (request : EmojiRequest) :
    ∃ pendingEmojis, (s.queueEmoji request).1 = { s with pendingEmojis } := by
  unfold queueEmoji
  split
  · exact ⟨_, rfl⟩
  · split <;> exact ⟨_, rfl⟩

/-- A connection that comes or goes leaves the roles alone and loses no request for the tiles. -/
theorem connectionChanged_writes (s : GameSession K) (playerId : Nat) (connected : Bool) :
    ∃ world needsFullSnapshot,
      s.connectionChanged playerId connected = { s with world, needsFullSnapshot } ∧
      world.map = s.world.map ∧ SameRoles s.world world ∧
      s.needsFullSnapshot ⊆ needsFullSnapshot := by
  unfold connectionChanged
  split
  · exact ⟨_, _, rfl, rfl, SameRoles.refl _, Finset.Subset.refl _⟩
  · have roles : SameRoles s.world (s.world.update playerId fun p => { p with connected }) :=
      update_sameRoles _ _ fun _ => rfl
    dsimp only
    split
    · exact ⟨_, _, rfl, rfl, roles, Finset.subset_insert _ _⟩
    · exact ⟨_, _, rfl, rfl, roles, Finset.Subset.refl _⟩

theorem stop_finished (s : GameSession K) : s.stop.finished = true := by
  unfold stop
  split
  · assumption
  · rfl

variable [JsNumber K]

/-- A replacement is drawn among the candidates. -/
theorem replaceTagger_eq {w v : World K} {next : Nat} (found : replaceTagger w = some (v, next)) :
    ∃ picked ∈ rotationCandidates w, ∃ state,
      next = picked.playerId ∧ v = w.handTo picked.playerId state := by
  simp only [replaceTagger] at found
  obtain ⟨state, drawn⟩ := nextRandomInt_world w (rotationCandidates w).length
  rw [drawn] at found
  obtain ⟨picked, chosen, result⟩ := Option.map_eq_some_iff.mp found
  obtain ⟨rfl, rfl⟩ := Prod.mk.inj result
  exact ⟨picked, List.mem_of_getElem? chosen, state, rfl, rfl⟩

/-- What a departure leaves behind: the others, or the others with one of them as the tagger. -/
theorem afterDeparture_eq (s : GameSession K) (playerId : Nat) :
    s.afterDeparture playerId =
        ({ s with world := disconnectPlayer s.world playerId }, [.eliminated playerId none]) ∨
      ∃ picked ∈ rotationCandidates (disconnectPlayer s.world playerId), ∃ state,
        s.afterDeparture playerId =
          ({ s with world := (disconnectPlayer s.world playerId).handTo picked.playerId state },
            [.eliminated playerId none, .tagged picked.playerId none]) := by
  unfold afterDeparture
  dsimp only
  split
  · split
    · exact .inl rfl
    · rename_i world next found
      obtain ⟨picked, candidate, state, rfl, rfl⟩ := replaceTagger_eq found
      exact .inr ⟨picked, candidate, state, rfl⟩
  · exact .inl rfl

/-- A departure writes the world, and not its map; all it has to tell is who is the tagger now. -/
theorem afterDeparture_writes (s : GameSession K) (playerId : Nat) :
    ∃ world events, s.afterDeparture playerId =
        ({ s with world }, .eliminated playerId none :: events) ∧
      world.map = s.world.map ∧ ∀ event ∈ events, ∃ next, event = .tagged next none := by
  rcases afterDeparture_eq s playerId with same | ⟨picked, _, state, same⟩
  · exact ⟨_, [], same, rfl, by simp⟩
  · exact ⟨_, [_], same, rfl, by simp⟩

/-- The ways `eliminateDisconnected` can go. -/
inductive Departs (s : GameSession K) (playerId : Nat) : Elimination K → Prop where
  | ignored (idle : s.finished = true ∨ (s.world.find playerId).filter PlayerState.alive = none) :
      Departs s playerId ⟨s, false, []⟩
  | left {world : World K} (replay : List (ReplayCall K)) (events : List (WorldEvent K))
      (on : s.finished = false)
      (lived : ((s.world.find playerId).filter PlayerState.alive).isSome = true)
      (departed : (s.afterDeparture playerId).1.world = world)
      (tags : ∀ event ∈ events, ∃ next, event = .tagged next none) (goesOn : ¬ Ends s world) :
      Departs s playerId ⟨{ s with world, replay }, true, events.map RoomNotice.event⟩
  | ended {world : World K} (replay : List (ReplayCall K)) (events : List (WorldEvent K))
      (winners : List Nat) (on : s.finished = false)
      (lived : ((s.world.find playerId).filter PlayerState.alive).isSome = true)
      (departed : (s.afterDeparture playerId).1.world = world)
      (tags : ∀ event ∈ events, ∃ next, event = .tagged next none) (ends : Ends s world) :
      Departs s playerId
        ⟨{ s with world, replay, finished := true, pendingTileChanges := [] }, true,
          events.map RoomNotice.event ++ [.finishGame winners]⟩

theorem eliminateDisconnected_departs (s : GameSession K) (playerId : Nat) :
    Departs s playerId (s.eliminateDisconnected playerId) := by
  obtain ⟨world, events, writes, _, tags⟩ := afterDeparture_writes s playerId
  have departed : (s.afterDeparture playerId).1.world = world := by rw [writes]
  unfold eliminateDisconnected
  split
  · rename_i isOver
    exact .ignored (Or.inl isOver)
  · rename_i on
    rw [Bool.not_eq_true] at on
    split
    · rename_i absent
      exact .ignored (Or.inr absent)
    · rename_i found
      have lived : ((s.world.find playerId).filter PlayerState.alive).isSome = true := by
        rw [found]
        rfl
      dsimp only
      rw [writes]
      split
      · rename_i ends
        exact .ended _ events _ on lived departed tags ends
      · rename_i goesOn
        exact .left _ events on lived departed tags goesOn

/-- What the room hears of a tick, before it may hear of the end. -/
def tickNotices (frame : AuthoritativeFrame K) : List (RoomNotice K) :=
  frame.skillRejections.map RoomNotice.skillRejected ++ frame.events.map RoomNotice.event

/-- The session after a tick, but for what it recorded and whether it is over. -/
def advance (s : GameSession K) (stepped : AuthoritativeFrame K) (world : World K)
    (replay : List (ReplayCall K)) : GameSession K :=
  { s with
    world
    pendingSkills := []
    pendingEmojis := []
    pendingTileChanges := s.pendingTileChanges ++ stepped.world.tileChanges
    replay }

/-- The ways a tick of a session can go. -/
inductive Ticks (s : GameSession K) (inputs : List (ResolvedInput K)) (training : TrainingTurn K) :
    SessionStep K → Prop where
  | isOver (finished : s.finished = true) : Ticks s inputs training ⟨s, none, []⟩
  | on {stepped : AuthoritativeFrame K} {world : World K} (replay : List (ReplayCall K))
      (running : s.finished = false)
      (simulated : stepWorld s.world (s.requests inputs training) = stepped)
      (trained : training.after stepped.world = world) (goesOn : ¬ Ends s world) :
      Ticks s inputs training
        ⟨advance s stepped world replay, some { stepped with world }, tickNotices stepped⟩
  | ended {stepped : AuthoritativeFrame K} {world : World K} (replay : List (ReplayCall K))
      (winners : List Nat) (running : s.finished = false)
      (simulated : stepWorld s.world (s.requests inputs training) = stepped)
      (trained : training.after stepped.world = world) (ends : Ends s world) :
      Ticks s inputs training
        ⟨{ advance s stepped world replay with finished := true }, some { stepped with world },
          tickNotices stepped ++ [.finishGame winners]⟩

theorem step_ticks (s : GameSession K) (inputs : List (ResolvedInput K))
    (training : TrainingTurn K) : Ticks s inputs training (s.step inputs training) := by
  unfold GameSession.step
  split
  · rename_i finished
    exact .isOver finished
  · rename_i running
    rw [Bool.not_eq_true] at running
    generalize simulated : stepWorld s.world (s.requests inputs training) = stepped
    dsimp only
    split
    · rename_i ends
      exact .ended _ _ running simulated rfl ends
    · rename_i goesOn
      exact .on _ running simulated rfl goesOn

theorem step_idle {s : GameSession K} (isOver : s.finished = true)
    (inputs : List (ResolvedInput K)) (training : TrainingTurn K) :
    s.step inputs training = ⟨s, none, []⟩ := by
  unfold GameSession.step
  exact if_pos isOver

theorem publishTo_writes (frame : AuthoritativeFrame K) (s : GameSession K) (t : Target) :
    ∃ flags, (publishTo frame s t).1 = { s with needsFullSnapshot := flags } ∧
      ∀ playerId, t.playerId ≠ playerId ∨ t.access = .none →
        (playerId ∈ flags ↔ playerId ∈ s.needsFullSnapshot) := by
  unfold publishTo
  split
  · exact ⟨_, rfl, fun _ _ => Iff.rfl⟩
  · rename_i visible
    dsimp only
    split
    · refine ⟨_, rfl, fun playerId other => ?_⟩
      simp only [visible, or_false] at other
      simp [Ne.symm other]
    · refine ⟨_, rfl, fun playerId other => ?_⟩
      simp only [visible, or_false] at other
      simp [Ne.symm other]

theorem publishAll_writes (frame : AuthoritativeFrame K) (s : GameSession K)
    (targets : List Target) :
    ∃ flags, (publishAll frame s targets).1 = { s with needsFullSnapshot := flags } := by
  induction targets generalizing s with
  | nil => exact ⟨_, rfl⟩
  | cons t rest ih =>
    obtain ⟨_, equal, _⟩ := publishTo_writes frame s t
    obtain ⟨flags, others⟩ := ih (publishTo frame s t).1
    refine ⟨flags, ?_⟩
    rw [publishAll, others, equal]

theorem publish_writes (s : GameSession K) (frame : AuthoritativeFrame K) (targets : List Target) :
    ∃ needsFullSnapshot replay, (s.publish frame targets).1 =
      { s with needsFullSnapshot, pendingTileChanges := [], replay } := by
  obtain ⟨flags, equal⟩ := publishAll_writes frame s targets
  unfold publish
  dsimp only
  rw [equal]
  split <;> exact ⟨_, _, rfl⟩

end SwitchRemake.Game

import SwitchRemake.Game.SessionTurns
import SwitchRemake.Game.Spectators

/-!
# The frame of the last tick

What a session sends from the tick in which it ends.
-/

namespace SwitchRemake.Game
open Lib Simulation Rooms GameSession

variable {K : Type} [JsNumber K]

namespace HostedRoom

/-- What an operation sends, with the number of the session. -/
def sends (h : HostedRoom K) : HostOp K → List (Nat × Delivery K)
  | .tick now inputs publication =>
    h.session.elim [] fun s =>
      (h.tick now inputs noTraining publication).deliveries.map fun delivery => (s.serial, delivery)
  | _ => []

def sendsOf (serial : Nat) : HostedRoom K → List (HostOp K) → List (Delivery K)
  | _, [] => []
  | h, op :: rest =>
    ((h.sends op).filter fun sent => sent.1 = serial).map Prod.snd ++
      sendsOf serial (h.apply op) rest

/-- The room when the session of this tick ends: whoever the tick takes out is marked. -/
def roomAtEnd (h : HostedRoom K) (s : Registered K) (now : Int) (inputs : List (ResolvedInput K)) :
    Room :=
  (h.notices now s.serial (s.game.step inputs noTraining).notices.dropLast).room

/-- Who is to see the last frame: the viewers of the match whose socket takes a snapshot. -/
def lastViewers (h : HostedRoom K) (s : Registered K) (now : Int) (inputs : List (ResolvedInput K))
    (bufferedBytes : Nat → Nat) : List Target :=
  (publicationTargets (h.roomAtEnd s now inputs) bufferedBytes).filter fun viewer =>
    transportSends viewer.bufferedBytes

/-- The frame of the tick in which the session ends goes to each of them once, in that tick or later. -/
def LastFrameShown (h : HostedRoom K) (s : Registered K) (now : Int)
    (inputs : List (ResolvedInput K)) (bufferedBytes : Nat → Nat) (snapshotTick : Bool)
    (later : List (HostOp K)) : Prop :=
  ∀ viewer ∈ h.lastViewers s now inputs bufferedBytes,
    ((h.sendsOf s.serial (.tick now inputs (if snapshotTick then some bufferedBytes else none) ::
      later)).filter fun delivery =>
        delivery.playerId = viewer.playerId && delivery.sent).length = 1

/-! ## Nothing is sent -/

omit [JsNumber K] in
/-- A room that has heard of the end of its match does not play. -/
theorem notice_finish_idle (h : HostedRoom K) (now : Int) (serial : Nat) (winners : List Nat) :
    (notice now serial h (.finishGame winners)).room.state ≠ .playing := by
  unfold notice
  dsimp only
  split
  · unfold HostedRoom.close
    split
    · rename_i closed
      rw [closed]
      nofun
    · rw [transition_closed]
      nofun
  · rename_i room idle
    unfold Room.finishGame at idle
    split at idle
    · assumption
    · dsimp only at idle
      split at idle
      · cases idle
      · simp at idle
  · rename_i room ends
    unfold Room.finishGame at ends
    split at ends
    · simp at ends
    · rename_i playing
      rw [not_not] at playing
      dsimp only at ends
      split at ends
      · cases ends
      · obtain ⟨rfl, _⟩ := Prod.mk.inj (Option.some.inj ends)
        simp [Room.transition, playing, canTransition]

omit [JsNumber K] in
theorem ending_idle (h : HostedRoom K) (now : Int) (serial : Nat) (ns : List (RoomNotice K))
    (winners : List Nat) :
    (h.notices now serial (ns ++ [.finishGame winners])).room.state ≠ .playing := by
  unfold HostedRoom.notices
  rw [List.foldl_append]
  exact notice_finish_idle _ now serial winners

omit [JsNumber K] in
theorem publicationTargets_idle {room : Room} (idle : room.state ≠ .playing)
    (bufferedBytes : Nat → Nat) : publicationTargets room bufferedBytes = [] := by
  unfold publicationTargets Room.snapshotTargets
  rw [if_pos idle]
  rfl

/-- The tick in which a session ends sends nothing: the room has left the match by then. -/
theorem sends_ending {h : HostedRoom K} {s : Registered K} (on : h.session = some s)
    {inputs : List (ResolvedInput K)} (running : s.game.finished = false)
    (ends : (s.game.step inputs noTraining).session.finished = true) (now : Int)
    (publication : Option (Nat → Nat)) : h.sends (.tick now inputs publication) = [] := by
  have law := step_ticks s.game inputs noTraining
  unfold sends tick
  rw [on]
  dsimp only [Option.elim]
  generalize s.game.step inputs noTraining = result at law ends ⊢
  cases law with
  | isOver finished =>
    rw [running] at finished
    cases finished
  | on => exact absurd ends (by simp [Game.advance, running])
  | ended replay winners =>
    split
    · rename_i frame bufferedBytes _
      rw [publicationTargets_idle (ending_idle _ now s.serial _ winners)]
      rfl
    · rfl

theorem sends_retired {h : HostedRoom K} {serial : Nat} (retired : Retired serial h)
    (op : HostOp K) : (h.sends op).filter (fun sent => sent.1 = serial) = [] := by
  apply List.filter_eq_nil_iff.mpr
  intro sent member here
  unfold sends at member
  split at member
  · cases on : h.session with
    | none => simp [on] at member
    | some s =>
      rw [on] at member
      obtain ⟨delivery, sends, rfl⟩ := List.mem_map.mp member
      unfold tick at sends
      rw [on] at sends
      dsimp only at sends
      rw [step_idle (retired.isOver s on (of_decide_eq_true here))] at sends
      cases sends
  · cases member

theorem sendsOf_retired {h : HostedRoom K} {serial : Nat} (retired : Retired serial h)
    (ops : List (HostOp K)) : h.sendsOf serial ops = [] := by
  induction ops generalizing h with
  | nil => rfl
  | cons op rest ih =>
    unfold sendsOf
    rw [sends_retired retired op, ih (retired.apply op)]
    rfl

theorem retired_ending {h : HostedRoom K} {s : Registered K} (on : h.session = some s)
    (known : s.serial < h.serials) {inputs : List (ResolvedInput K)}
    (ends : (s.game.step inputs noTraining).session.finished = true) (now : Int)
    (publication : Option (Nat → Nat)) :
    Retired s.serial (h.apply (.tick now inputs publication)) := by
  refine ⟨known.trans_le (apply_turns h _).serials, ?_⟩
  intro t after _
  change (h.tick now inputs noTraining publication).host.session = some t at after
  unfold tick at after
  rw [on] at after
  dsimp only at after
  generalize s.game.step inputs noTraining = result at ends after
  have moved := notices_session ({ h with session := some { s with game := result.session } } :
    HostedRoom K) now s.serial result.notices
  split at after
  · obtain ⟨_, same, rfl⟩ := Option.map_eq_some_iff.mp after
    obtain ⟨_, _, writes⟩ := publish_writes result.session _ _
    rw [writes]
    exact ends
  · rcases moved with gone | kept
    · rw [gone] at after
      cases after
    · rw [kept] at after
      cases after
      exact ends

/-- From its last tick on a session sends nothing. -/
theorem sendsOf_ending {h : HostedRoom K} {s : Registered K} (on : h.session = some s)
    (known : s.serial < h.serials) (running : s.game.finished = false)
    {inputs : List (ResolvedInput K)}
    (ends : (s.game.step inputs noTraining).session.finished = true) (now : Int)
    (publication : Option (Nat → Nat)) (later : List (HostOp K)) :
    h.sendsOf s.serial (.tick now inputs publication :: later) = [] := by
  unfold sendsOf
  rw [sends_ending on running ends,
    sendsOf_retired (retired_ending on known ends now publication) later]
  rfl

end HostedRoom

open HostedRoom

/-- A match that ends in a tick shows its last frame only where there is nobody to see it. -/
theorem last_frame_shown_iff {host : HostedRoom K} {r : HostRun K} {s : Registered K}
    (fresh : Fresh host) (run : Reach HostRun.Allows HostRun.apply (HostRun.start host) r)
    (on : r.host.session = some s) (running : s.game.finished = false)
    {inputs : List (ResolvedInput K)}
    (ends : (s.game.step inputs noTraining).session.finished = true) (now : Int)
    (bufferedBytes : Nat → Nat) (snapshotTick : Bool) (later : List (HostOp K)) :
    r.host.LastFrameShown s now inputs bufferedBytes snapshotTick later ↔
      r.host.lastViewers s now inputs bufferedBytes = [] := by
  unfold LastFrameShown
  rw [sendsOf_ending on ((lineup_reach fresh run).serials s on) running ends]
  constructor
  · intro shown
    apply List.eq_nil_iff_forall_not_mem.mpr
    intro viewer member
    cases shown viewer member
  · intro nobody viewer member
    rw [nobody] at member
    cases member

/-- Four players start on one spot, and their tagger ends the match in its first tick. -/
def crowded : HostRun ℚ :=
  (gather ++ [HostOp.advance startEnv 29000]).foldl HostRun.apply (HostRun.start newRoom)

theorem crowded_run :
    Reach HostRun.Allows HostRun.apply (HostRun.start newRoom) crowded := by
  apply Reach.of_list
  simp only [gather, join, List.tail_cons, List.cons_append, List.nil_append, AllowedRun,
    HostRun.Allows, HostedRoom.Allows, and_self]

theorem crowded_ends : ∃ s, crowded.host.session = some s ∧ s.game.finished = false ∧
    (s.game.step [] noTraining).session.finished = true ∧
    (crowded.host.lastViewers s 29000 [] fun _ => 0).map Target.playerId = [1, 2, 3, 4] := by
  obtain ⟨s, on⟩ := Option.isSome_iff_exists.mp
    (by decide +kernel : crowded.host.session.isSome = true)
  have facts : ∀ s ∈ crowded.host.session, s.game.finished = false ∧
      (s.game.step [] noTraining).session.finished = true ∧
      (crowded.host.lastViewers s 29000 [] fun _ => 0).map Target.playerId = [1, 2, 3, 4] := by
    decide +kernel
  exact ⟨s, on, facts s on⟩

theorem last_frame_lost : ¬ ∀ (host : HostedRoom ℚ) (r : HostRun ℚ) (s : Registered ℚ),
    Fresh host → Reach HostRun.Allows HostRun.apply (HostRun.start host) r →
    r.host.session = some s → s.game.finished = false → ∀ inputs : List (ResolvedInput ℚ),
    (s.game.step inputs noTraining).session.finished = true →
    ∀ (now : Int) (bufferedBytes : Nat → Nat) (snapshotTick : Bool) (later : List (HostOp ℚ)),
      r.host.LastFrameShown s now inputs bufferedBytes snapshotTick later := by
  intro claim
  obtain ⟨s, on, running, ends, viewers⟩ := crowded_ends
  have shown := claim newRoom crowded s newRoom_fresh crowded_run on running [] ends 29000
    (fun _ => 0) true []
  have sent := sendsOf_ending on ((lineup_reach newRoom_fresh crowded_run).serials s on) running
    ends 29000 (some fun _ => 0) []
  unfold LastFrameShown at shown
  rw [if_pos rfl, sent] at shown
  cases present : crowded.host.lastViewers s 29000 [] fun _ => 0 with
  | nil =>
    rw [present] at viewers
    cases viewers
  | cons viewer rest => cases shown viewer (present ▸ List.mem_cons_self)

theorem last_frame_shown_crowded : ∃ s, crowded.host.session = some s ∧
    (crowded.host.LastFrameShown s 29000 [] (fun _ => 0) false [.tick 29017 [] (some fun _ => 0)] ↔
      crowded.host.lastViewers s 29000 [] (fun _ => 0) = []) := by
  obtain ⟨s, on, running, ends, _⟩ := crowded_ends
  exact ⟨s, on, last_frame_shown_iff newRoom_fresh crowded_run on running ends 29000 _ false _⟩

end SwitchRemake.Game

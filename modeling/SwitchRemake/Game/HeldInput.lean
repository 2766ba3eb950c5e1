import SwitchRemake.Game.Spectators
import SwitchRemake.Shared.Input

/-!
# Held inputs

`acceptInput` and `resolvedInputs` of `rooms/room.ts`. The last input of a member stands beside the
room it is a field of, by the member's account.
-/

namespace SwitchRemake.Game
open Lib Simulation Rooms Shared

structure MemberInput where
  latestInput : Option InputState
  lastInputSequence : Option Nat
deriving DecidableEq

def MemberInput.empty : MemberInput := ⟨none, none⟩

structure InputRoom (K : Type) where
  host : HostedRoom K
  inputs : ActorId → MemberInput

/-- The connection is that of a member who plays in a running match. -/
def Playing (room : Room) (connection : Connection) : Prop :=
  room.state = .playing ∧ ∃ member, room.roster.getByUser connection.userId = some member ∧
    member.connection.map Connection.id = some connection.id ∧ member.role = .player ∧
      member.spectatorEligible = false

namespace InputRoom
variable {K : Type}

def setInput (r : InputRoom K) (userId : ActorId) (input : MemberInput) : InputRoom K :=
  { r with inputs := fun other => if other = userId then input else r.inputs other }

@[simp] theorem setInput_host (r : InputRoom K) (userId : ActorId) (input : MemberInput) :
    (r.setInput userId input).host = r.host := rfl

@[simp] theorem setInput_own (r : InputRoom K) (userId : ActorId) (input : MemberInput) :
    (r.setInput userId input).inputs userId = input := if_pos rfl

theorem setInput_other (r : InputRoom K) {userId other : ActorId} (input : MemberInput)
    (apart : other ≠ userId) : (r.setInput userId input).inputs other = r.inputs other :=
  if_neg apart

def acceptInput (r : InputRoom K) (connection : Connection) (input : InputState) :
    InputRoom K × Bool :=
  match r.host.room.roster.getByUser connection.userId with
  | none => (r, false)
  | some member =>
    if r.host.room.state ≠ .playing ∨
        member.connection.map Connection.id ≠ some connection.id ∨
        member.role ≠ .player ∨ member.spectatorEligible then (r, false)
    else if (r.inputs connection.userId).lastInputSequence.any
        fun last => !isNewerSequence input.sequence last then (r, false)
    else (r.setInput connection.userId ⟨some input, some input.sequence⟩, true)

/-- The body of the loop of `resolvedInputs`. -/
def heldInput [JsNumber K] (r : InputRoom K) (member : LobbyMember) : Option (ResolvedInput K) :=
  if member.connection = none ∨ member.role ≠ .player ∨ member.spectatorEligible then none
  else match r.inputs member.userId with
    | ⟨some input, some _⟩ => some (resolveInput input member.playerId)
    | _ => none

def resolvedInputs [JsNumber K] (r : InputRoom K) : List (ResolvedInput K) :=
  if r.host.room.state ≠ .playing then [] else r.host.room.members.filterMap r.heldInput

def sameConnection (member now : LobbyMember) : Prop :=
  now.connection.map Connection.id = member.connection.map Connection.id

instance (member now : LobbyMember) : Decidable (sameConnection member now) :=
  inferInstanceAs (Decidable (_ = _))

/-- What an operation of the room leaves of a member's input. `bindConnection`, a new seat, the
start of a match and the return to the lobby clear both fields; `disconnect`, an elimination and a
change of the spectator's role clear the input. -/
def kept (before after : Room) (userId : ActorId) (input : MemberInput) : MemberInput :=
  match before.roster.getByUser userId, after.roster.getByUser userId with
  | some member, some now =>
    if before.state ≠ after.state ∧ (after.state = .playing ∨ after.state = .waiting) then .empty
    else if now.connection ≠ none ∧ ¬ sameConnection member now then .empty
    else if ¬ sameConnection member now ∨
        now.spectatorEligible ≠ member.spectatorEligible ∨ now.role ≠ member.role then
      { input with latestInput := none }
    else input
  | _, _ => .empty

def apply [JsNumber K] (r : InputRoom K) (op : HostOp K) : InputRoom K :=
  let host := r.host.apply op
  { host, inputs := fun userId => kept r.host.room host.room userId (r.inputs userId) }

/-- Nobody's input outlives the start of a match or the binding of a socket. -/
theorem apply_fresh [JsNumber K] {r : InputRoom K} {op : HostOp K} {connection : Connection}
    (apart : r.host.room.state ≠ .playing ∨
      ∀ member, r.host.room.roster.getByUser connection.userId = some member →
        member.connection.map Connection.id ≠ some connection.id)
    (playing : Playing (r.apply op).host.room connection) :
    (r.apply op).inputs connection.userId = .empty := by
  obtain ⟨on, now, present, own, -, -⟩ := playing
  change kept r.host.room (r.host.apply op).room connection.userId _ = .empty
  change (r.host.apply op).room.state = .playing at on
  change (r.host.apply op).room.roster.getByUser connection.userId = some now at present
  unfold kept
  cases before : r.host.room.roster.getByUser connection.userId with
  | none => rfl
  | some member =>
    simp only [present, on]
    by_cases still : r.host.room.state = .playing
    · have bound : now.connection ≠ none := by
        intro unset
        rw [unset] at own
        cases own
      have other : ¬ sameConnection member now := fun same =>
        apart.resolve_left (not_not_intro still) member before (same.symm.trans own)
      rw [if_neg fun moved => moved.1 still, if_pos ⟨bound, other⟩]
    · rw [if_pos ⟨still, .inl trivial⟩]

/-- The room leaves the input alone of whoever plays on. -/
theorem apply_kept [JsNumber K] {r : InputRoom K} {op : HostOp K} {connection : Connection}
    (playing : Playing r.host.room connection)
    (after : Playing (r.apply op).host.room connection) :
    (r.apply op).inputs connection.userId = r.inputs connection.userId := by
  obtain ⟨on, member, present, own, role, alive⟩ := playing
  obtain ⟨still, now, remains, same, part, lives⟩ := after
  change kept r.host.room (r.host.apply op).room connection.userId _ = _
  change (r.host.apply op).room.state = .playing at still
  change (r.host.apply op).room.roster.getByUser connection.userId = some now at remains
  have alike : sameConnection member now := same.trans own.symm
  simp [kept, present, remains, on, still, alike, lives, alive, part, role]

/-- Whether the input of a player is accepted depends on its number alone. -/
theorem acceptInput_playing {r : InputRoom K} {connection : Connection}
    (playing : Playing r.host.room connection) (input : InputState) :
    r.acceptInput connection input =
      if (r.inputs connection.userId).lastInputSequence.any
        fun last => !isNewerSequence input.sequence last then (r, false)
      else (r.setInput connection.userId ⟨some input, some input.sequence⟩, true) := by
  obtain ⟨on, member, present, own, role, alive⟩ := playing
  unfold acceptInput
  simp only [present, on, own, role, alive]
  exact if_neg (by simp)

theorem acceptInput_host (r : InputRoom K) (connection : Connection) (input : InputState) :
    (r.acceptInput connection input).1.host = r.host := by
  unfold acceptInput
  split
  · rfl
  · split
    · rfl
    · split <;> rfl

/-- Another connection does not reach the input of a player. -/
theorem acceptInput_other {r : InputRoom K} {connection other : Connection}
    (playing : Playing r.host.room connection)
    (apart : ¬ (other.userId = connection.userId ∧ other.id = connection.id))
    (input : InputState) :
    (r.acceptInput other input).1.inputs connection.userId = r.inputs connection.userId := by
  obtain ⟨on, member, present, own, role, alive⟩ := playing
  by_cases same : other.userId = connection.userId
  · have unlike : member.connection.map Connection.id ≠ some other.id := by
      rw [own]
      exact fun equal => apart ⟨same, (Option.some.inj equal).symm⟩
    simp only [acceptInput, same, present]
    rw [if_pos (.inr (.inl unlike))]
  · unfold acceptInput
    split
    · rfl
    · split
      · rfl
      · split
        · rfl
        · exact setInput_other r _ (Ne.symm same)

theorem mem_resolvedInputs [JsNumber K] {r : InputRoom K} {member : LobbyMember}
    {input : ResolvedInput K} (on : r.host.room.state = .playing)
    (present : member ∈ r.host.room.members) (holds : r.heldInput member = some input) :
    input ∈ r.resolvedInputs := by
  rw [resolvedInputs, if_neg (not_not_intro on)]
  exact List.mem_filterMap.mpr ⟨member, present, holds⟩

end InputRoom

/-! ## The deliveries of one connection -/

/-- A room while a connection plays in it, with the newest of the client's packets delivered so far
and those accepted. -/
structure InputRun (K : Type) where
  room : InputRoom K
  newest : Option Nat
  accepted : List Nat

inductive InputOp (K : Type) where
  /-- The network delivers the `n`-th packet of the client. -/
  | deliver (n : Nat)
  /-- An input comes in on another connection. -/
  | receive (other : Connection) (input : InputState)
  | room (op : HostOp K)

namespace InputRun
variable {K : Type} [JsNumber K]

def start (room : InputRoom K) : InputRun K := ⟨room, none, []⟩

def apply (packet : Nat → InputState) (connection : Connection) (r : InputRun K) :
    InputOp K → InputRun K
  | .deliver n =>
    let taken := r.room.acceptInput connection (wired (packet n))
    { room := taken.1
      newest := some (r.newest.elim n (max n))
      accepted := if taken.2 then r.accepted ++ [n] else r.accepted }
  | .receive other input => { r with room := (r.room.acceptInput other input).1 }
  | .room op => { r with room := r.room.apply op }

/-- Packets are lost, doubled and delivered in any order, less than half a turn apart, and the
connection plays on. -/
def Allows (connection : Connection) (r : InputRun K) : InputOp K → Prop
  | .deliver n => ∀ newest ∈ r.newest, ((n : Int) - newest).natAbs < 32768
  | .receive other _ => ¬ (other.userId = connection.userId ∧ other.id = connection.id)
  | .room op => Playing (r.room.apply op).host.room connection

/-- The room holds the newest packet, which is the last that was accepted. -/
structure Follows (packet : Nat → InputState) (connection : Connection) (r : InputRun K) :
    Prop where
  playing : Playing r.room.host.room connection
  held : r.room.inputs connection.userId = r.newest.elim .empty fun n =>
    ⟨some (wired (packet n)), some (wired (packet n)).sequence⟩
  ordered : r.accepted.Pairwise (· < ·)
  accepted : ∀ n ∈ r.accepted, ∃ newest, r.newest = some newest ∧ n ≤ newest

variable {packet : Nat → InputState} {connection : Connection} {r : InputRun K}

omit [JsNumber K] in
/-- A packet is accepted if and only if it is newer than all before it. -/
theorem deliver_cases (sequenced : Sequenced packet) (follows : Follows packet connection r)
    {n : Nat} (near : ∀ newest ∈ r.newest, ((n : Int) - newest).natAbs < 32768) :
    ((∀ newest ∈ r.newest, newest < n) ∧ r.room.acceptInput connection (wired (packet n)) =
        (r.room.setInput connection.userId
          ⟨some (wired (packet n)), some (wired (packet n)).sequence⟩, true)) ∨
      ∃ newest, r.newest = some newest ∧ n ≤ newest ∧
        r.room.acceptInput connection (wired (packet n)) = (r.room, false) := by
  rw [InputRoom.acceptInput_playing follows.playing, follows.held]
  cases latest : r.newest with
  | none => exact .inl ⟨by simp, if_neg (by simp [MemberInput.empty])⟩
  | some newest =>
    have newer := isNewerSequence_iff sequenced (near newest latest)
    by_cases later : newest < n
    · refine .inl ⟨?_, if_neg ?_⟩
      · rintro _ ⟨⟩
        exact later
      · simp [newer.mpr later]
    · have stale := mt newer.mp later
      refine .inr ⟨newest, rfl, Nat.le_of_not_lt later, if_pos ?_⟩
      simpa using stale

theorem Follows.deliver (sequenced : Sequenced packet) (follows : Follows packet connection r)
    {n : Nat} (near : ∀ newest ∈ r.newest, ((n : Int) - newest).natAbs < 32768) :
    Follows packet connection (r.apply packet connection (.deliver n)) := by
  have host := InputRoom.acceptInput_host r.room connection (wired (packet n))
  have playing : Playing (r.apply packet connection (.deliver n)).room.host.room connection := by
    change Playing (r.room.acceptInput connection (wired (packet n))).1.host.room connection
    rw [host]
    exact follows.playing
  rcases deliver_cases sequenced follows near with ⟨later, taken⟩ | ⟨newest, latest, old, refused⟩
  · have newest : r.newest.elim n (max n) = n := by
      cases latest : r.newest with
      | none => rfl
      | some newest => exact max_eq_left (later newest latest).le
    refine ⟨playing, ?_, ?_, ?_⟩ <;> simp only [apply, taken, newest, if_true]
    · exact InputRoom.setInput_own _ _ _
    · refine List.pairwise_append.mpr ⟨follows.ordered, List.pairwise_singleton _ _, ?_⟩
      rintro m before _ last
      obtain ⟨newest, latest, most⟩ := follows.accepted m before
      rw [List.mem_singleton.mp last]
      exact most.trans_lt (later newest latest)
    · intro m member
      refine ⟨n, rfl, ?_⟩
      rcases List.mem_append.mp member with before | last
      · obtain ⟨newest, latest, most⟩ := follows.accepted m before
        exact most.trans (later newest latest).le
      · exact (List.mem_singleton.mp last).le
  · have same : some (r.newest.elim n (max n)) = r.newest := by
      rw [latest]
      exact congrArg some (max_eq_right old)
    refine ⟨playing, ?_, ?_, ?_⟩ <;> simp only [apply, refused, same]
    · exact follows.held
    · exact follows.ordered
    · exact follows.accepted

theorem Follows.apply (sequenced : Sequenced packet) (follows : Follows packet connection r)
    {op : InputOp K} (may : r.Allows connection op) :
    Follows packet connection (r.apply packet connection op) := by
  cases op with
  | deliver n => exact follows.deliver sequenced may
  | receive other input =>
    refine ⟨?_, ?_, follows.ordered, follows.accepted⟩
    · change Playing (r.room.acceptInput other input).1.host.room connection
      rw [InputRoom.acceptInput_host]
      exact follows.playing
    · exact (InputRoom.acceptInput_other follows.playing may input).trans follows.held
  | room op =>
    exact ⟨may, (InputRoom.apply_kept follows.playing may).trans follows.held, follows.ordered,
      follows.accepted⟩

end InputRun

open InputRun

/-- On a connection that plays, inputs are accepted in the client's order, and the newest packet
delivered is the one that is held. The connection begins to play with the operation `op`. -/
theorem newest_input_held {K : Type} [JsNumber K] {packet : Nat → InputState}
    (sequenced : Sequenced packet) {connection : Connection} {before : InputRoom K}
    {op : HostOp K}
    (apart : before.host.room.state ≠ .playing ∨
      ∀ member, before.host.room.roster.getByUser connection.userId = some member →
        member.connection.map Connection.id ≠ some connection.id)
    (playing : Playing (before.apply op).host.room connection) {r : InputRun K}
    (run : Reach (InputRun.Allows connection) (InputRun.apply packet connection)
      (.start (before.apply op)) r) :
    r.accepted.Pairwise (· < ·) ∧ ∀ n, r.newest = some n →
      (r.room.inputs connection.userId).latestInput = some (wired (packet n)) ∧
      ∃ member, r.room.host.room.roster.getByUser connection.userId = some member ∧
        r.room.heldInput member = some (resolveInput (wired (packet n)) member.playerId) ∧
        resolveInput (wired (packet n)) member.playerId ∈ r.room.resolvedInputs := by
  have begins : Follows packet connection (.start (before.apply op)) :=
    ⟨playing, InputRoom.apply_fresh apart playing, .nil, by simp [InputRun.start]⟩
  have follows := run.invariant begins fun _ _ follows may => follows.apply sequenced may
  refine ⟨follows.ordered, fun n newest => ?_⟩
  obtain ⟨on, member, present, own, role, alive⟩ := follows.playing
  have held := follows.held
  rw [newest] at held
  obtain ⟨listed, user⟩ := LobbyRoster.getByUser_some present
  have bound : member.connection ≠ none := by
    intro unset
    rw [unset] at own
    cases own
  have resolved : r.room.heldInput member =
      some (resolveInput (wired (packet n)) member.playerId) := by
    rw [InputRoom.heldInput, if_neg (by simp [bound, role, alive]), user, held]
    rfl
  refine ⟨by rw [held]; rfl, member, present, resolved, ?_⟩
  exact InputRoom.mem_resolvedInputs on (LobbyRoster.mem_members.mpr listed) resolved

/-- Packet `n` of a client that starts with the last number before the turn. -/
def turning (n : Nat) : InputState := ⟨(65535 + n) % 65536, true, false, false, false, 0⟩

def counting : InputRoom ℚ := ⟨gather.foldl HostedRoom.apply newRoom, fun _ => .empty⟩

/-- The countdown of four players ends, and the second of them sends. -/
theorem newest_input_held_turning :
    let r := [InputOp.deliver 0, .deliver 2, .deliver 1].foldl
      (InputRun.apply turning (socket 2 2 false))
      (.start (counting.apply (.advance startEnv 29000)))
    r.accepted = [0, 2] ∧ r.accepted.Pairwise (· < ·) ∧
      (r.room.inputs (.account 2)).latestInput = some (wired (turning 2)) := by
  intro r
  have sequenced : Sequenced turning := by
    intro n
    rw [nextSequence, and_ffff]
    simp only [turning]
    omega
  have fresh : counting.host.room.state ≠ .playing := by decide +kernel
  have playing : Playing (counting.apply (.advance startEnv 29000)).host.room
      (socket 2 2 false) := by
    have present : (counting.apply (.advance startEnv 29000)).host.room.state = .playing ∧
        ((counting.apply (.advance startEnv 29000)).host.room.roster.getByUser
          (.account 2)).any (fun member =>
            member.connection.map Connection.id = some 2 ∧ member.role = .player ∧
              member.spectatorEligible = false) := by decide +kernel
    obtain ⟨member, found, plays⟩ := Option.any_eq_true _ _ |>.mp present.2
    exact ⟨present.1, member, found, of_decide_eq_true plays⟩
  have near : AllowedRun (InputRun.Allows (socket 2 2 false))
      (InputRun.apply turning (socket 2 2 false))
      (.start (counting.apply (.advance startEnv 29000)))
      [InputOp.deliver 0, .deliver 2, .deliver 1] := by
    simp [AllowedRun, InputRun.Allows, InputRun.apply, InputRun.start]
  have held := newest_input_held sequenced (.inl fresh) playing (.of_list near)
  exact ⟨by decide +kernel, held.1, (held.2 2 (by decide +kernel)).1⟩

end SwitchRemake.Game

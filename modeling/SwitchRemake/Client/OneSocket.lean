import SwitchRemake.Client.GameConnection
import Mathlib.Data.List.Perm.Basic

/-!
# One socket, and for the room of the last connect

A reconnect attempt that was begun before the last `connect` must not end while the session
reconnects.
-/

namespace SwitchRemake.Client.Connection
open Lib

/-- Its promise was rejected. -/
def Socket.refused (socket : Socket) : Bool := socket.settled && !socket.authenticated

namespace GameSession
variable {s : GameSession} {k i : Nat} {socket : Socket} {now : Int}

/-- The attempt belongs to the connection the session is about. -/
def Current (s : GameSession) (generation asked : Nat) : Prop :=
  generation = s.connectionGeneration ∧ asked = s.asked

instance (s : GameSession) (generation asked : Nat) : Decidable (s.Current generation asked) :=
  inferInstanceAs (Decidable (_ ∧ _))

/-- The resume requests of this connection. -/
def asking (s : GameSession) : List Attempt :=
  s.resuming.filter fun a => s.Current a.generation a.asked

/-- Nothing is on its way that would open a socket. -/
def Still (s : GameSession) : Prop := s.reconnectTimer = none ∧ s.asking = []

structure Sound (s : GameSession) : Prop where
  opened : ∀ socket ∈ s.sockets, some socket.grant.roomId = socket.latest
  authenticated : ∀ socket ∈ s.sockets, socket.authenticated = true → socket.settled = true
  past : ∀ socket ∈ s.sockets,
    socket.generation ≤ s.connectionGeneration ∧ socket.asked ≤ s.asked
  live : ∀ k socket, s.sockets[k]? = some socket → socket.live = true → s.socket = some k
  mine : ∀ k socket, s.sockets[k]? = some socket → socket.reconnects = true →
    socket.settled = false → s.Current socket.generation socket.asked → s.socket = some k
  current : ∀ k, s.socket = some k → ∃ socket, s.sockets[k]? = some socket ∧
    s.Current socket.generation socket.asked ∧ some socket.grant.roomId = s.latest
  room : s.status ≠ .idle → s.roomId = s.latest
  awake : s.status = .idle → s.socket = none
  timer : ∀ a, s.reconnectTimer = some a →
    s.Current a.generation a.asked ∧ some a.roomId = s.latest
  resuming : ∀ a ∈ s.resuming, s.Current a.generation a.asked → some a.roomId = s.latest
  earlier : ∀ a ∈ s.resuming, a.generation ≤ s.connectionGeneration ∧ a.asked ≤ s.asked
  one : s.reconnectTimer.toList.length + s.asking.length ≤ 1
  busy : ∀ k socket, s.socket = some k → s.sockets[k]? = some socket → socket.refused = false →
    s.Still

/-! ## The parts of a step -/

theorem Sound.cancelReconnect (sound : Sound s) : Sound s.cancelReconnect :=
  { sound with
    timer := by
      intro a same
      cases same
    one := by
      have one := sound.one
      show 0 + s.asking.length ≤ 1
      omega
    busy := fun k socket here found free => ⟨rfl, (sound.busy k socket here found free).2⟩ }

theorem Sound.finishDisconnected (sound : Sound s) (awake : s.status ≠ .idle) :
    Sound s.finishDisconnected :=
  { sound.cancelReconnect with
    room := fun _ => sound.room awake
    awake := by
      intro same
      cases same }

/-- The current socket, if there is one, was refused. -/
def Refused (s : GameSession) : Prop :=
  ∀ k socket, s.socket = some k → s.sockets[k]? = some socket → socket.refused = true

theorem Sound.scheduleReconnect (sound : Sound s) (awake : s.status ≠ .idle) (still : s.Still)
    (refused : s.Refused) : Sound (s.scheduleReconnect now) := by
  unfold GameSession.scheduleReconnect
  split
  · exact sound
  · split
    · exact sound.finishDisconnected awake
    · rename_i roomId named
      have room : some roomId = s.latest := by
        rw [← sound.room awake, ← named]
        cases found : s.roomId with
        | none =>
          rw [found] at named
          cases named
        | some other =>
          rw [found] at named
          simp only [Option.filter_some] at named ⊢
          split at named
          · rename_i keeps
            rw [if_pos keeps]
          · cases named
      dsimp only
      split
      · have started : Sound { s with reconnectStartedAt := some (s.reconnectStartedAt.getD now) } :=
          { sound with }
        exact started.finishDisconnected awake
      · refine { sound with room := ?_, awake := ?_, timer := ?_, one := ?_, busy := ?_ }
        · exact fun _ => sound.room awake
        · intro same
          cases same
        · intro a same
          cases same
          exact ⟨⟨rfl, rfl⟩, room⟩
        · show 1 + s.asking.length ≤ 1
          rw [still.2]
          simp
        · intro k socket here found free
          rw [refused k socket here found] at free
          cases free

theorem Sound.attemptFails (sound : Sound s) {generation : Nat}
    (may : generation = s.connectionGeneration → s.status = .reconnecting → s.Still ∧ s.Refused) :
    Sound (s.attemptFails generation now) := by
  unfold GameSession.attemptFails
  split
  · rename_i mine
    obtain ⟨still, refused⟩ := may mine.1 mine.2
    refine sound.scheduleReconnect ?_ still refused
    rw [mine.2]
    exact fun same => by cases same
  · exact sound

theorem Sound.attemptEnds (sound : Sound s) (generation : Nat) : Sound (s.attemptEnds generation) := by
  unfold GameSession.attemptEnds
  split
  · exact { sound with }
  · exact sound

/-- The same socket, later. -/
structure Renews (socket later : Socket) : Prop where
  grant : later.grant = socket.grant
  generation : later.generation = socket.generation
  asked : later.asked = socket.asked
  reconnects : later.reconnects = socket.reconnects
  latest : later.latest = socket.latest
  live : later.live = true → socket.live = true
  settled : socket.settled = true → later.settled = true
  refused : socket.refused = true → later.refused = true
  authenticated : later.authenticated = true → later.settled = true

theorem getElem?_setSocket {f : Socket → Socket} (found : s.sockets[k]? = some socket) (j : Nat) :
    (s.setSocket k f).sockets[j]? = if j = k then some (f socket) else s.sockets[j]? := by
  show (s.sockets.modify k f)[j]? = _
  rw [List.getElem?_modify]
  by_cases same : j = k
  · subst same
    simp [found]
  · simp [same, Ne.symm same]

theorem mem_setSocket {f : Socket → Socket} {x : Socket} (found : s.sockets[k]? = some socket)
    (member : x ∈ (s.setSocket k f).sockets) : x = f socket ∨ x ∈ s.sockets := by
  obtain ⟨j, here⟩ := List.mem_iff_getElem?.mp member
  rw [getElem?_setSocket found] at here
  split at here
  · exact .inl (Option.some_inj.mp here).symm
  · exact .inr (List.mem_of_getElem? here)

theorem Sound.setSocket (sound : Sound s) {f : Socket → Socket} (found : s.sockets[k]? = some socket)
    (renews : Renews socket (f socket)) : Sound (s.setSocket k f) := by
  have member : socket ∈ s.sockets := List.mem_of_getElem? found
  refine { sound with opened := ?_, authenticated := ?_, past := ?_, live := ?_, mine := ?_,
                      current := ?_, busy := ?_ }
  · intro x here
    rcases mem_setSocket found here with rfl | old
    · rw [renews.grant, renews.latest]
      exact sound.opened socket member
    · exact sound.opened x old
  · intro x here
    rcases mem_setSocket found here with rfl | old
    · exact renews.authenticated
    · exact sound.authenticated x old
  · intro x here
    rcases mem_setSocket found here with rfl | old
    · rw [renews.generation, renews.asked]
      exact sound.past socket member
    · exact sound.past x old
  · intro j x here live
    rw [getElem?_setSocket found] at here
    split at here
    · rename_i same
      cases here
      exact same ▸ sound.live k socket found (renews.live live)
    · exact sound.live j x here live
  · intro j x here reconnects unsettled current
    rw [getElem?_setSocket found] at here
    split at here
    · rename_i same
      cases here
      rw [renews.reconnects] at reconnects
      rw [renews.generation, renews.asked] at current
      refine same ▸ sound.mine k socket found reconnects ?_ current
      cases settled : socket.settled with
      | false => rfl
      | true =>
        rw [renews.settled settled] at unsettled
        cases unsettled
    · exact sound.mine j x here reconnects unsettled current
  · intro j here
    obtain ⟨x, there, current, room⟩ := sound.current j here
    rw [getElem?_setSocket found]
    split
    · rename_i same
      rw [same, found, Option.some_inj] at there
      subst there
      refine ⟨_, rfl, ?_, ?_⟩
      · rw [renews.generation, renews.asked]
        exact current
      · rw [renews.grant]
        exact room
    · exact ⟨x, there, current, room⟩
  · intro j x here there free
    rw [getElem?_setSocket found] at there
    split at there
    · rename_i same
      cases there
      refine sound.busy k socket (same ▸ here) found ?_
      cases refused : socket.refused with
      | false => rfl
      | true =>
        rw [renews.refused refused] at free
        cases free
    · exact sound.busy j x here there free

/-- The current socket closes: the session has none. -/
theorem Sound.release (sound : Sound s) {f : Socket → Socket} (found : s.sockets[k]? = some socket)
    (renews : Renews socket (f socket)) (here : s.socket = some k)
    (dead : (f socket).live = false) (settled : (f socket).settled = true) :
    Sound { s.setSocket k f with socket := none } := by
  have kept := sound.setSocket found renews
  refine { kept with live := ?_, mine := ?_, current := ?_, awake := fun _ => rfl, busy := ?_ }
  · intro j x there live
    have same := kept.live j x there live
    rw [show (s.setSocket k f).socket = some k from here, Option.some_inj] at same
    subst same
    change (s.setSocket k f).sockets[k]? = some x at there
    rw [getElem?_setSocket found, if_pos rfl, Option.some_inj] at there
    rw [← there, dead] at live
    cases live
  · intro j x there reconnects unsettled current
    have same := kept.mine j x there reconnects unsettled current
    rw [show (s.setSocket k f).socket = some k from here, Option.some_inj] at same
    subst same
    change (s.setSocket k f).sockets[k]? = some x at there
    rw [getElem?_setSocket found, if_pos rfl, Option.some_inj] at there
    rw [← there, settled] at unsettled
    cases unsettled
  · intro j none
    cases none
  · intro j x none
    cases none

theorem Sound.openSocket (sound : Sound s) {grant : Grant} {reconnects : Bool}
    (dead : ∀ socket ∈ s.sockets, socket.live = false)
    (settled : ∀ socket ∈ s.sockets, socket.reconnects = true →
      s.Current socket.generation socket.asked → socket.settled = true)
    (still : s.Still) (awake : s.status ≠ .idle) (room : some grant.roomId = s.latest) :
    Sound (s.openSocket grant s.asked reconnects) := by
  have new (j : Nat) : (s.openSocket grant s.asked reconnects).sockets[j]? =
      if j = s.sockets.length then
        some ⟨grant, s.connectionGeneration, s.asked, reconnects, s.latest, .connecting, true, false,
          false, true⟩
      else s.sockets[j]? := by
    show (s.sockets ++ [_])[j]? = _
    rw [List.getElem?_append]
    split
    · rename_i small
      rw [if_neg (Nat.ne_of_lt small)]
    · rename_i large
      split
      · rename_i same
        simp [same]
      · have past : s.sockets.length ≤ j := Nat.le_of_not_lt large
        rw [List.getElem?_eq_none (by simp; omega), List.getElem?_eq_none past]
  have members : ∀ socket ∈ (s.openSocket grant s.asked reconnects).sockets,
      socket ∈ s.sockets ∨ socket = ⟨grant, s.connectionGeneration, s.asked, reconnects, s.latest,
        .connecting, true, false, false, true⟩ := by
    intro socket member
    rcases List.mem_append.mp member with old | new
    · exact .inl old
    · exact .inr (List.mem_singleton.mp new)
  refine { sound with opened := ?_, authenticated := ?_, past := ?_, live := ?_, mine := ?_,
                      current := ?_, awake := ?_, busy := ?_ }
  · intro socket member
    rcases members socket member with old | rfl
    · exact sound.opened socket old
    · exact room
  · intro socket member
    rcases members socket member with old | rfl
    · exact sound.authenticated socket old
    · intro same
      cases same
  · intro socket member
    rcases members socket member with old | rfl
    · exact sound.past socket old
    · exact ⟨Nat.le_refl _, Nat.le_refl _⟩
  · intro j socket here live
    rw [new] at here
    split at here
    · rename_i same
      rw [same]
      rfl
    · rw [dead socket (List.mem_of_getElem? here)] at live
      cases live
  · intro j socket here mine unsettled current
    rw [new] at here
    split at here
    · rename_i same
      rw [same]
      rfl
    · rw [settled socket (List.mem_of_getElem? here) mine current] at unsettled
      cases unsettled
  · intro j same
    cases same
    rw [new, if_pos rfl]
    exact ⟨_, rfl, ⟨rfl, rfl⟩, room⟩
  · intro idle
    exact absurd idle awake
  · intro _ _ _ _ _
    exact still

/-! ## A step -/

theorem renews_settled {x : Socket} : Renews x { x with settled := true } where
  grant := rfl
  generation := rfl
  asked := rfl
  reconnects := rfl
  latest := rfl
  live := id
  settled _ := rfl
  refused refused := by
    simp only [Socket.refused, Bool.and_eq_true] at refused ⊢
    exact ⟨trivial, refused.2⟩
  authenticated _ := rfl

/-- The end of an attempt counts only if the attempt belongs to this connection. -/
def OwnAttempt (s : GameSession) (generation asked : Nat) : Prop :=
  generation = s.connectionGeneration → s.status = .reconnecting → asked = s.asked

theorem Sound.settleError (sound : Sound s) {x : Socket} (found : s.sockets[k]? = some x)
    (settled : x.settled = socket.settled) (reconnects : x.reconnects = socket.reconnects)
    (generation : x.generation = socket.generation)
    (own : x.reconnects = true → x.settled = false → s.OwnAttempt x.generation x.asked) :
    Sound (s.settleError k socket now) := by
  unfold GameSession.settleError
  rw [← settled, ← reconnects, ← generation]
  split
  · exact sound
  · rename_i unsettled
    have pending : x.settled = false := Bool.eq_false_iff.mpr unsettled
    have rejected := sound.setSocket (f := fun socket => { socket with settled := true }) found
      renews_settled
    split
    · rename_i attempt
      apply rejected.attemptFails
      intro current waits
      have here := sound.mine k x found attempt pending ⟨current, own attempt pending current waits⟩
      have still : s.Still := sound.busy k x here found (by simp [Socket.refused, pending])
      refine ⟨still, ?_⟩
      intro j y there found'
      have same : j = k := Option.some_inj.mp (there.symm.trans here)
      rw [same, getElem?_setSocket found, if_pos rfl, Option.some_inj] at found'
      have silent : x.authenticated = false := by
        cases known : x.authenticated with
        | false => rfl
        | true =>
          rw [sound.authenticated x (List.mem_of_getElem? found) known] at pending
          cases pending
      simp [← found', Socket.refused, silent]
    · exact rejected

theorem Sound.authOk (sound : Sound s) (found : s.sockets[k]? = some socket) {roomId : String}
    (names : roomId = socket.grant.roomId) : Sound (s.authOk k socket roomId) := by
  unfold GameSession.authOk
  split
  · exact sound
  · rename_i here
    have here : s.socket = some k := not_not.mp here
    have room : some roomId = s.latest := by
      obtain ⟨current, there, _, room⟩ := sound.current k here
      rw [found, Option.some_inj] at there
      rw [names, there, room]
    have connected : Sound { s with status := .connected, roomId := some roomId } :=
      { sound with
        room := fun _ => room
        awake := by
          intro same
          cases same }
    dsimp only
    split
    · exact connected
    · rename_i pending
      have accepted := connected.setSocket (f := fun socket =>
        { socket with authenticated := true, settled := true, expiryTimer := false }) found
        { grant := rfl
          generation := rfl
          asked := rfl
          reconnects := rfl
          latest := rfl
          live := id
          settled := fun _ => rfl
          refused := by
            intro refused
            simp only [Socket.refused, Bool.and_eq_true] at refused
            exact absurd refused.1 pending
          authenticated := fun _ => rfl }
      split
      · exact accepted.attemptEnds socket.generation
      · exact accepted

theorem Sound.errorMessage (sound : Sound s) (found : s.sockets[k]? = some socket)
    {retryable : Bool} : Sound (s.errorMessage k socket retryable now) := by
  unfold GameSession.errorMessage
  split
  · exact sound
  · rename_i here
    have here : s.socket = some k := not_not.mp here
    have awake : s.status ≠ .idle := by
      intro idle
      rw [sound.awake idle] at here
      cases here
    obtain ⟨current, there, mine, _⟩ := sound.current k here
    rw [found, Option.some_inj] at there
    subst there
    have told := sound.setSocket (f := fun x =>
      { x with retryable := retryable, expiryTimer := x.expiryTimer && x.settled }) found
      { grant := rfl
        generation := rfl
        asked := rfl
        reconnects := rfl
        latest := rfl
        live := id
        settled := id
        refused := id
        authenticated := sound.authenticated socket (List.mem_of_getElem? found) }
    have found' := (getElem?_setSocket (f := fun x : Socket =>
      { x with retryable := retryable, expiryTimer := x.expiryTimer && x.settled }) found k).trans
      (if_pos rfl)
    dsimp only
    split
    · exact told.settleError found' rfl rfl rfl fun _ _ _ _ => mine.2
    · exact (told.finishDisconnected awake).settleError found' rfl rfl rfl fun _ _ _ _ => mine.2

theorem Sound.failed (sound : Sound s) (found : s.sockets[k]? = some socket) {f : Socket → Socket}
    (renews : Renews socket (f socket)) (same : (f socket).settled = socket.settled)
    (own : socket.reconnects = true → socket.settled = false →
      s.OwnAttempt socket.generation socket.asked) :
    Sound ((s.setSocket k f).settleError k socket now) := by
  have found' := (getElem?_setSocket (f := f) found k).trans (if_pos rfl)
  refine (sound.setSocket found renews).settleError found' same renews.reconnects
    renews.generation ?_
  rw [renews.reconnects, same, renews.generation, renews.asked]
  exact own

theorem renews_closed {x : Socket} (authenticated : x.authenticated = true → x.settled = true) :
    Renews x { x with readyState := .closed, expiryTimer := false } where
  grant := rfl
  generation := rfl
  asked := rfl
  reconnects := rfl
  latest := rfl
  live live := by cases live
  settled := id
  refused := id
  authenticated := authenticated

theorem renews_closed_settled {x : Socket} :
    Renews x { x with readyState := .closed, expiryTimer := false, settled := true } where
  grant := rfl
  generation := rfl
  asked := rfl
  reconnects := rfl
  latest := rfl
  live live := by cases live
  settled _ := rfl
  refused refused := by
    simp only [Socket.refused, Bool.and_eq_true] at refused ⊢
    exact ⟨trivial, refused.2⟩
  authenticated _ := rfl

theorem Sound.closed (sound : Sound s) (found : s.sockets[k]? = some socket) :
    Sound (s.closed k socket now) := by
  have closes := renews_closed (sound.authenticated socket (List.mem_of_getElem? found))
  dsimp only [GameSession.closed]
  by_cases here : s.socket = some k
  · have awake : s.status ≠ .idle := by
      intro idle
      rw [sound.awake idle] at here
      cases here
    obtain ⟨_, there, mine, _⟩ := sound.current k here
    have nobody : ∀ t : GameSession, t.socket = none → t.Refused := by
      intro t none j x some_
      rw [none] at some_
      cases some_
    rw [if_neg (show ¬ (s.setSocket k _).socket ≠ some k from not_not.mpr here)]
    cases authenticated : socket.authenticated with
    | true =>
      have settled := sound.authenticated socket (List.mem_of_getElem? found) authenticated
      have left := sound.release (f := fun x => { x with readyState := .closed, expiryTimer := false })
        found closes here rfl settled
      have still : s.Still := sound.busy k socket here found (by simp [Socket.refused, authenticated])
      simp only [true_and, true_or, if_true]
      split
      · exact left.scheduleReconnect awake still (nobody _ rfl)
      · exact left.finishDisconnected awake
    | false =>
      simp only [false_and, false_or, if_false, Bool.false_eq_true]
      cases settled : socket.settled with
      | true =>
        have left := sound.release
          (f := fun x => { x with readyState := .closed, expiryTimer := false }) found closes here rfl
          settled
        simp only [GameSession.settleError, settled, if_true]
        split
        · exact left.finishDisconnected awake
        · exact left
      | false =>
        have left := sound.release
          (f := fun x => { x with readyState := .closed, expiryTimer := false, settled := true }) found
          renews_closed_settled here rfl rfl
        have still : s.Still := sound.busy k socket here found (by simp [Socket.refused, settled])
        have twice : (s.sockets.modify k fun x : Socket =>
            { x with readyState := .closed, expiryTimer := false }).modify k
              (fun x => { x with settled := true }) =
            s.sockets.modify k fun x =>
              { x with readyState := .closed, expiryTimer := false, settled := true } := by
          rw [List.modify_modify_eq]
          rfl
        have gone : ({ s.setSocket k fun x : Socket =>
            { x with readyState := .closed, expiryTimer := false } with
            socket := none } : GameSession).setSocket k (fun x => { x with settled := true }) =
            { s.setSocket k fun x : Socket =>
              { x with readyState := .closed, expiryTimer := false, settled := true } with
              socket := none } :=
          congrArg (fun sockets => { s with sockets := sockets, socket := none }) twice
        simp only [GameSession.settleError, settled, Bool.false_eq_true, if_false]
        cases retryable : socket.retryable with
        | true =>
          simp only [not_true, if_false]
          rw [gone]
          split
          · exact left.attemptFails fun _ _ => ⟨still, nobody _ rfl⟩
          · exact left
        | false =>
          have finished := left.finishDisconnected awake
          rw [← gone] at finished
          simp only [Bool.false_eq_true, not_false_eq_true, if_true]
          split
          · refine finished.attemptFails fun _ waits => ?_
            cases waits
          · exact finished
  · rw [if_pos (show (s.setSocket k _).socket ≠ some k from here)]
    exact sound.setSocket found closes

theorem renews_close {x : Socket} (authenticated : x.authenticated = true → x.settled = true) :
    Renews x x.close where
  grant := by unfold Socket.close; split <;> rfl
  generation := by unfold Socket.close; split <;> rfl
  asked := by unfold Socket.close; split <;> rfl
  reconnects := by unfold Socket.close; split <;> rfl
  latest := by unfold Socket.close; split <;> rfl
  live := by
    unfold Socket.close
    split
    · intro live
      cases live
    · exact id
  settled := by unfold Socket.close; split <;> exact id
  refused := by unfold Socket.close; split <;> exact id
  authenticated := by unfold Socket.close; split <;> exact authenticated

theorem close_dead (x : Socket) : x.close.live = false := by
  unfold Socket.close
  split
  · rfl
  · rename_i dead
    exact Bool.eq_false_iff.mpr dead

theorem mem_closeSocket {x : Socket} (member : x ∈ s.closeSocket.sockets) :
    ∃ old ∈ s.sockets, x = old ∨ x = old.close := by
  unfold closeSocket at member
  split at member
  · exact ⟨x, member, .inl rfl⟩
  · rename_i k _
    obtain ⟨j, here⟩ := List.mem_iff_getElem?.mp member
    change (s.sockets.modify k Socket.close)[j]? = some x at here
    rw [List.getElem?_modify] at here
    obtain ⟨old, there, rfl⟩ := Option.map_eq_some_iff.mp here
    refine ⟨old, List.mem_of_getElem? there, ?_⟩
    split
    · exact .inr rfl
    · exact .inl rfl

theorem Sound.closeSocket_dead (sound : Sound s) {x : Socket} (member : x ∈ s.closeSocket.sockets) :
    x.live = false := by
  obtain ⟨j, here⟩ := List.mem_iff_getElem?.mp member
  unfold closeSocket at here
  cases current : s.socket with
  | none =>
    rw [current] at here
    cases live : x.live with
    | false => rfl
    | true =>
      have same := sound.live j x here live
      rw [current] at same
      cases same
  | some k =>
    rw [current] at here
    change (s.sockets.modify k Socket.close)[j]? = some x at here
    rw [List.getElem?_modify] at here
    obtain ⟨old, there, rfl⟩ := Option.map_eq_some_iff.mp here
    split
    · exact close_dead old
    · rename_i other
      by_contra live
      have same := sound.live j old there (by simpa using live)
      rw [current, Option.some_inj] at same
      exact other same

/-- The connection is given up: what is left of it is of an earlier one. -/
theorem Sound.abandon {t : GameSession} (sound : Sound s) (socket : t.socket = none)
    (sockets : t.sockets = s.closeSocket.sockets) (resuming : t.resuming = s.resuming)
    (timer : t.reconnectTimer = none) (generation : s.connectionGeneration ≤ t.connectionGeneration)
    (asked : s.asked ≤ t.asked)
    (later : s.connectionGeneration < t.connectionGeneration ∨ s.asked < t.asked)
    (room : t.status ≠ .idle → t.roomId = t.latest) :
    Sound t ∧ (∀ socket ∈ t.sockets, ¬ t.Current socket.generation socket.asked) ∧ t.Still := by
  have kept : ∀ x ∈ t.sockets, ∃ old ∈ s.sockets, Renews old x := by
    intro x member
    rw [sockets] at member
    obtain ⟨old, there, rfl | rfl⟩ := mem_closeSocket member
    · exact ⟨x, there, ⟨rfl, rfl, rfl, rfl, rfl, id, id, id, sound.authenticated x there⟩⟩
    · exact ⟨old, there, renews_close (sound.authenticated old there)⟩
  have stale : ∀ g a, g ≤ s.connectionGeneration ∧ a ≤ s.asked → ¬ t.Current g a := by
    intro g a past current
    obtain ⟨rfl, rfl⟩ := current
    omega
  have old : ∀ socket ∈ t.sockets, ¬ t.Current socket.generation socket.asked := by
    intro x member
    obtain ⟨before, there, renews⟩ := kept x member
    rw [renews.generation, renews.asked]
    exact stale _ _ (sound.past before there)
  have asking : t.asking = [] := by
    rw [GameSession.asking, List.filter_eq_nil_iff]
    intro a member
    rw [resuming] at member
    simpa using stale _ _ (sound.earlier a member)
  refine ⟨?_, old, timer, asking⟩
  constructor
  · intro x member
    obtain ⟨before, there, renews⟩ := kept x member
    rw [renews.grant, renews.latest]
    exact sound.opened before there
  · intro x member
    obtain ⟨before, there, renews⟩ := kept x member
    exact renews.authenticated
  · intro x member
    obtain ⟨before, there, renews⟩ := kept x member
    rw [renews.generation, renews.asked]
    have past := sound.past before there
    exact ⟨Nat.le_trans past.1 generation, Nat.le_trans past.2 asked⟩
  · intro k x here live
    have member := List.mem_of_getElem? here
    rw [sockets] at member
    rw [sound.closeSocket_dead member] at live
    cases live
  · intro k x here _ _ current
    exact absurd current (old x (List.mem_of_getElem? here))
  · intro k same
    rw [socket] at same
    cases same
  · exact room
  · exact fun _ => socket
  · intro a same
    rw [timer] at same
    cases same
  · intro a member current
    rw [resuming] at member
    exact absurd current (stale _ _ (sound.earlier a member))
  · intro a member
    rw [resuming] at member
    have past := sound.earlier a member
    exact ⟨Nat.le_trans past.1 generation, Nat.le_trans past.2 asked⟩
  · rw [timer, asking]
    simp
  · intro k x same
    rw [socket] at same
    cases same

theorem closeSocket_rest (s : GameSession) : s.closeSocket = { s with
    socket := none
    sockets := s.closeSocket.sockets } := by
  unfold closeSocket
  cases here : s.socket with
  | none =>
    cases s
    cases here
    rfl
  | some k => rfl

theorem Sound.connect (sound : Sound s) (grant : Grant) (now later : Int) :
    Sound (s.connect grant now later) := by
  have cancelled := sound.cancelReconnect
  unfold GameSession.connect
  rw [closeSocket_rest]
  dsimp only
  obtain ⟨given_up, old, still⟩ := cancelled.abandon
    (t := { s.cancelReconnect with
      socket := none
      sockets := s.cancelReconnect.closeSocket.sockets
      status := .connecting
      roomId := some grant.roomId
      asked := s.asked + 1
      latest := some grant.roomId }) rfl rfl rfl rfl (Nat.le_refl _) (Nat.le_succ _) (.inr (Nat.lt_succ_self _))
      (fun _ => rfl)
  split
  · exact { given_up with
      room := fun _ => rfl
      awake := by
        intro same
        cases same }
  · split
    · exact given_up
    · refine given_up.openSocket ?_ ?_ still ?_ rfl
      · intro socket member
        exact cancelled.closeSocket_dead member
      · intro socket member _ current
        exact absurd current (old socket member)
      · intro same
        cases same

theorem disconnect_eq (s : GameSession) : s.disconnect = { s.cancelReconnect with
    connectionGeneration := s.connectionGeneration + 1
    socket := none
    sockets := s.closeSocket.sockets
    status := .idle
    roomId := none } := by
  unfold GameSession.disconnect closeSocket GameSession.cancelReconnect
  cases s.socket <;> simp

theorem Sound.disconnect (sound : Sound s) : Sound s.disconnect := by
  have generation : s.disconnect.connectionGeneration = s.connectionGeneration + 1 := by
    rw [disconnect_eq]
  have asked : s.disconnect.asked = s.asked := by
    rw [disconnect_eq]
    rfl
  refine (sound.abandon (t := s.disconnect) ?_ ?_ ?_ ?_ (by omega) (by omega) (by omega) ?_).1
  all_goals rw [disconnect_eq]
  · rfl
  · rfl
  · intro awake
    exact absurd rfl awake

theorem Sound.reconnects (sound : Sound s) : Sound s.reconnects := by
  unfold GameSession.reconnects
  cases timer : s.reconnectTimer with
  | none => exact sound
  | some a =>
    obtain ⟨current, room⟩ := sound.timer a timer
    have one := sound.one
    rw [timer] at one
    have none_asking : s.asking = [] := by
      apply List.eq_nil_of_length_eq_zero
      simp only [Option.toList_some, List.length_singleton] at one
      omega
    have asking : (s.resuming ++ [a]).filter (fun a => s.Current a.generation a.asked) = [a] := by
      rw [List.filter_append, show s.resuming.filter _ = [] from none_asking]
      simp [current]
    dsimp only
    refine { sound with timer := ?_, resuming := ?_, earlier := ?_, one := ?_, busy := ?_ }
    · intro b same
      cases same
    · intro b member mine
      rcases List.mem_append.mp member with old | new
      · exact sound.resuming b old mine
      · rw [List.mem_singleton.mp new]
        exact room
    · intro b member
      rcases List.mem_append.mp member with old | new
      · exact sound.earlier b old
      · rw [List.mem_singleton.mp new]
        exact ⟨Nat.le_of_eq current.1, Nat.le_of_eq current.2⟩
    · show 0 + ((s.resuming ++ [a]).filter fun a => s.Current a.generation a.asked).length ≤ 1
      rw [asking]
      simp
    · intro k socket here found free
      have still := sound.busy k socket here found free
      rw [Still, timer] at still
      cases still.1

section
variable {attempt : Attempt}

/-- An answer has come: the attempt no longer waits. -/
theorem Sound.answered (sound : Sound s) (found : s.resuming[i]? = some attempt) :
    Sound { s with resuming := s.resuming.eraseIdx i } ∧
      (s.Current attempt.generation attempt.asked →
        Still { s with resuming := s.resuming.eraseIdx i } ∧ s.Refused ∧
          ∀ socket ∈ s.sockets, socket.reconnects = true →
            s.Current socket.generation socket.asked → socket.settled = true) := by
  have sublist : ((s.resuming.eraseIdx i).filter fun a => s.Current a.generation a.asked).Sublist
      s.asking :=
    (List.eraseIdx_sublist s.resuming i).filter _
  constructor
  · refine { sound with resuming := ?_, earlier := ?_, one := ?_, busy := ?_ }
    · intro a member
      exact sound.resuming a (List.mem_of_mem_eraseIdx member)
    · intro a member
      exact sound.earlier a (List.mem_of_mem_eraseIdx member)
    · exact Nat.le_trans (Nat.add_le_add_left sublist.length_le _) sound.one
    · intro k socket here there free
      obtain ⟨timer, asking⟩ := sound.busy k socket here there free
      rw [asking] at sublist
      exact ⟨timer, List.sublist_nil.mp sublist⟩
  · intro current
    have inside : attempt ∈ s.asking :=
      List.mem_filter.mpr ⟨List.mem_of_getElem? found, by simpa using current⟩
    have asked : s.asking ≠ [] := List.ne_nil_of_mem inside
    have one := sound.one
    have some_ := List.length_pos_iff.mpr asked
    have timer : s.reconnectTimer = none := by
      cases timer : s.reconnectTimer with
      | none => rfl
      | some a =>
        rw [timer, Option.toList_some, List.length_singleton] at one
        omega
    obtain ⟨short, there⟩ := List.getElem?_eq_some_iff.mp found
    have count := ((List.getElem_cons_eraseIdx_perm short).filter fun a =>
      s.Current a.generation a.asked).length_eq
    rw [there, List.filter_cons_of_pos (by simpa using current), List.length_cons] at count
    change _ = s.asking.length at count
    refine ⟨⟨timer, List.eq_nil_of_length_eq_zero ?_⟩, ?_, ?_⟩
    · show ((s.resuming.eraseIdx i).filter fun a => s.Current a.generation a.asked).length = 0
      omega
    · intro k socket here there
      by_contra free
      exact asked (sound.busy k socket here there (by simpa using free)).2
    · intro socket member mine current
      obtain ⟨k, there⟩ := List.mem_iff_getElem?.mp member
      by_contra unsettled
      have pending : socket.settled = false := by simpa using unsettled
      have here := sound.mine k socket there mine pending current
      exact asked (sound.busy k socket here there (by simp [Socket.refused, pending])).2

/-- The refused socket, if the session still has one, is closed. -/
def RefusedClosed (s : GameSession) : Prop :=
  ∀ k socket, s.socket = some k → s.sockets[k]? = some socket → socket.refused = true →
    socket.live = false

theorem Sound.resumed (sound : Sound s) (found : s.resuming[i]? = some attempt) {grant : Grant}
    (own : s.OwnAttempt attempt.generation attempt.asked) (names : grant.roomId = attempt.roomId)
    (closed : attempt.generation = s.connectionGeneration → s.status = .reconnecting →
      s.RefusedClosed) : Sound (s.resumed i attempt grant now) := by
  obtain ⟨answered, rest⟩ := sound.answered found
  dsimp only [GameSession.resumed]
  split
  · exact answered.attemptEnds attempt.generation
  · rename_i counts
    simp only [not_or, not_not] at counts
    have asked := own counts.1 counts.2
    obtain ⟨still, refused, settled⟩ := rest ⟨counts.1, asked⟩
    have awake : s.status ≠ .idle := by
      rw [counts.2]
      exact fun same => by cases same
    split
    · exact answered.attemptFails fun _ _ => ⟨still, refused⟩
    · rw [asked]
      refine answered.openSocket ?_ settled still awake ?_
      · intro socket member
        obtain ⟨k, there⟩ := List.mem_iff_getElem?.mp member
        by_contra alive
        have live : socket.live = true := by simpa using alive
        have here := sound.live k socket there live
        rw [closed counts.1 counts.2 k socket here there (refused k socket here there)] at live
        cases live
      · rw [names]
        exact sound.resuming attempt (List.mem_of_getElem? found) ⟨counts.1, asked⟩

theorem Sound.resumeFails (sound : Sound s) (found : s.resuming[i]? = some attempt)
    (own : s.OwnAttempt attempt.generation attempt.asked) :
    Sound (GameSession.attemptFails { s with resuming := s.resuming.eraseIdx i } attempt.generation now) := by
  obtain ⟨answered, rest⟩ := sound.answered found
  refine answered.attemptFails fun generation waits => ?_
  obtain ⟨still, refused, _⟩ := rest ⟨generation, own generation waits⟩
  exact ⟨still, refused⟩

end

/-! ## A run -/

/-- The server names the room it was asked about. No attempt begun before the last `connect` ends
while the session reconnects, and a refused socket is closed when the next attempt is answered. -/
def Careful (s : GameSession) : Event → Prop
  | .authOk k roomId => ∀ socket, s.sockets[k]? = some socket → roomId = socket.grant.roomId
  | .error k _ | .expires k _ => ∀ socket, s.sockets[k]? = some socket →
    socket.reconnects = true → socket.settled = false → s.OwnAttempt socket.generation socket.asked
  | .resumed i grant _ => ∀ attempt, s.resuming[i]? = some attempt →
    grant.roomId = attempt.roomId ∧ s.OwnAttempt attempt.generation attempt.asked ∧
      (attempt.generation = s.connectionGeneration → s.status = .reconnecting → s.RefusedClosed)
  | .resumeFails i _ => ∀ attempt, s.resuming[i]? = some attempt →
    s.OwnAttempt attempt.generation attempt.asked
  | _ => True

theorem Sound.opens (sound : Sound s) (k : Nat) : Sound (s.apply (.opens k)) := by
  show Sound (s.setSocket k _)
  cases found : s.sockets[k]? with
  | none =>
    have same : s.sockets.modify k (fun socket => if socket.readyState = .connecting then
        { socket with readyState := .open } else socket) = s.sockets :=
      List.modify_eq_self (List.getElem?_eq_none_iff.mp found)
    unfold GameSession.setSocket
    rw [same]
    exact sound
  | some socket =>
    refine sound.setSocket found ?_
    have settled := sound.authenticated socket (List.mem_of_getElem? found)
    split
    · rename_i connecting
      exact ⟨rfl, rfl, rfl, rfl, rfl, fun _ => by simp [Socket.live, connecting], id, id, settled⟩
    · exact ⟨rfl, rfl, rfl, rfl, rfl, id, id, id, settled⟩

theorem Sound.apply (sound : Sound s) {event : Event} (may : s.Careful event) :
    Sound (s.apply event) := by
  cases event with
  | connect grant now later => exact sound.connect grant now later
  | disconnect => exact sound.disconnect
  | opens k => exact sound.opens k
  | authOk k roomId =>
    dsimp only [GameSession.apply]
    cases found : s.sockets[k]? with
    | none => exact sound
    | some socket =>
      dsimp only
      split
      · exact sound.authOk found (may socket found)
      · exact sound
  | errorMessage k retryable now =>
    dsimp only [GameSession.apply]
    cases found : s.sockets[k]? with
    | none => exact sound
    | some socket =>
      dsimp only
      split
      · exact sound.errorMessage found
      · exact sound
  | error k now =>
    dsimp only [GameSession.apply]
    cases found : s.sockets[k]? with
    | none => exact sound
    | some socket =>
      refine sound.failed found ?_ rfl (may socket found)
      have settled := sound.authenticated socket (List.mem_of_getElem? found)
      exact ⟨rfl, rfl, rfl, rfl, rfl, fun live => (by cases live), id, id, settled⟩
  | close k now =>
    dsimp only [GameSession.apply]
    cases found : s.sockets[k]? with
    | none => exact sound
    | some socket => exact sound.closed found
  | expires k now =>
    dsimp only [GameSession.apply]
    cases found : s.sockets[k]? with
    | none => exact sound
    | some socket =>
      dsimp only
      split
      · have closes := renews_close (sound.authenticated socket (List.mem_of_getElem? found))
        refine sound.failed found ?_ ?_ (may socket found)
        · exact { closes with }
        · show socket.close.settled = socket.settled
          unfold Socket.close
          split <;> rfl
      · exact sound
  | reconnects => exact sound.reconnects
  | resumed i grant now =>
    dsimp only [GameSession.apply]
    cases found : s.resuming[i]? with
    | none => exact sound
    | some attempt =>
      obtain ⟨names, own, closed⟩ := may attempt found
      exact sound.resumed found own names closed
  | resumeFails i now =>
    dsimp only [GameSession.apply]
    cases found : s.resuming[i]? with
    | none => exact sound
    | some attempt => exact sound.resumeFails found (may attempt found)
  | unloading unloading => exact { sound with }

theorem sound_initial : Sound initial where
  opened := by
    intro socket member
    cases member
  authenticated := by
    intro socket member
    cases member
  past := by
    intro socket member
    cases member
  live := by
    intro k socket found
    cases found
  mine := by
    intro k socket found
    cases found
  current := by
    intro k here
    cases here
  room awake := absurd rfl awake
  awake _ := rfl
  timer := by
    intro a same
    cases same
  resuming := by
    intro a member
    cases member
  earlier := by
    intro a member
    cases member
  one := Nat.zero_le 1
  busy := by
    intro k socket here
    cases here

/-- Every socket was opened for the room of the last `connect` at that time, and two sockets are
never open or connecting at once. -/
theorem one_socket (run : Reach Careful apply initial s) :
    (∀ socket ∈ s.sockets, some socket.grant.roomId = socket.latest) ∧
      ∀ (j k : Nat) (a b : Socket), s.sockets[j]? = some a → s.sockets[k]? = some b →
        a.live = true → b.live = true → j = k := by
  have sound : Sound s :=
    run.invariant (I := Sound) sound_initial fun _ _ sound may => sound.apply may
  refine ⟨sound.opened, ?_⟩
  intro j k a b here there live alive
  have first := sound.live j a here live
  rw [sound.live k b there alive, Option.some_inj] at first
  exact first.symm

private def resumedRun : List Event :=
  [.connect ⟨"a", 60000⟩ 0 0, .opens 0, .authOk 0 "a", .close 0 5000, .reconnects,
    .resumed 0 ⟨"a", 70000⟩ 5300, .opens 1]

theorem one_socket_resumed :
    (resumedRun.foldl apply initial).sockets.length = 2 ∧
      ∀ socket ∈ (resumedRun.foldl apply initial).sockets,
        some socket.grant.roomId = socket.latest := by
  have run : Reach Careful apply initial (resumedRun.foldl apply initial) := by
    apply Reach.of_list
    refine ⟨trivial, trivial, ?_, trivial, trivial, ?_, trivial, trivial⟩
    · intro socket found
      cases found
      rfl
    · intro attempt found
      cases found
      exact ⟨rfl, fun _ _ => rfl, fun _ _ k socket here => by cases here⟩
  exact ⟨rfl, (one_socket run).1⟩

/-- The slow answer for the first room comes while the session reconnects to the second. -/
private def slowRun : List Event :=
  [.connect ⟨"a", 60000⟩ 0 0, .opens 0, .authOk 0 "a", .close 0 5000, .reconnects,
    .connect ⟨"b", 60000⟩ 6000 6000, .opens 1, .authOk 1 "b", .close 1 7000,
    .resumed 0 ⟨"a", 70000⟩ 7100]

/-- What the server promises: it names the room it was asked about. -/
def Answered (s : GameSession) : Event → Prop
  | .authOk k roomId => ∀ socket, s.sockets[k]? = some socket → roomId = socket.grant.roomId
  | .resumed i grant _ => ∀ attempt, s.resuming[i]? = some attempt → grant.roomId = attempt.roomId
  | _ => True

theorem late_resume_opens : ¬ ∀ s, Reach Answered apply initial s →
    (∀ socket ∈ s.sockets, some socket.grant.roomId = socket.latest) ∧
      ∀ (j k : Nat) (a b : Socket), s.sockets[j]? = some a → s.sockets[k]? = some b →
        a.live = true → b.live = true → j = k := by
  intro sound
  have run : Reach Answered apply initial (slowRun.foldl apply initial) := by
    apply Reach.of_list
    refine ⟨trivial, trivial, ?_, trivial, trivial, trivial, trivial, ?_, trivial, ?_, trivial⟩
    · intro socket found
      cases found
      rfl
    · intro socket found
      cases found
      rfl
    · intro attempt found
      cases found
      rfl
  have same := (sound _ run).1
  exact absurd same (by decide +kernel)

end GameSession
end SwitchRemake.Client.Connection

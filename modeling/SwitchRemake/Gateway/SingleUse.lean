import SwitchRemake.Gateway.RoomAdmission

/-!
# Tickets are used once

What an attempt does to the tickets, the connections and the room, whichever way it ends, and what
follows for the runs of the process.
-/

namespace SwitchRemake.Tickets
open Lib Simulation Rooms Game

namespace TicketStore
variable {store : TicketStore} {now : Int} {held : HeldTicket} {digest : String}

theorem mem_deleteExpired : held ∈ (store.deleteExpired now).reservations.entries ↔
    held ∈ store.reservations.entries ∧ now < held.reservation.expiresAt := by
  simp [deleteExpired, live]

theorem mem_sweepExpired (mem : held ∈ (store.sweepExpired now).reservations.entries) :
    held ∈ store.reservations.entries := by
  unfold sweepExpired at mem
  split at mem
  · exact mem
  · exact (mem_deleteExpired.mp mem).1

theorem sweepExpired_keeps (mem : held ∈ store.reservations.entries)
    (alive : now < held.reservation.expiresAt) :
    held ∈ (store.sweepExpired now).reservations.entries := by
  unfold sweepExpired
  split
  · exact mem
  · exact mem_deleteExpired.mpr ⟨mem, alive⟩

end TicketStore

/-! ## The connections -/

/-- A user is active on a connection exactly if that connection is the user's. -/
def Accounted (m : ConnectionManager) : Prop :=
  (∀ u id, m.activeUsers u = some id → ∃ record ∈ m.connections.entries, record.id = id ∧
    record.userId = some u) ∧
  ∀ record ∈ m.connections.entries, record.id < m.nextId ∧
    ∀ u, record.userId = some u → m.activeUsers u = some record.id

namespace ConnectionManager
variable {m : ConnectionManager} {id : Nat} {u : ActorId}

theorem start_accounted (limits : ConnectionLimits) : Accounted (start limits) := by
  simp [Accounted, start, KeyedList.empty]

theorem openConnection_accounted (accounted : Accounted m) (ip : String) :
    Accounted (m.openConnection ip) := by
  unfold openConnection
  split
  · refine ⟨fun u id active => ?_, fun record mem => ?_⟩
    · obtain ⟨record, mem, own, user⟩ := accounted.1 u id active
      refine ⟨record, KeyedList.mem_set.mpr (.inr ⟨mem, ?_⟩), own, user⟩
      exact Nat.ne_of_lt (accounted.2 record mem).1
    · rcases KeyedList.mem_set.mp mem with rfl | ⟨old, _⟩
      · exact ⟨Nat.lt_succ_self _, by simp⟩
      · exact ⟨Nat.lt_succ_of_lt (accounted.2 record old).1, (accounted.2 record old).2⟩
  · exact accounted

/-- The connection was nobody's, and the user had none. -/
theorem canAuthenticate_iff : m.canAuthenticate id u = true ↔ ∃ record, m.connections.get? id = some record ∧
    record.userId = none ∧ m.activeUsers u = none ∧
    m.authenticatedByIp record.ip < m.limits.maxAuthenticatedPerIp := by
  unfold canAuthenticate
  cases m.connections.get? id with
  | none => simp
  | some record => simp [Option.isNone_iff_eq_none, and_assoc]

theorem authenticate_eq (can : m.canAuthenticate id u = true) : ∃ record,
    m.connections.get? id = some record ∧ m.authenticate id u =
      ({ m with
          connections := m.connections.set { record with userId := some u }
          unauthenticatedByIp := decrement m.unauthenticatedByIp record.ip
          authenticatedByIp := bump m.authenticatedByIp record.ip
          activeUsers := fun other => if other = u then some id else m.activeUsers other }, true) := by
  obtain ⟨record, found, _⟩ := canAuthenticate_iff.mp can
  refine ⟨record, found, ?_⟩
  unfold authenticate
  simp [found, can]

theorem authenticate_accounted (accounted : Accounted m) (can : m.canAuthenticate id u = true) :
    Accounted (m.authenticate id u).1 := by
  obtain ⟨record, found, same⟩ := authenticate_eq can
  obtain ⟨_, found', free, idle, _⟩ := canAuthenticate_iff.mp can
  obtain rfl := Option.some.inj (found.symm.trans found')
  obtain ⟨mem, rfl⟩ := KeyedList.mem_of_get? found
  rw [same]
  refine ⟨fun v id' active => ?_, fun other mem' => ?_⟩
  · by_cases own : v = u
    · subst own
      obtain rfl : record.id = id' := by simpa using active
      exact ⟨_, KeyedList.mem_set.mpr (.inl rfl), rfl, rfl⟩
    · obtain ⟨other, mem', own', user⟩ := accounted.1 v id' (by simpa [own] using active)
      refine ⟨other, KeyedList.mem_set.mpr (.inr ⟨mem', fun same => ?_⟩), own', user⟩
      obtain rfl := m.connections.eq_of_key mem' mem same
      simp [free] at user
  · rcases KeyedList.mem_set.mp mem' with rfl | ⟨old, differs⟩
    · exact ⟨(accounted.2 record mem).1, fun v user => by simp_all⟩
    · refine ⟨(accounted.2 other old).1, fun v user => ?_⟩
      have active := (accounted.2 other old).2 v user
      have away : v ≠ u := by
        rintro rfl
        simp [idle] at active
      simpa [away] using active

theorem close_accounted (accounted : Accounted m) (id : Nat) : Accounted (m.close id) := by
  unfold close
  cases found : m.connections.get? id with
  | none => exact accounted
  | some record =>
    obtain ⟨mem, rfl⟩ := KeyedList.mem_of_get? found
    cases user : record.userId with
    | none =>
      simp only [user]
      refine ⟨fun v id' active => ?_, fun other mem' => accounted.2 other (KeyedList.mem_delete.mp mem').1⟩
      obtain ⟨other, mem', own, theirs⟩ := accounted.1 v id' active
      refine ⟨other, KeyedList.mem_delete.mpr ⟨mem', fun same => ?_⟩, own, theirs⟩
      obtain rfl := m.connections.eq_of_key mem' mem same
      simp [user] at theirs
    | some u =>
      have active := (accounted.2 record mem).2 u user
      simp only [user]
      refine ⟨fun v id' still => ?_, fun other mem' => ?_⟩
      · have away : v ≠ u := by
          rintro rfl
          simp [active] at still
        obtain ⟨other, mem', own, theirs⟩ := accounted.1 v id' (by simpa [away] using still)
        refine ⟨other, KeyedList.mem_delete.mpr ⟨mem', fun same => ?_⟩, own, theirs⟩
        obtain rfl := m.connections.eq_of_key mem' mem same
        exact away (Option.some.inj (theirs.symm.trans user))
      · obtain ⟨old, differs⟩ := KeyedList.mem_delete.mp mem'
        refine ⟨(accounted.2 other old).1, fun v theirs => ?_⟩
        have before := (accounted.2 other old).2 v theirs
        have away : v ≠ u := by
          rintro rfl
          exact differs (Option.some.inj (before.symm.trans active))
        simpa [away] using before

end ConnectionManager
/-! ## An attempt -/

section
variable {K : Type} [JsNumber K] {options : GatewayOptions} {g g' : Gateway K} {env : StartEnv K}
  {connectionId : Nat} {ticket : String} {result : Attempt}

omit [JsNumber K] in
/-- The sweep that every attempt begins with. -/
def Gateway.swept (g : Gateway K) : Gateway K := { g with tickets := g.tickets.sweepExpired g.now }

omit [JsNumber K] in
/-- The live reservation that a ticket finds. -/
structure Finds (options : GatewayOptions) (g : Gateway K) (ticket : String) (held : HeldTicket) :
    Prop where
  there : g.swept.tickets.reservations.get? (options.hashTicket ticket) = some held
  alive : g.now < held.reservation.expiresAt

/-- The ways an attempt can go. -/
inductive Tried (options : GatewayOptions) (g : Gateway K) (env : StartEnv K) (connectionId : Nat)
    (ticket : String) : Gateway K → Attempt → Prop where
  | malformed : Tried options g env connectionId ticket g .refused
  | turnedAway : Tried options g env connectionId ticket g.swept .refused
  | late {held : HeldTicket} (isOver : held.reservation.expiresAt ≤ g.now)
      (there : g.swept.tickets.reservations.get? (options.hashTicket ticket) = some held) :
      Tried options g env connectionId ticket
        { g.swept with tickets := g.swept.tickets.delete held.digest } .refused
  | thrown {held : HeldTicket} {run : HostRun K} (here : g.rooms held.reservation.roomId = some run) :
      Tried options g env connectionId ticket
        (g.swept.setRoom held.reservation.roomId (some (run.apply (.advance env g.now)))) .thrown
  | noSeat {held : HeldTicket} {run : HostRun K} (here : g.rooms held.reservation.roomId = some run)
      (refused : (run.host.admitReservation env g.now held.reservation).2 = none) :
      Tried options g env connectionId ticket
        (g.swept.setRoom held.reservation.roomId
          (some (run.apply (.admitReservation env g.now held.reservation)))) .refused
  | admitted {held : HeldTicket} {run : HostRun K} {seat : Admission} (finds : Finds options g ticket held)
      (own : held.reservation.serverId = options.serverId)
      (can : g.connections.canAuthenticate connectionId held.reservation.userId = true)
      (here : g.rooms held.reservation.roomId = some run)
      (admits : (run.host.admitReservation env g.now held.reservation).2 = some seat) :
      Tried options g env connectionId ticket
        { g.swept.setRoom held.reservation.roomId
            (some (run.apply (.admitReservation env g.now held.reservation))) with
          connections := (g.connections.authenticate connectionId held.reservation.userId).1
          tickets := g.swept.tickets.delete held.digest }
        (.admitted (principalOf held.reservation seat))

theorem authenticate_tried (options : GatewayOptions) (g : Gateway K) (env : StartEnv K)
    (connectionId : Nat) (ticket : String) :
    Tried options g env connectionId ticket (g.authenticate options env connectionId ticket).1
      (g.authenticate options env connectionId ticket).2 := by
  unfold Gateway.authenticate
  split
  · unfold Gateway.consumeWhen
    dsimp only
    cases found : (g.tickets.sweepExpired g.now).reservations.get? (options.hashTicket ticket) with
    | none => exact .turnedAway
    | some held =>
      dsimp only
      by_cases isOver : held.reservation.expiresAt ≤ g.now
      · rw [if_pos isOver]
        exact .late isOver found
      · rw [if_neg isOver]
        unfold Gateway.admitHeld
        by_cases away : held.reservation.expiresAt ≤ g.now ∨ held.reservation.serverId ≠ options.serverId ∨
            g.connections.canAuthenticate connectionId held.reservation.userId = false
        · simp only [if_pos away]
          exact .turnedAway
        · simp only [if_neg away]
          simp only [not_or, not_not, Bool.not_eq_false] at away
          obtain ⟨_, own, can⟩ := away
          unfold Gateway.admitReservation
          cases here : g.rooms held.reservation.roomId with
          | none => exact .turnedAway
          | some run =>
            dsimp only
            by_cases frozen : run.host.room.handingOff = true
            · simp only [if_pos frozen]
              exact .turnedAway
            · simp only [if_neg frozen]
              by_cases throws : startThrows run.host env g.now = true
              · simp only [if_pos throws]
                exact .thrown here
              · simp only [if_neg throws]
                cases admits : (run.host.admitReservation env g.now held.reservation).2 with
                | none => exact .noSeat here admits
                | some seat =>
                  obtain ⟨record, _, bound⟩ := ConnectionManager.authenticate_eq can
                  have binds : (g.connections.authenticate connectionId held.reservation.userId).2 = true := by
                    rw [bound]
                  simp only [Gateway.setRoom, binds, if_true]
                  exact .admitted ⟨found, not_le.mp isOver⟩ own can here admits
  · exact .malformed

/-- An attempt without a principal: live tickets and all connections are as they were, and a room has
at most caught up with the clock. -/
structure Spared (g g' : Gateway K) (env : StartEnv K) : Prop where
  tickets : ∀ held ∈ g.tickets.reservations.entries, g.now < held.reservation.expiresAt →
    held ∈ g'.tickets.reservations.entries
  connections : g'.connections = g.connections
  rooms : ∀ roomId, g'.rooms roomId = g.rooms roomId ∨ ∃ run run', g.rooms roomId = some run ∧
    g'.rooms roomId = some run' ∧ run'.host = run.host.advance env g.now
  seats : ∀ roomId run, g.rooms roomId = some run → ∃ run', g'.rooms roomId = some run' ∧
    ∀ u, SeatKept g.now u run.host.room run'.host.room

/-- An attempt with a principal: the ticket is gone, the room has given the user the one seat of the
reservation, and the connection is the user's only one. -/
structure Welcomed (options : GatewayOptions) (g g' : Gateway K) (env : StartEnv K) (connectionId : Nat)
    (ticket : String) (principal : AuthenticatedPrincipal) : Prop where
  claimed : ∃ held ∈ g.tickets.reservations.entries, held.digest = options.hashTicket ticket ∧
    g.now < held.reservation.expiresAt ∧
    ∃ seat, principal = principalOf held.reservation seat ∧
    ∃ run run', g.rooms held.reservation.roomId = some run ∧
      g'.rooms held.reservation.roomId = some run' ∧
      Claimed g.now held.reservation seat (run.host.advance env g.now).room run'.host.room
  consumed : g'.tickets.reservations.get? (options.hashTicket ticket) = none
  others : ∀ held ∈ g.tickets.reservations.entries, held.digest ≠ options.hashTicket ticket →
    g.now < held.reservation.expiresAt → held ∈ g'.tickets.reservations.entries
  idle : ∀ record ∈ g.connections.connections.entries, record.userId ≠ some principal.userId
  active : ∀ record ∈ g'.connections.connections.entries,
    record.userId = some principal.userId ↔ record.id = connectionId
  present : ∃ record ∈ g'.connections.connections.entries, record.id = connectionId

omit [JsNumber K] in
theorem Gateway.swept_tickets {held : HeldTicket} (mem : held ∈ g.tickets.reservations.entries)
    (alive : g.now < held.reservation.expiresAt) : held ∈ g.swept.tickets.reservations.entries :=
  TicketStore.sweepExpired_keeps mem alive

omit [JsNumber K] in
theorem Gateway.setRoom_rooms (roomId other : String) (room : Option (HostRun K)) :
    (g.setRoom roomId room).rooms other = if other = roomId then room else g.rooms other := rfl

theorem HostRun.apply_admission (run : HostRun K) (env : StartEnv K) (now : Int)
    (reservation : SeatReservation) : (run.apply (.admitReservation env now reservation)).host =
      (run.host.admitReservation env now reservation).1 := rfl

/-- The room of a reservation has caught up with the clock, and no other room has changed. -/
theorem spared_of_advance {roomId : String} {run run' : HostRun K} (here : g.rooms roomId = some run)
    (advanced : run'.host = run.host.advance env g.now) :
    Spared g (g.swept.setRoom roomId (some run')) env where
  tickets held mem alive := Gateway.swept_tickets mem alive
  connections := rfl
  rooms other := by
    rw [Gateway.setRoom_rooms]
    split
    · next same => exact .inr ⟨run, run', same ▸ here, rfl, advanced⟩
    · exact .inl rfl
  seats other run₀ found := by
    rw [Gateway.setRoom_rooms]
    split
    · next same =>
      obtain rfl : run = run₀ := Option.some.inj (here.symm.trans (same ▸ found))
      exact ⟨run', rfl, fun u => advanced ▸ HostedRoom.advance_seat env g.now run.host u⟩
    · exact ⟨run₀, found, fun _ => .refl _⟩

omit [JsNumber K] in
theorem spared_of_still {store : TicketStore} [JsNumber K]
    (keeps : ∀ held ∈ g.tickets.reservations.entries, g.now < held.reservation.expiresAt →
      held ∈ store.reservations.entries) : Spared g { g with tickets := store } env where
  tickets := keeps
  connections := rfl
  rooms _ := .inl rfl
  seats _ run found := ⟨run, found, fun _ => .refl _⟩

theorem Tried.spared (tried : Tried options g env connectionId ticket g' result)
    (failed : ∀ principal, result ≠ .admitted principal) : Spared g g' env := by
  cases tried with
  | malformed => exact spared_of_still fun _ mem _ => mem
  | turnedAway => exact spared_of_still fun _ mem alive => Gateway.swept_tickets mem alive
  | @late held isOver there =>
    refine spared_of_still fun other mem alive => KeyedList.mem_delete.mpr
      ⟨Gateway.swept_tickets mem alive, fun same => ?_⟩
    have found := KeyedList.get?_of_mem (Gateway.swept_tickets mem alive)
    obtain ⟨mem', _⟩ := KeyedList.mem_of_get? there
    obtain rfl := g.swept.tickets.reservations.eq_of_key (Gateway.swept_tickets mem alive) mem' same
    omega
  | thrown here => exact spared_of_advance here rfl
  | noSeat here refused =>
    refine spared_of_advance here ?_
    rw [HostRun.apply_admission]
    unfold HostedRoom.admitReservation at refused ⊢
    simp only [admitReservation_refused refused]
  | admitted _ _ _ _ _ => exact absurd rfl (failed _)

theorem Tried.welcomed {principal : AuthenticatedPrincipal}
    (tried : Tried options g env connectionId ticket g' (.admitted principal))
    (accounted : Accounted g.connections)
    (lived : ∀ roomId run, g.rooms roomId = some run → Lived run) :
    Welcomed options g g' env connectionId ticket principal := by
  generalize same : Attempt.admitted principal = result at tried
  cases tried with
  | @admitted held run seat finds own can here admits =>
    obtain rfl := Attempt.admitted.inj same
    obtain ⟨mem, digest⟩ := KeyedList.mem_of_get? finds.there
    have seated : LobbyRoster.Seated (run.host.advance env g.now).room.roster :=
      (Lived.op (lived _ _ here) (.advance env g.now)).law.housed.toSeated
    obtain ⟨record, found, bound⟩ := ConnectionManager.authenticate_eq can
    obtain ⟨_, found', free, idle, _⟩ := ConnectionManager.canAuthenticate_iff.mp can
    obtain ⟨there, rfl⟩ := KeyedList.mem_of_get? found
    have stranger : ∀ other ∈ g.connections.connections.entries,
        other.userId ≠ some held.reservation.userId := by
      intro other mem user
      have active := (accounted.2 other mem).2 _ user
      rw [idle] at active
      cases active
    constructor
    · refine ⟨held, TicketStore.mem_sweepExpired mem, digest, finds.alive, seat, rfl, run,
        run.apply (.admitReservation env g.now held.reservation), here, ?_, ?_⟩
      · exact if_pos rfl
      · exact admitReservation_admits seated admits
    · show (g.swept.tickets.reservations.delete held.digest).get? _ = none
      rw [KeyedList.get?_delete, if_pos digest.symm]
    · intro other mem differs alive
      exact KeyedList.mem_delete.mpr
        ⟨Gateway.swept_tickets mem alive, fun same => differs (same.trans digest)⟩
    · exact stranger
    · intro other mem
      have inside : other ∈ (g.connections.connections.set
          { record with userId := some held.reservation.userId }).entries := by
        rw [bound] at mem
        exact mem
      rcases KeyedList.mem_set.mp inside with rfl | ⟨old, differs⟩
      · exact ⟨fun _ => rfl, fun _ => rfl⟩
      · exact ⟨fun user => absurd user (stranger other old), fun same => absurd same differs⟩
    · refine ⟨{ record with userId := some held.reservation.userId }, ?_, rfl⟩
      rw [bound]
      exact KeyedList.mem_set.mpr (.inl rfl)
  | _ => cases same

end

/-! ## Every run -/

section
variable {K : Type} [JsNumber K] {options : GatewayOptions} {s : GatewayRun K} {op : GatewayOp K}

omit [JsNumber K] in
def GatewayRun.Sold (s : GatewayRun K) (held : HeldTicket) : Prop :=
  held ∈ s.gateway.tickets.reservations.entries

structure GatewayBooks [JsNumber K] (s : GatewayRun K) : Prop where
  distinct : (s.issued.map HeldTicket.digest).Nodup
  standing : ∀ held, s.Sold held → held ∈ s.issued ∧ held.digest ∉ s.entered.map Entrance.digest
  once : (s.entered.map Entrance.digest).Nodup
  earned : ∀ e ∈ s.entered, ∃ held ∈ s.issued, held.digest = e.digest ∧
    e.clock < held.reservation.expiresAt
  accounted : Accounted s.gateway.connections
  lived : ∀ roomId run, s.gateway.rooms roomId = some run → Lived run

namespace GatewayBooks

theorem start (limits : ConnectionLimits) : GatewayBooks (K := K) (.start limits) where
  distinct := List.nodup_nil
  standing := by simp [GatewayRun.Sold, GatewayRun.start, TicketStore.empty, KeyedList.empty]
  once := List.nodup_nil
  earned := by simp [GatewayRun.start]
  accounted := ConnectionManager.start_accounted limits
  lived := by simp [GatewayRun.start]

/-- No ticket is sold, and nobody enters. -/
theorem quiet (books : GatewayBooks s) {g : Gateway K}
    (fewer : ∀ held ∈ g.tickets.reservations.entries, s.Sold held) (accounted : Accounted g.connections)
    (lived : ∀ roomId run, g.rooms roomId = some run → Lived run) :
    GatewayBooks { s with gateway := g } where
  distinct := books.distinct
  standing held sold := books.standing held (fewer held sold)
  once := books.once
  earned := books.earned
  accounted := accounted
  lived := lived

theorem rooms_set (books : GatewayBooks s) (roomId : String) {room : Option (HostRun K)}
    (lives : ∀ run, room = some run → Lived run) :
    ∀ other run, (s.gateway.setRoom roomId room).rooms other = some run → Lived run := by
  intro other run found
  rw [Gateway.setRoom_rooms] at found
  split at found
  · exact lives run found
  · exact books.lived other run found

theorem rooms_change (books : GatewayBooks s) (roomId : String) {f : HostRun K → HostRun K}
    (lives : ∀ run, Lived run → Lived (f run)) :
    ∀ other run, (GatewayRun.changeRoom s.gateway roomId f).rooms other = some run → Lived run := by
  refine books.rooms_set roomId fun run mapped => ?_
  obtain ⟨before, found, rfl⟩ := Option.map_eq_some_iff.mp mapped
  exact lives before (books.lived roomId before found)

theorem issues (books : GatewayBooks s) {ticket : String} {reservation : SeatReservation}
    (fresh : options.hashTicket ticket ∉ s.issued.map HeldTicket.digest) :
    GatewayBooks (s.apply options (.issue ticket reservation)) := by
  simp only [GatewayRun.apply, TicketStore.issue]
  split
  · simpa using books.quiet (g := { s.gateway with
      tickets := s.gateway.tickets.sweepExpired s.gateway.now })
      (fun held mem => TicketStore.mem_sweepExpired mem) books.accounted books.lived
  · exact {
      distinct := by
        rw [List.map_append]
        exact List.Nodup.append books.distinct (List.nodup_singleton _) (by simpa using fresh)
      standing := by
        intro held sold
        rcases KeyedList.mem_set.mp sold with rfl | ⟨old, _⟩
        · refine ⟨List.mem_append_right _ (List.mem_singleton_self _), fun used => fresh ?_⟩
          obtain ⟨e, mem, same⟩ := List.mem_map.mp used
          obtain ⟨other, issued, digest, _⟩ := books.earned e mem
          exact List.mem_map.mpr ⟨other, issued, digest.trans same⟩
        · obtain ⟨issued, unused⟩ := books.standing held (TicketStore.mem_sweepExpired old)
          exact ⟨List.mem_append_left _ issued, unused⟩
      once := books.once
      earned := by
        intro e mem
        obtain ⟨held, issued, facts⟩ := books.earned e mem
        exact ⟨held, List.mem_append_left _ issued, facts⟩
      accounted := books.accounted
      lived := books.lived }

theorem authenticates (books : GatewayBooks s) (env : StartEnv K) (connectionId : Nat) (ticket : String) :
    GatewayBooks (s.apply options (.authenticate env connectionId ticket)) := by
  have tried := authenticate_tried options s.gateway env connectionId ticket
  simp only [GatewayRun.apply]
  generalize s.gateway.authenticate options env connectionId ticket = attempt at tried
  obtain ⟨g, result⟩ := attempt
  have sweeps (held : HeldTicket) (mem : held ∈ s.gateway.swept.tickets.reservations.entries) :
      s.Sold held := TicketStore.mem_sweepExpired mem
  cases tried with
  | malformed => simpa using books
  | turnedAway =>
    simp only [List.append_nil]
    exact books.quiet sweeps books.accounted books.lived
  | late isOver there =>
    simp only [List.append_nil]
    exact books.quiet (g := { s.gateway.swept with tickets := s.gateway.swept.tickets.delete _ })
      (fun held mem => sweeps held (KeyedList.mem_delete.mp mem).1) books.accounted books.lived
  | thrown here =>
    have lives := Lived.op (books.lived _ _ here) (.advance env s.gateway.now)
    simp only [List.append_nil]
    exact books.quiet (g := s.gateway.swept.setRoom _ _) sweeps books.accounted
      (books.rooms_set _ fun run same => Option.some.inj same ▸ lives)
  | @noSeat held run here refused =>
    have lives := Lived.op (books.lived _ _ here) (.admitReservation env s.gateway.now held.reservation)
    simp only [List.append_nil]
    exact books.quiet (g := s.gateway.swept.setRoom _ _) sweeps books.accounted
      (books.rooms_set _ fun run same => Option.some.inj same ▸ lives)
  | @admitted held run seat finds own can here admits =>
    obtain ⟨mem, digest⟩ := KeyedList.mem_of_get? finds.there
    obtain ⟨issued, unused⟩ := books.standing held (sweeps held mem)
    have lives := Lived.op (books.lived _ _ here) (.admitReservation env s.gateway.now held.reservation)
    exact {
      distinct := books.distinct
      standing := by
        intro other sold
        obtain ⟨inside, differs⟩ := KeyedList.mem_delete.mp sold
        obtain ⟨issued', unused'⟩ := books.standing other (sweeps other inside)
        refine ⟨issued', ?_⟩
        rw [List.map_append, List.mem_append, not_or]
        exact ⟨unused', by simpa [← digest] using differs⟩
      once := by
        rw [List.map_append]
        exact List.Nodup.append books.once (List.nodup_singleton _) (by simpa [← digest] using unused)
      earned := by
        intro e entered
        rcases List.mem_append.mp entered with old | new
        · exact books.earned e old
        · obtain rfl := List.mem_singleton.mp new
          exact ⟨held, issued, digest, finds.alive⟩
      accounted := ConnectionManager.authenticate_accounted books.accounted can
      lived := books.rooms_set _ fun run same => Option.some.inj same ▸ lives }

theorem apply (books : GatewayBooks s) (may : s.Allowed options op) :
    GatewayBooks (s.apply options op) := by
  cases op with
  | tick ms => exact books.quiet (fun _ => id) books.accounted books.lived
  | sweep =>
    exact books.quiet (fun held mem => (TicketStore.mem_deleteExpired.mp mem).1) books.accounted books.lived
  | openSocket ip =>
    exact books.quiet (fun _ => id) (ConnectionManager.openConnection_accounted books.accounted ip) books.lived
  | closeSocket id =>
    exact books.quiet (fun _ mem => mem) (ConnectionManager.close_accounted books.accounted id) books.lived
  | issue ticket reservation => exact books.issues may
  | authenticate env connectionId ticket => exact books.authenticates env connectionId ticket
  | openRoom roomId room =>
    exact books.quiet (fun _ => id) books.accounted
      (books.rooms_set roomId fun run same => Option.some.inj same ▸ may)
  | dropRoom roomId =>
    exact books.quiet (fun _ => id) books.accounted (books.rooms_set roomId fun run same => nomatch same)
  | room roomId op =>
    exact books.quiet (fun _ => id) books.accounted (books.rooms_change roomId fun run lived => .op lived op)
  | roomTick roomId inputs training publication =>
    exact books.quiet (fun _ => id) books.accounted
      (books.rooms_change roomId fun run lived => .tick lived _ inputs training publication)

theorem reach {limits : ConnectionLimits}
    (run : Reach (GatewayRun.Allowed options) (GatewayRun.apply options) (.start limits) s) :
    GatewayBooks s :=
  run.invariant (start limits) fun _ _ => apply

end GatewayBooks

/-- The attempt of this ticket that returned a principal. -/
def Consumes (options : GatewayOptions) (s : GatewayRun K) (held : HeldTicket) : GatewayOp K → Prop
  | .authenticate env connectionId ticket => held.digest = options.hashTicket ticket ∧
    ∃ principal, (s.gateway.authenticate options env connectionId ticket).2 = .admitted principal
  | _ => False

/-- A live ticket leaves the store only with a principal. -/
theorem GatewayBooks.keeps (books : GatewayBooks s) (may : s.Allowed options op) {held : HeldTicket}
    (sold : s.Sold held) (alive : s.gateway.now < held.reservation.expiresAt) :
    (s.apply options op).Sold held ∨ Consumes options s held op := by
  cases op with
  | sweep => exact .inl (TicketStore.mem_deleteExpired.mpr ⟨sold, alive⟩)
  | issue ticket reservation =>
    left
    simp only [GatewayRun.Sold, GatewayRun.apply, TicketStore.issue]
    split
    · exact TicketStore.sweepExpired_keeps sold alive
    · refine KeyedList.mem_set.mpr (.inr ⟨TicketStore.sweepExpired_keeps sold alive, fun same => may ?_⟩)
      exact List.mem_map.mpr ⟨held, (books.standing held sold).1, same⟩
  | authenticate env connectionId ticket =>
    have tried := authenticate_tried options s.gateway env connectionId ticket
    cases result : (s.gateway.authenticate options env connectionId ticket).2 with
    | thrown | refused =>
      rw [result] at tried
      exact .inl ((tried.spared (by simp)).tickets held sold alive)
    | admitted principal =>
      rw [result] at tried
      by_cases own : held.digest = options.hashTicket ticket
      · exact .inr ⟨own, principal, result⟩
      · exact .inl ((tried.welcomed books.accounted books.lived).others held sold own alive)
  | tick | openSocket | closeSocket | openRoom | dropRoom | room | roomTick => exact .inl sold

theorem tickets_used_once {limits : ConnectionLimits}
    (run : Reach (GatewayRun.Allowed options) (GatewayRun.apply options) (.start limits) s) :
    (s.entered.map Entrance.digest).Nodup ∧
    (∀ e ∈ s.entered, ∃ held ∈ s.issued, held.digest = e.digest ∧
      e.clock < held.reservation.expiresAt) ∧
    (∀ op held, s.Allowed options op → s.Sold held → s.gateway.now < held.reservation.expiresAt →
      (s.apply options op).Sold held ∨ Consumes options s held op) ∧
    ∀ env connectionId ticket, match s.gateway.authenticate options env connectionId ticket with
      | (g, .admitted principal) => Welcomed options s.gateway g env connectionId ticket principal
      | (g, _) => Spared s.gateway g env := by
  have books := GatewayBooks.reach run
  refine ⟨books.once, books.earned, fun op held may => books.keeps may, fun env connectionId ticket => ?_⟩
  have tried := authenticate_tried options s.gateway env connectionId ticket
  generalize s.gateway.authenticate options env connectionId ticket = attempt at tried
  obtain ⟨g, result⟩ := attempt
  cases result with
  | thrown | refused => exact tried.spared (by simp)
  | admitted principal => exact tried.welcomed books.accounted books.lived

end

/-! ## A room that closes in between -/

def desk : GatewayOptions := ⟨"S", id⟩
def openLimits : ConnectionLimits := ⟨10, 10, 10⟩

def letters (c : Char) : String := String.ofList (List.replicate 43 c)

/-- The owner of a room joins and loses the connection; another user has a seat reserved. -/
def leftAlone : List (GatewayOp ℚ) :=
  [.openRoom "R" (.start (unplayed (Room.create matchOptions 8 "yard" "M1" (ticket 1 false 15000)))),
    .issue (letters 'a') (ticket 1 false 15000), .openSocket "i", .authenticate startEnv 1 (letters 'a'),
    .room "R" (.bindConnection 0 (socket 1 1 false)), .room "R" (.disconnect 0 (socket 1 1 false)),
    .closeSocket 1, .room "R" (.reserveJoin startEnv 0 (ticket 2 false 15000) none),
    .issue (letters 'b') (ticket 2 false 15000), .openSocket "i", .tick 5000]

def lonely : GatewayRun ℚ := leftAlone.foldl (GatewayRun.apply desk) (.start openLimits)

theorem lonely_reach :
    Reach (GatewayRun.Allowed desk) (GatewayRun.apply desk) (.start openLimits) lonely := by
  refine Reach.of_list ?_
  unfold leftAlone
  refine ⟨Lived.created matchOptions 8 (by decide) "yard" "M1" _, ?_, trivial, trivial,
    trivial, trivial, trivial, trivial, ?_, trivial, trivial, trivial⟩
  · show letters 'a' ∉ _
    decide +kernel
  · show letters 'b' ∉ _
    decide +kernel

def seatIn (g : Gateway ℚ) (user : Nat) : Option SeatHold :=
  (g.rooms "R").bind fun run => run.host.room.roster.heldSeat (.account user)

/-- The grace of the first user runs out inside the attempt of the second: the room closes, and the
reserved seat is gone ten seconds early. -/
theorem refusal_loses_seat : ¬ ∀ s : GatewayRun ℚ,
    Reach (GatewayRun.Allowed desk) (GatewayRun.apply desk) (.start openLimits) s →
    ∀ connectionId ticket, (s.gateway.authenticate desk startEnv connectionId ticket).2 = .refused →
    ∀ hold, seatIn s.gateway 2 = some hold → s.gateway.now < hold.reservation.expiresAt →
      seatIn (s.gateway.authenticate desk startEnv connectionId ticket).1 2 = some hold := by
  intro unchanged
  obtain ⟨hold, reserved⟩ : ∃ hold, seatIn lonely.gateway 2 = some hold :=
    Option.isSome_iff_exists.mp (by decide +kernel)
  have live : (seatIn lonely.gateway 2).all fun hold =>
      decide (lonely.gateway.now < hold.reservation.expiresAt) := by decide +kernel
  rw [reserved] at live
  have kept := unchanged lonely lonely_reach 2 (letters 'b') (by decide +kernel) hold reserved
    (by simpa using live)
  have lost : seatIn (lonely.gateway.authenticate desk startEnv 2 (letters 'b')).1 2 = none := by
    decide +kernel
  rw [lost] at kept
  cases kept

theorem tickets_used_once_lonely :
    (lonely.entered.map fun e => (e.digest, e.connectionId)) = [(letters 'a', 1)] ∧
    (lonely.entered.map Entrance.digest).Nodup ∧
    Spared lonely.gateway (lonely.gateway.authenticate desk startEnv 2 (letters 'b')).1 startEnv := by
  have facts := tickets_used_once lonely_reach
  have refused : (lonely.gateway.authenticate desk startEnv 2 (letters 'b')).2 = .refused := by
    decide +kernel
  refine ⟨by decide +kernel, facts.1, ?_⟩
  have last := facts.2.2.2 startEnv 2 (letters 'b')
  generalize lonely.gateway.authenticate desk startEnv 2 (letters 'b') = attempt at last refused
  obtain ⟨g, result⟩ := attempt
  cases refused
  exact last

end SwitchRemake.Tickets

import SwitchRemake.Game.MatchResult
import SwitchRemake.Game.SessionLaws
import SwitchRemake.Game.SingleTagger
import SwitchRemake.Lib.Runs
import SwitchRemake.Simulation.Books

/-!
# The account of a match

The counters of the players and the recorded events agree at every moment of a match, and so do the
survivors and the result.
-/

namespace SwitchRemake.Game
open Lib Simulation GameSession

variable {K : Type}

/-- Everything that happens to the session of a match. -/
inductive SessionOp (K : Type) where
  | queueSkill (request : SkillRequest)
  | queueEmoji (request : EmojiRequest)
  | requestFullSnapshot (playerId : Nat)
  | connectionChanged (playerId : Nat) (connected : Bool)
  | step (inputs : List (ResolvedInput K))
  | publish (frame : AuthoritativeFrame K) (targets : List Target)
  | eliminateDisconnected (playerId : Nat)
  | stop

def ReplayCall.deaths : ReplayCall K → Nat
  | .events _ told => deathsIn told
  | _ => 0

namespace GameSession

/-- The deaths among the recorded events. -/
def deathsRecorded (s : GameSession K) : Nat := (s.replay.map ReplayCall.deaths).sum

@[simp] theorem deathsRecorded_record (s : GameSession K) (call : ReplayCall K) :
    (s.record call).deathsRecorded = s.deathsRecorded + call.deaths := by
  simp [deathsRecorded, record]

/-- A match that has not begun to move. -/
structure Fresh (s : GameSession K) : Prop where
  competing : s.mode = RoomMode.match
  distinct : DistinctIds s.world.players
  alive : ∀ p ∈ s.world.players, p.alive = true
  stats : ∀ p ∈ s.world.players, p.stats = emptyStats
  replay : s.replay = []
  running : s.finished = false

/-- The counters of the players, and what was recorded. -/
structure Balances (s : GameSession K) : Prop where
  tags : total tagCount s.world = total taggedCount s.world
  once : ∀ p ∈ s.world.players, p.stats.taggedCount = 0 ∨ p.stats.taggedCount = 1
  ends : ∀ p ∈ s.world.players, p.stats.eliminatedAtTick = none ↔ p.alive = true
  past : ∀ p ∈ s.world.players, ∀ end_ ∈ p.stats.eliminatedAtTick, end_ ≤ s.world.tick
  switches : ∀ p ∈ s.world.players, p.stats.switchSuccess ≤ p.stats.switchTry
  eliminations : s.deathsRecorded = s.world.players.countP fun p => !p.alive

def participates (s : GameSession K) (playerId : Nat) : Prop := (s.identityOf playerId).isSome

/-- The winners are the surviving participants in the order of their slots. -/
structure Crowns (s : GameSession K) (winners : List Nat) : Prop where
  increasing : winners.Pairwise (· < ·)
  survivors : ∀ id, id ∈ winners ↔
    ∃ p ∈ s.world.players, p.playerId = id ∧ p.alive = true ∧ s.participates id

theorem total_fallen (w : World K) : total fallen w = w.players.countP fun p => !p.alive := by
  rw [total]
  induction w.players with
  | nil => rfl
  | cons p rest ih =>
    rw [List.map_cons, List.sum_cons, List.countP_cons, ih, fallen, Nat.add_comm]
    cases p.alive <;> rfl

theorem balances_of_books {s : GameSession K} (books : Books s.deathsRecorded s.world) :
    Balances s where
  tags := books.tags
  once p member := by
    have once := (books.entries p member).once
    simp only [taggedCount, fallen] at once
    split at once <;> omega
  ends p member := (books.entries p member).ends
  past p member := (books.entries p member).past
  switches p member := (books.entries p member).switches
  eliminations := books.buried.symm.trans (total_fallen s.world)

theorem Fresh.books {s : GameSession K} (fresh : Fresh s) : Books s.deathsRecorded s.world := by
  have none_ (f : PlayerState K → Nat) (zero : ∀ p ∈ s.world.players, f p = 0) :
      total f s.world = 0 := by
    rw [total, List.sum_eq_zero]
    intro n member
    obtain ⟨p, there, rfl⟩ := List.mem_map.mp member
    exact zero p there
  have tags := none_ tagCount fun p member => by rw [tagCount, fresh.stats p member]; rfl
  have tagged := none_ taggedCount fun p member => by rw [taggedCount, fresh.stats p member]; rfl
  have buried := none_ fallen fun p member => by rw [fallen, fresh.alive p member]; rfl
  refine ⟨fresh.distinct, fun p member => ?_, tags.trans tagged.symm, ?_⟩
  · have alive := fresh.alive p member
    have stats := fresh.stats p member
    constructor <;> simp [taggedCount, fallen, alive, stats, emptyStats]
  · rw [buried, deathsRecorded, fresh.replay]
    rfl

/-! ## One operation -/

/-- What an operation does to the account, and what it tells about the winners. -/
structure Posts (s : GameSession K) (notices : List (RoomNotice K)) (r : GameSession K) : Prop where
  books : Books s.deathsRecorded s.world → Books r.deathsRecorded r.world
  identities : r.identities = s.identities
  frozen : s.finished = true → r.finished = true ∧ SameRoles s.world r.world
  closes : ∀ winners, .finishGame winners ∈ notices →
    r.finished = true ∧ winners = r.confirmedWinnerIds

theorem Posts.silent {s r : GameSession K} (books : Books s.deathsRecorded s.world →
    Books r.deathsRecorded r.world) (identities : r.identities = s.identities)
    (finished : s.finished = true → r.finished = true) (roles : SameRoles s.world r.world) :
    Posts s [] r :=
  ⟨books, identities, fun isOver => ⟨finished isOver, roles⟩, nofun⟩

/-- Nothing that the account reads is written. -/
theorem Posts.still {s r : GameSession K} (world : r.world = s.world)
    (replay : r.deathsRecorded = s.deathsRecorded) (identities : r.identities = s.identities)
    (finished : s.finished = true → r.finished = true) : Posts s [] r := by
  refine .silent (fun books => ?_) identities finished ?_
  · rw [world, replay]
    exact books
  · rw [SameRoles, world]

theorem queueSkill_posts (s : GameSession K) (request : SkillRequest) :
    Posts s [] (s.queueSkill request).1 := by
  obtain ⟨_, written⟩ := queueSkill_writes s request
  rw [written]
  exact .still rfl rfl rfl fun isOver => isOver

theorem queueEmoji_posts (s : GameSession K) (request : EmojiRequest) :
    Posts s [] (s.queueEmoji request).1 := by
  obtain ⟨_, written⟩ := queueEmoji_writes s request
  rw [written]
  exact .still rfl rfl rfl fun isOver => isOver

theorem connectionChanged_posts (s : GameSession K) (playerId : Nat) (connected : Bool) :
    Posts s [] (s.connectionChanged playerId connected) := by
  unfold connectionChanged
  split
  · exact .still rfl rfl rfl fun isOver => isOver
  · have each : Each Carried s.world (s.world.update playerId fun p => { p with connected }) :=
      each_update _ (fun _ _ => .of_stats rfl rfl rfl) fun _ _ => .of_stats rfl rfl rfl
    have roles : SameRoles s.world (s.world.update playerId fun p => { p with connected }) :=
      update_sameRoles _ _ fun _ => rfl
    have noted : Posts s []
        { s with world := s.world.update playerId fun p => { p with connected } } :=
      .silent (fun books => books.next le_rfl each) rfl (fun isOver => isOver) roles
    dsimp only
    split
    · exact ⟨noted.books, rfl, noted.frozen, noted.closes⟩
    · exact noted

theorem stop_posts (s : GameSession K) : Posts s [] s.stop := by
  unfold stop
  split
  · exact .still rfl rfl rfl fun isOver => isOver
  · refine .still rfl ?_ rfl fun _ => rfl
    rw [← Nat.add_zero s.deathsRecorded]
    exact deathsRecorded_record s _

/-- A session that goes on, or is over with its winners told. -/
theorem Posts.running {s r : GameSession K} {notices : List (RoomNotice K)}
    (on : s.finished = false) (books : Books s.deathsRecorded s.world →
      Books r.deathsRecorded r.world) (identities : r.identities = s.identities)
    (closes : ∀ winners, .finishGame winners ∈ notices →
      r.finished = true ∧ winners = r.confirmedWinnerIds) : Posts s notices r :=
  ⟨books, identities, fun isOver => absurd (isOver.symm.trans on) (by simp), closes⟩

section Told

variable {β : Type} {frame : AuthoritativeFrame K} {winners : List Nat}

theorem not_told_events (events : List (WorldEvent K)) :
    RoomNotice.finishGame winners ∉ events.map RoomNotice.event := by simp

theorem not_told_tick (frame : AuthoritativeFrame K) :
    RoomNotice.finishGame winners ∉
      frame.skillRejections.map RoomNotice.skillRejected ++ frame.events.map RoomNotice.event := by
  simp

end Told

variable [JsNumber K]

theorem publish_posts (s : GameSession K) (frame : AuthoritativeFrame K) (targets : List Target) :
    Posts s [] (s.publish frame targets).1 := by
  obtain ⟨flags, written⟩ := publishAll_writes frame s targets
  unfold publish
  dsimp only
  rw [written]
  split
  · exact .still rfl rfl rfl fun isOver => isOver
  · refine .still rfl ?_ rfl fun isOver => isOver
    exact deathsRecorded_record { s with needsFullSnapshot := flags } _

theorem step_posts (s : GameSession K) (inputs : List (ResolvedInput K)) :
    Posts s (s.step inputs noTraining).notices (s.step inputs noTraining).session := by
  unfold GameSession.step
  split
  · exact .still rfl rfl rfl fun isOver => isOver
  · rename_i on
    rw [Bool.not_eq_true] at on
    have balance := fun books : Books s.deathsRecorded s.world =>
      stepWorld_books books (s.requests inputs noTraining)
    generalize stepWorld s.world (s.requests inputs noTraining) = stepped at balance
    dsimp only
    split
    · refine .running on (fun books => ?_) rfl fun winners told => ?_
      · simpa [finish, record, deathsRecorded, ReplayCall.deaths, noTraining,
          TrainingTurn.after] using balance books
      · rcases List.mem_append.mp told with early | last
        · exact absurd early (not_told_tick _)
        · obtain rfl := RoomNotice.finishGame.inj (List.mem_singleton.mp last)
          exact ⟨rfl, rfl⟩
    · refine .running on (fun books => ?_) rfl fun winners told => ?_
      · simpa [record, deathsRecorded, ReplayCall.deaths, noTraining, TrainingTurn.after]
          using balance books
      · exact absurd told (not_told_tick _)

theorem afterDeparture_keeps (s : GameSession K) (playerId : Nat) :
    (s.afterDeparture playerId).1.identities = s.identities ∧
      (s.afterDeparture playerId).1.replay = s.replay := by
  obtain ⟨_, _, written, _⟩ := afterDeparture_writes s playerId
  rw [written]
  exact ⟨rfl, rfl⟩

theorem afterDeparture_books (s : GameSession K) (playerId : Nat) {p : PlayerState K}
    (found : (s.world.find playerId).filter PlayerState.alive = some p) {deaths : Nat}
    (books : Books deaths s.world) :
    Books (deaths + deathsIn (s.afterDeparture playerId).2)
      (s.afterDeparture playerId).1.world := by
  obtain ⟨looked, lived⟩ := Option.filter_eq_some_iff.mp found
  obtain ⟨member, rfl⟩ := find_some looked
  have left : Books (deaths + 1) (disconnectPlayer s.world p.playerId) :=
    books.departs member lived fun _ => ⟨rfl, rfl, rfl⟩
  rcases afterDeparture_eq s p.playerId with same | ⟨picked, _, state, same⟩
  · rw [same]
    exact left
  · rw [same]
    exact handTo_books left _ _

theorem eliminateDisconnected_posts (s : GameSession K) (playerId : Nat) :
    Posts s (s.eliminateDisconnected playerId).notices
      (s.eliminateDisconnected playerId).session := by
  unfold GameSession.eliminateDisconnected
  split
  · exact .still rfl rfl rfl fun isOver => isOver
  · rename_i on
    rw [Bool.not_eq_true] at on
    split
    · exact .still rfl rfl rfl fun isOver => isOver
    · rename_i p found
      have balance := fun books : Books s.deathsRecorded s.world =>
        afterDeparture_books s playerId found books
      obtain ⟨identities, replay⟩ := afterDeparture_keeps s playerId
      generalize s.afterDeparture playerId = departed at balance identities replay
      obtain ⟨left, events⟩ := departed
      dsimp only at balance identities replay ⊢
      have early {winners : List Nat} :
          .finishGame winners ∉ (events.drop 1).map (RoomNotice.event (K := K)) :=
        not_told_events _
      split
      · refine .running on (fun books => ?_) identities fun winners told => ?_
        · simpa [finish, record, deathsRecorded, ReplayCall.deaths, replay] using balance books
        · rcases List.mem_append.mp told with told | last
          · exact absurd told early
          · obtain rfl := RoomNotice.finishGame.inj (List.mem_singleton.mp last)
            exact ⟨rfl, rfl⟩
      · refine .running on (fun books => ?_) identities fun winners told => absurd told early
        simpa [record, deathsRecorded, ReplayCall.deaths, replay] using balance books

end GameSession

/-! ## A run -/

variable [JsNumber K]

def SessionOp.posts (s : GameSession K) : SessionOp K → GameSession K × List (RoomNotice K)
  | .queueSkill request => ((s.queueSkill request).1, [])
  | .queueEmoji request => ((s.queueEmoji request).1, [])
  | .requestFullSnapshot playerId => (s.requestFullSnapshot playerId, [])
  | .connectionChanged playerId connected => (s.connectionChanged playerId connected, [])
  | .step inputs => ((s.step inputs noTraining).session, (s.step inputs noTraining).notices)
  | .publish frame targets => ((s.publish frame targets).1, [])
  | .eliminateDisconnected playerId =>
    ((s.eliminateDisconnected playerId).session, (s.eliminateDisconnected playerId).notices)
  | .stop => (s.stop, [])

def SessionOp.apply (s : GameSession K) (op : SessionOp K) : GameSession K := (op.posts s).1

/-- What happens to the session of a match comes in any order. -/
def Continues : GameSession K → GameSession K → Prop :=
  Reach (fun _ (_ : SessionOp K) => True) SessionOp.apply

theorem SessionOp.lawful (s : GameSession K) (op : SessionOp K) :
    Posts s (op.posts s).2 (op.apply s) := by
  cases op with
  | queueSkill request => exact queueSkill_posts s request
  | queueEmoji request => exact queueEmoji_posts s request
  | requestFullSnapshot playerId => exact .still rfl rfl rfl fun isOver => isOver
  | connectionChanged playerId connected => exact connectionChanged_posts s playerId connected
  | step inputs => exact step_posts s inputs
  | publish frame targets => exact publish_posts s frame targets
  | eliminateDisconnected playerId => exact eliminateDisconnected_posts s playerId
  | stop => exact stop_posts s

theorem Continues.books {start s : GameSession K} (fresh : start.Fresh) (run : Continues start s) :
    Books s.deathsRecorded s.world :=
  Reach.invariant (I := fun s : GameSession K => Books s.deathsRecorded s.world) fresh.books
    (fun s op books _ => (op.lawful s).books books) run

/-- A session that is over keeps its survivors and its participants. -/
theorem Continues.frozen {closed later : GameSession K} (isOver : closed.finished = true)
    (run : Continues closed later) :
    SameRoles closed.world later.world ∧ later.identities = closed.identities := by
  have kept : later.finished = true ∧ SameRoles closed.world later.world ∧
      later.identities = closed.identities := by
    refine Reach.invariant (I := fun s : GameSession K => s.finished = true ∧
      SameRoles closed.world s.world ∧ s.identities = closed.identities)
      ⟨isOver, SameRoles.refl _, rfl⟩ (fun s op kept _ => ?_) run
    obtain ⟨finished, roles, identities⟩ := kept
    have law := op.lawful s
    obtain ⟨still, same⟩ := law.frozen finished
    exact ⟨still, roles.trans same, law.identities.trans identities⟩
  exact kept.2

section Winners

variable {s : GameSession K}

omit [JsNumber K] in
theorem mem_confirmedWinnerIds (s : GameSession K) (id : Nat) : id ∈ s.confirmedWinnerIds ↔
    ∃ p ∈ s.world.players, p.playerId = id ∧ p.alive = true ∧ s.participates id := by
  unfold confirmedWinnerIds
  rw [mem_sortById, List.mem_dedup, List.mem_map]
  constructor
  · rintro ⟨p, chosen, rfl⟩
    simp only [List.mem_filter, Bool.and_eq_true, List.any_eq_true] at chosen
    obtain ⟨member, alive, identity, known, same⟩ := chosen
    refine ⟨p, member, rfl, alive, ?_⟩
    exact List.find?_isSome.mpr ⟨identity, known, same⟩
  · rintro ⟨p, member, rfl, alive, known⟩
    obtain ⟨identity, listed, same⟩ := List.find?_isSome.mp known
    refine ⟨p, ?_, rfl⟩
    simp only [List.mem_filter, Bool.and_eq_true, List.any_eq_true]
    exact ⟨member, alive, identity, listed, same⟩

omit [JsNumber K] in
theorem confirmedWinnerIds_increasing (s : GameSession K) :
    s.confirmedWinnerIds.Pairwise (· < ·) := by
  unfold confirmedWinnerIds
  dsimp only
  have distinct := List.nodup_dedup ((s.world.players.filter fun p =>
    p.alive && s.identities.any fun identity => identity.playerId = p.playerId).map
      PlayerState.playerId)
  generalize ((s.world.players.filter fun p =>
    p.alive && s.identities.any fun identity => identity.playerId = p.playerId).map
      PlayerState.playerId).dedup = winners at distinct
  have ordered := List.pairwise_insertionSort (fun a b : Nat => a ≤ b) winners
  have different : (sortById (fun slot => slot) winners).Nodup :=
    (sortById_perm _ winners).nodup_iff.mpr distinct
  exact (ordered.and different).imp fun both => Nat.lt_of_le_of_ne both.1 both.2

omit [JsNumber K] in
theorem confirmedWinnerIds_crowns (s : GameSession K) : s.Crowns s.confirmedWinnerIds :=
  ⟨confirmedWinnerIds_increasing s, mem_confirmedWinnerIds s⟩

/-- A player who participates has a row in the result. -/
theorem buildResult_row (s : GameSession K) {p : PlayerState K} (member : p ∈ s.world.players)
    (known : s.participates p.playerId) (info : Meta) (startedAt endedAt : Int)
    (winners : List Nat) (replay : Option SwitchRemake.ReplayHandleInfo) :
    ∃ row ∈ (s.buildResult info startedAt endedAt winners replay).players,
      row.playerId = p.playerId := by
  obtain ⟨identity, found⟩ := Option.isSome_iff_exists.mp known
  have present : (s.participantResult p).isSome := by
    rw [participantResult, found]
    rfl
  obtain ⟨row, shown⟩ := Option.isSome_iff_exists.mp present
  refine ⟨row, List.mem_filterMap.mpr ⟨p, member, shown⟩, ?_⟩
  rw [participantResult, found] at shown
  obtain rfl := Option.some.inj shown
  rfl

omit [JsNumber K] in
theorem survives_iff (w : World K) (id : Nat) :
    (∃ p ∈ w.players, p.playerId = id ∧ p.alive = true) ↔
      ∃ flag, (id, true, flag) ∈ w.players.map role := by
  constructor
  · rintro ⟨p, member, rfl, alive⟩
    exact ⟨p.isTagger, List.mem_map.mpr ⟨p, member, by rw [role, alive]⟩⟩
  · rintro ⟨flag, listed⟩
    obtain ⟨p, member, same⟩ := List.mem_map.mp listed
    simp only [role, Prod.mk.injEq] at same
    exact ⟨p, member, same.1, same.2.1⟩

omit [JsNumber K] in
theorem crowns_later {winners : List Nat} {later : GameSession K} (crowns : s.Crowns winners)
    (roles : SameRoles s.world later.world) (identities : later.identities = s.identities) :
    later.Crowns winners := by
  refine ⟨crowns.increasing, fun id => ?_⟩
  have known : later.participates id = s.participates id := by
    rw [participates, identityOf, identities]
    rfl
  have split (w : World K) (known : Prop) :
      (∃ p ∈ w.players, p.playerId = id ∧ p.alive = true ∧ known) ↔
        (∃ p ∈ w.players, p.playerId = id ∧ p.alive = true) ∧ known := by
    simp only [← and_assoc, exists_and_right]
  rw [crowns.survivors, known, split, split, survives_iff, survives_iff, roles]

end Winners

/-- The counters of a match always agree; once it is over, the winners told to the room are its
surviving participants, and every result built from them has a row for each. -/
theorem accounts_balance {start s : GameSession K} (fresh : start.Fresh) (run : Continues start s) :
    s.Balances ∧
    ∀ (op : SessionOp K) winners, .finishGame winners ∈ (op.posts s).2 →
      (op.apply s).Crowns winners ∧
      ∀ later, Continues (op.apply s) later → ∀ info startedAt endedAt replay,
        later.Crowns (later.buildResult info startedAt endedAt winners replay).winnerPlayerIds ∧
        ∀ id ∈ (later.buildResult info startedAt endedAt winners replay).winnerPlayerIds,
          ∃ row ∈ (later.buildResult info startedAt endedAt winners replay).players,
            row.playerId = id := by
  refine ⟨balances_of_books (run.books fresh), fun op winners told => ?_⟩
  obtain ⟨isOver, rfl⟩ := (op.lawful s).closes winners told
  refine ⟨confirmedWinnerIds_crowns _, fun later after info startedAt endedAt replay => ?_⟩
  obtain ⟨roles, identities⟩ := after.frozen isOver
  have crowned := crowns_later (confirmedWinnerIds_crowns (op.apply s)) roles identities
  refine ⟨crowned, fun id won => ?_⟩
  obtain ⟨p, member, rfl, _, known⟩ := (crowned.survivors id).mp won
  exact buildResult_row later member known info startedAt endedAt _ replay

/-- Three players of whom one leaves; the other two have won. -/
def seated : GameSession ℚ :=
  { threePlayers with
    identities :=
      [⟨1, .account 10, "a", 0, false⟩, ⟨2, .account 20, "b", 1, false⟩,
        ⟨3, .account 30, "c", 2, false⟩] }

theorem seated_fresh : seated.Fresh where
  competing := rfl
  distinct := by decide +kernel
  alive := by decide +kernel
  stats := by decide +kernel
  replay := rfl
  running := rfl

theorem accounts_balance_seated :
    (SessionOp.apply seated (.eliminateDisconnected 1)).Balances ∧
      (SessionOp.apply seated (.eliminateDisconnected 1)).Crowns [2, 3] :=
  ⟨(accounts_balance seated_fresh (.step .refl trivial)).1,
    ((accounts_balance seated_fresh .refl).2 (.eliminateDisconnected 1) [2, 3]
      (List.mem_singleton.mpr rfl)).1⟩


end SwitchRemake.Game

import SwitchRemake.Registry.Intents

/-!
# Rooms that stand frozen

A room under an offer that is not cancelled is frozen, whatever happens at its server.
-/

namespace SwitchRemake.Registry
open Lib Redis

/-! ## What a server guards -/

/-- A room object that is frozen and open. -/
def Frozen (s : GameServer) (object : Nat) : Prop :=
  ∃ room, s.objects[object]? = some room ∧ room.handingOff = true ∧ room.state ≠ .closed

/-- A room that stands frozen in the manager. -/
structure Stands (s : GameServer) (roomId : String) (object : Nat) : Prop where
  managed : ⟨roomId, object⟩ ∈ s.rooms.entries
  frozen : Frozen s object

/-- The object is under this offer, and what it was under before has been cancelled. -/
structure Sole (said : String → Option HandOffState) (offers : List Offer) (transferId : String)
    (object : Nat) : Prop where
  offered : ⟨transferId, object⟩ ∈ offers
  others : ∀ offer ∈ offers, offer.object = object → offer.transferId ≠ transferId →
    said offer.transferId = some .cancelled

/-- What is settled stands frozen and is pending. -/
structure Pends (n : Node) (settling : Settling) : Prop where
  pending : ⟨settling.roomId, settling.transferId⟩ ∈ n.pending.entries
  stands : ∃ object, settling.object = some object ∧ Stands n.server settling.roomId object

def SourceOk (said : String → Option HandOffState) (n : Node) : Source → Prop
  | .idle => True
  | .offering roomId object => Stands n.server roomId object ∧ n.pending.has roomId = false ∧
      ∀ offer ∈ n.offers, offer.object = object → said offer.transferId = some .cancelled
  | .sending roomId transferId object => Stands n.server roomId object ∧
      ⟨roomId, transferId⟩ ∈ n.pending.entries
  | .cancel settling => Pends n settling
  | .get settling => Pends n settling
  | .got settling state => Pends n settling ∧
      ∀ settled, state = some settled → settled ≠ .pending → said settling.transferId = some settled

/-- The rooms of the manager are different objects. -/
structure Apart (s : GameServer) : Prop where
  distinct : ∀ a ∈ s.rooms.entries, ∀ b ∈ s.rooms.entries, a.object = b.object → a = b
  bound : ∀ a ∈ s.rooms.entries, a.object < s.objects.length

/-- A room that has been offered is thawed after the cancellation only. -/
structure Node.Guards (said : String → Option HandOffState) (n : Node) : Prop where
  apart : Apart n.server
  offers : ∀ offer ∈ n.offers, said offer.transferId ≠ none ∧
    (said offer.transferId ≠ some .cancelled →
      ∃ room, n.server.objects[offer.object]? = some room ∧ room.handingOff = true)
  pending : ∀ p ∈ n.pending.entries, ∃ object, Stands n.server p.roomId object ∧
    Sole said n.offers p.transferId object
  source : SourceOk said n n.source
  staged : ∀ call ∈ n.adopting, call.stage ≠ .done →
    n.server.rooms.has call.payload.roomId = false
  single : ((n.adopting.filter fun call => call.stage ≠ .done).map
    fun call => call.payload.roomId).Nodup

/-- What stands frozen stays so. -/
structure Spares (s s' : GameServer) : Prop where
  stays : ∀ a ∈ s.rooms.entries, Frozen s a.object → a ∈ s'.rooms.entries
  frozen : ∀ object, Frozen s object → Frozen s' object
  kept : ∀ (object : Nat) (room : RoomObject), s.objects[object]? = some room →
    room.handingOff = true → ∃ after, s'.objects[object]? = some after ∧ after.handingOff = true

/-- Rooms may go. -/
structure Fewer (s s' : GameServer) : Prop where
  rooms : ∀ a ∈ s'.rooms.entries, a ∈ s.rooms.entries
  length : s'.objects.length = s.objects.length

namespace Spares
variable {s s' : GameServer}

theorem of_same (rooms : s'.rooms = s.rooms) (objects : s'.objects = s.objects) : Spares s s' where
  stays a inside _ := rooms.symm ▸ inside
  frozen object frozen := by
    unfold Frozen
    rw [objects]
    exact frozen
  kept object room there frozen := ⟨room, objects.symm ▸ there, frozen⟩

theorem stands (spares : Spares s s') {roomId : String} {object : Nat}
    (stands : Stands s roomId object) : Stands s' roomId object :=
  ⟨spares.stays _ stands.managed stands.frozen, spares.frozen object stands.frozen⟩

end Spares

namespace Fewer
variable {s s' : GameServer}

theorem of_same (rooms : s'.rooms = s.rooms) (objects : s'.objects = s.objects) : Fewer s s' :=
  ⟨fun _ inside => rooms ▸ inside, congrArg List.length objects⟩

theorem apart (fewer : Fewer s s') (apart : Apart s) : Apart s' where
  distinct a first b second := apart.distinct a (fewer.rooms a first) b (fewer.rooms b second)
  bound a inside := fewer.length.symm ▸ apart.bound a (fewer.rooms a inside)

theorem absent (fewer : Fewer s s') {roomId : String} (absent : s.rooms.has roomId = false) :
    s'.rooms.has roomId = false := by
  refine Bool.eq_false_iff.mpr fun there => ?_
  obtain ⟨a, inside, same⟩ := KeyedList.has_iff.mp there
  rw [KeyedList.has_iff.mpr ⟨a, fewer.rooms a inside, same⟩] at absent
  cases absent

end Fewer

namespace Node.Guards
variable {said said' : String → Option HandOffState} {n : Node}

theorem source_frame {n' : Node} (spares : Spares n.server n'.server)
    (pending : n'.pending = n.pending) (offers : n'.offers = n.offers) {source : Source}
    (ok : SourceOk said n source) : SourceOk said n' source := by
  have pends {settling : Settling} (pends : Pends n settling) : Pends n' settling := by
    obtain ⟨listed, object, own, stands⟩ := pends
    exact ⟨pending.symm ▸ listed, object, own, spares.stands stands⟩
  cases source with
  | idle => trivial
  | offering roomId object =>
    exact ⟨spares.stands ok.1, pending.symm ▸ ok.2.1, offers.symm ▸ ok.2.2⟩
  | sending roomId transferId object => exact ⟨spares.stands ok.1, pending.symm ▸ ok.2⟩
  | cancel settling => exact pends ok
  | get settling => exact pends ok
  | got settling state => exact ⟨pends ok.1, ok.2⟩

/-- A server that spares what is frozen guards on. -/
theorem spare (guards : n.Guards said) {n' : Node} (spares : Spares n.server n'.server)
    (apart : Apart n'.server) (pending : n'.pending = n.pending) (offers : n'.offers = n.offers)
    (source : n'.source = n.source)
    (staged : ∀ call ∈ n'.adopting, call.stage ≠ .done →
      n'.server.rooms.has call.payload.roomId = false)
    (single : ((n'.adopting.filter fun call => call.stage ≠ .done).map
      fun call => call.payload.roomId).Nodup) : n'.Guards said where
  apart := apart
  offers offer inside := by
    rw [offers] at inside
    obtain ⟨stored, keeps⟩ := guards.offers offer inside
    refine ⟨stored, fun open_ => ?_⟩
    obtain ⟨room, there, frozen⟩ := keeps open_
    exact spares.kept offer.object room there frozen
  pending p inside := by
    rw [pending] at inside
    obtain ⟨object, stands, sole⟩ := guards.pending p inside
    exact ⟨object, spares.stands stands, offers.symm ▸ sole⟩
  source := by
    rw [source]
    exact source_frame spares pending offers guards.source
  staged := staged
  single := single

theorem frame (guards : n.Guards said) {s : GameServer} (spares : Spares n.server s)
    (fewer : Fewer n.server s) : Node.Guards said { n with server := s } :=
  guards.spare spares (fewer.apart guards.apart) rfl rfl rfl
    (fun call inside open_ => fewer.absent (guards.staged call inside open_)) guards.single

/-- Only what is pending changes, and the guard is for what is not cancelled. -/
theorem settles (guards : n.Guards said)
    (stays : ∀ transferId, said transferId ≠ none → said' transferId ≠ none)
    (settled : ∀ transferId state, state ≠ .pending → said transferId = some state →
      said' transferId = some state) : n.Guards said' where
  apart := guards.apart
  offers offer inside := by
    obtain ⟨stored, keeps⟩ := guards.offers offer inside
    exact ⟨stays _ stored, fun open_ => keeps fun cancelled =>
      open_ (settled _ _ (by simp) cancelled)⟩
  pending p inside := by
    obtain ⟨object, stands, offered, others⟩ := guards.pending p inside
    exact ⟨object, stands, offered, fun offer listed same differs =>
      settled _ _ (by simp) (others offer listed same differs)⟩
  source := by
    have ok := guards.source
    cases source : n.source with
    | idle => trivial
    | offering roomId object =>
      rw [source] at ok
      exact ⟨ok.1, ok.2.1, fun offer listed same => settled _ _ (by simp) (ok.2.2 offer listed same)⟩
    | sending roomId transferId object =>
      rw [source] at ok
      exact ok
    | cancel settling =>
      rw [source] at ok
      exact ok
    | get settling =>
      rw [source] at ok
      exact ok
    | got settling state =>
      rw [source] at ok
      exact ⟨ok.1, fun state same open_ => settled _ _ open_ (ok.2 state same open_)⟩
  staged := guards.staged
  single := guards.single

end Node.Guards

/-! ## Rooms that change, close and go -/

section
variable {s : GameServer}

theorem setObject_spares {object : Nat} {room : RoomObject}
    (keeps : ∀ old ∈ s.objects[object]?, room.handingOff = old.handingOff ∧
      (old.handingOff = true → room.state = old.state)) : Spares s (s.setObject object room) := by
  have each (other : Nat) (old : RoomObject) (there : s.objects[other]? = some old) :
      (s.objects.set object room)[other]? = some (if object = other then room else old) := by
    rw [List.getElem?_set]
    split
    · rename_i same
      rw [if_pos (same ▸ (List.getElem?_eq_some_iff.mp there).1)]
    · exact there
  refine ⟨fun _ inside _ => inside, fun other frozen => ?_, fun other old there on => ?_⟩
  · obtain ⟨old, there, on, open_⟩ := frozen
    refine ⟨_, each other old there, ?_⟩
    split
    · rename_i same
      obtain ⟨same_, state⟩ := keeps old (same.symm ▸ there)
      exact ⟨same_.trans on, (state on).symm ▸ open_⟩
    · exact ⟨on, open_⟩
  · refine ⟨_, each other old there, ?_⟩
    split
    · rename_i same
      exact (keeps old (same.symm ▸ there)).1.trans on
    · exact on

theorem sweep_spares : Spares s s.sweep := by
  refine ⟨fun a inside frozen => ?_, fun _ => id, fun _ room there on => ⟨room, there, on⟩⟩
  obtain ⟨room, there, -, open_⟩ := frozen
  refine KeyedList.mem_filter.mpr ⟨inside, ?_⟩
  simp [there, open_]

theorem sweep_fewer : Fewer s s.sweep :=
  ⟨fun _ inside => (KeyedList.mem_filter.mp inside).1, rfl⟩

/-- One object is touched, and the rooms may go. -/
structure Touches (s s' : GameServer) (object : Nat) : Prop extends Fewer s s' where
  others : ∀ other, other ≠ object → s'.objects[other]? = s.objects[other]?
  stays : ∀ a ∈ s.rooms.entries, a.object ≠ object → Frozen s a.object → a ∈ s'.rooms.entries

theorem updateObject_others (object : Nat) (f : RoomObject → RoomObject) {other : Nat}
    (differs : other ≠ object) :
    (s.updateObject (some object) f).objects[other]? = s.objects[other]? := by
  show (s.objects.modify object f)[other]? = _
  rw [List.getElem?_modify]
  simp [differs.symm]

theorem updateObject_same (object : Nat) (f : RoomObject → RoomObject) :
    (s.updateObject (some object) f).objects[object]? = s.objects[object]?.map f := by
  show (s.objects.modify object f)[object]? = _
  rw [List.getElem?_modify]
  simp

theorem updateObject_touches (object : Nat) (f : RoomObject → RoomObject) :
    Touches s (s.updateObject (some object) f) object :=
  ⟨⟨fun _ => id, List.length_modify ..⟩, fun _ differs => updateObject_others object f differs,
    fun _ inside _ _ => inside⟩

theorem releaseRoom_touches (roomId : String) (object : Nat) :
    Touches s (s.releaseRoom roomId (some object)) object := by
  have parts : (s.releaseRoom roomId (some object)).rooms =
      ((s.updateObject (some object) fun room => { room with state := .closed }).sweep).rooms ∧
      (s.releaseRoom roomId (some object)).objects =
        (s.updateObject (some object) fun room => { room with state := .closed }).objects := by
    unfold GameServer.releaseRoom
    dsimp only
    split <;> exact ⟨rfl, rfl⟩
  refine ⟨⟨fun a inside => ?_, ?_⟩, fun other differs => ?_, fun a inside differs frozen => ?_⟩
  · rw [parts.1] at inside
    exact (KeyedList.mem_filter.mp inside).1
  · rw [parts.2]
    exact List.length_modify ..
  · rw [parts.2]
    exact updateObject_others object _ differs
  · rw [parts.1]
    obtain ⟨room, there, -, open_⟩ := frozen
    refine KeyedList.mem_filter.mpr ⟨inside, ?_⟩
    rw [updateObject_others object _ differs, there]
    simp [open_]

theorem releaseRoom_same (roomId : String) (object : Nat) :
    (s.releaseRoom roomId (some object)).objects[object]? =
      s.objects[object]?.map fun room => { room with state := .closed } := by
  have parts : (s.releaseRoom roomId (some object)).objects =
      (s.updateObject (some object) fun room => { room with state := .closed }).objects := by
    unfold GameServer.releaseRoom
    dsimp only
    split <;> rfl
  rw [parts]
  exact updateObject_same object _

end

namespace Node.Guards
variable {said : String → Option HandOffState} {n : Node}

/-- A room that is thawed or released leaves the others as they are. -/
theorem touch (guards : n.Guards said) {n' : Node} {roomId : String} {object : Nat}
    (touches : Touches n.server n'.server object)
    (managed : ⟨roomId, object⟩ ∈ n.server.rooms.entries)
    (fine : (∀ offer ∈ n.offers, offer.object = object → said offer.transferId = some .cancelled) ∨
      ∀ room, n.server.objects[object]? = some room → room.handingOff = true →
        ∃ after, n'.server.objects[object]? = some after ∧ after.handingOff = true)
    (pending : ∀ p ∈ n'.pending.entries, p ∈ n.pending.entries ∧ p.roomId ≠ roomId)
    (offers : n'.offers = n.offers) (source : n'.source = .idle)
    (adopting : n'.adopting = n.adopting) : n'.Guards said where
  apart := touches.toFewer.apart guards.apart
  offers offer inside := by
    rw [offers] at inside
    obtain ⟨stored, keeps⟩ := guards.offers offer inside
    refine ⟨stored, fun open_ => ?_⟩
    obtain ⟨room, there, frozen⟩ := keeps open_
    by_cases same : offer.object = object
    · rcases fine with cancelled | kept
      · exact absurd (cancelled offer inside same) open_
      · rw [same] at there ⊢
        exact kept room there frozen
    · exact ⟨room, (touches.others _ same).trans there, frozen⟩
  pending p inside := by
    obtain ⟨listed, differs⟩ := pending p inside
    obtain ⟨other, stands, sole⟩ := guards.pending p listed
    have elsewhere : other ≠ object := by
      rintro rfl
      have same := guards.apart.distinct _ stands.managed _ managed rfl
      exact differs (congrArg Managed.roomId same)
    obtain ⟨room, there, frozen⟩ := stands.frozen
    exact ⟨other, ⟨touches.stays _ stands.managed elsewhere stands.frozen,
      room, (touches.others _ elsewhere).trans there, frozen⟩, offers.symm ▸ sole⟩
  source := by
    rw [source]
    trivial
  staged call inside open_ := by
    rw [adopting] at inside
    exact touches.toFewer.absent (guards.staged call inside open_)
  single := adopting.symm ▸ guards.single

end Node.Guards
/-! ## The source's steps -/

section
variable {said : String → Option HandOffState} {n : Node}

theorem object?_of_managed {s : GameServer} {roomId : String} {object : Nat}
    (managed : ⟨roomId, object⟩ ∈ s.rooms.entries) : s.object? roomId = some object := by
  unfold GameServer.object?
  rw [KeyedList.get?_of_mem managed]
  rfl

theorem managed_of_object? {s : GameServer} {roomId : String} {object : Nat}
    (found : s.object? roomId = some object) : ⟨roomId, object⟩ ∈ s.rooms.entries := by
  obtain ⟨⟨other, own⟩, there, rfl⟩ := Option.map_eq_some_iff.mp found
  obtain ⟨inside, same⟩ := KeyedList.mem_of_get? there
  have same : other = roomId := same
  exact same ▸ inside

namespace Node.Guards

/-- The run of the source goes on from where its room stands. -/
theorem settle (guards : n.Guards said) {roomId transferId : String}
    (listed : ⟨roomId, transferId⟩ ∈ n.pending.entries) : (n.settle roomId transferId).Guards said := by
  obtain ⟨object, stands, -⟩ := guards.pending _ listed
  exact { guards with source := ⟨listed, object, object?_of_managed stands.managed, stands⟩ }

/-- A room that is not frozen has no offer that is not cancelled. -/
theorem cancelled_of_thawed (guards : n.Guards said) {object : Nat} {room : RoomObject}
    (there : n.server.objects[object]? = some room) (thawed : room.handingOff = false) :
    ∀ offer ∈ n.offers, offer.object = object → said offer.transferId = some .cancelled := by
  intro offer inside same
  by_contra open_
  obtain ⟨other, found, on⟩ := (guards.offers offer inside).2 open_
  rw [same, there] at found
  rw [Option.some.inj found, on] at thawed
  cases thawed

theorem freeze (guards : n.Guards said) (keys : Keys) (roomId : String) :
    (n.act keys (.freeze roomId)).1.Guards said := by
  simp only [Node.act]
  split
  · rename_i object room idle found got
    split
    · rename_i may
      rw [Bool.and_eq_true, Bool.not_eq_true', decide_eq_true_eq] at may
      obtain ⟨thawed, waiting⟩ := may
      have managed := managed_of_object? found
      have there : n.server.objects[object]? = some room := by
        unfold GameServer.get at got
        rwa [found, Option.bind_some] at got
      have cancelled := guards.cancelled_of_thawed there thawed
      have freezes := updateObject_same (s := n.server) object fun room => { room with handingOff := true }
      rw [there, Option.map_some] at freezes
      have frozen : Frozen (n.server.updateObject (some object) fun room =>
          { room with handingOff := true }) object := by
        refine ⟨_, freezes, rfl, ?_⟩
        rw [waiting]
        simp
      have spares : Spares n.server (n.server.updateObject (some object) fun room =>
          { room with handingOff := true }) := by
        refine ⟨fun _ inside _ => inside, fun other before => ?_, fun other old before on => ?_⟩
        · by_cases same : other = object
          · exact same ▸ frozen
          · obtain ⟨old, before, on⟩ := before
            exact ⟨old, (updateObject_others object _ same).trans before, on⟩
        · by_cases same : other = object
          · rw [same]
            exact ⟨_, freezes, rfl⟩
          · exact ⟨old, (updateObject_others object _ same).trans before, on⟩
      have absent : n.pending.has roomId = false := by
        refine Bool.eq_false_iff.mpr fun listed => ?_
        obtain ⟨p, inside, same⟩ := KeyedList.has_iff.mp listed
        obtain ⟨other, stands, -⟩ := guards.pending p inside
        have here : (⟨p.roomId, other⟩ : Managed) = ⟨roomId, object⟩ :=
          KeyedList.eq_of_key stands.managed managed same
        obtain ⟨old, before, on, -⟩ := stands.frozen
        have here : other = object := congrArg Managed.object here
        rw [here, there] at before
        rw [Option.some.inj before, on] at thawed
        cases thawed
      have framed := guards.frame spares ⟨fun _ => id, List.length_modify ..⟩
      exact { framed with source := ⟨⟨managed, frozen⟩, absent, cancelled⟩ }
    · exact guards
  · exact guards

/-- An offer that could not be stored. -/
theorem thaw (guards : n.Guards said) {roomId : String} {object : Nat}
    (offering : SourceOk said n (.offering roomId object)) :
    ({ n.thaw (some object) with source := .idle } : Node).Guards said := by
  obtain ⟨stands, absent, cancelled⟩ := offering
  refine guards.touch (updateObject_touches object _) stands.managed (.inl cancelled) (fun p inside =>
    ⟨inside, fun same => ?_⟩) rfl rfl rfl
  have listed : n.pending.has roomId = true := KeyedList.has_iff.mpr ⟨p, inside, same⟩
  rw [absent] at listed
  cases listed

theorem offer (guards : n.Guards said) {roomId transferId : String} {object : Nat}
    (offering : SourceOk said n (.offering roomId object)) (pending : said transferId = some .pending) :
    ({ n with
      pending := n.pending.set ⟨roomId, transferId⟩
      offers := n.offers ++ [⟨transferId, object⟩]
      source := .sending roomId transferId object } : Node).Guards said := by
  obtain ⟨stands, absent, cancelled⟩ := offering
  refine ⟨guards.apart, fun offer inside => ?_, fun p inside => ?_, ⟨stands, ?_⟩, guards.staged,
    guards.single⟩
  · rcases List.mem_append.mp inside with before | new
    · exact guards.offers offer before
    · rw [List.mem_singleton.mp new]
      obtain ⟨room, there, on, -⟩ := stands.frozen
      exact ⟨by rw [pending]; simp, fun _ => ⟨room, there, on⟩⟩
  · rcases KeyedList.mem_set.mp inside with rfl | ⟨before, differs⟩
    · refine ⟨object, stands, List.mem_append_right _ (List.mem_singleton_self _),
        fun offer listed same differs => ?_⟩
      rcases List.mem_append.mp listed with before | new
      · exact cancelled offer before same
      · rw [List.mem_singleton.mp new] at differs
        exact absurd rfl differs
    · obtain ⟨other, elsewhere, offered, others⟩ := guards.pending p before
      refine ⟨other, elsewhere, List.mem_append_left _ offered, fun offer listed same open_ => ?_⟩
      rcases List.mem_append.mp listed with old | new
      · exact others offer old same open_
      · rw [List.mem_singleton.mp new] at same
        have same : object = other := same
        subst same
        have here := guards.apart.distinct _ elsewhere.managed _ stands.managed rfl
        exact absurd (congrArg Managed.roomId here) differs
  · exact KeyedList.mem_set.mpr (.inl rfl)

/-- The source knows how its hand-off was settled. -/
theorem resolve (guards : n.Guards said) {settling : Settling} {state : HandOffState} {object : Nat}
    (pends : Pends n settling) (own : settling.object = some object)
    (settled : said settling.transferId = some state) {n' : Node}
    (touches : Touches n.server n'.server object)
    (fine : state = .cancelled ∨ ∀ room, n.server.objects[object]? = some room → room.handingOff = true →
        ∃ after, n'.server.objects[object]? = some after ∧ after.handingOff = true)
    (pending : n'.pending = n.pending.delete settling.roomId) (offers : n'.offers = n.offers)
    (source : n'.source = .idle) (adopting : n'.adopting = n.adopting) : n'.Guards said := by
  obtain ⟨listed, other, same, stands⟩ := pends
  rw [own, Option.some.injEq] at same
  subst same
  refine guards.touch touches stands.managed ?_ (fun p inside => ?_) offers source adopting
  · rcases fine with cancelled | kept
    · left
      intro offer inside same
      obtain ⟨object', stands', sole⟩ := guards.pending _ listed
      have here := KeyedList.eq_of_key stands'.managed stands.managed rfl
      have here : object' = object := congrArg Managed.object here
      by_cases own : offer.transferId = settling.transferId
      · rw [own, settled, cancelled]
      · exact sole.others offer inside (same.trans here.symm) own
    · exact .inr kept
  · rw [pending] at inside
    exact KeyedList.mem_delete.mp inside

end Node.Guards

/-- What the source's command does to the intents. -/
theorem sourceTurn_guards {keys : Keys} (guards : n.Guards keys.said) {transferId : String}
    (fresh : keys.handoff transferId = none) (target : String) :
    Keys.Settles keys (n.sourceTurn keys transferId target).2.1 ∧
      (n.sourceTurn keys transferId target).1.Guards (n.sourceTurn keys transferId target).2.1.said := by
  have ok := guards.source
  have later {keys' : Keys} (settles : Keys.Settles keys keys') : n.Guards keys'.said :=
    guards.settles settles.stays fun _ _ over_ was => settles.settled over_ was
  cases at_source : n.source with
  | idle =>
    simp only [Node.sourceTurn, at_source]
    exact ⟨.of_handoff rfl, guards⟩
  | offering roomId object =>
    rw [at_source] at ok
    have absent : (keys.handoff transferId).get keys.now = none := by
      rw [fresh]
      rfl
    simp only [Node.sourceTurn, at_source, setPxIfAbsent, absent, if_true]
    have settles := Keys.offer_settles fresh
    have after := later settles
    have ok' := after.source
    rw [at_source] at ok'
    exact ⟨settles, after.offer ok' (Keys.said_put HAND_OFF_TTL_MS)⟩
  | sending roomId transferId object =>
    rw [at_source] at ok
    simp only [Node.sourceTurn, at_source]
    exact ⟨.of_handoff rfl, guards.settle ok.2⟩
  | cancel settling =>
    rw [at_source] at ok
    simp only [Node.sourceTurn, at_source]
    have settles := Keys.cancel_settles keys settling.transferId
    have pends : Pends n settling := ok
    exact ⟨settles, { later settles with source := ⟨pends.pending, pends.stands⟩ }⟩
  | get settling =>
    rw [at_source] at ok
    simp only [Node.sourceTurn, at_source]
    have pends : Pends n settling := ok
    refine ⟨.of_handoff rfl, { guards with
      source := ⟨⟨pends.pending, pends.stands⟩, fun settled same _ => ?_⟩ }⟩
    exact Keys.said_of_state same
  | got settling state =>
    rw [at_source] at ok
    obtain ⟨pends, knows⟩ := ok
    obtain ⟨object, own, -⟩ := pends.stands
    simp only [Node.sourceTurn, at_source]
    split
    · refine ⟨.of_handoff rfl, guards.resolve pends own (knows .committed rfl (by simp))
        (own ▸ releaseRoom_touches settling.roomId object) (.inr fun room there on => ?_) rfl rfl rfl rfl⟩
      refine ⟨{ room with state := .closed }, ?_, on⟩
      show (n.server.releaseRoom settling.roomId settling.object).objects[object]? = _
      rw [own, releaseRoom_same, there, Option.map_some]
    · exact ⟨.of_handoff rfl, guards.resolve pends own (knows .cancelled rfl (by simp))
        (own ▸ updateObject_touches object _) (.inl rfl) rfl rfl rfl rfl⟩
    · exact ⟨.of_handoff rfl, { guards with source := trivial }⟩

theorem sourceFail_guards (guards : n.Guards said) : n.sourceFail.Guards said := by
  have ok := guards.source
  unfold Node.sourceFail
  split
  · rename_i roomId object at_source
    rw [at_source] at ok
    exact guards.thaw ok
  · rename_i roomId transferId object at_source
    rw [at_source] at ok
    exact guards.settle ok.2
  · exact { guards with source := trivial }

end
end SwitchRemake.Registry

import SwitchRemake.Registry.FrozenRooms

/-!
# Staged rooms

A staged room is in no manager, a server stages a room once, and a call knows what it has read.
-/

namespace SwitchRemake.Registry
open Lib Redis

/-! ## The adopter's steps -/

section
variable {said : String → Option HandOffState} {n : Node} {keys : Keys}

/-- The rooms of the adoptions that are not done. -/
def openRooms (calls : List Adopting) : List String :=
  (calls.filter fun call => call.stage ≠ .done).map fun call => call.payload.roomId

theorem openRooms_append (before after : List Adopting) :
    openRooms (before ++ after) = openRooms before ++ openRooms after := by
  rw [openRooms, List.filter_append, List.map_append]
  rfl

theorem mem_openRooms {calls : List Adopting} {call : Adopting} (inside : call ∈ calls)
    (open_ : call.stage ≠ .done) : call.payload.roomId ∈ openRooms calls :=
  List.mem_map_of_mem (List.mem_filter.mpr ⟨inside, decide_eq_true open_⟩)

/-- The place of one element of a list, and what a change there leaves. -/
theorem set_split {α : Type} {xs : List α} {place : Nat} {x : α} (found : xs[place]? = some x) :
    ∃ before after, xs = before ++ x :: after ∧ ∀ y, xs.set place y = before ++ y :: after := by
  obtain ⟨bound, there⟩ := List.getElem?_eq_some_iff.mp found
  refine ⟨xs.take place, xs.drop (place + 1), ?_, fun y => ?_⟩
  · rw [← there, List.getElem_cons_drop, List.take_append_drop]
  · rw [List.set_eq_take_append_cons_drop, if_pos bound]

theorem openRooms_single {call : Adopting} (open_ : call.stage ≠ .done) :
    openRooms [call] = [call.payload.roomId] := by
  simp [openRooms, open_]

/-- A call that goes on keeps its room open, or is done with it. -/
theorem openRooms_set {calls : List Adopting} {place : Nat} {call : Adopting}
    (found : calls[place]? = some call) {stage : Adoption} (goes : stage ≠ .done → call.stage ≠ .done) :
    (openRooms (calls.set place { call with stage })).Sublist (openRooms calls) := by
  obtain ⟨before, after, parts, sets⟩ := set_split found
  rw [sets, parts, openRooms_append, openRooms_append]
  refine List.Sublist.append (List.Sublist.refl _) ?_
  show (openRooms ([{ call with stage }] ++ after)).Sublist (openRooms ([call] ++ after))
  rw [openRooms_append, openRooms_append]
  refine List.Sublist.append ?_ (List.Sublist.refl _)
  by_cases open_ : stage = .done
  · have none_ : openRooms [{ call with stage }] = [] := by simp [openRooms, open_]
    rw [none_]
    exact List.nil_sublist _
  · rw [openRooms_single (by exact open_), openRooms_single (goes open_)]

/-- A call that is done leaves no other call for its room. -/
theorem openRooms_done {calls : List Adopting} (single : (openRooms calls).Nodup) {place : Nat}
    {call : Adopting} (found : calls[place]? = some call) (open_ : call.stage ≠ .done) :
    ∀ other ∈ calls.set place { call with stage := .done }, other.stage ≠ .done →
      other ∈ calls ∧ other.payload.roomId ≠ call.payload.roomId := by
  obtain ⟨before, after, parts, sets⟩ := set_split found
  have nodup : (openRooms before ++ call.payload.roomId :: openRooms after).Nodup := by
    rw [parts, openRooms_append, show call :: after = [call] ++ after from rfl, openRooms_append,
      openRooms_single open_] at single
    exact single
  obtain ⟨-, later, apart⟩ := List.nodup_append.mp nodup
  intro other inside going
  rw [sets] at inside
  rcases List.mem_append.mp inside with early | late
  · refine ⟨parts ▸ List.mem_append_left _ early, fun same => ?_⟩
    exact apart _ (mem_openRooms early going) _ List.mem_cons_self same
  · rcases List.mem_cons.mp late with rfl | late
    · exact absurd rfl going
    · refine ⟨parts ▸ List.mem_append_right _ (List.mem_cons_of_mem _ late), fun same => ?_⟩
      exact (List.nodup_cons.mp later).1 (same ▸ mem_openRooms late going)

/-! ### A room that is added -/

theorem addRoom_spares (s : GameServer) {roomId : String} (room : RoomObject)
    (absent : s.rooms.has roomId = false) : Spares s (s.addRoom roomId room) := by
  have each (object : Nat) (old : RoomObject) (there : s.objects[object]? = some old) :
      (s.addRoom roomId room).objects[object]? = some old := by
    show (s.objects ++ [room])[object]? = some old
    rw [List.getElem?_append_left (List.getElem?_eq_some_iff.mp there).1]
    exact there
  refine ⟨fun a inside _ => ?_, fun object frozen => ?_, fun object old there on =>
    ⟨old, each object old there, on⟩⟩
  · show a ∈ (s.rooms.set ⟨roomId, s.objects.length⟩).entries
    rw [KeyedList.entries_set_of_absent absent]
    exact List.mem_append_left _ inside
  · obtain ⟨old, there, on⟩ := frozen
    exact ⟨old, each object old there, on⟩

theorem addRoom_apart {s : GameServer} (apart : Apart s) {roomId : String} (room : RoomObject)
    (absent : s.rooms.has roomId = false) : Apart (s.addRoom roomId room) := by
  have entries : (s.addRoom roomId room).rooms.entries =
      s.rooms.entries ++ [⟨roomId, s.objects.length⟩] := KeyedList.entries_set_of_absent absent
  have length : (s.addRoom roomId room).objects.length = s.objects.length + 1 := List.length_append
  refine ⟨fun a first b second same => ?_, fun a inside => ?_⟩
  · rw [entries] at first second
    rcases List.mem_append.mp first with old | new <;> rcases List.mem_append.mp second with old' | new'
    · exact apart.distinct a old b old' same
    · rw [List.mem_singleton.mp new'] at same
      exact absurd same (Nat.ne_of_lt (apart.bound a old))
    · rw [List.mem_singleton.mp new] at same
      exact absurd same.symm (Nat.ne_of_lt (apart.bound b old'))
    · rw [List.mem_singleton.mp new, List.mem_singleton.mp new']
  · rw [entries] at inside
    rw [length]
    rcases List.mem_append.mp inside with old | new
    · exact Nat.lt_succ_of_lt (apart.bound a old)
    · rw [List.mem_singleton.mp new]
      exact Nat.lt_succ_self _

theorem addRoom_has {s : GameServer} {roomId other : String} (room : RoomObject)
    (absent : s.rooms.has other = false) (differs : other ≠ roomId) :
    (s.addRoom roomId room).rooms.has other = false := by
  show (s.rooms.set ⟨roomId, s.objects.length⟩).has other = false
  rw [KeyedList.has_eq_isSome, KeyedList.get?_set, if_neg differs, ← KeyedList.has_eq_isSome]
  exact absent

theorem trackAdoptedRoom_rest (s : GameServer) (payload : AdoptRoomPayload) :
    (s.trackAdoptedRoom payload).rooms = s.rooms ∧
      (s.trackAdoptedRoom payload).objects = s.objects := by
  unfold GameServer.trackAdoptedRoom
  induction payload.members generalizing s with
  | nil => exact ⟨rfl, rfl⟩
  | cons userId rest ih => exact ih (s.trackSeat payload.roomId userId ("adopt:" ++ payload.transferId))

/-- Only the adoptions change. -/
theorem Node.Guards.adoptions (guards : n.Guards said) {adopting : List Adopting}
    {adopted : List String} (staged : ∀ call ∈ adopting, call.stage ≠ .done →
      n.server.rooms.has call.payload.roomId = false) (single : (openRooms adopting).Nodup) :
    ({ n with adopting, adopted } : Node).Guards said :=
  guards.spare (.of_same rfl rfl) guards.apart rfl rfl rfl staged single

/-- A room of nobody is added. -/
theorem Node.Guards.add (guards : n.Guards said) {s : GameServer} (rooms : s.rooms = n.server.rooms)
    (objects : s.objects = n.server.objects) {roomId : String} (room : RoomObject)
    (absent : n.server.rooms.has roomId = false) {adopting : List Adopting} {adopted : List String}
    (staged : ∀ call ∈ adopting, call.stage ≠ .done →
      call ∈ n.adopting ∧ call.payload.roomId ≠ roomId)
    (single : (openRooms adopting).Nodup) :
    ({ n with server := s.addRoom roomId room, adopting, adopted } : Node).Guards said := by
  have absent' : s.rooms.has roomId = false := by rw [rooms, absent]
  have added := addRoom_spares s room absent'
  have same : Spares n.server s := .of_same rooms objects
  refine guards.spare ⟨fun a inside frozen => ?_, fun object frozen => ?_, fun object old there on => ?_⟩
    (addRoom_apart ((Fewer.of_same rooms objects).apart guards.apart) room absent') rfl rfl rfl
    (fun call inside open_ => ?_) single
  · exact added.stays a (same.stays a inside frozen) (same.frozen _ frozen)
  · exact added.frozen object (same.frozen object frozen)
  · obtain ⟨after, found, still⟩ := same.kept object old there on
    exact added.kept object after found still
  · obtain ⟨listed, differs⟩ := staged call inside open_
    refine addRoom_has room ?_ differs
    rw [rooms]
    exact guards.staged call listed open_

/-! ### One turn of an adoption -/

/-- Only an adoption that found its intent committed puts the room into the manager. -/
theorem adoptTurn_cases (s : GameServer) (keys : Keys) (payload : AdoptRoomPayload) (now : Nat)
    (stage : Adoption) : (stage.Adopts ∧ s.adoptTurn keys payload now stage =
        ((s.trackAdoptedRoom payload).addRoom payload.roomId (GameServer.adoptedRoom payload), keys,
          .done)) ∨
      ¬ stage.Adopts ∧ (s.adoptTurn keys payload now stage).1 = s := by
  cases stage with
  | intentGot state =>
    by_cases committed : state = some .committed
    · exact .inl ⟨committed, if_pos committed⟩
    · refine .inr ⟨committed, ?_⟩
      simp only [GameServer.adoptTurn, if_neg committed]
      split <;> rfl
  | againGot state =>
    by_cases committed : state = some .committed
    · exact .inl ⟨committed, if_pos committed⟩
    · exact .inr ⟨committed, congrArg Prod.fst (if_neg committed)⟩
  | replied committed =>
    cases committed with
    | true => exact .inl ⟨rfl, rfl⟩
    | false => exact .inr ⟨Bool.false_ne_true, rfl⟩
  | directoryGot previous =>
    refine .inr ⟨id, ?_⟩
    simp only [GameServer.adoptTurn]
    split
    · split <;> rfl
    · rfl
  | claims left replacements => cases left <;> exact .inr ⟨id, rfl⟩
  | claimGot userId claim left replacements =>
    refine .inr ⟨id, ?_⟩
    simp only [GameServer.adoptTurn]
    split
    · split <;> rfl
    · rfl
  | intentGet => exact .inr ⟨id, rfl⟩
  | directoryGet => exact .inr ⟨id, rfl⟩
  | commit replacements => exact .inr ⟨id, rfl⟩
  | againGet => exact .inr ⟨id, rfl⟩
  | thrown => exact .inr ⟨id, rfl⟩
  | done => exact .inr ⟨id, rfl⟩

theorem adoptTurn_done (s : GameServer) (keys : Keys) (payload : AdoptRoomPayload) (now : Nat) :
    (s.adoptTurn keys payload now .done).2.2 = .done := rfl

end
/-! ## Every act -/

section
variable {n : Node} {keys : Keys}

theorem adoptTurn_settles {s : GameServer} {payload : AdoptRoomPayload} {now : Nat} {stage : Adoption}
    (ok : stage.Ok payload s.serverId) :
    Keys.Settles keys (s.adoptTurn keys payload now stage).2.1 := by
  by_cases commits : ∃ replacements, stage = .commit replacements
  · obtain ⟨replacements, rfl⟩ := commits
    show Keys.Settles keys (compareAndSetMany keys replacements).2
    rcases commit_keys (k := keys) ok.2 with same | ⟨-, commits⟩
    · rw [same]
      exact .of_handoff rfl
    · exact commits.settles
  · rw [GameServer.adoptTurn_keys fun replacements same => commits ⟨replacements, same⟩]
    exact .of_handoff rfl

/-- What a server may do, as `Cluster.Allowed` has it. -/
def MayAct (n : Node) (keys : Keys) (sent : List AdoptRoomPayload) : Act → Prop
  | .changeRoom object room => ∀ old ∈ n.server.objects[object]?,
      room.handingOff = old.handingOff ∧ (old.handingOff = true → room.state = old.state)
  | .addRoom roomId room =>
    n.server.rooms.has roomId = false ∧ ¬ n.Stages roomId ∧ room.handingOff = false
  | .sourceTurn transferId _ => keys.handoff transferId = none
  | .adopt payload => payload ∈ sent
  | _ => True

theorem mayAct {c : Cluster} {place : Nat} {act : Act} (may : c.Allowed (.act place act))
    (found : c.nodes[place]? = some n) : MayAct n c.keys c.sent act := by
  cases act with
  | changeRoom object room => exact may n found
  | addRoom roomId room => exact may n found
  | sourceTurn transferId target => exact may
  | adopt payload => exact may
  | _ => trivial

theorem failed_of_done {stage : Adoption} (done : stage = .done) : stage.failed = .done := by
  rw [done]
  rfl

theorem act_guards (guards : n.Guards keys.said) (ok : n.Ok) {sent : List AdoptRoomPayload} {act : Act}
    (may : MayAct n keys sent act) : Keys.Settles keys (n.act keys act).2.1 ∧
      (n.act keys act).1.Guards (n.act keys act).2.1.said := by
  have still {n' : Node} (guards : n'.Guards keys.said) :
      Keys.Settles keys keys ∧ n'.Guards keys.said := ⟨.of_handoff rfl, guards⟩
  have same {s : GameServer} (rooms : s.rooms = n.server.rooms)
      (objects : s.objects = n.server.objects) : Node.Guards keys.said { n with server := s } :=
    guards.frame (.of_same rooms objects) (.of_same rooms objects)
  cases act with
  | addRoom roomId room =>
    refine still (guards.add rfl rfl room may.1 (fun call inside open_ => ⟨inside, fun own => ?_⟩)
      guards.single)
    exact may.2.1 ⟨call, inside, own, open_⟩
  | changeRoom object room =>
    exact still (guards.frame (setObject_spares may) ⟨fun _ => id, List.length_set⟩)
  | sweep => exact still (guards.frame sweep_spares sweep_fewer)
  | trackSeat roomId userId requestId => exact still (same rfl rfl)
  | noteReleased roomId userId cooldown now => exact still (same rfl rfl)
  | noteKicked roomId userId => exact still (same rfl rfl)
  | publish now =>
    simp only [Node.act]
    split
    · exact still (same rfl rfl)
    · exact still guards
  | turn place now =>
    obtain ⟨rooms, objects, handoff, -⟩ := n.server.turn_rest keys place now
    have said : (n.server.turn keys place now).2.said = keys.said :=
      funext fun transferId => Keys.said_of_handoff (congrFun handoff transferId)
    refine ⟨.of_handoff handoff, ?_⟩
    show Node.Guards (n.server.turn keys place now).2.said _
    rw [said]
    exact same rooms objects
  | fail => exact still (same rfl rfl)
  | freeze roomId =>
    have kept : (n.act keys (.freeze roomId)).2.1 = keys := by
      simp only [Node.act]
      split
      · split <;> rfl
      · rfl
    rw [kept]
    exact still (guards.freeze keys roomId)
  | settle roomId =>
    simp only [Node.act]
    split
    · rename_i offered idle found
      obtain ⟨listed, own⟩ := KeyedList.mem_of_get? found
      have own : offered.roomId = roomId := own
      exact still (guards.settle (own ▸ listed))
    · exact still guards
  | sourceTurn transferId target => exact sourceTurn_guards guards may target
  | sourceFail => exact still (sourceFail_guards guards)
  | adopt payload =>
    simp only [Node.act]
    split
    · exact still guards
    · split
      · have rooms (calls : List Adopting) : openRooms (calls.map fun call =>
            if call.payload = payload ∧ call.stage = .thrown then { call with stage := .intentGet }
            else call) = openRooms calls := by
          induction calls with
          | nil => rfl
          | cons call rest ih =>
            rw [List.map_cons, show call :: rest = [call] ++ rest from rfl, openRooms_append, ← ih,
              ← openRooms_append]
            by_cases again : call.payload = payload ∧ call.stage = .thrown
            · simp [openRooms, again]
            · simp [openRooms, again]
        refine still (guards.adoptions (fun call inside open_ => ?_) ?_)
        · obtain ⟨before, listed, rfl⟩ := List.mem_map.mp inside
          split
          · rename_i again
            refine guards.staged before listed ?_
            rw [again.2]
            simp
          · rename_i other
            rw [if_neg other] at open_
            exact guards.staged before listed open_
        · rw [rooms]
          exact guards.single
      · split
        · exact still guards
        · rename_i new
          rw [not_or] at new
          refine still (guards.adoptions (fun call inside open_ => ?_) ?_)
          · rcases List.mem_append.mp inside with before | last
            · exact guards.staged call before open_
            · rw [List.mem_singleton.mp last]
              exact Bool.eq_false_iff.mpr new.1
          · rw [openRooms_append, openRooms_single (by simp)]
            refine List.nodup_append.mpr ⟨guards.single, by simp, fun roomId listed other last => ?_⟩
            rw [List.mem_singleton.mp last]
            rintro rfl
            obtain ⟨call, inside, own⟩ := List.mem_map.mp listed
            obtain ⟨listed, open_⟩ := List.mem_filter.mp inside
            exact new.2 ⟨call, listed, own, of_decide_eq_true open_⟩
  | adoptTurn place now =>
    simp only [Node.act]
    split
    · rename_i call found
      have known := ok.adopting call (List.mem_of_getElem? found)
      have settles : Keys.Settles keys (n.server.adoptTurn keys call.payload now call.stage).2.1 :=
        adoptTurn_settles known
      have after : n.Guards (n.server.adoptTurn keys call.payload now call.stage).2.1.said :=
        guards.settles settles.stays fun _ _ over_ was => settles.settled over_ was
      refine ⟨settles, ?_⟩
      rcases adoptTurn_cases n.server keys call.payload now call.stage with
        ⟨adopts, turns⟩ | ⟨-, kept⟩
      · have open_ : call.stage ≠ .done := by
          intro done
          rw [done] at adopts
          exact adopts
        rw [turns] at after ⊢
        obtain ⟨rooms, objects⟩ := trackAdoptedRoom_rest n.server call.payload
        exact after.add rooms objects _ (after.staged call (List.mem_of_getElem? found) open_)
          (openRooms_done after.single found open_)
          (after.single.sublist (openRooms_set found fun _ => open_))
      · rw [kept]
        have goes : (n.server.adoptTurn keys call.payload now call.stage).2.2 ≠ .done →
            call.stage ≠ .done := by
          intro going done
          rw [done] at going
          exact going rfl
        refine after.adoptions (fun other inside open_ => ?_)
          (after.single.sublist (openRooms_set found goes))
        rcases List.mem_or_eq_of_mem_set inside with before | rfl
        · exact after.staged other before open_
        · exact after.staged call (List.mem_of_getElem? found) (goes open_)
    · exact still guards
  | adoptFail place =>
    simp only [Node.act]
    cases found : n.adopting[place]? with
    | none =>
      have same : n.adopting.modify place (fun call => { call with stage := call.stage.failed }) =
          n.adopting := List.modify_eq_self (List.getElem?_eq_none_iff.mp found)
      rw [same]
      exact still guards
    | some call =>
      have set : n.adopting.modify place (fun call => { call with stage := call.stage.failed }) =
          n.adopting.set place { call with stage := call.stage.failed } := by
        rw [List.modify_eq_set_getElem?, found]
        rfl
      rw [set]
      refine still (guards.adoptions (fun other inside open_ => ?_)
        (guards.single.sublist (openRooms_set found (mt failed_of_done))))
      rcases List.mem_or_eq_of_mem_set inside with before | rfl
      · exact guards.staged other before open_
      · exact guards.staged call (List.mem_of_getElem? found) (mt failed_of_done open_)

end
/-! ## What the adoptions know -/

section
variable {n : Node} {keys : Keys} {sent : List AdoptRoomPayload}

/-- A call has a command that was sent to its server, and knows what it has read. -/
structure CallOk (keys : Keys) (sent : List AdoptRoomPayload) (own : String) (call : Adopting) :
    Prop where
  sent : call.payload ∈ sent
  own : call.payload.serverId = own
  adopts : call.stage.Adopts → keys.said call.payload.transferId = some .committed
  discards : call.stage.Discards → keys.handOffState call.payload.transferId ≠ some .committed

theorem stage_knows {s : GameServer} {payload : AdoptRoomPayload} (now : Nat) {stage : Adoption}
    (ok : stage.Ok payload s.serverId) :
    ((s.adoptTurn keys payload now stage).2.2.Adopts →
      (s.adoptTurn keys payload now stage).2.1.said payload.transferId = some .committed) ∧
    ((s.adoptTurn keys payload now stage).2.2.Discards →
      (s.adoptTurn keys payload now stage).2.1.handOffState payload.transferId ≠ some .committed) := by
  cases stage with
  | intentGet => exact ⟨fun reads => Keys.said_of_state reads, False.elim⟩
  | againGet => exact ⟨fun reads => Keys.said_of_state reads, id⟩
  | commit replacements =>
    refine ⟨fun replied => ?_, False.elim⟩
    rcases commit_keys (k := keys) ok.2 with same | ⟨-, commits⟩
    · have replied : (compareAndSetMany keys replacements).1 = true := replied
      rw [same] at replied
      cases replied
    · exact commits.committed
  | intentGot state =>
    simp only [GameServer.adoptTurn]
    split
    · exact ⟨False.elim, False.elim⟩
    · split <;> exact ⟨False.elim, False.elim⟩
  | againGot state =>
    simp only [GameServer.adoptTurn]
    split <;> exact ⟨False.elim, False.elim⟩
  | replied committed => cases committed <;> exact ⟨False.elim, False.elim⟩
  | directoryGot previous =>
    simp only [GameServer.adoptTurn]
    split
    · split <;> exact ⟨False.elim, False.elim⟩
    · exact ⟨False.elim, False.elim⟩
  | claims left replacements => cases left <;> exact ⟨False.elim, False.elim⟩
  | claimGot userId claim left replacements =>
    simp only [GameServer.adoptTurn]
    split
    · split <;> exact ⟨False.elim, False.elim⟩
    · exact ⟨False.elim, False.elim⟩
  | directoryGet => exact ⟨False.elim, False.elim⟩
  | thrown => exact ⟨False.elim, False.elim⟩
  | done => exact ⟨False.elim, False.elim⟩

theorem failed_knows (stage : Adoption) : ¬ stage.failed.Adopts ∧ ¬ stage.failed.Discards := by
  cases stage <;> exact ⟨id, id⟩

/-- A call after an act: it was there, or it knows. -/
theorem act_calls (ok : n.Ok) (calls : ∀ call ∈ n.adopting,
      CallOk keys sent n.server.serverId call) {act : Act} (may : MayAct n keys sent act) :
    ∀ call ∈ (n.act keys act).1.adopting, call ∈ n.adopting ∨
      CallOk (n.act keys act).2.1 sent n.server.serverId call := by
  have before {n' : Node} (same : n'.adopting = n.adopting) {k : Keys} : ∀ call ∈ n'.adopting,
      call ∈ n.adopting ∨ CallOk k sent n.server.serverId call :=
    fun call inside => .inl (same ▸ inside)
  cases act with
  | sourceTurn transferId target => exact before (Node.sourceTurn_server n keys transferId target).2.2
  | sourceFail => exact before (Node.sourceFail_server n).2.2
  | publish now =>
    simp only [Node.act]
    split <;> exact before rfl
  | freeze roomId =>
    simp only [Node.act]
    split
    · split <;> exact before rfl
    · exact before rfl
  | settle roomId =>
    simp only [Node.act]
    split <;> exact before rfl
  | adopt payload =>
    simp only [Node.act]
    split
    · exact before rfl
    · rename_i own
      split
      · intro call inside
        obtain ⟨old, listed, rfl⟩ := List.mem_map.mp inside
        split
        · have known := calls old listed
          exact .inr ⟨known.sent, known.own, False.elim, False.elim⟩
        · exact .inl listed
      · split
        · exact before rfl
        · intro call inside
          rcases List.mem_append.mp inside with old | last
          · exact .inl old
          · rw [List.mem_singleton.mp last]
            exact .inr ⟨may, not_not.mp own, False.elim, False.elim⟩
  | adoptTurn place now =>
    simp only [Node.act]
    split
    · rename_i call found
      intro other inside
      have listed := List.mem_of_getElem? found
      rcases List.mem_or_eq_of_mem_set inside with old | rfl
      · exact .inl old
      · obtain ⟨adopts, discards⟩ := stage_knows now (ok.adopting call listed)
        exact .inr ⟨(calls call listed).sent, (calls call listed).own, adopts, discards⟩
    · exact before rfl
  | adoptFail place =>
    intro call inside
    obtain ⟨index, bound, found⟩ := List.mem_iff_getElem.mp inside
    simp only [Node.act] at bound found
    rw [List.length_modify] at bound
    rw [List.getElem_modify] at found
    have listed := List.getElem_mem bound
    split at found
    · rw [← found]
      obtain ⟨adopts, discards⟩ := failed_knows n.adopting[index].stage
      exact .inr ⟨(calls _ listed).sent, (calls _ listed).own, fun own => absurd own adopts,
        fun own => absurd own discards⟩
    · exact .inl (found ▸ listed)
  | addRoom | changeRoom | sweep | trackSeat | noteReleased | noteKicked | fail | turn =>
    exact before rfl

/-- Whoever adopts has a call that found its intent committed. -/
theorem act_adopted {act : Act} {transferId : String}
    (inside : transferId ∈ (n.act keys act).1.adopted) : transferId ∈ n.adopted ∨
      ∃ call ∈ n.adopting, call.stage.Adopts ∧ call.payload.transferId = transferId := by
  cases act with
  | adoptTurn place now =>
    simp only [Node.act] at inside
    split at inside
    · rename_i call found
      dsimp only at inside
      split at inside
      · rename_i adopts
        rcases List.mem_cons.mp inside with rfl | old
        · exact .inr ⟨call, List.mem_of_getElem? found, adopts, rfl⟩
        · exact .inl old
      · exact .inl inside
    · exact .inl inside
  | sourceTurn other target =>
    left
    simp only [Node.act, Node.sourceTurn] at inside
    split at inside
    · exact inside
    · split at inside <;> exact inside
    · exact inside
    · exact inside
    · exact inside
    · split at inside <;> exact inside
  | sourceFail =>
    left
    simp only [Node.act, Node.sourceFail] at inside
    split at inside <;> exact inside
  | publish now =>
    left
    simp only [Node.act] at inside
    split at inside <;> exact inside
  | freeze roomId =>
    left
    simp only [Node.act] at inside
    split at inside
    · split at inside <;> exact inside
    · exact inside
  | settle roomId =>
    left
    simp only [Node.act] at inside
    split at inside <;> exact inside
  | adopt payload =>
    left
    simp only [Node.act] at inside
    split at inside
    · exact inside
    · split at inside
      · exact inside
      · split at inside <;> exact inside
  | addRoom | changeRoom | sweep | trackSeat | noteReleased | noteKicked | fail | turn | adoptFail =>
    exact .inl inside

/-- Only the commit of an adoption makes an intent read as committed. -/
theorem act_calm (ok : n.Ok) {act : Act} {transferId : String}
    (reads : (n.act keys act).2.1.handOffState transferId = some .committed) :
    keys.handOffState transferId = some .committed ∨ ∃ call ∈ n.adopting,
      call.payload.transferId = transferId ∧ ∃ replacements, call.stage = .commit replacements := by
  have other {k : Keys} (now : k.now = keys.now)
      (same : k.handoff transferId = keys.handoff transferId)
      (reads : k.handOffState transferId = some .committed) :
      keys.handOffState transferId = some .committed := by
    rw [Keys.handOffState, now, same] at reads
    exact reads
  cases act with
  | turn place now =>
    obtain ⟨-, -, handoff, clock⟩ := n.server.turn_rest keys place now
    exact .inl (other clock (congrFun handoff transferId) reads)
  | sourceTurn fresh target =>
    left
    have put (own : String) (state : HandOffState) (differs : state ≠ .committed)
        (reads : (keys.setHandOff own (.put keys.now HAND_OFF_TTL_MS state)).handOffState transferId =
          some .committed) : keys.handOffState transferId = some .committed := by
      by_cases same : transferId = own
      · have said := Keys.said_of_state reads
        rw [same, Keys.said_put] at said
        exact absurd (Option.some.inj said) differs
      · exact other (k := keys.setHandOff own _) rfl (Keys.handoff_setHandOff same) reads
    simp only [Node.act, Node.sourceTurn] at reads
    split at reads
    · exact reads
    · unfold setPxIfAbsent at reads
      split at reads
      · exact reads
      · dsimp only at reads
        split at reads
        · exact put fresh .pending (by simp) reads
        · exact reads
    · exact reads
    · dsimp only at reads
      unfold compareAndSetPx at reads
      split at reads
      · exact put _ .cancelled (by simp) reads
      · refine other (k := keys.setHandOff _ _) rfl ?_ reads
        exact congrFun (Function.update_eq_self _ keys.handoff) transferId
    · exact reads
    · split at reads <;> exact reads
  | adoptTurn place now =>
    simp only [Node.act] at reads
    split at reads
    · rename_i call found
      have listed := List.mem_of_getElem? found
      by_cases commits : ∃ replacements, call.stage = .commit replacements
      · obtain ⟨replacements, stage⟩ := commits
        by_cases same : call.payload.transferId = transferId
        · exact .inr ⟨call, listed, same, replacements, stage⟩
        · left
          have known := ok.adopting call listed
          rw [stage] at known reads
          have reads : (compareAndSetMany keys replacements).2.handOffState transferId =
              some .committed := reads
          rcases commit_keys (k := keys) known.2 with kept | ⟨-, commits⟩
          · rwa [kept] at reads
          · exact other commits.now (commits.others transferId (Ne.symm same)) reads
      · left
        rwa [GameServer.adoptTurn_keys fun replacements same => commits ⟨replacements, same⟩] at reads
    · exact .inl reads
  | publish now =>
    left
    simp only [Node.act] at reads
    split at reads <;> exact reads
  | freeze roomId =>
    left
    simp only [Node.act] at reads
    split at reads
    · split at reads <;> exact reads
    · exact reads
  | settle roomId =>
    left
    simp only [Node.act] at reads
    split at reads <;> exact reads
  | adopt payload =>
    left
    simp only [Node.act] at reads
    split at reads
    · exact reads
    · split at reads
      · exact reads
      · split at reads <;> exact reads
  | addRoom | changeRoom | sweep | trackSeat | noteReleased | noteKicked | fail | sourceFail
  | adoptFail => exact .inl reads

end
end SwitchRemake.Registry

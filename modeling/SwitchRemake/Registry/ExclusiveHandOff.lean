import SwitchRemake.Registry.SafeRuns

/-!
# Hand-offs are exclusive

At any moment a room is usable at its source or adopted at its target, not both, and it is released
only to a committed adoption.
-/

namespace SwitchRemake.Registry
open Lib Redis

/-! ## What a step releases and discards -/

/-- A room that stands frozen has stayed open in the manager. -/
def KeptOpen (s : GameServer) (a : Managed) : Prop :=
  a ∈ s.rooms.entries ∧ ∃ room, s.objects[a.object]? = some room ∧ room.state ≠ .closed

section
variable {n : Node} {keys : Keys} {s s' : GameServer} {a : Managed}

theorem Spares.keeps (spares : Spares s s') (managed : a ∈ s.rooms.entries)
    (frozen : Frozen s a.object) : KeptOpen s' a := by
  obtain ⟨room, there, -, open_⟩ := spares.frozen a.object frozen
  exact ⟨spares.stays a managed frozen, room, there, open_⟩

theorem updateObject_keeps_state (object : Option Nat) {f : RoomObject → RoomObject}
    (state : ∀ room, (f room).state = room.state) (managed : a ∈ s.rooms.entries)
    (frozen : Frozen s a.object) : KeptOpen (s.updateObject object f) a := by
  obtain ⟨room, there, -, open_⟩ := frozen
  cases object with
  | none => exact ⟨managed, room, there, open_⟩
  | some object =>
    by_cases same : a.object = object
    · subst same
      refine ⟨managed, f room, ?_, by rwa [state]⟩
      rw [updateObject_same, there, Option.map_some]
    · exact ⟨managed, room, (updateObject_others object f same).trans there, open_⟩

/-- The source closes a room that it had frozen when it has read the intent as committed. -/
theorem sourceTurn_releases (guards : n.Guards keys.said) (transferId target : String)
    (managed : a ∈ n.server.rooms.entries) (frozen : Frozen n.server a.object) :
    KeptOpen (n.sourceTurn keys transferId target).1.server a ∨
      ∃ offer ∈ n.offers, offer.object = a.object ∧
        keys.said offer.transferId = some .committed := by
  have here : KeptOpen n.server a := by
    obtain ⟨room, there, -, open_⟩ := frozen
    exact ⟨managed, room, there, open_⟩
  have ok := guards.source
  cases at_source : n.source with
  | offering roomId object =>
    left
    simp only [Node.sourceTurn, at_source]
    split
    · exact here
    · exact updateObject_keeps_state (some object) (fun _ => rfl) managed frozen
  | got settling state =>
    rw [at_source] at ok
    obtain ⟨⟨listed, object, own, stands⟩, knows⟩ := ok
    simp only [Node.sourceTurn, at_source]
    split
    · by_cases same : a.object = object
      · right
        obtain ⟨other, stands', offered, -⟩ := guards.pending _ listed
        have here := KeyedList.eq_of_key stands'.managed stands.managed rfl
        have here : other = object := congrArg Managed.object here
        exact ⟨_, offered, here.trans same.symm, knows .committed rfl (by simp)⟩
      · left
        have touches := releaseRoom_touches (s := n.server) settling.roomId object
        obtain ⟨room, there, on, open_⟩ := frozen
        show KeptOpen (n.server.releaseRoom settling.roomId settling.object) a
        rw [own]
        exact ⟨touches.stays a managed same ⟨room, there, on, open_⟩, room,
          (touches.others _ same).trans there, open_⟩
    · exact .inl (updateObject_keeps_state settling.object (fun _ => rfl) managed frozen)
    · exact .inl here
  | idle | sending | cancel | get =>
    left
    simp only [Node.sourceTurn, at_source]
    exact here

theorem act_releases (guards : n.Guards keys.said) {sent : List AdoptRoomPayload} {act : Act}
    (may : MayAct n keys sent act) (managed : a ∈ n.server.rooms.entries)
    (frozen : Frozen n.server a.object) : KeptOpen (n.act keys act).1.server a ∨
      ∃ offer ∈ n.offers, offer.object = a.object ∧
        keys.said offer.transferId = some .committed := by
  have here : KeptOpen n.server a := by
    obtain ⟨room, there, -, open_⟩ := frozen
    exact ⟨managed, room, there, open_⟩
  have same {s : GameServer} (rooms : s.rooms = n.server.rooms)
      (objects : s.objects = n.server.objects) : KeptOpen s a :=
    (Spares.of_same rooms objects).keeps managed frozen
  cases act with
  | addRoom roomId room => exact .inl ((addRoom_spares n.server room may.1).keeps managed frozen)
  | changeRoom object room => exact .inl ((setObject_spares may).keeps managed frozen)
  | sweep => exact .inl (sweep_spares.keeps managed frozen)
  | publish now =>
    simp only [Node.act]
    split
    · exact .inl (same rfl rfl)
    · exact .inl here
  | turn place now =>
    obtain ⟨rooms, objects, -, -⟩ := n.server.turn_rest keys place now
    exact .inl (same rooms objects)
  | freeze roomId =>
    simp only [Node.act]
    split
    · split
      · exact .inl (updateObject_keeps_state (some _) (fun _ => rfl) managed frozen)
      · exact .inl here
    · exact .inl here
  | settle roomId =>
    simp only [Node.act]
    split <;> exact .inl here
  | sourceTurn transferId target => exact sourceTurn_releases guards transferId target managed frozen
  | sourceFail =>
    left
    show KeptOpen n.sourceFail.server a
    unfold Node.sourceFail
    split
    · exact updateObject_keeps_state (some _) (fun _ => rfl) managed frozen
    · exact here
    · exact here
  | adopt payload =>
    simp only [Node.act]
    split
    · exact .inl here
    · split
      · exact .inl here
      · split <;> exact .inl here
  | adoptTurn place now =>
    simp only [Node.act]
    split
    · rename_i call found
      left
      rcases adoptTurn_cases n.server keys call.payload now call.stage with
        ⟨adopts, turns⟩ | ⟨-, kept⟩
      · have open_ : call.stage ≠ .done := by
          intro done
          rw [done] at adopts
          exact adopts
        have absent := guards.staged call (List.mem_of_getElem? found) open_
        obtain ⟨rooms, objects⟩ := trackAdoptedRoom_rest n.server call.payload
        rw [turns]
        obtain ⟨stays, room, there, open_⟩ := same rooms objects
        have tracked : Spares (n.server.trackAdoptedRoom call.payload)
            ((n.server.trackAdoptedRoom call.payload).addRoom call.payload.roomId
              (GameServer.adoptedRoom call.payload)) := addRoom_spares _ _ (by rw [rooms, absent])
        have frozen' : Frozen (n.server.trackAdoptedRoom call.payload) a.object := by
          rw [Frozen, objects]
          exact frozen
        exact tracked.keeps stays frozen'
      · show KeptOpen (n.server.adoptTurn keys call.payload now call.stage).1 a
        rw [kept]
        exact here
    · exact .inl here
  | trackSeat | noteReleased | noteKicked | fail | adoptFail => exact .inl (same rfl rfl)

/-- An adoption ends where the room is put into the manager or where the intent was found open. -/
theorem done_of_adoptTurn {payload : AdoptRoomPayload} {now : Nat} {stage : Adoption}
    (done : (s.adoptTurn keys payload now stage).2.2 = .done) :
    stage.Adopts ∨ stage.Discards ∨ stage = .done := by
  cases stage with
  | intentGot state =>
    by_cases committed : state = some .committed
    · exact .inl committed
    · simp only [GameServer.adoptTurn, if_neg committed] at done
      split at done <;> cases done
  | againGot state =>
    by_cases committed : state = some .committed
    · exact .inl committed
    · exact .inr (.inl committed)
  | replied committed =>
    cases committed with
    | true => exact .inl rfl
    | false => cases done
  | directoryGot previous =>
    simp only [GameServer.adoptTurn] at done
    split at done
    · split at done <;> cases done
    · cases done
  | claims left replacements => cases left <;> cases done
  | claimGot userId claim left replacements =>
    simp only [GameServer.adoptTurn] at done
    split at done
    · split at done <;> cases done
    · cases done
  | done => exact .inr (.inr rfl)
  | intentGet => cases done
  | directoryGet => cases done
  | commit replacements => cases done
  | againGet => cases done
  | thrown => cases done

theorem failed_done {stage : Adoption} (done : stage.failed = .done) : stage = .done := by
  cases stage with
  | done => rfl
  | _ => cases done

/-- The staged room of a call is there, or it stands in the manager. -/
def Survives (n : Node) (index : Nat) (payload : AdoptRoomPayload) : Prop :=
  ∃ call, n.adopting[index]? = some call ∧ call.payload = payload ∧ (call.stage ≠ .done ∨
    payload.transferId ∈ n.adopted ∧ n.server.rooms.has payload.roomId = true)

theorem act_survives {index : Nat} {call : Adopting} (found : n.adopting[index]? = some call)
    (open_ : call.stage ≠ .done) (keeps : ¬ call.stage.Discards) (act : Act) :
    Survives (n.act keys act).1 index call.payload := by
  have same {n' : Node} (adopting : n'.adopting = n.adopting) : Survives n' index call.payload :=
    ⟨call, adopting ▸ found, rfl, .inl open_⟩
  cases act with
  | publish now =>
    simp only [Node.act]
    split <;> exact same rfl
  | freeze roomId =>
    simp only [Node.act]
    split
    · split <;> exact same rfl
    · exact same rfl
  | settle roomId =>
    simp only [Node.act]
    split <;> exact same rfl
  | sourceTurn transferId target => exact same (Node.sourceTurn_server n keys transferId target).2.2
  | sourceFail => exact same (Node.sourceFail_server n).2.2
  | adopt payload =>
    simp only [Node.act]
    split
    · exact same rfl
    · split
      · by_cases again : call.payload = payload ∧ call.stage = .thrown
        · refine ⟨{ call with stage := .intentGet }, ?_, rfl, .inl (by simp)⟩
          rw [List.getElem?_map, found, Option.map_some, if_pos again]
        · refine ⟨call, ?_, rfl, .inl open_⟩
          rw [List.getElem?_map, found, Option.map_some, if_neg again]
      · split
        · exact same rfl
        · refine ⟨call, ?_, rfl, .inl open_⟩
          rw [List.getElem?_append_left (List.getElem?_eq_some_iff.mp found).1]
          exact found
  | adoptTurn place now =>
    simp only [Node.act]
    split
    · rename_i other there
      by_cases here : place = index
      · subst here
        rw [found, Option.some.injEq] at there
        subst there
        have set : (n.adopting.set place { call with
            stage := (n.server.adoptTurn keys call.payload now call.stage).2.2 })[place]? = some { call with
              stage := (n.server.adoptTurn keys call.payload now call.stage).2.2 } :=
          List.getElem?_set_self (List.getElem?_eq_some_iff.mp found).1
        refine ⟨_, set, rfl, ?_⟩
        by_cases adopts : call.stage.Adopts
        · right
          rcases adoptTurn_cases n.server keys call.payload now call.stage with
            ⟨-, turns⟩ | ⟨never, -⟩
          · refine ⟨?_, ?_⟩
            · rw [if_pos adopts]
              exact List.mem_cons_self
            · rw [turns]
              exact KeyedList.has_iff.mpr ⟨_, KeyedList.mem_set.mpr (.inl rfl), rfl⟩
          · exact absurd adopts never
        · left
          intro done
          rcases done_of_adoptTurn done with adopting | discards | over_
          · exact adopts adopting
          · exact keeps discards
          · exact open_ over_
      · refine ⟨call, ?_, rfl, .inl open_⟩
        rw [List.getElem?_set_ne here]
        exact found
    · exact same rfl
  | adoptFail place =>
    have there : (n.adopting.modify place fun call => { call with stage := call.stage.failed })[index]? =
        some (if place = index then { call with stage := call.stage.failed } else call) := by
      rw [List.getElem?_modify, found]
      split <;> rfl
    refine ⟨_, there, ?_⟩
    split
    · exact ⟨rfl, .inl fun done => open_ (failed_done done)⟩
    · exact ⟨rfl, .inl open_⟩
  | addRoom | changeRoom | sweep | trackSeat | noteReleased | noteKicked | fail | turn => exact same rfl

end
/-! ## A hand-off is exclusive -/

namespace Cluster
variable {c : Cluster} {keys : Keys} {serverIds : List String}

/-- A room is frozen under every offer that is not cancelled, and only a committed offer is adopted. A
room that stands frozen is released only with a committed offer; what is cancelled is never adopted;
and a room that is staged for a committed intent is not discarded. -/
structure Exclusive (c : Cluster) : Prop where
  frozen : ∀ source ∈ c.nodes, ∀ offer ∈ source.offers,
    c.keys.said offer.transferId ≠ some .cancelled →
      ∃ room, source.server.objects[offer.object]? = some room ∧ room.handingOff = true
  adopted : ∀ target ∈ c.nodes, ∀ transferId ∈ target.adopted,
    c.keys.said transferId = some .committed
  released : ∀ op, c.May op → ∀ (place : Nat) (n n' : Node), c.nodes[place]? = some n →
    (c.run op).nodes[place]? = some n' → ∀ a ∈ n.server.rooms.entries, Frozen n.server a.object →
      KeptOpen n'.server a ∨ ∃ offer ∈ n.offers, offer.object = a.object ∧
        c.keys.said offer.transferId = some .committed
  cancelled : ∀ transferId, c.keys.said transferId = some .cancelled → ∀ later, Reach May run c later →
    later.keys.said transferId = some .cancelled ∧ ∀ n ∈ later.nodes, transferId ∉ n.adopted
  staged : ∀ op, c.May op → ∀ (place index : Nat) (n : Node) (call : Adopting),
    c.nodes[place]? = some n → n.adopting[index]? = some call → call.stage ≠ .done →
      c.keys.handOffState call.payload.transferId = some .committed →
        ∃ n', (c.run op).nodes[place]? = some n' ∧ Survives n' index call.payload

/-- What one step does at one place. -/
theorem run_node {op : HandOffOp} (may : c.May op) {place : Nat} {n : Node}
    (found : c.nodes[place]? = some n) :
    (c.run op).nodes[place]? = some n ∨
      (∃ act, MayAct n c.keys c.sent act ∧
        (c.run op).nodes[place]? = some (n.act c.keys act).1) := by
  have bound := (List.getElem?_eq_some_iff.mp found).1
  have elsewhere {at_ : Nat} {m : Node} (differs : at_ ≠ place) :
      (c.nodes.set at_ m)[place]? = some n := by rw [List.getElem?_set_ne differs, found]
  cases op with
  | op op =>
    cases op with
    | tick ms => exact .inl found
    | matching userId claim => exact .inl found
    | act at_ act =>
      simp only [run, apply]
      split
      · rename_i m there
        by_cases here : at_ = place
        · subst here
          rw [found, Option.some.injEq] at there
          subst there
          exact .inr ⟨act, mayAct may found, List.getElem?_set_self bound⟩
        · exact .inl (elsewhere here)
      · exact .inl found
  | offerLost at_ transferId =>
    simp only [run]
    split
    · rename_i m there
      split
      · by_cases here : at_ = place
        · subst here
          rw [found, Option.some.injEq] at there
          subst there
          exact .inr ⟨.sourceFail, trivial, List.getElem?_set_self bound⟩
        · exact .inl (elsewhere here)
      · exact .inl found
    · exact .inl found

theorem Safe.settles (safe : c.Safe) {op : HandOffOp} (may : c.May op) :
    Keys.Settles c.keys (c.run op).keys := by
  cases op with
  | op op =>
    cases op with
    | tick ms => exact .of_handoff rfl
    | matching userId claim => exact .of_handoff rfl
    | act place act =>
      simp only [Cluster.run, apply]
      split
      · rename_i n found
        have listed := List.mem_of_getElem? found
        exact (act_guards (safe.guards n listed) (safe.ok n listed) (mayAct may found)).1
      · exact .of_handoff rfl
  | offerLost place transferId =>
    simp only [Cluster.run]
    split
    · split
      · exact Keys.offer_settles may
      · exact .of_handoff rfl
    · exact .of_handoff rfl

theorem Safe.exclusive (safe : c.Safe) : c.Exclusive where
  frozen source inside offer listed open_ := ((safe.guards source inside).offers offer listed).2 open_
  adopted := safe.adopted
  released op may place n n' found next a managed frozen := by
    have guards := safe.guards n (List.mem_of_getElem? found)
    rcases run_node may found with same | ⟨act, mayAct, acted⟩
    · rw [next, Option.some.injEq] at same
      subst same
      obtain ⟨room, there, -, open_⟩ := frozen
      exact .inl ⟨managed, room, there, open_⟩
    · rw [next, Option.some.injEq] at acted
      subst acted
      exact act_releases guards mayAct managed frozen
  cancelled transferId was later reach := by
    have after : later.Safe ∧ later.keys.said transferId = some .cancelled :=
      Reach.invariant (I := fun d => d.Safe ∧ d.keys.said transferId = some .cancelled) ⟨safe, was⟩
        (fun _ _ known may => ⟨known.1.run may, (known.1.settles may).settled (by simp) known.2⟩) reach
    refine ⟨after.2, fun n inside taken => ?_⟩
    have committed := after.1.adopted n inside transferId taken
    rw [after.2] at committed
    cases committed
  staged op may place index n call found there open_ reads := by
    have known := safe.calls n (List.mem_of_getElem? found) call (List.mem_of_getElem? there)
    rcases run_node may found with same | ⟨act, -, acted⟩
    · exact ⟨n, same, call, there, rfl, .inl open_⟩
    · exact ⟨_, acted, act_survives there open_ (fun discards => known.discards discards reads) act⟩

/-- In every run of any number of servers, with commands that fail before or after they take effect,
that are delivered late, again or never, a hand-off is exclusive. -/
theorem handOff_exclusive (distinct : serverIds.Nodup)
    (reach : Reach May run (start keys serverIds) c) : c.Exclusive :=
  (safe_of_reach distinct reach).exclusive

/-- A first offer is stored and taken back, the second is adopted by a command that fails after it
took effect, and the source has not settled it yet. -/
def handOffAgain : List HandOffOp :=
  (handOff.take 3).map .op ++ [.op (.act 0 (.freeze "r")), .offerLost 0 "u"] ++
  (handOff.drop 3 ++ ([.act 1 (.adoptTurn 0 0), .act 1 (.adoptFail 0), .act 1 (.adoptTurn 0 0),
    .act 1 (.adoptTurn 0 0)] : List ClusterOp)).map .op

theorem handOff_exclusive_again : (handOffAgain.foldl run twoServers).Exclusive ∧
    ∃ n ∈ (handOffAgain.foldl run twoServers).nodes, "t" ∈ n.adopted :=
  ⟨@handOff_exclusive _ emptyKeys ["a", "b"] (by decide) (Reach.of_list (by decide +kernel)),
    by decide +kernel⟩

end Cluster
end SwitchRemake.Registry

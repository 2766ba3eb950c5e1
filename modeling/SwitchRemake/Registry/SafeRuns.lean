import SwitchRemake.Registry.Adoptions

/-!
# Safe runs

A transfer is one command to one server, so that nobody settles an intent behind the back of the call
that has read it.
-/

namespace SwitchRemake.Registry
open Lib Redis

/-! ## Runs -/

/-- The source is about to send the command of this transfer. -/
def Node.Sends (n : Node) (transferId : String) : Prop :=
  ∃ roomId object, n.source = .sending roomId transferId object

section
variable {n : Node} {keys : Keys}

theorem not_sends_of_source {n' : Node} {source : Source} (same : n'.source = source)
    (quiet : ∀ roomId transferId object, source ≠ .sending roomId transferId object)
    (transferId : String) : ¬ n'.Sends transferId := by
  rintro ⟨roomId, object, sending⟩
  exact quiet roomId transferId object (same.symm.trans sending)

theorem sends_of_source {n' : Node} (same : n'.source = n.source) {transferId : String}
    (sends : n'.Sends transferId) : n.Sends transferId := by
  obtain ⟨roomId, object, sending⟩ := sends
  exact ⟨roomId, object, same.symm.trans sending⟩

/-- What a server sends and what it is about to send. -/
structure Sending (n : Node) (k : Keys) (after : Node × Keys × List AdoptRoomPayload) : Prop where
  next : ∀ transferId, after.1.Sends transferId → n.Sends transferId ∧ after.2.2 = [] ∨
    k.handoff transferId = none ∧ after.2.1.said transferId ≠ none ∧ after.2.2 = []
  sent : after.2.2 = [] ∨ ∃ payload, after.2.2 = [payload] ∧ n.Sends payload.transferId

namespace Sending

theorem of_source {after : Node × Keys × List AdoptRoomPayload} (same : after.1.source = n.source)
    (silent : after.2.2 = []) : Sending n keys after :=
  ⟨fun _ sends => .inl ⟨sends_of_source same sends, silent⟩, .inl silent⟩

theorem of_quiet {after : Node × Keys × List AdoptRoomPayload} {source : Source}
    (same : after.1.source = source)
    (quiet : ∀ roomId transferId object, source ≠ .sending roomId transferId object)
    (silent : after.2.2 = []) : Sending n keys after :=
  ⟨fun transferId sends => absurd sends (not_sends_of_source same quiet transferId), .inl silent⟩

end Sending

theorem sourceTurn_sending (n : Node) {keys : Keys} {transferId : String}
    (fresh : keys.handoff transferId = none) (target : String) :
    Sending n keys (n.sourceTurn keys transferId target) := by
  cases at_source : n.source with
  | idle =>
    simp only [Node.sourceTurn, at_source]
    exact .of_source rfl rfl
  | offering roomId object =>
    have absent : (keys.handoff transferId).get keys.now = none := by
      rw [fresh]
      rfl
    simp only [Node.sourceTurn, at_source, setPxIfAbsent, absent, if_true]
    refine ⟨fun other sends => .inr ?_, .inl rfl⟩
    obtain ⟨_, _, sending⟩ := sends
    have own : transferId = other := by
      injection sending
    subst own
    refine ⟨fresh, ?_, rfl⟩
    show (keys.setHandOff transferId _).said transferId ≠ none
    rw [Keys.said_put]
    simp
  | sending roomId own object =>
    simp only [Node.sourceTurn, at_source]
    refine ⟨fun other sends => absurd sends (not_sends_of_source rfl (by simp [Node.settle]) other), ?_⟩
    cases n.server.objects[object]? with
    | none => exact .inl rfl
    | some room => exact .inr ⟨_, rfl, roomId, object, at_source⟩
  | cancel settling =>
    simp only [Node.sourceTurn, at_source]
    exact .of_quiet rfl (by simp) rfl
  | get settling =>
    simp only [Node.sourceTurn, at_source]
    exact .of_quiet rfl (by simp) rfl
  | got settling state =>
    simp only [Node.sourceTurn, at_source]
    have quiet (roomId transferId : String) (object : Nat) :
        Source.idle ≠ .sending roomId transferId object := by simp
    split <;> exact .of_quiet rfl quiet rfl

theorem act_sending {sent : List AdoptRoomPayload} {act : Act} (may : MayAct n keys sent act) :
    Sending n keys (n.act keys act) := by
  cases act with
  | sourceTurn transferId target => exact sourceTurn_sending n may target
  | sourceFail =>
    refine @Sending.of_quiet _ _ _ n.sourceFail.source rfl ?_ rfl
    unfold Node.sourceFail
    split <;> simp [Node.settle]
  | publish now =>
    simp only [Node.act]
    split <;> exact .of_source rfl rfl
  | freeze roomId =>
    simp only [Node.act]
    split
    · split
      · exact .of_quiet rfl (by simp) rfl
      · exact .of_source rfl rfl
    · exact .of_source rfl rfl
  | settle roomId =>
    simp only [Node.act]
    split
    · exact .of_quiet rfl (by simp [Node.settle]) rfl
    · exact .of_source rfl rfl
  | adopt payload =>
    simp only [Node.act]
    split
    · exact .of_source rfl rfl
    · split
      · exact .of_source rfl rfl
      · split <;> exact .of_source rfl rfl
  | adoptTurn place now =>
    simp only [Node.act]
    split <;> exact .of_source rfl rfl
  | addRoom | changeRoom | sweep | trackSeat | noteReleased | noteKicked | fail | turn | adoptFail =>
    exact .of_source rfl rfl

end

/-- A step of the servers, or an offer that was stored though its command failed: the source takes
the freeze back and has sent nothing. -/
inductive HandOffOp where
  | op (op : ClusterOp)
  | offerLost (place : Nat) (transferId : String)

namespace Cluster

def run (c : Cluster) : HandOffOp → Cluster
  | .op op => c.apply op
  | .offerLost place transferId =>
    match c.nodes[place]? with
    | some n =>
      match n.source with
      | .offering _ _ =>
        { c with
          keys := c.keys.setHandOff transferId (.put c.keys.now HAND_OFF_TTL_MS .pending)
          nodes := c.nodes.set place n.sourceFail }
      | _ => c
    | none => c

def May (c : Cluster) : HandOffOp → Prop
  | .op op => c.Allowed op
  | .offerLost _ transferId => c.keys.handoff transferId = none

instance (c : Cluster) : ∀ op, Decidable (c.May op)
  | .op op => inferInstanceAs (Decidable (c.Allowed op))
  | .offerLost _ _ => inferInstanceAs (Decidable (_ = _))

/-- A transfer is one command to one server, an adoption is a committed intent, and the servers guard
what they have offered. -/
structure Safe (c : Cluster) : Prop where
  ok : c.Ok
  guards : ∀ n ∈ c.nodes, n.Guards c.keys.said
  adopted : ∀ n ∈ c.nodes, ∀ transferId ∈ n.adopted, c.keys.said transferId = some .committed
  calls : ∀ n ∈ c.nodes, ∀ call ∈ n.adopting, CallOk c.keys c.sent n.server.serverId call
  stored : ∀ payload ∈ c.sent, c.keys.said payload.transferId ≠ none
  once : ∀ payload ∈ c.sent, ∀ other ∈ c.sent, payload.transferId = other.transferId → payload = other
  sends : ∀ n ∈ c.nodes, ∀ transferId, n.Sends transferId →
    c.keys.said transferId ≠ none ∧ ∀ payload ∈ c.sent, payload.transferId ≠ transferId
  alone : ∀ (i j : Nat) (n m : Node), c.nodes[i]? = some n → c.nodes[j]? = some m →
    ∀ transferId, n.Sends transferId → m.Sends transferId → i = j
  servers : ∀ (i j : Nat) (n m : Node), c.nodes[i]? = some n → c.nodes[j]? = some m →
    n.server.serverId = m.server.serverId → i = j

end Cluster
/-! ## Every run is safe -/

namespace Cluster
variable {c : Cluster} {n : Node} {place : Nat}

/-- Two calls that are not done and have one transfer are one call. -/
theorem Safe.same_call (safe : c.Safe) {m : Node} (first : n ∈ c.nodes) (second : m ∈ c.nodes)
    {call other : Adopting} (here : call ∈ n.adopting) (there : other ∈ m.adopting)
    (open_ : call.stage ≠ .done) (open_' : other.stage ≠ .done)
    (same : call.payload.transferId = other.payload.transferId) : n = m ∧ call = other := by
  have known := safe.calls n first call here
  have known' := safe.calls m second other there
  have payload := safe.once _ known.sent _ known'.sent same
  obtain ⟨i, found⟩ := List.getElem?_of_mem first
  obtain ⟨j, found'⟩ := List.getElem?_of_mem second
  have server : n.server.serverId = m.server.serverId := by
    rw [← known.own, ← known'.own, payload]
  have place := safe.servers i j n m found found' server
  rw [place, found', Option.some.injEq] at found
  refine ⟨found.symm, ?_⟩
  rw [found] at there
  have rooms := (safe.guards n first).single
  have listed {call : Adopting} (inside : call ∈ n.adopting) (open_ : call.stage ≠ .done) :
      call ∈ n.adopting.filter fun call => call.stage ≠ .done :=
    List.mem_filter.mpr ⟨inside, decide_eq_true open_⟩
  exact List.inj_on_of_nodup_map rooms (listed here open_) (listed there open_')
    (congrArg AdoptRoomPayload.roomId payload)

/-- A call that has read its intent as open is not overtaken by a commit of the intent. -/
theorem Safe.uncommitted (safe : c.Safe) (found : c.nodes[place]? = some n) {act : Act} {m : Node}
    (inside : m ∈ c.nodes) {call : Adopting} (there : call ∈ m.adopting)
    (discards : call.stage.Discards) :
    (n.act c.keys act).2.1.handOffState call.payload.transferId ≠ some .committed := by
  intro reads
  have listed := List.mem_of_getElem? found
  rcases act_calm (safe.ok n listed) reads with before | ⟨other, here, same, replacements, commits⟩
  · exact (safe.calls m inside call there).discards discards before
  · have open_ : call.stage ≠ .done := by
      intro done
      rw [done] at discards
      exact discards
    have open_' : other.stage ≠ .done := by
      rw [commits]
      simp
    obtain ⟨-, rfl⟩ := safe.same_call inside listed there here open_ open_' same.symm
    rw [commits] at discards
    exact discards

theorem CallOk.later {keys keys' : Keys} {sent sent' : List AdoptRoomPayload} {own : String}
    {call : Adopting} (known : CallOk keys sent own call) (settles : Keys.Settles keys keys')
    (more : ∀ payload ∈ sent, payload ∈ sent')
    (discards : call.stage.Discards → keys'.handOffState call.payload.transferId ≠ some .committed) :
    CallOk keys' sent' own call where
  sent := more _ known.sent
  own := known.own
  adopts adopts := settles.settled (by simp) (known.adopts adopts)
  discards := discards

/-- One server has acted, and the others are as they were. -/
theorem Safe.next (safe : c.Safe) (found : c.nodes[place]? = some n) {keys : Keys} {n' : Node}
    {out : List AdoptRoomPayload} (settles : Keys.Settles c.keys keys) (ok : n'.Ok)
    (guards : n'.Guards keys.said) (serverId : n'.server.serverId = n.server.serverId)
    (adopted : ∀ transferId ∈ n'.adopted, transferId ∈ n.adopted ∨
      c.keys.said transferId = some .committed)
    (calls : ∀ call ∈ n'.adopting, call ∈ n.adopting ∨ CallOk keys c.sent n.server.serverId call)
    (calm : ∀ m ∈ c.nodes, ∀ call ∈ m.adopting, call.stage.Discards →
      keys.handOffState call.payload.transferId ≠ some .committed)
    (sending : Sending n c.keys (n', keys, out)) :
    Safe { keys, nodes := c.nodes.set place n', sent := c.sent ++ out } := by
  have listed := List.mem_of_getElem? found
  have more (payload : AdoptRoomPayload) (inside : payload ∈ c.sent) : payload ∈ c.sent ++ out :=
    List.mem_append_left out inside
  have fresh {transferId : String} (absent : c.keys.handoff transferId = none) :
      c.keys.said transferId = none := by
    rw [Keys.said, absent]
    rfl
  have at_place {j : Nat} {m : Node} (there : (c.nodes.set place n')[j]? = some m) :
      j = place ∧ m = n' ∨ j ≠ place ∧ c.nodes[j]? = some m := by
    rw [List.getElem?_set] at there
    split at there
    · rename_i same
      split at there
      · exact .inl ⟨same.symm, (Option.some.inj there).symm⟩
      · cases there
    · rename_i differs
      exact .inr ⟨Ne.symm differs, there⟩
  -- what the acting server is about to send is new or was so before
  have apart {transferId : String} (sends : n'.Sends transferId) {j : Nat} {m : Node}
      (elsewhere : j ≠ place) (there : c.nodes[j]? = some m) : ¬ m.Sends transferId := by
    intro others
    rcases sending.next transferId sends with ⟨before, -⟩ | ⟨absent, -, -⟩
    · exact elsewhere (safe.alone j place m n there found transferId others before)
    · exact (safe.sends m (List.mem_of_getElem? there) transferId others).1 (fresh absent)
  refine ⟨?_, ?_, ?_, ?_, ?_, ?_, ?_, ?_, ?_⟩
  · intro m inside
    rcases List.mem_or_eq_of_mem_set inside with before | rfl
    · exact safe.ok m before
    · exact ok
  · intro m inside
    rcases List.mem_or_eq_of_mem_set inside with before | rfl
    · exact (safe.guards m before).settles settles.stays fun _ _ over_ was => settles.settled over_ was
    · exact guards
  · intro m inside transferId taken
    rcases List.mem_or_eq_of_mem_set inside with before | rfl
    · exact settles.settled (by simp) (safe.adopted m before transferId taken)
    · rcases adopted transferId taken with before | committed
      · exact settles.settled (by simp) (safe.adopted n listed transferId before)
      · exact settles.settled (by simp) committed
  · intro m inside call there
    rcases List.mem_or_eq_of_mem_set inside with before | rfl
    · exact CallOk.later (safe.calls m before call there) settles more (calm m before call there)
    · rw [serverId]
      rcases calls call there with before | known
      · exact CallOk.later (safe.calls n listed call before) settles more (calm n listed call before)
      · exact ⟨more _ known.sent, known.own, known.adopts, known.discards⟩
  · intro payload inside
    rcases List.mem_append.mp inside with before | new
    · exact settles.stays _ (safe.stored payload before)
    · rcases sending.sent with none_ | ⟨own, single, sends⟩
      · have none_ : out = [] := none_
        rw [none_] at new
        cases new
      · have single : out = [own] := single
        rw [single] at new
        rw [List.mem_singleton.mp new]
        exact settles.stays _ (safe.sends n listed _ sends).1
  · rcases sending.sent with none_ | ⟨own, single, sends⟩
    · have none_ : out = [] := none_
      rw [none_, List.append_nil]
      exact safe.once
    · have single : out = [own] := single
      have new := (safe.sends n listed _ sends).2
      rw [single]
      intro payload first other second same
      rcases List.mem_append.mp first with before | last <;>
        rcases List.mem_append.mp second with before' | last'
      · exact safe.once payload before other before' same
      · rw [List.mem_singleton.mp last'] at same
        exact absurd same (new payload before)
      · rw [List.mem_singleton.mp last] at same
        exact absurd same.symm (new other before')
      · rw [List.mem_singleton.mp last, List.mem_singleton.mp last']
  · intro m inside transferId sends
    obtain ⟨j, there⟩ := List.getElem?_of_mem inside
    rcases at_place there with ⟨rfl, rfl⟩ | ⟨elsewhere, before⟩
    · rcases sending.next transferId sends with ⟨earlier, none_⟩ | ⟨absent, stored, none_⟩
      · have none_ : out = [] := none_
        obtain ⟨stored, unsent⟩ := safe.sends n listed transferId earlier
        rw [none_, List.append_nil]
        exact ⟨settles.stays _ stored, unsent⟩
      · have none_ : out = [] := none_
        rw [none_, List.append_nil]
        refine ⟨stored, fun payload there same => safe.stored payload there ?_⟩
        rw [same]
        exact fresh absent
    · obtain ⟨stored, unsent⟩ := safe.sends m (List.mem_of_getElem? before) transferId sends
      refine ⟨settles.stays _ stored, fun payload there => ?_⟩
      rcases List.mem_append.mp there with earlier | new
      · exact unsent payload earlier
      · rcases sending.sent with none_ | ⟨own, single, acted⟩
        · have none_ : out = [] := none_
          rw [none_] at new
          cases new
        · have single : out = [own] := single
          rw [single] at new
          rw [List.mem_singleton.mp new]
          rintro rfl
          exact elsewhere (safe.alone j place m n before found _ sends acted)
  · intro i j m k first second transferId sends others
    rcases at_place first with ⟨rfl, rfl⟩ | ⟨elsewhere, before⟩ <;>
      rcases at_place second with ⟨rfl, rfl⟩ | ⟨elsewhere', before'⟩
    · rfl
    · exact absurd others (apart sends elsewhere' before')
    · exact absurd sends (apart others elsewhere before)
    · exact safe.alone i j m k before before' transferId sends others
  · intro i j m k first second same
    rcases at_place first with ⟨rfl, rfl⟩ | ⟨-, before⟩ <;>
      rcases at_place second with ⟨rfl, rfl⟩ | ⟨-, before'⟩
    · rfl
    · exact safe.servers i j n k found before' (serverId.symm.trans same)
    · exact safe.servers i j m n before found (same.trans serverId)
    · exact safe.servers i j m k before before' same

theorem Safe.act (safe : c.Safe) (found : c.nodes[place]? = some n) {act : Act}
    (may : MayAct n c.keys c.sent act) : (c.apply (.act place act)).Safe := by
  have listed := List.mem_of_getElem? found
  obtain ⟨settles, guards⟩ := act_guards (safe.guards n listed) (safe.ok n listed) may
  simp only [apply, found]
  refine safe.next found settles (Node.act_ok (safe.ok n listed) act) guards (Node.act_serverId act)
    (fun transferId inside => ?_) (act_calls (safe.ok n listed) (safe.calls n listed) may)
    (fun m inside call there discards => safe.uncommitted found inside there discards)
    (act_sending may)
  rcases act_adopted inside with before | ⟨call, there, adopts, rfl⟩
  · exact .inl before
  · exact .inr ((safe.calls n listed call there).adopts adopts)

/-- The keys change, but not the intents. -/
theorem Safe.keys (safe : c.Safe) {keys : Keys} (handoff : keys.handoff = c.keys.handoff)
    (calm : ∀ transferId, keys.handOffState transferId = some .committed →
      c.keys.handOffState transferId = some .committed) : Safe { c with keys } := by
  have said : keys.said = c.keys.said :=
    funext fun transferId => Keys.said_of_handoff (congrFun handoff transferId)
  refine ⟨safe.ok, ?_, ?_, fun n inside call there => ?_, ?_, safe.once, ?_, safe.alone, safe.servers⟩
  · rw [said]
    exact safe.guards
  · rw [said]
    exact safe.adopted
  · have known := safe.calls n inside call there
    refine ⟨known.sent, known.own, ?_, fun discards reads => known.discards discards (calm _ reads)⟩
    rw [said]
    exact known.adopts
  · rw [said]
    exact safe.stored
  · rw [said]
    exact safe.sends

theorem Safe.lost (safe : c.Safe) {transferId : String} (fresh : c.keys.handoff transferId = none) :
    (c.run (.offerLost place transferId)).Safe := by
  simp only [run]
  split
  · rename_i n found
    split
    · rename_i roomId object at_source
      have listed := List.mem_of_getElem? found
      have settles := Keys.offer_settles fresh
      have offering := (safe.guards n listed).source
      rw [at_source] at offering
      obtain ⟨serverId, ok, adopting⟩ := n.sourceFail_server
      have adopted : n.sourceFail.adopted = n.adopted := by
        rw [Node.sourceFail, at_source]
        rfl
      have idle : n.sourceFail.source = .idle := by
        rw [Node.sourceFail, at_source]
      have next := @safe.next _ _ _ found _ n.sourceFail [] settles
        (Node.ok_of_source (safe.ok n listed) serverId ok adopting)
        (sourceFail_guards ((safe.guards n listed).settles settles.stays
          fun _ _ over_ was => settles.settled over_ was)) serverId
        (fun other inside => .inl (adopted ▸ inside)) (fun call inside => .inl (adopting ▸ inside))
        (fun m inside call there discards reads => ?_)
        (.of_quiet idle (by simp) rfl)
      · rwa [List.append_nil] at next
      · by_cases same : call.payload.transferId = transferId
        · have said := Keys.said_of_state reads
          rw [same, Keys.said_put] at said
          cases said
        · have known := safe.calls m inside call there
          refine known.discards discards ?_
          rw [Keys.handOffState, Keys.handoff_setHandOff same] at reads
          exact reads
    · exact safe
  · exact safe

theorem Safe.run (safe : c.Safe) {op : HandOffOp} (may : c.May op) : (c.run op).Safe := by
  cases op with
  | op op =>
    cases op with
    | tick ms =>
      exact @safe.keys _ { c.keys with now := c.keys.now + ms } rfl fun transferId reads =>
        Cell.get_of_later (Nat.le_add_right _ _) reads
    | matching userId claim => exact @safe.keys _ (c.keys.setClaim userId claim) rfl fun _ => id
    | act place act =>
      cases found : c.nodes[place]? with
      | none =>
        show (c.apply (.act place act)).Safe
        simp only [apply, found]
        exact safe
      | some n => exact safe.act found (mayAct may found)
  | offerLost place transferId => exact safe.lost may

theorem newServer_guards (said : String → Option HandOffState) (serverId : String) :
    (newServer serverId).Guards said := by
  have none_ (a : Managed) : a ∉ (newServer serverId).server.rooms.entries := List.not_mem_nil
  have none_' (p : Offered) : p ∉ (newServer serverId).pending.entries := List.not_mem_nil
  refine ⟨⟨fun a inside => absurd inside (none_ a), fun a inside => absurd inside (none_ a)⟩,
    fun offer inside => ?_, fun p inside => absurd inside (none_' p), trivial, fun call inside => ?_,
    List.nodup_nil⟩
  · cases inside
  · cases inside

theorem newServer_sends {serverId transferId : String} : ¬ (newServer serverId).Sends transferId := by
  rintro ⟨roomId, object, sending⟩
  cases sending

theorem start_safe (keys : Keys) {serverIds : List String} (distinct : serverIds.Nodup) :
    (start keys serverIds).Safe := by
  have each {n : Node} (inside : n ∈ (start keys serverIds).nodes) :
      ∃ serverId, newServer serverId = n := by
    obtain ⟨serverId, -, same⟩ := List.mem_map.mp inside
    exact ⟨serverId, same⟩
  have unsent (payload : AdoptRoomPayload) : payload ∉ (start keys serverIds).sent :=
    List.not_mem_nil
  refine ⟨start_ok, fun n inside => ?_, fun n inside transferId taken => ?_,
    fun n inside call there => ?_, fun payload sent => absurd sent (unsent payload),
    fun payload sent => absurd sent (unsent payload), fun n inside transferId sends => ?_,
    fun i j n m first second transferId sends => ?_, fun i j n m first second same => ?_⟩
  · obtain ⟨serverId, rfl⟩ := each inside
    exact newServer_guards _ serverId
  · obtain ⟨serverId, rfl⟩ := each inside
    cases taken
  · obtain ⟨serverId, rfl⟩ := each inside
    cases there
  · obtain ⟨serverId, rfl⟩ := each inside
    exact absurd sends newServer_sends
  · obtain ⟨serverId, rfl⟩ := each (List.mem_of_getElem? first)
    exact absurd sends newServer_sends
  · have named {place : Nat} {n : Node} (found : (start keys serverIds).nodes[place]? = some n) :
        serverIds[place]? = some n.server.serverId := by
      have found : (serverIds.map newServer)[place]? = some n := found
      rw [List.getElem?_map] at found
      obtain ⟨serverId, there, rfl⟩ := Option.map_eq_some_iff.mp found
      exact there
    have here := named first
    have there := named second
    rw [← same] at there
    exact (List.getElem?_inj (List.getElem?_eq_some_iff.mp here).1 distinct).mp (here.trans there.symm)

theorem safe_of_reach {keys : Keys} {serverIds : List String} (distinct : serverIds.Nodup)
    (reach : Reach May run (start keys serverIds) c) : c.Safe :=
  reach.invariant (start_safe keys distinct) fun _ _ safe may => safe.run may

end Cluster
end SwitchRemake.Registry

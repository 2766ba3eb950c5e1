import SwitchRemake.Registry.Fencing

/-!
# Who owns a room

The commit of an adoption takes a room and its members from the source while the intent is pending.
A server that has released a room publishes it again only in a loop that had captured it before.
-/

namespace SwitchRemake.Registry
open Lib Redis

/-- A room and its members' claims have gone over from the source, with the intent. -/
structure Moved (payload : AdoptRoomPayload) (k k' : Keys) : Prop where
  now : k'.now = k.now
  intent : k.handOffState payload.transferId = some .pending
  settled : k'.handOffState payload.transferId = some .committed
  rooms : ∀ roomId, k'.room roomId = k.room roomId ∨ (roomId = payload.roomId ∧
    ∃ value, k.entry roomId = some value ∧ value.serverId = payload.sourceServerId)
  claims : ∀ userId, k'.userActiveRoom userId = k.userActiveRoom userId ∨
    ∃ requestId, k.claim userId =
      some (.assigned requestId payload.roomId payload.sourceServerId)

namespace Moved
variable {payload : AdoptRoomPayload} {k k' : Keys} {may : String → Prop}

theorem creates (moved : Moved payload k k') : CreatesOnly may k k' := by
  intro roomId absent there
  rcases moved.rooms roomId with same | ⟨-, value, present, -⟩
  · rw [Keys.entry, moved.now, same] at there
    exact absurd absent there
  · rw [absent] at present
    cases present

end Moved

/-! ## The atomic command -/

section
variable {k : Keys}

@[simp] theorem put_now (item : Replacement) : (item.put k).now = k.now := by
  cases item <;> rfl

@[simp] theorem puts_now (items : List Replacement) : (items.foldl Replacement.put k).now = k.now := by
  induction items generalizing k with
  | nil => rfl
  | cons item rest ih => simp [ih]

theorem puts_room (items : List Replacement) (roomId : String) :
    (items.foldl Replacement.put k).room roomId = k.room roomId ∨
      ∃ expected value ttlMs, .room roomId expected value ttlMs ∈ items := by
  induction items generalizing k with
  | nil => exact .inl rfl
  | cons item rest ih =>
    rcases ih (k := item.put k) with same | ⟨expected, value, ttlMs, mem⟩
    · cases item with
      | room other expected value ttlMs =>
        by_cases differs : roomId = other
        · subst differs
          exact .inr ⟨expected, value, ttlMs, List.mem_cons_self⟩
        · left
          rw [List.foldl_cons, same]
          simp [Replacement.put, Keys.setRoom, differs]
      | handoff | userActiveRoom => exact .inl same
    · exact .inr ⟨expected, value, ttlMs, List.mem_cons_of_mem _ mem⟩

theorem puts_claim (items : List Replacement) (userId : ActorId) :
    (items.foldl Replacement.put k).userActiveRoom userId = k.userActiveRoom userId ∨
      ∃ expected value ttlMs, .userActiveRoom userId expected value ttlMs ∈ items := by
  induction items generalizing k with
  | nil => exact .inl rfl
  | cons item rest ih =>
    rcases ih (k := item.put k) with same | ⟨expected, value, ttlMs, mem⟩
    · cases item with
      | userActiveRoom other expected value ttlMs =>
        by_cases differs : userId = other
        · subst differs
          exact .inr ⟨expected, value, ttlMs, List.mem_cons_self⟩
        · left
          rw [List.foldl_cons, same]
          simp [Replacement.put, Keys.setClaim, differs]
      | handoff | room => exact .inl same
    · exact .inr ⟨expected, value, ttlMs, List.mem_cons_of_mem _ mem⟩

theorem puts_handoff (items : List Replacement) (transferId : String) :
    (items.foldl Replacement.put k).handoff transferId = k.handoff transferId ∨
      ∃ expected value ttlMs, .handoff transferId expected value ttlMs ∈ items := by
  induction items generalizing k with
  | nil => exact .inl rfl
  | cons item rest ih =>
    rcases ih (k := item.put k) with same | ⟨expected, value, ttlMs, mem⟩
    · cases item with
      | handoff other expected value ttlMs =>
        by_cases differs : transferId = other
        · subst differs
          exact .inr ⟨expected, value, ttlMs, List.mem_cons_self⟩
        · left
          rw [List.foldl_cons, same]
          simp [Replacement.put, Keys.setHandOff, differs]
      | room | userActiveRoom => exact .inl same
    · exact .inr ⟨expected, value, ttlMs, List.mem_cons_of_mem _ mem⟩

theorem compareAndSetMany_cases (k : Keys) (items : List Replacement) :
    (compareAndSetMany k items).2 = k ∨
      ((∀ item ∈ items, item.Holds k) ∧
        (compareAndSetMany k items).2 = items.foldl Replacement.put k) := by
  unfold compareAndSetMany
  split
  · exact .inl rfl
  · split
    · rename_i holds
      exact .inr ⟨holds, rfl⟩
    · exact .inl rfl

/-- What an adoption replaces named its source. -/
theorem commit_moves {payload : AdoptRoomPayload} {own : String} {items : List Replacement}
    (sourced : Sourced payload own items) :
    (compareAndSetMany k items).2 = k ∨ Moved payload k (compareAndSetMany k items).2 := by
  obtain ⟨value, new, claims, rfl, source, members⟩ := sourced
  rcases compareAndSetMany_cases k _ with same | ⟨holds, replaced⟩
  · exact .inl same
  have intent : k.handOffState payload.transferId = some .pending := holds _ List.mem_cons_self
  have entry : k.entry payload.roomId = some value :=
    holds _ (List.mem_cons_of_mem _ List.mem_cons_self)
  right
  rw [replaced]
  refine ⟨puts_now _, intent, ?_, ?_, ?_⟩
  · -- nothing after the first part touches the intent
    rcases puts_handoff (k := (Replacement.handoff payload.transferId .pending .committed
        HAND_OFF_TTL_MS).put k) (.room payload.roomId value new HEARTBEAT_TTL_MS :: claims)
        payload.transferId with kept | ⟨expected, later, ttlMs, mem⟩
    · rw [Keys.handOffState, puts_now, List.foldl_cons, kept]
      simp [Replacement.put, Keys.setHandOff]
    · cases mem with
      | tail _ mem =>
        obtain ⟨userId, requestId, other⟩ := members _ mem
        cases other
  · intro roomId
    rcases puts_room (k := k) (.handoff payload.transferId .pending .committed HAND_OFF_TTL_MS ::
        .room payload.roomId value new HEARTBEAT_TTL_MS :: claims) roomId
      with kept | ⟨expected, later, ttlMs, mem⟩
    · exact .inl kept
    · rcases List.mem_cons.mp mem with other | mem
      · cases other
      · rcases List.mem_cons.mp mem with same | mem
        · cases same
          exact .inr ⟨rfl, value, entry, source⟩
        · obtain ⟨userId, requestId, other⟩ := members _ mem
          cases other
  · intro userId
    rcases puts_claim (k := k) (.handoff payload.transferId .pending .committed HAND_OFF_TTL_MS ::
        .room payload.roomId value new HEARTBEAT_TTL_MS :: claims) userId
      with kept | ⟨expected, later, ttlMs, mem⟩
    · exact .inl kept
    · have held := holds _ mem
      rcases List.mem_cons.mp mem with other | mem
      · cases other
      · rcases List.mem_cons.mp mem with other | mem
        · cases other
        · obtain ⟨member, requestId, same⟩ := members _ mem
          cases same
          exact .inr ⟨requestId, held⟩

end

/-! ## Adoptions and settlings -/

namespace GameServer
variable {s : GameServer} {keys : Keys} {payload : AdoptRoomPayload} {now : Nat} {stage : Adoption}

theorem adopted_ok (ok : s.Ok) :
    ((s.trackAdoptedRoom payload).addRoom payload.roomId (adoptedRoom payload)).Ok :=
  addRoom_ok ((trackAdoptedRoom_keeps payload).ok ok) _ _

theorem adoptTurn_serverId : (s.adoptTurn keys payload now stage).1.serverId = s.serverId := by
  have adopted : ((s.trackAdoptedRoom payload).addRoom payload.roomId
      (adoptedRoom payload)).serverId = s.serverId := (trackAdoptedRoom_keeps payload).serverId
  cases stage with
  | intentGot state | againGot state =>
    simp only [adoptTurn]
    split
    · exact adopted
    · first | rfl | (split <;> rfl)
  | replied committed =>
    cases committed with
    | true => exact adopted
    | false => rfl
  | directoryGot previous =>
    simp only [adoptTurn]
    split
    · split <;> rfl
    · rfl
  | claims left replacements => cases left <;> rfl
  | claimGot userId claim left replacements =>
    simp only [adoptTurn]
    split
    · split <;> rfl
    · rfl
  | intentGet | directoryGet | commit | againGet | thrown | done => rfl

theorem adoptTurn_ok (ok : s.Ok) : (s.adoptTurn keys payload now stage).1.Ok := by
  cases stage with
  | intentGot state | againGot state =>
    simp only [adoptTurn]
    split
    · exact adopted_ok ok
    · first | exact ok | (split <;> exact ok)
  | replied committed =>
    cases committed with
    | true => exact adopted_ok ok
    | false => exact ok
  | directoryGot previous =>
    simp only [adoptTurn]
    split
    · split <;> exact ok
    · exact ok
  | claims left replacements => cases left <;> exact ok
  | claimGot userId claim left replacements =>
    simp only [adoptTurn]
    split
    · split <;> exact ok
    · exact ok
  | intentGet | directoryGet | commit | againGet | thrown | done => exact ok

theorem adoptTurn_keys (waits : ∀ replacements, stage ≠ .commit replacements) :
    (s.adoptTurn keys payload now stage).2.1 = keys := by
  cases stage with
  | commit replacements => exact absurd rfl (waits replacements)
  | intentGot state | againGot state =>
    simp only [adoptTurn]
    split
    · rfl
    · first | rfl | (split <;> rfl)
  | replied committed => cases committed <;> rfl
  | directoryGot previous =>
    simp only [adoptTurn]
    split
    · split <;> rfl
    · rfl
  | claims left replacements => cases left <;> rfl
  | claimGot userId claim left replacements =>
    simp only [adoptTurn]
    split
    · split <;> rfl
    · rfl
  | intentGet | directoryGet | againGet | thrown | done => rfl

theorem adoptTurn_stage (ok : stage.Ok payload s.serverId) :
    (s.adoptTurn keys payload now stage).2.2.Ok payload s.serverId := by
  cases stage with
  | intentGot state =>
    simp only [adoptTurn]
    split
    · trivial
    · split
      · trivial
      · assumption
  | againGot state =>
    simp only [adoptTurn]
    split <;> trivial
  | replied committed => cases committed <;> trivial
  | directoryGet => exact ok
  | directoryGot previous =>
    simp only [adoptTurn]
    split
    · split
      · trivial
      · rename_i same
        exact ⟨ok, _, _, [], rfl, not_not.mp same, by simp⟩
    · trivial
  | claims left replacements =>
    cases left with
    | nil => exact ok
    | cons userId rest => exact ok
  | claimGot userId claim left replacements =>
    obtain ⟨foreign, value, new, claims, parts, source, members⟩ := ok
    simp only [adoptTurn]
    split
    · split
      · rename_i requestId roomId serverId same
        refine ⟨foreign, value, new, claims ++ [.userActiveRoom userId
          (.assigned requestId roomId serverId) (s.adoptedClaim payload) ACTIVE_ROOM_TTL_MS],
          ?_, source, ?_⟩
        · rw [parts]
          rfl
        · intro item mem
          rcases List.mem_append.mp mem with earlier | last
          · exact members item earlier
          · cases List.mem_singleton.mp last
            exact ⟨userId, requestId, by rw [same.1, same.2]; rfl⟩
      · trivial
    · trivial
  | intentGet | commit | againGet | thrown | done => trivial

end GameServer

namespace Node
variable {n : Node} {keys : Keys}

theorem thaw_ok (n : Node) (object : Option Nat) (ok : n.server.Ok) : (n.thaw object).server.Ok :=
  (GameServer.updateObject_keeps object _).ok ok

theorem sourceTurn_server (n : Node) (keys : Keys) (transferId target : String) :
    (n.sourceTurn keys transferId target).1.server.serverId = n.server.serverId ∧
      (n.server.Ok → (n.sourceTurn keys transferId target).1.server.Ok) ∧
      (n.sourceTurn keys transferId target).1.adopting = n.adopting := by
  cases at_source : n.source with
  | offering roomId object =>
    simp only [sourceTurn, at_source]
    split
    · exact ⟨rfl, id, rfl⟩
    · exact ⟨rfl, n.thaw_ok (some object), rfl⟩
  | got settling state =>
    simp only [sourceTurn, at_source]
    split
    · exact ⟨GameServer.releaseRoom_serverId _ _, fun ok => GameServer.releaseRoom_ok ok _ _, rfl⟩
    · exact ⟨rfl, n.thaw_ok settling.object, rfl⟩
    · exact ⟨rfl, id, rfl⟩
  | idle | sending | cancel | get => simp [sourceTurn, at_source, settle]

theorem sourceTurn_keys (n : Node) (keys : Keys) (transferId target : String) :
    (n.sourceTurn keys transferId target).2.1 = keys ∨
      ∃ other cell, (n.sourceTurn keys transferId target).2.1 = keys.setHandOff other cell := by
  cases at_source : n.source with
  | offering roomId object =>
    simp only [sourceTurn, at_source]
    split
    · exact .inr ⟨_, _, rfl⟩
    · exact .inl rfl
  | cancel settling =>
    simp only [sourceTurn, at_source]
    exact .inr ⟨_, _, rfl⟩
  | got settling state =>
    left
    simp only [sourceTurn, at_source]
    split <;> rfl
  | idle | sending | get =>
    left
    simp [sourceTurn, at_source]

theorem sourceFail_server (n : Node) :
    n.sourceFail.server.serverId = n.server.serverId ∧
      (n.server.Ok → n.sourceFail.server.Ok) ∧ n.sourceFail.adopting = n.adopting := by
  unfold sourceFail
  split
  · rename_i object _
    exact ⟨rfl, n.thaw_ok (some object), rfl⟩
  · exact ⟨rfl, id, rfl⟩
  · exact ⟨rfl, id, rfl⟩

/-- The adoption whose atomic command is sent in this step. -/
def committing (n : Node) : Act → Option AdoptRoomPayload
  | .adoptTurn place _ =>
    match n.adopting[place]? with
    | some ⟨payload, .commit _⟩ => some payload
    | _ => none
  | _ => none

theorem ok_of_server (ok : n.Ok) {s : GameServer} (server : s.Ok)
    (serverId : s.serverId = n.server.serverId) : Ok { n with server := s } where
  server := server
  adopting call mem := by
    rw [show ({ n with server := s } : Node).server.serverId = n.server.serverId from serverId]
    exact ok.adopting call mem

theorem ok_of_keeps (ok : n.Ok) {s : GameServer} (keeps : GameServer.Keeps n.server s) :
    Ok { n with server := s } :=
  ok_of_server ok (keeps.ok ok.server) keeps.serverId

theorem act_serverId (act : Act) : (n.act keys act).1.server.serverId = n.server.serverId := by
  cases act with
  | publish now =>
    simp only [Node.act]
    split <;> rfl
  | turn place now => exact GameServer.turn_serverId
  | freeze roomId =>
    simp only [Node.act]
    split
    · split <;> rfl
    · rfl
  | settle roomId =>
    simp only [Node.act]
    split <;> rfl
  | sourceTurn transferId target => exact (sourceTurn_server n keys _ _).1
  | sourceFail => exact (sourceFail_server n).1
  | adopt payload =>
    simp only [Node.act]
    split
    · rfl
    · split
      · rfl
      · split <;> rfl
  | adoptTurn place now =>
    simp only [Node.act]
    split
    · exact GameServer.adoptTurn_serverId
    · rfl
  | addRoom | changeRoom | sweep | trackSeat | noteReleased | noteKicked | fail | adoptFail => rfl

/-! ## Steps -/

theorem failed_ok {stage : Adoption} {payload : AdoptRoomPayload} {own : String} :
    stage.failed.Ok payload own := by
  cases stage <;> trivial

theorem ok_of_adopting (ok : n.Ok) {adopting : List Adopting}
    (keeps : ∀ call ∈ adopting, call ∈ n.adopting ∨ call.stage.Ok call.payload n.server.serverId) :
    Ok { n with adopting } where
  server := ok.server
  adopting call mem := (keeps call mem).elim (ok.adopting call) id

theorem ok_of_source (ok : n.Ok) {n' : Node} (serverId : n'.server.serverId = n.server.serverId)
    (server : n.server.Ok → n'.server.Ok) (adopting : n'.adopting = n.adopting) : n'.Ok where
  server := server ok.server
  adopting call mem := by
    rw [serverId]
    exact ok.adopting call (adopting ▸ mem)

theorem act_ok (ok : n.Ok) (act : Act) : (n.act keys act).1.Ok := by
  cases act with
  | addRoom roomId room => exact ok_of_server ok (GameServer.addRoom_ok ok.server _ _) rfl
  | changeRoom object room => exact ok_of_keeps ok (GameServer.setObject_keeps _ _)
  | sweep => exact ok_of_keeps ok GameServer.sweep_keeps
  | trackSeat roomId userId requestId => exact ok_of_keeps ok (GameServer.trackSeat_keeps _ _ _)
  | noteReleased roomId userId cooldown now =>
    exact ok_of_keeps ok (GameServer.noteReleased_keeps _ _ _ _)
  | noteKicked roomId userId => exact ok_of_keeps ok (GameServer.noteKicked_keeps _ _)
  | publish now =>
    simp only [Node.act]
    split
    · exact ok_of_server ok ⟨trivial, ok.server.gone, by simp [Loop.captured]⟩ rfl
    · exact ok
  | turn place now =>
    exact ok_of_server ok (GameServer.turn_ok ok.server) GameServer.turn_serverId
  | fail => exact ok_of_server ok ⟨trivial, ok.server.gone, by simp [Loop.captured]⟩ rfl
  | freeze roomId =>
    simp only [Node.act]
    split
    · split
      · rename_i object _ _ _ _ _
        have kept := GameServer.updateObject_keeps (s := n.server) (some object) fun room =>
          { room with handingOff := true }
        exact ⟨kept.ok ok.server, ok.adopting⟩
      · exact ok
    · exact ok
  | settle roomId =>
    simp only [Node.act]
    split
    · exact ok_of_source ok rfl id rfl
    · exact ok
  | sourceTurn transferId target =>
    obtain ⟨serverId, server, adopting⟩ := sourceTurn_server n keys transferId target
    exact ok_of_source ok serverId server adopting
  | sourceFail =>
    obtain ⟨serverId, server, adopting⟩ := sourceFail_server n
    exact ok_of_source ok serverId server adopting
  | adopt payload =>
    simp only [Node.act]
    split
    · exact ok
    · split
      · refine ok_of_adopting ok fun call mem => ?_
        obtain ⟨before, listed, rfl⟩ := List.mem_map.mp mem
        split
        · exact .inr trivial
        · exact .inl listed
      · split
        · exact ok
        · refine ok_of_adopting ok fun call mem => ?_
          rcases List.mem_append.mp mem with earlier | last
          · exact .inl earlier
          · cases List.mem_singleton.mp last
            exact .inr trivial
  | adoptTurn place now =>
    simp only [Node.act]
    split
    · rename_i call found
      refine ⟨GameServer.adoptTurn_ok ok.server, ?_⟩
      intro other mem
      rw [show _ = n.server.serverId from GameServer.adoptTurn_serverId]
      rcases List.mem_or_eq_of_mem_set mem with earlier | rfl
      · exact ok.adopting other earlier
      · exact GameServer.adoptTurn_stage (ok.adopting call (List.mem_of_getElem? found))
    · exact ok
  | adoptFail place =>
    refine ok_of_adopting ok fun call mem => ?_
    obtain ⟨index, bound, found⟩ := List.mem_iff_getElem.mp mem
    rw [List.getElem_modify] at found
    rw [List.length_modify] at bound
    subst found
    split
    · exact .inr failed_ok
    · exact .inl (List.getElem_mem bound)

/-- What a server's step does to the directory and the claims. -/
structure Fences (n : Node) (act : Act) (k k' : Keys) : Prop where
  fenced : n.committing act = none → Fenced n.server.serverId k k'
  moved : ∀ payload ∈ n.committing act,
    payload.sourceServerId ≠ n.server.serverId ∧ (k' = k ∨ Moved payload k k')
  created : CreatesOnly (fun roomId => roomId ∈ n.server.released → roomId ∈ n.server.overtaken) k k'

theorem fences_of_quiet {act : Act} {k' : Keys} (quiet : n.committing act = none)
    (fenced : Fenced n.server.serverId keys k')
    (created : CreatesOnly (fun roomId => roomId ∈ n.server.released → roomId ∈ n.server.overtaken)
      keys k') : n.Fences act keys k' :=
  ⟨fun _ => fenced, fun payload mem => absurd mem (by simp [quiet]), created⟩

theorem fences_refl {act : Act} (quiet : n.committing act = none) : n.Fences act keys keys :=
  fences_of_quiet quiet Keys.fenced_refl Keys.creates_refl

theorem fences_setHandOff {act : Act} {transferId : String} {cell : Cell HandOffState}
    (quiet : n.committing act = none) : n.Fences act keys (keys.setHandOff transferId cell) :=
  fences_of_quiet quiet Keys.fenced_setHandOff Keys.creates_setHandOff

theorem adoptTurn_fences (ok : n.Ok) (place now : Nat) :
    n.Fences (.adoptTurn place now) keys (n.act keys (.adoptTurn place now)).2.1 := by
  cases found : n.adopting[place]? with
  | none =>
    simp only [Node.act, found]
    exact fences_refl (by simp [committing, found])
  | some call =>
    obtain ⟨payload, stage⟩ := call
    have known := ok.adopting _ (List.mem_of_getElem? found)
    simp only [Node.act, found]
    by_cases commits : ∃ replacements, stage = .commit replacements
    · obtain ⟨replacements, rfl⟩ := commits
      have at_commit : n.committing (.adoptTurn place now) = some payload := by
        simp [committing, found]
      have moves := commit_moves (k := keys) known.2
      refine ⟨by simp [at_commit], ?_, ?_⟩
      · intro other mem
        cases at_commit.symm.trans mem
        exact ⟨known.1, moves⟩
      · rcases moves with same | moved
        · simp only [GameServer.adoptTurn, same]
          exact Keys.creates_refl
        · exact moved.creates
    · have waits : ∀ replacements, stage ≠ .commit replacements :=
        fun replacements same => commits ⟨replacements, same⟩
      rw [GameServer.adoptTurn_keys waits]
      refine fences_refl ?_
      cases stage with
      | commit replacements => exact absurd rfl (waits replacements)
      | _ => simp [committing, found]

theorem act_fences (ok : n.Ok) (act : Act) : n.Fences act keys (n.act keys act).2.1 := by
  cases act with
  | turn place now =>
    obtain ⟨fenced, created⟩ := n.server.turn_keys keys place now ok.server
    exact fences_of_quiet rfl fenced created
  | adoptTurn place now => exact adoptTurn_fences ok place now
  | sourceTurn transferId target =>
    rcases sourceTurn_keys n keys transferId target with same | ⟨other, cell, set⟩
    · rw [show (n.act keys (.sourceTurn transferId target)).2.1 = keys from same]
      exact fences_refl rfl
    · rw [show (n.act keys (.sourceTurn transferId target)).2.1 = keys.setHandOff other cell
        from set]
      exact fences_setHandOff rfl
  | publish now =>
    simp only [Node.act]
    split <;> exact fences_refl rfl
  | freeze roomId =>
    simp only [Node.act]
    split
    · split <;> exact fences_refl rfl
    · exact fences_refl rfl
  | settle roomId =>
    simp only [Node.act]
    split <;> exact fences_refl rfl
  | adopt payload =>
    simp only [Node.act]
    split
    · exact fences_refl rfl
    · split
      · exact fences_refl rfl
      · split <;> exact fences_refl rfl
  | addRoom | changeRoom | sweep | trackSeat | noteReleased | noteKicked | fail | sourceFail
  | adoptFail => exact fences_refl rfl

end Node

/-! ## Runs -/

namespace Cluster
variable {c : Cluster} {keys : Keys} {serverIds : List String}

def Ok (c : Cluster) : Prop := ∀ n ∈ c.nodes, n.Ok

theorem newServer_ok (serverId : String) : (newServer serverId).Ok :=
  ⟨⟨trivial, by simp [newServer], by simp [newServer, Loop.captured]⟩, by simp [newServer]⟩

theorem start_ok : (start keys serverIds).Ok := by
  intro n mem
  obtain ⟨serverId, -, rfl⟩ := List.mem_map.mp mem
  exact newServer_ok serverId

theorem apply_ok (ok : c.Ok) (op : ClusterOp) : (c.apply op).Ok := by
  cases op with
  | tick ms => exact ok
  | matching userId claim => exact ok
  | act place act =>
    simp only [apply]
    split
    · rename_i n found
      intro other mem
      rcases List.mem_or_eq_of_mem_set mem with earlier | rfl
      · exact ok other earlier
      · exact Node.act_ok (ok n (List.mem_of_getElem? found)) act
    · exact ok

theorem ok_of_reach (run : Reach Allowed apply (start keys serverIds) c) : c.Ok :=
  run.invariant start_ok fun _ op ok _ => apply_ok ok op

/-- In every run a step of a server leaves what names another server alone, up to the commit of an
adoption, which moves it from the source of a pending hand-off; and a server creates an entry for a
room it has released only in a loop that had captured the room before. -/
theorem directory_fenced (run : Reach Allowed apply (start keys serverIds) c) {place : Nat}
    {n : Node} (found : c.nodes[place]? = some n) (act : Act) :
    n.Fences act c.keys (c.apply (.act place act)).keys := by
  have ok := ok_of_reach run n (List.mem_of_getElem? found)
  simp only [apply, found]
  exact Node.act_fences ok act

/-! ## A hand-off while the source publishes -/

def emptyKeys : Keys := ⟨0, fun _ => none, fun _ => none, fun _ => none⟩

def waitingRoom : RoomObject where
  roomCode := "AB"
  mode := .match
  state := .waiting
  locked := false
  handingOff := false
  members := [.account 1]
  held := []
  kickedUsers := []

def offeredRoom : AdoptRoomPayload :=
  ⟨"b", "r", "a", "t", { waitingRoom with handingOff := true }⟩

/-- The source has published the room and captured it again, and the adopter is about to commit. -/
def handOff : List ClusterOp :=
  [.act 0 (.addRoom "r" waitingRoom),
    .matching (.account 1) (.put 0 60_000 (.assigned "q" "r" "a")),
    .act 0 (.publish 0)] ++ List.replicate 9 (.act 0 (.turn 0 0)) ++
  [.act 0 (.publish 0)] ++ List.replicate 3 (.act 0 (.turn 0 0)) ++
  [.act 0 (.freeze "r"), .act 0 (.sourceTurn "t" "b"), .act 0 (.sourceTurn "" "b"),
    .act 1 (.adopt offeredRoom)] ++ List.replicate 7 (.act 1 (.adoptTurn 0 0))

/-- The room has been adopted, the source has released it, the adopter's entry has expired, and the
source's loop comes to the room it had captured. -/
def handedOff : List ClusterOp :=
  handOff ++ List.replicate 2 (.act 1 (.adoptTurn 0 0)) ++
  List.replicate 3 (.act 0 (.sourceTurn "" "")) ++
  [.tick 6_001] ++ List.replicate 3 (.act 0 (.turn 0 0))

def twoServers : Cluster := start emptyKeys ["a", "b"]

theorem handOff_reach : Reach Allowed apply twoServers (handOff.foldl apply twoServers) :=
  Reach.of_list (by decide +kernel)

theorem handedOff_reach : Reach Allowed apply twoServers (handedOff.foldl apply twoServers) :=
  Reach.of_list (by decide +kernel)

theorem directory_fenced_commit :
    ∃ n, (handOff.foldl apply twoServers).nodes[1]? = some n ∧
      n.Fences (.adoptTurn 0 0) (handOff.foldl apply twoServers).keys
        ((handOff.foldl apply twoServers).apply (.act 1 (.adoptTurn 0 0))).keys := by
  obtain ⟨n, found⟩ : ∃ n, (handOff.foldl apply twoServers).nodes[1]? = some n :=
    Option.isSome_iff_exists.mp (by decide +kernel)
  exact ⟨n, found, directory_fenced handOff_reach found (.adoptTurn 0 0)⟩

/-- An adoption does replace an entry that names another server, and a loop that captured a room
before its release does create an entry for it. -/
theorem released_room_published :
    (¬ ∀ c, Reach Allowed apply twoServers c → ∀ place n act, c.nodes[place]? = some n →
      c.Allowed (.act place act) →
      Fenced n.server.serverId c.keys (c.apply (.act place act)).keys) ∧
    ¬ ∀ c, Reach Allowed apply twoServers c → ∀ place n act, c.nodes[place]? = some n →
      c.Allowed (.act place act) →
      CreatesOnly (· ∉ n.server.released) c.keys (c.apply (.act place act)).keys := by
  constructor
  · intro always
    obtain ⟨n, found⟩ : ∃ n, (handOff.foldl apply twoServers).nodes[1]? = some n :=
      Option.isSome_iff_exists.mp (by decide +kernel)
    have adopter : (handOff.foldl apply twoServers).nodes[1]?.map (·.server.serverId) = some "b" :=
      by decide +kernel
    rw [found, Option.map_some, Option.some_inj] at adopter
    have fenced := always _ handOff_reach 1 n (.adoptTurn 0 0) found trivial
    rw [adopter] at fenced
    have kept := fenced.rooms "r" ⟨waitingRoom.projection "r", "a", 0⟩ (by decide +kernel)
      (by decide)
    exact absurd kept (by decide +kernel)
  · intro always
    obtain ⟨n, found⟩ : ∃ n, (handedOff.foldl apply twoServers).nodes[0]? = some n :=
      Option.isSome_iff_exists.mp (by decide +kernel)
    have source : (handedOff.foldl apply twoServers).nodes[0]?.map (·.server.released) =
        some ["r"] := by decide +kernel
    rw [found, Option.map_some, Option.some_inj] at source
    have only := always _ handedOff_reach 0 n (.turn 0 0) found trivial "r" (by decide +kernel)
      (by decide +kernel)
    rw [source] at only
    exact only (by simp)

end Cluster
end SwitchRemake.Registry

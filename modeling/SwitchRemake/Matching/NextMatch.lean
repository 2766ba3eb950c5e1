import SwitchRemake.Lib.JsonRoundTrip
import SwitchRemake.Matching.JoinLaws
import SwitchRemake.Matching.Rematch

/-!
# No room is stranded

A result leaves the journal once its receipt is written, a receipt is written once the next match is
on its way or refused, and a grant that is carried out in time gives the room its id.
-/

namespace SwitchRemake.Matching
open Lib Game Rooms
open Protocol (Bytes)

variable {K : Type} [JsNumber K] [JsonNumber K] {sha256 : Bytes → Bytes} {site : Site}

/-- A match that is issued is another one than the finished. -/
theorem issueNextMatch_other {finished : MatchResultMessage} {owner matchId : String} {now : Int}
    {db after : Database}
    (issues : issueNextMatch sha256 finished owner now db = some (some matchId, after)) :
    nextMatchId sha256 finished.matchId ≠ finished.matchId := by
  intro same
  unfold issueNextMatch at issues
  split at issues
  · cases issues
  · rename_i source found
    split at issues
    · cases issues
    · rename_i recorded
      dsimp only at issues
      rw [same, found] at issues
      dsimp only at issues
      split at issues
      · cases issues
      · rename_i waits
        simp only [Bool.or_eq_true, not_or] at recorded
        simp only [Bool.or_eq_true, Bool.not_eq_true', not_or, Bool.not_eq_false] at waits
        exact recorded.1.1 waits.1

/-! ## The worker -/

section
variable (K) (site)

/-- An entry brings only results that are known. -/
def Brings (known : List MatchResultMessage) (raw : Option String) : Prop :=
  ∀ text, raw = some text → ∀ result, decodeMatchResult K text = .ok result → result ∈ known

/-- What a task has in hand. The matches in `played` have their next one on its way, or none. -/
def TaskOk (known : List MatchResultMessage) (played : List MatchId) : Task → Prop
  | .received raw => Brings K known raw
  | .decoded result | .recorded result => result ∈ known
  | .owned result owner => result ∈ known ∧ owner = site.serverId
  | .issued result owner matchId | .reassigned result owner matchId =>
    result ∈ known ∧ owner = site.serverId ∧ matchId ≠ result.matchId
  | .granted result => result.matchId ∈ played
  | .processed => True

/-- The command follows the finished match. -/
structure Succeeds (known : List MatchResultMessage) (finished : MatchId)
    (c : String × GrantMatchCommand) : Prop where
  known : ∃ result ∈ known, result.matchId = finished
  serverId : c.1 = site.serverId
  roomId : c.2.payload.roomId = site.roomId
  other : c.2.payload.matchId ≠ finished

end

section
variable {known known' : List MatchResultMessage} {played more : List MatchId} {m : MatchServer}

theorem Brings.grow {raw : Option String} (brings : Brings K known raw) (told : known ⊆ known') :
    Brings K known' raw :=
  fun text same result decodes => told (brings text same result decodes)

theorem TaskOk.grow {task : Task} (ok : TaskOk K site known played task) (told : known ⊆ known')
    (follow : played ⊆ more) : TaskOk K site known' more task := by
  cases task with
  | received raw => exact Brings.grow ok told
  | decoded result | recorded result => exact told ok
  | owned result owner => exact ⟨told ok.1, ok.2⟩
  | issued result owner matchId | reassigned result owner matchId => exact ⟨told ok.1, ok.2⟩
  | granted result => exact follow ok
  | processed => trivial

theorem Succeeds.grow {finished : MatchId} {c : String × GrantMatchCommand}
    (follows : Succeeds site known finished c) (told : known ⊆ known') :
    Succeeds site known' finished c where
  known := by
    obtain ⟨result, inside, same⟩ := follows.known
    exact ⟨result, told inside, same⟩
  serverId := follows.serverId
  roomId := follows.roomId
  other := follows.other

variable (K) (site) in
/-- What a step of the worker leaves behind. -/
structure Advances (known : List MatchResultMessage) (played refused : List MatchId)
    (m after : MatchServer) (next : Option Task) (finished : List MatchId) : Prop where
  sent : ∃ sent, List.Forall₂ (Succeeds site known) finished sent ∧
    after.commands = m.commands ++ sent
  receipts : ∀ matchId ∈ after.receipts, matchId ∈ m.receipts ∨ matchId ∈ played
  kept : m.receipts ⊆ after.receipts
  next : ∀ task, next = some task → TaskOk K site known (played ++ refused ++ finished) task

/-- A step that neither sends a command nor writes a receipt. -/
theorem Advances.quiet {refused : List MatchId} {after : MatchServer} {next : Option Task}
    (commands : after.commands = m.commands) (receipts : after.receipts = m.receipts)
    (ok : ∀ task, next = some task → TaskOk K site known (played ++ refused ++ []) task) :
    Advances K site known played refused m after next [] where
  sent := ⟨[], .nil, by rw [commands, List.append_nil]⟩
  receipts matchId inside := .inl (receipts ▸ inside)
  kept := by
    rw [receipts]
    exact fun _ => id
  next := ok

theorem processEntry_advances (rooms : ∀ result ∈ known, result.roomId = site.roomId)
    {index : Nat} {env : Surroundings} {entryId : String} {task : Task}
    (here : m.deliveries[index]? = some ⟨entryId, task⟩) (ok : TaskOk K site known played task)
    (directory : ∀ result, task = .recorded result →
      ownerServerId K result env.rawRoom = site.serverId) :
    ∃ finished, Advances K site known played (RematchRun.refusal sha256 m (.proceed index env)) m
      (processEntry K sha256 env entryId m task).1 (processEntry K sha256 env entryId m task).2
      finished := by
  cases task with
  | received raw =>
    cases raw with
    | none => exact ⟨[], .quiet rfl rfl fun task same => by cases same; trivial⟩
    | some raw =>
      cases decodes : decodeMatchResult K raw with
      | error reason =>
        have step : processEntry K sha256 env entryId m (.received (some raw)) =
            (m, some .processed) := by simp only [processEntry, decodes]
        rw [step]
        exact ⟨[], .quiet rfl rfl fun task same => by cases same; trivial⟩
      | ok result =>
        have step : processEntry K sha256 env entryId m (.received (some raw)) =
            (m, some (.decoded result)) := by simp only [processEntry, decodes]
        rw [step]
        refine ⟨[], .quiet rfl rfl fun task same => ?_⟩
        cases same
        exact ok raw rfl result decodes
  | decoded result =>
    cases records : record K result env.now m.db with
    | none =>
      have step : processEntry K sha256 env entryId m (.decoded result) = (m, none) := by
        simp only [processEntry, records]
      rw [step]
      exact ⟨[], .quiet rfl rfl nofun⟩
    | some done =>
      obtain ⟨outcome, db⟩ := done
      cases outcome with
      | invalid =>
        have step : processEntry K sha256 env entryId m (.decoded result) =
            ({ m with db }, some .processed) := by simp only [processEntry, records]
        rw [step]
        exact ⟨[], .quiet rfl rfl fun task same => by cases same; trivial⟩
      | _ =>
        simp only [processEntry, records]
        refine ⟨[], .quiet rfl rfl fun task same => ?_⟩
        cases same
        exact ok
  | recorded result =>
    refine ⟨[], .quiet rfl rfl fun task same => ?_⟩
    cases same
    exact ⟨ok, directory result rfl⟩
  | owned result owner =>
    cases issues : issueNextMatch sha256 result owner env.now m.db with
    | none =>
      have step : processEntry K sha256 env entryId m (.owned result owner) = (m, none) := by
        simp only [processEntry, issues]
      rw [step]
      exact ⟨[], .quiet rfl rfl nofun⟩
    | some issued =>
      obtain ⟨successor, db⟩ := issued
      cases successor with
      | none =>
        have step : processEntry K sha256 env entryId m (.owned result owner) =
            ({ m with db }, some (.granted result)) := by simp only [processEntry, issues]
        have refused : RematchRun.refusal sha256 m (.proceed index env) = [result.matchId] := by
          simp only [RematchRun.refusal, here, issues]
        rw [step, refused]
        refine ⟨[], .quiet rfl rfl fun task same => ?_⟩
        cases same
        simp [TaskOk]
      | some matchId =>
        have step : processEntry K sha256 env entryId m (.owned result owner) =
            ({ m with db }, some (.issued result owner matchId)) := by
          simp only [processEntry, issues]
        rw [step]
        refine ⟨[], .quiet rfl rfl fun task same => ?_⟩
        cases same
        have next := ((issueNextMatch_some issues).2 matchId rfl).1
        exact ⟨ok.1, ok.2, next ▸ issueNextMatch_other issues⟩
  | issued result owner matchId =>
    refine ⟨[], .quiet rfl rfl fun task same => ?_⟩
    cases same
    exact ok
  | reassigned result owner matchId =>
    obtain ⟨inside, server, other⟩ := ok
    refine ⟨[result.matchId], ⟨⟨_, .cons ⟨⟨result, inside, rfl⟩, server, ?_, other⟩ .nil, rfl⟩,
      fun _ => .inl, fun _ => id, fun task same => ?_⟩⟩
    · exact rooms result inside
    · cases same
      simp [TaskOk]
  | granted result =>
    refine ⟨[], ⟨[], .nil, (List.append_nil _).symm⟩, fun matchId inside => ?_,
      List.subset_append_left _ _, fun task same => ?_⟩
    · rcases List.mem_append.mp inside with before | new
      · exact .inl before
      · rw [List.mem_singleton.mp new]
        exact .inr ok
    · cases same
      trivial
  | processed => exact ⟨[], .quiet rfl rfl nofun⟩

variable (K) (site) in
/-- The worker, where `finished` are the matches that the commands follow, in their order. -/
structure Worked (known : List MatchResultMessage) (refused finished : List MatchId)
    (m : MatchServer) : Prop where
  tasks : ∀ d ∈ m.deliveries, TaskOk K site known (refused ++ finished) d.task
  sent : List.Forall₂ (Succeeds site known) finished m.commands
  receipts : ∀ matchId ∈ m.receipts, matchId ∈ refused ++ finished

variable {refused finished : List MatchId}

theorem Worked.tell (worked : Worked K site known refused finished m) (told : known ⊆ known') :
    Worked K site known' refused finished m where
  tasks d inside := (worked.tasks d inside).grow told fun _ => id
  sent := worked.sent.imp fun _ _ follows => follows.grow told
  receipts := worked.receipts

theorem Worked.transaction (worked : Worked K site known refused finished m) (db : Database) :
    Worked K site known refused finished { m with db } :=
  ⟨worked.tasks, worked.sent, worked.receipts⟩

/-- The deliveries after a step are those before it or the one that took the step. -/
theorem Worked.advance {refusal new : List MatchId} {after : MatchServer} {next : Option Task}
    {deliveries : List Delivery} (worked : Worked K site known refused finished m)
    (advances : Advances K site known (refused ++ finished) refusal m after next new)
    (inside : ∀ d ∈ deliveries, d ∈ m.deliveries ∨ next = some d.task) :
    Worked K site known (refused ++ refusal) (finished ++ new) { after with deliveries } := by
  obtain ⟨sent, follow, same⟩ := advances.sent
  have wider : refused ++ finished ⊆ refused ++ refusal ++ (finished ++ new) := by
    intro matchId
    simp only [List.mem_append]
    tauto
  refine ⟨fun d member => ?_, ?_, fun matchId member => ?_⟩
  · rcases inside d member with before | stepped
    · exact (worked.tasks d before).grow (fun _ => id) wider
    · refine (advances.next d.task stepped).grow (fun _ => id) fun matchId => ?_
      simp only [List.mem_append]
      tauto
  · change List.Forall₂ _ _ after.commands
    rw [same]
    exact List.rel_append worked.sent follow
  · rcases advances.receipts matchId member with before | new_
    · exact wider (worked.receipts matchId before)
    · exact wider new_

/-- The command at a place follows the match at that place. -/
theorem Worked.command {place : Nat} {c : String × GrantMatchCommand}
    (worked : Worked K site known refused finished m) (there : m.commands[place]? = some c) :
    ∃ matchId, finished[place]? = some matchId ∧ Succeeds site known matchId c := by
  obtain ⟨short, same⟩ := List.getElem?_eq_some_iff.mp there
  have short' : place < finished.length := worked.sent.length_eq ▸ short
  refine ⟨finished[place], List.getElem?_eq_getElem short', ?_⟩
  have follows := worked.sent.get short' short
  rw [List.get_eq_getElem, List.get_eq_getElem, same] at follows
  exact follows

theorem Worked.reported {matchId : MatchId} (worked : Worked K site known refused finished m)
    (inside : matchId ∈ finished) : ∃ result ∈ known, result.matchId = matchId := by
  obtain ⟨place, short, same⟩ := List.getElem_of_mem inside
  have short' : place < m.commands.length := worked.sent.length_eq ▸ short
  obtain ⟨matchId', there, follows⟩ := worked.command (List.getElem?_eq_getElem short')
  rw [List.getElem?_eq_getElem short, same] at there
  cases there
  exact follows.known

/-- Whatever happens to the worker, it knows what has been reported only, and it forgets no receipt
and no command. -/
theorem Worked.apply (worked : Worked K site known refused finished m)
    (rooms : ∀ result ∈ known, result.roomId = site.roomId) {event : MatchingEvent}
    (deliver : ∀ entryId raw, event = .deliver entryId raw → Brings K known raw)
    (directory : ∀ index env entryId result, event = .proceed index env →
      m.deliveries[index]? = some ⟨entryId, .recorded result⟩ →
        ownerServerId K result env.rawRoom = site.serverId) :
    m.receipts ⊆ (m.apply K sha256 event).receipts ∧
    ∃ new, Worked K site known (refused ++ RematchRun.refusal sha256 m event) (finished ++ new)
      (m.apply K sha256 event) := by
  have quiet : ∀ deliveries db, RematchRun.refusal sha256 m event = [] →
      m.apply K sha256 event = { m with deliveries, db } →
      (∀ d ∈ deliveries, TaskOk K site known (refused ++ finished) d.task) →
      m.receipts ⊆ (m.apply K sha256 event).receipts ∧
      ∃ new, Worked K site known (refused ++ RematchRun.refusal sha256 m event) (finished ++ new)
        (m.apply K sha256 event) := by
    intro deliveries db none_ same ok
    rw [none_, same, List.append_nil]
    refine ⟨fun _ => id, [], ?_⟩
    rw [List.append_nil]
    exact ⟨ok, worked.sent, worked.receipts⟩
  cases event with
  | deliver entryId raw =>
    refine quiet (m.deliveries ++ [⟨entryId, .received raw⟩]) m.db rfl rfl fun d inside => ?_
    rcases List.mem_append.mp inside with before | new
    · exact worked.tasks d before
    · rw [List.mem_singleton.mp new]
      exact deliver entryId raw rfl
  | proceed index env =>
    cases here : m.deliveries[index]? with
    | none =>
      refine quiet m.deliveries m.db ?_ ?_ worked.tasks
      · simp only [RematchRun.refusal, here]
      · simp only [MatchServer.apply, here]
    | some delivery =>
      obtain ⟨entryId, task⟩ := delivery
      have ok := worked.tasks _ (List.mem_of_getElem? here)
      obtain ⟨new, advances⟩ : ∃ new, Advances K site known (refused ++ finished)
          (RematchRun.refusal sha256 m (.proceed index env)) m
          (processEntry K sha256 env entryId m task).1
          (processEntry K sha256 env entryId m task).2 new :=
        processEntry_advances rooms here ok fun result same =>
          directory index env entryId result rfl (same ▸ here)
      rw [MatchServer.apply_proceed K sha256 here]
      refine ⟨advances.kept, new, worked.advance advances fun d inside => ?_⟩
      split at inside
      · rename_i next stepped
        rcases List.mem_or_eq_of_mem_set inside with before | same
        · exact .inl before
        · rw [same]
          exact .inr stepped
      · exact .inl (List.mem_of_mem_eraseIdx inside)
  | lose index =>
    exact quiet (m.deliveries.eraseIdx index) m.db rfl rfl fun d inside =>
      worked.tasks d (List.mem_of_mem_eraseIdx inside)
  | _ => exact quiet m.deliveries _ rfl rfl worked.tasks

end

/-! ## The run -/

variable (K) (site) in
structure Supply (s : RematchRun K) (finished : List MatchId) : Prop where
  lineup : Lineup s.room.starters s.room.startOrder s.room.host
  ids : FreshIds s.room
  known : ∀ result ∈ s.reported, result.matchId ∈ s.room.games ∧ result.roomId = site.roomId
  journal : ∀ result ∈ s.reported,
    result ∈ s.journal ∨ result.matchId ∈ s.matching.receipts
  journalled : s.journal ⊆ s.reported
  entries : ∀ entry ∈ s.entries, Brings K s.reported entry.2
  worked : Worked K site s.reported s.refused finished s.matching
  answered : ∀ place ∈ s.answered, place < finished.length
  remembered : s.remembered ⊆ s.answered
  acked : s.acked ⊆ s.answered
  granted : ∀ place ∈ s.answered, finished[place]? = some s.room.host.room.matchId →
    s.room.host.room.grantedMatchId ≠ none

variable {s : RematchRun K} {finished : List MatchId}

/-- Where every command is acknowledged, a receipt means a next id. -/
theorem Supply.supplied (supply : Supply K site s finished) : s.Supplied := by
  intro settled
  obtain ⟨result, reported, same⟩ := settled.reported
  have receipt := (supply.journal result reported).resolve_left fun kept =>
    settled.journal result kept same
  rcases List.mem_append.mp (supply.worked.receipts _ receipt) with refused | sent
  · exact .inr (same ▸ refused)
  · obtain ⟨place, short, there⟩ := List.getElem_of_mem sent
    have answered := supply.acked
      (settled.commands place (supply.worked.sent.length_eq ▸ short))
    refine .inl (supply.granted place answered ?_)
    rw [List.getElem?_eq_getElem short, there, same]

/-- The room has changed, and neither the server nor its books. -/
theorem Supply.room (supply : Supply K site s finished) {room : HostRun K}
    (lineup : Lineup room.starters room.startOrder room.host) (ids : FreshIds room)
    (games : s.room.games ⊆ room.games)
    (present : room.host.room.matchId = s.room.host.room.matchId ∧
        (s.room.host.room.grantedMatchId ≠ none → room.host.room.grantedMatchId ≠ none) ∨
      room.host.room.matchId ∉ s.room.games) : Supply K site { s with room } finished where
  lineup := lineup
  ids := ids
  known result inside := ⟨games (supply.known result inside).1, (supply.known result inside).2⟩
  journal := supply.journal
  journalled := supply.journalled
  entries := supply.entries
  worked := supply.worked
  answered := supply.answered
  remembered := supply.remembered
  acked := supply.acked
  granted place answered there := by
    rcases present with ⟨same, keeps⟩ | unplayed
    · exact keeps (supply.granted place answered (there.trans (congrArg some same)))
    · -- a match that starts now has no command that follows it
      obtain ⟨result, reported, same⟩ := supply.worked.reported (List.mem_of_getElem? there)
      exact absurd (same ▸ (supply.known result reported).1) unplayed

/-- A reply to a command, where the room has taken what it brings. -/
theorem Supply.reply (supply : Supply K site s finished) {place : Nat}
    (short : place < finished.length)
    (taken : finished[place]? = some s.room.host.room.matchId →
      s.room.host.room.grantedMatchId ≠ none) :
    Supply K site
      { s with answered := place :: s.answered, remembered := place :: s.remembered } finished where
  lineup := supply.lineup
  ids := supply.ids
  known := supply.known
  journal := supply.journal
  journalled := supply.journalled
  entries := supply.entries
  worked := supply.worked
  answered other inside := by
    rcases List.mem_cons.mp inside with rfl | before
    · exact short
    · exact supply.answered other before
  remembered := List.cons_subset_cons place supply.remembered
  acked other inside := List.mem_cons_of_mem _ (supply.acked inside)
  granted other inside there := by
    rcases List.mem_cons.mp inside with rfl | before
    · exact taken there
    · exact supply.granted other before there

theorem Supply.receive (supply : Supply K site s finished) {place : Nat} {now : Int}
    (open_ : s.room.host.room.state ≠ .closed) (timely : s.Timely (.receive place now)) :
    Supply K site (s.receive site place now) finished := by
  unfold RematchRun.receive
  split
  · exact supply
  rename_i serverId command there
  obtain ⟨followed, there', follows⟩ := supply.worked.command there
  obtain ⟨short, _⟩ := List.getElem?_eq_some_iff.mp there'
  have again : place ∈ s.answered → Supply K site
      { s with answered := place :: s.answered, remembered := place :: s.remembered } finished :=
    fun before => supply.reply short (supply.granted place before)
  dsimp only
  split
  · rename_i replied
    rcases replied with elsewhere | remembered
    · exact absurd follows.serverId elsewhere
    · exact again (supply.remembered remembered)
  rename_i unreplied
  have forgotten : place ∉ s.remembered := fun inside => unreplied (.inr inside)
  obtain ⟨first, unused⟩ := timely serverId command there forgotten
  split
  · rename_i late
    refine again (by_contra fun new => ?_)
    exact absurd (first new).1 (not_le.mpr late)
  rename_i soon
  split
  · rename_i gone
    rcases gone with elsewhere | closed
    · exact absurd follows.roomId elsewhere
    · exact absurd closed open_
  split
  · rename_i frozen
    refine again (by_contra fun new => ?_)
    rw [(first new).2] at frozen
    cases frozen
  rename_i thawed
  have thawed' : s.room.host.room.handingOff = false := by
    simpa only [Bool.not_eq_true] using thawed
  obtain ⟨ids, games, present, sets⟩ :=
    hostRun_grant supply.ids (unused (not_lt.mp soon) thawed')
  have lineup := (lineup_apply supply.lineup (.grantMatchId command.payload.matchId) trivial).1
  have granted := supply.room lineup ids (games ▸ fun _ => id)
    (.inl ⟨present, fun holds => sets (.inr holds)⟩)
  refine granted.reply short fun current => sets (.inl fun same => follows.other ?_)
  rw [there', present] at current
  cases current
  exact same

theorem supply_apply (supply : Supply K site s finished) {op : RematchOp K}
    (allowed : s.Allowed site op) (timely : s.Timely op) :
    ∃ finished', Supply K site (s.apply sha256 site op) finished' := by
  cases op with
  | host op =>
    obtain ⟨ids, games, present⟩ := hostRun_present supply.lineup supply.ids allowed.1 allowed.2
    refine ⟨finished, supply.room (lineup_apply supply.lineup op allowed.1).1 ids games ?_⟩
    exact present.imp (fun same => ⟨same.matchId, fun holds => by rwa [same.grantedMatchId]⟩) id
  | report result =>
    obtain ⟨_, played, _, room⟩ := allowed
    have told : s.reported ⊆ s.reported ++ [result] := List.subset_append_left _ _
    refine ⟨finished, { supply with
      known := fun other inside => ?_, journal := fun other inside => ?_
      journalled := fun other inside => ?_
      entries := fun entry inside => (supply.entries entry inside).grow told
      worked := supply.worked.tell told }⟩
    · rcases List.mem_append.mp inside with before | new
      · exact supply.known other before
      · rw [List.mem_singleton.mp new]
        exact ⟨played, room⟩
    · rcases List.mem_append.mp inside with before | new
      · exact (supply.journal other before).imp (List.mem_append_left _) id
      · exact .inl (List.mem_append_right _ new)
    · rcases List.mem_append.mp inside with before | new
      · exact told (supply.journalled before)
      · exact List.mem_append_right _ new
  | publish entryId raw =>
    refine ⟨finished, { supply with entries := fun entry inside => ?_ }⟩
    rcases List.mem_append.mp inside with before | new
    · exact supply.entries entry before
    · rw [List.mem_singleton.mp new]
      exact fun text same result decodes => supply.journalled (allowed text same result decodes)
  | forget matchId =>
    refine ⟨finished, ?_⟩
    unfold RematchRun.apply
    dsimp only
    split
    · rename_i receipt
      refine { supply with
        journal := fun result inside => ?_
        journalled := fun result inside => supply.journalled (List.mem_of_mem_filter inside) }
      rcases supply.journal result inside with kept | done
      · by_cases same : result.matchId = matchId
        · exact .inr (same ▸ receipt)
        · exact .inl (List.mem_filter.mpr ⟨kept, decide_eq_true same⟩)
      · exact .inr done
    · exact supply
  | matching event =>
    obtain ⟨receipts, new, worked⟩ : s.matching.receipts ⊆
          (s.matching.apply K sha256 event).receipts ∧
        ∃ new, Worked K site s.reported (s.refused ++ RematchRun.refusal sha256 s.matching event)
          (finished ++ new) (s.matching.apply K sha256 event) := by
      refine supply.worked.apply (fun result inside => (supply.known result inside).2) ?_ ?_
      · rintro entryId raw rfl
        exact supply.entries _ allowed
      · rintro index env entryId result rfl here
        exact allowed entryId result here
    refine ⟨finished ++ new, { supply with
      journal := fun result inside => (supply.journal result inside).imp id fun done => receipts done
      worked, answered := fun place inside => ?_, granted := fun place inside there => ?_ }⟩
    · rw [List.length_append]
      exact Nat.lt_add_right _ (supply.answered place inside)
    · rw [List.getElem?_append_left (supply.answered place inside)] at there
      exact supply.granted place inside there
  | receive place now => exact ⟨finished, supply.receive allowed timely⟩
  | expireReply place =>
    exact ⟨finished, { supply with
      remembered := fun other inside => supply.remembered (List.mem_of_mem_filter inside) }⟩
  | ack place =>
    refine ⟨finished, { supply with acked := fun other inside => ?_ }⟩
    rcases List.mem_cons.mp inside with rfl | before
    · exact allowed
    · exact supply.acked before

/-- Where every grant is carried out when it first comes, no room waits for a match that does not
come. -/
theorem no_stranded_room {db : Database} {host : HostedRoom K} {s : RematchRun K}
    (unplayed : Unplayed (fun _ => host.room.matchId) host)
    (run : Reach (fun (s : RematchRun K) op => s.Allowed site op ∧ s.Timely op)
      (RematchRun.apply sha256 site) (RematchRun.start db host) s) : s.Supplied := by
  have begins : Supply K site (RematchRun.start db host) [] :=
    { lineup := unplayed.fresh.lineup
      ids := unplayed.ids
      known := nofun, journal := nofun, journalled := fun _ => id, entries := nofun
      worked := ⟨nofun, .nil, nofun⟩
      answered := nofun, remembered := fun _ => id, acked := fun _ => id, granted := nofun }
  obtain ⟨_, supply⟩ := run.invariant (I := fun s => ∃ finished, Supply K site s finished)
    ⟨[], begins⟩ fun _ _ ⟨_, supply⟩ may => supply_apply supply may.1 may.2
  exact supply.supplied

/-- The consumer touches the room and its own memory only. -/
theorem settled_receive {matchId : MatchId} {place : Nat} {now : Int}
    (reported : ∃ result ∈ s.reported, result.matchId = matchId)
    (recorded : Recorded s.matching.db (uuid matchId))
    (entries : ∀ entry ∈ s.entries, entry.1 ∈ s.matching.acknowledged)
    (commands : ∀ other < s.matching.commands.length, other = place)
    (journal : ∀ result ∈ s.journal, result.matchId ≠ matchId) :
    ((s.apply sha256 site (.receive place now)).apply sha256 site (.ack place)).Settled matchId := by
  have same : ∃ room remembered answered,
      s.receive site place now = { s with room, remembered, answered } := by
    unfold RematchRun.receive
    split
    · exact ⟨_, _, _, rfl⟩
    · dsimp only
      split
      · exact ⟨_, _, _, rfl⟩
      split
      · exact ⟨_, _, _, rfl⟩
      split
      · exact ⟨_, _, _, rfl⟩
      split <;> exact ⟨_, _, _, rfl⟩
  obtain ⟨room, remembered, answered, same⟩ := same
  change (RematchRun.apply sha256 site (s.receive site place now) (.ack place)).Settled matchId
  rw [same]
  refine ⟨reported, recorded, entries, fun other short => ?_, journal⟩
  rw [commands other short]
  exact List.mem_cons_self

/-! ## A grant that comes late -/

/-- `String.splitOnAux` with a bound on its steps. -/
def splitSteps (s sep : String) : Nat → String.Pos.Raw → String.Pos.Raw → String.Pos.Raw → List String →
    Option (List String)
  | 0, _, _, _, _ => none
  | steps + 1, b, i, j, r =>
    if i.atEnd s then some ((b.extract s i) :: r).reverse
    else if i.get s == j.get sep then
      if (j.next sep).atEnd sep then
        splitSteps s sep steps (i.next s) (i.next s) 0
          (b.extract s ((i.next s).unoffsetBy (j.next sep)) :: r)
      else splitSteps s sep steps b (i.next s) (j.next sep) r
    else splitSteps s sep steps b ((i.unoffsetBy j).next s) 0 r

theorem splitOnAux_eq {s sep : String} {steps : Nat} {b i j : String.Pos.Raw} {r parts : List String}
    (splits : splitSteps s sep steps b i j r = some parts) : s.splitOnAux sep b i j r = parts := by
  induction steps generalizing b i j r with
  | zero => cases splits
  | succ steps ih =>
    unfold splitSteps at splits
    unfold String.splitOnAux
    dsimp only
    split
    · rename_i ends
      rw [if_pos ends] at splits
      exact Option.some.inj splits
    · rename_i inside
      rw [if_neg inside] at splits
      split
      · rename_i same
        rw [if_pos same] at splits
        split
        · rename_i last
          rw [if_pos last] at splits
          exact ih splits
        · rename_i more
          rw [if_neg more] at splits
          exact ih splits
      · rename_i differs
        rw [if_neg differs] at splits
        exact ih splits

def firstSite : Site := ⟨"server", "room"⟩

def firstMatchId : MatchId := "00000000-0000-4000-8000-000000000001"

def hosted : HostedRoom ℚ :=
  { gathered with room := { gathered.room with matchId := firstMatchId } }

theorem hosted_unplayed : Unplayed (fun _ => hosted.room.matchId) hosted where
  fresh :=
    { competing := gathered_fresh.competing
      idle := gathered_fresh.idle
      seated := gathered_fresh.seated
      session := gathered_fresh.session
      storing := gathered_fresh.storing }
  matchId := rfl
  playedGames := by decide +kernel
  grantedMatchId := by decide +kernel

def issued : Database :=
  ((issueMatch firstMatchId "server" "map" seatedGuest 0 emptyDatabase).map
    (confirmRoom firstMatchId "room" "map")).getD emptyDatabase

def finishedResult : MatchResultMessage := { playedResult with matchId := firstMatchId }

def resultJson : Json ℚ :=
  .obj [("v", .num 1), ("matchId", .str firstMatchId), ("roomId", .str "room"),
    ("serverId", .str "server"), ("mapId", .str "map"), ("startedAt", .num 0),
    ("endedAt", .num 9), ("durationTicks", .num 1), ("buildId", .str "b"),
    ("protocolVersion", .num 2), ("rulesVersion", .str "r"), ("mapBundleHash", .str "h"),
    ("visibilityCoreVersion", .num 1), ("winnerPlayerIds", .arr [.num 1]), ("replay", .null),
    ("players", .arr [.obj [("isGuest", .bool true), ("userId", .null), ("playerId", .num 1),
      ("nickname", .str "host"), ("colorIndex", .num 0), ("tagCount", .num 0),
      ("taggedCount", .num 0), ("switchTry", .num 0), ("switchSuccess", .num 0),
      ("survivedMs", .num 0)]])]

def resultText : String := String.ofList resultJson.stringify

theorem isUuid_firstMatchId : isUuid firstMatchId = true := by
  have splits : splitSteps firstMatchId "-" 40 0 0 0 [] =
      some ["00000000", "0000", "4000", "8000", "000000000001"] := by decide +kernel
  have parts : firstMatchId.splitOn "-" = ["00000000", "0000", "4000", "8000", "000000000001"] := by
    unfold String.splitOn
    rw [if_neg (by decide)]
    exact splitOnAux_eq splits
  unfold isUuid
  rw [parts]
  decide +kernel

theorem resultJson_stored : resultJson.stored = resultJson := by
  rw [Json.stored_eq_iff]
  unfold Json.Exact
  decide +kernel

theorem resultJson_fields : matchResultFields resultJson = some finishedResult := by
  have v : field resultJson "v" nonNegativeInteger = some 1 := by decide +kernel
  have matchId : field resultJson "matchId" text = some firstMatchId := by decide +kernel
  have roomId : field resultJson "roomId" shortString = some "room" := by decide +kernel
  have serverId : field resultJson "serverId" shortString = some "server" := by decide +kernel
  have mapId : field resultJson "mapId" shortString = some "map" := by decide +kernel
  have startedAt : field resultJson "startedAt" nonNegativeInteger = some 0 := by decide +kernel
  have endedAt : field resultJson "endedAt" nonNegativeInteger = some 9 := by decide +kernel
  have durationTicks : field resultJson "durationTicks" nonNegativeInteger = some 1 := by
    decide +kernel
  have buildId : field resultJson "buildId" shortString = some "b" := by decide +kernel
  have protocolVersion : field resultJson "protocolVersion" nonNegativeInteger = some 2 := by
    decide +kernel
  have rulesVersion : field resultJson "rulesVersion" shortString = some "r" := by decide +kernel
  have mapBundleHash : field resultJson "mapBundleHash" shortString = some "h" := by decide +kernel
  have visibilityCoreVersion :
      field resultJson "visibilityCoreVersion" nonNegativeInteger = some 1 := by decide +kernel
  have winnerPlayerIds : (field resultJson "winnerPlayerIds" list).bind
      (List.mapM nonNegativeInteger) = some [1] := by decide +kernel
  have replay : field resultJson "replay" isReplay = some none := by decide +kernel
  have players : (field resultJson "players" list).bind (List.mapM isParticipant) =
      some finishedResult.players := by decide +kernel
  obtain ⟨winners, winners_, read⟩ := Option.bind_eq_some_iff.mp winnerPlayerIds
  obtain ⟨seats, seats_, sit⟩ := Option.bind_eq_some_iff.mp players
  unfold matchResultFields
  simp only [v, matchId, roomId, serverId, mapId, startedAt, endedAt, durationTicks, buildId,
    protocolVersion, rulesVersion, mapBundleHash, visibilityCoreVersion, winners_, read, replay,
    seats_, sit, isUuid_firstMatchId, Option.bind_eq_bind, Option.bind_some, guard, if_true]
  rfl

theorem decodes_of_parses {raw : String} {j : Json K} {result : MatchResultMessage}
    (parses : Json.parse raw = some j) (reads : isMatchResult j = some result) :
    decodeMatchResult K raw = .ok result := by
  unfold decodeMatchResult
  rw [parses]
  dsimp only
  rw [reads]

theorem resultText_decodes : decodeMatchResult ℚ resultText = .ok finishedResult := by
  have consistent : isMatchResult resultJson = some finishedResult := by
    unfold isMatchResult
    rw [resultJson_fields]
    decide +kernel
  have parses : (Json.parse resultText : Option (Json ℚ)) = some resultJson := by
    unfold resultText
    rw [Json.parse_stringify, resultJson_stored]
  exact decodes_of_parses parses consistent

/-- The match is played and reported, and its result is delivered. -/
def untilDelivery : List (RematchOp ℚ) :=
  [.host (.requestStart 20000 (.account 1) ⟨false, true⟩), .host (.advance startEnv 29000),
    .host (.finishGame 40000 []), .host (.advance startEnv 50000), .report finishedResult,
    .publish "1-0" (some resultText), .matching (.deliver "1-0" (some resultText))]

def delivered : RematchRun ℚ :=
  untilDelivery.foldl (RematchRun.apply id firstSite) (.start issued hosted)

def decoded : RematchRun ℚ :=
  { delivered with
    matching := { delivered.matching with deliveries := [⟨"1-0", .decoded finishedResult⟩] } }

/-- What was allowed and timely so far. -/
abbrev Comes (s v : RematchRun ℚ) : Prop :=
  Reach (fun (s : RematchRun ℚ) op => s.Allowed firstSite op ∧ s.Timely op)
    (RematchRun.apply id firstSite) s v

theorem comes_delivered : Comes (.start issued hosted) delivered := by
  refine .of_list ⟨⟨⟨trivial, nofun⟩, trivial⟩, ⟨⟨trivial, nofun⟩, trivial⟩,
    ⟨⟨trivial, nofun⟩, trivial⟩, ⟨⟨trivial, nofun⟩, trivial⟩,
    ⟨⟨by decide +kernel, by decide +kernel, rfl, rfl⟩, trivial⟩, ⟨?_, trivial⟩,
    ⟨List.mem_singleton_self ("1-0", some resultText), trivial⟩, trivial⟩
  rintro text same result decodes
  rw [← Option.some.inj same, resultText_decodes] at decodes
  cases decodes
  decide +kernel

def surroundings : Surroundings := ⟨60000, "grant", none⟩

theorem delivered_deliveries :
    delivered.matching.deliveries = [⟨"1-0", .received (some resultText)⟩] := by
  unfold delivered untilDelivery
  simp only [List.foldl_cons, List.foldl_nil, RematchRun.apply, MatchServer.apply]
  rfl

theorem apply_received {raw : String} {entryId : String} {result : MatchResultMessage}
    (decodes : decodeMatchResult K raw = .ok result) {env : Surroundings}
    (waits : s.matching.deliveries = [⟨entryId, .received (some raw)⟩]) :
    s.apply sha256 site (.matching (.proceed 0 env)) =
      { s with matching := { s.matching with deliveries := [⟨entryId, .decoded result⟩] } } := by
  have refused : RematchRun.refusal sha256 s.matching (.proceed 0 env) = [] := by
    simp only [RematchRun.refusal, waits, List.getElem?_cons_zero]
  have next : s.matching.apply K sha256 (.proceed 0 env) =
      { s.matching with deliveries := [⟨entryId, .decoded result⟩] } := by
    simp only [MatchServer.apply, waits, List.getElem?_cons_zero, processEntry, decodes,
      List.set_cons_zero]
  unfold RematchRun.apply
  dsimp only
  rw [refused, next, List.append_nil]

theorem comes_decoded : Comes (.start issued hosted) decoded := by
  have step : delivered.apply id firstSite (.matching (.proceed 0 surroundings)) = decoded :=
    apply_received resultText_decodes delivered_deliveries
  rw [← step]
  refine .step comes_delivered ⟨fun entryId result here => ?_, trivial⟩
  rw [delivered_deliveries] at here
  cases here

/-- The steps that are left to the worker, which finds no directory. -/
def Quick (s : RematchRun ℚ) : RematchOp ℚ → Bool
  | .matching (.proceed _ env) => env.rawRoom = none && s.matching.deliveries.all fun d =>
      match d.task with
      | .recorded result => result.serverId = "server"
      | _ => true
  | .forget _ => true
  | _ => false

theorem Quick.allowed {s : RematchRun ℚ} {op : RematchOp ℚ} (quick : Quick s op = true) :
    s.Allowed firstSite op ∧ s.Timely op := by
  unfold Quick at quick
  split at quick
  · rename_i index env
    refine ⟨fun entryId result here => ?_, trivial⟩
    simp only [Bool.and_eq_true, decide_eq_true_eq, List.all_eq_true] at quick
    have named := quick.2 _ (List.mem_of_getElem? here)
    rw [quick.1]
    exact of_decide_eq_true named
  · exact ⟨trivial, trivial⟩
  · cases quick

def untilGrant : List (RematchOp ℚ) :=
  List.replicate 7 (.matching (.proceed 0 surroundings)) ++ [.forget firstMatchId]

def sent : RematchRun ℚ := untilGrant.foldl (RematchRun.apply id firstSite) decoded

theorem comes_sent : Comes (.start issued hosted) sent := by
  have quick : AllowedRun (fun s op => Quick s op = true) (RematchRun.apply id firstSite) decoded
      untilGrant := by decide +kernel
  exact comes_decoded.trans ((Reach.of_list quick).mono fun _ _ => Quick.allowed)

/-- The consumer takes the grant at `now`, and acknowledges it. -/
def grantedAt (now : Int) : RematchRun ℚ :=
  (sent.apply id firstSite (.receive 0 now)).apply id firstSite (.ack 0)

theorem sent_books :
    (sent.matching.db.matchRows.get? (uuid firstMatchId)).map MatchRow.unrecorded = some false ∧
      finishedResult ∈ sent.reported ∧
      (∀ entry ∈ sent.entries, entry.1 ∈ sent.matching.acknowledged) ∧
      sent.matching.commands.length = 1 ∧ sent.journal = [] := by
  decide +kernel

theorem sent_room :
    sent.room.host.room.state ≠ .closed ∧ sent.room.host.room.handingOff = false ∧
      ∀ c ∈ sent.matching.commands, 60010 ≤ c.2.deadlineAt ∧
        c.2.payload.matchId ∉ sent.room.games := by
  decide +kernel

theorem settled_grantedAt (now : Int) : (grantedAt now).Settled firstMatchId := by
  obtain ⟨row, reported, entries, commands, journal⟩ := sent_books
  refine settled_receive ⟨finishedResult, reported, rfl⟩ (Option.map_eq_some_iff.mp row) entries
    (fun other short => ?_) fun result inside => ?_
  · exact Nat.lt_one_iff.mp (commands ▸ short)
  · rw [journal] at inside
    cases inside

theorem no_stranded_room_granted :
    (grantedAt 60010).Settled (grantedAt 60010).room.host.room.matchId ∧
      (grantedAt 60010).Supplied := by
  obtain ⟨open_, thawed, due⟩ := sent_room
  have taken : 0 ∈ (sent.apply id firstSite (.receive 0 60010)).answered ∧
      (grantedAt 60010).room.host.room.matchId = firstMatchId := by decide +kernel
  refine ⟨taken.2 ▸ settled_grantedAt 60010, no_stranded_room hosted_unplayed
    (.step (.step comes_sent ⟨open_, fun serverId command there _ => ?_⟩) ⟨taken.1, trivial⟩)⟩
  obtain ⟨soon, unused⟩ := due _ (List.mem_of_getElem? there)
  exact ⟨fun _ => ⟨soon, thawed⟩, fun _ _ => .inr unused⟩

/-- The grant is first taken from the stream 30 s after it was sent. -/
theorem late_grant_strands : ¬ ∀ (sha256 : Bytes → Bytes) (site : Site) (db : Database)
    (host : HostedRoom ℚ) (s : RematchRun ℚ), Unplayed (fun _ => host.room.matchId) host →
    Reach (RematchRun.Allowed site) (RematchRun.apply sha256 site) (RematchRun.start db host) s →
    s.Supplied := by
  intro claim
  have late : 0 ∈ (sent.apply id firstSite (.receive 0 90000)).answered ∧
      (grantedAt 90000).room.host.room.matchId = firstMatchId ∧
      ¬ ((grantedAt 90000).room.host.room.grantedMatchId ≠ none ∨
        (grantedAt 90000).room.host.room.matchId ∈ (grantedAt 90000).refused) := by decide +kernel
  have run : Reach (RematchRun.Allowed firstSite) (RematchRun.apply id firstSite)
      (RematchRun.start issued hosted) (grantedAt 90000) :=
    .step (.step (comes_sent.mono fun _ _ may => may.1) sent_room.1) late.1
  exact late.2.2 (claim id firstSite issued hosted _ hosted_unplayed run
    (late.2.1 ▸ settled_grantedAt 90000))

end SwitchRemake.Matching

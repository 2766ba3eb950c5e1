import SwitchRemake.Game.Ghosts

/-!
# Match ids

The backend issues ids in an order, and each of them may be delivered again at any later time. The
room remembers the id of the current match and a pending one.
-/

namespace SwitchRemake.Game
open Lib Simulation Rooms GameSession HostedRoom

variable {K : Type} {h v : HostedRoom K}

/-! ## Who changes an id -/

theorem SameMatch.trans {r v u : Room} (first : SameMatch r v) (second : SameMatch v u) :
    SameMatch r u where
  options := second.options.trans first.options
  matchId := second.matchId.trans first.matchId
  grantedMatchId := second.grantedMatchId.trans first.grantedMatchId
  playedGames := second.playedGames.trans first.playedGames

theorem act_sameMatch (act : Act h v) : SameMatch h.room v.room := by
  cases act with
  | quiet still => exact still.same
  | close _ same => exact same
  | stored member =>
    unfold HostedRoom.stored
    rw [if_pos member]
    exact .refl _
  | _ => exact ⟨rfl, rfl, rfl, rfl⟩

theorem acts_sameMatch (acts : Acts h v) : SameMatch h.room v.room := by
  induction acts with
  | refl => exact .refl _
  | tail _ last ih => exact SameMatch.trans ih (act_sameMatch last)

theorem transition_sameMatch (r : Room) (next : RoomState) : SameMatch r (r.transition next) := by
  unfold Room.transition
  split <;> exact ⟨rfl, rfl, rfl, rfl⟩

theorem sweep_sameMatch {now : Int} (sweep : Sweep now h v) : SameMatch h.room v.room := by
  cases sweep with
  | close => exact acts_sameMatch (close_acts h)
  | _ => exact ⟨rfl, rfl, rfl, rfl⟩

theorem sweeps_sameMatch {now : Int} (sweeps : Relation.ReflTransGen (Sweep now) h v) :
    SameMatch h.room v.room := by
  induction sweeps with
  | refl => exact .refl _
  | tail _ last ih => exact SameMatch.trans ih (sweep_sameMatch last)

variable [JsNumber K]

theorem advance_sameMatch (h : HostedRoom K) (env : StartEnv K) (now : Int) :
    SameMatch h.room (h.advance env now).room := by
  obtain ⟨mid, sweeps, same | due⟩ := advance_cases h env now
  · rw [same]
    exact sweeps_sameMatch sweeps
  · refine SameMatch.trans (sweeps_sameMatch sweeps) ?_
    have begun : SameMatch mid.room (mid.startIfDue env now).room := by
      rcases startIfDue_cases mid env now with
        idle | ⟨snapshot, started, _, _, _, begins, result⟩
      · rw [idle]
        exact .refl _
      · rw [result, ← startGame_room begins]
        change SameMatch started.room (enterGame started.room snapshot)
        unfold enterGame
        dsimp only
        refine SameMatch.trans ?_ (transition_sameMatch _ _)
        exact ⟨rfl, rfl, rfl, rfl⟩
    rw [due]
    refine SameMatch.trans begun ?_
    rcases returnIfDue_cases (mid.startIfDue env now) now with idle | ⟨_, result⟩
    · rw [idle]
      exact .refl _
    · rw [result]
      change SameMatch _ (backToLobby (mid.startIfDue env now).room)
      unfold backToLobby
      dsimp only
      refine SameMatch.trans ?_ (transition_sameMatch _ _)
      exact ⟨rfl, rfl, rfl, rfl⟩

theorem apply_sameMatch (h : HostedRoom K) {op : HostOp K} (allows : h.Allows op)
    (unlocks : ∀ now requester gate, op ≠ .requestStart now requester gate)
    (ungranted : ∀ matchId, op ≠ .grantMatchId matchId) :
    SameMatch h.room (h.apply op).room := by
  have acts := apply_acts h allows unlocks ungranted
  refine SameMatch.trans ?_ (acts_sameMatch acts)
  unfold HostedRoom.caughtUp
  cases clock op with
  | none => exact .refl _
  | some at_ => exact advance_sameMatch h at_.1 at_.2

/-! ## The ids of a run -/

omit [JsNumber K] in
/-- Every id has been used at most once, and the pending one has not been used. -/
structure FreshIds (r : HostRun K) : Prop where
  once : r.games.Nodup
  count : r.games.length = r.host.room.playedGames
  pending : ∀ id, r.host.room.grantedMatchId = some id →
    id ∉ r.games ∧ id ≠ r.host.room.matchId

omit [JsNumber K] in
theorem FreshIds.same {r : HostRun K} (ids : FreshIds r) {host : HostedRoom K}
    (same : SameMatch r.host.room host.room) : FreshIds { r with host } where
  once := ids.once
  count := ids.count.trans same.playedGames.symm
  pending id granted := by
    rw [same.grantedMatchId] at granted
    have unused := ids.pending id granted
    rw [← same.matchId] at unused
    exact unused

theorem FreshIds.start {r : HostRun K} (ids : FreshIds r)
    (competing : r.host.room.options.mode = RoomMode.match) (now : Int) (requester : ActorId)
    (gate : Room.StartGate) : FreshIds (r.apply (.requestStart now requester gate)) := by
  unfold HostRun.apply
  dsimp only
  rcases requestStart_cases r.host.room now requester gate with
    ⟨reason, refused⟩ | ⟨matchId, pending, _, source, starts⟩
  · rw [if_neg (by rw [refused]; nofun)]
    refine ids.same ?_
    change SameMatch r.host.room (r.host.room.requestStart now requester gate).1
    rw [refused]
    exact .refl _
  · rw [if_pos (by rw [starts])]
    have room : (r.host.apply (.requestStart now requester gate)).room =
        (r.host.room.requestStart now requester gate).1 := rfl
    rw [starts] at room
    rcases source with ⟨_, _, granted, rfl⟩ | ⟨first, rfl, rfl⟩
    · have unused := ids.pending matchId granted
      refine ⟨?_, ?_, ?_⟩
      · rw [room]
        exact ids.once.append (List.nodup_singleton _) (List.disjoint_singleton.mpr unused.1)
      · rw [room]
        simp [ids.count]
      · rw [room]
        nofun
    · have none : r.host.room.playedGames = 0 := by
        by_contra played
        exact first ⟨Nat.pos_of_ne_zero played, competing⟩
      have empty : r.games = [] := List.length_eq_zero_iff.mp (ids.count.trans none)
      refine ⟨?_, ?_, ?_⟩
      · rw [empty]
        exact List.nodup_singleton _
      · rw [room]
        simp [ids.count]
      · intro id granted
        rw [room] at granted ⊢
        have unused := ids.pending id granted
        rw [empty, List.nil_append, List.mem_singleton]
        exact ⟨unused.2, unused.2⟩

theorem hostRun_sameMatch {r : HostRun K} {op : HostOp K} (allows : r.Allows op)
    (unlocks : ∀ now requester gate, op ≠ .requestStart now requester gate)
    (ungranted : ∀ matchId, op ≠ .grantMatchId matchId) :
    r.apply op = { r with host := r.host.apply op } ∧
      SameMatch r.host.room (r.host.apply op).room := by
  refine ⟨?_, apply_sameMatch r.host allows unlocks ungranted⟩
  unfold HostRun.apply
  cases op with
  | requestStart now requester gate => exact absurd rfl (unlocks now requester gate)
  | _ => rfl

/-- The room goes on with its match, or it starts one that it has not played. -/
theorem hostRun_present {r : HostRun K}
    (lineup : Lineup r.starters r.startOrder r.host) (ids : FreshIds r)
    {op : HostOp K} (allows : r.Allows op) (ungranted : ∀ matchId, op ≠ .grantMatchId matchId) :
    FreshIds (r.apply op) ∧ r.games ⊆ (r.apply op).games ∧
      (SameMatch r.host.room (r.apply op).host.room ∨
        (r.apply op).host.room.matchId ∉ r.games) := by
  by_cases locks : ∃ now requester gate, op = .requestStart now requester gate
  · obtain ⟨now, requester, gate, rfl⟩ := locks
    have fresh := ids.start lineup.competing now requester gate
    refine ⟨fresh, ?_⟩
    by_cases starts : (r.host.room.requestStart now requester gate).2 = none
    · have games : (r.apply (.requestStart now requester gate)).games =
          r.games ++ [(r.apply (.requestStart now requester gate)).host.room.matchId] := by
        simp only [HostRun.apply, if_pos starts]
      refine ⟨?_, .inr fun played => ?_⟩
      · rw [games]
        exact List.subset_append_left _ _
      · have once := fresh.once
        rw [games] at once
        exact (List.nodup_append.mp once).2.2 _ played _ (List.mem_singleton_self _) rfl
    · have stays : r.apply (.requestStart now requester gate) =
          { r with host := r.host.apply (.requestStart now requester gate) } := by
        simp only [HostRun.apply, if_neg starts]
      rw [stays]
      refine ⟨fun _ => id, .inl ?_⟩
      change SameMatch r.host.room (r.host.room.requestStart now requester gate).1
      rcases requestStart_cases r.host.room now requester gate with
        ⟨reason, refused⟩ | ⟨_, _, _, _, begins⟩
      · rw [refused]
        exact .refl _
      · exact absurd (by rw [begins]) starts
  · obtain ⟨same, kept⟩ := hostRun_sameMatch allows
      (fun now requester gate equal => locks ⟨now, requester, gate, equal⟩) ungranted
    rw [same]
    exact ⟨ids.same kept, fun _ => id, .inl kept⟩

/-- A grant only sets the pending id, and it does so unless it brings the present one. -/
theorem hostRun_grant {r : HostRun K} (ids : FreshIds r) {matchId : MatchId}
    (unused : matchId = r.host.room.matchId ∨ matchId ∉ r.games) :
    FreshIds (r.apply (.grantMatchId matchId)) ∧
      (r.apply (.grantMatchId matchId)).games = r.games ∧
      (r.apply (.grantMatchId matchId)).host.room.matchId = r.host.room.matchId ∧
      (matchId ≠ r.host.room.matchId ∨ r.host.room.grantedMatchId ≠ none →
        (r.apply (.grantMatchId matchId)).host.room.grantedMatchId ≠ none) := by
  change FreshIds { r with host := { r.host with room := r.host.room.grantMatchId matchId } } ∧ _ ∧
    (r.host.room.grantMatchId matchId).matchId = r.host.room.matchId ∧
      (_ → (r.host.room.grantMatchId matchId).grantedMatchId ≠ none)
  unfold Room.grantMatchId
  split
  · rename_i present
    exact ⟨ids, rfl, rfl, fun sets => sets.resolve_left fun other => other present⟩
  · rename_i other
    refine ⟨⟨ids.once, ids.count, fun id granted => ?_⟩, rfl, rfl, fun _ => nofun⟩
    cases granted
    exact ⟨unused.resolve_left other, other⟩

/-! ## Grants -/

omit [JsNumber K] in
structure GrantRun (K : Type) where
  run : HostRun K
  /-- The backend has sent the ids up to this index at least once. -/
  newest : Nat

inductive GrantOp (K : Type) where
  | grant (index : Nat)
  | other (op : HostOp K)

namespace GrantRun

def apply (issued : Nat → MatchId) (g : GrantRun K) : GrantOp K → GrantRun K
  | .grant index => ⟨g.run.apply (.grantMatchId (issued index)), max g.newest index⟩
  | .other op => ⟨g.run.apply op, g.newest⟩

omit [JsNumber K] in
/-- The first id comes with the room; a grant brings the next id, or one that it brought before. -/
def Allows (g : GrantRun K) : GrantOp K → Prop
  | .grant index => 1 ≤ index ∧ index ≤ g.newest + 1
  | .other op => g.run.Allows op ∧ ∀ matchId, op ≠ .grantMatchId matchId

omit [JsNumber K] in
/-- The grant is that of the current match, or it is neither that of a match started before nor
older than the pending one. -/
def Timely (issued : Nat → MatchId) (g : GrantRun K) : GrantOp K → Prop
  | .grant index => issued index = g.run.host.room.matchId ∨
      issued index ∉ g.run.games ∧
        ∀ pending, g.run.host.room.grantedMatchId = some (issued pending) → pending ≤ index
  | .other _ => True

omit [JsNumber K] in
def start (host : HostedRoom K) : GrantRun K := ⟨HostRun.start host, 0⟩

end GrantRun

omit [JsNumber K] in
/-- A room that has come with its first id and has not played. -/
structure Unplayed (issued : Nat → MatchId) (host : HostedRoom K) : Prop where
  fresh : Fresh host
  matchId : host.room.matchId = issued 0
  playedGames : host.room.playedGames = 0
  grantedMatchId : host.room.grantedMatchId = none

omit [JsNumber K] in
theorem Unplayed.ids {issued : Nat → MatchId} {host : HostedRoom K}
    (unplayed : Unplayed issued host) : FreshIds (HostRun.start host) where
  once := List.nodup_nil
  count := unplayed.playedGames.symm
  pending id granted := by
    change host.room.grantedMatchId = some id at granted
    rw [unplayed.grantedMatchId] at granted
    cases granted

theorem FreshIds.apply {issued : Nat → MatchId} {g : GrantRun K}
    (lineup : Lineup g.run.starters g.run.startOrder g.run.host) (ids : FreshIds g.run)
    (op : GrantOp K) (allows : g.Allows op) (timely : g.Timely issued op) :
    FreshIds (g.apply issued op).run := by
  cases op with
  | grant index => exact (hostRun_grant ids (timely.imp id And.left)).1
  | other op => exact (hostRun_present lineup ids allows.1 allows.2).1

theorem freshIds_reach {issued : Nat → MatchId} {host : HostedRoom K} {g : GrantRun K}
    (unplayed : Unplayed issued host)
    (run : Reach (fun (g : GrantRun K) op => g.Allows op ∧ g.Timely issued op)
      (GrantRun.apply issued) (GrantRun.start host) g) : FreshIds g.run := by
  refine (run.invariant (I := fun g : GrantRun K =>
    Lineup g.run.starters g.run.startOrder g.run.host ∧ FreshIds g.run)
    ⟨unplayed.fresh.lineup, unplayed.ids⟩ fun g op inv allows => ?_).2
  refine ⟨?_, inv.2.apply inv.1 op allows.1 allows.2⟩
  cases op with
  | grant index => exact (lineup_apply inv.1 (.grantMatchId (issued index)) trivial).1
  | other op => exact (lineup_apply inv.1 op allows.1.1).1

/-- No id serves twice, and a pending id gives way to newer ones only. -/
theorem match_ids_once {issued : Nat → MatchId} {host : HostedRoom K} {g : GrantRun K}
    (unplayed : Unplayed issued host)
    (run : Reach (fun (g : GrantRun K) op => g.Allows op ∧ g.Timely issued op)
      (GrantRun.apply issued) (GrantRun.start host) g) :
    g.run.games.Nodup ∧ ∀ index, g.Allows (.grant index) → g.Timely issued (.grant index) →
      ∀ pending, g.run.host.room.grantedMatchId = some (issued pending) →
        ∃ kept, pending ≤ kept ∧
          (g.apply issued (.grant index)).run.host.room.grantedMatchId = some (issued kept) := by
  refine ⟨(freshIds_reach unplayed run).once, fun index _ timely pending granted => ?_⟩
  change ∃ kept, pending ≤ kept ∧
    (g.run.host.room.grantMatchId (issued index)).grantedMatchId = some (issued kept)
  unfold Room.grantMatchId
  split
  · exact ⟨pending, le_rfl, granted⟩
  · rename_i other
    rcases timely with current | ⟨_, newer⟩
    · exact absurd current other
    · exact ⟨index, newer pending granted, rfl⟩

/-- The ids of the example are "M", "MM", "MMM" and so on. -/
def issueId (index : Nat) : MatchId := String.ofList (List.replicate (index + 1) 'M')

theorem issueId_injective : Function.Injective issueId := by
  intro a b same
  have lengths := congrArg List.length (String.ofList_injective same)
  simpa using lengths

def numbered : HostedRoom ℚ :=
  { gathered with room := { gathered.room with matchId := issueId 0 } }

theorem numbered_unplayed : Unplayed issueId numbered where
  fresh :=
    { competing := gathered_fresh.competing
      idle := gathered_fresh.idle
      seated := gathered_fresh.seated
      session := gathered_fresh.session
      storing := gathered_fresh.storing }
  matchId := rfl
  playedGames := by decide +kernel
  grantedMatchId := by decide +kernel

/-- A match from its start at `now` to the lobby after it. -/
def playMatch (now : Int) : List (GrantOp ℚ) :=
  [.other (.requestStart now (.account 1) ⟨false, true⟩),
    .other (.advance startEnv (now + 9000)), .other (.finishGame (now + 20000) []),
    .other (.advance startEnv (now + 30000))]

/-- Whatever is asked of grants, a match itself can be played. -/
theorem playMatch_allowed {may : GrantRun ℚ → GrantOp ℚ → Prop}
    (free : ∀ g op, g.Allows (.other op) → may g (.other op)) {g : GrantRun ℚ} {now : Int}
    {rest : List (GrantOp ℚ)}
    (then_ : AllowedRun may (GrantRun.apply issueId)
      ((playMatch now).foldl (GrantRun.apply issueId) g) rest) :
    AllowedRun may (GrantRun.apply issueId) g (playMatch now ++ rest) :=
  ⟨free _ _ ⟨trivial, nofun⟩, free _ _ ⟨trivial, nofun⟩, free _ _ ⟨trivial, nofun⟩,
    free _ _ ⟨trivial, nofun⟩, then_⟩

/-- The grant of the second match is delivered twice. -/
def rematch : List (GrantOp ℚ) :=
  playMatch 20000 ++ .grant 1 :: (playMatch 60000 ++ [.grant 1])

theorem match_ids_once_rematch :
    (rematch.foldl (GrantRun.apply issueId) (GrantRun.start numbered)).run.games.Nodup := by
  have free : ∀ (g : GrantRun ℚ) op, g.Allows (.other op) →
      g.Allows (.other op) ∧ g.Timely issueId (.other op) := fun g op allows => ⟨allows, trivial⟩
  have run : Reach (fun (g : GrantRun ℚ) op => g.Allows op ∧ g.Timely issueId op)
      (GrantRun.apply issueId) (GrantRun.start numbered)
      (rematch.foldl (GrantRun.apply issueId) (GrantRun.start numbered)) := by
    refine .of_list (playMatch_allowed free ⟨⟨⟨le_rfl, by decide +kernel⟩, Or.inr ⟨by decide +kernel,
      fun pending granted => ?_⟩⟩, playMatch_allowed free ⟨⟨⟨le_rfl, by decide +kernel⟩,
        Or.inl (by decide +kernel)⟩, trivial⟩⟩)
    have none : ((playMatch 20000).foldl (GrantRun.apply issueId)
        (GrantRun.start numbered)).run.host.room.grantedMatchId = none := by decide +kernel
    rw [none] at granted
    cases granted
  exact (match_ids_once numbered_unplayed run).1

/-- The id of the second match comes again after the third has started: the next match takes it
instead of the id that was pending. -/
theorem match_id_again : ¬ ∀ (issued : Nat → MatchId) (host : HostedRoom ℚ) (g : GrantRun ℚ),
    Function.Injective issued → Unplayed issued host →
    Reach GrantRun.Allows (GrantRun.apply issued) (GrantRun.start host) g → g.run.games.Nodup := by
  intro claim
  have may : AllowedRun GrantRun.Allows (GrantRun.apply issueId) (GrantRun.start numbered)
      (playMatch 20000 ++ .grant 1 :: (playMatch 60000 ++ .grant 2 :: (playMatch 100000 ++
        .grant 3 :: .grant 1 :: (playMatch 140000 ++ [])))) :=
    playMatch_allowed (fun _ _ => id) ⟨⟨by decide, by decide +kernel⟩,
      playMatch_allowed (fun _ _ => id) ⟨⟨by decide, by decide +kernel⟩,
        playMatch_allowed (fun _ _ => id) ⟨⟨by decide, by decide +kernel⟩,
          ⟨by decide, by decide +kernel⟩, playMatch_allowed (fun _ _ => id) trivial⟩⟩⟩
  have once := claim issueId numbered _ issueId_injective numbered_unplayed (.of_list may)
  revert once
  decide +kernel

end SwitchRemake.Game

import SwitchRemake.Auth.RefreshRotation
import Mathlib.Data.List.Basic
import Mathlib.Data.List.Nodup

/-!
# Token families

A token has one successor, a family one open session, and a token that comes back after its rotation
closes its family.
-/

namespace SwitchRemake.Auth.Rotation
open Lib

variable {Hash : Type} {hash : RefreshToken → Hash} {issued : List RefreshToken}
  {rotations : List (RefreshToken × RefreshToken)} {rows rows' : List (Session Hash)}

/-! ## Rows -/

/-- The row as it was before, or revoked since. -/
structure Session.Later (row row' : Session Hash) : Prop where
  id : row'.id = row.id
  userId : row'.userId = row.userId
  hash : row'.refreshTokenHash = row.refreshTokenHash
  expiresAt : row'.expiresAt = row.expiresAt
  familyId : row'.familyId = row.familyId
  generation : row'.generation = row.generation
  unchanged : row'.revokedAt = none → row' = row

/-- A row does not expire before its token. -/
theorem buildTokens_exp (now refreshTtlSeconds userId : Nat) (email familyId : String)
    (generation securityEpoch : Nat) (sessionId : String) :
    let tokens := buildTokens now refreshTtlSeconds userId email familyId generation securityEpoch
      sessionId
    tokens.refreshToken.exp * 1000 ≤ tokens.expiresAt := by
  show (now / 1000 + refreshTtlSeconds) * 1000 ≤ now + refreshTtlSeconds * 1000
  rw [Nat.add_mul]
  exact Nat.add_le_add_right (Nat.div_mul_le_self now 1000) _

/-- The row is that of the token. -/
structure Session.Of (hash : RefreshToken → Hash) (row : Session Hash) (token : RefreshToken) :
    Prop where
  id : row.id = token.sid
  userId : row.userId = token.sub
  hash : row.refreshTokenHash = hash token
  familyId : row.familyId = token.fid
  generation : row.generation = token.gen
  expiresAt : token.exp * 1000 ≤ row.expiresAt

theorem Session.Later.refl (row : Session Hash) : row.Later row :=
  ⟨rfl, rfl, rfl, rfl, rfl, rfl, fun _ => rfl⟩

theorem Session.Of.later {row row' : Session Hash} {token : RefreshToken} (of : row.Of hash token)
    (later : row.Later row') : row'.Of hash token where
  id := later.id.trans of.id
  userId := later.userId.trans of.userId
  hash := later.hash.trans of.hash
  familyId := later.familyId.trans of.familyId
  generation := later.generation.trans of.generation
  expiresAt := later.expiresAt ▸ of.expiresAt

/-- Rows are revoked, or go together with all of their user. -/
structure Narrows (rows rows' : List (Session Hash)) : Prop where
  ids : (rows'.map Session.id).Sublist (rows.map Session.id)
  each : ∀ row' ∈ rows', ∃ row ∈ rows, row.Later row'
  keeps : ∀ row ∈ rows, ∀ row' ∈ rows', row'.userId = row.userId → ∃ kept ∈ rows', row.Later kept

theorem Narrows.refl (rows : List (Session Hash)) : Narrows rows rows where
  ids := .refl _
  each row there := ⟨row, there, .refl row⟩
  keeps row there _ _ _ := ⟨row, there, .refl row⟩

theorem Narrows.map {f : Session Hash → Session Hash} (later : ∀ row ∈ rows, row.Later (f row)) :
    Narrows rows (rows.map f) where
  ids := by
    rw [List.map_map]
    exact (List.map_congr_left fun row there => (later row there).id) ▸ .refl _
  each row' there := by
    obtain ⟨row, member, rfl⟩ := List.mem_map.mp there
    exact ⟨row, member, later row member⟩
  keeps row there _ _ _ := ⟨f row, List.mem_map_of_mem there, later row there⟩

theorem narrows_revokeWhere (p : Session Hash → Bool) (now : Nat) :
    Narrows rows (revokeWhere p now rows) := by
  refine .map fun row _ => ?_
  split
  · exact ⟨rfl, rfl, rfl, rfl, rfl, rfl, nofun⟩
  · exact .refl row

theorem narrows_deleteSessions (userId : Nat) :
    Narrows rows (rows.filter fun row => row.userId ≠ userId) where
  ids := List.filter_sublist.map _
  each row there := ⟨row, List.mem_of_mem_filter there, .refl row⟩
  keeps row there row' there' same := by
    have other : row'.userId ≠ userId := by simpa using List.of_mem_filter there'
    rw [same] at other
    exact ⟨row, List.mem_filter.mpr ⟨there, by simpa using other⟩, .refl row⟩

theorem revoked_of_revokeWhere {p : Session Hash → Bool} {now : Nat} {row : Session Hash}
    (there : row ∈ revokeWhere p now rows) (picked : p row = true) : row.revokedAt ≠ none := by
  obtain ⟨old, -, rfl⟩ := List.mem_map.mp there
  split
  · exact nofun
  · rename_i kept
    rw [if_neg kept] at picked
    exact fun open_ => kept ⟨picked, open_⟩

/-! ## The invariant of the table -/

/-- Every row is of a token that was signed, and open rows are alone in their family. -/
structure Table (hash : RefreshToken → Hash) (issued : List RefreshToken)
    (rotations : List (RefreshToken × RefreshToken)) (rows : List (Session Hash)) : Prop where
  signed : (issued.map RefreshToken.sid).Nodup
  owner : ∀ token ∈ issued, ∀ other ∈ issued, token.fid = other.fid → token.sub = other.sub
  ids : (rows.map Session.id).Nodup
  known : ∀ row ∈ rows, ∃ token ∈ issued, row.Of hash token
  single : ∀ row ∈ rows, ∀ other ∈ rows, row.familyId = other.familyId → row.revokedAt = none →
    other.revokedAt = none → row = other
  spent : ∀ rotation ∈ rotations, rotation.1 ∈ issued ∧
    ∀ row ∈ rows, row.id = rotation.1.sid → row.revokedAt ≠ none
  traced : ∀ rotation ∈ rotations, (∃ row ∈ rows, row.Of hash rotation.1) ∨
    ∀ row ∈ rows, row.familyId ≠ rotation.1.fid
  once : (rotations.map Prod.fst).Nodup

namespace Table

theorem narrow (table : Table hash issued rotations rows) (narrows : Narrows rows rows') :
    Table hash issued rotations rows' where
  signed := table.signed
  owner := table.owner
  ids := narrows.ids.nodup table.ids
  known row' there := by
    obtain ⟨row, member, later⟩ := narrows.each row' there
    obtain ⟨token, listed, of⟩ := table.known row member
    exact ⟨token, listed, of.later later⟩
  single row' there other' there' same open_ open' := by
    obtain ⟨row, member, later⟩ := narrows.each row' there
    obtain ⟨other, member', later'⟩ := narrows.each other' there'
    obtain rfl := later.unchanged open_
    obtain rfl := later'.unchanged open'
    exact table.single _ member _ member' same open_ open'
  spent rotation made := by
    obtain ⟨signed, revoked⟩ := table.spent rotation made
    refine ⟨signed, fun row' there named open_ => ?_⟩
    obtain ⟨row, member, later⟩ := narrows.each row' there
    obtain rfl := later.unchanged open_
    exact revoked _ member named open_
  traced rotation made := by
    by_cases found : ∃ row' ∈ rows', row'.familyId = rotation.1.fid
    · left
      obtain ⟨row', there, family⟩ := found
      obtain ⟨other, member', later⟩ := narrows.each row' there
      rcases table.traced rotation made with ⟨row, member, of⟩ | gone
      · obtain ⟨token, listed, other_of⟩ := table.known other member'
        -- one account owns the family, so its rows have stayed together
        have owner : token.sub = rotation.1.sub :=
          table.owner token listed rotation.1 (table.spent rotation made).1
            (other_of.familyId.symm.trans (later.familyId.symm.trans family))
        have same : row'.userId = row.userId := by
          rw [later.userId, other_of.userId, owner, of.userId]
        obtain ⟨kept, stays, later⟩ := narrows.keeps row member row' there same
        exact ⟨kept, stays, of.later later⟩
      · exact absurd (later.familyId.symm.trans family) (gone other member')
    · exact .inr fun row' there family => found ⟨row', there, family⟩
  once := table.once

/-- A new token in a new family, or in one of its account without an open row. -/
theorem extend (table : Table hash issued rotations rows) {token : RefreshToken}
    {row : Session Hash} (of : row.Of hash token) (fresh : token.sid ∉ issued.map RefreshToken.sid)
    (family : token.fid ∉ issued.map RefreshToken.fid ∨
      ∃ other ∈ rows, other.familyId = token.fid ∧ other.userId = token.sub)
    (closed : ∀ other ∈ rows, other.familyId = token.fid → other.revokedAt ≠ none) :
    Table hash (issued ++ [token]) rotations (rows ++ [row]) where
  signed := by
    rw [List.map_append, List.nodup_append]
    refine ⟨table.signed, List.nodup_singleton _, ?_⟩
    rintro sid old _ (_ | ⟨_, ⟨⟩⟩) rfl
    exact fresh old
  owner := by
    have joins : ∀ old ∈ issued, old.fid = token.fid → old.sub = token.sub := by
      intro old listed same
      rcases family with new | ⟨other, member, family, owner⟩
      · exact absurd (List.mem_map.mpr ⟨old, listed, same⟩) new
      · obtain ⟨known, listed', other_of⟩ := table.known other member
        rw [← owner, other_of.userId]
        exact table.owner old listed known listed'
          (same.trans (family.symm.trans other_of.familyId))
    intro a there b there' same
    rcases List.mem_append.mp there with old | new <;>
      rcases List.mem_append.mp there' with old' | new'
    · exact table.owner a old b old' same
    · rw [List.mem_singleton.mp new'] at same ⊢
      exact joins a old same
    · rw [List.mem_singleton.mp new] at same ⊢
      exact (joins b old' same.symm).symm
    · rw [List.mem_singleton.mp new, List.mem_singleton.mp new']
  ids := by
    rw [List.map_append, List.nodup_append]
    refine ⟨table.ids, List.nodup_singleton _, ?_⟩
    rintro sid old _ (_ | ⟨_, ⟨⟩⟩) rfl
    obtain ⟨other, member, named⟩ := List.mem_map.mp old
    obtain ⟨known, listed, other_of⟩ := table.known other member
    exact fresh (List.mem_map.mpr ⟨known, listed, other_of.id.symm.trans (named.trans of.id)⟩)
  known other there := by
    rcases List.mem_append.mp there with old | new
    · obtain ⟨known, listed, other_of⟩ := table.known other old
      exact ⟨known, List.mem_append_left _ listed, other_of⟩
    · rw [List.mem_singleton.mp new]
      exact ⟨token, List.mem_append_right _ (List.mem_singleton.mpr rfl), of⟩
  single a there b there' same openA openB := by
    rcases List.mem_append.mp there with old | new <;>
      rcases List.mem_append.mp there' with old' | new'
    · exact table.single a old b old' same openA openB
    · rw [List.mem_singleton.mp new'] at same
      exact absurd openA (closed a old (same.trans of.familyId))
    · rw [List.mem_singleton.mp new] at same
      exact absurd openB (closed b old' (same.symm.trans of.familyId))
    · rw [List.mem_singleton.mp new, List.mem_singleton.mp new']
  spent rotation made := by
    obtain ⟨signed, revoked⟩ := table.spent rotation made
    refine ⟨List.mem_append_left _ signed, fun other there named => ?_⟩
    rcases List.mem_append.mp there with old | new
    · exact revoked other old named
    · rw [List.mem_singleton.mp new] at named
      exact absurd (List.mem_map.mpr ⟨rotation.1, signed, named.symm.trans of.id⟩) fresh
  traced rotation made := by
    rcases table.traced rotation made with ⟨other, member, other_of⟩ | gone
    · exact .inl ⟨other, List.mem_append_left _ member, other_of⟩
    · refine .inr fun other there same => ?_
      rcases List.mem_append.mp there with old | new
      · exact gone other old same
      · rw [List.mem_singleton.mp new, of.familyId] at same
        rcases family with fresh' | ⟨other, member, family, -⟩
        · exact fresh' (List.mem_map.mpr ⟨rotation.1, (table.spent rotation made).1, same.symm⟩)
        · exact gone other member (family.trans same)
  once := table.once

/-- The first rotation of a token whose row is revoked. -/
theorem rotated (table : Table hash issued rotations rows) {token : RefreshToken}
    (next : RefreshToken) (signed : token ∈ issued) (first : token ∉ rotations.map Prod.fst)
    (closed : ∀ row ∈ rows, row.id = token.sid → row.revokedAt ≠ none)
    (present : ∃ row ∈ rows, row.Of hash token) :
    Table hash issued (rotations ++ [(token, next)]) rows where
  signed := table.signed
  owner := table.owner
  ids := table.ids
  known := table.known
  single := table.single
  spent rotation made := by
    rcases List.mem_append.mp made with old | new
    · exact table.spent rotation old
    · rw [List.mem_singleton.mp new]
      exact ⟨signed, closed⟩
  traced rotation made := by
    rcases List.mem_append.mp made with old | new
    · exact table.traced rotation old
    · rw [List.mem_singleton.mp new]
      exact .inl present
  once := by
    rw [List.map_append, List.nodup_append]
    refine ⟨table.once, List.nodup_singleton _, ?_⟩
    rintro other old _ (_ | ⟨_, ⟨⟩⟩) rfl
    exact first old

/-- The token of a row, found by its hash. -/
theorem of_row (table : Table hash issued rotations rows) (injective : hash.Injective)
    {row : Session Hash} (member : row ∈ rows) {token : RefreshToken}
    (hashed : row.refreshTokenHash = hash token) : token ∈ issued ∧ row.Of hash token := by
  obtain ⟨known, listed, of⟩ := table.known row member
  obtain rfl := injective (of.hash.symm.trans hashed)
  exact ⟨listed, of⟩

end Table

/-! ## The invariant of a run -/

variable {s : RefreshRun Hash} {payload : RefreshToken}

namespace RefreshRun

/-- What holds in every state of a run. -/
structure Lawful (hash : RefreshToken → Hash) (s : RefreshRun Hash) : Prop where
  table : Table hash s.issued s.rotations s.sessions
  named : ∀ id user, s.users id = some user → user.id = id
  cached : ∀ key entry, s.results key = some entry → ∃ token, hash token = key ∧
    (token, entry.value.refreshToken) ∈ s.rotations
  held : ∀ call ∈ s.calls, ∀ response, call.stage.response = some response →
    (call.token, response.refreshToken) ∈ s.rotations

theorem lawful_start : (start : RefreshRun Hash).Lawful hash where
  table := ⟨List.nodup_nil, nofun, List.nodup_nil, nofun, nofun, nofun, nofun, List.nodup_nil⟩
  named := nofun
  cached := nofun
  held := nofun

theorem Lawful.narrow (lawful : s.Lawful hash) {rows : List (Session Hash)}
    (narrows : Narrows s.sessions rows) : ({ s with sessions := rows }).Lawful hash where
  table := lawful.table.narrow narrows
  named := lawful.named
  cached := lawful.cached
  held := lawful.held

theorem Lawful.setStage (lawful : s.Lawful hash) (index : Nat) (call : RefreshCall) {stage : Stage}
    (told : ∀ response, stage.response = some response →
      (call.token, response.refreshToken) ∈ s.rotations) :
    (s.setStage index call stage).Lawful hash where
  table := lawful.table
  named := lawful.named
  cached := lawful.cached
  held other there response told' := by
    rcases List.mem_or_eq_of_mem_set there with old | rfl
    · exact lawful.held other old response told'
    · exact told response told'

/-- The response of a call after its stage was set is that of the stage. -/
theorem setStage_told {index : Nat} {call next : RefreshCall} {stage : Stage}
    {response : CachedRotationResult}
    (after : (s.setStage index call stage).calls[index]? = some next)
    (told : next.stage.response = some response) : stage.response = some response := by
  rw [setStage, List.getElem?_set_self'] at after
  obtain ⟨_, -, rfl⟩ := Option.map_eq_some_iff.mp after
  exact told

theorem Lawful.withLocks (lawful : s.Lawful hash) (locks : Hash → Cell String) :
    ({ s with locks }).Lawful hash :=
  ⟨lawful.table, lawful.named, lawful.cached, lawful.held⟩

/-- A cached answer is that of the rotation of the token. -/
theorem Lawful.answer (lawful : s.Lawful hash) (injective : hash.Injective) {token : RefreshToken}
    {response : CachedRotationResult}
    (there : (s.results (hash token)).get s.now = some response) :
    (token, response.refreshToken) ∈ s.rotations := by
  obtain ⟨entry, stored, rfl, -⟩ := Cell.eq_some_of_get there
  obtain ⟨other, same, made⟩ := lawful.cached _ entry stored
  rwa [injective same] at made

theorem Lawful.login (lawful : s.Lawful hash) {refreshTtlSeconds : Nat}
    {sessionId familyId : String}
    (newId : sessionId ∉ s.issued.map RefreshToken.sid)
    (newFamily : familyId ∉ s.issued.map RefreshToken.fid) (userId : Nat) (email : String)
    (securityEpoch : Nat) :
    (s.openSession hash s.now (buildTokens s.now refreshTtlSeconds userId email familyId 0
      securityEpoch sessionId)).Lawful hash where
  table := by
    refine lawful.table.extend ?_ newId (.inl newFamily) fun other member same => ?_
    · exact ⟨rfl, rfl, rfl, rfl, rfl, buildTokens_exp ..⟩
    · obtain ⟨known, listed, of⟩ := lawful.table.known other member
      exact absurd (List.mem_map.mpr ⟨known, listed, of.familyId.symm.trans same⟩) newFamily
  named := lawful.named
  cached := lawful.cached
  held := lawful.held

/-! ## The transaction -/

/-- What the transaction can do. -/
inductive Transacts (hash : RefreshToken → Hash) (s : RefreshRun Hash) (payload : RefreshToken) :
    RefreshResult × RefreshRun Hash → Prop where
  | refused (result : RefreshResult) (rows : List (Session Hash))
      (refused : ∀ response, result ≠ .ok response) (narrows : Narrows s.sessions rows) :
      Transacts hash s payload (result, { s with sessions := rows })
  | rotates (response : CachedRotationResult) (rows : List (Session Hash))
      (first : payload ∉ s.rotations.map Prod.fst)
      (table : Table hash (s.issued ++ [response.refreshToken])
        (s.rotations ++ [(payload, response.refreshToken)]) rows) :
      Transacts hash s payload (.ok response, { s with
        sessions := rows
        issued := s.issued ++ [response.refreshToken]
        rotations := s.rotations ++ [(payload, response.refreshToken)] })

theorem Lawful.transact (lawful : s.Lawful hash) {outcome : RefreshResult × RefreshRun Hash}
    (transacts : Transacts hash s payload outcome) : outcome.2.Lawful hash := by
  cases transacts with
  | refused result rows refused narrows => exact lawful.narrow narrows
  | rotates response rows first table =>
    refine ⟨table, lawful.named, fun key entry stored => ?_, fun call there response' told => ?_⟩
    · obtain ⟨token, same, made⟩ := lawful.cached key entry stored
      exact ⟨token, same, List.mem_append_left _ made⟩
    · exact List.mem_append_left _ (lawful.held call there response' told)

variable [DecidableEq Hash] {refreshTtlSeconds : Nat} {draw : String}

theorem rotate_transacts (lawful : s.Lawful hash) (injective : hash.Injective)
    (fresh : draw ∉ s.issued.map RefreshToken.sid) (refreshTtlSeconds : Nat)
    (payload : RefreshToken) (now : Nat) :
    Transacts hash s payload (s.rotate hash refreshTtlSeconds payload now draw) := by
  have idle (result : RefreshResult) (refused : ∀ response, result ≠ .ok response) :
      Transacts hash s payload (result, s) := .refused result s.sessions refused (.refl _)
  unfold rotate
  cases account : s.users payload.sub with
  | none => exact idle _ nofun
  | some user =>
    dsimp only
    split
    · exact idle _ nofun
    cases found : s.sessions.find? fun row =>
        decide (row.id = payload.sid ∧ row.refreshTokenHash = hash payload) with
    | none => exact idle _ nofun
    | some session =>
      have member := List.mem_of_find?_eq_some found
      have chosen : session.id = payload.sid ∧ session.refreshTokenHash = hash payload := by
        simpa using List.find?_some found
      dsimp only
      split
      · exact .refused _ _ nofun (narrows_revokeWhere _ _)
      split
      · exact idle _ nofun
      rename_i owner
      split
      · exact idle _ nofun
      split
      · exact .refused _ _ nofun (narrows_revokeWhere _ _)
      rename_i open_
      have alive : session.revokedAt = none := not_not.mp open_
      obtain ⟨signed, of⟩ := lawful.table.of_row injective member chosen.2
      have narrows : Narrows s.sessions (s.sessions.map fun row =>
          if row.id = session.id then { row with revokedAt := some now, lastUsedAt := now }
          else row) := by
        refine .map fun row _ => ?_
        split
        · exact ⟨rfl, rfl, rfl, rfl, rfl, rfl, nofun⟩
        · exact .refl row
      have closed : ∀ row ∈ s.sessions.map (fun row =>
          if row.id = session.id then { row with revokedAt := some now, lastUsedAt := now }
          else row), row.id = session.id ∨ row.familyId = session.familyId →
            row.revokedAt ≠ none := by
        intro row' there same
        obtain ⟨row, old, rfl⟩ := List.mem_map.mp there
        by_cases here : row.id = session.id
        · simp [here]
        · rw [if_neg here] at same ⊢
          intro alive'
          rcases same with same | same
          · exact here same
          · exact here (congrArg _ (lawful.table.single row old session member same alive' alive))
      have first : payload ∉ s.rotations.map Prod.fst := by
        intro spent
        obtain ⟨rotation, made, rfl⟩ := List.mem_map.mp spent
        exact (lawful.table.spent rotation made).2 session member chosen.1 alive
      let next := (buildTokens s.now refreshTtlSeconds user.id user.email session.familyId
        (session.generation + 1) user.securityEpoch draw).refreshToken
      have gone : { session with revokedAt := some now, lastUsedAt := now } ∈
          s.sessions.map fun row => if row.id = session.id then
            { row with revokedAt := some now, lastUsedAt := now } else row :=
        List.mem_map.mpr ⟨session, member, if_pos rfl⟩
      have rotated := (lawful.table.narrow narrows).rotated next signed first
        (fun row there same => closed row there (.inl (same.trans chosen.1.symm)))
        ⟨_, gone, ⟨of.id, of.userId, of.hash, of.familyId, of.generation, of.expiresAt⟩⟩
      refine .rotates ⟨_, next, _⟩ _ first (rotated.extend ?_ fresh
        (.inr ⟨_, gone, rfl, not_not.mp owner⟩)
        fun row there same => closed row there (.inr same))
      exact ⟨rfl, rfl, rfl, rfl, rfl, buildTokens_exp ..⟩

/-! ## The run -/

theorem Lawful.store (lawful : s.Lawful hash) {token : RefreshToken}
    {response : CachedRotationResult} (made : (token, response.refreshToken) ∈ s.rotations) :
    ({ s with results := fun key =>
        if key = hash token then .put s.now refreshRotationGraceMs response
        else s.results key }).Lawful hash where
  table := lawful.table
  named := lawful.named
  cached key entry stored := by
    dsimp only at stored
    split at stored
    · rename_i here
      cases stored
      exact ⟨token, here.symm, made⟩
    · exact lawful.cached key entry stored
  held := lawful.held

theorem Lawful.unlock (lawful : s.Lawful hash) (token : RefreshToken) (lockId : String)
    (env : TurnEnv) : (s.unlock hash token lockId env).Lawful hash := by
  unfold RefreshRun.unlock
  split
  · exact lawful.withLocks _
  · exact lawful

theorem Lawful.turn (lawful : s.Lawful hash) (injective : hash.Injective) (index : Nat)
    {env : TurnEnv} (fresh : env.draw ∉ s.issued.map RefreshToken.sid) :
    (s.turn hash refreshTtlSeconds index env).Lawful hash := by
  unfold RefreshRun.turn
  cases at_ : s.calls[index]? with
  | none => exact lawful
  | some call =>
    have there : call ∈ s.calls := List.mem_of_getElem? at_
    have own := lawful.held call there
    dsimp only
    cases stage : call.stage with
    | started =>
      dsimp only
      split
      · exact lawful.setStage _ _ nofun
      split
      · exact lawful.setStage _ _ nofun
      split
      · exact lawful.setStage _ _ nofun
      · exact lawful.setStage _ _ nofun
    | known =>
      refine lawful.setStage _ _ fun response told => ?_
      split at told <;> cases told
    | checked now =>
      dsimp only
      split
      · rename_i response cached
        refine lawful.setStage _ _ fun other told => ?_
        cases told
        split at cached
        · exact lawful.answer injective cached
        · cases cached
      · exact lawful.setStage _ _ nofun
    | missed now =>
      dsimp only
      have kept : ∀ response, (if env.works = true ∧
          ((s.locks (hash call.token)).get s.now).isSome = true then Stage.waiting 40
          else .locked now env.draw).response = some response →
            (call.token, response.refreshToken) ∈ s.rotations := by
        intro response told
        split at told <;> cases told
      split
      · exact (lawful.withLocks _).setStage _ _ kept
      · exact lawful.setStage _ _ kept
    | waiting attempts =>
      cases attempts with
      | zero => exact lawful.setStage _ _ nofun
      | succ attempts =>
        dsimp only
        split
        · split
          · rename_i response cached
            refine lawful.setStage _ _ fun other told => ?_
            cases told
            exact lawful.answer injective cached
          · exact lawful.setStage _ _ nofun
        · exact lawful.setStage _ _ nofun
    | locked now lockId =>
      have transacts := rotate_transacts lawful injective fresh refreshTtlSeconds call.token now
      have after := lawful.transact transacts
      dsimp only
      generalize s.rotate hash refreshTtlSeconds call.token now env.draw = outcome at transacts after
      cases transacts with
      | refused result rows refused narrows =>
        cases result with
        | ok response => exact absurd rfl (refused response)
        | invalid => exact after.setStage _ _ nofun
        | reuse familyId generation => exact after.setStage _ _ nofun
      | rotates response rows first table =>
        refine after.setStage _ _ fun other told => ?_
        cases told
        exact List.mem_append_right _ (List.mem_singleton.mpr rfl)
    | refused lockId => exact (lawful.unlock _ _ _).setStage _ _ nofun
    | rotated response lockId =>
      have mine := own response (by rw [stage]; rfl)
      have kept : ∀ other, (if env.works = true then Stage.unlocking response lockId
          else .done (some response)).response = some other →
            (call.token, other.refreshToken) ∈ s.rotations := by
        intro other told
        split at told <;> cases told <;> exact mine
      dsimp only
      split
      · exact (lawful.store mine).setStage _ _ kept
      · exact lawful.setStage _ _ kept
    | unlocking response lockId =>
      have mine := own response (by rw [stage]; rfl)
      refine (lawful.unlock _ _ _).setStage _ _ fun other told => ?_
      cases told
      unfold RefreshRun.unlock
      split <;> exact mine
    | done answer => exact lawful

theorem Lawful.apply (lawful : s.Lawful hash) (injective : hash.Injective) {op : RefreshOp}
    (may : s.Allowed op) : (s.apply hash refreshTtlSeconds op).Lawful hash := by
  cases op with
  | account id user =>
    refine ⟨lawful.table, fun other found there => ?_, lawful.cached, lawful.held⟩
    dsimp only [RefreshRun.apply] at there
    split at there
    · rename_i here
      obtain ⟨_, -, rfl⟩ := Option.map_eq_some_iff.mp there
      exact here.symm
    · exact lawful.named other found there
  | login userId sessionId familyId =>
    dsimp only [RefreshRun.apply]
    cases s.users userId with
    | none => exact lawful
    | some user =>
      dsimp only
      split
      · exact lawful.login may.1 may.2 userId user.email user.securityEpoch
      · exact lawful
  | logout userId sessionId => exact lawful.narrow (narrows_revokeWhere _ _)
  | revoke userId sessionId => exact lawful.narrow (narrows_revokeWhere _ _)
  | revokeOthers userId currentSessionId => exact lawful.narrow (narrows_revokeWhere _ _)
  | revokeAll userId => exact lawful.narrow (narrows_revokeWhere _ _)
  | deleteSessions userId => exact lawful.narrow (narrows_deleteSessions userId)
  | present token =>
    refine ⟨lawful.table, lawful.named, lawful.cached, fun call there response told => ?_⟩
    rcases List.mem_append.mp there with old | new
    · exact lawful.held call old response told
    · rw [List.mem_singleton.mp new] at told
      cases told
  | turn index env => exact lawful.turn injective index may
  | advance ms => exact ⟨lawful.table, lawful.named, lawful.cached, lawful.held⟩

theorem lawful_run (injective : hash.Injective)
    (run : Reach RefreshRun.Allowed (RefreshRun.apply hash refreshTtlSeconds) start s) :
    s.Lawful hash :=
  run.invariant lawful_start fun _ _ lawful may => lawful.apply injective may

/-! ## A token that comes back -/

variable {index : Nat} {call : RefreshCall} {env : TurnEnv}

theorem unlock_frame (s : RefreshRun Hash) (token : RefreshToken) (lockId : String) (env : TurnEnv) :
    (s.unlock hash token lockId env).sessions = s.sessions ∧
      (s.unlock hash token lockId env).issued = s.issued ∧
      (s.unlock hash token lockId env).rotations = s.rotations := by
  unfold RefreshRun.unlock
  split <;> exact ⟨rfl, rfl, rfl⟩

/-- Only the transaction writes rows. -/
theorem turn_frame (hash : RefreshToken → Hash) (refreshTtlSeconds : Nat) (env : TurnEnv)
    (there : s.calls[index]? = some call)
    (elsewhere : ∀ now lockId, call.stage ≠ .locked now lockId) :
    (s.turn hash refreshTtlSeconds index env).sessions = s.sessions ∧
      (s.turn hash refreshTtlSeconds index env).issued = s.issued ∧
      (s.turn hash refreshTtlSeconds index env).rotations = s.rotations := by
  unfold RefreshRun.turn
  rw [there]
  dsimp only
  cases stage : call.stage with
  | started =>
    dsimp only
    split
    · exact ⟨rfl, rfl, rfl⟩
    split
    · exact ⟨rfl, rfl, rfl⟩
    split <;> exact ⟨rfl, rfl, rfl⟩
  | known => exact ⟨rfl, rfl, rfl⟩
  | checked now =>
    dsimp only
    split <;> exact ⟨rfl, rfl, rfl⟩
  | missed now =>
    dsimp only
    split <;> exact ⟨rfl, rfl, rfl⟩
  | waiting attempts =>
    cases attempts with
    | zero => exact ⟨rfl, rfl, rfl⟩
    | succ attempts =>
      dsimp only
      split
      · split <;> exact ⟨rfl, rfl, rfl⟩
      · exact ⟨rfl, rfl, rfl⟩
  | locked now lockId => exact absurd stage (elsewhere now lockId)
  | refused lockId => exact unlock_frame s call.token lockId env
  | rotated response lockId =>
    dsimp only
    split <;> exact ⟨rfl, rfl, rfl⟩
  | unlocking response lockId => exact unlock_frame s call.token lockId env
  | done answer => exact ⟨rfl, rfl, rfl⟩

theorem turn_locked (hash : RefreshToken → Hash) (refreshTtlSeconds : Nat) (env : TurnEnv)
    (there : s.calls[index]? = some call) {now : Nat} {lockId : String}
    (stage : call.stage = .locked now lockId) :
    let after := (s.rotate hash refreshTtlSeconds call.token now env.draw).2
    (s.turn hash refreshTtlSeconds index env).sessions = after.sessions ∧
      (s.turn hash refreshTtlSeconds index env).issued = after.issued ∧
      (s.turn hash refreshTtlSeconds index env).rotations = after.rotations := by
  unfold RefreshRun.turn
  rw [there]
  dsimp only
  rw [stage]
  dsimp only
  split <;> (rename_i outcome; rw [outcome]; exact ⟨rfl, rfl, rfl⟩)

/-- The response of a call is one that it had, a cached one or that of its own transaction. -/
theorem turn_answer {next : RefreshCall} {response : CachedRotationResult}
    (there : s.calls[index]? = some call)
    (after : (s.turn hash refreshTtlSeconds index env).calls[index]? = some next)
    (told : next.stage.response = some response) :
    call.stage.response = some response ∨
      (s.results (hash call.token)).get s.now = some response ∨
      ∃ now lockId, call.stage = .locked now lockId ∧
        (s.rotate hash refreshTtlSeconds call.token now env.draw).1 = .ok response := by
  unfold RefreshRun.turn at after
  rw [there] at after
  dsimp only at after
  cases stage : call.stage with
  | started =>
    rw [stage] at after
    dsimp only at after
    split at after
    · cases setStage_told after told
    split at after
    · cases setStage_told after told
    split at after <;> cases setStage_told after told
  | known =>
    rw [stage] at after
    have still := setStage_told after told
    split at still <;> cases still
  | checked now =>
    rw [stage] at after
    dsimp only at after
    split at after
    · rename_i cached
      cases setStage_told after told
      split at cached
      · exact .inr (.inl cached)
      · cases cached
    · cases setStage_told after told
  | missed now =>
    rw [stage] at after
    have still := setStage_told after told
    split at still <;> cases still
  | waiting attempts =>
    rw [stage] at after
    cases attempts with
    | zero => cases setStage_told after told
    | succ attempts =>
      dsimp only at after
      split at after
      · split at after
        · rename_i cached
          cases setStage_told after told
          exact .inr (.inl cached)
        · cases setStage_told after told
      · cases setStage_told after told
  | locked now lockId =>
    rw [stage] at after
    dsimp only at after
    split at after
    · rename_i outcome
      cases setStage_told after told
      exact .inr (.inr ⟨now, lockId, rfl, congrArg Prod.fst outcome⟩)
    · cases setStage_told after told
  | refused lockId =>
    rw [stage] at after
    cases setStage_told after told
  | rotated answer lockId =>
    rw [stage] at after
    have same := setStage_told after told
    split at same <;> exact .inl same
  | unlocking answer lockId =>
    rw [stage] at after
    have same := setStage_told after told
    exact .inl same
  | done answer =>
    -- a call that is done stays as it is
    rw [stage] at after
    dsimp only at after
    rw [there] at after
    cases after
    rw [stage] at told
    exact .inl told

/-- A token that was rotated is not rotated again. -/
theorem rotate_spent (lawful : s.Lawful hash) (injective : hash.Injective)
    (fresh : draw ∉ s.issued.map RefreshToken.sid) (spent : payload ∈ s.rotations.map Prod.fst)
    (refreshTtlSeconds now : Nat) :
    let outcome := s.rotate hash refreshTtlSeconds payload now draw
    (∀ response, outcome.1 ≠ .ok response) ∧ Narrows s.sessions outcome.2.sessions ∧
      outcome.2.issued = s.issued ∧ outcome.2.rotations = s.rotations := by
  have transacts := rotate_transacts lawful injective fresh refreshTtlSeconds payload now
  dsimp only
  generalize s.rotate hash refreshTtlSeconds payload now draw = outcome at transacts
  cases transacts with
  | refused result rows refused narrows => exact ⟨refused, narrows, rfl, rfl⟩
  | rotates response rows first table => exact absurd spent first

/-- Reuse closes the family. -/
theorem rotate_reuse (lawful : s.Lawful hash) (injective : hash.Injective)
    (spent : payload ∈ s.rotations.map Prod.fst) {user : User} {now : Nat}
    (account : s.users payload.sub = some user) (active : user.active = true)
    (epoch : user.securityEpoch = payload.sev) (unexpired : now < payload.exp * 1000)
    {row : Session Hash}
    (there : row ∈ (s.rotate hash refreshTtlSeconds payload now draw).2.sessions)
    (family : row.familyId = payload.fid) : row.revokedAt ≠ none := by
  obtain ⟨rotation, made, rfl⟩ := List.mem_map.mp spent
  unfold rotate at there
  rw [account] at there
  dsimp only at there
  rw [if_neg (by simp [active, epoch])] at there
  cases found : s.sessions.find? fun row =>
      decide (row.id = rotation.1.sid ∧ row.refreshTokenHash = hash rotation.1) with
  | none =>
    rw [found] at there
    rcases lawful.table.traced rotation made with ⟨old, member, of⟩ | gone
    · have missed := List.find?_eq_none.mp found old member
      rw [decide_eq_true_iff] at missed
      exact absurd ⟨of.id, of.hash⟩ missed
    · exact absurd family (gone row there)
  | some session =>
    have member := List.mem_of_find?_eq_some found
    have chosen : session.id = rotation.1.sid ∧ session.refreshTokenHash = hash rotation.1 := by
      simpa using List.find?_some found
    obtain ⟨-, of⟩ := lawful.table.of_row injective member chosen.2
    have revoked := (lawful.table.spent rotation made).2 session member chosen.1
    have owner : session.userId = user.id := of.userId.trans (lawful.named _ user account).symm
    rw [found] at there
    dsimp only at there
    rw [if_neg (by have := of.expiresAt; omega), if_neg (not_not.mpr owner),
      if_neg (by simp [of.familyId, of.generation]), if_pos revoked] at there
    exact revoked_of_revokeWhere there (by simpa using family.trans of.familyId.symm)

/-- In every run a token has one successor and a family one open session. A turn of a call with a
token that was rotated opens nothing, answers only from the short cache, and its transaction closes
the family. -/
theorem token_families (injective : hash.Injective)
    (run : Reach RefreshRun.Allowed (RefreshRun.apply hash refreshTtlSeconds) start s) :
    (s.rotations.map Prod.fst).Nodup ∧
    (∀ call ∈ s.calls, ∀ response, call.stage.response = some response →
      (call.token, response.refreshToken) ∈ s.rotations) ∧
    (∀ row ∈ s.sessions, ∀ other ∈ s.sessions, row.familyId = other.familyId →
      row.revokedAt = none → other.revokedAt = none → row = other) ∧
    ∀ index call env, s.calls[index]? = some call → s.Allowed (.turn index env) →
      call.token ∈ s.rotations.map Prod.fst →
      let after := s.turn hash refreshTtlSeconds index env
      after.issued = s.issued ∧ after.rotations = s.rotations ∧
      (∀ row ∈ after.sessions, row.revokedAt = none → row ∈ s.sessions) ∧
      ((s.results (hash call.token)).get s.now = none → ∀ next response,
        after.calls[index]? = some next → next.stage.response = some response →
          call.stage.response = some response) ∧
      ∀ now lockId user, call.stage = .locked now lockId → s.users call.token.sub = some user →
        user.active = true → user.securityEpoch = call.token.sev → now < call.token.exp * 1000 →
          ∀ row ∈ after.sessions, row.familyId = call.token.fid → row.revokedAt ≠ none := by
  have lawful := lawful_run injective run
  refine ⟨lawful.table.once, lawful.held, lawful.table.single, ?_⟩
  intro index call env there fresh spent
  dsimp only
  by_cases stage : ∃ now lockId, call.stage = .locked now lockId
  · obtain ⟨now, lockId, stage⟩ := stage
    obtain ⟨refused, narrows, issued, rotations⟩ :=
      rotate_spent lawful injective fresh spent refreshTtlSeconds now
    obtain ⟨rows, signed, made⟩ :=
      turn_locked hash refreshTtlSeconds env there stage
    rw [rows, signed, made]
    refine ⟨issued, rotations, fun row member open_ => ?_, fun uncached next response after told => ?_,
      fun now' lockId' user stage' account active epoch unexpired row member family => ?_⟩
    · obtain ⟨old, member', later⟩ := narrows.each row member
      exact later.unchanged open_ ▸ member'
    · rcases turn_answer there after told with had | cached | ⟨now', lockId', stage', rotates⟩
      · exact had
      · rw [uncached] at cached
        cases cached
      · rw [stage] at stage'
        cases stage'
        exact absurd rotates (refused response)
    · rw [stage] at stage'
      cases stage'
      exact rotate_reuse lawful injective spent account active epoch unexpired member family
  · have elsewhere : ∀ now lockId, call.stage ≠ .locked now lockId :=
      fun now lockId same => stage ⟨now, lockId, same⟩
    obtain ⟨rows, signed, made⟩ := turn_frame hash refreshTtlSeconds env there elsewhere
    refine ⟨signed, made, fun row member _ => rows ▸ member, fun uncached next response after told => ?_,
      fun now lockId user here => absurd here (elsewhere now lockId)⟩
    rcases turn_answer there after told with had | cached | ⟨now, lockId, here, -⟩
    · exact had
    · rw [uncached] at cached
      cases cached
    · exact absurd here (elsewhere now lockId)

/-! ## Two families of an account -/

def firstToken : RefreshToken := ⟨1, "player@example.com", "a", "A", 0, 0, 3600⟩

/-- An account logs in twice, and its first token is rotated. Out of the grace it comes back. -/
def comesBack : List RefreshOp :=
  let works (draw : String) : TurnEnv := ⟨true, true, true, draw⟩
  [.account 1 (some ⟨1, "player@example.com", "Player", true, 0⟩), .login 1 "a" "A",
    .login 1 "b" "B", .present firstToken] ++ List.replicate 5 (.turn 0 (works "c")) ++
    [.turn 0 (works "d"), .turn 0 (works "d"), .advance 10001, .present firstToken] ++
    List.replicate 4 (.turn 1 (works "d"))

def returned : RefreshRun RefreshToken := comesBack.foldl (RefreshRun.apply id 3600) start

theorem returned_reach :
    Reach RefreshRun.Allowed (RefreshRun.apply id 3600) (start : RefreshRun RefreshToken) returned :=
  Reach.of_list (by decide +kernel)

def returnedCall : RefreshCall := ⟨firstToken, .locked 10001 "d"⟩

theorem token_families_returned :
    ((returned.turn id 3600 1 ⟨true, true, true, "d"⟩).sessions.filter fun row =>
      row.familyId = "A" ∧ row.revokedAt = none) = [] := by
  have facts := (token_families Function.injective_id returned_reach).2.2.2 1 returnedCall
    ⟨true, true, true, "d"⟩ (by decide +kernel) (by decide +kernel) (by decide +kernel)
  have closed := facts.2.2.2.2 10001 "d" ⟨1, "player@example.com", "Player", true, 0⟩ rfl
    (by decide +kernel) rfl rfl (by decide +kernel)
  refine List.filter_eq_nil_iff.mpr fun row member picked => ?_
  have both := of_decide_eq_true picked
  exact closed row member both.1 both.2

/-- Reuse leaves the other login of the account open. -/
theorem other_family_stays : ¬ ∀ s : RefreshRun RefreshToken,
    Reach RefreshRun.Allowed (RefreshRun.apply id 3600) start s →
    ∀ index call env now lockId, s.calls[index]? = some call → s.Allowed (.turn index env) →
      call.token ∈ s.rotations.map Prod.fst → (s.results (id call.token)).get s.now = none →
      call.stage = .locked now lockId →
      ∀ row ∈ (s.turn id 3600 index env).sessions, row.userId = call.token.sub →
        row.revokedAt ≠ none := by
  intro closes
  have closed := closes returned returned_reach 1 returnedCall ⟨true, true, true, "d"⟩ 10001 "d"
    (by decide +kernel) (by decide +kernel) (by decide +kernel) (by decide +kernel) rfl
  have stays : ¬ ∀ row ∈ (returned.turn id 3600 1 ⟨true, true, true, "d"⟩).sessions,
      row.userId = 1 → row.revokedAt ≠ none := by decide +kernel
  exact stays closed

end RefreshRun

end SwitchRemake.Auth.Rotation

import SwitchRemake.Simulation.Step

/-!
# What a phase leaves alone

The role of a player is its slot and its two flags. Everything a tick does, apart from a successful
Switch, a tag and a forced rotation, leaves every role as it was.
-/

namespace SwitchRemake.Simulation
open Lib

variable {K : Type}

def role (p : PlayerState K) : Nat × Bool × Bool := (p.playerId, p.alive, p.isTagger)

def SameRoles (w v : World K) : Prop := v.players.map role = w.players.map role

theorem SameRoles.refl (w : World K) : SameRoles w w := rfl

theorem SameRoles.trans {w v u : World K} (first : SameRoles w v) (second : SameRoles v u) :
    SameRoles w u :=
  Eq.trans second first

theorem map_role {f : PlayerState K → PlayerState K} {players : List (PlayerState K)}
    (keeps : ∀ p ∈ players, role (f p) = role p) :
    (players.map f).map role = players.map role := by
  rw [List.map_map]
  exact List.map_congr_left keeps

theorem update_sameRoles (w : World K) (id : Nat) {f : PlayerState K → PlayerState K}
    (keeps : ∀ p, role (f p) = role p) : SameRoles w (w.update id f) := by
  apply map_role
  intro p _
  by_cases hit : p.playerId = id
  · simpa only [hit, if_true] using keeps p
  · simp only [hit, if_false]

theorem ids_of_roles {players others : List (PlayerState K)}
    (same : others.map role = players.map role) :
    others.map PlayerState.playerId = players.map PlayerState.playerId := by
  simpa only [List.map_map, Function.comp_def, role] using congrArg (List.map Prod.fst) same

theorem SameRoles.distinct {w v : World K} (same : SameRoles w v)
    (distinct : DistinctIds w.players) : DistinctIds v.players := by
  rw [DistinctIds, ids_of_roles same]
  exact distinct

theorem find_some {w : World K} {id : Nat} {p : PlayerState K} (found : w.find id = some p) :
    p ∈ w.players ∧ p.playerId = id :=
  ⟨List.mem_of_find?_eq_some found, by simpa using List.find?_some found⟩

theorem find_of_mem {w : World K} (distinct : DistinctIds w.players) {p : PlayerState K}
    (member : p ∈ w.players) : w.find p.playerId = some p := by
  have present : (w.find p.playerId).isSome := by
    rw [World.find, List.find?_isSome]
    exact ⟨p, member, by simp⟩
  obtain ⟨q, found⟩ := Option.isSome_iff_exists.mp present
  obtain ⟨other, same⟩ := find_some found
  rw [found, List.inj_on_of_nodup_map distinct other member same]

@[simp] theorem role_withStats (f : MatchStats → MatchStats) (p : PlayerState K) :
    role (withStats f p) = role p := rfl

theorem sortById_distinct {players : List (PlayerState K)} (distinct : DistinctIds players)
    (keep : PlayerState K → Bool) :
    DistinctIds (sortById PlayerState.playerId (players.filter keep)) := by
  have sorted := (sortById_perm PlayerState.playerId (players.filter keep)).map PlayerState.playerId
  exact sorted.nodup_iff.mpr (distinct.sublist (List.filter_sublist.map _))

/-- The timeline writes the map and nothing else. -/
theorem applyMapTimeline_frame (w : World K) :
    ∃ tiles changes, applyMapTimeline w =
      { w with map := { w.map with tiles := tiles }, tileChanges := changes } := by
  unfold applyMapTimeline
  generalize w.map.timeline w.tick = changes
  induction changes generalizing w with
  | nil => exact ⟨w.map.tiles, w.tileChanges, rfl⟩
  | cons c rest ih =>
    rw [List.foldl_cons]
    unfold applyTileChange
    split
    · exact ih w
    · obtain ⟨tiles, changes, equal⟩ := ih
        { w with
          map := { w.map with tiles := writeTile w.map.tiles c }
          tileChanges := w.tileChanges ++ [c] }
      exact ⟨tiles, changes, equal⟩

variable [JsNumber K]

/-! ## Effects, cooldowns and emojis -/

@[simp] theorem role_applyEffect (w : World K) (p : PlayerState K) (type : EffectType)
    (magnitude durationMs : K) : role (applyEffect w p type magnitude durationMs) = role p := rfl

@[simp] theorem role_startCooldown (w : World K) (p : PlayerState K) (skill : SkillId)
    (cooldownMs : K) : role (startCooldown w p skill cooldownMs) = role p := rfl

@[simp] theorem role_grantTaggerFrenzy (w : World K) (p : PlayerState K) :
    role (grantTaggerFrenzy w p) = role p := rfl

theorem role_extendFrenzyOnTag (w : World K) (p : PlayerState K) :
    role (extendFrenzyOnTag w p) = role p := by
  unfold extendFrenzyOnTag
  split <;> rfl

theorem role_integrate (p : PlayerState K) (input : ResolvedInput K) :
    role (integrate p input).1 = role p := by
  unfold integrate
  dsimp only
  split <;> rfl

theorem beginTick_sameRoles (w : World K) : SameRoles w (beginTick w) :=
  map_role fun _ _ => rfl

theorem showEmoji_sameRoles (w : World K) (request : EmojiRequest) :
    SameRoles w (showEmoji w request) := by
  unfold showEmoji
  split
  · rfl
  · exact update_sameRoles w _ fun _ => rfl

/-! ## Movement and push-apart -/

theorem role_movePlayer (map : WorldMap K) (storm : StormRect K) (inputs : List (ResolvedInput K))
    (p : PlayerState K) : role (movePlayer map storm inputs p) = role p := by
  unfold movePlayer
  split
  · rfl
  · cases inputById inputs p.playerId with
    | none => rfl
    | some input => exact role_integrate p input

/-- Only the positions of the two players change. -/
theorem pushApart_moves (a b : PlayerState K) :
    ∃ (aX aY bX bY : K) (touched : Bool),
      pushApart a b = ({ a with x := aX, y := aY }, { b with x := bX, y := bY }, touched) := by
  unfold pushApart
  dsimp only
  split
  · exact ⟨a.x, a.y, b.x, b.y, false, rfl⟩
  · split <;> exact ⟨_, _, _, _, true, rfl⟩

/-- A player without its position. -/
def unplaced (p : PlayerState K) : PlayerState K := { p with x := 0, y := 0 }

theorem map_of_unplaced {β : Type} {f : PlayerState K → β} (blind : ∀ p, f (unplaced p) = f p)
    {players others : List (PlayerState K)}
    (same : others.map unplaced = players.map unplaced) : others.map f = players.map f := by
  have images := congrArg (List.map f) same
  simpa only [List.map_map, Function.comp_def, blind] using images

theorem pushRow_unplaced (a : PlayerState K) (players : List (PlayerState K)) :
    unplaced (pushRow a players).1 = unplaced a ∧
      (pushRow a players).2.1.map unplaced = players.map unplaced := by
  induction players generalizing a with
  | nil => exact ⟨rfl, rfl⟩
  | cons b rest ih =>
    obtain ⟨aX, aY, bX, bY, touched, pushed⟩ := pushApart_moves a b
    obtain ⟨first, others⟩ := ih { a with x := aX, y := aY }
    simp only [pushRow, pushed, List.map_cons, others]
    exact ⟨first, rfl⟩

theorem pushRows_unplaced (rows : Nat) (players : List (PlayerState K)) :
    (pushRows rows players).1.map unplaced = players.map unplaced := by
  induction rows generalizing players with
  | zero => rfl
  | succ rows ih =>
    cases players with
    | nil => rfl
    | cons a rest =>
      obtain ⟨first, others⟩ := pushRow_unplaced a rest
      simp only [pushRows, List.map_cons, ih, first, others]

theorem resolvePlayerCollisions_unplaced {players : List (PlayerState K)}
    (distinct : DistinctIds players) {p q : PlayerState K} (member : p ∈ players)
    (pushed : q ∈ (resolvePlayerCollisions players).1) (same : q.playerId = p.playerId) :
    unplaced q = unplaced p := by
  have image : unplaced q ∈ (resolvePlayerCollisions players).1.map unplaced :=
    List.mem_map_of_mem pushed
  rw [resolvePlayerCollisions, pushRows_unplaced] at image
  obtain ⟨source, origin, equal⟩ := List.mem_map.mp image
  have origin := (List.mem_filter.mp (mem_sortById.mp origin)).1
  have sameId : source.playerId = p.playerId :=
    (congrArg PlayerState.playerId equal).trans same
  rw [← equal, List.inj_on_of_nodup_map distinct origin member sameId]

theorem collide_unplaced (map : WorldMap K) (storm : StormRect K) {players : List (PlayerState K)}
    (distinct : DistinctIds players) :
    (collide map storm players).1.map unplaced = players.map unplaced := by
  simp only [collide, List.map_map]
  apply List.map_congr_left
  intro p member
  by_cases alive : p.alive
  · simp only [Function.comp_apply, alive, not_true_eq_false, if_false]
    cases found : (resolvePlayerCollisions players).1.find? (fun q => q.playerId = p.playerId) with
    | none => rfl
    | some q =>
      have same : q.playerId = p.playerId := by simpa using List.find?_some found
      have pushed : q ∈ (resolvePlayerCollisions players).1 := List.mem_of_find?_eq_some found
      have kept := resolvePlayerCollisions_unplaced distinct member pushed same
      exact kept
  · simp only [Function.comp_apply, alive, not_false_eq_true, if_true, Bool.false_eq_true]

theorem collide_distinct (map : WorldMap K) (storm : StormRect K) {players : List (PlayerState K)}
    (distinct : DistinctIds players) : DistinctIds (collide map storm players).1 := by
  rw [DistinctIds, map_of_unplaced (fun _ => rfl) (collide_unplaced map storm distinct)]
  exact distinct

theorem settle_unplaced (map : WorldMap K) (storm : StormRect K) (passes : Nat)
    {players : List (PlayerState K)} (distinct : DistinctIds players) :
    (settle map storm passes players).map unplaced = players.map unplaced := by
  induction passes generalizing players with
  | zero => rfl
  | succ passes ih =>
    unfold settle
    dsimp only
    split
    · exact collide_unplaced map storm distinct
    · rw [ih (collide_distinct map storm distinct), collide_unplaced map storm distinct]

theorem runCollisions_unplaced (map : WorldMap K) (storm : StormRect K)
    {players : List (PlayerState K)} (distinct : DistinctIds players) :
    (runCollisions map storm players).1.map unplaced = players.map unplaced := by
  unfold runCollisions
  dsimp only
  split
  · exact collide_unplaced map storm distinct
  · rw [settle_unplaced map storm _ (collide_distinct map storm distinct),
      collide_unplaced map storm distinct]

theorem moveAll_frame (w : World K) (inputs : List (ResolvedInput K)) :
    ∃ tiles changes storm players, (moveAll w inputs).1 =
      { w with
        map := { w.map with tiles := tiles }, tileChanges := changes, storm := storm
        players := players } := by
  obtain ⟨tiles, changes, equal⟩ := applyMapTimeline_frame w
  exact ⟨tiles, changes, _, _, by unfold moveAll; rw [equal]⟩

theorem moveAll_sameRoles {w : World K} (distinct : DistinctIds w.players)
    (inputs : List (ResolvedInput K)) : SameRoles w (moveAll w inputs).1 := by
  obtain ⟨tiles, changes, equal⟩ := applyMapTimeline_frame w
  have moves (storm : StormRect K) (map : WorldMap K) :
      (w.players.map (movePlayer map storm inputs)).map role = w.players.map role :=
    map_role fun p _ => role_movePlayer map storm inputs p
  unfold SameRoles moveAll
  rw [equal]
  dsimp only
  rw [map_of_unplaced (fun _ => rfl) (runCollisions_unplaced _ _ ?_), moves]
  rw [DistinctIds, ids_of_roles (moves _ _)]
  exact distinct

/-! ## Contact pairs -/

theorem pushRow_pairs (a : PlayerState K) (players : List (PlayerState K)) {pair : CollisionPair}
    (member : pair ∈ (pushRow a players).2.2) :
    pair.a = a.playerId ∧ ∃ b ∈ players, pair.b = b.playerId := by
  induction players generalizing a with
  | nil => simp [pushRow] at member
  | cons b rest ih =>
    obtain ⟨aX, aY, bX, bY, touched, pushed⟩ := pushApart_moves a b
    simp only [pushRow, pushed] at member
    have later (inner : pair ∈ (pushRow { a with x := aX, y := aY } rest).2.2) :
        pair.a = a.playerId ∧ ∃ c ∈ b :: rest, pair.b = c.playerId := by
      obtain ⟨first, c, other, second⟩ := ih _ inner
      exact ⟨first, c, List.mem_cons_of_mem b other, second⟩
    cases touched with
    | false => exact later (by simpa using member)
    | true =>
      rcases List.mem_cons.mp (by simpa using member) with rfl | inner
      · exact ⟨rfl, b, List.mem_cons_self, rfl⟩
      · exact later inner

/-- A contact joins two different slots. -/
theorem pushRows_pairs (rows : Nat) {players : List (PlayerState K)}
    (distinct : DistinctIds players) {pair : CollisionPair}
    (member : pair ∈ (pushRows rows players).2) : pair.a ≠ pair.b := by
  induction rows generalizing players with
  | zero => simp [pushRows] at member
  | succ rows ih =>
    cases players with
    | nil => simp [pushRows] at member
    | cons a rest =>
      rw [DistinctIds, List.map_cons, List.nodup_cons] at distinct
      simp only [pushRows, List.mem_append] at member
      rcases member with row | later
      · obtain ⟨first, b, other, second⟩ := pushRow_pairs a rest row
        rw [first, second]
        intro equal
        exact distinct.1 (equal ▸ List.mem_map_of_mem other)
      · refine ih ?_ later
        rw [DistinctIds, map_of_unplaced (fun _ => rfl) (pushRow_unplaced a rest).2]
        exact distinct.2

theorem moveAll_pairs {w : World K} (distinct : DistinctIds w.players)
    (inputs : List (ResolvedInput K)) {pair : CollisionPair} (member : pair ∈ (moveAll w inputs).2) :
    pair.a ≠ pair.b := by
  obtain ⟨tiles, changes, equal⟩ := applyMapTimeline_frame w
  unfold moveAll runCollisions collide resolvePlayerCollisions at member
  rw [equal] at member
  refine pushRows_pairs _ (sortById_distinct ?_ _) member
  rw [DistinctIds, ids_of_roles (map_role fun p _ => role_movePlayer _ _ inputs p)]
  exact distinct

/-! ## A role handed over -/

/-- The world in which a player has been drawn for the role. -/
def World.handTo (w : World K) (picked : Nat) (state : BitVec 32) : World K :=
  let flagged : World K :=
    { w with
      players := w.players.map fun p => { p with isTagger := p.playerId = picked }
      taggerChangedAtTick := w.tick
      randomState := state }
  flagged.update picked (grantTaggerFrenzy w)

/-- What that does to one player. -/
def World.handed (w : World K) (picked : Nat) (p : PlayerState K) : PlayerState K :=
  let q := { p with isTagger := p.playerId = picked }
  if q.playerId = picked then grantTaggerFrenzy w q else q

theorem handTo_players (w : World K) (picked : Nat) (state : BitVec 32) :
    (w.handTo picked state).players = w.players.map (w.handed picked) := by
  simp only [World.handTo, World.update, List.map_map]
  rfl

@[simp] theorem handed_playerId (w : World K) (picked : Nat) (p : PlayerState K) :
    (w.handed picked p).playerId = p.playerId := by
  unfold World.handed
  dsimp only
  split <;> rfl

@[simp] theorem handed_alive (w : World K) (picked : Nat) (p : PlayerState K) :
    (w.handed picked p).alive = p.alive := by
  unfold World.handed
  dsimp only
  split <;> rfl

@[simp] theorem handed_isTagger (w : World K) (picked : Nat) (p : PlayerState K) :
    (w.handed picked p).isTagger = decide (p.playerId = picked) := by
  unfold World.handed
  dsimp only
  split <;> rfl

@[simp] theorem handed_stats (w : World K) (picked : Nat) (p : PlayerState K) :
    (w.handed picked p).stats = p.stats := by
  unfold World.handed
  dsimp only
  split <;> rfl

/-- A rotation changes nothing, or it hands the role to a candidate. -/
theorem rotateTaggerIfStale_eq (w : World K) (events : List (WorldEvent K)) :
    rotateTaggerIfStale w events = (w, events) ∨
      ∃ picked ∈ rotationCandidates w, ∃ state, rotateTaggerIfStale w events =
        (w.handTo picked.playerId state, events ++ [.tagged picked.playerId none]) := by
  unfold rotateTaggerIfStale
  split
  · exact .inl rfl
  · obtain ⟨state, drawn⟩ := nextRandomInt_world w (rotationCandidates w).length
    dsimp only
    rw [drawn]
    split
    · exact .inl rfl
    · rename_i picked found
      exact .inr ⟨picked, List.mem_of_getElem? found, state, rfl⟩

end SwitchRemake.Simulation

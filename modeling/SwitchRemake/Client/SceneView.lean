import SwitchRemake.Client.WorldScene

/-!
# What a scene shows

A view is what a run of frames says: the last map with its changes, the last list of players. The scene
of the client shows exactly its view.
-/

namespace SwitchRemake.Client
open Lib Simulation Wire
open Protocol (effectBits)

/-- A drawn player. A scene with a simulation rate moves a sprite along its samples; the newest one is
where the frames have put it. -/
structure Look (K : Type) where
  position : Option (K × K)
  facingX : K
  facingY : K
  colorIndex : K
  obscured : Bool
  isTagger : Bool
  isSelf : Bool
  effects : EffectType → Option K
  deriving DecidableEq

variable {K : Type} [JsNumber K]

namespace WorldScene

def newest (s : WorldScene K) (id : K) : Option (K × K) :=
  ((samplesOf s.entityPositionBuffers id).getLast?).map fun sample => (sample.x, sample.y)

def lookOf (s : WorldScene K) (sprite : PlayerSprite K) : Look K :=
  { position := if s.simulationHz.isSome then s.newest sprite.id else some (sprite.x, sprite.y)
    facingX := sprite.facingX
    facingY := sprite.facingY
    colorIndex := sprite.colorIndex
    obscured := sprite.obscured
    isTagger := sprite.isTagger
    isSelf := sprite.isSelf
    effects := sprite.effects }

def look (s : WorldScene K) (id : K) : Option (Look K) := (s.players.get? id).map s.lookOf

end WorldScene

/-! ## Views -/

structure SceneView (K : Type) where
  tick : Option K
  map : Option (SnapshotMap K)
  tileAlphas : List (TileAlpha K)
  storm : Option (Storm K)
  selfId : Option K
  players : List (SnapshotPlayer K)
  /-- No lower tick has come since the list of players. -/
  placed : Bool

namespace SceneView

def fresh : SceneView K := ⟨none, none, [], none, none, [], false⟩

/-- An absent section leaves its part, the map and the players are replaced, changes are patched in. -/
def apply (v : SceneView K) (s : Snapshot K) : SceneView K :=
  { tick := some s.tick
    map := setTiles (s.map.or v.map) (s.tileChanges.getD [])
    tileAlphas := s.tileAlphas.getD v.tileAlphas
    storm := s.storm.getD v.storm
    selfId := s.selfId.or v.selfId
    players := s.players.getD v.players
    placed := s.players.isSome || (v.placed && !v.tick.any (s.tick < ·)) }

def lookOf (v : SceneView K) (paced : Bool) (p : SnapshotPlayer K) : Look K :=
  { position := if paced && !v.placed then none else some (p.x, p.y)
    facingX := p.facingX
    facingY := p.facingY
    colorIndex := p.colorIndex
    obscured := p.obscured
    isTagger := p.isTagger
    isSelf := v.selfId = some p.id
    effects := p.effects }

/-- The entry of a list that counts for a player. -/
def entryOf (players : List (SnapshotPlayer K)) (id : K) : Option (SnapshotPlayer K) :=
  (players.filter (·.id = id)).getLast?

def look (v : SceneView K) (paced : Bool) (id : K) : Option (Look K) :=
  (entryOf v.players id).map (v.lookOf paced)

end SceneView

/-- The rate a scene runs at after its first frame. -/
def rateOf (simulationHz : Option K) : Option K := simulationHz.filter (0 < ·)

/-- The scene shows the view. -/
structure Depicts (simulationHz : Option K) (s : WorldScene K) (v : SceneView K) : Prop where
  map : s.map = v.map
  tileAlphas : s.tileAlphas = setTileAlphas v.tileAlphas
  storm : s.storm = v.storm
  selfId : s.selfId = v.selfId
  tick : s.latestSnapshotTick = v.tick
  rate : s.simulationHz = rateOf simulationHz ∨
    s.simulationHz = none ∧ v.tick = none ∧ v.players = []
  look : ∀ id, s.look id = v.look (rateOf simulationHz).isSome id

/-! ## The samples -/

theorem getLast?_bufferPosition (maxDistance : K) (existing : List (PositionSample K))
    (forceSnap : Bool) (next : PositionSample K) :
    (bufferPosition maxDistance existing forceSnap next).1.getLast? = some next := by
  unfold bufferPosition
  split
  · rfl
  · dsimp only
    split
    · rfl
    · split
      · simp
      · simp [List.getLast?_drop, maxSamplesPerEntity]

theorem samplesOf_set (buffers : PositionBuffers K) (entity : EntityPositions K) (id : K) :
    samplesOf (buffers.set entity) id = if id = entity.id then entity.samples else samplesOf buffers id := by
  rw [samplesOf, KeyedList.get?_set]
  split <;> rfl

theorem entryOf_append (players : List (SnapshotPlayer K)) (p : SnapshotPlayer K) (id : K) :
    SceneView.entryOf (players ++ [p]) id =
      if p.id = id then some p else SceneView.entryOf players id := by
  by_cases same : p.id = id <;> simp [SceneView.entryOf, List.filter_append, same]

theorem newest_buffered (maxDistance : K) (previous : PositionBuffers K) (tick : K)
    (forceSnapIds : List K) (players : List (SnapshotPlayer K)) (id : K) :
    (samplesOf (bufferEntityPositions maxDistance previous tick forceSnapIds players).1 id).getLast? =
      (SceneView.entryOf players id).map fun p => ⟨tick, p.x, p.y⟩ := by
  induction players using List.reverseRecOn with
  | nil => rfl
  | append_singleton players p ih =>
    rw [bufferEntityPositions, List.foldl_append, ← bufferEntityPositions, List.foldl_cons,
      List.foldl_nil, entryOf_append, samplesOf_set]
    by_cases same : p.id = id
    · simp [same, bufferEntity, getLast?_bufferPosition]
    · simp only [same, Ne.symm same, if_false, ih]

/-! ## Drawing the players of a list -/

namespace WorldScene

variable {s : WorldScene K} {snaps : K → Bool} {p : SnapshotPlayer K} {id : K}

/-- What the players and their names do not touch. -/
def board (s : WorldScene K) :=
  (s.map, s.tileAlphas, s.storm, s.selfId, s.latestSnapshotTick, s.simulationHz)

/-- The sprite of the own player is marked, and no other. -/
def Marked (s : WorldScene K) : Prop :=
  ∀ id sprite, s.players.get? id = some sprite → sprite.isSelf = decide (s.selfId = some id)

/-- The sprite looks as the entry says. -/
structure Painted (selfId : Option K) (snaps : K → Bool) (sprite : PlayerSprite K)
    (p : SnapshotPlayer K) : Prop where
  id : sprite.id = p.id
  place : snaps p.id = true → sprite.x = p.x ∧ sprite.y = p.y
  facingX : sprite.facingX = p.facingX
  facingY : sprite.facingY = p.facingY
  colorIndex : sprite.colorIndex = p.colorIndex
  obscured : sprite.obscured = p.obscured
  isTagger : sprite.isTagger = p.isTagger
  isSelf : sprite.isSelf = decide (selfId = some p.id)
  effects : sprite.effects = p.effects

theorem board_drawPlayer : (s.drawPlayer snaps p).board = s.board := by
  unfold drawPlayer
  dsimp only
  split <;> rfl

theorem buffers_drawPlayer :
    (s.drawPlayer snaps p).entityPositionBuffers = s.entityPositionBuffers := by
  unfold drawPlayer
  dsimp only
  split <;> rfl

theorem drawPlayer_other (other : id ≠ p.id) :
    (s.drawPlayer snaps p).players.get? id = s.players.get? id := by
  unfold drawPlayer
  dsimp only
  rw [KeyedList.get?_modify, if_neg other]
  split
  · rfl
  · simp [spawnPlayer, KeyedList.get?_set, other]

theorem all_effects (type : EffectType) : type ∈ effectBits := by
  cases type <;> decide

theorem follow_painted {base : PlayerSprite K} (here : base.id = p.id)
    (own : base.isSelf = decide (s.selfId = some p.id)) :
    Painted s.selfId snaps (base.follow (snaps p.id) p) p where
  id := here
  place snapped := by simp [PlayerSprite.follow, snapped]
  facingX := rfl
  facingY := rfl
  colorIndex := rfl
  obscured := rfl
  isTagger := rfl
  isSelf := own
  effects := by
    funext type
    exact if_pos (all_effects type)

theorem drawPlayer_painted (marked : s.Marked) : ∃ sprite,
    (s.drawPlayer snaps p).players.get? p.id = some sprite ∧ Painted s.selfId snaps sprite p := by
  unfold drawPlayer
  dsimp only
  rw [KeyedList.get?_modify, if_pos rfl]
  split
  · rename_i drawn
    rw [KeyedList.has_eq_isSome] at drawn
    obtain ⟨base, here⟩ := Option.isSome_iff_exists.mp drawn
    rw [here, Option.map_some]
    exact ⟨_, rfl, follow_painted (KeyedList.mem_of_get? here).2 (marked p.id base here)⟩
  · simp only [spawnPlayer, KeyedList.get?_set, if_true, Option.map_some]
    exact ⟨_, rfl, follow_painted rfl rfl⟩

theorem self_of_board {t : WorldScene K} (same : t.board = s.board) : t.selfId = s.selfId := by
  simp only [board, Prod.mk.injEq] at same
  exact same.2.2.2.1

theorem rate_of_board {t : WorldScene K} (same : t.board = s.board) :
    t.simulationHz = s.simulationHz := by
  simp only [board, Prod.mk.injEq] at same
  exact same.2.2.2.2.2

theorem drawPlayer_marked (marked : s.Marked) : (s.drawPlayer snaps p).Marked := by
  intro id sprite here
  rw [self_of_board board_drawPlayer]
  by_cases same : id = p.id
  · subst same
    obtain ⟨drawn, found, painted⟩ : ∃ sprite, _ ∧ Painted s.selfId snaps sprite p :=
      drawPlayer_painted marked
    rw [found] at here
    cases here
    exact painted.isSelf
  · rw [drawPlayer_other same] at here
    exact marked id sprite here

/-- After the whole list a player looks as its last entry says. -/
theorem Marked.drawn_players (marked : s.Marked) (snaps : K → Bool) (players : List (SnapshotPlayer K)) :
    let drawn := players.foldl (fun scene p => scene.drawPlayer snaps p) s
    drawn.board = s.board ∧ drawn.entityPositionBuffers = s.entityPositionBuffers ∧ drawn.Marked ∧
      ∀ id p, SceneView.entryOf players id = some p →
        ∃ sprite, drawn.players.get? id = some sprite ∧ Painted s.selfId snaps sprite p := by
  induction players using List.reverseRecOn with
  | nil => exact ⟨rfl, rfl, marked, nofun⟩
  | append_singleton players p ih =>
    obtain ⟨board, buffers, kept, painted⟩ := ih
    simp only [List.foldl_append, List.foldl_cons, List.foldl_nil]
    refine ⟨board_drawPlayer.trans board, buffers_drawPlayer.trans buffers, drawPlayer_marked kept,
      fun id q entry => ?_⟩
    rw [entryOf_append] at entry
    split at entry
    · rename_i same
      cases entry
      obtain ⟨sprite, here, looks⟩ : ∃ sprite, _ ∧ Painted _ snaps sprite p := drawPlayer_painted kept
      rw [self_of_board board] at looks
      exact ⟨sprite, same ▸ here, looks⟩
    · rename_i other
      rw [drawPlayer_other (Ne.symm other)]
      exact painted id q entry

theorem board_removePlayer (id : K) : (s.removePlayer id).board = s.board := by
  unfold removePlayer
  split <;> rfl

theorem removed_players (ids : List K) : (ids.foldl removePlayer s).board = s.board ∧
    ∀ id, (ids.foldl removePlayer s).players.get? id =
        (if id ∈ ids then none else s.players.get? id) ∧
      (id ∉ ids → samplesOf (ids.foldl removePlayer s).entityPositionBuffers id =
        samplesOf s.entityPositionBuffers id) := by
  induction ids generalizing s with
  | nil => exact ⟨rfl, fun id => ⟨rfl, fun _ => rfl⟩⟩
  | cons gone ids ih =>
    obtain ⟨board, each⟩ := ih (s := s.removePlayer gone)
    refine ⟨board.trans (board_removePlayer gone), fun id => ⟨?_, fun stays => ?_⟩⟩
    · rw [List.foldl_cons, (each id).1]
      have removed : (s.removePlayer gone).players.get? id =
          if id = gone then none else s.players.get? id := by
        have found := KeyedList.has_eq_isSome s.players gone
        unfold removePlayer
        split
        · exact KeyedList.get?_delete _ _ _
        · rename_i absent
          rw [Bool.eq_false_iff.mpr absent] at found
          split
          · rename_i same
            rw [same]
            exact Option.isSome_eq_false_iff.mp found.symm |> Option.isNone_iff_eq_none.mp
          · rfl
      rw [removed]
      by_cases here : id = gone <;> by_cases later : id ∈ ids <;> simp [here, later]
    · rw [List.mem_cons, not_or] at stays
      rw [List.foldl_cons, (each id).2 stays.2]
      unfold removePlayer
      split
      · rw [samplesOf, KeyedList.get?_delete, if_neg stays.1]
        rfl
      · rfl

theorem entryOf_eq_none {players : List (SnapshotPlayer K)} :
    SceneView.entryOf players id = none ↔ id ∉ players.map SnapshotPlayer.id := by
  simp [SceneView.entryOf]

/-- The look of a painted sprite. -/
theorem lookOf_painted {t : WorldScene K} (snaps : K → Bool) {selfId : Option K} {sprite : PlayerSprite K}
    (painted : Painted selfId (fun id => !t.simulationHz.isSome || snaps id) sprite p)
    (newest : t.simulationHz.isSome = true → t.newest p.id = some (p.x, p.y)) :
    t.lookOf sprite =
      { position := some (p.x, p.y), facingX := p.facingX, facingY := p.facingY
        colorIndex := p.colorIndex, obscured := p.obscured, isTagger := p.isTagger
        isSelf := selfId = some p.id, effects := p.effects } := by
  have position : (if t.simulationHz.isSome then t.newest sprite.id else some (sprite.x, sprite.y)) =
      some (p.x, p.y) := by
    split
    · rename_i paced
      rw [painted.id, newest paced]
    · rename_i direct
      obtain ⟨x, y⟩ := painted.place (by simp [direct])
      rw [x, y]
  simp only [lookOf, position, painted.facingX, painted.facingY, painted.colorIndex,
    painted.obscured, painted.isTagger, painted.isSelf, painted.effects]

/-- A list of players decides who is drawn, and how. -/
theorem look_applyPlayers (marked : s.Marked) (tick : K) (players : List (SnapshotPlayer K)) :
    (s.applyPlayers tick players).board = s.board ∧
      ∀ id, (s.applyPlayers tick players).look id = (SceneView.entryOf players id).map fun p =>
        { position := some (p.x, p.y), facingX := p.facingX, facingY := p.facingY
          colorIndex := p.colorIndex, obscured := p.obscured, isTagger := p.isTagger
          isSelf := s.selfId = some p.id, effects := p.effects } := by
  let buffered := bufferEntityPositions (JsNumber.ofRat maxInterpolationDistancePx)
    s.entityPositionBuffers tick s.pendingBlinks players
  let framed : WorldScene K :=
    if s.simulationHz.isSome then { s with entityPositionBuffers := buffered.1 } else s
  let snaps : K → Bool := fun id => !s.simulationHz.isSome || id ∈ buffered.2
  let drawn := players.foldl (fun scene p => scene.drawPlayer snaps p) framed
  let gone := (drawn.players.entries.map PlayerSprite.id).filter (· ∉ players.map SnapshotPlayer.id)
  have same : framed.board = s.board ∧ framed.players = s.players := by
    unfold framed
    split <;> exact ⟨rfl, rfl⟩
  have self : framed.selfId = s.selfId := self_of_board same.1
  have framedMarked : framed.Marked := by
    intro id sprite here
    rw [self]
    exact marked id sprite (same.2 ▸ here)
  obtain ⟨board, buffers, -, painted⟩ := framedMarked.drawn_players snaps players
  obtain ⟨keptBoard, kept⟩ := removed_players gone (s := drawn)
  have whole : (s.applyPlayers tick players).board = s.board := (keptBoard.trans board).trans same.1
  refine ⟨whole, fun id => ?_⟩
  have player : (s.applyPlayers tick players).players.get? id =
      if id ∈ gone then none else drawn.players.get? id := (kept id).1
  have listed : id ∈ gone → id ∉ players.map SnapshotPlayer.id := fun member => by
    simpa using (List.mem_filter.mp member).2
  rw [look, player]
  cases entry : SceneView.entryOf players id with
  | none =>
    have unlisted := entryOf_eq_none.mp entry
    split
    · rfl
    · rename_i stays
      cases found : drawn.players.get? id with
      | none => rfl
      | some sprite =>
        obtain ⟨member, key⟩ := KeyedList.mem_of_get? found
        refine absurd (List.mem_filter.mpr ⟨List.mem_map.mpr ⟨sprite, member, key⟩, ?_⟩) stays
        simpa using unlisted
  | some p =>
    have stays : id ∉ gone := fun member => by
      have none := entryOf_eq_none.mpr (listed member)
      rw [entry] at none
      cases none
    have key : p.id = id := by
      have member := List.mem_of_getLast? entry
      simpa using (List.mem_filter.mp member).2
    obtain ⟨sprite, here, looks⟩ := painted id p entry
    rw [if_neg stays, here, Option.map_some, Option.map_some]
    have rate := rate_of_board whole
    rw [self] at looks
    refine congrArg some (lookOf_painted (· ∈ buffered.2) (rate ▸ looks) fun paced => ?_)
    have samples : samplesOf (s.applyPlayers tick players).entityPositionBuffers id =
        samplesOf buffered.1 id := by
      refine ((kept id).2 stays).trans ?_
      rw [show drawn.entityPositionBuffers = framed.entityPositionBuffers from buffers]
      rw [rate] at paced
      simp only [framed, if_pos paced]
    rw [newest, key, samples, newest_buffered, entry]
    rfl

/-- Without samples a sprite that moves along them is nowhere. -/
theorem look_cleared (tick : Option K) :
    ({ s with entityPositionBuffers := .empty, latestSnapshotTick := tick } : WorldScene K).look id =
      (s.look id).map fun look =>
        { look with position := if s.simulationHz.isSome then none else look.position } := by
  rw [look, look, Option.map_map]
  refine congrArg (Option.map · _) (funext fun sprite => ?_)
  simp only [lookOf, Function.comp_apply]
  cases s.simulationHz <;> rfl

theorem look_applyName (entry : RosterName K) : (s.applyName entry).look id = s.look id := by
  unfold applyName
  split
  · simp only [look, KeyedList.get?_modify]
    split
    · rw [Option.map_map]
      rfl
    · rfl
  · rfl

theorem board_applyName (entry : RosterName K) : (s.applyName entry).board = s.board := by
  unfold applyName
  split <;> rfl

theorem roster_looks (entries : List (RosterName K)) :
    (entries.foldl applyName s).board = s.board ∧
      ∀ id, (entries.foldl applyName s).look id = s.look id := by
  induction entries generalizing s with
  | nil => exact ⟨rfl, fun _ => rfl⟩
  | cons entry entries ih =>
    obtain ⟨board, looks⟩ := ih (s := s.applyName entry)
    exact ⟨board.trans (board_applyName entry), fun id => (looks id).trans (look_applyName entry)⟩

theorem look_markSelf (own : K) (isSelf : Bool) :
    (s.markSelf own isSelf).look id =
      if id = own then (s.look id).map fun look => { look with isSelf } else s.look id := by
  simp only [look, markSelf, KeyedList.get?_modify]
  split
  · rw [Option.map_map, Option.map_map]
    rfl
  · rfl

/-- Of the marks only that of the own player is left. -/
theorem look_setSelf (marked : s.Marked) (own : K) :
    (s.setSelf own).look id = (s.look id).map fun look => { look with isSelf := some own = some id } := by
  have cleared : (s.selfId.elim s fun previous => s.markSelf previous false).look id =
      (s.look id).map fun look => { look with isSelf := false } := by
    cases found : s.players.get? id with
    | none =>
      have none : s.look id = none := by rw [look, found, Option.map_none]
      cases s.selfId with
      | none => rw [Option.elim_none, none, Option.map_none]
      | some previous => simp [look_markSelf, none]
    | some sprite =>
      have shows : s.look id = some (s.lookOf sprite) := by rw [look, found, Option.map_some]
      have mark : (s.lookOf sprite).isSelf = decide (s.selfId = some id) := marked id sprite found
      cases self : s.selfId with
      | none =>
        rw [self] at mark
        rw [Option.elim_none, shows, Option.map_some, ← show (s.lookOf sprite).isSelf = false by simpa using mark]
      | some previous =>
        rw [self] at mark
        rw [Option.elim_some, look_markSelf, shows]
        split
        · rfl
        · rename_i other
          rw [Option.map_some, ← show (s.lookOf sprite).isSelf = false by
            simpa [Ne.symm other] using mark]
  refine (look_markSelf own true).trans ?_
  have same : ({ (s.selfId.elim s fun previous => s.markSelf previous false) with
      selfId := some own } : WorldScene K).look id =
      (s.selfId.elim s fun previous => s.markSelf previous false).look id := rfl
  rw [same, cleared, Option.map_map]
  by_cases here : id = own
  · subst here
    simp [Function.comp_def]
  · simp [here, Ne.symm here]

end WorldScene

/-! ## The scene shows its view -/

namespace SceneView

def entered (v : SceneView K) (tick : K) : SceneView K :=
  { v with tick := some tick, placed := v.placed && !v.tick.any (tick < ·) }

def tiled (v : SceneView K) (s : Snapshot K) : SceneView K :=
  { v with
    map := setTiles (s.map.or v.map) (s.tileChanges.getD [])
    tileAlphas := s.tileAlphas.getD v.tileAlphas
    storm := s.storm.getD v.storm }

def listed (v : SceneView K) (players : List (SnapshotPlayer K)) : SceneView K :=
  { v with players, placed := true }

theorem look_unplaced {v : SceneView K} (tick : Option K) (paced : Bool) (id : K) :
    ({ v with tick := tick, placed := false } : SceneView K).look paced id =
      (v.look paced id).map fun look =>
        { look with position := if paced then none else look.position } := by
  rw [look, look, Option.map_map]
  refine congrArg (Option.map · _) (funext fun p => ?_)
  simp only [lookOf, Function.comp_apply]
  cases paced <;> rfl

theorem apply_eq (v : SceneView K) (s : Snapshot K) :
    v.apply s =
      let own := s.selfId.elim ((v.entered s.tick).tiled s) fun id =>
        { (v.entered s.tick).tiled s with selfId := some id }
      s.players.elim own own.listed := by
  unfold apply
  cases s.selfId <;> cases s.players <;> simp [entered, tiled, listed]

end SceneView

namespace Depicts

variable {simulationHz : Option K} {s : WorldScene K} {v : SceneView K}

theorem fresh : Depicts simulationHz (WorldScene.fresh : WorldScene K) SceneView.fresh where
  map := rfl
  tileAlphas := rfl
  storm := rfl
  selfId := rfl
  tick := rfl
  rate := .inr ⟨rfl, rfl, rfl⟩
  look _ := rfl

theorem marked (shows : Depicts simulationHz s v) : s.Marked := by
  intro id sprite here
  have look := shows.look id
  rw [WorldScene.look, here, Option.map_some, SceneView.look] at look
  obtain ⟨p, entry, same⟩ := Option.map_eq_some_iff.mp look.symm
  have key : p.id = id := by
    have member := List.mem_of_getLast? entry
    simpa using (List.mem_filter.mp member).2
  have mark : decide (v.selfId = some p.id) = sprite.isSelf := congrArg Look.isSelf same
  rw [← mark, key, shows.selfId]

theorem entered (shows : Depicts simulationHz s v) (tick : K) :
    Depicts simulationHz (s.enterTimeline tick simulationHz) (v.entered tick) ∧
      (s.enterTimeline tick simulationHz).simulationHz = rateOf simulationHz := by
  rcases shows.rate with paced | ⟨unpaced, untimed, empty⟩
  · have steady : s.enterTimeline tick simulationHz =
        { s with
          entityPositionBuffers :=
            if v.tick.any (tick < ·) then .empty else s.entityPositionBuffers
          latestSnapshotTick := some tick } := by
      unfold WorldScene.enterTimeline
      rw [← shows.tick]
      cases simulationHz with
      | none => rfl
      | some hz =>
        dsimp only
        rw [if_neg]
        rintro ⟨positive, changes⟩
        exact changes (paced.trans (by simp [rateOf, Option.filter, positive])).symm
    rw [steady]
    refine ⟨⟨shows.map, shows.tileAlphas, shows.storm, shows.selfId, rfl, .inl paced, fun id => ?_⟩,
      paced⟩
    cases lower : v.tick.any (tick < ·) with
    | false =>
      have kept : v.entered tick = { v with tick := some tick } := by
        simp [SceneView.entered, lower]
      rw [kept]
      exact shows.look id
    | true =>
      have unplaced : v.entered tick = { v with tick := some tick, placed := false } := by
        simp [SceneView.entered, lower]
      rw [unplaced]
      refine (WorldScene.look_cleared (some tick)).trans ?_
      rw [shows.look, paced]
      exact (SceneView.look_unplaced (some tick) _ id).symm
  · have undrawn (id : K) : s.players.get? id = none := by
      have look := shows.look id
      rw [SceneView.look, empty] at look
      exact Option.map_eq_none_iff.mp look
    have untouched : (s.enterTimeline tick simulationHz).map = s.map ∧
        (s.enterTimeline tick simulationHz).tileAlphas = s.tileAlphas ∧
        (s.enterTimeline tick simulationHz).storm = s.storm ∧
        (s.enterTimeline tick simulationHz).selfId = s.selfId ∧
        (s.enterTimeline tick simulationHz).players = s.players := by
      unfold WorldScene.enterTimeline
      cases simulationHz with
      | none => exact ⟨rfl, rfl, rfl, rfl, rfl⟩
      | some hz =>
        dsimp only
        split <;> exact ⟨rfl, rfl, rfl, rfl, rfl⟩
    have rate : (s.enterTimeline tick simulationHz).simulationHz = rateOf simulationHz := by
      unfold WorldScene.enterTimeline
      cases simulationHz with
      | none => exact unpaced
      | some hz =>
        dsimp only
        rw [unpaced]
        by_cases positive : (0 : K) < hz <;> simp [rateOf, Option.filter, positive, unpaced]
    obtain ⟨map, tileAlphas, storm, selfId, players⟩ := untouched
    refine ⟨⟨map.trans shows.map, tileAlphas.trans shows.tileAlphas, storm.trans shows.storm,
      selfId.trans shows.selfId, rfl, .inl rate, fun id => ?_⟩, rate⟩
    rw [WorldScene.look, players, undrawn id, SceneView.look, SceneView.entered, empty]
    rfl

theorem tiled (shows : Depicts simulationHz s v) (snapshot : Snapshot K) :
    Depicts simulationHz (s.applyTiles snapshot) (v.tiled snapshot) where
  map := by
    simp only [WorldScene.applyTiles, SceneView.tiled, shows.map]
    cases snapshot.tileChanges with
    | none => cases snapshot.map.or v.map <;> rfl
    | some changes => rfl
  tileAlphas := by
    simp only [WorldScene.applyTiles, SceneView.tiled, shows.tileAlphas]
    cases snapshot.tileAlphas <;> rfl
  storm := by simp only [WorldScene.applyTiles, SceneView.tiled, shows.storm]
  selfId := shows.selfId
  tick := shows.tick
  rate := shows.rate
  look := shows.look

theorem own (shows : Depicts simulationHz s v) (id : K) :
    Depicts simulationHz (s.setSelf id) { v with selfId := some id } where
  map := by
    rw [← shows.map, WorldScene.setSelf]
    cases s.selfId <;> rfl
  tileAlphas := by
    rw [← shows.tileAlphas, WorldScene.setSelf]
    cases s.selfId <;> rfl
  storm := by
    rw [← shows.storm, WorldScene.setSelf]
    cases s.selfId <;> rfl
  selfId := rfl
  tick := by
    rw [← shows.tick, WorldScene.setSelf]
    cases s.selfId <;> rfl
  rate := by
    have rate : (s.setSelf id).simulationHz = s.simulationHz := by
      rw [WorldScene.setSelf]
      cases s.selfId <;> rfl
    rw [rate]
    exact shows.rate
  look player := by
    rw [WorldScene.look_setSelf shows.marked, shows.look, SceneView.look, SceneView.look,
      Option.map_map]
    refine Option.map_congr fun p entry => ?_
    have key : p.id = player := by
      have member := List.mem_of_getLast? entry
      simpa using (List.mem_filter.mp member).2
    rw [← key]
    rfl

/-- The parts that are not players, from a scene with the same board. -/
theorem of_board {t : WorldScene K} (shows : Depicts simulationHz s v) (same : t.board = s.board)
    (look : ∀ id, t.look id = s.look id) : Depicts simulationHz t v := by
  simp only [WorldScene.board, Prod.mk.injEq] at same
  obtain ⟨map, tileAlphas, storm, selfId, tick, rate⟩ := same
  exact ⟨map.trans shows.map, tileAlphas.trans shows.tileAlphas, storm.trans shows.storm,
    selfId.trans shows.selfId, tick.trans shows.tick, rate ▸ shows.rate,
    fun id => (look id).trans (shows.look id)⟩

theorem named (shows : Depicts simulationHz s v) (entries : List (RosterName K)) :
    Depicts simulationHz (entries.foldl WorldScene.applyName s) v :=
  have ⟨board, looks⟩ := WorldScene.roster_looks entries
  shows.of_board board looks

theorem listed (shows : Depicts simulationHz s v) (rate : s.simulationHz = rateOf simulationHz)
    (tick : K) (players : List (SnapshotPlayer K)) :
    Depicts simulationHz (s.applyPlayers tick players) (v.listed players) := by
  obtain ⟨board, looks⟩ := WorldScene.look_applyPlayers shows.marked tick players
  simp only [WorldScene.board, Prod.mk.injEq] at board
  obtain ⟨map, tileAlphas, storm, selfId, time, pace⟩ := board
  refine ⟨map.trans shows.map, tileAlphas.trans shows.tileAlphas, storm.trans shows.storm,
    selfId.trans shows.selfId, time.trans shows.tick, .inl (pace.trans rate), fun id => ?_⟩
  rw [looks, SceneView.look, shows.selfId]
  refine congrArg (Option.map · _) (funext fun p => ?_)
  simp only [SceneView.lookOf, SceneView.listed, Bool.not_true, Bool.and_false]
  rfl

/-- One frame changes the scene as it changes the view. -/
theorem apply (shows : Depicts simulationHz s v) (snapshot : Snapshot K) :
    Depicts simulationHz (s.applySnapshot snapshot simulationHz) (v.apply snapshot) := by
  obtain ⟨entered, rate⟩ := shows.entered snapshot.tick
  have tiled := entered.tiled snapshot
  have own : Depicts simulationHz
      (snapshot.selfId.elim ((s.enterTimeline snapshot.tick simulationHz).applyTiles snapshot)
        ((s.enterTimeline snapshot.tick simulationHz).applyTiles snapshot).setSelf)
      (snapshot.selfId.elim ((v.entered snapshot.tick).tiled snapshot) fun id =>
        { (v.entered snapshot.tick).tiled snapshot with selfId := some id }) ∧
      (snapshot.selfId.elim ((s.enterTimeline snapshot.tick simulationHz).applyTiles snapshot)
        ((s.enterTimeline snapshot.tick simulationHz).applyTiles snapshot).setSelf).simulationHz =
          rateOf simulationHz := by
    cases snapshot.selfId with
    | none => exact ⟨tiled, rate⟩
    | some id =>
      refine ⟨tiled.own id, ?_⟩
      rw [← rate, Option.elim_some, WorldScene.setSelf]
      cases ((s.enterTimeline snapshot.tick simulationHz).applyTiles snapshot).selfId <;> rfl
  have named := own.1.named (snapshot.roster.getD [])
  have paced := (WorldScene.rate_of_board (WorldScene.roster_looks (snapshot.roster.getD [])).1).trans
    own.2
  rw [SceneView.apply_eq, WorldScene.applySnapshot]
  cases snapshot.players with
  | none => exact named
  | some players => exact named.listed paced snapshot.tick players

end Depicts
end SwitchRemake.Client

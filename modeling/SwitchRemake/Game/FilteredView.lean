import SwitchRemake.Game.SnapshotView
import SwitchRemake.Simulation.Roles

/-!
# What a filtered snapshot tells

`computeVisibility` and `canSeePlayer` are two paths through the same test. Where slots are
distinct they agree, and a filtered snapshot is a function of what they let through.
-/

namespace SwitchRemake.Game
open Lib Simulation Visibility Protocol

variable {K : Type}

theorem find_toVisibilityWorld (w : World K) (id : Nat) :
    (toVisibilityWorld w).find id = (w.find id).map toActor := by
  show (w.players.map toActor).find? _ = _
  rw [List.find?_map]
  rfl

theorem contains_ids {w : World K} (distinct : DistinctIds w.players) {p : PlayerState K} (member : p ∈ w.players)
    (keep : VisibilityActor K → Bool) :
    ((((w.players.map toActor).filter keep).map VisibilityActor.playerId).contains p.playerId) =
      keep (toActor p) := by
  rw [Bool.eq_iff_iff, List.contains_iff_mem]
  constructor
  · intro listed
    obtain ⟨actor, kept, same⟩ := List.mem_map.mp listed
    obtain ⟨shown, holds⟩ := List.mem_filter.mp kept
    obtain ⟨q, other, rfl⟩ := List.mem_map.mp shown
    rwa [← List.inj_on_of_nodup_map distinct other member same]
  · intro holds
    apply List.mem_map.mpr
    exact ⟨toActor p, List.mem_filter.mpr ⟨List.mem_map_of_mem member, holds⟩, rfl⟩

variable [JsNumber K]

theorem sees_players (v : VisibilityWorld K) (players : List (VisibilityActor K)) :
    sees { v with players } = sees v := rfl

theorem isConcealed_players (v : VisibilityWorld K) (players : List (VisibilityActor K)) :
    isConcealed { v with players } = isConcealed v := rfl

/-- The players `canSeePlayer` lets the viewer see, in the order of the world. -/
def seenPlayers (w : World K) (viewerId : Nat) : List (PlayerState K) :=
  w.players.filter fun p => canSeePlayer (toVisibilityWorld w) viewerId p.playerId

section Agreement
variable {w : World K} {viewer : PlayerState K} {viewerId : Nat}

theorem canSeePlayer_mem (distinct : DistinctIds w.players)
    (self : w.find viewerId = some viewer) {p : PlayerState K} (member : p ∈ w.players) :
    canSeePlayer (toVisibilityWorld w) viewerId p.playerId =
      sees (toVisibilityWorld w) (toActor viewer) (toActor p) := by
  unfold canSeePlayer
  rw [find_toVisibilityWorld, find_toVisibilityWorld, self, find_of_mem distinct member]
  rfl

theorem visible_contains (distinct : DistinctIds w.players)
    (self : w.find viewerId = some viewer) {p : PlayerState K} (member : p ∈ w.players) :
    (computeVisibility (toVisibilityWorld w) viewerId).visiblePlayerIds.contains p.playerId =
      sees (toVisibilityWorld w) (toActor viewer) (toActor p) := by
  unfold computeVisibility
  rw [find_toVisibilityWorld, self]
  exact contains_ids distinct member _

theorem obscured_contains (distinct : DistinctIds w.players)
    (self : w.find viewerId = some viewer) {p : PlayerState K} (member : p ∈ w.players) :
    (computeVisibility (toVisibilityWorld w) viewerId).obscuredPlayerIds.contains p.playerId =
      (isConcealed (toVisibilityWorld w) (toActor p) &&
        sees (toVisibilityWorld w) (toActor viewer) (toActor p)) := by
  unfold computeVisibility
  rw [find_toVisibilityWorld, self]
  show ((((w.players.map toActor).filter _).filter _).map _).contains _ = _
  rw [List.filter_filter]
  exact contains_ids distinct member _

theorem sees_alive {v : VisibilityWorld K} {a b : VisibilityActor K} (seen : sees v a b = true) :
    b.alive = true := by
  unfold sees at seen
  by_contra dead
  simp [dead] at seen

/-- The two paths agree: the players of a filtered snapshot are those of `canSeePlayer`. -/
theorem filter_visible (distinct : DistinctIds w.players) (viewerId : Nat) :
    (w.players.filter fun p => p.alive &&
      (computeVisibility (toVisibilityWorld w) viewerId).visiblePlayerIds.contains p.playerId) =
      seenPlayers w viewerId := by
  apply List.filter_congr
  intro p member
  cases self : w.find viewerId with
  | none =>
    have blind : (toVisibilityWorld w).find viewerId = none := by
      rw [find_toVisibilityWorld, self]
      rfl
    simp [computeVisibility, canSeePlayer, blind]
  | some viewer =>
    rw [visible_contains distinct self member, canSeePlayer_mem distinct self member]
    cases seen : sees (toVisibilityWorld w) (toActor viewer) (toActor p) with
    | false => exact Bool.and_false _
    | true =>
      rw [Bool.and_true]
      exact sees_alive seen

theorem obscured_of_seen (distinct : DistinctIds w.players) {p : PlayerState K}
    (seen : p ∈ seenPlayers w viewerId) :
    (computeVisibility (toVisibilityWorld w) viewerId).obscuredPlayerIds.contains p.playerId =
      isConcealed (toVisibilityWorld w) (toActor p) := by
  obtain ⟨member, visible⟩ := List.mem_filter.mp seen
  cases self : w.find viewerId with
  | none => simp [canSeePlayer, find_toVisibilityWorld, self] at visible
  | some viewer =>
    rw [canSeePlayer_mem distinct self member] at visible
    rw [obscured_contains distinct self member, visible, Bool.and_true]

end Agreement

/-! ## A filtered snapshot as a function of what the viewer may know -/

/-- What a filtered viewer may know of a frame. -/
structure SameView (viewerId : Nat) (frame other : AuthoritativeFrame K) : Prop where
  tick : other.tick = frame.tick
  simulationHz : other.world.simulationHz = frame.world.simulationHz
  cols : other.world.map.cols = frame.world.map.cols
  rows : other.world.map.rows = frame.world.map.rows
  tileSize : other.world.map.tileSize = frame.world.map.tileSize
  tiles : other.world.map.tiles = frame.world.map.tiles
  storm : other.world.storm = frame.world.storm
  tileChanges : other.world.tileChanges = frame.world.tileChanges
  self : other.world.find viewerId = frame.world.find viewerId
  seen : seenPlayers other.world viewerId = seenPlayers frame.world viewerId

variable {viewerId : Nat} {frame other : AuthoritativeFrame K}

theorem filtered_players (distinct : DistinctIds frame.world.players) (viewerId : Nat) (full : Bool)
    (roster : List RosterEntry) (changes : Option (List TileChange)) :
    (buildSnapshot frame ⟨some viewerId, .filtered, full⟩ roster changes).players =
      some ((seenPlayers frame.world viewerId).map fun p =>
        toSnapshotPlayer p (isConcealed (toVisibilityWorld frame.world) (toActor p)) frame.tick
          frame.world.simulationHz) := by
  unfold buildSnapshot
  dsimp only
  rw [filter_visible distinct viewerId]
  congr 1
  apply List.map_congr_left
  intro p seen
  rw [obscured_of_seen distinct seen]

theorem SameView.sharedSections (same : SameView viewerId frame other) (full : Bool)
    (roster : List RosterEntry) (changes : Option (List TileChange)) :
    Game.sharedSections other full roster (changes.getD other.world.tileChanges) =
      Game.sharedSections frame full roster (changes.getD frame.world.tileChanges) := by
  unfold Game.sharedSections
  dsimp only
  rw [same.tick, same.storm, same.cols, same.rows, same.tiles, same.tileChanges]

/-- The two frames show the core the same map, and may differ in its players. -/
theorem SameView.visibilityWorld (same : SameView viewerId frame other) :
    toVisibilityWorld other.world =
      { toVisibilityWorld frame.world with players := other.world.players.map toActor } := by
  unfold toVisibilityWorld
  dsimp only
  rw [same.cols, same.rows, same.tileSize, same.tiles]

theorem SameView.tileAlphas (same : SameView viewerId frame other) :
    (computeVisibility (toVisibilityWorld other.world) viewerId).tileAlphas =
      (computeVisibility (toVisibilityWorld frame.world) viewerId).tileAlphas := by
  unfold computeVisibility
  rw [find_toVisibilityWorld, find_toVisibilityWorld, same.self, same.visibilityWorld]
  cases frame.world.find viewerId with
  | none => rfl
  | some viewer => rfl

theorem SameView.buildSnapshot (distinct : DistinctIds frame.world.players)
    (otherDistinct : DistinctIds other.world.players) (same : SameView viewerId frame other)
    (full : Bool) (roster : List RosterEntry) (changes : Option (List TileChange)) :
    Game.buildSnapshot other ⟨some viewerId, .filtered, full⟩ roster changes =
      Game.buildSnapshot frame ⟨some viewerId, .filtered, full⟩ roster changes := by
  have players := filtered_players otherDistinct viewerId full roster changes
  rw [same.seen, same.visibilityWorld, isConcealed_players, same.tick, same.simulationHz,
    ← filtered_players distinct viewerId full roster changes] at players
  unfold Game.buildSnapshot at players ⊢
  dsimp only at players ⊢
  rw [players, same.tileAlphas, same.sharedSections, same.self, same.simulationHz]

/-- Two frames that differ in what the viewer cannot see are sent as the same bytes, and a filtered
snapshot shows nobody whom `canSeePlayer` hides. -/
theorem filtered_snapshot_noLeak (distinct : DistinctIds frame.world.players)
    (otherDistinct : DistinctIds other.world.players) (same : SameView viewerId frame other)
    (full : Bool) (roster : List RosterEntry) (changes : Option (List TileChange)) :
    encodeForViewer other ⟨some viewerId, .filtered, full⟩ roster changes =
        encodeForViewer frame ⟨some viewerId, .filtered, full⟩ roster changes ∧
      ∀ shown ∈ (buildSnapshot frame ⟨some viewerId, .filtered, full⟩ roster changes).players.getD [],
        canSeePlayer (toVisibilityWorld frame.world) viewerId shown.id = true := by
  constructor
  · unfold encodeForViewer
    rw [same.buildSnapshot distinct otherDistinct full roster changes]
  · intro shown listed
    rw [filtered_players distinct viewerId full roster changes] at listed
    obtain ⟨p, seen, rfl⟩ := List.mem_map.mp listed
    exact (List.mem_filter.mp seen).2

/-- The first player in a corner of an empty map, the second out of its sight. -/
def strangerAt (x : ℚ) : AuthoritativeFrame ℚ :=
  let player (id : Nat) (x : ℚ) (isTagger : Bool) : PlayerState ℚ :=
    { playerId := id, x, y := 128, vx := 0, vy := 0, facingX := 0, facingY := 1
      radius := Gameplay.playerRadiusPx, sightRange := Gameplay.sightRangePx, colorIndex := id - 1
      alive := true, isTagger, connected := true, effects := fun _ => none
      cooldowns := fun _ => none, loadout := .dash, emoji := none, stats := emptyStats }
  let map : WorldMap ℚ :=
    { mapId := "corridor", cols := 64, rows := 1, tileSize := tilePx
      tiles := [List.replicate 64 .floor], barrierSpeed := 1, timeline := fun _ => [] }
  let world : World ℚ :=
    { tick := 7, simulationHz := Network.simulationHz, map
      players := [player 1 128 true, player 2 x false]
      storm := none, tileChanges := [⟨3, 0, .bush⟩], taggerChangedAtTick := 0, randomState := 1 }
  { tick := 7, world, events := [], skillRejections := [] }

theorem filtered_snapshot_noLeak_strangerAt :
    encodeForViewer (strangerAt 9000) ⟨some 1, .filtered, true⟩ [⟨1, "a"⟩, ⟨2, "b"⟩] none =
      encodeForViewer (strangerAt 8000) ⟨some 1, .filtered, true⟩ [⟨1, "a"⟩, ⟨2, "b"⟩] none :=
  have same : SameView 1 (strangerAt 8000) (strangerAt 9000) :=
    { tick := rfl, simulationHz := rfl, cols := rfl, rows := rfl, tileSize := rfl, tiles := rfl
      storm := rfl, tileChanges := rfl, self := by decide +kernel, seen := by decide +kernel }
  (filtered_snapshot_noLeak (by decide +kernel) (by decide +kernel) same true _ none).1

end SwitchRemake.Game

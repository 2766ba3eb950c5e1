import SwitchRemake.Simulation.TilePush

/-!
# Pushes out of a wall

Exact arithmetic, a single wall on the map. When `resolveWallCollision` takes a circle out of it.
-/

namespace SwitchRemake.Simulation
open Lib

/-- One tile of the map is solid, and at least one tile lies between it and each border. -/
structure OneWall (map : WorldMap ℝ) (wall : Int × Int) : Prop where
  size : 0 < map.tileSize
  columns : 1 ≤ wall.1 ∧ wall.1 + 2 ≤ map.cols
  rows : 1 ≤ wall.2 ∧ wall.2 + 2 ≤ map.rows
  only (tile : Int × Int) : 0 ≤ tile.1 → 0 ≤ tile.2 → tile.1 < map.cols → tile.2 < map.rows →
    (isSolid map tile = true ↔ tile = wall)

noncomputable def mapWidth (map : WorldMap ℝ) : ℝ := map.cols * map.tileSize

noncomputable def mapHeight (map : WorldMap ℝ) : ℝ := map.rows * map.tileSize

/-- The centre is at the radius or more from every border. -/
structure Placed (map : WorldMap ℝ) (radius : ℝ) (p : ℝ × ℝ) : Prop where
  positive : 0 < radius
  small : radius < map.tileSize
  left : radius ≤ p.1
  right : p.1 + radius ≤ mapWidth map
  top : radius ≤ p.2
  bottom : p.2 + radius ≤ mapHeight map

variable {map : WorldMap ℝ} {wall tile : Int × Int} {radius : ℝ} {p q : ℝ × ℝ}

/-! ## What is solid around a circle -/

theorem isSolid_right (beyond : map.cols ≤ tile.1) : isSolid map tile = true := by
  simp [isSolid, beyond]

theorem isSolid_below (beyond : map.rows ≤ tile.2) : isSolid map tile = true := by
  simp [isSolid, beyond]

theorem OneWall.solid (one : OneWall map wall) : isSolid map wall = true :=
  (one.only wall (by have := one.columns; omega) (by have := one.rows; omega)
    (by have := one.columns; omega) (by have := one.rows; omega)).mpr rfl

theorem abs_gap_le_tileDist (map : WorldMap ℝ) (p : ℝ × ℝ) (tile : Int × Int) :
    |(tileGap map p tile).1| ≤ tileDist map p tile ∧
      |(tileGap map p tile).2| ≤ tileDist map p tile := by
  have square := tileGap_sq map p tile
  have first := mul_self_nonneg (tileGap map p tile).1
  have second := mul_self_nonneg (tileGap map p tile).2
  have whole : |tileDist map p tile| = tileDist map p tile := abs_of_nonneg tileDist_nonneg
  constructor
  · rw [← whole, abs_le_iff_mul_self_le]
    linarith
  · rw [← whole, abs_le_iff_mul_self_le]
    linarith

theorem le_tileDist_right (room : 0 ≤ map.tileSize) (apart : p.1 + radius ≤ (tileStart map tile).1)
    (positive : 0 ≤ radius) : radius ≤ tileDist map p tile := by
  refine le_trans ?_ (abs_gap_le_tileDist map p tile).1
  have before : (tileGap map p tile).1 = p.1 - (tileStart map tile).1 :=
    gap_before room (by linarith)
  rw [before, abs_of_nonpos (by linarith)]
  linarith

theorem le_tileDist_below (room : 0 ≤ map.tileSize) (apart : p.2 + radius ≤ (tileStart map tile).2)
    (positive : 0 ≤ radius) : radius ≤ tileDist map p tile := by
  refine le_trans ?_ (abs_gap_le_tileDist map p tile).2
  have before : (tileGap map p tile).2 = p.2 - (tileStart map tile).2 :=
    gap_before room (by linarith)
  rw [before, abs_of_nonpos (by linarith)]
  linarith

theorem le_tileDist_left (room : 0 ≤ map.tileSize)
    (apart : (tileStart map tile).1 + map.tileSize + radius ≤ p.1) (positive : 0 ≤ radius) :
    radius ≤ tileDist map p tile := by
  refine le_trans ?_ (abs_gap_le_tileDist map p tile).1
  have behind : (tileGap map p tile).1 = p.1 - ((tileStart map tile).1 + map.tileSize) :=
    gap_behind room (by linarith)
  rw [behind, abs_of_nonneg (by linarith)]
  linarith

/-- A solid tile around the circle is the wall, or a border the circle touches. -/
theorem solid_around (one : OneWall map wall) (placed : Placed map radius p)
    (around : tile ∈ tilesAround map p.1 p.2 radius) (solid : isSolid map tile = true) :
    tile = wall ∨ (tile.1 = map.cols ∧ p.1 + radius = mapWidth map) ∨
      (tile.2 = map.rows ∧ p.2 + radius = mapHeight map) := by
  obtain ⟨⟨left, right⟩, top, bottom⟩ := (mem_tilesAround one.size).mp around
  have size := one.size
  have firstColumn : 0 ≤ tile.1 := by
    by_contra negative
    have column : (tile.1 : ℝ) ≤ -1 := by exact_mod_cast (by omega : tile.1 ≤ -1)
    have := mul_le_mul_of_nonneg_right column size.le
    have := placed.left
    simp only [tileStart] at left
    linarith
  have firstRow : 0 ≤ tile.2 := by
    by_contra negative
    have row : (tile.2 : ℝ) ≤ -1 := by exact_mod_cast (by omega : tile.2 ≤ -1)
    have := mul_le_mul_of_nonneg_right row size.le
    have := placed.top
    simp only [tileStart] at top
    linarith
  have lastColumn : (tile.1 : ℝ) ≤ map.cols :=
    le_of_mul_le_mul_right (right.trans placed.right) size
  have lastRow : (tile.2 : ℝ) ≤ map.rows :=
    le_of_mul_le_mul_right (bottom.trans placed.bottom) size
  by_cases column : tile.1 = map.cols
  · refine .inr (.inl ⟨column, le_antisymm placed.right ?_⟩)
    have same : (tile.1 : ℝ) = map.cols := by exact_mod_cast column
    rw [mapWidth, ← same]
    exact right
  · by_cases row : tile.2 = map.rows
    · refine .inr (.inr ⟨row, le_antisymm placed.bottom ?_⟩)
      have same : (tile.2 : ℝ) = map.rows := by exact_mod_cast row
      rw [mapHeight, ← same]
      exact bottom
    · have columns : tile.1 ≤ (map.cols : Int) := by exact_mod_cast lastColumn
      have rows : tile.2 ≤ (map.rows : Int) := by exact_mod_cast lastRow
      exact .inl ((one.only tile firstColumn firstRow (lt_of_le_of_ne columns column)
        (lt_of_le_of_ne rows row)).mp solid)

/-- A circle that overlaps the wall looks at it. -/
theorem wall_around (one : OneWall map wall) (overlaps : tileDist map p wall < radius) :
    wall ∈ tilesAround map p.1 p.2 radius := by
  have size := one.size.le
  have positive : 0 ≤ radius := tileDist_nonneg.trans overlaps.le
  rw [mem_tilesAround one.size]
  refine ⟨⟨?_, ?_⟩, ?_, ?_⟩
  · by_contra apart
    exact absurd (le_tileDist_left size (by linarith) positive) (not_le.mpr overlaps)
  · by_contra apart
    exact absurd (le_tileDist_right size (by linarith) positive) (not_le.mpr overlaps)
  · by_contra apart
    have behind : (tileGap map p wall).2 = p.2 - ((tileStart map wall).2 + map.tileSize) :=
      gap_behind size (by linarith)
    have far := (le_abs_self _).trans (abs_gap_le_tileDist map p wall).2
    linarith
  · by_contra apart
    exact absurd (le_tileDist_below size (by linarith) positive) (not_le.mpr overlaps)

/-- Borders do not move a circle that has not been moved. -/
theorem border_clear (one : OneWall map wall) (placed : Placed map radius p)
    (around : tile ∈ tilesAround map p.1 p.2 radius) (solid : isSolid map tile = true)
    (other : tile ≠ wall) : radius ≤ tileDist map p tile := by
  rcases solid_around one placed around solid with same | ⟨column, -⟩ | ⟨row, -⟩
  · exact absurd same other
  · have same : (tile.1 : ℝ) = map.cols := by exact_mod_cast column
    refine le_tileDist_right one.size.le ?_ placed.positive.le
    rw [tileStart, same]
    exact placed.right
  · have same : (tile.2 : ℝ) = map.rows := by exact_mod_cast row
    refine le_tileDist_below one.size.le ?_ placed.positive.le
    rw [tileStart, same]
    exact placed.bottom

/-- A circle that does not overlap the wall stays where it is. -/
theorem resolveWallCollision_stays (one : OneWall map wall) (placed : Placed map radius p)
    (clear : radius ≤ tileDist map p wall) : resolveWallCollision map p.1 p.2 radius = p := by
  refine foldl_quiet placed.positive.le fun tile around solid => ?_
  by_cases same : tile = wall
  · rw [same]
    exact clear
  · exact border_clear one placed around solid same

/-- What is looked at after the wall, from where the wall put the circle. -/
theorem resolveWallCollision_wall (one : OneWall map wall) (placed : Placed map radius p)
    (overlaps : tileDist map p wall < radius) :
    ∃ back : List (Int × Int), resolveWallCollision map p.1 p.2 radius =
        back.foldl (pushOutOfTile map radius) (pushOutOfTile map radius p wall) ∧
      back.Pairwise Before ∧
      ∀ tile, tile ∈ back ↔ tile ∈ tilesAround map p.1 p.2 radius ∧ Before wall tile := by
  refine foldl_until map p (tilesAround_sorted map p.1 p.2 radius) placed.positive.le
    (wall_around one overlaps) fun tile around before solid => ?_
  refine border_clear one placed around solid ?_
  rintro rfl
  unfold Before at before
  omega

/-! ## Away from the borders -/

theorem middle_inside (one : OneWall map wall) :
    tileDist map (tileMiddle map wall) wall = 0 := by
  have size := one.size
  have across : (tileGap map (tileMiddle map wall) wall).1 = 0 :=
    gap_within (by simp only [tileMiddle, ofRat_two]; linarith)
      (by simp only [tileMiddle, ofRat_two]; linarith)
  have down : (tileGap map (tileMiddle map wall) wall).2 = 0 :=
    gap_within (by simp only [tileMiddle, ofRat_two]; linarith)
      (by simp only [tileMiddle, ofRat_two]; linarith)
  have square := tileGap_sq map (tileMiddle map wall) wall
  rw [across, down] at square
  exact mul_self_eq_zero.mp (by linarith)

/-- From inside, the radius is measured from the middle of the tile: that is not enough. -/
theorem pushed_inside (one : OneWall map wall) (placed : Placed map radius p)
    (inside : tileDist map p wall = 0) (off : p ≠ tileMiddle map wall) :
    tileDist map (pushOutOfTile map radius p wall) wall < radius := by
  obtain ⟨factor, -, pushed, circle⟩ := pushOutOfTile_inside one.solid inside placed.positive off
  rw [pushed]
  set across := factor * (p.1 - (tileMiddle map wall).1) with hx
  set down := factor * (p.2 - (tileMiddle map wall).2) with hy
  have positive := placed.positive
  have small := placed.small
  have square : across * across + down * down = radius * radius := by
    rw [← circle, hx, hy]
    ring
  have spanX := abs_le.mp (abs_le_of_sq_le_sq (a := across) (b := radius)
    (by nlinarith [mul_self_nonneg down]) positive.le)
  have spanY := abs_le.mp (abs_le_of_sq_le_sq (a := down) (b := radius)
    (by nlinarith [mul_self_nonneg across]) positive.le)
  -- The point half way to the middle is still on the tile.
  have halfway : OnTile map wall
      ((tileMiddle map wall).1 + across / 2, (tileMiddle map wall).2 + down / 2) := by
    simp only [OnTile, tileMiddle, ofRat_two]
    exact ⟨⟨by linarith, by linarith⟩, by linarith, by linarith⟩
  have bound := (tileDist_isLeast
    ((tileMiddle map wall).1 + across, (tileMiddle map wall).2 + down) wall one.size.le).2
      ⟨_, halfway, rfl⟩
  refine bound.trans_lt ?_
  rw [Real.sqrt_lt' positive]
  dsimp only
  nlinarith

theorem pushed_middle (one : OneWall map wall) (placed : Placed map radius (tileMiddle map wall)) :
    radius ≤ tileDist map (pushOutOfTile map radius (tileMiddle map wall) wall) wall ↔
      2 * radius + map.tileSize / 2 ≤ 1 := by
  rw [pushOutOfTile_middle one.solid (middle_inside one) placed.positive]
  have size := one.size
  have positive := placed.positive
  set moved := ((tileMiddle map wall).1, (tileMiddle map wall).2 - (radius - 1)) with hm
  have across : (tileGap map moved wall).1 = 0 :=
    gap_within (by simp only [hm, tileMiddle, ofRat_two]; linarith)
      (by simp only [hm, tileMiddle, ofRat_two]; linarith)
  have square := tileGap_sq map moved wall
  rw [across, zero_mul, zero_add] at square
  have dist : tileDist map moved wall = |(tileGap map moved wall).2| := by
    have whole : |tileDist map moved wall| = tileDist map moved wall :=
      abs_of_nonneg tileDist_nonneg
    rw [← whole]
    exact abs_eq_iff_mul_self_eq.mpr square
  rw [dist]
  have height : moved.2 = (tileStart map wall).2 + map.tileSize / 2 - (radius - 1) := by
    rw [hm, tileMiddle, ofRat_two]
  rcases le_total moved.2 (tileStart map wall).2 with above | below
  · have down : (tileGap map moved wall).2 = moved.2 - (tileStart map wall).2 :=
      gap_before size.le above
    rw [down, abs_of_nonpos (by linarith), height]
    constructor
    · intro far
      linarith
    · intro unit
      linarith
  · rcases le_total moved.2 ((tileStart map wall).2 + map.tileSize) with within | under
    · have down : (tileGap map moved wall).2 = 0 := gap_within below within
      rw [down, abs_zero]
      constructor
      · intro far
        linarith
      · intro unit
        linarith
    · have down : (tileGap map moved wall).2 = moved.2 - ((tileStart map wall).2 + map.tileSize) :=
        gap_behind size.le under
      rw [down, abs_of_nonneg (by linarith), height]
      constructor
      · intro far
        linarith
      · intro unit
        linarith

theorem resolveWallCollision_inner (one : OneWall map wall) (placed : Placed map radius p)
    (overlaps : tileDist map p wall < radius) (right : p.1 + radius ≠ mapWidth map)
    (bottom : p.2 + radius ≠ mapHeight map) :
    resolveWallCollision map p.1 p.2 radius = pushOutOfTile map radius p wall := by
  obtain ⟨back, resolved, -, listed⟩ := resolveWallCollision_wall one placed overlaps
  rw [resolved]
  refine foldl_quiet placed.positive.le fun tile later solid => ?_
  obtain ⟨around, after⟩ := (listed tile).mp later
  rcases solid_around one placed around solid with rfl | ⟨-, touches⟩ | ⟨-, touches⟩
  · unfold Before at after
    omega
  · exact absurd touches right
  · exact absurd touches bottom

end SwitchRemake.Simulation

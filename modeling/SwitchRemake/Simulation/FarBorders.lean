import SwitchRemake.Simulation.WallPush

/-!
# The far borders

Exact arithmetic, a single wall on the map. A circle that touches the right or the bottom border is
pushed back by it after the wall has pushed it out.
-/

namespace SwitchRemake.Simulation
open Lib

variable {map : WorldMap ℝ} {wall tile : Int × Int} {radius : ℝ} {p q : ℝ × ℝ}

/-! ## Touching a border -/

/-- Along one axis, a circle at the far border that overlaps a tile within is one tile away. -/
theorem touch_axis {size v : ℝ} {column : Int} {count : Nat} (positive : 0 < size)
    (small : radius < size) (within : column + 2 ≤ count) (reach : v - radius < column * size + size)
    (touches : v + radius = count * size) :
    column + 2 = count ∧ column * size + 2 * size = count * size ∧
      gap v (column * size) size = size - radius := by
  have near : ((count : ℝ) - column - 1) * size < 2 * size := by linarith
  have most : (count : ℝ) < column + 3 := by
    have := lt_of_mul_lt_mul_right near positive.le
    linarith
  have last : column + 2 = count := by
    have : (count : Int) < column + 3 := by exact_mod_cast most
    omega
  have width : column * size + 2 * size = count * size := by
    have same : ((column : ℝ) + 2) = count := by exact_mod_cast last
    rw [← same]
    ring
  refine ⟨last, width, ?_⟩
  rw [gap_behind positive.le (by linarith)]
  linarith

/-- A circle that touches the right border reaches the wall over one tile only. -/
theorem touch_right (one : OneWall map wall) (placed : Placed map radius p)
    (overlaps : tileDist map p wall < radius) (touches : p.1 + radius = mapWidth map) :
    wall.1 + 2 = map.cols ∧ (tileStart map wall).1 + 2 * map.tileSize = mapWidth map ∧
      (tileGap map p wall).1 = map.tileSize - radius := by
  obtain ⟨⟨reach, -⟩, -⟩ := (mem_tilesAround one.size).mp (wall_around one overlaps)
  exact touch_axis one.size placed.small one.columns.2 reach touches

theorem touch_bottom (one : OneWall map wall) (placed : Placed map radius p)
    (overlaps : tileDist map p wall < radius) (touches : p.2 + radius = mapHeight map) :
    wall.2 + 2 = map.rows ∧ (tileStart map wall).2 + 2 * map.tileSize = mapHeight map ∧
      (tileGap map p wall).2 = map.tileSize - radius := by
  obtain ⟨-, reach, -⟩ := (mem_tilesAround one.size).mp (wall_around one overlaps)
  exact touch_axis one.size placed.small one.rows.2 reach touches

theorem tileStart_succ (map : WorldMap ℝ) (tile : Int × Int) :
    ((tile.1 + 1 : Int) : ℝ) * map.tileSize = (tileStart map tile).1 + map.tileSize := by
  rw [tileStart]
  push_cast
  ring

theorem tileDist_across (level : (tileGap map q tile).2 = 0) :
    tileDist map q tile = |(tileGap map q tile).1| := by
  rw [tileDist, level, mul_zero, add_zero, Real.sqrt_mul_self_eq_abs]

theorem tileDist_down (level : (tileGap map q tile).1 = 0) :
    tileDist map q tile = |(tileGap map q tile).2| := by
  rw [tileDist, level, mul_zero, zero_add, Real.sqrt_mul_self_eq_abs]

/-- A tile straight beside the centre pushes it along one axis. -/
theorem pushed_left (q : ℝ × ℝ) (tile : Int × Int) (size : 0 ≤ map.tileSize)
    (solid : isSolid map tile = true) (positive : 0 < radius) (near : (tileStart map tile).1 - radius ≤ q.1)
    (outside : q.1 < (tileStart map tile).1) (top : (tileStart map tile).2 ≤ q.2)
    (bottom : q.2 ≤ (tileStart map tile).2 + map.tileSize) :
    pushOutOfTile map radius q tile = ((tileStart map tile).1 - radius, q.2) := by
  have across : (tileGap map q tile).1 = q.1 - (tileStart map tile).1 :=
    gap_before size outside.le
  have down : (tileGap map q tile).2 = 0 := gap_within top bottom
  have dist : tileDist map q tile = (tileStart map tile).1 - q.1 := by
    rw [tileDist_across down, across, abs_sub_comm, abs_of_nonneg (by linarith)]
  rcases near.lt_or_eq with closer | level
  · have apart : (tileStart map tile).1 - q.1 ≠ 0 := by linarith
    rw [pushOutOfTile_outside solid (by rw [dist]; linarith) (by rw [dist]; linarith), across, down,
      dist]
    refine Prod.ext ?_ ?_
    · dsimp only
      field_simp
      ring
    · dsimp only
      ring
  · rw [pushOutOfTile_clear positive.le (by rw [dist]; linarith), level]

theorem pushed_up (q : ℝ × ℝ) (tile : Int × Int) (size : 0 ≤ map.tileSize)
    (solid : isSolid map tile = true) (positive : 0 < radius) (near : (tileStart map tile).2 - radius ≤ q.2)
    (outside : q.2 < (tileStart map tile).2) (left : (tileStart map tile).1 ≤ q.1)
    (right : q.1 ≤ (tileStart map tile).1 + map.tileSize) :
    pushOutOfTile map radius q tile = (q.1, (tileStart map tile).2 - radius) := by
  have down : (tileGap map q tile).2 = q.2 - (tileStart map tile).2 :=
    gap_before size outside.le
  have across : (tileGap map q tile).1 = 0 := gap_within left right
  have dist : tileDist map q tile = (tileStart map tile).2 - q.2 := by
    rw [tileDist_down across, down, abs_sub_comm, abs_of_nonneg (by linarith)]
  rcases near.lt_or_eq with closer | level
  · have apart : (tileStart map tile).2 - q.2 ≠ 0 := by linarith
    rw [pushOutOfTile_outside solid (by rw [dist]; linarith) (by rw [dist]; linarith), across, down,
      dist]
    refine Prod.ext ?_ ?_
    · dsimp only
      ring
    · dsimp only
      field_simp
      ring
  · rw [pushOutOfTile_clear positive.le (by rw [dist]; linarith), level]

/-- A corner that gives way along one axis takes less than it gave. -/
theorem corner_inequality {spare : ℝ} (reach : ℝ) (positive : 0 < spare) (less : spare < radius)
    (high : reach < radius) :
    spare * spare * (2 * (radius + spare) * reach - spare * (2 * radius + spare)) <
      radius * radius * (reach * reach) := by
  have wide : 0 < radius := positive.trans less
  rcases le_or_gt ((radius + spare) * (spare * spare)) (radius * radius * radius) with flat | steep
  · -- The difference is a square and a rest that is positive here.
    have rest : 0 < 2 * (radius * radius * radius) - 2 * radius * (spare * spare) -
        spare * spare * spare := by
      have := mul_pos (mul_pos positive positive) positive
      linarith
    have cube : 0 < spare * spare * spare := mul_pos (mul_pos positive positive) positive
    have whole : 0 < radius * radius * (radius * radius * (reach * reach) -
        spare * spare * (2 * (radius + spare) * reach - spare * (2 * radius + spare))) := by
      have identity : radius * radius * (radius * radius * (reach * reach) -
          spare * spare * (2 * (radius + spare) * reach - spare * (2 * radius + spare))) =
          (radius * radius * reach - (radius + spare) * (spare * spare)) *
            (radius * radius * reach - (radius + spare) * (spare * spare)) +
          spare * spare * spare * (2 * (radius * radius * radius) - 2 * radius * (spare * spare) -
            spare * spare * spare) := by
        ring
      rw [identity]
      have := mul_self_nonneg (radius * radius * reach - (radius + spare) * (spare * spare))
      have := mul_pos cube rest
      linarith
    have := (mul_pos_iff_of_pos_left (mul_pos wide wide)).mp whole
    linarith
  · -- Below the radius the difference falls towards a positive value at the radius.
    have slope : 0 < 2 * ((radius + spare) * (spare * spare)) -
        radius * radius * (radius + reach) := by
      have := mul_lt_mul_of_pos_left high (mul_pos wide wide)
      linarith
    have falls := mul_pos (sub_pos.mpr high) slope
    have ends : 0 < (radius * radius - spare * spare) * (radius * radius - spare * spare) := by
      have := mul_self_lt_mul_self positive.le less
      exact mul_pos (by linarith) (by linarith)
    linarith

/-- A push from outside stretches the gap to the radius. -/
theorem pushed_stretches (solid : isSolid map tile = true) (outside : 0 < tileDist map q tile)
    (near : tileDist map q tile < radius) :
    ∃ factor, factor = radius / tileDist map q tile ∧ 1 < factor ∧
      pushOutOfTile map radius q tile =
        (q.1 - (tileGap map q tile).1 + factor * (tileGap map q tile).1,
          q.2 - (tileGap map q tile).2 + factor * (tileGap map q tile).2) ∧
      factor * (tileGap map q tile).1 * (factor * (tileGap map q tile).1) +
        factor * (tileGap map q tile).2 * (factor * (tileGap map q tile).2) = radius * radius := by
  refine ⟨_, rfl, (one_lt_div outside).mpr near, pushOutOfTile_outside solid outside near, ?_⟩
  have factored : radius / tileDist map q tile * (radius / tileDist map q tile) *
      (tileDist map q tile * tileDist map q tile) = radius * radius := by
    have apart := outside.ne'
    field_simp
  rw [tileGap_sq] at factored
  linarith

theorem abs_le_of_circle {a b : ℝ} (wide : 0 ≤ radius) (circle : a * a + b * b = radius * radius) :
    |a| ≤ radius ∧ |b| ≤ radius := by
  have whole := abs_of_nonneg wide
  constructor
  · rw [← whole, abs_le_iff_mul_self_le]
    have := mul_self_nonneg b
    linarith
  · rw [← whole, abs_le_iff_mul_self_le]
    have := mul_self_nonneg a
    linarith

/-! ## The bottom border -/

theorem bottomStart (map : WorldMap ℝ) (column : Int) :
    tileStart map (column, (map.rows : Int)) = (column * map.tileSize, mapHeight map) := by
  simp [tileStart, mapHeight]

/-- The tile below the centre puts it at the radius from the border, for good. -/
theorem bottom_settles {tiles : List (Int × Int)} (sorted : tiles.Pairwise Before)
    (positive : 0 < radius) (size : 0 < map.tileSize)
    (rows : ∀ tile ∈ tiles, isSolid map tile = true → tile.2 = map.rows) {column : Int}
    (member : (column, (map.rows : Int)) ∈ tiles)
    (quiet : ∀ other ∈ tiles, Before other (column, (map.rows : Int)) →
      isSolid map other = true → radius ≤ tileDist map q other)
    (low : mapHeight map - radius ≤ q.2) (high : q.2 < mapHeight map)
    (left : column * map.tileSize ≤ q.1) (right : q.1 ≤ column * map.tileSize + map.tileSize) :
    tiles.foldl (pushOutOfTile map radius) q = (q.1, mapHeight map - radius) := by
  obtain ⟨back, same, -, listed⟩ := foldl_until map q sorted positive.le member quiet
  have start := bottomStart map column
  have up := pushed_up q (column, (map.rows : Int)) size.le
    (isSolid_below le_rfl) positive (by rw [start]; exact low) (by rw [start]; exact high)
    (by rw [start]; exact left) (by rw [start]; exact right)
  rw [same, up, start]
  refine foldl_quiet positive.le fun tile later solid => ?_
  have level : (tile.2 : ℝ) = map.rows := by
    exact_mod_cast rows tile ((listed tile).mp later).1 solid
  refine le_tileDist_below size.le ?_ positive.le
  simp only [tileStart, level, mapHeight]
  linarith

/-- The corner before the tile that holds the centre may push it along; then it goes up to the
border. -/
theorem bottom_row {tiles : List (Int × Int)} (sorted : tiles.Pairwise Before)
    (positive : 0 < radius) (small : radius < map.tileSize)
    (rows : ∀ tile ∈ tiles, isSolid map tile = true → tile.2 = map.rows)
    (low : mapHeight map - radius ≤ q.2) (high : q.2 < mapHeight map) {column : Int}
    (member : (column, (map.rows : Int)) ∈ tiles) (left : column * map.tileSize ≤ q.1)
    (right : q.1 ≤ column * map.tileSize + map.tileSize) :
    ∃ x, tiles.foldl (pushOutOfTile map radius) q = (x, mapHeight map - radius) ∧
      q.1 ≤ x ∧ x ≤ column * map.tileSize + map.tileSize ∧
      (x = q.1 ∨ ∃ dist, 0 < dist ∧
        dist * dist = (q.1 - column * map.tileSize) * (q.1 - column * map.tileSize) +
          (mapHeight map - q.2) * (mapHeight map - q.2) ∧
        x = column * map.tileSize + radius / dist * (q.1 - column * map.tileSize)) := by
  have size : 0 < map.tileSize := positive.trans small
  -- A tile further left than the corner is too far away.
  have distant {tile : Int × Int} (back : tile.1 + 2 ≤ column) : radius ≤ tileDist map q tile := by
    have steps : ((tile.1 : ℝ) + 2) * map.tileSize ≤ column * map.tileSize :=
      mul_le_mul_of_nonneg_right (by exact_mod_cast back) size.le
    refine le_tileDist_left size.le ?_ positive.le
    simp only [tileStart]
    linarith
  by_cases listedCorner : (column - 1, (map.rows : Int)) ∈ tiles
  · obtain ⟨back, same, backSorted, listed⟩ := foldl_until map q sorted positive.le
      listedCorner fun other around before solid => by
        have row := rows other around solid
        unfold Before at before
        exact distant (by omega)
    have memberLater : (column, (map.rows : Int)) ∈ back :=
      (listed _).mpr ⟨member, .inr ⟨rfl, by omega⟩⟩
    have rowsLater (tile : Int × Int) (later : tile ∈ back) (solid : isSolid map tile = true) :
        tile.2 = map.rows := rows tile ((listed tile).mp later).1 solid
    have between {v : ℝ × ℝ} (other : Int × Int) (later : other ∈ back)
        (before : Before other (column, (map.rows : Int))) (solid : isSolid map other = true) :
        radius ≤ tileDist map v other := by
      have row := rowsLater other later solid
      have after := ((listed other).mp later).2
      unfold Before at before after
      omega
    rw [same]
    rcases lt_or_ge (tileDist map q (column - 1, (map.rows : Int))) radius with near | far
    · have edge : (tileStart map (column - 1, (map.rows : Int))).1 + map.tileSize =
          column * map.tileSize := by
        simp only [tileStart]
        push_cast
        ring
      have across : (tileGap map q (column - 1, (map.rows : Int))).1 =
          q.1 - column * map.tileSize := by
        rw [← edge]
        exact gap_behind size.le (by rw [edge]; exact left)
      have down : (tileGap map q (column - 1, (map.rows : Int))).2 = q.2 - mapHeight map := by
        simp only [tileGap, bottomStart]
        exact gap_before size.le high.le
      have square := tileGap_sq map q (column - 1, (map.rows : Int))
      have outside : 0 < tileDist map q (column - 1, (map.rows : Int)) := by
        refine lt_of_lt_of_le ?_ (abs_gap_le_tileDist _ _ _).2
        rw [down, abs_pos]
        linarith
      obtain ⟨factor, scale, grows, pushed, circle⟩ :=
        pushed_stretches (isSolid_below le_rfl) outside near
      rw [across, down] at square circle
      rw [across, down, sub_sub_cancel, sub_sub_cancel] at pushed
      obtain ⟨spanX, spanY⟩ := abs_le_of_circle positive.le circle
      have boundX := (abs_le.mp spanX).2
      have boundY := (abs_le.mp spanY).1
      have further := le_mul_of_one_le_left (sub_nonneg.mpr left) grows.le
      have below : factor * (q.2 - mapHeight map) < 0 :=
        mul_neg_of_pos_of_neg (one_pos.trans grows) (by linarith)
      rw [pushed]
      refine ⟨_, bottom_settles backSorted positive size rowsLater memberLater between ?_ ?_ ?_ ?_,
        ?_, ?_, .inr ⟨_, outside, ?_, by rw [scale]⟩⟩ <;> linarith
    · rw [pushOutOfTile_clear positive.le far]
      have settled :=
        bottom_settles backSorted positive size rowsLater memberLater between low high left right
      exact ⟨q.1, settled, le_rfl, right, .inl rfl⟩
  · refine ⟨q.1, bottom_settles sorted positive size rows member ?_ low high left right, le_rfl,
      right, .inl rfl⟩
    intro other around before solid
    have row := rows other around solid
    have elsewhere : other.1 ≠ column - 1 := fun same =>
      listedCorner (by rw [← row, ← same]; exact around)
    unfold Before at before
    exact distant (by omega)

/-! ## The right border -/

theorem rightStart (map : WorldMap ℝ) (row : Int) :
    tileStart map ((map.cols : Int), row) = (mapWidth map, row * map.tileSize) := by
  simp [tileStart, mapWidth]

/-- A circle below the wall: the border's corner beside the wall may push it down, the tile below
that corner pushes it back to the left. -/
theorem right_below (q : ℝ × ℝ) (row : Int) {tiles : List (Int × Int)}
    (sorted : tiles.Pairwise Before) (positive : 0 < radius) (small : radius < map.tileSize)
    (columns : ∀ tile ∈ tiles, isSolid map tile = true → tile.2 ≤ row + 1 → tile.1 = map.cols)
    (later : ∀ tile ∈ tiles, row ≤ tile.2)
    (corner : ((map.cols : Int), row) ∈ tiles) (member : ((map.cols : Int), row + 1) ∈ tiles)
    (low : mapWidth map - radius < q.1) (high : q.1 < mapWidth map)
    (top : row * map.tileSize + map.tileSize < q.2)
    (bottom : q.2 ≤ row * map.tileSize + map.tileSize + radius) :
    ∃ (y : ℝ) (back : List (Int × Int)), tiles.foldl (pushOutOfTile map radius) q =
        back.foldl (pushOutOfTile map radius) (mapWidth map - radius, y) ∧
      back.Pairwise Before ∧
      (∀ other, other ∈ back ↔ other ∈ tiles ∧ Before ((map.cols : Int), row + 1) other) ∧
      q.2 ≤ y ∧ y ≤ row * map.tileSize + map.tileSize + radius ∧
      (y = q.2 ∨ ∃ dist, 0 < dist ∧
        dist * dist = (q.2 - (row * map.tileSize + map.tileSize)) *
            (q.2 - (row * map.tileSize + map.tileSize)) +
          (mapWidth map - q.1) * (mapWidth map - q.1) ∧
        y = row * map.tileSize + map.tileSize +
          radius / dist * (q.2 - (row * map.tileSize + map.tileSize))) := by
  have size : 0 < map.tileSize := positive.trans small
  obtain ⟨back, same, backSorted, listed⟩ := foldl_until map q sorted positive.le
    corner fun other around before solid => by
      have rows := later other around
      have column := columns other around solid
      unfold Before at before
      omega
  have memberLater : ((map.cols : Int), row + 1) ∈ back :=
    (listed _).mpr ⟨member, .inl (by simp)⟩
  -- What the tile below the corner does, from any point beside it.
  have returns {v : ℝ × ℝ} (near : mapWidth map - radius ≤ v.1) (outside : v.1 < mapWidth map)
      (below : row * map.tileSize + map.tileSize ≤ v.2)
      (above : v.2 ≤ row * map.tileSize + map.tileSize + radius) :
      ∃ rest : List (Int × Int), back.foldl (pushOutOfTile map radius) v =
          rest.foldl (pushOutOfTile map radius) (mapWidth map - radius, v.2) ∧
        rest.Pairwise Before ∧
        ∀ other, other ∈ rest ↔ other ∈ tiles ∧ Before ((map.cols : Int), row + 1) other := by
    obtain ⟨rest, next, restSorted, restListed⟩ := foldl_until map v backSorted
      positive.le memberLater fun other around before solid => by
        have after := ((listed other).mp around).2
        have column (near : other.2 ≤ row + 1) :=
          columns other ((listed other).mp around).1 solid near
        unfold Before at before after
        omega
    have start := rightStart map (row + 1)
    have height : (tileStart map ((map.cols : Int), row + 1)).2 =
        row * map.tileSize + map.tileSize := by
      rw [start]
      push_cast
      ring
    have aside := pushed_left v ((map.cols : Int), row + 1) size.le
      (isSolid_right le_rfl) positive (by rw [start]; exact near) (by rw [start]; exact outside)
      (by rw [height]; exact below) (by rw [height]; linarith)
    rw [aside, start] at next
    refine ⟨rest, next, restSorted, fun other => ?_⟩
    rw [restListed, listed]
    constructor
    · rintro ⟨⟨around, -⟩, after⟩
      exact ⟨around, after⟩
    · rintro ⟨around, after⟩
      refine ⟨⟨around, ?_⟩, after⟩
      unfold Before at after ⊢
      omega
  rw [same]
  rcases lt_or_ge (tileDist map q ((map.cols : Int), row)) radius with near | far
  · have across : (tileGap map q ((map.cols : Int), row)).1 = q.1 - mapWidth map := by
      simp only [tileGap, rightStart]
      exact gap_before size.le high.le
    have down : (tileGap map q ((map.cols : Int), row)).2 =
        q.2 - (row * map.tileSize + map.tileSize) := by
      simp only [tileGap, rightStart]
      exact gap_behind size.le top.le
    have square := tileGap_sq map q ((map.cols : Int), row)
    have outside : 0 < tileDist map q ((map.cols : Int), row) := by
      refine lt_of_lt_of_le ?_ (abs_gap_le_tileDist _ _ _).1
      rw [across, abs_pos]
      linarith
    obtain ⟨factor, scale, grows, pushed, circle⟩ :=
      pushed_stretches (isSolid_right le_rfl) outside near
    rw [across, down] at square circle
    rw [across, down, sub_sub_cancel, sub_sub_cancel] at pushed
    obtain ⟨spanX, spanY⟩ := abs_le_of_circle positive.le circle
    have boundX := (abs_le.mp spanX).1
    have boundY := (abs_le.mp spanY).2
    have further := le_mul_of_one_le_left (sub_nonneg.mpr top.le) grows.le
    have left : factor * (q.1 - mapWidth map) < 0 :=
      mul_neg_of_pos_of_neg (one_pos.trans grows) (by linarith)
    rw [pushed]
    obtain ⟨rest, next, restSorted, restListed⟩ := returns
      (v := (mapWidth map + factor * (q.1 - mapWidth map), row * map.tileSize + map.tileSize +
        factor * (q.2 - (row * map.tileSize + map.tileSize))))
      (by dsimp only; linarith) (by dsimp only; linarith) (by dsimp only; linarith)
      (by dsimp only; linarith)
    refine ⟨_, rest, next, restSorted, restListed, ?_, ?_, .inr ⟨_, outside, ?_, by rw [scale]⟩⟩
      <;> linarith
  · rw [pushOutOfTile_clear positive.le far]
    obtain ⟨rest, next, restSorted, restListed⟩ := returns low.le high top.le bottom
    exact ⟨q.2, rest, next, restSorted, restListed, le_rfl, bottom, .inl rfl⟩

/-! ## Back over the wall -/

theorem tileDist_lt (positive : 0 < radius) :
    tileDist map p tile < radius ↔
      (tileGap map p tile).1 * (tileGap map p tile).1 +
        (tileGap map p tile).2 * (tileGap map p tile).2 < radius * radius := by
  rw [← tileGap_sq]
  exact (mul_self_lt_mul_self_iff tileDist_nonneg positive.le)

theorem scaled_sq (radius offset : ℝ) {corner : ℝ} (away : 0 < corner) :
    radius / corner * offset * (radius / corner * offset) * (corner * corner) =
      radius * radius * (offset * offset) := by
  have apart := away.ne'
  field_simp

/-- What the wall gained on the free axis, with what a corner adds to it, does not make up for the
border taking back the other axis. -/
theorem given_back {spare offset factor gained : ℝ} (room : 0 < spare) (less : spare < radius)
    (grows : 1 < factor)
    (circle : factor * spare * (factor * spare) + factor * offset * (factor * offset) =
      radius * radius)
    (gains : gained = factor * offset ∨ ∃ corner, 0 < corner ∧
      corner * corner = factor * offset * (factor * offset) +
        (radius + spare - factor * spare) * (radius + spare - factor * spare) ∧
      gained = radius / corner * (factor * offset)) :
    spare * spare + gained * gained < radius * radius := by
  have longer : spare < factor * spare := lt_mul_of_one_lt_left room grows
  rcases gains with rfl | ⟨corner, away, corners, rfl⟩
  · have := mul_self_lt_mul_self room.le longer
    linarith
  · set reach := radius + spare - factor * spare with hr
    set offset' := factor * offset with ho
    have along : factor * spare = radius + spare - reach := by linarith
    have taken := corner_inequality reach room less (by linarith)
    have cornerSq : corner * corner =
        2 * (radius + spare) * reach - spare * (2 * radius + spare) := by
      rw [along] at circle
      linarith
    rw [← cornerSq] at taken
    have whole := scaled_sq radius offset' away
    have scaled : (spare * spare + radius / corner * offset' * (radius / corner * offset')) *
        (corner * corner) < radius * radius * (corner * corner) := by
      rw [add_mul, whole]
      have : radius * radius * (corner * corner) =
          radius * radius * (offset' * offset') + radius * radius * (reach * reach) := by
        rw [corners]
        ring
      linarith
    exact lt_of_mul_lt_mul_right scaled (mul_self_nonneg corner)

theorem around_le (one : OneWall map wall) (placed : Placed map radius p)
    (around : tile ∈ tilesAround map p.1 p.2 radius) : tile.1 ≤ map.cols ∧ tile.2 ≤ map.rows := by
  obtain ⟨⟨-, right⟩, -, bottom⟩ := (mem_tilesAround one.size).mp around
  constructor
  · have column : (tile.1 : ℝ) ≤ map.cols :=
      le_of_mul_le_mul_right (right.trans placed.right) one.size
    exact_mod_cast column
  · have row : (tile.2 : ℝ) ≤ map.rows :=
      le_of_mul_le_mul_right (bottom.trans placed.bottom) one.size
    exact_mod_cast row

/-- A circle that touches the bottom border only ends over the wall again. -/
theorem touch_bottom_overlaps (one : OneWall map wall) (placed : Placed map radius p)
    (outside : 0 < tileDist map p wall) (overlaps : tileDist map p wall < radius)
    (right : p.1 + radius ≠ mapWidth map) (touches : p.2 + radius = mapHeight map) :
    tileDist map (resolveWallCollision map p.1 p.2 radius) wall < radius := by
  have size := one.size
  have positive := placed.positive
  have small := placed.small
  obtain ⟨last, height, spare⟩ := touch_bottom one placed overlaps touches
  obtain ⟨back, resolved, sorted, listed⟩ := resolveWallCollision_wall one placed overlaps
  obtain ⟨factor, -, grows, pushed, circle⟩ := pushed_stretches one.solid outside overlaps
  obtain ⟨spanX, spanY⟩ := abs_le_of_circle positive.le circle
  have bounds := abs_gap_le_tileDist map p wall
  have lower : (tileGap map p wall).2 = p.2 - ((tileStart map wall).2 + map.tileSize) := by
    linarith
  have room : 0 < map.tileSize - radius := by linarith
  have less : map.tileSize - radius < radius := by
    have := (le_abs_self _).trans bounds.2
    linarith
  rw [spare] at spanY pushed circle
  have longer : map.tileSize - radius < factor * (map.tileSize - radius) :=
    lt_mul_of_one_lt_left room grows
  have boundX := abs_le.mp spanX
  have boundY := (abs_le.mp spanY).2
  have rows (tile : Int × Int) (later : tile ∈ back) (solid : isSolid map tile = true) :
      tile.2 = map.rows := by
    obtain ⟨around, after⟩ := (listed tile).mp later
    rcases solid_around one placed around solid with rfl | ⟨-, same⟩ | ⟨row, -⟩
    · unfold Before at after
      omega
    · exact absurd same right
    · exact row
  obtain ⟨⟨reachLeft, reachRight⟩, -⟩ :=
    (mem_tilesAround one.size).mp (wall_around one overlaps)
  -- What the tile of the bottom border below the pushed centre does.
  have row (column : Int)
      (left : p.1 - radius < column * map.tileSize + map.tileSize)
      (right : column * map.tileSize ≤ p.1 + radius)
      (low : column * map.tileSize ≤ (pushOutOfTile map radius p wall).1)
      (high : (pushOutOfTile map radius p wall).1 ≤ column * map.tileSize + map.tileSize) := by
    have around : (column, (map.rows : Int)) ∈ back := by
      refine (listed _).mpr ⟨(mem_tilesAround one.size).mpr ?_, .inl (by simp; omega)⟩
      rw [bottomStart]
      exact ⟨⟨left, right⟩, by dsimp only; linarith, by dsimp only; linarith⟩
    exact bottom_row (q := pushOutOfTile map radius p wall) sorted positive small rows
      (by rw [pushed]; dsimp only; linarith) (by rw [pushed]; dsimp only; linarith) around low high
  have level {x : ℝ} :
      (tileGap map (x, mapHeight map - radius) wall).2 = map.tileSize - radius := by
    have behind : (tileGap map (x, mapHeight map - radius) wall).2 =
        mapHeight map - radius - ((tileStart map wall).2 + map.tileSize) :=
      gap_behind size.le (by dsimp only; linarith)
    rw [behind]
    linarith
  have shrinks := mul_self_lt_mul_self room.le longer
  rw [resolved]
  rcases lt_or_ge p.1 (tileStart map wall).1 with aside | beyond
  · -- Left of the wall, the corners push to the right, towards the wall.
    have across : (tileGap map p wall).1 = p.1 - (tileStart map wall).1 :=
      gap_before size.le aside.le
    rw [across] at boundX circle pushed
    have backward : factor * (p.1 - (tileStart map wall).1) ≤ p.1 - (tileStart map wall).1 :=
      mul_le_of_one_le_left (by linarith) grows.le
    set reached := (pushOutOfTile map radius p wall).1 with hr
    have place : reached = (tileStart map wall).1 + factor * (p.1 - (tileStart map wall).1) := by
      rw [hr, pushed]
      dsimp only
      ring
    have floorLow : (⌊reached / map.tileSize⌋ : ℝ) * map.tileSize ≤ reached :=
      (le_div_iff₀ size).mp (Int.floor_le _)
    have floorHigh : reached < ⌊reached / map.tileSize⌋ * map.tileSize + map.tileSize := by
      have above := (div_lt_iff₀ size).mp (Int.lt_floor_add_one (reached / map.tileSize))
      linarith
    have before : ⌊reached / map.tileSize⌋ + 1 ≤ wall.1 := by
      rw [Int.add_one_le_iff, Int.floor_lt, div_lt_iff₀ size]
      change reached < (tileStart map wall).1
      linarith
    have edge : (⌊reached / map.tileSize⌋ : ℝ) * map.tileSize + map.tileSize ≤
        (tileStart map wall).1 := by
      have cast : (⌊reached / map.tileSize⌋ : ℝ) + 1 ≤ wall.1 := by exact_mod_cast before
      have := mul_le_mul_of_nonneg_right cast size.le
      simp only [tileStart]
      linarith
    obtain ⟨x, same, further, bounded, -⟩ := row ⌊reached / map.tileSize⌋ (by linarith)
      (by linarith) floorLow floorHigh.le
    have gapX : (tileGap map (x, mapHeight map - radius) wall).1 = x - (tileStart map wall).1 :=
      gap_before size.le (by dsimp only; linarith)
    rw [same, tileDist_lt positive, gapX, level]
    have smaller : (x - (tileStart map wall).1) * (x - (tileStart map wall).1) ≤
        factor * (p.1 - (tileStart map wall).1) * (factor * (p.1 - (tileStart map wall).1)) := by
      rw [← abs_le_iff_mul_self_le, abs_of_nonpos (by linarith), abs_of_nonpos (by linarith)]
      linarith
    linarith
  · rcases le_or_gt p.1 ((tileStart map wall).1 + map.tileSize) with above | past
    · -- Straight below the wall.
      have across : (tileGap map p wall).1 = 0 := gap_within beyond above
      rw [across] at pushed
      have place : (pushOutOfTile map radius p wall).1 = p.1 := by
        rw [pushed]
        dsimp only
        ring
      obtain ⟨x, same, further, bounded, -⟩ := row wall.1 reachLeft reachRight
        (by rw [place]; exact beyond) (by rw [place]; exact above)
      rw [place] at further
      have gapX : (tileGap map (x, mapHeight map - radius) wall).1 = 0 :=
        gap_within (beyond.trans further) bounded
      rw [same, tileDist_lt positive, gapX, level]
      have := mul_self_lt_mul_self room.le less
      linarith
    · -- Right of the wall, its own corner of the border pushes away from it.
      have across : (tileGap map p wall).1 = p.1 - ((tileStart map wall).1 + map.tileSize) :=
        gap_behind size.le past.le
      rw [across] at boundX circle pushed
      have edge := tileStart_succ map wall
      have forward : 0 ≤ factor * (p.1 - ((tileStart map wall).1 + map.tileSize)) :=
        mul_nonneg (one_pos.trans grows).le (by linarith)
      have found := row (wall.1 + 1) (by linarith) (by linarith)
        (by rw [pushed]; dsimp only; linarith) (by rw [pushed]; dsimp only; linarith)
      rw [edge, pushed] at found
      obtain ⟨x, same, further, bounded, gains⟩ := found
      have beside : (tileStart map wall).1 + map.tileSize ≤ x := by
        dsimp only at further
        linarith
      have gapX : (tileGap map (x, mapHeight map - radius) wall).1 =
          x - ((tileStart map wall).1 + map.tileSize) :=
        gap_behind size.le beside
      rw [pushed, same, tileDist_lt positive, gapX, level, add_comm]
      refine given_back room less grows ((add_comm _ _).trans circle) ?_
      rcases gains with stays | ⟨corner, away, corners, moved⟩
      · left
        rw [stays]
        dsimp only
        ring
      · right
        refine ⟨corner, away, ?_, ?_⟩
        · rw [corners]
          dsimp only
          have : mapHeight map -
              (p.2 - (map.tileSize - radius) + factor * (map.tileSize - radius)) =
                radius + (map.tileSize - radius) - factor * (map.tileSize - radius) := by
            linarith
          rw [this]
          ring
        · rw [moved]
          dsimp only
          ring

/-- In the corner of the map the bottom border pushes the circle under the wall's corner. -/
theorem corner_overlaps {tiles : List (Int × Int)} {y : ℝ} (sorted : tiles.Pairwise Before)
    (positive : 0 < radius) (small : radius < map.tileSize)
    (rows : ∀ tile ∈ tiles, isSolid map tile = true → tile.2 = map.rows)
    (member : (wall.1 + 1, (map.rows : Int)) ∈ tiles)
    (width : (tileStart map wall).1 + 2 * map.tileSize = mapWidth map)
    (height : (tileStart map wall).2 + 2 * map.tileSize = mapHeight map)
    (low : mapHeight map - radius ≤ y)
    (high : y ≤ (tileStart map wall).2 + map.tileSize + radius)
    (deep : 2 * ((map.tileSize - radius) * (map.tileSize - radius)) < radius * radius) :
    tileDist map (tiles.foldl (pushOutOfTile map radius) (mapWidth map - radius, y)) wall <
      radius := by
  have size : 0 < map.tileSize := positive.trans small
  have room : 0 < map.tileSize - radius := by linarith
  have edge := tileStart_succ map wall
  have found := bottom_row (q := (mapWidth map - radius, y)) sorted positive small rows low
    (by dsimp only; linarith) member (by rw [edge]; dsimp only; linarith)
    (by rw [edge]; dsimp only; linarith)
  rw [edge] at found
  dsimp only at found
  obtain ⟨x, same, further, -, gains⟩ := found
  have gapX : (tileGap map (x, mapHeight map - radius) wall).1 =
      x - ((tileStart map wall).1 + map.tileSize) :=
    gap_behind size.le (by dsimp only; linarith)
  have gapY : (tileGap map (x, mapHeight map - radius) wall).2 = map.tileSize - radius := by
    have behind : (tileGap map (x, mapHeight map - radius) wall).2 =
        mapHeight map - radius - ((tileStart map wall).2 + map.tileSize) :=
      gap_behind size.le (by dsimp only; linarith)
    rw [behind]
    linarith
  rw [same, tileDist_lt positive, gapX, gapY]
  have left : mapWidth map - radius - ((tileStart map wall).1 + map.tileSize) =
      map.tileSize - radius := by
    linarith
  rw [left] at gains
  rcases gains with rfl | ⟨corner, away, corners, rfl⟩
  · rw [left]
    linarith
  · rw [add_sub_cancel_left]
    have deeper : (map.tileSize - radius) * (map.tileSize - radius) ≤
        (mapHeight map - y) * (mapHeight map - y) :=
      mul_self_le_mul_self room.le (by linarith)
    have scaled := scaled_sq radius (map.tileSize - radius) away
    have half : 2 * (radius / corner * (map.tileSize - radius) *
        (radius / corner * (map.tileSize - radius))) ≤ radius * radius := by
      refine le_of_mul_le_mul_right ?_ (mul_pos away away)
      have wide := mul_le_mul_of_nonneg_left
        (by linarith : 2 * ((map.tileSize - radius) * (map.tileSize - radius)) ≤ corner * corner)
        (mul_self_nonneg radius)
      linarith
    linarith

/-- A circle beside or below the wall that touches the right border ends over the wall again. -/
theorem touch_right_overlaps (one : OneWall map wall) (placed : Placed map radius p)
    (outside : 0 < tileDist map p wall) (overlaps : tileDist map p wall < radius)
    (touches : p.1 + radius = mapWidth map) (under : (tileStart map wall).2 ≤ p.2) :
    tileDist map (resolveWallCollision map p.1 p.2 radius) wall < radius := by
  have size := one.size
  have positive := placed.positive
  have small := placed.small
  obtain ⟨last, width, spare⟩ := touch_right one placed overlaps touches
  obtain ⟨back, resolved, sorted, listed⟩ := resolveWallCollision_wall one placed overlaps
  obtain ⟨factor, -, grows, pushed, circle⟩ := pushed_stretches one.solid outside overlaps
  obtain ⟨spanX, spanY⟩ := abs_le_of_circle positive.le circle
  have bounds := abs_gap_le_tileDist map p wall
  have room : 0 < map.tileSize - radius := by linarith
  have less : map.tileSize - radius < radius := by
    have := (le_abs_self _).trans bounds.1
    linarith
  rw [spare] at spanX pushed circle
  have longer : map.tileSize - radius < factor * (map.tileSize - radius) :=
    lt_mul_of_one_lt_left room grows
  have boundX := (abs_le.mp spanX).2
  have boundY := (abs_le.mp spanY).2
  obtain ⟨-, reachTop, reachBottom⟩ := (mem_tilesAround one.size).mp (wall_around one overlaps)
  have beside : ((map.cols : Int), wall.2) ∈ back := by
    refine (listed _).mpr ⟨(mem_tilesAround one.size).mpr ?_, .inr ⟨rfl, by simp; omega⟩⟩
    rw [rightStart]
    exact ⟨⟨by dsimp only; linarith, by dsimp only; linarith⟩, reachTop, reachBottom⟩
  have around_solid (tile : Int × Int) (later : tile ∈ back) (solid : isSolid map tile = true) :
      tile.1 = map.cols ∨ tile.2 = map.rows ∧ p.2 + radius = mapHeight map := by
    obtain ⟨around, after⟩ := (listed tile).mp later
    rcases solid_around one placed around solid with rfl | ⟨column, -⟩ | row
    · unfold Before at after
      omega
    · exact .inl column
    · exact .inr row
  have level {y : ℝ} : (tileGap map (mapWidth map - radius, y) wall).1 = map.tileSize - radius := by
    have behind : (tileGap map (mapWidth map - radius, y) wall).1 =
        mapWidth map - radius - ((tileStart map wall).1 + map.tileSize) :=
      gap_behind size.le (by dsimp only; linarith)
    rw [behind]
    linarith
  have bottomRows := one.rows
  rw [resolved]
  rcases le_or_gt p.2 ((tileStart map wall).2 + map.tileSize) with aside | past
  · -- Beside the wall, the border pushes the circle straight back to where it was.
    have down : (tileGap map p wall).2 = 0 := gap_within under aside
    rw [down] at pushed
    obtain ⟨rest, same, -, restListed⟩ := foldl_until map
      (pushOutOfTile map radius p wall) sorted positive.le beside
      fun other later before solid => by
        have after := ((listed other).mp later).2
        have := around_solid other later solid
        unfold Before at before after
        omega
    have returned := pushed_left (pushOutOfTile map radius p wall)
      ((map.cols : Int), wall.2) size.le (isSolid_right le_rfl) positive
      (by rw [rightStart, pushed]; dsimp only; linarith)
      (by rw [rightStart, pushed]; dsimp only; linarith)
      (by rw [pushed]; change (tileStart map wall).2 ≤ _; dsimp only; linarith)
      (by rw [pushed]; change _ ≤ (tileStart map wall).2 + _; dsimp only; linarith)
    have level' : (pushOutOfTile map radius p wall).2 = p.2 := by
      rw [pushed]
      dsimp only
      ring
    rw [rightStart, level'] at returned
    have quiet : rest.foldl (pushOutOfTile map radius) (mapWidth map - radius, p.2) =
        (mapWidth map - radius, p.2) := by
      refine foldl_quiet positive.le fun tile later solid => ?_
      rcases around_solid tile ((restListed tile).mp later).1 solid with column | ⟨row, -⟩
      · have same : (tile.1 : ℝ) = map.cols := by exact_mod_cast column
        refine le_tileDist_right size.le ?_ positive.le
        simp only [tileStart, same, mapWidth]
        linarith
      · have same : (tile.2 : ℝ) = map.rows := by exact_mod_cast row
        refine le_tileDist_below size.le ?_ positive.le
        simp only [tileStart, same]
        exact placed.bottom
    have gapY : (tileGap map (mapWidth map - radius, p.2) wall).2 = 0 := gap_within under aside
    rw [same, returned, quiet, tileDist_lt positive, level, gapY]
    have := mul_self_lt_mul_self room.le less
    linarith
  · -- Below the wall, the circle slides down along the border.
    have down : (tileGap map p wall).2 = p.2 - ((tileStart map wall).2 + map.tileSize) :=
      gap_behind size.le past.le
    rw [down] at boundY circle pushed
    have forward : p.2 - ((tileStart map wall).2 + map.tileSize) <
        factor * (p.2 - ((tileStart map wall).2 + map.tileSize)) :=
      lt_mul_of_one_lt_left (by linarith) grows
    have next : ((map.cols : Int), wall.2 + 1) ∈ back := by
      refine (listed _).mpr ⟨(mem_tilesAround one.size).mpr ?_, .inl (by simp)⟩
      have row : (tileStart map ((map.cols : Int), wall.2 + 1)).2 =
          (tileStart map wall).2 + map.tileSize := by
        simp only [tileStart]
        push_cast
        ring
      rw [row, rightStart]
      exact ⟨⟨by dsimp only; linarith, by dsimp only; linarith⟩, by linarith, by linarith⟩
    have start : (wall.2 : ℝ) * map.tileSize = (tileStart map wall).2 := rfl
    have slid := right_below (pushOutOfTile map radius p wall) wall.2 sorted positive
      small (fun tile later solid near => by
        rcases around_solid tile later solid with column | ⟨row, -⟩
        · exact column
        · omega)
      (fun tile later => by
        have after := ((listed tile).mp later).2
        unfold Before at after
        omega) beside next
      (by rw [pushed]; dsimp only; linarith) (by rw [pushed]; dsimp only; linarith)
      (by rw [pushed, start]; dsimp only; linarith) (by rw [pushed, start]; dsimp only; linarith)
    rw [start, pushed] at slid
    obtain ⟨y, rest, same, restSorted, restListed, further, bounded, gains⟩ := slid
    have below : (tileStart map wall).2 + map.tileSize <  y := by
      dsimp only at further
      linarith
    rw [pushed, same]
    by_cases bottom : p.2 + radius = mapHeight map
    · obtain ⟨lastRow, height, spareY⟩ := touch_bottom one placed overlaps bottom
      have square := tileGap_sq map p wall
      have near := mul_self_lt_mul_self outside.le overlaps
      rw [spare, spareY] at square
      refine corner_overlaps restSorted positive small (fun tile later solid => ?_) ?_ width height
        (by dsimp only at further; linarith) bounded (by linarith)
      · obtain ⟨listed', after⟩ := (restListed tile).mp later
        rcases around_solid tile listed' solid with column | ⟨row, -⟩
        · have lowest := (around_le one placed ((listed tile).mp listed').1).2
          unfold Before at after
          omega
        · exact row
      · refine (restListed _).mpr ⟨(listed _).mpr ⟨(mem_tilesAround one.size).mpr ?_,
          .inl (by simp; omega)⟩, .inl (by simp; omega)⟩
        have edge := tileStart_succ map wall
        rw [bottomStart, edge]
        exact ⟨⟨by dsimp only; linarith, by dsimp only; linarith⟩, by dsimp only; linarith,
          by dsimp only; linarith⟩
    · have quiet : rest.foldl (pushOutOfTile map radius) (mapWidth map - radius, y) =
          (mapWidth map - radius, y) := by
        refine foldl_quiet positive.le fun tile later solid => ?_
        rcases around_solid tile ((restListed tile).mp later).1 solid with column | ⟨-, at_⟩
        · have same : (tile.1 : ℝ) = map.cols := by exact_mod_cast column
          refine le_tileDist_right size.le ?_ positive.le
          simp only [tileStart, same, mapWidth]
          linarith
        · exact absurd at_ bottom
      have gapY : (tileGap map (mapWidth map - radius, y) wall).2 =
          y - ((tileStart map wall).2 + map.tileSize) := gap_behind size.le below.le
      rw [quiet, tileDist_lt positive, level, gapY]
      refine given_back room less grows circle ?_
      rcases gains with stays | ⟨corner, away, corners, moved⟩
      · left
        rw [stays]
        dsimp only
        ring
      · right
        refine ⟨corner, away, ?_, ?_⟩
        · rw [corners]
          dsimp only
          have : mapWidth map - (p.1 - (map.tileSize - radius) + factor * (map.tileSize - radius)) =
              radius + (map.tileSize - radius) - factor * (map.tileSize - radius) := by
            linarith
          rw [this]
          ring
        · rw [moved]
          dsimp only
          ring

end SwitchRemake.Simulation

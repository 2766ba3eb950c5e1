import SwitchRemake.Simulation.FarBorders

/-!
# Clear of the wall

Exact arithmetic, a single wall on the map. Exactly when `resolveWallCollision` takes a circle out
of the wall.
-/

namespace SwitchRemake.Simulation
open Lib

variable {map : WorldMap ℝ} {wall tile : Int × Int} {radius : ℝ} {p q : ℝ × ℝ}

/-! ## Above the wall, at the right border -/

/-- A corner of the border lifts the circle off the wall up to the third Chebyshev polynomial. -/
theorem corner_lifts {a c offset corner : ℝ} (wide : 0 < radius) (positive : 0 < a)
    (circle : radius * c * (radius * c) + offset * offset = radius * radius) (away : 0 < corner)
    (corners : corner * corner =
      (2 * radius * a - radius * c) * (2 * radius * a - radius * c) + offset * offset)
    (turned : a < c) (ahead : c < 2 * a) :
    radius * radius ≤
        (2 * radius * a - radius / corner * (2 * radius * a - radius * c)) *
          (2 * radius * a - radius / corner * (2 * radius * a - radius * c)) +
        radius / corner * offset * (radius / corner * offset) ↔
      c ≤ 3 * a - 4 * a ^ 3 := by
  have reach : 0 < 2 * radius * a - radius * c := by
    have := mul_pos wide (by linarith : 0 < 2 * a - c)
    linarith
  have apart := away.ne'
  have expanded : (2 * radius * a - radius / corner * (2 * radius * a - radius * c)) *
        (2 * radius * a - radius / corner * (2 * radius * a - radius * c)) +
      radius / corner * offset * (radius / corner * offset) =
        radius * radius + 2 * radius * a *
          (2 * radius * a - 2 * (radius / corner * (2 * radius * a - radius * c))) := by
    have whole : radius / corner * (radius / corner) * (corner * corner) = radius * radius := by
      field_simp
    rw [corners] at whole
    linarith
  have lifted : radius * radius ≤ radius * radius + 2 * radius * a *
      (2 * radius * a - 2 * (radius / corner * (2 * radius * a - radius * c))) ↔
        2 * radius * (2 * radius * a - radius * c) ≤ 2 * radius * a * corner := by
    have factor : 0 < 2 * radius * a := by positivity
    rw [le_add_iff_nonneg_right, mul_nonneg_iff_of_pos_left factor, sub_nonneg,
      div_mul_eq_mul_div, ← mul_div_assoc, div_le_iff₀ away, ← mul_assoc]
  have first : 0 ≤ 2 * radius * (2 * radius * a - radius * c) :=
    (mul_pos (by linarith) reach).le
  have second : 0 ≤ 2 * radius * a * corner := by positivity
  have squares : 2 * radius * (2 * radius * a - radius * c) ≤ 2 * radius * a * corner ↔
      2 * radius * (2 * radius * a - radius * c) * (2 * radius * (2 * radius * a - radius * c)) ≤
        2 * radius * a * corner * (2 * radius * a * corner) :=
    mul_self_le_mul_self_iff first second
  have difference : 2 * radius * a * corner * (2 * radius * a * corner) -
      2 * radius * (2 * radius * a - radius * c) * (2 * radius * (2 * radius * a - radius * c)) =
        4 * radius ^ 4 * ((c - a) * (3 * a - 4 * a ^ 3 - c)) := by
    have short : offset * offset = radius * radius - radius * c * (radius * c) := by linarith
    have : 2 * radius * a * corner * (2 * radius * a * corner) =
        4 * radius ^ 2 * a ^ 2 * (corner * corner) := by
      ring
    rw [this, corners, short]
    ring
  rw [expanded, lifted, squares, ← sub_nonneg, difference,
    mul_nonneg_iff_of_pos_left (by positivity), mul_nonneg_iff_of_pos_left (by linarith),
    sub_nonneg]

/-- The cosine of the push that a border one tile away leaves room for. -/
noncomputable def roomyCosine (map : WorldMap ℝ) (radius : ℝ) : ℝ :=
  let a := map.tileSize / (radius + radius)
  max a (a * (JsNumber.ofRat 3 - (a + a) * (a + a)))

theorem roomyCosine_eq (map : WorldMap ℝ) (radius : ℝ) :
    roomyCosine map radius = max (map.tileSize / (2 * radius))
      (3 * (map.tileSize / (2 * radius)) - 4 * (map.tileSize / (2 * radius)) ^ 3) := by
  have three : (JsNumber.ofRat 3 : ℝ) = 3 := by simp [JsNumber.ofRat]
  rw [roomyCosine, three, two_mul]
  congr 1
  ring

/-- A circle above the wall that touches the right border leaves the wall unless it is pushed too
far towards the border. -/
theorem touch_right_above (one : OneWall map wall) (placed : Placed map radius p)
    (outside : 0 < tileDist map p wall) (overlaps : tileDist map p wall < radius)
    (touches : p.1 + radius = mapWidth map) (above : p.2 < (tileStart map wall).2) :
    radius ≤ tileDist map (resolveWallCollision map p.1 p.2 radius) wall ↔
      (map.tileSize - radius) / tileDist map p wall ≤ roomyCosine map radius := by
  have size := one.size
  have positive := placed.positive
  have small := placed.small
  obtain ⟨last, width, spare⟩ := touch_right one placed overlaps touches
  obtain ⟨back, resolved, sorted, listed⟩ := resolveWallCollision_wall one placed overlaps
  obtain ⟨factor, scale, grows, pushed, circle⟩ := pushed_stretches one.solid outside overlaps
  obtain ⟨spanX, spanY⟩ := abs_le_of_circle positive.le circle
  have room : 0 < map.tileSize - radius := by linarith
  have lifts : (tileGap map p wall).2 = p.2 - (tileStart map wall).2 :=
    gap_before size.le above.le
  rw [spare, lifts] at pushed circle
  rw [spare] at spanX
  have longer : map.tileSize - radius < factor * (map.tileSize - radius) :=
    lt_mul_of_one_lt_left room grows
  have upward : factor * (p.2 - (tileStart map wall).2) < 0 :=
    mul_neg_of_pos_of_neg (one_pos.trans grows) (by linarith)
  have boundX := (abs_le.mp spanX).2
  obtain ⟨-, reachTop, reachBottom⟩ := (mem_tilesAround one.size).mp (wall_around one overlaps)
  have beside : ((map.cols : Int), wall.2) ∈ back := by
    refine (listed _).mpr ⟨(mem_tilesAround one.size).mpr ?_, .inr ⟨rfl, by simp; omega⟩⟩
    rw [rightStart]
    exact ⟨⟨by dsimp only; linarith, by dsimp only; linarith⟩, reachTop, reachBottom⟩
  have bottomRows := one.rows
  obtain ⟨rest, same, -, restListed⟩ := foldl_until map
    (pushOutOfTile map radius p wall) sorted positive.le beside
    fun other later before solid => by
      obtain ⟨around, after⟩ := (listed other).mp later
      have := solid_around one placed around solid
      unfold Before at before after
      rcases this with rfl | ⟨column, -⟩ | ⟨row, -⟩ <;> omega
  -- Above the wall's row, no later border reaches the circle.
  have quiet {v : ℝ × ℝ} (high : v.2 ≤ (tileStart map wall).2) :
      rest.foldl (pushOutOfTile map radius) v = v := by
    refine foldl_quiet positive.le fun tile later _ => ?_
    obtain ⟨listed', after⟩ := (restListed tile).mp later
    have lowest := (around_le one placed ((listed tile).mp listed').1).1
    have row : wall.2 + 1 ≤ tile.2 := by
      unfold Before at after
      omega
    have steps : ((wall.2 : ℝ) + 1) * map.tileSize ≤ tile.2 * map.tileSize :=
      mul_le_mul_of_nonneg_right (by exact_mod_cast row) size.le
    refine le_tileDist_below size.le ?_ positive.le
    simp only [tileStart] at high ⊢
    linarith
  rw [resolved, same]
  set a := map.tileSize / (2 * radius) with ha
  set c := (map.tileSize - radius) / tileDist map p wall with hc
  have whole : 2 * radius * a = map.tileSize := by
    rw [ha]
    field_simp
  have cosine : factor * (map.tileSize - radius) = radius * c := by
    rw [scale, hc]
    ring
  have half : 0 < a := div_pos size (by linarith)
  set reached := pushOutOfTile map radius p wall with hr
  have placeX : reached.1 = mapWidth map - (2 * radius * a - radius * c) := by
    rw [pushed, whole, ← cosine]
    dsimp only
    linarith
  have placeY : reached.2 = (tileStart map wall).2 + factor * (p.2 - (tileStart map wall).2) := by
    rw [pushed]
    dsimp only
    ring
  have start : (wall.2 : ℝ) * map.tileSize = (tileStart map wall).2 := rfl
  rw [cosine] at boundX circle longer
  have across : (tileGap map reached ((map.cols : Int), wall.2)).1 =
      reached.1 - mapWidth map := by
    simp only [tileGap, rightStart]
    exact gap_before size.le (by linarith)
  have down : (tileGap map reached ((map.cols : Int), wall.2)).2 =
      factor * (p.2 - (tileStart map wall).2) := by
    simp only [tileGap, rightStart, start]
    rw [gap_before size.le (by linarith), placeY, add_sub_cancel_left]
  have square := tileGap_sq map reached ((map.cols : Int), wall.2)
  rw [across, down, placeX, sub_sub_cancel_left, neg_mul_neg] at square
  have away : 0 < tileDist map reached ((map.cols : Int), wall.2) := by
    refine lt_of_lt_of_le ?_ (abs_gap_le_tileDist _ _ _).2
    rw [down, abs_pos]
    exact upward.ne
  have turned : tileDist map reached ((map.cols : Int), wall.2) < radius ↔ a < c := by
    rw [mul_self_lt_mul_self_iff away.le positive.le, square]
    have difference : (2 * radius * a - radius * c) * (2 * radius * a - radius * c) +
        factor * (p.2 - (tileStart map wall).2) * (factor * (p.2 - (tileStart map wall).2)) =
          radius * radius - 4 * (radius * radius * a) * (c - a) := by
      linarith
    rw [difference, sub_lt_self_iff, mul_pos_iff_of_pos_left (by positivity), sub_pos]
  rw [roomyCosine_eq, le_max_iff]
  rcases lt_or_ge (tileDist map reached ((map.cols : Int), wall.2)) radius with near | far
  · obtain ⟨factor', scale', grows', pushed', circle'⟩ :=
      pushed_stretches (isSolid_right le_rfl) away near
    have far' := turned.mp near
    rw [across, down, sub_sub_cancel, placeY, add_sub_cancel_right, placeX, sub_sub_cancel_left]
      at pushed'
    rw [across, down, placeX, sub_sub_cancel_left] at circle'
    have bound := (abs_le.mp (abs_le_of_circle positive.le circle').1).1
    have higher : factor' * (factor * (p.2 - (tileStart map wall).2)) < 0 :=
      mul_neg_of_pos_of_neg (one_pos.trans grows') upward
    rw [pushed', quiet (by dsimp only; linarith), ← not_lt, tileDist_lt positive, not_lt]
    have beyond : (tileStart map wall).1 + map.tileSize ≤
        mapWidth map + factor' * -(2 * radius * a - radius * c) := by
      linarith
    have gapX : (tileGap map (mapWidth map + factor' * -(2 * radius * a - radius * c),
        (tileStart map wall).2 + factor' * (factor * (p.2 - (tileStart map wall).2))) wall).1 =
          2 * radius * a - factor' * (2 * radius * a - radius * c) :=
      (gap_behind size.le beyond).trans (by linarith)
    have gapY : (tileGap map (mapWidth map + factor' * -(2 * radius * a - radius * c),
        (tileStart map wall).2 + factor' * (factor * (p.2 - (tileStart map wall).2))) wall).2 =
          factor' * (factor * (p.2 - (tileStart map wall).2)) := by
      have before : gap
          ((tileStart map wall).2 + factor' * (factor * (p.2 - (tileStart map wall).2)))
          (tileStart map wall).2 map.tileSize = _ := gap_before size.le (by linarith)
      rw [add_sub_cancel_left] at before
      exact before
    have ahead : c < 2 * a := by
      refine lt_of_mul_lt_mul_left ?_ positive.le
      linarith
    rw [gapX, gapY, scale', corner_lifts positive half circle away square far' ahead]
    exact ⟨.inr, fun either => either.resolve_left (not_le.mpr far')⟩
  · rw [pushOutOfTile_clear positive.le far, quiet (by rw [placeY]; linarith),
      (tileDist_pushed size.le one.solid outside overlaps).2]
    have slight : c ≤ a := not_lt.mp fun more => absurd (turned.mpr more) (not_lt.mpr far)
    exact iff_of_true le_rfl (.inl slight)

/-! ## The verdict -/

/-- When a circle that overlaps the wall is taken out of it: the centre is outside the tile and, if
a far border pushes back, high enough above it; or the tile is so small that one unit leaves it. -/
def TakenOut (map : WorldMap ℝ) (wall : Int × Int) (radius : ℝ) (p : ℝ × ℝ) : Prop :=
  0 < tileDist map p wall ∧
      (p.1 + radius = mapWidth map ∨ p.2 + radius = mapHeight map →
        p.2 < (tileStart map wall).2 ∧
          (map.tileSize - radius) / tileDist map p wall ≤ roomyCosine map radius) ∨
    p = tileMiddle map wall ∧ radius + radius + map.tileSize / JsNumber.ofRat 2 ≤ 1

/-- A centre inside the tile is far from the borders. -/
theorem inside_apart (one : OneWall map wall) (placed : Placed map radius p)
    (inside : tileDist map p wall = 0) :
    p.1 + radius ≠ mapWidth map ∧ p.2 + radius ≠ mapHeight map := by
  have positive := placed.positive
  have overlaps : tileDist map p wall < radius := by rw [inside]; exact positive
  have small := placed.small
  have bounds := abs_gap_le_tileDist map p wall
  rw [inside] at bounds
  constructor
  · intro touches
    rw [(touch_right one placed overlaps touches).2.2] at bounds
    have := (le_abs_self _).trans bounds.1
    linarith
  · intro touches
    rw [(touch_bottom one placed overlaps touches).2.2] at bounds
    have := (le_abs_self _).trans bounds.2
    linarith

theorem taken_out_iff (one : OneWall map wall) (placed : Placed map radius p)
    (overlaps : tileDist map p wall < radius) :
    radius ≤ tileDist map (resolveWallCollision map p.1 p.2 radius) wall ↔
      TakenOut map wall radius p := by
  have nonneg : 0 ≤ tileDist map p wall := tileDist_nonneg
  rcases nonneg.eq_or_lt with inside | outside
  · obtain ⟨right, bottom⟩ := inside_apart one placed inside.symm
    have within : ¬ 0 < tileDist map p wall := by rw [← inside]; exact lt_irrefl 0
    rw [resolveWallCollision_inner one placed overlaps right bottom]
    by_cases middle : p = tileMiddle map wall
    · subst middle
      rw [pushed_middle one placed, two_mul, ← ofRat_two]
      exact ⟨fun unit => .inr ⟨rfl, unit⟩, fun taken => (taken.resolve_left fun out =>
        within out.1).2⟩
    · have still := pushed_inside one placed inside.symm middle
      exact iff_of_false (not_le.mpr still) fun taken => taken.elim (fun out => within out.1)
        fun unit => middle unit.1
  · have off : p ≠ tileMiddle map wall := by
      rintro rfl
      exact outside.ne' (middle_inside one)
    have only : TakenOut map wall radius p ↔
        (p.1 + radius = mapWidth map ∨ p.2 + radius = mapHeight map →
          p.2 < (tileStart map wall).2 ∧
            (map.tileSize - radius) / tileDist map p wall ≤ roomyCosine map radius) :=
      ⟨fun taken => (taken.resolve_right fun unit => off unit.1).2,
        fun high => .inl ⟨outside, high⟩⟩
    rw [only]
    by_cases right : p.1 + radius = mapWidth map
    · rcases lt_or_ge p.2 (tileStart map wall).2 with above | under
      · rw [touch_right_above one placed outside overlaps right above]
        exact ⟨fun roomy _ => ⟨above, roomy⟩, fun high => (high (.inl right)).2⟩
      · have still := touch_right_overlaps one placed outside overlaps right under
        exact iff_of_false (not_le.mpr still) fun high =>
          absurd (high (.inl right)).1 (not_lt.mpr under)
    · by_cases bottom : p.2 + radius = mapHeight map
      · have still := touch_bottom_overlaps one placed outside overlaps right bottom
        have height := (touch_bottom one placed overlaps bottom).2.1
        have small := placed.small
        have positive := placed.positive
        refine iff_of_false (not_le.mpr still) fun high => ?_
        have := (high (.inr bottom)).1
        linarith
      · rw [resolveWallCollision_inner one placed overlaps right bottom,
          (tileDist_pushed one.size.le one.solid outside overlaps).2]
        exact iff_of_true le_rfl fun touches => (touches.elim right bottom).elim

/-- The circle is clear of the wall afterwards, and stays where it is if it was before, if and only
if it was clear or is taken out. -/
theorem resolveWallCollision_clears (one : OneWall map wall) (placed : Placed map radius p) :
    (radius ≤ tileDist map (resolveWallCollision map p.1 p.2 radius) wall ∧
        (radius ≤ tileDist map p wall → resolveWallCollision map p.1 p.2 radius = p)) ↔
      radius ≤ tileDist map p wall ∨ TakenOut map wall radius p := by
  rcases le_or_gt radius (tileDist map p wall) with clear | overlaps
  · have stays := resolveWallCollision_stays one placed clear
    rw [stays]
    exact iff_of_true ⟨clear, fun _ => rfl⟩ (.inl clear)
  · have blocked := not_le.mpr overlaps
    rw [taken_out_iff one placed overlaps]
    exact ⟨fun both => .inr both.1, fun either =>
      ⟨either.resolve_left blocked, fun clear => absurd clear blocked⟩⟩

/-- Three tiles by three, the one in the middle a wall. -/
noncomputable def lonePillar : WorldMap ℝ where
  mapId := "pillar"
  cols := 3
  rows := 3
  tileSize := 40
  tiles := [[.floor, .floor, .floor], [.floor, .wall, .floor], [.floor, .floor, .floor]]
  barrierSpeed := 0
  timeline := fun _ => []

theorem lonePillar_one : OneWall lonePillar (1, 1) where
  size := by norm_num [lonePillar]
  columns := by decide
  rows := by decide
  only := by
    rintro ⟨tx, ty⟩ left top right bottom
    simp only [lonePillar] at left top right bottom
    have column : tx = 0 ∨ tx = 1 ∨ tx = 2 := by omega
    have row : ty = 0 ∨ ty = 1 ∨ ty = 2 := by omega
    rcases column with rfl | rfl | rfl <;> rcases row with rfl | rfl | rfl <;>
      simp [isSolid, lonePillar]

theorem lonePillar_placed {x y : ℝ} (left : 16 ≤ x) (right : x ≤ 104) (top : 16 ≤ y)
    (bottom : y ≤ 104) : Placed lonePillar 16 (x, y) where
  positive := by norm_num
  small := by norm_num [lonePillar]
  left := left
  right := by norm_num [mapWidth, lonePillar]; linarith
  top := top
  bottom := by norm_num [mapHeight, lonePillar]; linarith

/-- Ten units left of the wall. -/
theorem lonePillar_beside : tileDist lonePillar (30, 60) (1, 1) = 10 := by
  have across : (tileGap lonePillar (30, 60) (1, 1)).1 = -10 :=
    (gap_before (by norm_num [lonePillar]) (by norm_num [lonePillar, tileStart])).trans
      (by norm_num [lonePillar, tileStart])
  have down : (tileGap lonePillar (30, 60) (1, 1)).2 = 0 :=
    gap_within (by norm_num [lonePillar, tileStart]) (by norm_num [lonePillar, tileStart])
  have square := tileGap_sq lonePillar (30, 60) (1, 1)
  rw [across, down] at square
  have positive : (0 : ℝ) ≤ 10 := by norm_num
  exact (mul_self_inj tileDist_nonneg positive).mp (by linarith)

theorem resolveWallCollision_clears_beside :
    16 ≤ tileDist lonePillar (resolveWallCollision lonePillar 30 60 16) (1, 1) := by
  have placed : Placed lonePillar 16 (30, 60) := lonePillar_placed (by norm_num) (by norm_num)
    (by norm_num) (by norm_num)
  refine ((resolveWallCollision_clears lonePillar_one placed).mpr (.inr (.inl ⟨?_, ?_⟩))).1
  · rw [lonePillar_beside]
    norm_num
  · rintro (right | bottom)
    · norm_num [mapWidth, lonePillar] at right
    · norm_num [mapHeight, lonePillar] at bottom

/-- A centre inside the tile, ten units above its middle, is still over the wall after the push. -/
theorem resolveWallCollision_keeps_inside :
    OneWall lonePillar (1, 1) ∧ Placed lonePillar 16 (60, 50) ∧
      tileDist lonePillar (resolveWallCollision lonePillar 60 50 16) (1, 1) < 16 := by
  have placed : Placed lonePillar 16 (60, 50) := lonePillar_placed (by norm_num) (by norm_num)
    (by norm_num) (by norm_num)
  have inside : tileDist lonePillar (60, 50) (1, 1) = 0 := by
    have across : (tileGap lonePillar (60, 50) (1, 1)).1 = 0 :=
      gap_within (by norm_num [lonePillar, tileStart]) (by norm_num [lonePillar, tileStart])
    have down : (tileGap lonePillar (60, 50) (1, 1)).2 = 0 :=
      gap_within (by norm_num [lonePillar, tileStart]) (by norm_num [lonePillar, tileStart])
    have square := tileGap_sq lonePillar (60, 50) (1, 1)
    rw [across, down] at square
    exact mul_self_eq_zero.mp (by linarith)
  have off : ((60, 50) : ℝ × ℝ) ≠ tileMiddle lonePillar (1, 1) := by
    intro same
    have second := congrArg Prod.snd same
    norm_num [tileMiddle, ofRat_two, tileStart, lonePillar] at second
  obtain ⟨right, bottom⟩ := inside_apart lonePillar_one placed inside
  have overlaps : tileDist lonePillar (60, 50) (1, 1) < 16 := by
    rw [inside]
    norm_num
  refine ⟨lonePillar_one, placed, ?_⟩
  rw [resolveWallCollision_inner lonePillar_one placed overlaps right bottom]
  exact pushed_inside lonePillar_one placed inside off

end SwitchRemake.Simulation

import SwitchRemake.Simulation.Blink
import SwitchRemake.Simulation.Frenzy

/-!
# Pushes out of a tile

Exact arithmetic. Where one push of `resolveWallCollision` puts a centre, and the order in which the
tiles around a circle are looked at.
-/

namespace SwitchRemake.Simulation
open Lib

/-! ## The gap to a span -/

/-- How far a coordinate is from a span, with the side as its sign. -/
noncomputable def gap (v start size : ℝ) : ℝ := v - nearestOnTile v start size

variable {v start size : ℝ}

theorem gap_before (room : 0 ≤ size) (before : v ≤ start) : gap v start size = v - start := by
  rw [gap, nearestOnTile, min_eq_left (by linarith), max_eq_left before]

theorem gap_within (low : start ≤ v) (high : v ≤ start + size) : gap v start size = 0 := by
  rw [gap, nearestOnTile, min_eq_left high, max_eq_right low, sub_self]

theorem gap_behind (room : 0 ≤ size) (behind : start + size ≤ v) :
    gap v start size = v - (start + size) := by
  rw [gap, nearestOnTile, min_eq_right behind, max_eq_right (by linarith)]

theorem gap_eq_zero (room : 0 ≤ size) : gap v start size = 0 ↔ start ≤ v ∧ v ≤ start + size := by
  constructor
  · intro none_
    by_contra outside
    rcases not_and_or.mp outside with before | behind
    · rw [gap_before room (not_le.mp before).le] at none_
      linarith
    · rw [gap_behind room (not_le.mp behind).le] at none_
      linarith
  · rintro ⟨low, high⟩
    exact gap_within low high

/-- The point of a span that is nearest stays so along the gap. -/
theorem gap_along (v start : ℝ) (room : 0 ≤ size) {factor : ℝ} (ahead : 0 ≤ factor) :
    gap (v - gap v start size + factor * gap v start size) start size =
      factor * gap v start size := by
  rcases le_total v start with before | after
  · have backward : factor * (v - start) ≤ 0 := mul_nonpos_of_nonneg_of_nonpos ahead (by linarith)
    rw [gap_before room before, gap_before room (by linarith)]
    ring
  · rcases le_total v (start + size) with within | behind
    · rw [gap_within after within, mul_zero, add_zero, sub_zero, gap_within after within]
    · have forward : 0 ≤ factor * (v - (start + size)) := mul_nonneg ahead (by linarith)
      rw [gap_behind room behind, gap_behind room (by linarith)]
      ring

theorem abs_gap_le {other : ℝ} (low : start ≤ other) (high : other ≤ start + size) :
    |gap v start size| ≤ |v - other| := by
  have room : 0 ≤ size := by linarith
  rcases le_total v start with before | after
  · rw [gap_before room before, abs_of_nonpos (by linarith), abs_of_nonpos (by linarith)]
    linarith
  · rcases le_total v (start + size) with within | behind
    · rw [gap_within after within, abs_zero]
      exact abs_nonneg _
    · rw [gap_behind room behind, abs_of_nonneg (by linarith), abs_of_nonneg (by linarith)]
      linarith

/-! ## The distance to a tile -/

noncomputable def tileStart (map : WorldMap ℝ) (tile : Int × Int) : ℝ × ℝ :=
  (tile.1 * map.tileSize, tile.2 * map.tileSize)

/-- The points of a tile, its edges included. -/
def OnTile (map : WorldMap ℝ) (tile : Int × Int) (q : ℝ × ℝ) : Prop :=
  ((tileStart map tile).1 ≤ q.1 ∧ q.1 ≤ (tileStart map tile).1 + map.tileSize) ∧
    (tileStart map tile).2 ≤ q.2 ∧ q.2 ≤ (tileStart map tile).2 + map.tileSize

noncomputable def tileGap (map : WorldMap ℝ) (p : ℝ × ℝ) (tile : Int × Int) : ℝ × ℝ :=
  (gap p.1 (tileStart map tile).1 map.tileSize, gap p.2 (tileStart map tile).2 map.tileSize)

noncomputable def tileDist (map : WorldMap ℝ) (p : ℝ × ℝ) (tile : Int × Int) : ℝ :=
  √((tileGap map p tile).1 * (tileGap map p tile).1 +
    (tileGap map p tile).2 * (tileGap map p tile).2)

variable {map : WorldMap ℝ} {p : ℝ × ℝ} {tile : Int × Int} {radius : ℝ}

theorem tileGap_sq (map : WorldMap ℝ) (p : ℝ × ℝ) (tile : Int × Int) :
    tileDist map p tile * tileDist map p tile =
      (tileGap map p tile).1 * (tileGap map p tile).1 +
        (tileGap map p tile).2 * (tileGap map p tile).2 :=
  Real.mul_self_sqrt (add_nonneg (mul_self_nonneg _) (mul_self_nonneg _))

theorem tileDist_nonneg : 0 ≤ tileDist map p tile := Real.sqrt_nonneg _

/-- `tileDist` is the least distance from a point of the tile. -/
theorem tileDist_isLeast (p : ℝ × ℝ) (tile : Int × Int) (room : 0 ≤ map.tileSize) :
    IsLeast {d | ∃ q, OnTile map tile q ∧
      d = √((p.1 - q.1) * (p.1 - q.1) + (p.2 - q.2) * (p.2 - q.2))} (tileDist map p tile) := by
  constructor
  · refine ⟨(p.1 - (tileGap map p tile).1, p.2 - (tileGap map p tile).2), ?_, ?_⟩
    · have along := gap_along p.1 (tileStart map tile).1 room le_rfl
      have down := gap_along p.2 (tileStart map tile).2 room le_rfl
      rw [zero_mul, add_zero, gap_eq_zero room] at along down
      exact ⟨along, down⟩
    · simp only [sub_sub_cancel]
      rfl
  · rintro d ⟨q, ⟨⟨left, right⟩, top, bottom⟩, rfl⟩
    refine Real.sqrt_le_sqrt (add_le_add ?_ ?_)
    · exact abs_le_iff_mul_self_le.mp (abs_gap_le left right)
    · exact abs_le_iff_mul_self_le.mp (abs_gap_le top bottom)

theorem circleOverlapsTile_iff (positive : 0 ≤ radius) :
    circleOverlapsTile p.1 p.2 radius map.tileSize tile = true ↔ tileDist map p tile < radius := by
  rw [circleOverlapsTile, decide_eq_true_eq, ofInt_real, ofInt_real,
    mul_self_lt_mul_self_iff tileDist_nonneg positive, tileGap_sq]
  rfl

/-! ## One push -/

theorem pushOutOfTile_open (open_ : isSolid map tile = false) :
    pushOutOfTile map radius p tile = p := by
  rw [pushOutOfTile, if_pos open_]

theorem pushOutOfTile_clear (positive : 0 ≤ radius) (clear : radius ≤ tileDist map p tile) :
    pushOutOfTile map radius p tile = p := by
  apply pushOutOfTile_free
  have apart : ¬ circleOverlapsTile p.1 p.2 radius map.tileSize tile = true := fun overlaps =>
    absurd ((circleOverlapsTile_iff positive).mp overlaps) (not_lt.mpr clear)
  simp [apart]

noncomputable def tileMiddle (map : WorldMap ℝ) (tile : Int × Int) : ℝ × ℝ :=
  ((tileStart map tile).1 + map.tileSize / JsNumber.ofRat 2,
    (tileStart map tile).2 + map.tileSize / JsNumber.ofRat 2)

theorem ofRat_two : (JsNumber.ofRat 2 : ℝ) = 2 := by simp [JsNumber.ofRat]

/-- The point at `radius` from where `p` would be against the direction. -/
noncomputable def pushedAlong (p direction : ℝ × ℝ) (radius : ℝ) : ℝ × ℝ :=
  let dist := √(direction.1 * direction.1 + direction.2 * direction.2)
  (p.1 + direction.1 / dist * (radius - dist), p.2 + direction.2 / dist * (radius - dist))

theorem pushedAlong_eq {direction : ℝ × ℝ}
    (dist : 0 < √(direction.1 * direction.1 + direction.2 * direction.2)) :
    pushedAlong p direction radius =
      (p.1 - direction.1 +
          radius / √(direction.1 * direction.1 + direction.2 * direction.2) * direction.1,
        p.2 - direction.2 +
          radius / √(direction.1 * direction.1 + direction.2 * direction.2) * direction.2) := by
  unfold pushedAlong
  generalize √(direction.1 * direction.1 + direction.2 * direction.2) = length at dist ⊢
  have apart := dist.ne'
  refine Prod.ext ?_ ?_
  · dsimp only
    field_simp
    ring
  · dsimp only
    field_simp
    ring

theorem pushOutOfTile_overlapping (solid : isSolid map tile = true)
    (overlaps : tileDist map p tile < radius) :
    pushOutOfTile map radius p tile =
      pushedAlong p (if tileDist map p tile = 0 then
        (p.1 - (tileMiddle map tile).1, if p = tileMiddle map tile then -1
          else p.2 - (tileMiddle map tile).2) else tileGap map p tile) radius := by
  have square := tileGap_sq map p tile
  have inside : ¬ radius * radius ≤ tileDist map p tile * tileDist map p tile :=
    not_le.mpr (mul_self_lt_mul_self tileDist_nonneg overlaps)
  have closed : ¬ isSolid map tile = false := by simp [solid]
  have touching : tileDist map p tile = 0 ↔ (tileGap map p tile).1 * (tileGap map p tile).1 +
      (tileGap map p tile).2 * (tileGap map p tile).2 = 0 := by
    rw [← square, mul_self_eq_zero]
  have centred : p = tileMiddle map tile ↔
      p.1 - (tileMiddle map tile).1 = 0 ∧ p.2 - (tileMiddle map tile).2 = 0 := by
    rw [sub_eq_zero, sub_eq_zero, Prod.ext_iff]
  simp only [touching, centred]
  rw [square] at inside
  rw [pushOutOfTile, if_neg closed]
  simp only [ofInt_real]
  exact if_neg inside

/-- A centre outside goes along the gap, up to the radius. -/
theorem pushOutOfTile_outside (solid : isSolid map tile = true) (outside : 0 < tileDist map p tile)
    (overlaps : tileDist map p tile < radius) :
    pushOutOfTile map radius p tile =
      (p.1 - (tileGap map p tile).1 + radius / tileDist map p tile * (tileGap map p tile).1,
        p.2 - (tileGap map p tile).2 + radius / tileDist map p tile * (tileGap map p tile).2) := by
  rw [pushOutOfTile_overlapping solid overlaps, if_neg outside.ne', pushedAlong_eq outside]
  rfl

/-- A push from outside ends at the radius from the tile. -/
theorem tileDist_pushed (room : 0 ≤ map.tileSize) (solid : isSolid map tile = true)
    (outside : 0 < tileDist map p tile) (overlaps : tileDist map p tile < radius) :
    tileGap map (pushOutOfTile map radius p tile) tile =
      (radius / tileDist map p tile * (tileGap map p tile).1,
        radius / tileDist map p tile * (tileGap map p tile).2) ∧
    tileDist map (pushOutOfTile map radius p tile) tile = radius := by
  have positive : 0 < radius := outside.trans overlaps
  have ahead : 0 ≤ radius / tileDist map p tile := div_nonneg positive.le outside.le
  have gaps : tileGap map (pushOutOfTile map radius p tile) tile =
      (radius / tileDist map p tile * (tileGap map p tile).1,
        radius / tileDist map p tile * (tileGap map p tile).2) := by
    rw [pushOutOfTile_outside solid outside overlaps]
    exact Prod.ext (gap_along _ _ room ahead) (gap_along _ _ room ahead)
  refine ⟨gaps, ?_⟩
  have square := tileGap_sq map p tile
  have scaled : tileDist map (pushOutOfTile map radius p tile) tile *
      tileDist map (pushOutOfTile map radius p tile) tile = radius * radius := by
    rw [tileGap_sq, gaps]
    have factored : (radius / tileDist map p tile) * (radius / tileDist map p tile) *
        (tileDist map p tile * tileDist map p tile) = radius * radius := by
      have apart := outside.ne'
      field_simp
    rw [square] at factored
    dsimp only
    linarith
  exact (mul_self_inj tileDist_nonneg positive.le).mp scaled

/-- A centre inside, but not in the middle, ends at the radius from the middle. -/
theorem pushOutOfTile_inside (solid : isSolid map tile = true) (inside : tileDist map p tile = 0)
    (positive : 0 < radius) (off : p ≠ tileMiddle map tile) :
    ∃ factor : ℝ, 0 ≤ factor ∧
      pushOutOfTile map radius p tile =
        ((tileMiddle map tile).1 + factor * (p.1 - (tileMiddle map tile).1),
          (tileMiddle map tile).2 + factor * (p.2 - (tileMiddle map tile).2)) ∧
      factor * factor * ((p.1 - (tileMiddle map tile).1) * (p.1 - (tileMiddle map tile).1) +
        (p.2 - (tileMiddle map tile).2) * (p.2 - (tileMiddle map tile).2)) = radius * radius := by
  set dx := p.1 - (tileMiddle map tile).1 with hx
  set dy := p.2 - (tileMiddle map tile).2 with hy
  have away : 0 < dx * dx + dy * dy := by
    rcases eq_or_ne dx 0 with flat | across
    · have down : dy ≠ 0 := fun level => off (Prod.ext (by linarith) (by linarith))
      have := mul_self_pos.mpr down
      have := mul_self_nonneg dx
      linarith
    · have := mul_self_pos.mpr across
      have := mul_self_nonneg dy
      linarith
  have dist : 0 < √(dx * dx + dy * dy) := Real.sqrt_pos.mpr away
  refine ⟨radius / √(dx * dx + dy * dy), div_nonneg positive.le dist.le, ?_, ?_⟩
  · rw [pushOutOfTile_overlapping solid (inside ▸ positive), if_pos inside, if_neg off,
      pushedAlong_eq dist]
    simp only [← hx, ← hy]
    rw [hx, hy, sub_sub_cancel, sub_sub_cancel]
  · have square := Real.mul_self_sqrt away.le
    rw [div_mul_div_comm, square, div_mul_cancel₀ _ away.ne']

/-- A centre in the middle goes up by one less than the radius. -/
theorem pushOutOfTile_middle (solid : isSolid map tile = true)
    (inside : tileDist map (tileMiddle map tile) tile = 0) (positive : 0 < radius) :
    pushOutOfTile map radius (tileMiddle map tile) tile =
      ((tileMiddle map tile).1, (tileMiddle map tile).2 - (radius - 1)) := by
  rw [pushOutOfTile_overlapping solid (inside ▸ positive), if_pos inside, if_pos rfl, pushedAlong]
  simp
  ring

/-! ## The tiles around a circle -/

theorem mem_intRange {low high n : Int} : n ∈ intRange low high ↔ low ≤ n ∧ n ≤ high := by
  simp only [intRange, List.mem_map, List.mem_range]
  constructor
  · rintro ⟨k, inside, rfl⟩
    omega
  · rintro ⟨above, below⟩
    exact ⟨(n - low).toNat, by omega, by omega⟩

theorem intRange_sorted (low high : Int) : (intRange low high).Pairwise (· < ·) := by
  refine List.pairwise_map.mpr (List.pairwise_lt_range.imp ?_)
  intro a b less
  omega

/-- Row by row, each from the left. -/
def Before (a b : Int × Int) : Prop := a.2 < b.2 ∨ a.2 = b.2 ∧ a.1 < b.1

variable {x y : ℝ}

theorem tilesAround_sorted (map : WorldMap ℝ) (x y radius : ℝ) :
    (tilesAround map x y radius).Pairwise Before := by
  refine List.pairwise_flatMap.mpr ⟨fun row _ => ?_, (intRange_sorted _ _).imp ?_⟩
  · exact List.pairwise_map.mpr ((intRange_sorted _ _).imp fun less => .inr ⟨rfl, less⟩)
  · intro above below less a inAbove b inBelow
    obtain ⟨_, _, rfl⟩ := List.mem_map.mp inAbove
    obtain ⟨_, _, rfl⟩ := List.mem_map.mp inBelow
    exact .inl less

theorem mem_tilesAround (size : 0 < map.tileSize) :
    tile ∈ tilesAround map x y radius ↔
      (x - radius < (tileStart map tile).1 + map.tileSize ∧
          (tileStart map tile).1 ≤ x + radius) ∧
        y - radius < (tileStart map tile).2 + map.tileSize ∧
          (tileStart map tile).2 ≤ y + radius := by
  have low (n : Int) (v : ℝ) : ⌊v / map.tileSize⌋ ≤ n ↔ v < n * map.tileSize + map.tileSize := by
    rw [← Int.lt_add_one_iff, Int.floor_lt, div_lt_iff₀ size]
    push_cast
    rw [add_mul, one_mul]
  have high (n : Int) (v : ℝ) : n ≤ ⌊v / map.tileSize⌋ ↔ n * map.tileSize ≤ v := by
    rw [Int.le_floor, le_div_iff₀ size]
  have listed : tile ∈ tilesAround map x y radius ↔
      (⌊(y - radius) / map.tileSize⌋ ≤ tile.2 ∧ tile.2 ≤ ⌊(y + radius) / map.tileSize⌋) ∧
        ⌊(x - radius) / map.tileSize⌋ ≤ tile.1 ∧ tile.1 ≤ ⌊(x + radius) / map.tileSize⌋ := by
    simp only [tilesAround, List.mem_flatMap, List.mem_map, mem_intRange]
    constructor
    · rintro ⟨_, rows, _, columns, rfl⟩
      exact ⟨rows, columns⟩
    · rintro ⟨rows, columns⟩
      exact ⟨tile.2, rows, tile.1, columns, rfl⟩
  rw [listed, low, high, low, high]
  exact And.comm

theorem foldl_quiet {tiles : List (Int × Int)} (positive : 0 ≤ radius)
    (quiet : ∀ tile ∈ tiles, isSolid map tile = true → radius ≤ tileDist map p tile) :
    tiles.foldl (pushOutOfTile map radius) p = p := by
  induction tiles with
  | nil => rfl
  | cons tile rest ih =>
    have stays : pushOutOfTile map radius p tile = p := by
      cases solid : isSolid map tile with
      | false => exact pushOutOfTile_open solid
      | true => exact pushOutOfTile_clear positive (quiet tile List.mem_cons_self solid)
    rw [List.foldl_cons, stays]
    exact ih fun other later => quiet other (List.mem_cons_of_mem tile later)

/-- Nothing happens until the first tile that moves the circle. -/
theorem foldl_until (map : WorldMap ℝ) (p : ℝ × ℝ) {tiles : List (Int × Int)}
    (sorted : tiles.Pairwise Before) (positive : 0 ≤ radius) (member : tile ∈ tiles)
    (quiet : ∀ other ∈ tiles, Before other tile → isSolid map other = true →
      radius ≤ tileDist map p other) :
    ∃ back : List (Int × Int), tiles.foldl (pushOutOfTile map radius) p =
        back.foldl (pushOutOfTile map radius) (pushOutOfTile map radius p tile) ∧
      back.Pairwise Before ∧ ∀ other, other ∈ back ↔ other ∈ tiles ∧ Before tile other := by
  obtain ⟨front, back, rfl⟩ := List.append_of_mem member
  obtain ⟨-, later, across⟩ := List.pairwise_append.mp sorted
  obtain ⟨after, rest⟩ := List.pairwise_cons.mp later
  have before (other : Int × Int) (listed : other ∈ front) : Before other tile :=
    across other listed tile List.mem_cons_self
  have stays : front.foldl (pushOutOfTile map radius) p = p :=
    foldl_quiet positive fun other listed =>
      quiet other (List.mem_append_left _ listed) (before other listed)
  refine ⟨back, ?_, rest, fun other => ⟨fun listed => ⟨by simp [listed], after other listed⟩, ?_⟩⟩
  · rw [List.foldl_append, List.foldl_cons, stays]
  · rintro ⟨listed, late⟩
    rcases List.mem_append.mp listed with early | here
    · have := before other early
      unfold Before at this late
      omega
    · rcases List.mem_cons.mp here with rfl | here
      · unfold Before at late
        omega
      · exact here

end SwitchRemake.Simulation

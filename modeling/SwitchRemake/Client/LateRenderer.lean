import SwitchRemake.Client.BufferedSnapshots
import SwitchRemake.Client.SceneView

/-!
# A late renderer

A scene that comes late takes one frame for all the frames that were buffered. It shows what a scene
that was there from the start shows, as long as no section was lost at a full frame.
-/

namespace SwitchRemake.Client
open Lib Simulation Wire
open Protocol (Bytes)

/-- Small whole numbers compare as they should. Exact arithmetic and doubles do. -/
class IndexNumber (K : Type) [JsNumber K] : Prop extends WireNumber K where
  ofInt_nonneg : ∀ n : Int, 0 ≤ n → n ≤ 255 → (0 : K) ≤ JsNumber.ofInt n
  ofInt_lt : ∀ m n : Int, 0 ≤ m → m < n → n ≤ 255 → (JsNumber.ofInt m : K) < JsNumber.ofInt n

instance : IndexNumber ℚ where
  ofInt_nonneg _ nonneg _ := Int.cast_nonneg nonneg
  ofInt_lt _ _ _ less _ := Int.cast_lt.mpr less

noncomputable instance : IndexNumber ℝ where
  ofInt_nonneg _ nonneg _ := Rat.cast_nonneg.mpr (Int.cast_nonneg nonneg)
  ofInt_lt _ _ _ less _ := Rat.cast_lt.mpr (Int.cast_lt.mpr less)

variable {K : Type} [JsNumber K]

/-! ## The frames a server sends -/

/-- The last map that was sent. -/
def mapIn (frames : List (Snapshot K)) : Option (SnapshotMap K) :=
  (frames.filterMap Snapshot.map).getLast?

/-- A full frame carries the map and the roster. The first frame is full, and so is one with a lower
tick; a changed tile is a tile of the last map. -/
structure Served (frames : List (Snapshot K)) : Prop where
  fits : ∀ s ∈ frames, s.Fits
  full : ∀ s ∈ frames, s.full = true → s.map.isSome = true ∧ s.roster.isSome = true
  opens : ∀ before s after, frames = before ++ s :: after →
    (∀ last, before.getLast? = some last → Wire.whole s.tick < Wire.whole last.tick) →
      s.full = true
  inside : ∀ before s after, frames = before ++ s :: after →
    ∀ changes ∈ s.tileChanges, ∀ c ∈ changes, ∃ map, mapIn (before ++ [s]) = some map ∧
      JsNumber.round c.x < map.cols ∧ JsNumber.round c.y < map.rows

/-- From the last full frame on. -/
def sinceFull (frames : List (Snapshot K)) : List (Snapshot K) :=
  frames.foldl (fun timeline s => if s.full then [s] else timeline ++ [s]) []

/-- A section that was ever carried was carried again since the last full frame. -/
def Renewed (frames : List (Snapshot K)) (carries : Snapshot K → Bool) : Prop :=
  frames.any carries = true → (sinceFull frames).any carries = true

instance (frames : List (Snapshot K)) (carries : Snapshot K → Bool) :
    Decidable (Renewed frames carries) :=
  inferInstanceAs (Decidable (_ → _))

/-- The two scenes show the same. -/
structure SameDrawing (s t : WorldScene K) : Prop where
  map : s.map = t.map
  tileAlphas : s.tileAlphas = t.tileAlphas
  storm : s.storm = t.storm
  selfId : s.selfId = t.selfId
  look : ∀ id, s.look id = t.look id

/-- What the decoded frames say. -/
def viewOf (frames : List (Snapshot K)) : SceneView K :=
  (frames.map Snapshot.quantise).foldl SceneView.apply .fresh

theorem viewOf_append (frames : List (Snapshot K)) (s : Snapshot K) :
    viewOf (frames ++ [s]) = (viewOf frames).apply s.quantise := by
  simp [viewOf]

omit [JsNumber K] in
theorem sinceFull_append (frames : List (Snapshot K)) (s : Snapshot K) :
    sinceFull (frames ++ [s]) = if s.full then [s] else sinceFull frames ++ [s] := by
  simp [sinceFull]

omit [JsNumber K] in
theorem mapIn_append (frames : List (Snapshot K)) (s : Snapshot K) :
    mapIn (frames ++ [s]) = s.map.or (mapIn frames) := by
  rw [mapIn, List.filterMap_append]
  cases carried : s.map <;> simp [mapIn, carried]

theorem Served.init {frames : List (Snapshot K)} {s : Snapshot K} (served : Served (frames ++ [s])) :
    Served frames where
  fits t member := served.fits t (List.mem_append_left _ member)
  full t member := served.full t (List.mem_append_left _ member)
  opens before t after split := served.opens before t (after ++ [s]) (by simp [split])
  inside before t after split := served.inside before t (after ++ [s]) (by simp [split])

/-! ## The tiles -/

/-- The number is a byte, as the decoder reads it. -/
def Read (v : K) : Prop := Byte v ∧ Wire.whole v = v

/-- Rows of one length, of cells that were read. -/
structure Grid (rows cols : Nat) (tiles : List (List K)) : Prop where
  height : tiles.length = rows
  width : ∀ row ∈ tiles, row.length = cols
  cells : ∀ row ∈ tiles, ∀ tile ∈ row, Read tile

/-- A change that was read, of a map with so many columns. -/
structure OnMap (cols : Nat) (c : TileChange K) : Prop where
  x : Read c.x
  y : Read c.y
  physics : Read c.physics
  column : JsNumber.round c.x < cols

section Tiles
variable {c : TileChange K} {rows cols : Nat} {tiles : List (List K)}

theorem index?_read {v : K} (read : Read v) : index? v = some (JsNumber.round v).toNat := by
  have back : JsNumber.ofInt ((JsNumber.round v).toNat : Int) = v := by
    rw [Int.toNat_of_nonneg read.1.1]
    exact read.2
  exact if_pos back

theorem writeCell_onMap (on : OnMap cols c) {row : List K} (width : row.length = cols) :
    writeCell row c.x c.physics = row.set (JsNumber.round c.x).toNat c.physics := by
  have nonneg := on.x.1.1
  have column := on.column
  have inside : (JsNumber.round c.x).toNat < row.length := by omega
  simp only [writeCell, index?_read on.x, if_pos inside]

theorem patchCell_onMap [IndexNumber K] (on : OnMap cols c) (few : cols ≤ 255) {row : List K}
    (width : row.length = cols) : patchCell row c.x c.physics = writeCell row c.x c.physics := by
  have column := on.column
  have left : (0 : K) ≤ c.x := by
    rw [← on.x.2]
    exact IndexNumber.ofInt_nonneg _ on.x.1.1 on.x.1.2
  have right : c.x < JsNumber.ofInt row.length := by
    rw [← on.x.2, width]
    exact IndexNumber.ofInt_lt _ _ on.x.1.1 column (by omega)
  rw [patchCell, if_pos ⟨left, right⟩]

theorem patchTile_onMap [IndexNumber K] (on : OnMap cols c) (few : cols ≤ 255)
    (grid : Grid rows cols tiles) : patchTile tiles c = writeTile tiles c := by
  simp only [patchTile, writeTile, index?_read on.y]
  apply List.ext_getElem?
  intro i
  rw [List.getElem?_modify, List.getElem?_modify]
  cases found : tiles[i]? with
  | none => rfl
  | some row =>
    have width := grid.width row (List.mem_of_getElem? found)
    refine congrArg some ?_
    split
    · exact patchCell_onMap on few width
    · rfl

theorem mem_writeTile {row : List K} (on : OnMap cols c) (grid : Grid rows cols tiles)
    (member : row ∈ writeTile tiles c) : row ∈ tiles ∨
      ∃ old ∈ tiles, row = old.set (JsNumber.round c.x).toNat c.physics := by
  simp only [writeTile, index?_read on.y] at member
  obtain ⟨i, found⟩ := List.mem_iff_getElem?.mp member
  rw [List.getElem?_modify] at found
  obtain ⟨old, here, same⟩ := Option.map_eq_some_iff.mp found
  have listed := List.mem_of_getElem? here
  split at same
  · right
    exact ⟨old, listed, by rw [← same, writeCell_onMap on (grid.width old listed)]⟩
  · left
    exact same ▸ listed

theorem Grid.write (grid : Grid rows cols tiles) (on : OnMap cols c) :
    Grid rows cols (writeTile tiles c) where
  height := by
    simp only [writeTile, index?_read on.y, List.length_modify]
    exact grid.height
  width row member := by
    rcases mem_writeTile on grid member with old | ⟨old, listed, rfl⟩
    · exact grid.width row old
    · rw [List.length_set]
      exact grid.width old listed
  cells row member tile inside := by
    rcases mem_writeTile on grid member with old | ⟨old, listed, rfl⟩
    · exact grid.cells row old tile inside
    · rcases List.mem_or_eq_of_mem_set inside with kept | rfl
      · exact grid.cells old listed tile kept
      · exact on.physics

/-- The buffer patches its map as the scene does. -/
theorem patch_changes [IndexNumber K] {changes : List (TileChange K)} (few : cols ≤ 255)
    (on : ∀ c ∈ changes, OnMap cols c) (grid : Grid rows cols tiles) :
    changes.foldl patchTile tiles = changes.foldl writeTile tiles ∧
      Grid rows cols (changes.foldl writeTile tiles) := by
  induction changes generalizing tiles with
  | nil => exact ⟨rfl, grid⟩
  | cons c changes ih =>
    have first := on c List.mem_cons_self
    have rest := ih (fun c member => on c (List.mem_cons_of_mem _ member)) (grid.write first)
    rw [List.foldl_cons, List.foldl_cons, patchTile_onMap first few grid]
    exact rest

end Tiles

section Reading
variable [WireNumber K] {s : Snapshot K}

theorem read_whole {v : K} (fits : Byte v) : Read (Wire.whole v) := by
  refine ⟨fits.whole, ?_⟩
  rw [Wire.whole, round_whole fits (by decide) (by decide)]
  rfl

/-- The changes of a decoded frame are changes of the map the frame was sent for. -/
theorem changes_onMap (fits : s.Fits) {cols : Nat}
    (inside : ∀ changes ∈ s.tileChanges, ∀ c ∈ changes, JsNumber.round c.x < cols) :
    ∀ c ∈ s.quantise.tileChanges.getD [], OnMap cols c := by
  intro c member
  cases carried : nonEmpty s.tileChanges with
  | none => simp [Snapshot.quantise, carried] at member
  | some changes =>
    have sent := nonEmpty_some carried
    simp only [Snapshot.quantise, carried, Option.map_some, Option.getD_some, List.mem_map] at member
    obtain ⟨old, listed, rfl⟩ := member
    obtain ⟨x, y, physics⟩ := fits.tileChanges changes sent old listed
    refine ⟨read_whole x, read_whole y, read_whole physics, ?_⟩
    rw [TileChange.quantise, round_whole x (by decide) (by decide)]
    exact inside changes sent old listed

end Reading

theorem grid_of_wired {s : Snapshot K} {map : SnapshotMap K} (wired : s.Wired)
    (here : s.map = some map) : Grid map.rows map.cols map.tiles where
  height := (wired.fits.map map here).height
  width := (wired.fits.map map here).width
  cells row listed tile inside := by
    refine ⟨(wired.fits.map map here).tiles row listed tile inside, ?_⟩
    have same := congrArg Snapshot.map wired.rounded
    rw [Snapshot.quantise, here, Option.map_some, Option.some.injEq] at same
    have tiles : map.tiles.map (fun row => row.map Wire.whole) = map.tiles.map id := by
      rw [List.map_id]
      exact congrArg SnapshotMap.tiles same
    have cells : row.map Wire.whole = row.map id := by
      rw [List.map_id]
      exact List.map_inj_left.mp tiles row listed
    exact List.map_inj_left.mp cells tile inside

theorem map_of_grid {map : SnapshotMap K} (cols : map.cols ≤ 255) (rows : map.rows ≤ 255)
    (grid : Grid map.rows map.cols map.tiles) : map.Fits ∧ map.quantise = map := by
  refine ⟨⟨cols, rows, grid.height, grid.width, fun row listed tile inside =>
    (grid.cells row listed tile inside).1⟩, ?_⟩
  have tiles : map.tiles.map (fun row => row.map Wire.whole) = map.tiles := by
    conv_rhs => rw [← List.map_id map.tiles]
    refine List.map_congr_left fun row listed => ?_
    conv_rhs => rw [id, ← List.map_id row]
    exact List.map_congr_left fun tile inside => (grid.cells row listed tile inside).2
  rw [SnapshotMap.quantise, tiles]

/-! ## What the buffer holds -/

/-- A section of the buffer: what it carries is what the view shows, and it carries whatever came
since the last full frame; until a frame carries the section the view shows what a fresh one does. -/
structure Section {α : Type} (frames : List (Snapshot K)) (carries : Snapshot K → Bool)
    (field : Option α) (shown initial : α) : Prop where
  shows : ∀ a ∈ field, shown = a
  carried : (sinceFull frames).any carries = true → field.isSome = true
  untouched : frames.any carries = false → shown = initial

omit [JsNumber K] in
theorem Section.step {α : Type} {frames : List (Snapshot K)} {carries : Snapshot K → Bool}
    {field : Option α} {shown initial : α} (holds : Section frames carries field shown initial)
    (s : Snapshot K) (next : Option α) (same : next.isSome = carries s) :
    Section (frames ++ [s]) carries (if s.full then next else next.or field) (next.getD shown)
      initial := by
  obtain ⟨shows, carried, untouched⟩ := holds
  refine ⟨?_, ?_, ?_⟩
  · cases next with
    | none =>
      cases s.full with
      | true => simp
      | false => simpa using shows
    | some a => cases s.full <;> simp
  · rw [sinceFull_append]
    cases next with
    | none =>
      have absent : carries s = false := by simpa using same.symm
      cases s.full with
      | true => simp [absent]
      | false => simpa [absent] using carried
    | some a => cases s.full <;> simp
  · intro never
    rw [List.any_append, Bool.or_eq_false_iff] at never
    cases next with
    | none => exact untouched never.1
    | some a =>
      have present : carries s = true := by simpa using same.symm
      simp [present] at never

omit [JsNumber K] in
/-- A section that was renewed is all there is to show. -/
theorem Section.complete {α : Type} {frames : List (Snapshot K)} {carries : Snapshot K → Bool}
    {field : Option α} {shown initial : α} (holds : Section frames carries field shown initial)
    (renewed : Renewed frames carries) : field.getD initial = shown := by
  cases here : field with
  | some a => exact (holds.shows a here).symm
  | none =>
    refine (holds.untouched ?_).symm
    cases ever : frames.any carries with
    | false => rfl
    | true =>
      have present := holds.carried (renewed ever)
      rw [here] at present
      cases present

/-- The buffer of a run of frames. -/
def bufferOf (frames : List (Snapshot K)) : Option (Snapshot K) :=
  (frames.map Snapshot.quantise).foldl (fun snapshot s => some (pushed snapshot s)) none

theorem bufferOf_append (frames : List (Snapshot K)) (s : Snapshot K) :
    bufferOf (frames ++ [s]) = some (pushed (bufferOf frames) s.quantise) := by
  simp [bufferOf]

structure Buffered (frames : List (Snapshot K)) (b : Option (Snapshot K)) : Prop where
  wired : ∀ m ∈ b, m.Wired
  unchanged : ∀ m ∈ b, m.tileChanges = none
  tick : (viewOf frames).tick = b.map Snapshot.tick
  map : b.isSome = true → ∃ map, b.bind Snapshot.map = some map ∧ (viewOf frames).map = some map ∧
    ∃ sent, mapIn frames = some sent ∧ sent.cols = map.cols
  tileAlphas : Section frames (·.tileAlphas.isSome) (b.bind Snapshot.tileAlphas)
    (viewOf frames).tileAlphas []
  storm : Section frames (·.storm.isSome) (b.bind Snapshot.storm) (viewOf frames).storm none
  selfId : Section frames (·.selfId.isSome) ((b.bind Snapshot.selfId).map some)
    (viewOf frames).selfId none
  players : Section frames (·.players.isSome) (b.bind Snapshot.players) (viewOf frames).players []
  placed : (b.bind Snapshot.players).isSome = true → (viewOf frames).placed = true
  unplaced : frames.any (·.players.isSome) = false → (viewOf frames).placed = false

section Pushing
variable {frames : List (Snapshot K)} {s : Snapshot K} {b : Option (Snapshot K)}

theorem viewOf_tick (frames : List (Snapshot K)) :
    (viewOf frames).tick = frames.getLast?.map fun last => Wire.whole last.tick := by
  rcases List.eq_nil_or_concat frames with rfl | ⟨init, last, rfl⟩
  · rfl
  · rw [List.concat_eq_append, viewOf_append, List.getLast?_concat]
    rfl

/-- A frame begins anew exactly when it is full. -/
theorem joined_cases (served : Served (frames ++ [s])) (holds : Buffered frames b) :
    (s.full = true ∧ joined b s.quantise = s.quantise) ∨
      (s.full = false ∧ ∃ m, b = some m ∧ joined b s.quantise = merged m s.quantise ∧
        ¬ s.quantise.tick < m.tick) := by
  cases full : s.full with
  | true =>
    left
    have anew : keptBy b s.quantise = none := by
      cases b <;> simp [keptBy, Snapshot.quantise, full, Option.filter]
    rw [joined, anew]
    exact ⟨rfl, rfl⟩
  | false =>
    right
    have follows : ¬ ∀ last, frames.getLast? = some last →
        Wire.whole s.tick < Wire.whole last.tick :=
      fun lower => by
        have opens := served.opens frames s [] rfl lower
        rw [full] at opens
        cases opens
    simp only [not_forall] at follows
    obtain ⟨last, ends, notLower⟩ := follows
    have tick := holds.tick
    rw [viewOf_tick, ends, Option.map_some] at tick
    obtain ⟨m, rfl, same⟩ := Option.map_eq_some_iff.mp tick.symm
    have later : ¬ s.quantise.tick < m.tick := by
      rw [same]
      exact notLower
    have kept : keptBy (some m) s.quantise = some m := by
      have partly : s.quantise.full = false := full
      simp [keptBy, Option.filter, partly, later]
    rw [joined, kept]
    exact ⟨rfl, m, rfl, rfl, later⟩

/-- The sections of the joined frame, `field` by `field`. -/
theorem joined_field {α : Type} (field : Snapshot K → Option α)
    (merges : ∀ m n : Snapshot K, field (merged m n) = (field n).or (field m))
    (served : Served (frames ++ [s])) (holds : Buffered frames b) :
    field (joined b s.quantise) =
      if s.full then field s.quantise else (field s.quantise).or (b.bind field) := by
  rcases joined_cases served holds with ⟨full, same⟩ | ⟨partly, m, rfl, same, _⟩
  · rw [same, if_pos full]
  · rw [same, merges, partly]
    rfl

/-- With a map at hand the changes are written into it. -/
theorem pushed_eq {next : Snapshot K} {map : SnapshotMap K} (here : (joined b next).map = some map)
    (unchanged : next.tileChanges = none → (joined b next).tileChanges = none) :
    pushed b next =
      { joined b next with
        map := some { map with tiles := (next.tileChanges.getD []).foldl patchTile map.tiles }
        tileChanges := none } := by
  unfold pushed
  cases changes : next.tileChanges with
  | none =>
    have bare := unchanged changes
    generalize joined b next = whole at here bare
    cases whole
    cases here
    cases bare
    rfl
  | some changes => simp only [here, Option.getD_some]

theorem buffered_nil : Buffered ([] : List (Snapshot K)) none where
  wired := by simp
  unchanged := by simp
  tick := rfl
  map := by simp
  tileAlphas := ⟨by simp, by simp [sinceFull], fun _ => rfl⟩
  storm := ⟨by simp, by simp [sinceFull], fun _ => rfl⟩
  selfId := ⟨by simp, by simp [sinceFull], fun _ => rfl⟩
  players := ⟨by simp, by simp [sinceFull], fun _ => rfl⟩
  placed := by simp
  unplaced _ := rfl

/-- The map of the joined frame is the one the view has before the changes. -/
theorem joined_map (served : Served (frames ++ [s])) (holds : Buffered frames b) :
    ∃ map, (joined b s.quantise).map = some map ∧
      s.quantise.map.or (viewOf frames).map = some map ∧
      ∃ sent, mapIn (frames ++ [s]) = some sent ∧ sent.cols = map.cols := by
  have member : s ∈ frames ++ [s] := by simp
  rw [mapIn_append]
  cases carried : s.map with
  | some sent =>
    have here : s.quantise.map = some sent.quantise := by simp [Snapshot.quantise, carried]
    refine ⟨sent.quantise, ?_, by rw [here]; rfl, sent, rfl, rfl⟩
    rw [joined_field Snapshot.map (fun _ _ => rfl) served holds, here]
    cases s.full <;> rfl
  | none =>
    have absent : s.quantise.map = none := by simp [Snapshot.quantise, carried]
    rcases joined_cases served holds with ⟨full, _⟩ | ⟨_, m, rfl, same, _⟩
    · have carries := (served.full s member full).1
      rw [carried] at carries
      cases carries
    · obtain ⟨map, buffered, viewed, sent, last, cols⟩ := holds.map rfl
      refine ⟨map, ?_, ?_, sent, last, cols⟩
      · rw [same]
        exact (congrArg (Option.or · m.map) absent).trans buffered
      · rw [absent]
        exact viewed

omit [JsNumber K] in
theorem or_either {α : Type} (first second : Option α) :
    first.or second = first ∨ first.or second = second := by
  cases first with
  | none => exact .inr rfl
  | some a => exact .inl rfl

/-- Whatever map the joined frame is given, it is a frame that can be sent. -/
theorem remapped_wired [WireNumber K] (served : Served (frames ++ [s])) (holds : Buffered frames b)
    {map : SnapshotMap K} (good : map.Fits ∧ map.quantise = map) :
    ({ joined b s.quantise with map := some map, tileChanges := none } : Snapshot K).Wired := by
  have new : s.quantise.Wired := (served.fits s (by simp)).wired
  rcases joined_cases served holds with ⟨_, same⟩ | ⟨_, m, rfl, same, _⟩
  · have alone : Assembled s.quantise s.quantise
        { s.quantise with map := some map, tileChanges := none } :=
      ⟨rfl, rfl, fun _ here => Option.some.inj here ▸ good, rfl, .inl rfl, .inl rfl, .inl rfl,
        .inl rfl, .inl rfl, .inl rfl, new.fits.own, .inl rfl⟩
    rw [same]
    exact alone.wired new new
  · have old := holds.wired m rfl
    have both : Assembled m s.quantise
        { merged m s.quantise with map := some map, tileChanges := none } :=
      ⟨rfl, rfl, fun _ here => Option.some.inj here ▸ good, rfl, or_either _ _, or_either _ _,
        or_either _ _, or_either _ _, or_either _ _, or_either _ _, fun alone =>
          have ⟨first, second⟩ := Option.or_eq_none_iff.mp alone
          Option.or_eq_none_iff.mpr ⟨new.fits.own first, old.fits.own second⟩, or_either _ _⟩
    rw [same]
    exact both.wired old new

theorem joined_grid [WireNumber K] (served : Served (frames ++ [s])) (holds : Buffered frames b)
    {map : SnapshotMap K} (here : (joined b s.quantise).map = some map) :
    map.cols ≤ 255 ∧ map.rows ≤ 255 ∧ Grid map.rows map.cols map.tiles := by
  have read {r : Snapshot K} (wired : r.Wired) (carried : r.map = some map) :
      map.cols ≤ 255 ∧ map.rows ≤ 255 ∧ Grid map.rows map.cols map.tiles :=
    ⟨(wired.fits.map map carried).cols, (wired.fits.map map carried).rows, grid_of_wired wired carried⟩
  have new : s.quantise.Wired := (served.fits s (by simp)).wired
  rcases joined_cases served holds with ⟨_, same⟩ | ⟨_, m, rfl, same, _⟩
  · exact read new (same ▸ here)
  · rw [same] at here
    rcases or_either s.quantise.map m.map with own | kept
    · exact read new (own.symm.trans here)
    · exact read (holds.wired m rfl) (kept.symm.trans here)

/-- What the buffer holds after one more frame. -/
theorem buffered_append [IndexNumber K] (served : Served (frames ++ [s])) (holds : Buffered frames b) :
    Buffered (frames ++ [s]) (some (pushed b s.quantise)) := by
  have fits : s.Fits := served.fits s (by simp)
  obtain ⟨map, here, viewed, sent, last, cols⟩ := joined_map served holds
  obtain ⟨few, low, grid⟩ := joined_grid served holds here
  have on : ∀ c ∈ s.quantise.tileChanges.getD [], OnMap map.cols c :=
    changes_onMap fits fun changes carried c member => by
      obtain ⟨shown, last', column, _⟩ := served.inside frames s [] rfl changes carried c member
      rw [last] at last'
      cases last'
      rw [← cols]
      exact column
  obtain ⟨patches, patched⟩ := patch_changes few on grid
  have unchanged : s.quantise.tileChanges = none → (joined b s.quantise).tileChanges = none := by
    intro bare
    rcases joined_cases served holds with ⟨_, same⟩ | ⟨_, m, rfl, same, _⟩
    · rw [same]
      exact bare
    · rw [same]
      exact Option.or_eq_none_iff.mpr ⟨bare, holds.unchanged m rfl⟩
  have result := pushed_eq here unchanged
  rw [patches] at result
  rw [result]
  have section_ {α : Type} (field : Snapshot K → Option α)
      (merges : ∀ m n : Snapshot K, field (merged m n) = (field n).or (field m)) :=
    joined_field field merges served holds
  refine
    { wired := ?_, unchanged := ?_, tick := ?_, map := ?_, tileAlphas := ?_, storm := ?_
      selfId := ?_, players := ?_, placed := ?_, unplaced := ?_ }
  · intro m same
    cases same
    exact remapped_wired served holds (map_of_grid few low patched)
  · intro m same
    cases same
    rfl
  · rw [viewOf_append]
    rcases joined_cases served holds with ⟨_, same⟩ | ⟨_, m, rfl, same, _⟩ <;> rw [same] <;> rfl
  · intro _
    refine ⟨_, rfl, ?_, sent, last, cols⟩
    rw [viewOf_append, SceneView.apply, viewed]
    rfl
  · have step := holds.tileAlphas.step s s.quantise.tileAlphas (by simp [Snapshot.quantise])
    rw [← section_ Snapshot.tileAlphas fun _ _ => rfl] at step
    rw [viewOf_append]
    exact step
  · have step := holds.storm.step s s.quantise.storm (by simp [Snapshot.quantise])
    rw [← section_ Snapshot.storm fun _ _ => rfl] at step
    rw [viewOf_append]
    exact step
  · have step := holds.selfId.step s (s.quantise.selfId.map some) (by simp [Snapshot.quantise])
    have field : (if s.full then s.quantise.selfId.map some
        else (s.quantise.selfId.map some).or ((b.bind Snapshot.selfId).map some)) =
        (joined b s.quantise).selfId.map some := by
      rw [section_ Snapshot.selfId fun _ _ => rfl]
      cases s.full
      · cases s.quantise.selfId <;> rfl
      · rfl
    have shown : (s.quantise.selfId.map some).getD (viewOf frames).selfId =
        s.quantise.selfId.or (viewOf frames).selfId := by
      cases s.quantise.selfId <;> rfl
    rw [field, shown] at step
    rw [viewOf_append]
    exact step
  · have step := holds.players.step s s.quantise.players (by simp [Snapshot.quantise])
    rw [← section_ Snapshot.players fun _ _ => rfl] at step
    rw [viewOf_append]
    exact step
  · intro carried
    have carried : (joined b s.quantise).players.isSome = true := carried
    rw [viewOf_append, SceneView.apply]
    rcases joined_cases served holds with ⟨_, same⟩ | ⟨_, m, rfl, same, later⟩
    · rw [same] at carried
      simp [carried]
    · rw [same] at carried
      have lower : (viewOf frames).tick.any (fun old => decide (s.quantise.tick < old)) = false := by
        rw [holds.tick]
        simpa using later
      cases new : s.quantise.players with
      | some players => rfl
      | none =>
        simp only [merged, new, Option.none_or] at carried
        simp [holds.placed carried, lower]
  · intro never
    rw [List.any_append, Bool.or_eq_false_iff] at never
    have absent : s.quantise.players = none := by
      have none : s.players = none := by simpa using never.2
      simp [Snapshot.quantise, none]
    rw [viewOf_append, SceneView.apply]
    simp [absent, holds.unplaced never.1]

end Pushing
/-! ## The two renderers -/

/-- Every section that can be left out of a full frame was renewed. -/
structure AllRenewed (frames : List (Snapshot K)) : Prop where
  tileAlphas : Renewed frames (·.tileAlphas.isSome)
  storm : Renewed frames (·.storm.isSome)
  selfId : Renewed frames (·.selfId.isSome)
  players : Renewed frames (·.players.isSome)

section Renderers
variable {frames before after : List (Snapshot K)} {simulationHz : Option K}

theorem receive_encoded {t : Snapshot K} (fits : t.Fits) (s : WorldScene K) :
    receive simulationHz s (encodeSnapshot t) = .ok (s.applySnapshot t.quantise simulationHz) := by
  rw [receive, decode_encode fits]
  rfl

theorem received (fits : ∀ t ∈ frames, t.Fits) {s : WorldScene K} {v : SceneView K}
    (shows : Depicts simulationHz s v) : ∃ scene,
    (frames.map encodeSnapshot).foldlM (receive simulationHz) s = .ok scene ∧
      Depicts simulationHz scene ((frames.map Snapshot.quantise).foldl SceneView.apply v) := by
  induction frames generalizing s v with
  | nil => exact ⟨s, rfl, shows⟩
  | cons t frames ih =>
    obtain ⟨scene, runs, depicts⟩ :=
      ih (fun u member => fits u (List.mem_cons_of_mem _ member)) (shows.apply t.quantise)
    refine ⟨scene, ?_, depicts⟩
    rw [List.map_cons, List.foldlM_cons, receive_encoded (fits t List.mem_cons_self)]
    exact runs

theorem pushes (fits : ∀ t ∈ frames, t.Fits) :
    (frames.map encodeSnapshot).foldlM push none = .ok (bufferOf frames) := by
  induction frames using List.reverseRecOn with
  | nil => rfl
  | append_singleton frames t ih =>
    have last : push (bufferOf frames) (encodeSnapshot t) =
        .ok (some (pushed (bufferOf frames) t.quantise)) := by
      rw [push, decode_encode (fits t (by simp))]
      rfl
    rw [List.map_append, List.foldlM_append, ih fun u member => fits u (by simp [member]), ok_bind,
      bufferOf_append, List.map_cons, List.map_nil, List.foldlM_cons, last, ok_bind, List.foldlM_nil]
    rfl

theorem Served.front (served : Served (before ++ after)) : Served before := by
  induction after using List.reverseRecOn with
  | nil => simpa using served
  | append_singleton after s ih =>
    rw [← List.append_assoc] at served
    exact ih served.init

theorem buffered [IndexNumber K] (served : Served frames) : Buffered frames (bufferOf frames) := by
  induction frames using List.reverseRecOn with
  | nil => exact buffered_nil
  | append_singleton frames s ih =>
    rw [bufferOf_append]
    exact buffered_append served (ih served.init)

/-- The frame that is taken says what all the buffered frames said. -/
theorem taken_view [IndexNumber K] (served : Served frames) (renewed : AllRenewed frames)
    {m : Snapshot K} (held : bufferOf frames = some m) :
    SceneView.fresh.apply m = viewOf frames := by
  have holds := buffered served
  rw [held] at holds
  obtain ⟨map, carried, viewed, -⟩ := holds.map rfl
  have tileAlphas : m.tileAlphas.getD [] = (viewOf frames).tileAlphas :=
    holds.tileAlphas.complete renewed.tileAlphas
  have storm : m.storm.getD none = (viewOf frames).storm := holds.storm.complete renewed.storm
  have selfId : (m.selfId.map some).getD none = (viewOf frames).selfId :=
    holds.selfId.complete renewed.selfId
  have players : m.players.getD [] = (viewOf frames).players :=
    holds.players.complete renewed.players
  have placed : m.players.isSome = (viewOf frames).placed := by
    cases here : m.players with
    | some list => exact (holds.placed (by simp [here])).symm
    | none =>
      refine (holds.unplaced ?_).symm
      cases ever : frames.any (·.players.isSome) with
      | false => rfl
      | true =>
        have present := holds.players.carried (renewed.players ever)
        simp [here] at present
  have own : m.selfId.or none = (viewOf frames).selfId := by
    rw [← selfId]
    cases m.selfId <;> rfl
  have tiles : setTiles (m.map.or none) (m.tileChanges.getD []) = (viewOf frames).map := by
    rw [holds.unchanged m rfl, viewed, show m.map = some map from carried]
    rfl
  have tick : some m.tick = (viewOf frames).tick := holds.tick.symm
  rw [SceneView.apply]
  simp only [SceneView.fresh, tileAlphas, storm, players, placed, own, tiles, tick, Bool.false_and,
    Bool.or_false]

/-- A scene that takes the buffered frames as one shows what a scene shows that got every frame, as
long as the sections a full frame left out have come again by then. -/
theorem late_shows_early [IndexNumber K] (simulationHz : Option K) (before after : List (Snapshot K))
    (served : Served (before ++ after)) (renewed : AllRenewed before) :
    ∃ early late,
      earlyRenderer simulationHz ((before ++ after).map encodeSnapshot) = .ok early ∧
      lateRenderer simulationHz (before.map encodeSnapshot) (after.map encodeSnapshot) = .ok late ∧
      SameDrawing early late := by
  have fits := served.front.fits
  have rest : ∀ t ∈ after, t.Fits := fun t member => served.fits t (by simp [member])
  have start : Depicts simulationHz (WorldScene.fresh : WorldScene K) SceneView.fresh := .fresh
  obtain ⟨early, runs, shows⟩ := received served.fits start
  obtain ⟨first, takes, begins⟩ : ∃ first, (take (bufferOf before)).elim (.ok WorldScene.fresh)
      (receive simulationHz .fresh) = .ok first ∧ Depicts simulationHz first (viewOf before) := by
    cases held : bufferOf before with
    | none =>
      rcases List.eq_nil_or_concat before with rfl | ⟨init, last, rfl⟩
      · exact ⟨.fresh, rfl, Depicts.fresh⟩
      · rw [List.concat_eq_append, bufferOf_append] at held
        cases held
    | some m =>
      have wired := (buffered served.front).wired m held
      refine ⟨_, ?_, taken_view served.front renewed held ▸ Depicts.fresh.apply m⟩
      rw [take, Option.map_some, Option.elim_some, receive, wired.resent]
      rfl
  obtain ⟨late, follows, same⟩ := received rest begins
  refine ⟨early, late, runs, ?_, ?_⟩
  · rw [lateRenderer, pushes fits]
    exact (congrArg (· >>= fun scene => List.foldlM (receive simulationHz) scene _) takes).trans follows
  · rw [viewOf, ← List.foldl_append, ← List.map_append] at same
    exact ⟨shows.map.trans same.map.symm, shows.tileAlphas.trans same.tileAlphas.symm,
      shows.storm.trans same.storm.symm, shows.selfId.trans same.selfId.symm,
      fun id => (shows.look id).trans (same.look id).symm⟩

theorem Served.snoc {s : Snapshot K} (served : Served frames) (fits : s.Fits)
    (full : s.full = true → s.map.isSome = true ∧ s.roster.isSome = true)
    (opens : (∀ last, frames.getLast? = some last → Wire.whole s.tick < Wire.whole last.tick) →
      s.full = true)
    (inside : ∀ changes ∈ s.tileChanges, ∀ c ∈ changes, ∃ map, mapIn (frames ++ [s]) = some map ∧
      JsNumber.round c.x < map.cols ∧ JsNumber.round c.y < map.rows) : Served (frames ++ [s]) := by
  have last_or (before : List (Snapshot K)) (t : Snapshot K) (after : List (Snapshot K))
      (split : frames ++ [s] = before ++ t :: after) :
      (before = frames ∧ t = s) ∨ ∃ rest, frames = before ++ t :: rest := by
    rcases List.eq_nil_or_concat after with rfl | ⟨rest, last, rfl⟩
    · obtain ⟨rfl, same⟩ := List.append_inj' split rfl
      cases same
      exact .inl ⟨rfl, rfl⟩
    · rw [List.concat_eq_append, ← List.cons_append, ← List.append_assoc] at split
      exact .inr ⟨rest, (List.append_inj' split rfl).1⟩
  refine ⟨fun t member => ?_, fun t member => ?_, fun before t after split => ?_,
    fun before t after split => ?_⟩
  · rcases List.mem_append.mp member with old | new
    · exact served.fits t old
    · exact List.mem_singleton.mp new ▸ fits
  · rcases List.mem_append.mp member with old | new
    · exact served.full t old
    · exact List.mem_singleton.mp new ▸ full
  · rcases last_or before t after split with ⟨rfl, rfl⟩ | ⟨rest, earlier⟩
    · exact opens
    · exact served.opens before t rest earlier
  · rcases last_or before t after split with ⟨rfl, rfl⟩ | ⟨rest, earlier⟩
    · exact inside
    · exact served.inside before t rest earlier

theorem served_nil : Served ([] : List (Snapshot K)) :=
  ⟨by simp, by simp, by simp, by simp⟩

end Renderers

/-! ## A player who is caught -/

def caught : SnapshotPlayer ℚ :=
  { id := 1, x := 300, y := 100, facingX := 0, facingY := 1, colorIndex := 0, obscured := false
    isTagger := false, effects := fun _ => none, emojiId := none }

/-- The first frame of a player who sees through one tile of bush. -/
def opening : Snapshot ℚ :=
  { version := 2, full := true, tick := 1, map := some ⟨2, 1, [[0, 2]]⟩
    tileAlphas := some [⟨1, 0, 1 / 2⟩], storm := some none, players := some [caught]
    selfId := some 1, roster := some [⟨1, "A"⟩] }

/-- The bush burns down and the player moves. -/
def burning : Snapshot ℚ :=
  { version := 2, full := false, tick := 2, tileChanges := some [⟨1, 0, 0⟩]
    storm := some (some ⟨0, 0, 512, 256⟩), players := some [{ caught with x := 310 }] }

def hidden : Snapshot ℚ := { version := 2, full := false, tick := 3, players := some [] }

/-- The full frame the same connection gets as a spectator: no own player, no tiles to see through. -/
def watching : Snapshot ℚ :=
  { version := 2, full := true, tick := 9, map := some ⟨2, 1, [[0, 2]]⟩, storm := some none
    players := some [], roster := some [⟨1, "A"⟩] }

theorem opening_served : Served [opening] :=
  served_nil.snoc (by decide +kernel) (by decide) (fun _ => rfl) (by simp [opening])

theorem watching_served : Served [opening, watching] :=
  opening_served.snoc (by decide +kernel) (by decide) (fun _ => rfl) (by simp [watching])

theorem late_loses_sections :
    ¬ ∀ (simulationHz : Option ℚ) (before after : List (Snapshot ℚ)), Served (before ++ after) →
      ∃ early late,
        earlyRenderer simulationHz ((before ++ after).map encodeSnapshot) = .ok early ∧
        lateRenderer simulationHz (before.map encodeSnapshot) (after.map encodeSnapshot) = .ok late ∧
        SameDrawing early late := by
  intro same
  obtain ⟨early, late, runs, follows, drawing⟩ := same none [opening, watching] [] watching_served
  have own : (earlyRenderer none ([opening, watching].map encodeSnapshot)).toOption.bind
      WorldScene.selfId = some (1 : ℚ) := by decide +kernel
  have lost : (lateRenderer none ([opening, watching].map encodeSnapshot) []).toOption.bind
      WorldScene.selfId = (none : Option ℚ) := by decide +kernel
  rw [show earlyRenderer none ([opening, watching].map encodeSnapshot) = .ok early from runs] at own
  rw [show lateRenderer none ([opening, watching].map encodeSnapshot) [] = .ok late from follows] at lost
  have kept : early.selfId = some 1 := own
  have gone : late.selfId = none := lost
  rw [drawing.selfId, gone] at kept
  cases kept

theorem late_shows_early_burning : ∃ early late : WorldScene ℚ,
    earlyRenderer (some 60) ([opening, burning, hidden].map encodeSnapshot) = .ok early ∧
    lateRenderer (some 60) ([opening, burning].map encodeSnapshot) ([hidden].map encodeSnapshot) =
      .ok late ∧
    SameDrawing early late := by
  have served : Served [opening, burning, hidden] := by
    refine (opening_served.snoc (s := burning) (by decide +kernel) (by decide) ?_ ?_).snoc
      (s := hidden) (by decide +kernel) (by decide) ?_ (by simp [hidden])
    · intro lower
      have less := lower opening rfl
      exact absurd less (by decide +kernel)
    · intro changes carried c member
      cases carried
      rw [List.mem_singleton.mp member]
      exact ⟨_, rfl, by decide +kernel⟩
    · intro lower
      have less := lower burning rfl
      exact absurd less (by decide +kernel)
  exact late_shows_early (some 60) [opening, burning] [hidden] served
    ⟨by decide +kernel, by decide +kernel, by decide +kernel, by decide +kernel⟩

end SwitchRemake.Client

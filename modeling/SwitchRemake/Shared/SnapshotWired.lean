import SwitchRemake.Shared.SnapshotRoundTrip

/-!
# Snapshots as they come off the wire

A decoded snapshot fits the format and its numbers are already rounded, so it can be sent on as it
is.
-/

namespace SwitchRemake.Wire
open Lib Simulation
open Protocol (Bytes SectionType counted)

variable {K : Type} [JsNumber K] [WireNumber K] {s : Snapshot K} {v : K}

theorem fits_whole {low high : Int} (fits : Fits low high v) (above : -(2 ^ 32) ≤ low)
    (below : high ≤ 2 ^ 32) : Fits low high (whole v) := by
  rw [Fits, round_whole fits above below]
  exact fits

theorem Byte.whole (fits : Byte v) : Byte (whole v) := fits_whole fits (by decide) (by decide)

theorem Word.whole (fits : Word v) : Word (whole v) := fits_whole fits (by decide) (by decide)

theorem Ratio.stepped (fits : Ratio v) : Ratio (stepped 255 v) := by
  rw [Ratio, Fits, Wire.stepped, WireNumber.round_steps 255 _ (.inr rfl)]
  · exact fits
  · exact abs_le.mpr ⟨le_trans (by decide) fits.1, fits.2⟩

theorem Facing.stepped (fits : Facing v) : Facing (stepped 127 v) := by
  rw [Facing, Fits, Wire.stepped, WireNumber.round_steps 127 _ (.inl rfl)]
  · exact fits
  · exact abs_le.mpr ⟨le_trans (by decide) fits.1, le_trans fits.2 (by decide)⟩

theorem SnapshotMap.Fits.quantise {map : SnapshotMap K} (fits : map.Fits) : map.quantise.Fits where
  cols := fits.cols
  rows := fits.rows
  height := by simpa [SnapshotMap.quantise] using fits.height
  width row member := by
    obtain ⟨old, listed, rfl⟩ := List.mem_map.mp member
    simpa [SnapshotMap.quantise] using fits.width old listed
  tiles row member tile inside := by
    obtain ⟨old, listed, rfl⟩ := List.mem_map.mp member
    obtain ⟨cell, here, rfl⟩ := List.mem_map.mp inside
    exact (fits.tiles old listed cell here).whole

theorem SnapshotPlayer.Fits.quantise {p : SnapshotPlayer K} (fits : p.Fits) : p.quantise.Fits where
  id := fits.id.whole
  x := fits.x.whole
  y := fits.y.whole
  facingX := fits.facingX.stepped
  facingY := fits.facingY.stepped
  colorIndex := fits.colorIndex.whole
  effects type v found := by
    obtain ⟨old, here, rfl⟩ := Option.map_eq_some_iff.mp found
    exact (fits.effects type old here).stepped
  emojiId v found := by
    obtain ⟨old, here, rfl⟩ := Option.map_eq_some_iff.mp found
    exact (fits.emojiId old here).whole

/-- What holds of every entry of a section holds of the entries that are written. -/
theorem forall_mapped {α β : Type} {field : Option (List α)} {f : α → β} {P : α → Prop}
    {Q : β → Prop} (each : ∀ list ∈ field, ∀ a ∈ list, P a) (step : ∀ a, P a → Q (f a)) :
    ∀ list ∈ field.map (List.map f), ∀ b ∈ list, Q b := by
  intro list found b member
  obtain ⟨old, here, rfl⟩ := Option.map_eq_some_iff.mp found
  obtain ⟨a, listed, rfl⟩ := List.mem_map.mp member
  exact step a (each old here a listed)

theorem length_mapped {α β : Type} {field : Option (List α)} {f : α → β} {most : Nat}
    (few : ∀ list ∈ field, list.length ≤ most) :
    ∀ list ∈ field.map (List.map f), list.length ≤ most := by
  intro list found
  obtain ⟨old, here, rfl⟩ := Option.map_eq_some_iff.mp found
  rw [List.length_map]
  exact few old here

theorem forall_nonEmpty {α : Type} {field : Option (List α)} {P : List α → Prop}
    (each : ∀ list ∈ field, P list) : ∀ list ∈ nonEmpty field, P list :=
  fun list found => each list (nonEmpty_some found)

theorem Snapshot.Fits.quantise (fits : s.Fits) : s.quantise.Fits where
  version := fits.version
  tick := fits_whole fits.tick (by decide) (by decide)
  map map found := by
    obtain ⟨old, here, rfl⟩ := Option.map_eq_some_iff.mp found
    exact (fits.map old here).quantise
  tileChanges := forall_mapped (forall_nonEmpty fits.tileChanges)
    fun _ c => ⟨c.x.whole, c.y.whole, c.physics.whole⟩
  tileAlphas := forall_mapped fits.tileAlphas fun _ a => ⟨a.x.whole, a.y.whole, a.alpha.stepped⟩
  storm storm found rect here := by
    obtain ⟨old, carried, rfl⟩ := Option.map_eq_some_iff.mp found
    obtain ⟨area, inside, rfl⟩ := Option.map_eq_some_iff.mp here
    have sides := fits.storm old carried area inside
    exact ⟨sides.x.whole, sides.y.whole, sides.width.whole, sides.height.whole⟩
  playerCount := length_mapped fits.playerCount
  players := forall_mapped fits.players fun _ p => p.quantise
  regionCount := length_mapped (forall_nonEmpty fits.regionCount)
  regions := forall_mapped (forall_nonEmpty fits.regions)
    fun _ r => ⟨r.x.whole, r.y.whole, r.remaining.stepped⟩
  selfId id found := by
    obtain ⟨old, here, rfl⟩ := Option.map_eq_some_iff.mp found
    exact (fits.selfId old here).whole
  own absent := by
    rw [Snapshot.quantise, Option.map_eq_none_iff] at absent
    simp [Snapshot.quantise, fits.own absent]
  cooldownCount := length_mapped fits.cooldownCount
  cooldowns := forall_mapped fits.cooldowns fun _ c => ⟨c.slot.whole, c.remainingMs.whole⟩
  rosterCount := length_mapped (forall_nonEmpty fits.rosterCount)
  roster := forall_mapped (forall_nonEmpty fits.roster) fun _ r => ⟨r.id.whole, r.length, r.unmarked⟩
  lengths := by
    rw [sections_quantise fits]
    exact fits.lengths

/-- A snapshot as the decoder returns it. -/
structure Snapshot.Wired (s : Snapshot K) : Prop where
  fits : s.Fits
  rounded : s.quantise = s

theorem Snapshot.Fits.wired (fits : s.Fits) : s.quantise.Wired where
  fits := fits.quantise
  rounded := by
    have again : decodeSnapshot (encodeSnapshot s.quantise) = .ok s.quantise := by
      rw [encode_quantise fits, decode_encode fits]
    rw [decode_encode fits.quantise] at again
    exact Except.ok.inj again

omit [WireNumber K] in
/-- A decoded snapshot is sent on without loss. -/
theorem Snapshot.Wired.resent (wired : s.Wired) : decodeSnapshot (encodeSnapshot s) = .ok s := by
  rw [decode_encode wired.fits, wired.rounded]

/-! ## Checking a snapshot -/

section Checks
omit [WireNumber K]

instance (map : SnapshotMap K) : Decidable map.Fits :=
  decidable_of_iff (map.cols ≤ 255 ∧ map.rows ≤ 255 ∧ map.tiles.length = map.rows ∧
    (∀ row ∈ map.tiles, row.length = map.cols) ∧ ∀ row ∈ map.tiles, ∀ tile ∈ row, Byte tile)
    ⟨fun ⟨cols, rows, height, width, tiles⟩ => ⟨cols, rows, height, width, tiles⟩,
      fun fits => ⟨fits.cols, fits.rows, fits.height, fits.width, fits.tiles⟩⟩

instance (c : TileChange K) : Decidable c.Fits :=
  decidable_of_iff (Byte c.x ∧ Byte c.y ∧ Byte c.physics)
    ⟨fun ⟨x, y, physics⟩ => ⟨x, y, physics⟩, fun fits => ⟨fits.x, fits.y, fits.physics⟩⟩

instance (a : TileAlpha K) : Decidable a.Fits :=
  decidable_of_iff (Byte a.x ∧ Byte a.y ∧ Ratio a.alpha)
    ⟨fun ⟨x, y, alpha⟩ => ⟨x, y, alpha⟩, fun fits => ⟨fits.x, fits.y, fits.alpha⟩⟩

instance (storm : Storm K) : Decidable storm.Fits :=
  decidable_of_iff (Word storm.x ∧ Word storm.y ∧ Word storm.width ∧ Word storm.height)
    ⟨fun ⟨x, y, width, height⟩ => ⟨x, y, width, height⟩,
      fun fits => ⟨fits.x, fits.y, fits.width, fits.height⟩⟩

instance (p : SnapshotPlayer K) : Decidable p.Fits :=
  decidable_of_iff (Byte p.id ∧ Word p.x ∧ Word p.y ∧ Facing p.facingX ∧ Facing p.facingY ∧
    Byte p.colorIndex ∧ (∀ type ∈ Protocol.effectBits, ∀ v ∈ p.effects type, Ratio v) ∧
    ∀ v ∈ p.emojiId, Byte v)
    ⟨fun ⟨id, x, y, facingX, facingY, colorIndex, effects, emojiId⟩ =>
      ⟨id, x, y, facingX, facingY, colorIndex,
        fun type => effects type (by cases type <;> decide), emojiId⟩,
      fun fits => ⟨fits.id, fits.x, fits.y, fits.facingX, fits.facingY, fits.colorIndex,
        fun type _ => fits.effects type, fits.emojiId⟩⟩

instance (r : Region K) : Decidable r.Fits :=
  decidable_of_iff (Byte r.x ∧ Byte r.y ∧ Ratio r.remaining)
    ⟨fun ⟨x, y, remaining⟩ => ⟨x, y, remaining⟩, fun fits => ⟨fits.x, fits.y, fits.remaining⟩⟩

instance (c : SlotCooldown K) : Decidable c.Fits :=
  decidable_of_iff (Byte c.slot ∧ Word c.remainingMs)
    ⟨fun ⟨slot, remainingMs⟩ => ⟨slot, remainingMs⟩, fun fits => ⟨fits.slot, fits.remainingMs⟩⟩

instance (r : RosterName K) : Decidable r.Fits :=
  decidable_of_iff (Byte r.id ∧ (utf8 r.nickname).length ≤ 255 ∧
    r.nickname.toList.head? ≠ some byteOrderMark)
    ⟨fun ⟨id, length, unmarked⟩ => ⟨id, length, unmarked⟩,
      fun fits => ⟨fits.id, fits.length, fits.unmarked⟩⟩

instance (s : Snapshot K) : Decidable s.Fits :=
  decidable_of_iff (s.version = JsNumber.ofInt Protocol.protocolVersion ∧ Wire.Fits 0 0xffffffff s.tick ∧
    (∀ map ∈ s.map, map.Fits) ∧ (∀ changes ∈ s.tileChanges, ∀ c ∈ changes, c.Fits) ∧
    (∀ alphas ∈ s.tileAlphas, ∀ a ∈ alphas, a.Fits) ∧
    (∀ storm ∈ s.storm, ∀ rect ∈ storm, rect.Fits) ∧
    (∀ players ∈ s.players, players.length ≤ 255) ∧
    (∀ players ∈ s.players, ∀ p ∈ players, p.Fits) ∧
    (∀ regions ∈ s.regions, regions.length ≤ 255) ∧
    (∀ regions ∈ s.regions, ∀ r ∈ regions, r.Fits) ∧ (∀ selfId ∈ s.selfId, Byte selfId) ∧
    (s.selfId = none → s.cooldowns = none) ∧
    (∀ cooldowns ∈ s.cooldowns, cooldowns.length ≤ 255) ∧
    (∀ cooldowns ∈ s.cooldowns, ∀ c ∈ cooldowns, c.Fits) ∧
    (∀ roster ∈ s.roster, roster.length ≤ 255) ∧
    (∀ roster ∈ s.roster, ∀ r ∈ roster, r.Fits) ∧
    ∀ entry ∈ sections s, entry.2.length ≤ 65535)
    ⟨fun ⟨version, tick, map, tileChanges, tileAlphas, storm, playerCount, players, regionCount,
        regions, selfId, own, cooldownCount, cooldowns, rosterCount, roster, lengths⟩ =>
      { version, tick, map, tileChanges, tileAlphas, storm, playerCount, players, regionCount,
        regions, selfId, own, cooldownCount, cooldowns, rosterCount, roster, lengths },
      fun fits => ⟨fits.version, fits.tick, fits.map, fits.tileChanges, fits.tileAlphas,
        fits.storm, fits.playerCount, fits.players, fits.regionCount, fits.regions, fits.selfId,
        fits.own, fits.cooldownCount, fits.cooldowns, fits.rosterCount, fits.roster, fits.lengths⟩⟩

end Checks

/-! ## Snapshots put together from others -/

omit [WireNumber K] in
theorem forall_sections {P : SectionType × Bytes → Prop} : (∀ entry ∈ sections s, P entry) ↔
    (∀ map ∈ s.map, P (.map, encodeMap map)) ∧
    (∀ changes ∈ nonEmpty s.tileChanges,
      P (.tileChanges, counted Protocol.u16 changes encodeChange)) ∧
    (∀ alphas ∈ s.tileAlphas, P (.tileAlphas, counted Protocol.u16 alphas encodeAlpha)) ∧
    (∀ storm ∈ s.storm, P (.storm, encodeStorm storm)) ∧
    (∀ players ∈ s.players, P (.players, counted Protocol.u8 players encodePlayer)) ∧
    (∀ regions ∈ nonEmpty s.regions, P (.regions, counted Protocol.u8 regions encodeRegion)) ∧
    (∀ selfId ∈ s.selfId, P (.self, encodeSelf selfId s.cooldowns)) ∧
    ∀ roster ∈ nonEmpty s.roster, P (.roster, counted Protocol.u8 roster encodeName) := by
  simp only [sections, List.mem_append, Option.mem_toList, Option.mem_def, Option.map_eq_some_iff,
    or_imp, forall_and, forall_exists_index, and_imp, forall_apply_eq_imp_iff₂, and_assoc]

omit [WireNumber K] in
theorem rounded_iff : s.quantise = s ↔ whole s.tick = s.tick ∧
    s.map.map SnapshotMap.quantise = s.map ∧
    (nonEmpty s.tileChanges).map (List.map TileChange.quantise) = s.tileChanges ∧
    s.tileAlphas.map (List.map TileAlpha.quantise) = s.tileAlphas ∧
    s.storm.map (Option.map Storm.quantise) = s.storm ∧
    s.players.map (List.map SnapshotPlayer.quantise) = s.players ∧
    (nonEmpty s.regions).map (List.map Region.quantise) = s.regions ∧
    s.selfId.map whole = s.selfId ∧
    s.cooldowns.map (List.map SlotCooldown.quantise) = s.cooldowns ∧
    (nonEmpty s.roster).map (List.map RosterName.quantise) = s.roster := by
  cases s
  simp only [Snapshot.quantise, Snapshot.mk.injEq, true_and]

omit [WireNumber K] in
theorem encodeMap_short {map : SnapshotMap K} (cols : map.cols ≤ 255) (rows : map.rows ≤ 255) :
    (encodeMap map).length ≤ 65535 := by
  have row (y : Nat) : ((List.range map.cols).flatMap fun x =>
      u8 (((map.tiles[y]?).bind (·[x]?)).getD 0)).length = map.cols := by
    have bytes : ∀ x ∈ List.range map.cols,
        (u8 (((map.tiles[y]?).bind (·[x]?)).getD 0)).length = 1 := fun _ _ => rfl
    rw [length_flatMap_const bytes, List.length_range, Nat.mul_one]
  have area : map.rows * map.cols ≤ 255 * 255 := Nat.mul_le_mul rows cols
  rw [encodeMap, List.length_append, length_flatMap_const fun y _ => row y, List.length_range]
  have front : (Protocol.u8 map.cols ++ Protocol.u8 map.rows).length = 2 := rfl
  omega

omit [WireNumber K] in
theorem encodeSelf_short {selfId : K} {cooldowns : Option (List (SlotCooldown K))}
    (few : ∀ list ∈ cooldowns, list.length ≤ 255) : (encodeSelf selfId cooldowns).length ≤ 65535 := by
  rw [encodeSelf, List.length_append]
  have front : (u8 selfId).length = 1 := rfl
  cases cooldowns with
  | none => simp [Protocol.optional, front]
  | some list =>
    have short := few list rfl
    have body : (list.flatMap encodeCooldown).length = list.length * 3 :=
      length_flatMap_const fun _ _ => rfl
    have count : (Protocol.u8 (list.length : Int)).length = 1 := rfl
    rw [Protocol.optional, Option.elim_some, counted, List.length_append, body, count, front]
    omega

/-- A snapshot whose sections come from two others, apart from the map. -/
structure Assembled (m q r : Snapshot K) : Prop where
  version : r.version = q.version
  tick : r.tick = q.tick
  map : ∀ map ∈ r.map, map.Fits ∧ map.quantise = map
  tileChanges : r.tileChanges = none
  tileAlphas : r.tileAlphas = q.tileAlphas ∨ r.tileAlphas = m.tileAlphas
  storm : r.storm = q.storm ∨ r.storm = m.storm
  players : r.players = q.players ∨ r.players = m.players
  regions : r.regions = q.regions ∨ r.regions = m.regions
  selfId : r.selfId = q.selfId ∨ r.selfId = m.selfId
  cooldowns : r.cooldowns = q.cooldowns ∨ r.cooldowns = m.cooldowns
  own : r.selfId = none → r.cooldowns = none
  roster : r.roster = q.roster ∨ r.roster = m.roster

omit [WireNumber K] [JsNumber K] in
theorem either {α : Type} {P : α → Prop} {a b c : α} (from_ : c = a ∨ c = b) (first : P a)
    (second : P b) : P c := by
  rcases from_ with rfl | rfl
  · exact first
  · exact second

omit [WireNumber K] in
theorem Assembled.wired {m q r : Snapshot K} (from_ : Assembled m q r) (old : m.Wired)
    (new : q.Wired) : r.Wired := by
  have few := either (P := fun field => ∀ cooldowns ∈ field, cooldowns.length ≤ 255)
    from_.cooldowns new.fits.cooldownCount old.fits.cooldownCount
  obtain ⟨-, -, alphas, storm, players, regions, -, roster⟩ := forall_sections.mp new.fits.lengths
  obtain ⟨-, -, alphas', storm', players', regions', -, roster'⟩ := forall_sections.mp old.fits.lengths
  refine ⟨⟨from_.version.trans new.fits.version, from_.tick ▸ new.fits.tick,
    fun map here => (from_.map map here).1, ?_,
    either (P := fun field => ∀ alphas ∈ field, ∀ a ∈ alphas, a.Fits) from_.tileAlphas
      new.fits.tileAlphas old.fits.tileAlphas,
    either (P := fun field => ∀ storm ∈ field, ∀ rect ∈ storm, rect.Fits) from_.storm
      new.fits.storm old.fits.storm,
    either (P := fun field => ∀ players ∈ field, players.length ≤ 255) from_.players
      new.fits.playerCount old.fits.playerCount,
    either (P := fun field => ∀ players ∈ field, ∀ p ∈ players, p.Fits) from_.players
      new.fits.players old.fits.players,
    either (P := fun field => ∀ regions ∈ field, regions.length ≤ 255) from_.regions
      new.fits.regionCount old.fits.regionCount,
    either (P := fun field => ∀ regions ∈ field, ∀ r ∈ regions, r.Fits) from_.regions
      new.fits.regions old.fits.regions,
    either (P := fun field => ∀ selfId ∈ field, Byte selfId) from_.selfId new.fits.selfId
      old.fits.selfId,
    from_.own, few,
    either (P := fun field => ∀ cooldowns ∈ field, ∀ c ∈ cooldowns, c.Fits) from_.cooldowns
      new.fits.cooldowns old.fits.cooldowns,
    either (P := fun field => ∀ roster ∈ field, roster.length ≤ 255) from_.roster
      new.fits.rosterCount old.fits.rosterCount,
    either (P := fun field => ∀ roster ∈ field, ∀ r ∈ roster, r.Fits) from_.roster
      new.fits.roster old.fits.roster, ?_⟩, ?_⟩
  · rw [from_.tileChanges]
    simp
  · rw [forall_sections]
    refine ⟨fun map here => encodeMap_short (from_.map map here).1.cols (from_.map map here).1.rows, ?_,
      ?_, ?_, ?_, ?_, fun selfId _ => encodeSelf_short few, ?_⟩
    · rw [from_.tileChanges]
      simp [nonEmpty]
    · exact either (P := fun field => ∀ alphas ∈ field,
        (counted Protocol.u16 alphas encodeAlpha).length ≤ 65535) from_.tileAlphas alphas alphas'
    · exact either (P := fun field => ∀ storm ∈ field, (encodeStorm storm).length ≤ 65535)
        from_.storm storm storm'
    · exact either (P := fun field => ∀ players ∈ field,
        (counted Protocol.u8 players encodePlayer).length ≤ 65535) from_.players players players'
    · exact either (P := fun field => ∀ regions ∈ nonEmpty field,
        (counted Protocol.u8 regions encodeRegion).length ≤ 65535) from_.regions regions regions'
    · exact either (P := fun field => ∀ roster ∈ nonEmpty field,
        (counted Protocol.u8 roster encodeName).length ≤ 65535) from_.roster roster roster'
  · obtain ⟨tick, -, -, alphas, storm, players, regions, selfId, cooldowns, roster⟩ :=
      rounded_iff.mp new.rounded
    obtain ⟨-, -, -, alphas', storm', players', regions', selfId', cooldowns', roster'⟩ :=
      rounded_iff.mp old.rounded
    refine rounded_iff.mpr ⟨from_.tick ▸ tick, ?_, ?_,
      either (P := fun field => field.map (List.map TileAlpha.quantise) = field)
        from_.tileAlphas alphas alphas',
      either (P := fun field => field.map (Option.map Storm.quantise) = field)
        from_.storm storm storm',
      either (P := fun field => field.map (List.map SnapshotPlayer.quantise) = field)
        from_.players players players',
      either (P := fun field => (nonEmpty field).map (List.map Region.quantise) = field)
        from_.regions regions regions',
      either (P := fun field => field.map whole = field)
        from_.selfId selfId selfId',
      either (P := fun field => field.map (List.map SlotCooldown.quantise) = field)
        from_.cooldowns cooldowns cooldowns',
      either (P := fun field => (nonEmpty field).map (List.map RosterName.quantise) = field)
        from_.roster roster roster'⟩
    · cases here : r.map with
      | none => rfl
      | some map => rw [Option.map_some, (from_.map map here).2]
    · rw [from_.tileChanges]
      rfl

end SwitchRemake.Wire

import SwitchRemake.Shared.SnapshotCodec

/-!
# What the decoder makes of one section

No reader leaves its section, and each record is read back where it was written, up to the rounding
of its numbers.
-/

namespace SwitchRemake.Wire
open Lib Simulation
open Protocol (Bytes SectionType littleEndian writeSection optional counted effectBits
  flagFull)

variable {K : Type} [JsNumber K]

/-! ## No reader leaves its section -/

theorem number_fixed (width : Nat) : Fixed width (number width : SectionReader K) :=
  Fixed.bind (Fixed.uint width) fun _ => Fixed.pure _

theorem facing_fixed : Fixed 1 (facing : SectionReader K) :=
  Fixed.bind (Fixed.uint 1) fun _ => Fixed.pure _

theorem fraction_fixed : Fixed 1 (fraction : SectionReader K) :=
  Fixed.bind (Fixed.uint 1) fun _ => Fixed.pure _

theorem readChange_fixed : Fixed 3 (readChange : SectionReader (TileChange K)) :=
  Fixed.bind (number_fixed 1) fun _ => Fixed.bind (number_fixed 1) fun _ =>
    Fixed.bind (number_fixed 1) fun _ => Fixed.pure _

theorem readAlpha_fixed : Fixed 3 (readAlpha : SectionReader (TileAlpha K)) :=
  Fixed.bind (number_fixed 1) fun _ => Fixed.bind (number_fixed 1) fun _ =>
    Fixed.bind fraction_fixed fun _ => Fixed.pure _

theorem readRegion_fixed : Fixed 3 (readRegion : SectionReader (Region K)) :=
  Fixed.bind (number_fixed 1) fun _ => Fixed.bind (number_fixed 1) fun _ =>
    Fixed.bind fraction_fixed fun _ => Fixed.pure _

theorem readCooldown_fixed : Fixed 3 (readCooldown : SectionReader (SlotCooldown K)) :=
  Fixed.bind (number_fixed 1) fun _ => Fixed.bind (number_fixed 2) fun _ => Fixed.pure _

omit [JsNumber K] in
theorem readRecords_stays {α : Type} {record : SectionReader α} (type width : Nat)
    (fixed : Fixed 3 record) : Stays 0 (readRecords type width record) :=
  Stays.need (Fixed.bindStays (Fixed.uint width) fun count =>
    Stays.need (Fixed.times fixed count).stays)

theorem readMap_stays : Stays 0 (readMap : SectionReader (SnapshotMap K)) := by
  refine Stays.need (Fixed.bindStays (Fixed.uint 1) fun cols =>
    Fixed.bindStays (Fixed.uint 1) fun rows => Stays.need ?_)
  have tiles := Fixed.times (Fixed.times (number_fixed (K := K) 1) cols) rows
  have area : rows * (cols * 1) = cols * rows := by rw [Nat.mul_one, Nat.mul_comm]
  rw [area] at tiles
  exact Stays.bind tiles.stays fun _ => Stays.pure _

theorem readStorm_stays : Stays 0 (readStorm : SectionReader (Option (Storm K))) := by
  refine Stays.need (Stays.bind (Fixed.uint 1).stays fun active => ?_)
  split
  · exact Stays.pure _
  · exact Stays.need (Fixed.bindStays (number_fixed 2) fun _ =>
      Fixed.bindStays (number_fixed 2) fun _ => Fixed.bindStays (number_fixed 2) fun _ =>
        Stays.bind (number_fixed 2).stays fun _ => Stays.pure _)

theorem readEffects_stays (mask : Nat) (bits : List (EffectType × Nat))
    (effects : EffectType → Option K) : Stays 0 (readEffects mask bits effects) := by
  induction bits generalizing effects with
  | nil => exact Stays.pure _
  | cons entry rest ih =>
    obtain ⟨type, bit⟩ := entry
    rw [readEffects]
    split
    · exact ih effects
    · exact Stays.need (Fixed.bindStays fraction_fixed fun value => ih _)

theorem readEmoji_stays (flags : Nat) : Stays 0 (readEmoji flags : SectionReader (Option K)) := by
  rw [readEmoji]
  split
  · exact Stays.pure _
  · exact Stays.need (Stays.bind (number_fixed 1).stays fun _ => Stays.pure _)

theorem readPlayer_stays : Stays 0 (readPlayer : SectionReader (SnapshotPlayer K)) :=
  Stays.need (Fixed.bindStays (number_fixed 1) fun _ => Fixed.bindStays (number_fixed 2) fun _ =>
    Fixed.bindStays (number_fixed 2) fun _ => Fixed.bindStays facing_fixed fun _ =>
    Fixed.bindStays facing_fixed fun _ => Fixed.bindStays (number_fixed 1) fun _ =>
    Fixed.bindStays (Fixed.uint 1) fun flags => Fixed.bindStays (Fixed.uint 1) fun mask =>
    Stays.bind (readEffects_stays mask _ _) fun _ =>
    Stays.bind (readEmoji_stays flags) fun _ => Stays.pure _)

theorem readPlayers_stays : Stays 0 (readPlayers : SectionReader (List (SnapshotPlayer K))) :=
  Stays.need (Fixed.bindStays (Fixed.uint 1) fun count => Stays.times readPlayer_stays count)

theorem readSelf_stays :
    Stays 0 (readSelf : SectionReader (K × Option (List (SlotCooldown K)))) := by
  refine Stays.need (Fixed.bindStays (number_fixed 1) fun selfId => Stays.room fun left => ?_)
  split
  · rename_i some
    have enough : 1 ≤ left := by omega
    refine Stays.mono enough (Fixed.bindStays (Fixed.uint 1) fun count => Stays.need ?_)
    exact Stays.bind (Fixed.times readCooldown_fixed count).stays fun _ => Stays.pure _
  · exact Stays.pure _

theorem readName_stays : Stays 0 (readName : SectionReader (RosterName K)) :=
  Stays.need (Fixed.bindStays (number_fixed 1) fun _ => Fixed.bindStays (Fixed.uint 1) fun len =>
    Stays.need (Stays.bind (Fixed.take len).stays fun _ => Stays.pure _))

theorem readRoster_stays : Stays 0 (readRoster : SectionReader (List (RosterName K))) :=
  Stays.need (Fixed.bindStays (Fixed.uint 1) fun count => Stays.times readName_stays count)

theorem readSection_stays (s : Snapshot K) (type : Nat) : Stays 0 (readSection s type) := by
  unfold readSection
  split
  · exact Stays.bind readMap_stays fun _ => Stays.pure _
  · exact Stays.bind (readRecords_stays _ _ readChange_fixed) fun _ => Stays.pure _
  · exact Stays.bind (readRecords_stays _ _ readAlpha_fixed) fun _ => Stays.pure _
  · exact Stays.bind readStorm_stays fun _ => Stays.pure _
  · exact Stays.bind readPlayers_stays fun _ => Stays.pure _
  · exact Stays.bind (readRecords_stays _ _ readRegion_fixed) fun _ => Stays.pure _
  · exact Stays.bind readSelf_stays fun _ => Stays.pure _
  · exact Stays.bind readRoster_stays fun _ => Stays.pure _
  · exact Stays.pure _

/-! ## What the format keeps -/

/-- The field rounds to a number its bytes can hold. -/
def Fits (low high : Int) (v : K) : Prop := low ≤ JsNumber.round v ∧ JsNumber.round v ≤ high

instance (low high : Int) (v : K) : Decidable (Fits low high v) :=
  inferInstanceAs (Decidable (_ ∧ _))

def whole (v : K) : K := JsNumber.ofInt (JsNumber.round v)

/-- A multiple of `1 / steps`. -/
def stepped (steps : ℚ) (v : K) : K :=
  JsNumber.ofInt (JsNumber.round (v * JsNumber.ofRat steps)) / JsNumber.ofRat steps

abbrev Byte (v : K) : Prop := Fits 0 255 v
abbrev Word (v : K) : Prop := Fits 0 65535 v
abbrev Ratio (v : K) : Prop := Fits 0 255 (v * JsNumber.ofRat 255)
abbrev Facing (v : K) : Prop := Fits (-128) 127 (v * JsNumber.ofRat 127)

def SnapshotMap.quantise (map : SnapshotMap K) : SnapshotMap K :=
  { map with tiles := map.tiles.map fun row => row.map whole }

def TileChange.quantise (c : TileChange K) : TileChange K := ⟨whole c.x, whole c.y, whole c.physics⟩

def TileAlpha.quantise (a : TileAlpha K) : TileAlpha K := ⟨whole a.x, whole a.y, stepped 255 a.alpha⟩

def Storm.quantise (storm : Storm K) : Storm K :=
  ⟨whole storm.x, whole storm.y, whole storm.width, whole storm.height⟩

def SnapshotPlayer.quantise (p : SnapshotPlayer K) : SnapshotPlayer K :=
  { p with
    id := whole p.id
    x := whole p.x
    y := whole p.y
    facingX := stepped 127 p.facingX
    facingY := stepped 127 p.facingY
    colorIndex := whole p.colorIndex
    effects := fun type => (p.effects type).map (stepped 255)
    emojiId := p.emojiId.map whole }

def Region.quantise (r : Region K) : Region K := ⟨whole r.x, whole r.y, stepped 255 r.remaining⟩

def SlotCooldown.quantise (c : SlotCooldown K) : SlotCooldown K := ⟨whole c.slot, whole c.remainingMs⟩

def RosterName.quantise (r : RosterName K) : RosterName K := { r with id := whole r.id }

/-- The snapshot with its numbers as the bytes hold them. -/
def Snapshot.quantise (s : Snapshot K) : Snapshot K :=
  { version := s.version
    full := s.full
    tick := whole s.tick
    map := s.map.map SnapshotMap.quantise
    tileChanges := (nonEmpty s.tileChanges).map (List.map TileChange.quantise)
    tileAlphas := s.tileAlphas.map (List.map TileAlpha.quantise)
    storm := s.storm.map (Option.map Storm.quantise)
    players := s.players.map (List.map SnapshotPlayer.quantise)
    regions := (nonEmpty s.regions).map (List.map Region.quantise)
    selfId := s.selfId.map whole
    cooldowns := s.cooldowns.map (List.map SlotCooldown.quantise)
    roster := (nonEmpty s.roster).map (List.map RosterName.quantise) }

/-- The snapshot before any of its sections is read. -/
def Snapshot.bare (s : Snapshot K) : Snapshot K :=
  { version := s.version, full := s.full, tick := whole s.tick }

structure SnapshotMap.Fits (map : SnapshotMap K) : Prop where
  cols : map.cols ≤ 255
  rows : map.rows ≤ 255
  height : map.tiles.length = map.rows
  width : ∀ row ∈ map.tiles, row.length = map.cols
  tiles : ∀ row ∈ map.tiles, ∀ tile ∈ row, Byte tile

structure TileChange.Fits (c : TileChange K) : Prop where
  x : Byte c.x
  y : Byte c.y
  physics : Byte c.physics

structure TileAlpha.Fits (a : TileAlpha K) : Prop where
  x : Byte a.x
  y : Byte a.y
  alpha : Ratio a.alpha

structure Storm.Fits (storm : Storm K) : Prop where
  x : Word storm.x
  y : Word storm.y
  width : Word storm.width
  height : Word storm.height

structure SnapshotPlayer.Fits (p : SnapshotPlayer K) : Prop where
  id : Byte p.id
  x : Word p.x
  y : Word p.y
  facingX : Facing p.facingX
  facingY : Facing p.facingY
  colorIndex : Byte p.colorIndex
  effects : ∀ type, ∀ v ∈ p.effects type, Ratio v
  emojiId : ∀ v ∈ p.emojiId, Byte v

structure Region.Fits (r : Region K) : Prop where
  x : Byte r.x
  y : Byte r.y
  remaining : Ratio r.remaining

structure SlotCooldown.Fits (c : SlotCooldown K) : Prop where
  slot : Byte c.slot
  remainingMs : Word c.remainingMs

/-- The decoder of texts takes a byte order mark off. -/
structure RosterName.Fits (r : RosterName K) : Prop where
  id : Byte r.id
  length : (utf8 r.nickname).length ≤ 255
  unmarked : r.nickname.toList.head? ≠ some byteOrderMark

/-- What the format can hold. Cooldowns travel with the slot they belong to. -/
structure Snapshot.Fits (s : Snapshot K) : Prop where
  version : s.version = JsNumber.ofInt Protocol.protocolVersion
  tick : Wire.Fits 0 0xffffffff s.tick
  map : ∀ map ∈ s.map, map.Fits
  tileChanges : ∀ changes ∈ s.tileChanges, ∀ c ∈ changes, c.Fits
  tileAlphas : ∀ alphas ∈ s.tileAlphas, ∀ a ∈ alphas, a.Fits
  storm : ∀ storm ∈ s.storm, ∀ rect ∈ storm, rect.Fits
  playerCount : ∀ players ∈ s.players, players.length ≤ 255
  players : ∀ players ∈ s.players, ∀ p ∈ players, p.Fits
  regionCount : ∀ regions ∈ s.regions, regions.length ≤ 255
  regions : ∀ regions ∈ s.regions, ∀ r ∈ regions, r.Fits
  selfId : ∀ selfId ∈ s.selfId, Byte selfId
  own : s.selfId = none → s.cooldowns = none
  cooldownCount : ∀ cooldowns ∈ s.cooldowns, cooldowns.length ≤ 255
  cooldowns : ∀ cooldowns ∈ s.cooldowns, ∀ c ∈ cooldowns, c.Fits
  rosterCount : ∀ roster ∈ s.roster, roster.length ≤ 255
  roster : ∀ roster ∈ s.roster, ∀ r ∈ roster, r.Fits
  lengths : ∀ entry ∈ sections s, entry.2.length ≤ 65535

/-! ## Numbers -/

theorem fromLittleEndian_littleEndian (count n : Nat) (bound : n < 256 ^ count) :
    fromLittleEndian (littleEndian count n) = n := by
  induction count generalizing n with
  | zero =>
    have zero : n = 0 := by simpa using bound
    rw [zero]
    rfl
  | succ count ih =>
    have rest : n / 256 < 256 ^ count := by
      rw [Nat.pow_succ] at bound
      exact Nat.div_lt_of_lt_mul (by rwa [Nat.mul_comm])
    rw [littleEndian, fromLittleEndian, ih _ rest, UInt8.toNat_ofNat']
    omega

theorem littleEndian_length (count n : Nat) : (littleEndian count n).length = count := by
  induction count generalizing n with
  | zero => rfl
  | succ count ih => rw [littleEndian, List.length_cons, ih]

theorem clamp_of_within {low high v : Int} (above : low ≤ v) (below : v ≤ high) :
    Protocol.clamp low high v = v := by
  rw [Protocol.clamp, min_eq_right below, max_eq_right above]

theorem yields_littleEndian {ε : Type} (count : Nat) {n : Nat} (bound : n < 256 ^ count) :
    Yields (Reader.uint count : Reader ε Nat) (littleEndian count n) n := by
  have reads := Yields.uint (ε := ε) (littleEndian count n)
  rw [littleEndian_length, fromLittleEndian_littleEndian count n bound] at reads
  exact reads

theorem yields_u8 {v : Int} (above : 0 ≤ v) (below : v ≤ 255) :
    Yields (Reader.uint 1 : SectionReader Nat) (Protocol.u8 v) v.toNat := by
  rw [Protocol.u8, clamp_of_within above below]
  exact yields_littleEndian 1 (n := v.toNat) (by omega)

theorem yields_count {α : Type} {xs : List α} (few : xs.length ≤ 255) :
    Yields (Reader.uint 1 : SectionReader Nat) (Protocol.u8 xs.length) xs.length :=
  yields_u8 (by omega) (by omega)

theorem yields_count16 {α : Type} {xs : List α} (few : xs.length ≤ 65535) :
    Yields (Reader.uint 2 : SectionReader Nat) (Protocol.u16 xs.length) xs.length := by
  rw [Protocol.u16, clamp_of_within (by omega) (by omega), Int.toNat_natCast]
  exact yields_littleEndian 2 (by omega)

section Numbers

variable {v : K}

theorem yields_byte (fits : Byte v) : Yields (number 1 : SectionReader K) (u8 v) (whole v) := by
  have reads := (yields_u8 fits.1 fits.2).last (JsNumber.ofInt (K := K) ·)
  rw [Int.toNat_of_nonneg fits.1] at reads
  exact reads

theorem yields_word (fits : Word v) : Yields (number 2 : SectionReader K) (u16 v) (whole v) := by
  have nonneg := fits.1
  have below := fits.2
  have reads := (yields_littleEndian (ε := SnapshotDecodeError) 2 (n := (JsNumber.round v).toNat) (by omega)).last
    (JsNumber.ofInt (K := K) ·)
  rw [Int.toNat_of_nonneg nonneg] at reads
  rw [u16, Protocol.u16, clamp_of_within nonneg below]
  exact reads

theorem yields_ratio (fits : Ratio v) :
    Yields (fraction : SectionReader K) (ratio v) (stepped 255 v) := by
  have reads := (yields_u8 fits.1 fits.2).last fun n =>
    (JsNumber.ofInt n / JsNumber.ofRat 255 : K)
  rw [Int.toNat_of_nonneg fits.1] at reads
  exact reads

theorem signed_byte {v : Int} (above : -128 ≤ v) (below : v ≤ 127) :
    signed (v % 256).toNat = v := by
  unfold signed
  split <;> omega

theorem yields_facing (fits : Facing v) :
    Yields (facing : SectionReader K) (i8 (v * JsNumber.ofRat 127)) (stepped 127 v) := by
  obtain ⟨above, below⟩ := fits
  generalize rounded : JsNumber.round (v * JsNumber.ofRat 127) = n at above below
  have reads := (yields_littleEndian (ε := SnapshotDecodeError) 1 (n := (n % 256).toNat) (by omega)).last
    fun n => (JsNumber.ofInt (signed n) / JsNumber.ofRat 127 : K)
  rw [signed_byte above below] at reads
  rw [i8, Protocol.i8, rounded, clamp_of_within above below, stepped, rounded]
  exact reads

end Numbers

/-! ## Records -/

theorem readChange_yields {c : TileChange K} (fits : c.Fits) :
    Yields readChange (encodeChange c) c.quantise := by
  rw [encodeChange, List.append_assoc]
  exact (yields_byte fits.x).bind ((yields_byte fits.y).bind ((yields_byte fits.physics).last _))

theorem readAlpha_yields {a : TileAlpha K} (fits : a.Fits) :
    Yields readAlpha (encodeAlpha a) a.quantise := by
  rw [encodeAlpha, List.append_assoc]
  exact (yields_byte fits.x).bind ((yields_byte fits.y).bind ((yields_ratio fits.alpha).last _))

theorem readRegion_yields {r : Region K} (fits : r.Fits) :
    Yields readRegion (encodeRegion r) r.quantise := by
  rw [encodeRegion, List.append_assoc]
  exact (yields_byte fits.x).bind ((yields_byte fits.y).bind ((yields_ratio fits.remaining).last _))

theorem readCooldown_yields {c : SlotCooldown K} (fits : c.Fits) :
    Yields readCooldown (encodeCooldown c) c.quantise :=
  (yields_byte fits.slot).bind ((yields_word fits.remainingMs).last _)

theorem readName_yields {r : RosterName K} (fits : r.Fits) :
    Yields readName (encodeName r) r.quantise := by
  have short : (utf8 r.nickname).take 255 = utf8 r.nickname := List.take_of_length_le fits.length
  have text := textDecode_utf8_unmarked fits.unmarked
  have taken := (Yields.take (ε := SnapshotDecodeError) (utf8 r.nickname)).last fun bytes =>
    (⟨whole r.id, textDecode bytes⟩ : RosterName K)
  rw [text] at taken
  have header : Yields (Reader.uint 1 : SectionReader Nat)
      (Protocol.u8 (utf8 r.nickname).length) (utf8 r.nickname).length := yields_count fits.length
  rw [encodeName, short, List.append_assoc]
  refine Yields.need ?_ ((yields_byte fits.id).bind (header.bind (Yields.need le_rfl taken)))
  simp [u8, Protocol.u8]

/-! ## The player -/

theorem readEmoji_yields {flags : Nat} {emojiId : Option K}
    (shown : flags &&& 4 = 0 ↔ emojiId = none) (fits : ∀ v ∈ emojiId, Byte v) :
    Yields (readEmoji flags) (optional emojiId u8) (emojiId.map whole) := by
  rw [readEmoji]
  cases emojiId with
  | none =>
    rw [if_pos (shown.mpr rfl)]
    exact Yields.pure _
  | some v =>
    have present : ¬ flags &&& 4 = 0 := fun absent => by simpa using shown.mp absent
    rw [if_neg present]
    exact Yields.need (by simp [Protocol.optional, u8, Protocol.u8]) ((yields_byte (fits v rfl)).last some)

/-- The effects whose bits are set, on top of those already read. -/
def withEffects (effects : EffectType → Option K) :
    List (EffectType × Nat) → (EffectType → Option K) → EffectType → Option K
  | [], read => read
  | (type, _) :: rest, read =>
    withEffects effects rest
      (match effects type with
        | none => read
        | some v => Function.update read type (some (stepped 255 v)))

theorem readEffects_yields {mask : Nat} {effects : EffectType → Option K}
    (fits : ∀ type, ∀ v ∈ effects type, Ratio v) {bits : List (EffectType × Nat)}
    (shown : ∀ entry ∈ bits, mask &&& (1 <<< entry.2) = 0 ↔ effects entry.1 = none)
    (read : EffectType → Option K) :
    Yields (readEffects mask bits read) (bits.flatMap fun entry => optional (effects entry.1) ratio)
      (withEffects effects bits read) := by
  induction bits generalizing read with
  | nil => exact Yields.pure _
  | cons entry rest ih =>
    obtain ⟨type, bit⟩ := entry
    have later := ih fun entry member => shown entry (List.mem_cons_of_mem _ member)
    have here := shown (type, bit) List.mem_cons_self
    dsimp only at here
    rw [readEffects, List.flatMap_cons, withEffects]
    cases found : effects type with
    | none =>
      rw [if_pos (here.mpr found)]
      exact later read
    | some v =>
      have set : ¬ mask &&& (1 <<< bit) = 0 := fun absent => by simpa [found] using here.mp absent
      rw [if_neg set]
      exact Yields.need (by simp [Protocol.optional, ratio, u8, Protocol.u8])
        ((yields_ratio (fits type v found)).bind (later _))

theorem withEffects_effectBits (effects : EffectType → Option K) :
    withEffects effects effectBits.zipIdx (fun _ => none) =
      fun type => (effects type).map (stepped 255) := by
  funext type
  cases type <;> cases dash : effects .dash <;> cases frenzy : effects .frenzy <;>
    cases exhaust : effects .exhaust <;>
    simp [withEffects, effectBits, dash, frenzy, exhaust, Function.update]

omit [JsNumber K] in
theorem effectMask_shows (effects : EffectType → Option K) :
    0 ≤ effectMask effects ∧ effectMask effects ≤ 255 ∧
      ∀ entry ∈ effectBits.zipIdx,
        (effectMask effects).toNat &&& (1 <<< entry.2) = 0 ↔ effects entry.1 = none := by
  cases dash : effects .dash <;> cases frenzy : effects .frenzy <;>
    cases exhaust : effects .exhaust <;>
    simp [effectMask, effectBits, dash, frenzy, exhaust]

omit [JsNumber K] in
theorem playerFlags_shows (p : SnapshotPlayer K) :
    0 ≤ playerFlags p ∧ playerFlags p ≤ 255 ∧
      ((playerFlags p).toNat &&& 4 = 0 ↔ p.emojiId = none) ∧
      decide ((playerFlags p).toNat &&& 1 ≠ 0) = p.obscured ∧
      decide ((playerFlags p).toNat &&& 2 ≠ 0) = p.isTagger := by
  cases obscured : p.obscured <;> cases tagger : p.isTagger <;> cases emoji : p.emojiId <;>
    simp [playerFlags, obscured, tagger, emoji]

theorem readPlayer_yields {p : SnapshotPlayer K} (fits : p.Fits) :
    Yields readPlayer (encodePlayer p) p.quantise := by
  obtain ⟨flagsLow, flagsHigh, emoji, obscured, tagger⟩ := playerFlags_shows p
  obtain ⟨maskLow, maskHigh, shown⟩ := effectMask_shows p.effects
  have effects := readEffects_yields fits.effects shown fun _ => none
  rw [withEffects_effectBits] at effects
  have value : p.quantise =
      { id := whole p.id, x := whole p.x, y := whole p.y
        facingX := stepped 127 p.facingX, facingY := stepped 127 p.facingY
        colorIndex := whole p.colorIndex
        effects := fun type => (p.effects type).map (stepped 255)
        emojiId := p.emojiId.map whole
        obscured := decide ((playerFlags p).toNat &&& 1 ≠ 0)
        isTagger := decide ((playerFlags p).toNat &&& 2 ≠ 0) } := by
    rw [obscured, tagger]
    rfl
  have bits : encodeEffects p.effects =
      effectBits.zipIdx.flatMap fun entry => optional (p.effects entry.1) ratio := rfl
  rw [encodePlayer, value, bits]
  simp only [List.append_assoc]
  refine Yields.need ?_ ((yields_byte fits.id).bind ((yields_word fits.x).bind
    ((yields_word fits.y).bind ((yields_facing fits.facingX).bind
    ((yields_facing fits.facingY).bind ((yields_byte fits.colorIndex).bind
    ((yields_u8 flagsLow flagsHigh).bind ((yields_u8 maskLow maskHigh).bind
    (effects.bind ((readEmoji_yields emoji fits.emojiId).last _))))))))))
  simp only [List.length_append, u8, u16, i8, Protocol.u8, Protocol.u16, Protocol.i8,
    littleEndian_length, List.length_cons, List.length_nil]
  omega

/-! ## Section bodies -/

theorem length_flatMap_const {α : Type} {write : α → Bytes} {xs : List α} {size : Nat}
    (each : ∀ x ∈ xs, (write x).length = size) : (xs.flatMap write).length = xs.length * size := by
  induction xs with
  | nil => simp
  | cons x rest ih =>
    have later := ih fun y member => each y (List.mem_cons_of_mem x member)
    rw [List.flatMap_cons, List.length_append, each x List.mem_cons_self, later, List.length_cons,
      Nat.succ_mul, Nat.add_comm]

theorem flatMap_range {α : Type} (write : Option α → Bytes) (xs : List α) :
    ((List.range xs.length).flatMap fun i => write xs[i]?) = xs.flatMap fun x => write (some x) := by
  induction xs with
  | nil => rfl
  | cons x rest ih =>
    rw [List.length_cons, List.range_succ_eq_map, List.flatMap_cons, List.flatMap_cons,
      List.flatMap_map]
    simp only [List.getElem?_cons_zero, List.getElem?_cons_succ, ih]

theorem readRecords_yields {α β : Type} {record : SectionReader α} {write : β → Bytes}
    {value : β → α} {xs : List β} (type width : Nat) {count : Int → Bytes}
    (counts : Yields (Reader.uint width : SectionReader Nat) (count xs.length) xs.length)
    (wide : (count xs.length).length = width) (three : ∀ b, (write b).length = 3)
    (reads : ∀ b ∈ xs, Yields record (write b) (value b)) :
    Yields (readRecords type width record) (counted count xs write) (xs.map value) := by
  have body : (xs.flatMap write).length = xs.length * 3 := length_flatMap_const fun b _ => three b
  refine Yields.need ?_ (counts.bind (Yields.need body.ge (Yields.times reads)))
  rw [counted, List.length_append, wide]
  exact Nat.le_add_right _ _

theorem readMap_yields {map : SnapshotMap K} (fits : map.Fits) :
    Yields readMap (encodeMap map) map.quantise := by
  obtain ⟨cols, rows, height, width, tiles⟩ := fits
  have grid : ((List.range map.rows).flatMap fun y => (List.range map.cols).flatMap fun x =>
      u8 (((map.tiles[y]?).bind (·[x]?)).getD 0)) = map.tiles.flatMap (·.flatMap u8) := by
    rw [← height, flatMap_range fun row =>
      (List.range map.cols).flatMap fun x => u8 ((row.bind (·[x]?)).getD 0)]
    refine List.flatMap_congr fun row member => ?_
    rw [← width row member]
    exact flatMap_range (fun tile => u8 (tile.getD 0)) row
  have read : Yields (Reader.times (Reader.times (number 1) map.cols) map.rows)
      (map.tiles.flatMap (·.flatMap u8)) (map.tiles.map fun row => row.map (whole (K := K))) := by
    rw [← height]
    refine Yields.times fun row member => ?_
    rw [← width row member]
    exact Yields.times fun tile inside => yields_byte (tiles row member tile inside)
  have area : (map.tiles.flatMap (·.flatMap u8)).length = map.cols * map.rows := by
    have row (tiles : List K) : (tiles.flatMap u8).length = tiles.length * 1 :=
      length_flatMap_const fun _ _ => rfl
    rw [length_flatMap_const fun tiles member => ?_, height, Nat.mul_comm]
    rw [row, width tiles member, Nat.mul_one]
  have first : Yields (Reader.uint 1 : SectionReader Nat) (Protocol.u8 map.cols) map.cols :=
    yields_u8 (by omega) (by omega)
  have second : Yields (Reader.uint 1 : SectionReader Nat) (Protocol.u8 map.rows) map.rows :=
    yields_u8 (by omega) (by omega)
  rw [encodeMap, grid, List.append_assoc]
  refine Yields.need ?_ (first.bind (second.bind (Yields.need area.ge (read.last _))))
  simp [Protocol.u8]

theorem readStorm_yields {storm : Option (Storm K)} (fits : ∀ rect ∈ storm, rect.Fits) :
    Yields readStorm (encodeStorm storm) (storm.map Storm.quantise) := by
  cases storm with
  | none =>
    have absent : Yields (Reader.uint 1 : SectionReader Nat) (Protocol.u8 0) 0 :=
      yields_u8 le_rfl (by omega)
    refine Yields.need (by simp [encodeStorm, Protocol.u8]) ?_
    rw [← List.append_nil (encodeStorm _)]
    exact absent.bind (Yields.pure none)
  | some rect =>
    obtain ⟨x, y, width, height⟩ := fits rect rfl
    have present : Yields (Reader.uint 1 : SectionReader Nat) (Protocol.u8 1) 1 :=
      yields_u8 (by omega) (by omega)
    rw [encodeStorm]
    simp only [List.append_assoc]
    refine Yields.need ?_ (present.bind ?_)
    · simp [Protocol.u8]
    · rw [if_neg Nat.one_ne_zero]
      refine Yields.need ?_ ((yields_word x).bind ((yields_word y).bind
        ((yields_word width).bind ((yields_word height).last _))))
      simp [u16, Protocol.u16, littleEndian_length]

theorem readPlayers_yields {players : List (SnapshotPlayer K)} (few : players.length ≤ 255)
    (fits : ∀ p ∈ players, p.Fits) :
    Yields readPlayers (counted Protocol.u8 players encodePlayer)
      (players.map SnapshotPlayer.quantise) := by
  refine Yields.need ?_ ((yields_count few).bind
    (Yields.times fun p member => readPlayer_yields (fits p member)))
  simp [counted, Protocol.u8]

theorem readRoster_yields {roster : List (RosterName K)} (few : roster.length ≤ 255)
    (fits : ∀ r ∈ roster, r.Fits) :
    Yields readRoster (counted Protocol.u8 roster encodeName)
      (roster.map RosterName.quantise) := by
  refine Yields.need ?_ ((yields_count few).bind
    (Yields.times fun r member => readName_yields (fits r member)))
  simp [counted, Protocol.u8]

theorem readSelf_yields {selfId : K} {cooldowns : List (SlotCooldown K)} (id : Byte selfId)
    (few : cooldowns.length ≤ 255) (fits : ∀ c ∈ cooldowns, c.Fits) :
    Yields readSelf (encodeSelf selfId (some cooldowns))
      (whole selfId, some (cooldowns.map SlotCooldown.quantise)) := by
  have size : (cooldowns.flatMap encodeCooldown).length = cooldowns.length * 3 :=
    length_flatMap_const fun _ _ => rfl
  have count : (Protocol.u8 cooldowns.length).length = 1 := rfl
  have read := Yields.times fun c member => readCooldown_yields (fits c member)
  refine Yields.need (by simp [encodeSelf, u8, Protocol.u8])
    ((yields_byte id).bind (Yields.room fun left enough => ?_))
  rw [Protocol.optional, Option.elim_some, counted, List.length_append, count] at enough
  have more : 1 ≤ left := by omega
  rw [if_pos more]
  exact (yields_count few).bind (Yields.need size.ge (read.last _))

/-- Without cooldowns nothing may follow the slot. -/
theorem readSelf_finishes {selfId : K} {cooldowns : Option (List (SlotCooldown K))}
    (id : Byte selfId) (few : ∀ list ∈ cooldowns, list.length ≤ 255)
    (fits : ∀ list ∈ cooldowns, ∀ c ∈ list, c.Fits) :
    Finishes readSelf (encodeSelf selfId cooldowns)
      (whole selfId, cooldowns.map (List.map SlotCooldown.quantise)) := by
  cases cooldowns with
  | none =>
    exact Finishes.need (by simp [encodeSelf, u8, Protocol.u8])
      ((yields_byte id).bindFinishes (Finishes.room (Yields.pure _).finishes))
  | some list => exact (readSelf_yields id (few list rfl) (fits list rfl)).finishes

end SwitchRemake.Wire

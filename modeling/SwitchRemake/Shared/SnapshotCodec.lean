import SwitchRemake.Lib.ByteReader
import SwitchRemake.Lib.TextDecoder
import SwitchRemake.Shared.Snapshot

/-!
# The snapshot format

`shared/protocol/snapshot.ts`: every number of a snapshot is a `K` here, as the type of the source
has it, so that what the encoder rounds and what the decoder divides can be told apart.
-/

namespace SwitchRemake.Wire
open Lib Simulation
open Protocol (Bytes SectionType littleEndian writeSection optional counted effectBits
  flagFull)

structure SnapshotPlayer (K : Type) where
  id : K
  x : K
  y : K
  facingX : K
  facingY : K
  colorIndex : K
  obscured : Bool
  isTagger : Bool
  effects : EffectType → Option K
  emojiId : Option K
  deriving DecidableEq

structure SnapshotMap (K : Type) where
  cols : Nat
  rows : Nat
  tiles : List (List K)
  deriving DecidableEq

structure TileChange (K : Type) where
  x : K
  y : K
  physics : K
  deriving DecidableEq

structure TileAlpha (K : Type) where
  x : K
  y : K
  alpha : K
  deriving DecidableEq

structure Storm (K : Type) where
  x : K
  y : K
  width : K
  height : K
  deriving DecidableEq

structure Region (K : Type) where
  x : K
  y : K
  remaining : K
  deriving DecidableEq

structure SlotCooldown (K : Type) where
  slot : K
  remainingMs : K
  deriving DecidableEq

structure RosterName (K : Type) where
  id : K
  nickname : String
  deriving DecidableEq

structure Snapshot (K : Type) where
  version : K
  full : Bool
  tick : K
  map : Option (SnapshotMap K) := none
  tileChanges : Option (List (TileChange K)) := none
  tileAlphas : Option (List (TileAlpha K)) := none
  storm : Option (Option (Storm K)) := none
  players : Option (List (SnapshotPlayer K)) := none
  regions : Option (List (Region K)) := none
  selfId : Option K := none
  cooldowns : Option (List (SlotCooldown K)) := none
  roster : Option (List (RosterName K)) := none
  deriving DecidableEq

variable {K : Type} [JsNumber K]

/-! ## The writer -/

def u8 (v : K) : Bytes := Protocol.u8 (JsNumber.round v)
def i8 (v : K) : Bytes := Protocol.i8 (JsNumber.round v)
def u16 (v : K) : Bytes := Protocol.u16 (JsNumber.round v)
def u32 (v : K) : Bytes := Protocol.u32 (JsNumber.round v)

/-- `w.u8(ratioByte(v))`. -/
def ratio (v : K) : Bytes := u8 (v * JsNumber.ofRat 255)

def encodeMap (map : SnapshotMap K) : Bytes :=
  Protocol.u8 map.cols ++ Protocol.u8 map.rows ++ (List.range map.rows).flatMap fun y =>
    (List.range map.cols).flatMap fun x => u8 (((map.tiles[y]?).bind (·[x]?)).getD 0)

def encodeChange (c : TileChange K) : Bytes := u8 c.x ++ u8 c.y ++ u8 c.physics
def encodeAlpha (a : TileAlpha K) : Bytes := u8 a.x ++ u8 a.y ++ ratio a.alpha
def encodeRegion (r : Region K) : Bytes := u8 r.x ++ u8 r.y ++ ratio r.remaining
def encodeCooldown (c : SlotCooldown K) : Bytes := u8 c.slot ++ u16 c.remainingMs

def encodeStorm : Option (Storm K) → Bytes
  | none => Protocol.u8 0
  | some storm => Protocol.u8 1 ++ u16 storm.x ++ u16 storm.y ++ u16 storm.width ++ u16 storm.height

def playerFlags (p : SnapshotPlayer K) : Int :=
  (if p.obscured then 1 else 0) + (if p.isTagger then 2 else 0) +
    (if p.emojiId.isSome then 4 else 0)

def effectMask (effects : EffectType → Option K) : Int :=
  (effectBits.zipIdx.map fun entry => if (effects entry.1).isSome then (2 : Int) ^ entry.2 else 0).sum

def encodeEffects (effects : EffectType → Option K) : Bytes :=
  effectBits.flatMap fun type => optional (effects type) ratio

def encodePlayer (p : SnapshotPlayer K) : Bytes :=
  u8 p.id ++ u16 p.x ++ u16 p.y ++ i8 (p.facingX * JsNumber.ofRat 127) ++
    i8 (p.facingY * JsNumber.ofRat 127) ++ u8 p.colorIndex ++ Protocol.u8 (playerFlags p) ++
    Protocol.u8 (effectMask p.effects) ++ encodeEffects p.effects ++ optional p.emojiId u8

def encodeName (r : RosterName K) : Bytes :=
  let name := (utf8 r.nickname).take 255
  u8 r.id ++ Protocol.u8 name.length ++ name

def encodeSelf (selfId : K) (cooldowns : Option (List (SlotCooldown K))) : Bytes :=
  u8 selfId ++ optional cooldowns fun list => counted Protocol.u8 list encodeCooldown

/-- `list?.length`: an empty list is as good as none. -/
def nonEmpty {α : Type} : Option (List α) → Option (List α)
  | some (a :: rest) => some (a :: rest)
  | _ => none

/-- The sections that are written, in their order. -/
def sections (s : Snapshot K) : List (SectionType × Bytes) :=
  (s.map.map fun map => (SectionType.map, encodeMap map)).toList ++
    ((nonEmpty s.tileChanges).map fun changes =>
      (SectionType.tileChanges, counted Protocol.u16 changes encodeChange)).toList ++
    (s.tileAlphas.map fun alphas =>
      (SectionType.tileAlphas, counted Protocol.u16 alphas encodeAlpha)).toList ++
    (s.storm.map fun storm => (SectionType.storm, encodeStorm storm)).toList ++
    (s.players.map fun players =>
      (SectionType.players, counted Protocol.u8 players encodePlayer)).toList ++
    ((nonEmpty s.regions).map fun regions =>
      (SectionType.regions, counted Protocol.u8 regions encodeRegion)).toList ++
    (s.selfId.map fun selfId => (SectionType.self, encodeSelf selfId s.cooldowns)).toList ++
    ((nonEmpty s.roster).map fun roster =>
      (SectionType.roster, counted Protocol.u8 roster encodeName)).toList

def encodeSnapshot (s : Snapshot K) : Bytes :=
  Protocol.u8 Protocol.protocolVersion ++ Protocol.u8 (if s.full then flagFull else 0) ++ u32 s.tick ++
    (sections s).flatMap fun entry => writeSection entry.1 entry.2

/-! ## The reader -/

structure SnapshotDecodeError where
  message : String
  deriving DecidableEq

abbrev SectionReader (α : Type) := Reader SnapshotDecodeError α

def hex (n : Nat) : String := String.ofList (Nat.toDigits 16 n)

def tooShort (type want : Nat) (left : Int) : SnapshotDecodeError :=
  ⟨s!"section 0x{hex type} needs {want} more bytes, has {left}"⟩

def need (type want : Nat) : SectionReader Unit := Reader.need want (tooShort type want)

def number (width : Nat) : SectionReader K := do return JsNumber.ofInt (← Reader.uint width)

def signed (byte : Nat) : Int := if byte < 128 then byte else (byte : Int) - 256

def facing : SectionReader K := do
  return JsNumber.ofInt (signed (← Reader.uint 1)) / JsNumber.ofRat 127

def fraction : SectionReader K := do return JsNumber.ofInt (← Reader.uint 1) / JsNumber.ofRat 255

def readMap : SectionReader (SnapshotMap K) := do
  need 0x01 2
  let cols ← Reader.uint 1
  let rows ← Reader.uint 1
  need 0x01 (cols * rows)
  let tiles ← Reader.times (Reader.times (number 1) cols) rows
  return ⟨cols, rows, tiles⟩

def readChange : SectionReader (TileChange K) := do
  return ⟨← number 1, ← number 1, ← number 1⟩

def readAlpha : SectionReader (TileAlpha K) := do
  return ⟨← number 1, ← number 1, ← fraction⟩

def readRegion : SectionReader (Region K) := do
  return ⟨← number 1, ← number 1, ← fraction⟩

def readCooldown : SectionReader (SlotCooldown K) := do
  return ⟨← number 1, ← number 2⟩

/-- A count of `width` bytes and as many records of three bytes. -/
def readRecords {α : Type} (type width : Nat) (record : SectionReader α) :
    SectionReader (List α) := do
  need type width
  let count ← Reader.uint width
  need type (count * 3)
  Reader.times record count

def readStorm : SectionReader (Option (Storm K)) := do
  need 0x04 1
  let active ← Reader.uint 1
  if active = 0 then return none
  else do
    -- The source measures from the start of the section, one byte back.
    Reader.need 8 fun left => tooShort 0x04 9 (left + 1)
    return some ⟨← number 2, ← number 2, ← number 2, ← number 2⟩

/-- The effects in the order of their bits. -/
def readEffects (mask : Nat) :
    List (EffectType × Nat) → (EffectType → Option K) → SectionReader (EffectType → Option K)
  | [], effects => pure effects
  | (type, bit) :: rest, effects =>
    if mask &&& (1 <<< bit) = 0 then readEffects mask rest effects
    else do
      need 0x05 1
      let value ← fraction
      readEffects mask rest (Function.update effects type (some value))

def readEmoji (flags : Nat) : SectionReader (Option K) :=
  if flags &&& 4 = 0 then pure none
  else do
    need 0x05 1
    return some (← number 1)

def readPlayer : SectionReader (SnapshotPlayer K) := do
  need 0x05 10
  let id ← number 1
  let x ← number 2
  let y ← number 2
  let facingX ← facing
  let facingY ← facing
  let colorIndex ← number 1
  let flags ← Reader.uint 1
  let mask ← Reader.uint 1
  let effects ← readEffects mask effectBits.zipIdx fun _ => none
  let emojiId ← readEmoji flags
  return { id, x, y, facingX, facingY, colorIndex, effects, emojiId
           obscured := decide (flags &&& 1 ≠ 0)
           isTagger := decide (flags &&& 2 ≠ 0) }

def readPlayers : SectionReader (List (SnapshotPlayer K)) := do
  need 0x05 1
  let count ← Reader.uint 1
  Reader.times readPlayer count

/-- The cooldowns came later: a section that ends before them has none. -/
def readSelf : SectionReader (K × Option (List (SlotCooldown K))) := do
  need 0x07 1
  let selfId ← number 1
  let left ← Reader.room
  if 1 ≤ left then do
    let count ← Reader.uint 1
    need 0x07 (count * 3)
    return (selfId, some (← Reader.times readCooldown count))
  else return (selfId, none)

def readName : SectionReader (RosterName K) := do
  need 0x09 2
  let id ← number 1
  let len ← Reader.uint 1
  need 0x09 len
  return ⟨id, textDecode (← Reader.take len)⟩

def readRoster : SectionReader (List (RosterName K)) := do
  need 0x09 1
  let count ← Reader.uint 1
  Reader.times readName count

def readSection (s : Snapshot K) (type : Nat) : SectionReader (Snapshot K) :=
  match type with
  | 0x01 => do return { s with map := some (← readMap) }
  | 0x02 => do return { s with tileChanges := some (← readRecords 0x02 2 readChange) }
  | 0x03 => do return { s with tileAlphas := some (← readRecords 0x03 2 readAlpha) }
  | 0x04 => do return { s with storm := some (← readStorm) }
  | 0x05 => do return { s with players := some (← readPlayers) }
  | 0x06 => do return { s with regions := some (← readRecords 0x06 1 readRegion) }
  | 0x07 => do
    let own ← readSelf
    return { s with selfId := some own.1, cooldowns := own.2.or s.cooldowns }
  | 0x09 => do return { s with roster := some (← readRoster) }
  | _ => pure s

def sectionHeaderBytes : Nat := 3
def snapshotHeaderBytes : Nat := 6

/-- The loop over the sections. Every round moves on, so that a round for each byte is enough. -/
def readSections (buffer : Bytes) :
    Nat → Snapshot K → Nat → Except (Fault SnapshotDecodeError) (Snapshot K)
  | 0, s, _ => .ok s
  | rounds + 1, s, offset =>
    if offset + sectionHeaderBytes ≤ buffer.length then do
      let type ← getUint 1 buffer offset
      let length ← getUint 2 buffer (offset + 1)
      let start := offset + sectionHeaderBytes
      let stop := start + length
      if buffer.length < stop then
        .error (.thrown ⟨s!"section 0x{hex type} claims {length} bytes, past end of buffer"⟩)
      else do
        let read ← (readSection s type).run ⟨buffer, stop⟩ start
        readSections buffer rounds read.1 stop
    else .ok s

def decodeSnapshot (buffer : Bytes) : Except (Fault SnapshotDecodeError) (Snapshot K) :=
  if buffer.length < snapshotHeaderBytes then
    .error (.thrown ⟨s!"snapshot too short: {buffer.length} bytes"⟩)
  else do
    let version ← getUint 1 buffer 0
    let flags ← getUint 1 buffer 1
    let tick ← getUint 4 buffer 2
    readSections buffer buffer.length
      { version := JsNumber.ofInt version
        full := decide (flags &&& flagFull ≠ 0)
        tick := JsNumber.ofInt tick }
      snapshotHeaderBytes

end SwitchRemake.Wire

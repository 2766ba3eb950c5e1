import SwitchRemake.Shared.Protocol
import SwitchRemake.Shared.Visibility

/-!
# The snapshot and its bytes

`shared/protocol/snapshot.ts` and `constants.ts`: the fields of a snapshot and the encoder. The
writer's buffer only grows, so what it has written is a list of bytes.
-/

namespace SwitchRemake.Protocol
open Lib Simulation Visibility

variable {K : Type}

structure SnapshotPlayer (K : Type) where
  id : Nat
  x : Int
  y : Int
  facingX : K
  facingY : K
  colorIndex : Nat
  obscured : Bool
  isTagger : Bool
  effects : EffectType → Option K
  emojiId : Option Nat

structure SnapshotMap where
  cols : Nat
  rows : Nat
  tiles : Tiles
  deriving DecidableEq

structure Region (K : Type) where
  x : Nat
  y : Nat
  remaining : K

structure SlotCooldown where
  slot : Nat
  remainingMs : Int
  deriving DecidableEq

structure RosterName where
  id : Nat
  nickname : String
  deriving DecidableEq

/-- A field that is `none` is absent from the frame; an absent storm and no storm are different. -/
structure Snapshot (K : Type) where
  version : Nat
  full : Bool
  tick : Nat
  map : Option SnapshotMap := none
  tileChanges : Option (List TileChange) := none
  tileAlphas : Option (List (TileAlpha K)) := none
  storm : Option (Option (StormRect K)) := none
  players : Option (List (SnapshotPlayer K)) := none
  regions : Option (List (Region K)) := none
  selfId : Option Nat := none
  cooldowns : Option (List SlotCooldown) := none
  roster : Option (List RosterName) := none

def protocolVersion : Nat := 2
def flagFull : Nat := 1

inductive SectionType where
  | map | tileChanges | tileAlphas | storm | players | regions | self | roster
  deriving DecidableEq, Repr

def SectionType.code : SectionType → Int
  | .map => 0x01
  | .tileChanges => 0x02
  | .tileAlphas => 0x03
  | .storm => 0x04
  | .players => 0x05
  | .regions => 0x06
  | .self => 0x07
  | .roster => 0x09

def TilePhysics.code : TilePhysics → Int
  | .floor => 0
  | .wall => 1
  | .bush => 2
  | .gas => 3

/-- The order of the bits in `effectMask`. -/
def effectBits : List EffectType := [.dash, .frenzy, .exhaust]

/-! ## The writer -/

abbrev Bytes := List UInt8

def clamp (low high v : Int) : Int := max low (min high v)

def littleEndian : Nat → Nat → Bytes
  | 0, _ => []
  | count + 1, n => UInt8.ofNat n :: littleEndian count (n / 256)

def u8 (v : Int) : Bytes := [UInt8.ofNat (clamp 0 255 v).toNat]
def i8 (v : Int) : Bytes := [UInt8.ofNat ((clamp (-128) 127 v) % 256).toNat]
def u16 (v : Int) : Bytes := littleEndian 2 (clamp 0 65535 v).toNat
def u32 (v : Int) : Bytes := littleEndian 4 (clamp 0 0xffffffff v).toNat

/-- The length is written by `setUint16`, which keeps its low sixteen bits. -/
def writeSection (type : SectionType) (body : Bytes) : Bytes :=
  u8 type.code ++ littleEndian 2 body.length ++ body

def optional {α : Type} (field : Option α) (write : α → Bytes) : Bytes := field.elim [] write

/-- A list section that is left out when it has no entry. -/
def optionalList {α : Type} (field : Option (List α)) (write : List α → Bytes) : Bytes :=
  match field with
  | some (a :: rest) => write (a :: rest)
  | _ => []

def counted {α : Type} (count : Int → Bytes) (xs : List α) (write : α → Bytes) : Bytes :=
  count xs.length ++ xs.flatMap write

variable [JsNumber K]

def ratioByte (v : K) : Bytes := u8 (JsNumber.round (v * JsNumber.ofRat 255))

def encodePlayer (p : SnapshotPlayer K) : Bytes :=
  let flags : Int := (if p.obscured then 1 else 0) + (if p.isTagger then 2 else 0) +
    (if p.emojiId.isSome then 4 else 0)
  let mask : Int := (effectBits.zipIdx.map fun entry =>
    if (p.effects entry.1).isSome then (2 : Int) ^ entry.2 else 0).sum
  u8 p.id ++ u16 p.x ++ u16 p.y ++ i8 (JsNumber.round (p.facingX * JsNumber.ofRat 127)) ++
    i8 (JsNumber.round (p.facingY * JsNumber.ofRat 127)) ++ u8 p.colorIndex ++ u8 flags ++ u8 mask ++
    effectBits.flatMap (fun type => optional (p.effects type) ratioByte) ++
    optional p.emojiId fun id => u8 id

def encodeMap (map : SnapshotMap) : Bytes :=
  u8 map.cols ++ u8 map.rows ++ (List.range map.rows).flatMap fun y =>
    (List.range map.cols).flatMap fun x =>
      u8 ((((map.tiles[y]?).bind (·[x]?)).map TilePhysics.code).getD 0)

def encodeStorm (storm : Option (StormRect K)) : Bytes :=
  match storm with
  | none => u8 0
  | some rect => u8 1 ++ u16 (JsNumber.round rect.x) ++ u16 (JsNumber.round rect.y) ++
      u16 (JsNumber.round rect.width) ++ u16 (JsNumber.round rect.height)

def encodeRosterName (r : RosterName) : Bytes :=
  let name := r.nickname.toUTF8.toList.take 255
  u8 r.id ++ u8 name.length ++ name

/-- The sections in the order they are written. The own cooldowns travel in the `self` section. -/
def encodeSnapshot (s : Snapshot K) : Bytes :=
  u8 protocolVersion ++ u8 (if s.full then flagFull else 0) ++ u32 s.tick ++
    optional s.map (fun map => writeSection .map (encodeMap map)) ++
    optionalList s.tileChanges (fun changes => writeSection .tileChanges
      (counted u16 changes fun c => u8 c.x ++ u8 c.y ++ u8 (TilePhysics.code c.physics))) ++
    optional s.tileAlphas (fun alphas => writeSection .tileAlphas
      (counted u16 alphas fun a => u8 a.x ++ u8 a.y ++ ratioByte a.alpha)) ++
    optional s.storm (fun storm => writeSection .storm (encodeStorm storm)) ++
    optional s.players (fun players => writeSection .players (counted u8 players encodePlayer)) ++
    optionalList s.regions (fun regions => writeSection .regions
      (counted u8 regions fun r => u8 r.x ++ u8 r.y ++ ratioByte r.remaining)) ++
    optional s.selfId (fun selfId => writeSection .self (u8 selfId ++
      optional s.cooldowns fun cooldowns =>
        counted u8 cooldowns fun c => u8 c.slot ++ u16 c.remainingMs)) ++
    optionalList s.roster fun roster => writeSection .roster (counted u8 roster encodeRosterName)

end SwitchRemake.Protocol

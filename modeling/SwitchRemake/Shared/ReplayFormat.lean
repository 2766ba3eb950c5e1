import SwitchRemake.Lib.ByteReader
import SwitchRemake.Lib.TextDecoder
import SwitchRemake.Lib.Json
import SwitchRemake.Shared.Snapshot

/-!
# The replay file

`shared/replay/format.ts`. The parser and the chunk decoder read files that strangers made, so what
they throw is part of the format: `ReplayDecodeError` for whatever is wrong with the file.
-/

namespace SwitchRemake.Replay
open Lib
open Protocol (Bytes littleEndian)

def replayMagic : String := "SWRP"
def replayContainerVersion : Nat := 1
def framesPerChunk : Nat := 60

def maxManifestBytes : Nat := 64 * 1024
def maxChunks : Nat := 10000
def maxRawChunkBytes : Nat := 16 * 1024 * 1024
def maxEventJsonBytes : Nat := 4096
def sha256Bytes : Nat := 32
def chunkIndexEntryBytes : Nat := 4 + 4 + 4 + 4 + 4 + sha256Bytes

/-- What these functions can throw. A read outside the buffer is a `RangeError`. -/
inductive Thrown where
  | replayDecodeError (message : String)
  | syntaxError
  | rangeError
  | error (message : String)
  deriving DecidableEq

def Thrown.isDecodeError : Thrown → Bool
  | replayDecodeError _ => true
  | _ => false

/-- Compression and hashing are passed in. -/
structure ReplayCodec where
  gzip : Bytes → Except Thrown Bytes
  gunzip : Bytes → Except Thrown Bytes
  sha256 : Bytes → Except Thrown Bytes

inductive ReplayEventKind where
  | tagged | eliminated | blinked | skillUsed | skillArea
  deriving DecidableEq

def ReplayEventKind.name : ReplayEventKind → String
  | tagged => "tagged"
  | eliminated => "eliminated"
  | blinked => "blinked"
  | skillUsed => "skillUsed"
  | skillArea => "skillArea"

structure ReplayEvent (K : Type) where
  kind : ReplayEventKind
  playerId : K
  taggedBy : Option K := none
  fromX : Option K := none
  fromY : Option K := none
  slot : Option K := none
  targetPlayerId : Option K := none
  skillId : Option String := none

structure RecordedFrame where
  tick : Nat
  full : Bool
  bytes : Bytes
  deriving DecidableEq

structure RecordedVisibility where
  tick : Nat
  masks : Bytes
  deriving DecidableEq

/-- The recorder stores a `ReplayEvent`. What the decoder returns is whatever the JSON holds. -/
structure RecordedEvent (E : Type) where
  tick : Nat
  event : E

structure ChunkAccumulator (E : Type) where
  frames : List RecordedFrame
  visibilities : List RecordedVisibility
  events : List (RecordedEvent E)

structure ReplayParticipant (K : Type) where
  playerId : K
  nickname : String
  colorIndex : K
  guest : Bool

/-- `Omit<ReplayManifest, 'chunkCount' | 'rootHash'>`. -/
structure ReplayManifestBase (K : Type) where
  replayFormatVersion : K
  matchId : String
  mapId : String
  snapshotHz : K
  startTick : Nat
  endTick : K
  durationTicks : K
  buildId : String
  protocolVersion : K
  rulesVersion : String
  mapBundleHash : String
  visibilityCoreVersion : K
  recordedAt : Option K
  participants : List (ReplayParticipant K)

structure ReplayManifest (K : Type) extends ReplayManifestBase K where
  chunkCount : Nat
  rootHash : String

structure ChunkIndexEntry where
  startTick : Nat
  endTick : Nat
  offset : Nat
  compressedLen : Nat
  rawLen : Nat
  sha256 : String
  deriving DecidableEq

structure ReplayContainer where
  bytes : Bytes
  chunkCount : Nat
  rootHash : String
  sizeBytes : Nat

variable {K : Type} [JsNumber K]

/-! ## The objects that are written as JSON -/

/-- A member that is `undefined` is not written. -/
def field (name : String) : Option (Json K) → List (String × Json K)
  | some value => [(name, value)]
  | none => []

omit [JsNumber K] in
def ReplayEvent.toJson (e : ReplayEvent K) : Json K :=
  .obj ([("kind", .str e.kind.name), ("playerId", .num e.playerId)] ++
    field "by" (e.taggedBy.map .num) ++ field "fromX" (e.fromX.map .num) ++
    field "fromY" (e.fromY.map .num) ++ field "slot" (e.slot.map .num) ++
    field "targetPlayerId" (e.targetPlayerId.map .num) ++ field "skillId" (e.skillId.map .str))

def ReplayParticipant.toJson (p : ReplayParticipant K) : Json K :=
  .obj [("playerId", .num p.playerId), ("nickname", .str p.nickname),
    ("colorIndex", .num p.colorIndex), ("guest", .bool p.guest)]

def ReplayManifest.toJson (m : ReplayManifest K) : Json K :=
  .obj ([("replayFormatVersion", .num m.replayFormatVersion), ("matchId", .str m.matchId),
    ("mapId", .str m.mapId), ("snapshotHz", .num m.snapshotHz),
    ("startTick", .num (JsNumber.ofInt m.startTick)), ("endTick", .num m.endTick),
    ("durationTicks", .num m.durationTicks), ("buildId", .str m.buildId),
    ("protocolVersion", .num m.protocolVersion), ("rulesVersion", .str m.rulesVersion),
    ("mapBundleHash", .str m.mapBundleHash),
    ("visibilityCoreVersion", .num m.visibilityCoreVersion)] ++
    field "recordedAt" (m.recordedAt.map .num) ++
    [("participants", .arr (m.participants.map ReplayParticipant.toJson)),
      ("chunkCount", .num (JsNumber.ofInt m.chunkCount)), ("rootHash", .str m.rootHash)])

variable [JsonNumber K]

/-- `encoder.encode(JSON.stringify(value))`. -/
def jsonBytes (j : Json K) : Bytes := utf8 (String.ofList j.stringify)

/-! ## Hexadecimal text -/

def toHex (bytes : Bytes) : String :=
  String.ofList (bytes.flatMap fun byte =>
    [Json.hexDigit (byte.toNat / 16), Json.hexDigit (byte.toNat % 16)])

def whiteSpace : List Nat :=
  [9, 10, 11, 12, 13, 0x20, 0xa0, 0x1680, 0x2000, 0x2001, 0x2002, 0x2003, 0x2004, 0x2005, 0x2006,
    0x2007, 0x2008, 0x2009, 0x200a, 0x2028, 0x2029, 0x202f, 0x205f, 0x3000, 0xfeff]

/-- `Number.parseInt(text, 16)` of the digits in front, none for `NaN`. -/
def hexNumber (cs : List Char) : Option Nat :=
  match (cs.map Json.hexValue).takeWhile Option.isSome with
  | [] => none
  | digits => some (digits.foldl (fun n digit => 16 * n + digit.getD 0) 0)

def parseInt16 (cs : List Char) : Option Int :=
  let unsigned : List Char → Option Nat
    | '0' :: 'x' :: rest => hexNumber rest
    | '0' :: 'X' :: rest => hexNumber rest
    | rest => hexNumber rest
  match cs.dropWhile fun c => whiteSpace.contains c.toNat with
  | '-' :: rest => (unsigned rest).map fun n => -n
  | '+' :: rest => (unsigned rest).map fun n => n
  | rest => (unsigned rest).map fun n => n

def hexBytes : List Char → Except Thrown Bytes
  | high :: low :: rest => do
    match parseInt16 [high, low] with
    | none => throw (.replayDecodeError "bad hex digit")
    | some byte => return UInt8.ofNat (byte % 256).toNat :: (← hexBytes rest)
  | _ => return []

def fromHex (hex : String) : Except Thrown Bytes :=
  if hex.length % 2 ≠ 0 then .error (.replayDecodeError s!"bad hex length: {hex.length}")
  else hexBytes hex.toList

/-! ## One chunk -/

def encodeFrame (frame : RecordedFrame) : Bytes :=
  littleEndian 4 frame.tick ++ [if frame.full then 1 else 0] ++
    littleEndian 4 frame.bytes.length ++ frame.bytes

/-- Eight bytes, cut off or filled up with zeros. -/
def encodeVisibility (vis : RecordedVisibility) : Bytes :=
  littleEndian 4 vis.tick ++ (vis.masks.take 8 ++ List.replicate (8 - vis.masks.length) 0)

def encodeEvent (rec : RecordedEvent (ReplayEvent K)) : Except Thrown Bytes :=
  let json := jsonBytes rec.event.toJson
  if json.length > maxEventJsonBytes then
    .error (.error s!"replay event too large: {json.length} bytes")
  else .ok (littleEndian 4 rec.tick ++ littleEndian 2 json.length ++ json)

def encodeRawChunk (chunk : ChunkAccumulator (ReplayEvent K)) : Except Thrown Bytes := do
  let events ← chunk.events.mapM encodeEvent
  return littleEndian 4 chunk.frames.length ++ chunk.frames.flatMap encodeFrame ++
    (littleEndian 4 chunk.visibilities.length ++ chunk.visibilities.flatMap encodeVisibility) ++
    (littleEndian 4 chunk.events.length ++ events.flatten)

def chunkTruncated : Int → Thrown := fun _ => .replayDecodeError "chunk truncated"

/-- A count, which is refused above the limit. -/
def readCount (limit : Nat) (things : String) : Reader Thrown Nat := do
  Reader.need 4 chunkTruncated
  let count ← Reader.uint 4
  if count > limit then
    Reader.fail (.replayDecodeError s!"chunk claims too many {things}: {count}")
  else return count

def readFrame : Reader Thrown RecordedFrame := do
  Reader.need 9 chunkTruncated
  let tick ← Reader.uint 4
  let flags ← Reader.uint 1
  let bodyLen ← Reader.uint 4
  Reader.need bodyLen chunkTruncated
  let bytes ← Reader.take bodyLen
  return ⟨tick, flags ≠ 0, bytes⟩

def readVisibility : Reader Thrown RecordedVisibility := do
  Reader.need 12 chunkTruncated
  let tick ← Reader.uint 4
  let masks ← Reader.take 8
  return ⟨tick, masks⟩

/-- `JSON.parse` is called without a `try` here. -/
def readEvent : Reader Thrown (RecordedEvent (Json K)) := do
  Reader.need 6 chunkTruncated
  let tick ← Reader.uint 4
  let jsonLen ← Reader.uint 2
  Reader.need jsonLen chunkTruncated
  let json ← Reader.take jsonLen
  match Json.parse (textDecode json) with
  | some event => return ⟨tick, event⟩
  | none => Reader.fail .syntaxError

def readRawChunk : Reader Thrown (ChunkAccumulator (Json K)) := do
  let frameCount ← readCount (framesPerChunk * 4) "frames"
  let frames ← readFrame.times frameCount
  let visCount ← readCount (framesPerChunk * 4) "visibility entries"
  let visibilities ← readVisibility.times visCount
  let eventCount ← readCount (framesPerChunk * 64) "events"
  let events ← readEvent.times eventCount
  return ⟨frames, visibilities, events⟩

/-- A reader over a whole buffer. -/
def readAll {α : Type} (m : Reader Thrown α) (bytes : Bytes) : Except Thrown α :=
  match m.run (.whole bytes) 0 with
  | .ok (a, _) => .ok a
  | .error .outOfRange => .error .rangeError
  | .error (.thrown e) => .error e

def decodeRawChunk (raw : Bytes) : Except Thrown (ChunkAccumulator (Json K)) :=
  readAll readRawChunk raw

/-! ## The container -/

/-- One turn of the loop over the chunks: what is written, its hash, and its index entry without
the offset. -/
structure BuiltChunk where
  compressed : Bytes
  hash : Bytes
  startTick : Nat
  endTick : Nat
  rawLen : Nat

def buildChunk (codec : ReplayCodec) (manifestBase : ReplayManifestBase K)
    (chunk : ChunkAccumulator (ReplayEvent K)) : Except Thrown BuiltChunk := do
  let raw ← encodeRawChunk chunk
  let compressed ← codec.gzip raw
  let sha256 ← codec.sha256 compressed
  let ticks := chunk.frames.map RecordedFrame.tick
  return {
    compressed := compressed
    hash := sha256
    startTick := ticks.head?.getD manifestBase.startTick
    endTick := ticks.getLast?.getD manifestBase.startTick
    rawLen := raw.length }

def fullIndex (cursor : Nat) : List BuiltChunk → List ChunkIndexEntry
  | [] => []
  | built :: rest =>
    { startTick := built.startTick
      endTick := built.endTick
      offset := cursor
      compressedLen := built.compressed.length
      rawLen := built.rawLen
      sha256 := toHex built.hash } :: fullIndex (cursor + built.compressed.length) rest

/-- `buf.set` throws where the hash does not fit. -/
def encodeEntry (entry : ChunkIndexEntry) : Except Thrown Bytes := do
  let hash ← fromHex entry.sha256
  if hash.length > sha256Bytes then .error .rangeError
  else return littleEndian 4 entry.startTick ++ littleEndian 4 entry.endTick ++
    littleEndian 4 entry.offset ++ littleEndian 4 entry.compressedLen ++
    littleEndian 4 entry.rawLen ++ (hash ++ List.replicate (sha256Bytes - hash.length) 0)

/-- `{ ...manifestBase, chunkCount, rootHash }`. -/
def ReplayManifestBase.manifest (manifestBase : ReplayManifestBase K) (chunkCount : Nat)
    (rootHash : String) : ReplayManifest K :=
  { manifestBase with chunkCount, rootHash }

def buildReplayContainer (manifestBase : ReplayManifestBase K)
    (chunks : List (ChunkAccumulator (ReplayEvent K))) (codec : ReplayCodec) :
    Except Thrown ReplayContainer :=
  if chunks.length = 0 then .error (.error "cannot build a replay container with no chunks")
  else if chunks.length > maxChunks then .error (.error s!"too many chunks: {chunks.length}")
  else do
    let built ← chunks.mapM (buildChunk codec manifestBase)
    let digest ← codec.sha256 (built.flatMap BuiltChunk.hash)
    let manifestJson := jsonBytes (manifestBase.manifest chunks.length (toHex digest)).toJson
    if manifestJson.length > maxManifestBytes then
      .error (.error s!"replay manifest too large: {manifestJson.length} bytes")
    else do
      let headerLen := 4 + 2 + 4
      let indexLen := 4 + chunks.length * chunkIndexEntryBytes
      let index := fullIndex (headerLen + manifestJson.length + indexLen) built
      let entries ← index.mapM encodeEntry
      let bytes := utf8 replayMagic ++ littleEndian 2 replayContainerVersion ++
        littleEndian 4 manifestJson.length ++ manifestJson ++ littleEndian 4 index.length ++
        entries.flatten ++ built.flatMap BuiltChunk.compressed
      return ⟨bytes, index.length, toHex digest, bytes.length⟩

def readEntry (size : Nat) : Reader Thrown ChunkIndexEntry := do
  Reader.need chunkIndexEntryBytes fun _ => .replayDecodeError "truncated chunk index entry"
  let startTick ← Reader.uint 4
  let endTick ← Reader.uint 4
  let offset ← Reader.uint 4
  let compressedLen ← Reader.uint 4
  let rawLen ← Reader.uint 4
  let sha256 ← Reader.take sha256Bytes
  if rawLen > maxRawChunkBytes then
    Reader.fail (.replayDecodeError s!"chunk claims too much raw data: {rawLen}")
  else if offset + compressedLen > size then
    Reader.fail (.replayDecodeError "chunk index points past end of file")
  else return ⟨startTick, endTick, offset, compressedLen, rawLen, toHex sha256⟩

def readContainer (size : Nat) : Reader Thrown (Json K × List ChunkIndexEntry) := do
  Reader.need 10 fun _ => .replayDecodeError s!"file too short: {size} bytes"
  let magic ← Reader.take 4
  if textDecode magic ≠ replayMagic then
    Reader.fail (.replayDecodeError s!"bad magic: {textDecode magic}")
  else
    let containerVersion ← Reader.uint 2
    if containerVersion ≠ replayContainerVersion then
      Reader.fail (.replayDecodeError s!"unsupported container version: {containerVersion}")
    else
      Reader.need 4 fun _ => .replayDecodeError "truncated header"
      let manifestLen ← Reader.uint 4
      if manifestLen > maxManifestBytes then
        Reader.fail (.replayDecodeError s!"bad manifest length: {manifestLen}")
      else
        Reader.need manifestLen fun _ => .replayDecodeError s!"bad manifest length: {manifestLen}"
        let manifest ← Reader.take manifestLen
        match Json.parse (textDecode manifest) with
        | none => Reader.fail (.replayDecodeError "manifest is not valid JSON")
        | some manifest =>
          Reader.need 4 fun _ => .replayDecodeError "truncated chunk index header"
          let chunkCount ← Reader.uint 4
          if chunkCount > maxChunks then
            Reader.fail (.replayDecodeError s!"too many chunks declared: {chunkCount}")
          else
            let chunkIndex ← (readEntry size).times chunkCount
            return (manifest, chunkIndex)

def parseReplayContainer (bytes : Bytes) : Except Thrown (Json K × List ChunkIndexEntry) :=
  readAll (readContainer bytes.length) bytes

def decodeChunk (containerBytes : Bytes) (entry : ChunkIndexEntry) (codec : ReplayCodec) :
    Except Thrown (ChunkAccumulator (Json K)) :=
  if entry.offset + entry.compressedLen > containerBytes.length then
    .error (.replayDecodeError "chunk range out of bounds")
  else do
    let compressed := (containerBytes.drop entry.offset).take entry.compressedLen
    let actualHash ← codec.sha256 compressed
    if toHex actualHash ≠ entry.sha256 then
      .error (.replayDecodeError "chunk hash mismatch, storage may be corrupted")
    else do
      let raw ← codec.gunzip compressed
      if raw.length ≠ entry.rawLen then
        .error (.replayDecodeError "chunk raw length mismatch after decompression")
      else decodeRawChunk raw

/-- `manifest.rootHash` is whatever the JSON holds under the name. -/
def verifyRootHash (manifest : Json K) (chunkIndex : List ChunkIndexEntry) (codec : ReplayCodec) :
    Except Thrown Bool := do
  let hashes ← chunkIndex.mapM fun entry => fromHex entry.sha256
  let digest := toHex (← codec.sha256 hashes.flatten)
  return match manifest.member? "rootHash" with
    | some (.str rootHash) => digest = rootHash
    | _ => false

end SwitchRemake.Replay

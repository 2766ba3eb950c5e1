import SwitchRemake.Lib.JsonRoundTrip
import SwitchRemake.Shared.ReplayFormat
import SwitchRemake.Shared.SnapshotReaders

/-!
# What a chunk brings back

A chunk that was encoded is decoded as its fields hold it. Any other bytes are refused with a decode
error, but for an event block that is no JSON. No read leaves the buffer.
-/

namespace SwitchRemake.Replay
open Lib
open Protocol (Bytes littleEndian)
open Wire (littleEndian_length fromLittleEndian_littleEndian yields_littleEndian)

theorem except_bind_ok {ε α β : Type} {x : Except ε α} {f : α → Except ε β} {b : β}
    (ok : x >>= f = .ok b) : ∃ a, x = .ok a ∧ f a = .ok b := by
  cases x with
  | error e => cases ok
  | ok a => exact ⟨a, rfl, ok⟩

theorem ok_bind {ε α β : Type} (a : α) (f : α → Except ε β) : (Except.ok a >>= f) = f a := rfl

theorem mapM_ok {ε α β : Type} {f : α → Except ε β} : ∀ {xs : List α} {ys : List β},
    xs.mapM f = .ok ys → List.Forall₂ (fun x y => f x = .ok y) xs ys
  | [], ys, ok => by
    cases ok
    exact .nil
  | x :: xs, ys, ok => by
    rw [List.mapM_cons] at ok
    obtain ⟨y, first, ok⟩ := except_bind_ok ok
    obtain ⟨rest, later, ok⟩ := except_bind_ok ok
    cases ok
    exact .cons first (mapM_ok later)

/-! ## Hexadecimal text -/

theorem parseInt16_byte :
    ∀ n < 256, parseInt16 [Json.hexDigit (n / 16), Json.hexDigit (n % 16)] =
      some (n : Int) := by
  decide +kernel

theorem hexBytes_cons (byte : UInt8) (rest : List Char) :
    hexBytes (Json.hexDigit (byte.toNat / 16) :: Json.hexDigit (byte.toNat % 16) :: rest) =
      (hexBytes rest).map (byte :: ·) := by
  have small := byte.toNat_lt
  have same : UInt8.ofNat ((byte.toNat : Int) % 256).toNat = byte := by
    rw [Int.emod_eq_of_lt (by omega) (by omega), Int.toNat_natCast, UInt8.ofNat_toNat]
  rw [hexBytes, parseInt16_byte _ small]
  dsimp only
  rw [same]
  cases hexBytes rest <;> rfl

theorem hexBytes_toHex (bytes : Bytes) : hexBytes (toHex bytes).toList = .ok bytes := by
  rw [toHex, String.toList_ofList]
  induction bytes with
  | nil => rfl
  | cons byte rest ih =>
    rw [List.flatMap_cons, List.cons_append, List.cons_append, List.nil_append, hexBytes_cons, ih]
    rfl

theorem toHex_length (bytes : Bytes) : (toHex bytes).length = bytes.length * 2 := by
  rw [toHex, String.length_ofList]
  induction bytes with
  | nil => rfl
  | cons byte rest ih =>
    have more : (byte :: rest).length = rest.length + 1 := rfl
    rw [List.flatMap_cons, List.length_append, ih, more, Nat.succ_mul, Nat.add_comm]
    rfl

theorem fromHex_toHex (bytes : Bytes) : fromHex (toHex bytes) = .ok bytes := by
  rw [fromHex, toHex_length, if_neg (by omega), hexBytes_toHex]

/-! ## Numbers -/

theorem littleEndian_mod (count n : Nat) :
    littleEndian count (n % 256 ^ count) = littleEndian count n := by
  induction count generalizing n with
  | zero => rfl
  | succ count ih =>
    have low : UInt8.ofNat (n % 256 ^ (count + 1)) = UInt8.ofNat n := by
      apply UInt8.toNat_inj.mp
      rw [UInt8.toNat_ofNat', UInt8.toNat_ofNat', Nat.pow_succ, Nat.mul_comm]
      exact Nat.mod_mul_right_mod _ _ _
    rw [littleEndian, littleEndian, low, Nat.pow_succ, Nat.mul_comm, Nat.mod_mul_right_div_self, ih]

theorem littleEndian_fromLittleEndian (bytes : Bytes) :
    littleEndian bytes.length (fromLittleEndian bytes) = bytes := by
  induction bytes with
  | nil => rfl
  | cons byte rest ih =>
    have small := byte.toNat_lt
    have high : (byte.toNat + 256 * fromLittleEndian rest) / 256 = fromLittleEndian rest := by omega
    have low : UInt8.ofNat (byte.toNat + 256 * fromLittleEndian rest) = byte := by
      apply UInt8.toNat_inj.mp
      rw [UInt8.toNat_ofNat']
      omega
    rw [fromLittleEndian, List.length_cons, littleEndian, low, high, ih]

theorem fromLittleEndian_lt (bytes : Bytes) : fromLittleEndian bytes < 256 ^ bytes.length := by
  induction bytes with
  | nil => exact Nat.one_pos
  | cons byte rest ih =>
    have small := byte.toNat_lt
    rw [fromLittleEndian, List.length_cons, Nat.pow_succ]
    omega

/-- A field of four bytes holds the number up to multiples of `2³²`. -/
theorem yields_mod {ε : Type} (count n : Nat) :
    Yields (Reader.uint count : Reader ε Nat) (littleEndian count n) (n % 256 ^ count) := by
  have reads := yields_littleEndian (ε := ε) count
    (Nat.mod_lt n (Nat.pow_pos (n := count) (by decide : 0 < 256)))
  rw [littleEndian_mod] at reads
  exact reads

theorem takes_uint {ε : Type} (count : Nat) :
    Takes (Reader.uint count : Reader ε Nat) fun front n =>
      front = littleEndian count n ∧ n < 256 ^ count := by
  refine (Takes.bind (Takes.take count) fun bytes => Takes.pure (fromLittleEndian bytes)).mono ?_
  rintro _ _ ⟨front, _, bytes, rfl, ⟨rfl, rfl⟩, rfl, rfl⟩
  exact ⟨by rw [List.append_nil, littleEndian_fromLittleEndian], fromLittleEndian_lt front⟩

/-! ## What the fields of a chunk hold -/

def RecordedFrame.stored (frame : RecordedFrame) : RecordedFrame :=
  { frame with tick := frame.tick % 2 ^ 32 }

def RecordedVisibility.stored (vis : RecordedVisibility) : RecordedVisibility :=
  ⟨vis.tick % 2 ^ 32, vis.masks.take 8 ++ List.replicate (8 - vis.masks.length) 0⟩

variable {K : Type} [JsonNumber K]

/-- The recorder's event as the object that JSON makes of it. -/
def RecordedEvent.stored (rec : RecordedEvent (ReplayEvent K)) : RecordedEvent (Json K) :=
  ⟨rec.tick % 2 ^ 32, rec.event.toJson.stored⟩

def ChunkAccumulator.stored (chunk : ChunkAccumulator (ReplayEvent K)) :
    ChunkAccumulator (Json K) :=
  ⟨chunk.frames.map RecordedFrame.stored, chunk.visibilities.map RecordedVisibility.stored,
    chunk.events.map RecordedEvent.stored⟩

/-- The chunk as the decoder should return it. -/
def ChunkAccumulator.toJson (chunk : ChunkAccumulator (ReplayEvent K)) :
    ChunkAccumulator (Json K) :=
  ⟨chunk.frames, chunk.visibilities, chunk.events.map fun rec => ⟨rec.tick, rec.event.toJson⟩⟩

/-- The limits of the chunk decoder. -/
structure ChunkAccumulator.Within (chunk : ChunkAccumulator (ReplayEvent K)) : Prop where
  frames : chunk.frames.length ≤ 240
  visibilities : chunk.visibilities.length ≤ 240
  events : chunk.events.length ≤ 3840
  raw : ∀ raw, encodeRawChunk chunk = .ok raw → raw.length ≤ maxRawChunkBytes

/-! ## JSON and counts -/

theorem jsonBytes_parse (members : List (String × Json K)) :
    Json.parse (textDecode (jsonBytes (.obj members))) = some (Json.obj members).stored := by
  have unmarked : (String.ofList (Json.obj members).stringify).toList.head? ≠
      some byteOrderMark := by
    rw [String.toList_ofList]
    have brace : ∀ cs : List Char, ('\x7b' :: cs).head? ≠ some byteOrderMark := by
      intro cs
      rw [List.head?_cons]
      decide
    rcases members with _ | ⟨⟨name, value⟩, rest⟩ <;> exact brace _
  rw [jsonBytes, textDecode_utf8_unmarked unmarked, Json.parse_stringify]

theorem yields_readCount {limit n : Nat} (things : String) (within : n ≤ limit)
    (small : n < 256 ^ 4) : Yields (readCount limit things) (littleEndian 4 n) n := by
  refine Yields.need (by rw [littleEndian_length]) ((yields_littleEndian 4 small).closing ?_)
  rw [if_neg (Nat.not_lt.mpr within)]
  exact Yields.pure n

/-! ## Blocks -/

def frameBlock (frame : Nat × UInt8 × Bytes) : Bytes :=
  littleEndian 4 frame.1 ++ ([frame.2.1] ++ (littleEndian 4 frame.2.2.length ++ frame.2.2))

def visibilityBlock (vis : Nat × Bytes) : Bytes := littleEndian 4 vis.1 ++ vis.2

def eventBlock (event : Nat × Bytes) : Bytes :=
  littleEndian 4 event.1 ++ (littleEndian 2 event.2.length ++ event.2)

theorem yields_frameBlock {frame : Nat × UInt8 × Bytes} (short : frame.2.2.length < 256 ^ 4) :
    Yields readFrame (frameBlock frame) ⟨frame.1 % 2 ^ 32, frame.2.1 ≠ 0, frame.2.2⟩ := by
  have flags := Yields.uint (ε := Thrown) [frame.2.1]
  have flagged : decide (fromLittleEndian [frame.2.1] ≠ 0) = decide (frame.2.1 ≠ 0) := by
    rw [fromLittleEndian, fromLittleEndian, Nat.mul_zero, Nat.add_zero, ← UInt8.toNat_zero]
    simp only [ne_eq, UInt8.toNat_inj]
  rw [← flagged]
  refine Yields.need ?_ ((yields_mod 4 frame.1).bind (flags.bind
    ((yields_littleEndian 4 short).bind (Yields.need (Nat.le_refl _)
      ((Yields.take frame.2.2).last _)))))
  simp only [frameBlock, List.length_append, littleEndian_length, List.length_cons, List.length_nil]
  omega

theorem yields_visibilityBlock {vis : Nat × Bytes} (eight : vis.2.length = 8) :
    Yields readVisibility (visibilityBlock vis) ⟨vis.1 % 2 ^ 32, vis.2⟩ := by
  have masks := Yields.take (ε := Thrown) vis.2
  rw [eight] at masks
  refine Yields.need ?_ ((yields_mod 4 vis.1).bind (masks.last _))
  rw [visibilityBlock, List.length_append, littleEndian_length, eight]

theorem eventBlock_length (event : Nat × Bytes) :
    (eventBlock event).length = 6 + event.2.length := by
  simp only [eventBlock, List.length_append, littleEndian_length]
  omega

theorem yields_eventBlock (tick : Nat) {text : Bytes} (short : text.length < 256 ^ 2) {value : Json K}
    (parsed : Json.parse (textDecode text) = some value) :
    Yields readEvent (eventBlock (tick, text)) ⟨tick % 2 ^ 32, value⟩ := by
  refine Yields.need ?_ ((yields_mod 4 tick).bind ((yields_littleEndian 2 short).bind
    (Yields.need (Nat.le_refl _) ((Yields.take text).closing ?_))))
  · rw [eventBlock_length]
    exact Nat.le_add_right _ _
  · rw [parsed]
    exact Yields.pure _

theorem fails_eventBlock (tick : Nat) {text : Bytes} (short : text.length < 256 ^ 2)
    (odd : Json.parse (K := K) (textDecode text) = none) (rest : Bytes) :
    Fails (readEvent (K := K)) .syntaxError (eventBlock (tick, text) ++ rest) := by
  rw [eventBlock, List.append_assoc, List.append_assoc]
  refine Fails.need ?_ ((yields_mod 4 tick).bindFails ((yields_littleEndian 2 short).bindFails
    (Fails.need ?_ ((Yields.take text).bindFails ?_))))
  · simp only [List.length_append, littleEndian_length]
    omega
  · rw [List.length_append]
    exact Nat.le_add_right _ _
  · rw [odd]
    exact Fails.fail _ rest

/-! ## Chunks are read back -/

theorem yields_readFrame {frame : RecordedFrame} (short : frame.bytes.length < 256 ^ 4) :
    Yields readFrame (encodeFrame frame) frame.stored := by
  let flags : UInt8 := if frame.full then 1 else 0
  have reads : Yields readFrame (frameBlock (frame.tick, flags, frame.bytes)) _ :=
    yields_frameBlock short
  have flagged : decide (flags ≠ 0) = frame.full := by
    unfold flags
    cases frame.full <;> rfl
  rw [flagged] at reads
  rw [encodeFrame, List.append_assoc, List.append_assoc]
  exact reads

theorem stored_masks_length (vis : RecordedVisibility) : vis.stored.masks.length = 8 := by
  simp only [RecordedVisibility.stored, List.length_append, List.length_take, List.length_replicate]
  omega

theorem yields_readVisibility (vis : RecordedVisibility) :
    Yields readVisibility (encodeVisibility vis) vis.stored := by
  have reads : Yields readVisibility (visibilityBlock (vis.tick, vis.stored.masks)) _ :=
    yields_visibilityBlock (stored_masks_length vis)
  exact reads

theorem yields_readEvent {rec : RecordedEvent (ReplayEvent K)} {bytes : Bytes}
    (encoded : encodeEvent rec = .ok bytes) : Yields readEvent bytes rec.stored := by
  unfold encodeEvent at encoded
  dsimp only at encoded
  split at encoded
  · cases encoded
  · rename_i fits
    cases encoded
    have short : (jsonBytes rec.event.toJson).length < 256 ^ 2 := by
      unfold maxEventJsonBytes at fits
      omega
    have parsed : Json.parse (textDecode (jsonBytes rec.event.toJson)) =
        some rec.event.toJson.stored := jsonBytes_parse _
    have reads := yields_eventBlock rec.tick short parsed
    simp only [eventBlock] at reads
    rw [List.append_assoc, RecordedEvent.stored]
    exact reads

theorem part_length {α : Type} {write : α → Bytes} {xs : List α} {x : α} (among : x ∈ xs) :
    (write x).length ≤ (xs.flatMap write).length := by
  rw [List.flatMap_def]
  exact (List.sublist_flatten_of_mem (List.mem_map_of_mem among)).length_le

theorem yields_readRawChunk {chunk : ChunkAccumulator (ReplayEvent K)} (within : chunk.Within)
    {raw : Bytes} (encoded : encodeRawChunk chunk = .ok raw) :
    Yields readRawChunk raw chunk.stored := by
  have small := within.raw raw encoded
  unfold encodeRawChunk at encoded
  obtain ⟨events, mapped, encoded⟩ := except_bind_ok encoded
  cases encoded
  simp only [List.length_append, maxRawChunkBytes] at small
  have frames : Yields (readFrame.times chunk.frames.length) (chunk.frames.flatMap encodeFrame)
      (chunk.frames.map RecordedFrame.stored) := by
    refine Yields.times fun frame among => yields_readFrame ?_
    have part : (encodeFrame frame).length ≤ _ := part_length among
    simp only [encodeFrame, List.length_append] at part small
    omega
  have visibilities : Yields (readVisibility.times chunk.visibilities.length)
      (chunk.visibilities.flatMap encodeVisibility)
      (chunk.visibilities.map RecordedVisibility.stored) :=
    Yields.times fun vis _ => yields_readVisibility vis
  have events : Yields (readEvent.times chunk.events.length) events.flatten
      (chunk.events.map RecordedEvent.stored) := by
    have each : List.Forall₂ (Yields readEvent) events (chunk.events.map RecordedEvent.stored) := by
      rw [List.forall₂_map_right_iff]
      exact (mapM_ok mapped).flip.imp fun _ _ => yields_readEvent
    have series := Yields.series each
    rw [List.length_map] at series
    exact series
  obtain ⟨fewFrames, fewVisibilities, fewEvents, -⟩ := within
  simp only [List.append_assoc]
  exact (yields_readCount "frames" fewFrames (by omega)).bind (frames.bind
    ((yields_readCount "visibility entries" fewVisibilities (by omega)).bind (visibilities.bind
      ((yields_readCount "events" fewEvents (by omega)).bind (events.last _)))))

theorem readAll_yields {α : Type} {m : Reader Thrown α} {front rest : Bytes} {a : α}
    (reads : Yields m front a) : readAll m (front ++ rest) = .ok a := by
  rw [readAll, reads _ 0 rest (sees_whole _)]

/-- A chunk comes back as its fields hold it. -/
theorem decodeRawChunk_encode {chunk : ChunkAccumulator (ReplayEvent K)} (within : chunk.Within)
    {raw : Bytes} (encoded : encodeRawChunk chunk = .ok raw) :
    decodeRawChunk raw = .ok chunk.stored := by
  rw [decodeRawChunk, ← List.append_nil raw]
  exact readAll_yields (yields_readRawChunk within encoded)

/-! ## Chunks that nobody built -/

/-- What a chunk with a broken event block holds up to that block. -/
structure BrokenEvent where
  frames : List (Nat × UInt8 × Bytes)
  visibilities : List (Nat × Bytes)
  events : List (Nat × Bytes)
  eventCount : Nat
  tick : Nat
  text : Bytes

def BrokenEvent.bytes (b : BrokenEvent) : Bytes :=
  littleEndian 4 b.frames.length ++ (b.frames.flatMap frameBlock ++
    (littleEndian 4 b.visibilities.length ++ (b.visibilities.flatMap visibilityBlock ++
      (littleEndian 4 b.eventCount ++ (b.events.flatMap eventBlock ++ eventBlock (b.tick, b.text))))))

/-- The blocks before are as the decoder takes them, and the text of this event is no JSON. -/
structure BrokenEvent.Valid (K : Type) [JsonNumber K] (b : BrokenEvent) : Prop where
  fewFrames : b.frames.length ≤ 240
  frames : ∀ frame ∈ b.frames, frame.2.2.length < 256 ^ 4
  fewVisibilities : b.visibilities.length ≤ 240
  visibilities : ∀ vis ∈ b.visibilities, vis.2.length = 8
  fewEvents : b.eventCount ≤ 3840
  more : b.events.length < b.eventCount
  events : ∀ event ∈ b.events, event.2.length < 256 ^ 2 ∧
    (Json.parse (K := K) (textDecode event.2)).isSome
  short : b.text.length < 256 ^ 2
  odd : Json.parse (K := K) (textDecode b.text) = none

/-- An event block that is no JSON stands where the decoder gets to it. -/
def HoldsBrokenEvent (K : Type) [JsonNumber K] (raw : Bytes) : Prop :=
  ∃ (b : BrokenEvent) (rest : Bytes), b.Valid K ∧ raw = b.bytes ++ rest

theorem fails_readRawChunk {b : BrokenEvent} (valid : b.Valid K) (rest : Bytes) :
    Fails (readRawChunk (K := K)) .syntaxError (b.bytes ++ rest) := by
  have frames := Yields.times fun frame among => yields_frameBlock (valid.frames frame among)
  have visibilities := Yields.times fun vis among =>
    yields_visibilityBlock (valid.visibilities vis among)
  let value (event : Nat × Bytes) : RecordedEvent (Json K) :=
    ⟨event.1 % 2 ^ 32, (Json.parse (textDecode event.2)).getD .null⟩
  have before : ∀ event ∈ b.events, Yields readEvent (eventBlock event) (value event) := by
    intro event among
    obtain ⟨short, parsed⟩ := valid.events event among
    obtain ⟨read, parsed⟩ := Option.isSome_iff_exists.mp parsed
    have reads := yields_eventBlock event.1 short parsed
    simp only [value, parsed, Option.getD_some]
    exact reads
  have events : Fails ((readEvent (K := K)).times b.eventCount) .syntaxError
      (b.events.flatMap eventBlock ++ (eventBlock (b.tick, b.text) ++ rest)) :=
    Fails.times (fails_eventBlock b.tick valid.short valid.odd rest) valid.more before
  have fewFrames := valid.fewFrames
  have fewVisibilities := valid.fewVisibilities
  have fewEvents := valid.fewEvents
  simp only [BrokenEvent.bytes, List.append_assoc]
  exact (yields_readCount "frames" fewFrames (by omega)).bindFails (frames.bindFails
    ((yields_readCount "visibility entries" fewVisibilities (by omega)).bindFails
      (visibilities.bindFails ((yields_readCount "events" fewEvents (by omega)).bindFails
        (Fails.bind events)))))

theorem decode_proper (message : String) : Thrown.isDecodeError (.replayDecodeError message) := rfl

theorem proper_readCount (limit : Nat) (things : String) :
    Proper (fun e => e.isDecodeError) (readCount limit things) := by
  refine Proper.bind (Proper.need fun _ => rfl) fun _ => Proper.bind (Proper.uint 4) fun count => ?_
  split
  · exact Proper.fail rfl
  · exact Proper.pure count

theorem takes_readCount (limit : Nat) (things : String) :
    Takes (readCount limit things) fun front n => front = littleEndian 4 n ∧ n ≤ limit := by
  have checks (count : Nat) : Takes (if count > limit then
      Reader.fail (Thrown.replayDecodeError s!"chunk claims too many {things}: {count}")
    else pure count) fun front n => front = [] ∧ n = count ∧ n ≤ limit := by
    split
    · exact Takes.fail _ _
    · rename_i within
      refine (Takes.pure count).mono ?_
      rintro _ _ ⟨rfl, rfl⟩
      exact ⟨rfl, rfl, Nat.not_lt.mp within⟩
  have takes : Takes (readCount limit things) _ := Takes.need (Takes.bind (takes_uint 4) checks)
  refine takes.mono ?_
  rintro _ _ ⟨_, _, count, rfl, ⟨rfl, -⟩, rfl, rfl, within⟩
  exact ⟨List.append_nil _, within⟩

theorem proper_readFrame : Proper (fun e => e.isDecodeError) readFrame :=
  Proper.bind (Proper.need fun _ => rfl) fun _ => Proper.bind (Proper.uint 4) fun _ =>
    Proper.bind (Proper.uint 1) fun _ => Proper.bind (Proper.uint 4) fun _ =>
    Proper.bind (Proper.need fun _ => rfl) fun _ => Proper.bind (Proper.take _) fun _ =>
    Proper.pure _

theorem takes_readFrame : Takes readFrame fun front _ =>
    ∃ frame, front = frameBlock frame ∧ frame.2.2.length < 256 ^ 4 := by
  have takes : Takes readFrame _ := Takes.need (Takes.bind (takes_uint 4) fun tick =>
    Takes.bind (takes_uint 1) fun flags => Takes.bind (takes_uint 4) fun bodyLen =>
      Takes.need (Takes.bind (Takes.take bodyLen) fun bytes => Takes.pure _))
  refine takes.mono ?_
  rintro _ _ ⟨_, _, tick, rfl, ⟨rfl, -⟩, _, _, flags, rfl, ⟨rfl, -⟩, _, _, bodyLen, rfl,
    ⟨rfl, short⟩, _, _, bytes, rfl, ⟨rfl, rfl⟩, rfl, -⟩
  exact ⟨(tick, UInt8.ofNat flags, _), by rw [List.append_nil]; rfl, short⟩

theorem proper_readVisibility : Proper (fun e => e.isDecodeError) readVisibility :=
  Proper.bind (Proper.need fun _ => rfl) fun _ => Proper.bind (Proper.uint 4) fun _ =>
    Proper.bind (Proper.take _) fun _ => Proper.pure _

theorem takes_readVisibility : Takes readVisibility fun front _ =>
    ∃ vis, front = visibilityBlock vis ∧ vis.2.length = 8 := by
  have takes : Takes readVisibility _ := Takes.need (Takes.bind (takes_uint 4) fun tick =>
    Takes.bind (Takes.take 8) fun masks => Takes.pure _)
  refine takes.mono ?_
  rintro _ _ ⟨_, _, tick, rfl, ⟨rfl, -⟩, _, _, masks, rfl, ⟨rfl, eight⟩, rfl, -⟩
  exact ⟨(tick, _), by rw [List.append_nil]; rfl, eight⟩

theorem takes_parsed (tick : Nat) (json : Bytes) :
    Takes (match Json.parse (K := K) (textDecode json) with
      | some event => pure (⟨tick, event⟩ : RecordedEvent (Json K))
      | none => Reader.fail Thrown.syntaxError) fun front _ =>
        front = [] ∧ (Json.parse (K := K) (textDecode json)).isSome := by
  cases Json.parse (K := K) (textDecode json) with
  | none => exact Takes.fail _ _
  | some event =>
    refine (Takes.pure _).mono ?_
    rintro _ _ ⟨rfl, -⟩
    exact ⟨rfl, rfl⟩

theorem takes_readEvent : Takes (readEvent (K := K)) fun front _ =>
    ∃ event, front = eventBlock event ∧ event.2.length < 256 ^ 2 ∧
      (Json.parse (K := K) (textDecode event.2)).isSome := by
  have takes : Takes (readEvent (K := K)) _ := Takes.need (Takes.bind (takes_uint 4) fun tick =>
    Takes.bind (takes_uint 2) fun jsonLen =>
      Takes.need (Takes.bind (Takes.take jsonLen) (takes_parsed tick)))
  refine takes.mono ?_
  rintro _ _ ⟨_, _, tick, rfl, ⟨rfl, -⟩, _, _, jsonLen, rfl, ⟨rfl, short⟩, _, _, json, rfl,
    ⟨rfl, rfl⟩, rfl, some⟩
  exact ⟨(tick, _), by rw [List.append_nil]; rfl, short, some⟩

theorem throws_parsed (tick : Nat) (json : Bytes) : Throws (fun e : Thrown => e.isDecodeError)
    (match Json.parse (K := K) (textDecode json) with
      | some event => pure (⟨tick, event⟩ : RecordedEvent (Json K))
      | none => Reader.fail Thrown.syntaxError) fun _ =>
        Json.parse (K := K) (textDecode json) = none := by
  cases parsed : Json.parse (K := K) (textDecode json) with
  | none => exact fun _ _ _ _ => .inr rfl
  | some event =>
    intro _ _ _ failed
    cases failed

theorem throws_readEvent : Throws (fun e => e.isDecodeError) (readEvent (K := K)) fun bytes =>
    ∃ tick text rest, bytes = eventBlock (tick, text) ++ rest ∧ text.length < 256 ^ 2 ∧
      Json.parse (K := K) (textDecode text) = none := by
  have throws : Throws (fun e => e.isDecodeError) (readEvent (K := K)) _ :=
    Throws.need (fun _ => rfl) ((takes_uint 4).bindThrows (Proper.uint 4) fun tick =>
      (takes_uint 2).bindThrows (Proper.uint 2) fun jsonLen => Throws.need (fun _ => rfl)
        ((Takes.take jsonLen).bindThrows (Proper.take jsonLen) (throws_parsed tick)))
  refine throws.mono ?_
  rintro _ ⟨_, _, tick, rfl, ⟨rfl, -⟩, _, _, jsonLen, rfl, ⟨rfl, short⟩, _, rest, json, rfl,
    ⟨rfl, rfl⟩, odd⟩
  exact ⟨tick, _, rest, by simp only [eventBlock, List.append_assoc], short, odd⟩

/-- The chunk decoder throws decode errors only, but at an event block that is no JSON. -/
theorem throws_readRawChunk :
    Throws (fun e => e.isDecodeError) (readRawChunk (K := K)) (HoldsBrokenEvent K) := by
  have throws : Throws (fun e => e.isDecodeError) (readRawChunk (K := K)) _ :=
    (takes_readCount _ "frames").bindThrows (proper_readCount _ _) fun frameCount =>
      (Takes.times takes_readFrame frameCount).bindThrows (Proper.times proper_readFrame _) fun _ =>
      (takes_readCount _ "visibility entries").bindThrows (proper_readCount _ _) fun visCount =>
      (Takes.times takes_readVisibility visCount).bindThrows
        (Proper.times proper_readVisibility _) fun _ =>
      (takes_readCount _ "events").bindThrows (proper_readCount _ _) fun eventCount =>
      (Throws.times throws_readEvent takes_readEvent eventCount).bind fun _ => Proper.pure _
  refine throws.mono ?_
  rintro _ ⟨_, _, frameCount, rfl, ⟨rfl, fewFrames⟩, _, _, _, rfl, ⟨frames, rfl, rfl, shortFrames⟩,
    _, _, visCount, rfl, ⟨rfl, fewVisibilities⟩, _, _, _, rfl, ⟨visibilities, rfl, rfl, masks⟩,
    _, _, eventCount, rfl, ⟨rfl, fewEvents⟩, events, _, more, rfl, parsed, tick, text, rest, rfl,
    short, odd⟩
  refine ⟨⟨frames, visibilities, events, eventCount, tick, text⟩, rest,
    ⟨fewFrames, shortFrames, fewVisibilities, masks, fewEvents, more, parsed, short, odd⟩, ?_⟩
  simp only [BrokenEvent.bytes, List.append_assoc]

/-! ## No read leaves the buffer -/

theorem stays_readCount (limit : Nat) (things : String) : Stays 0 (readCount limit things) := by
  refine Stays.need (Stays.bind (Fixed.uint 4).stays fun count => ?_)
  split
  · exact Stays.fail _
  · exact Stays.pure _

theorem stays_readFrame : Stays 0 readFrame :=
  Stays.need (Fixed.bindStays (Fixed.uint 4) fun _ => Fixed.bindStays (Fixed.uint 1) fun _ =>
    Stays.bind (Fixed.uint 4).stays fun bodyLen => Stays.need
      (Stays.bind (Fixed.take bodyLen).stays fun _ => Stays.pure _))

theorem stays_readVisibility : Stays 0 readVisibility :=
  Stays.need (Fixed.bindStays (Fixed.uint 4) fun _ => Stays.bind (Fixed.take 8).stays fun _ =>
    Stays.pure _)

theorem stays_readEvent : Stays 0 (readEvent (K := K)) := by
  refine Stays.need (Fixed.bindStays (Fixed.uint 4) fun _ => Stays.bind (Fixed.uint 2).stays
    fun jsonLen => Stays.need (Stays.bind (Fixed.take jsonLen).stays fun json => ?_))
  split
  · exact Stays.pure _
  · exact Stays.fail _

theorem stays_readRawChunk : Stays 0 (readRawChunk (K := K)) :=
  Stays.bind (stays_readCount _ _) fun _ => Stays.bind (Stays.times stays_readFrame _) fun _ =>
    Stays.bind (stays_readCount _ _) fun _ => Stays.bind (Stays.times stays_readVisibility _) fun _ =>
    Stays.bind (stays_readCount _ _) fun _ => Stays.bind (Stays.times stays_readEvent _) fun _ =>
    Stays.pure _

theorem stays_readEntry (size : Nat) : Stays 0 (readEntry size) := by
  refine Stays.need (Stays.mono (by decide : 4 + (4 + (4 + (4 + (4 + 32)))) ≤ chunkIndexEntryBytes)
    (Fixed.bindStays (Fixed.uint 4) fun _ => Fixed.bindStays (Fixed.uint 4) fun _ =>
    Fixed.bindStays (Fixed.uint 4) fun _ => Fixed.bindStays (Fixed.uint 4) fun _ =>
    Fixed.bindStays (Fixed.uint 4) fun _ => Stays.bind (Fixed.take 32).stays fun _ => ?_))
  split
  · exact Stays.fail _
  · split
    · exact Stays.fail _
    · exact Stays.pure _

theorem stays_readContainer (size : Nat) : Stays 0 (readContainer (K := K) size) := by
  refine Stays.need (Stays.mono (by decide : 4 + 2 ≤ 10) (Fixed.bindStays (Fixed.take 4) fun _ => ?_))
  split
  · exact Stays.fail _
  · refine Stays.bind (Fixed.uint 2).stays fun _ => ?_
    split
    · exact Stays.fail _
    · refine Stays.need (Stays.bind (Fixed.uint 4).stays fun manifestLen => ?_)
      split
      · exact Stays.fail _
      · refine Stays.need (Stays.bind (Fixed.take manifestLen).stays fun _ => ?_)
        split
        · exact Stays.fail _
        · refine Stays.need (Stays.bind (Fixed.uint 4).stays fun _ => ?_)
          split
          · exact Stays.fail _
          · exact Stays.bind (Stays.times (stays_readEntry size) _) fun _ => Stays.pure _

end SwitchRemake.Replay

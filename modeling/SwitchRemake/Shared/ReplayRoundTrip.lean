import SwitchRemake.Shared.ReplayChunks

/-!
# What a replay file brings back
-/

namespace SwitchRemake.Replay
open Lib
open Protocol (Bytes littleEndian)
open Wire (littleEndian_length fromLittleEndian_littleEndian yields_littleEndian)

/-- What the format asks of the codec. Raw data above the limit is never asked back. -/
structure ReplayCodec.Lawful (codec : ReplayCodec) : Prop where
  restores : ∀ raw compressed, raw.length ≤ maxRawChunkBytes → codec.gzip raw = .ok compressed →
    codec.gunzip compressed = .ok raw
  digest : ∀ bytes hash, codec.sha256 bytes = .ok hash → hash.length = sha256Bytes
  hashing : ∀ bytes e, codec.sha256 bytes = .error e → e.isDecodeError
  inflating : ∀ bytes e, codec.gunzip bytes = .error e → e.isDecodeError

/-! ## The index -/

def ChunkIndexEntry.stored (entry : ChunkIndexEntry) : ChunkIndexEntry :=
  { entry with startTick := entry.startTick % 2 ^ 32, endTick := entry.endTick % 2 ^ 32 }

def entryBlock (entry : ChunkIndexEntry) (hash : Bytes) : Bytes :=
  littleEndian 4 entry.startTick ++ (littleEndian 4 entry.endTick ++
    (littleEndian 4 entry.offset ++ (littleEndian 4 entry.compressedLen ++
      (littleEndian 4 entry.rawLen ++ hash))))

theorem entryBlock_length (entry : ChunkIndexEntry) {hash : Bytes}
    (digest : hash.length = sha256Bytes) :
    (entryBlock entry hash).length = chunkIndexEntryBytes := by
  simp only [entryBlock, List.length_append, littleEndian_length, digest, chunkIndexEntryBytes]
  omega

theorem encodeEntry_ok {entry : ChunkIndexEntry} {hash : Bytes}
    (hashed : entry.sha256 = toHex hash) (digest : hash.length = sha256Bytes) :
    encodeEntry entry = .ok (entryBlock entry hash) := by
  have fits : ¬ hash.length > sha256Bytes := by omega
  have padded : hash ++ List.replicate (sha256Bytes - hash.length) 0 = hash := by
    rw [digest, Nat.sub_self, List.replicate_zero, List.append_nil]
  rw [encodeEntry, hashed, fromHex_toHex, ok_bind, if_neg fits, padded]
  simp only [entryBlock, List.append_assoc]
  rfl

theorem yields_entryBlock {entry : ChunkIndexEntry} {hash : Bytes} {size : Nat}
    (hashed : entry.sha256 = toHex hash) (digest : hash.length = sha256Bytes)
    (inside : entry.offset + entry.compressedLen ≤ size) (small : size < 2 ^ 32)
    (raw : entry.rawLen ≤ maxRawChunkBytes) :
    Yields (readEntry size) (entryBlock entry hash) entry.stored := by
  have taken := Yields.take (ε := Thrown) hash
  rw [digest] at taken
  have short : entry.rawLen < 256 ^ 4 := by
    unfold maxRawChunkBytes at raw
    omega
  refine Yields.need ?_ ((yields_mod 4 entry.startTick).bind ((yields_mod 4 entry.endTick).bind
    ((yields_littleEndian 4 (by omega)).bind ((yields_littleEndian 4 (by omega)).bind
      ((yields_littleEndian 4 short).bind (taken.closing ?_))))))
  · exact (entryBlock_length entry digest).ge
  · rw [if_neg (Nat.not_lt.mpr raw), if_neg (Nat.not_lt.mpr inside), ← hashed]
    exact Yields.pure _

/-- Every entry points at its own chunk, one behind the other. -/
theorem fullIndex_spec {built : List BuiltChunk} {cursor : Nat} {entry : ChunkIndexEntry}
    (among : entry ∈ fullIndex cursor built) : ∃ b ∈ built, entry.sha256 = toHex b.hash ∧
      entry.rawLen = b.rawLen ∧ entry.offset + entry.compressedLen ≤
        cursor + (built.flatMap BuiltChunk.compressed).length := by
  induction built generalizing cursor with
  | nil => cases among
  | cons b rest ih =>
    rw [List.flatMap_cons, List.length_append]
    cases List.mem_cons.mp among with
    | inl same =>
      subst same
      exact ⟨b, List.mem_cons_self, rfl, rfl, by dsimp only; omega⟩
    | inr later =>
      obtain ⟨c, found, hashed, raw, inside⟩ := ih later
      exact ⟨c, List.mem_cons_of_mem b found, hashed, raw, by omega⟩

theorem fullIndex_length (built : List BuiltChunk) (cursor : Nat) :
    (fullIndex cursor built).length = built.length := by
  induction built generalizing cursor with
  | nil => rfl
  | cons b rest ih => rw [fullIndex, List.length_cons, ih, List.length_cons]

/-- The index of a file that was built is read back. -/
theorem yields_fullIndex {built : List BuiltChunk} {cursor size : Nat} {entries : List Bytes}
    (digest : ∀ b ∈ built, b.hash.length = sha256Bytes)
    (raw : ∀ b ∈ built, b.rawLen ≤ maxRawChunkBytes)
    (inside : cursor + (built.flatMap BuiltChunk.compressed).length ≤ size)
    (small : size < 2 ^ 32) (encoded : (fullIndex cursor built).mapM encodeEntry = .ok entries) :
    Yields ((readEntry size).times built.length) entries.flatten
      ((fullIndex cursor built).map ChunkIndexEntry.stored) := by
  have each : List.Forall₂ (Yields (readEntry size)) entries
      ((fullIndex cursor built).map ChunkIndexEntry.stored) := by
    rw [List.forall₂_map_right_iff]
    have pairs := (List.forall₂_and_left _ _).mpr
      ⟨fun _ among => fullIndex_spec among, mapM_ok encoded⟩
    refine pairs.flip.imp ?_
    rintro bytes entry ⟨⟨b, found, hashed, rawLen, ends⟩, encoded⟩
    rw [encodeEntry_ok hashed (digest b found)] at encoded
    cases encoded
    exact yields_entryBlock hashed (digest b found) (by omega) small (rawLen ▸ raw b found)
  have series := Yields.series each
  rw [List.length_map, fullIndex_length] at series
  exact series

/-! ## Chunks in their place -/

variable {K : Type} [JsonNumber K]

theorem buildChunk_ok {codec : ReplayCodec} {manifestBase : ReplayManifestBase K}
    {chunk : ChunkAccumulator (ReplayEvent K)} {built : BuiltChunk}
    (ok : buildChunk codec manifestBase chunk = .ok built) :
    ∃ raw, encodeRawChunk chunk = .ok raw ∧ codec.gzip raw = .ok built.compressed ∧
      codec.sha256 built.compressed = .ok built.hash ∧ built.rawLen = raw.length := by
  unfold buildChunk at ok
  obtain ⟨raw, encoded, ok⟩ := except_bind_ok ok
  obtain ⟨compressed, zipped, ok⟩ := except_bind_ok ok
  obtain ⟨hash, hashed, ok⟩ := except_bind_ok ok
  cases ok
  exact ⟨raw, encoded, zipped, hashed, rfl⟩

/-- What the chunk decoder finds when everything it checks is right. -/
theorem decodeChunk_of {codec : ReplayCodec} {bytes compressed hash raw : Bytes}
    {entry : ChunkIndexEntry} (inside : entry.offset + entry.compressedLen ≤ bytes.length)
    (part : (bytes.drop entry.offset).take entry.compressedLen = compressed)
    (hashed : codec.sha256 compressed = .ok hash) (same : toHex hash = entry.sha256)
    (unzipped : codec.gunzip compressed = .ok raw) (length : raw.length = entry.rawLen) :
    decodeChunk (K := K) bytes entry codec = decodeRawChunk raw := by
  rw [decodeChunk, if_neg (Nat.not_lt.mpr inside)]
  dsimp only
  rw [part, hashed, ok_bind, if_neg (not_not.mpr same), unzipped, ok_bind,
    if_neg (not_not.mpr length)]

/-- The chunks of a file that was built are decoded from where the index points. -/
theorem decode_fullIndex {codec : ReplayCodec} (lawful : codec.Lawful)
    {manifestBase : ReplayManifestBase K} {chunks : List (ChunkAccumulator (ReplayEvent K))}
    {built : List BuiltChunk}
    (pairs : List.Forall₂ (fun chunk b => buildChunk codec manifestBase chunk = .ok b) chunks built)
    (within : ∀ chunk ∈ chunks, chunk.Within) (front : Bytes) :
    ((fullIndex front.length built).map ChunkIndexEntry.stored).mapM
        (fun entry => decodeChunk (front ++ built.flatMap BuiltChunk.compressed) entry codec) =
      .ok (chunks.map ChunkAccumulator.stored) := by
  induction pairs generalizing front with
  | nil => rfl
  | @cons chunk b chunks built ok pairs ih =>
    obtain ⟨raw, encoded, zipped, hashed, length⟩ := buildChunk_ok ok
    have limits := within chunk List.mem_cons_self
    have unzipped := lawful.restores raw b.compressed (limits.raw raw encoded) zipped
    have later := ih (fun other among => within other (List.mem_cons_of_mem chunk among))
      (front ++ b.compressed)
    rw [List.length_append, List.append_assoc] at later
    rw [fullIndex, List.map_cons, List.mapM_cons, List.flatMap_cons, later,
      decodeChunk_of ?_ ?_ hashed rfl unzipped length.symm,
      decodeRawChunk_encode limits encoded]
    · rfl
    · simp only [ChunkIndexEntry.stored, List.length_append]
      omega
    · simp only [ChunkIndexEntry.stored, List.drop_left, List.take_left]

/-! ## The container -/

variable [JsNumber K]

/-- What a file that was built is made of. -/
theorem build_ok {codec : ReplayCodec} {manifestBase : ReplayManifestBase K}
    {chunks : List (ChunkAccumulator (ReplayEvent K))} {container : ReplayContainer}
    (ok : buildReplayContainer manifestBase chunks codec = .ok container) :
    ∃ built digest entries,
      chunks.mapM (buildChunk codec manifestBase) = .ok built ∧
      codec.sha256 (built.flatMap BuiltChunk.hash) = .ok digest ∧
      chunks.length ≤ maxChunks ∧
      (jsonBytes (manifestBase.manifest chunks.length (toHex digest)).toJson).length ≤
        maxManifestBytes ∧
      (fullIndex (10 + (jsonBytes (manifestBase.manifest chunks.length
        (toHex digest)).toJson).length + (4 + chunks.length * chunkIndexEntryBytes))
        built).mapM encodeEntry = .ok entries ∧
      container.rootHash = toHex digest ∧
      container.bytes = utf8 replayMagic ++ (littleEndian 2 replayContainerVersion ++
        (littleEndian 4 (jsonBytes (manifestBase.manifest chunks.length
          (toHex digest)).toJson).length ++
        (jsonBytes (manifestBase.manifest chunks.length (toHex digest)).toJson ++
        (littleEndian 4 built.length ++ (entries.flatten ++
          built.flatMap BuiltChunk.compressed))))) := by
  unfold buildReplayContainer at ok
  split at ok
  · cases ok
  · split at ok
    · cases ok
    · rename_i few
      obtain ⟨built, mapped, ok⟩ := except_bind_ok ok
      obtain ⟨digest, hashed, ok⟩ := except_bind_ok ok
      dsimp only at ok
      split at ok
      · cases ok
      · rename_i small
        obtain ⟨entries, encoded, ok⟩ := except_bind_ok ok
        cases ok
        refine ⟨built, digest, entries, mapped, hashed, Nat.not_lt.mp few, Nat.not_lt.mp small,
          encoded, rfl, ?_⟩
        simp only [fullIndex_length, List.append_assoc]

theorem magic_length : (utf8 replayMagic).length = 4 := by decide

theorem magic_decoded : textDecode (utf8 replayMagic) = replayMagic :=
  textDecode_utf8_unmarked (by decide)

omit [JsNumber K] in
/-- The parser gives back the manifest that was written and the index. -/
theorem yields_readContainer {manifest : Json K} {json : Bytes} {built : List BuiltChunk}
    {cursor size : Nat} {entries : List Bytes} (short : json.length ≤ maxManifestBytes)
    (parsed : Json.parse (textDecode json) = some manifest) (few : built.length ≤ maxChunks)
    (index : Yields ((readEntry size).times built.length) entries.flatten
      ((fullIndex cursor built).map ChunkIndexEntry.stored)) :
    Yields (readContainer size) (utf8 replayMagic ++ (littleEndian 2 replayContainerVersion ++
        (littleEndian 4 json.length ++ (json ++ (littleEndian 4 built.length ++ entries.flatten)))))
      (manifest, (fullIndex cursor built).map ChunkIndexEntry.stored) := by
  have magic := Yields.take (ε := Thrown) (utf8 replayMagic)
  rw [magic_length] at magic
  have small : json.length < 256 ^ 4 := by
    unfold maxManifestBytes at short
    omega
  have count : built.length < 256 ^ 4 := by
    unfold maxChunks at few
    omega
  refine Yields.need ?_ (magic.bind ?_)
  · simp only [List.length_append, magic_length, littleEndian_length]
    omega
  rw [magic_decoded, if_neg (not_not.mpr rfl)]
  refine (yields_littleEndian 2 (by decide)).bind ?_
  rw [if_neg (not_not.mpr rfl)]
  refine Yields.need ?_ ((yields_littleEndian 4 small).bind ?_)
  · simp only [List.length_append, littleEndian_length]
    omega
  rw [if_neg (Nat.not_lt.mpr short)]
  refine Yields.need ?_ ((Yields.take json).bind ?_)
  · rw [List.length_append]
    exact Nat.le_add_right _ _
  rw [parsed]
  refine Yields.need ?_ ((yields_littleEndian 4 count).bind ?_)
  · simp only [List.length_append, littleEndian_length]
    omega
  rw [if_neg (Nat.not_lt.mpr few)]
  exact index.last _

theorem encoded_entries_length {built : List BuiltChunk} {cursor : Nat} {entries : List Bytes}
    (digest : ∀ b ∈ built, b.hash.length = sha256Bytes)
    (encoded : (fullIndex cursor built).mapM encodeEntry = .ok entries) :
    entries.flatten.length = built.length * chunkIndexEntryBytes := by
  induction built generalizing cursor entries with
  | nil =>
    cases encoded
    simp
  | cons b rest ih =>
    rw [fullIndex, List.mapM_cons] at encoded
    obtain ⟨bytes, first, encoded⟩ := except_bind_ok encoded
    obtain ⟨more, later, encoded⟩ := except_bind_ok encoded
    cases encoded
    rw [encodeEntry_ok rfl (digest b List.mem_cons_self)] at first
    cases first
    have tail := ih (fun c among => digest c (List.mem_cons_of_mem b among)) later
    rw [List.flatten_cons, List.length_append, tail, List.length_cons, Nat.succ_mul, Nat.add_comm,
      entryBlock_length _ (digest b List.mem_cons_self)]

theorem entries_encoded {built : List BuiltChunk}
    (digest : ∀ b ∈ built, b.hash.length = sha256Bytes) (cursor : Nat) :
    ∃ entries, (fullIndex cursor built).mapM encodeEntry = .ok entries := by
  induction built generalizing cursor with
  | nil => exact ⟨[], rfl⟩
  | cons b rest ih =>
    obtain ⟨entries, encoded⟩ := ih (fun c among => digest c (List.mem_cons_of_mem b among))
      (cursor + b.compressed.length)
    rw [fullIndex, List.mapM_cons, encodeEntry_ok rfl (digest b List.mem_cons_self), encoded]
    exact ⟨_, rfl⟩

/-- The builder returns a file where every chunk is built and the counts are within the limits. -/
theorem build_returns {codec : ReplayCodec} (lawful : codec.Lawful)
    {manifestBase : ReplayManifestBase K} {chunks : List (ChunkAccumulator (ReplayEvent K))}
    {built : List BuiltChunk} {digest : Bytes}
    (mapped : chunks.mapM (buildChunk codec manifestBase) = .ok built)
    (hashed : codec.sha256 (built.flatMap BuiltChunk.hash) = .ok digest)
    (some : chunks.length ≠ 0) (few : chunks.length ≤ maxChunks)
    (short : (jsonBytes (manifestBase.manifest chunks.length (toHex digest)).toJson).length ≤
      maxManifestBytes) :
    ∃ container, buildReplayContainer manifestBase chunks codec = .ok container ∧
      container.bytes.length ≤ 14 + maxManifestBytes + chunks.length * chunkIndexEntryBytes +
        (built.flatMap BuiltChunk.compressed).length := by
  have pairs := mapM_ok mapped
  have count := pairs.length_eq
  have digests : ∀ b ∈ built, b.hash.length = sha256Bytes := by
    intro b among
    obtain ⟨i, bound, rfl⟩ := List.getElem_of_mem among
    obtain ⟨-, -, -, hashed, -⟩ := buildChunk_ok (pairs.get (by omega) bound)
    exact lawful.digest _ _ hashed
  obtain ⟨entries, encoded⟩ := entries_encoded digests (4 + 2 + 4 +
    (jsonBytes (manifestBase.manifest chunks.length (toHex digest)).toJson).length +
      (4 + chunks.length * chunkIndexEntryBytes))
  have entriesLength := encoded_entries_length digests encoded
  rw [buildReplayContainer, if_neg some, if_neg (Nat.not_lt.mpr few), mapped, ok_bind, hashed,
    ok_bind]
  dsimp only
  rw [if_neg (Nat.not_lt.mpr short), encoded]
  refine ⟨_, rfl, ?_⟩
  simp only [List.length_append, magic_length, littleEndian_length, entriesLength, ← count]
  omega

/-- A file that was built is parsed to its manifest and an index from which every chunk is decoded,
each as its fields hold it. -/
theorem parse_build {codec : ReplayCodec} (lawful : codec.Lawful)
    {manifestBase : ReplayManifestBase K} {chunks : List (ChunkAccumulator (ReplayEvent K))}
    {container : ReplayContainer}
    (ok : buildReplayContainer manifestBase chunks codec = .ok container)
    (within : ∀ chunk ∈ chunks, chunk.Within) (small : container.bytes.length < 2 ^ 32) :
    ∃ index, parseReplayContainer container.bytes =
        .ok ((manifestBase.manifest chunks.length container.rootHash).toJson.stored, index) ∧
      index.mapM (fun entry => decodeChunk container.bytes entry codec) =
        .ok (chunks.map ChunkAccumulator.stored) := by
  obtain ⟨built, digest, entries, mapped, hashed, few, short, encoded, root, bytes⟩ := build_ok ok
  have pairs := mapM_ok mapped
  have count := pairs.length_eq
  have each : ∀ b ∈ built, b.hash.length = sha256Bytes ∧ b.rawLen ≤ maxRawChunkBytes := by
    intro b among
    obtain ⟨i, bound, rfl⟩ := List.getElem_of_mem among
    have built := pairs.get (by omega) bound
    obtain ⟨raw, encoded, -, hashed, length⟩ := buildChunk_ok built
    exact ⟨lawful.digest _ _ hashed,
      length ▸ (within _ (List.get_mem _ _)).raw raw encoded⟩
  generalize json : jsonBytes (manifestBase.manifest chunks.length (toHex digest)).toJson =
    manifestJson at short encoded bytes
  have parsed : Json.parse (textDecode manifestJson) =
      some (manifestBase.manifest chunks.length (toHex digest)).toJson.stored := by
    rw [← json]
    exact jsonBytes_parse _
  have entriesLength := encoded_entries_length (fun b among => (each b among).1) encoded
  have header : (utf8 replayMagic ++ (littleEndian 2 replayContainerVersion ++
      (littleEndian 4 manifestJson.length ++ (manifestJson ++ (littleEndian 4 built.length ++
        entries.flatten))))).length =
      10 + manifestJson.length + (4 + chunks.length * chunkIndexEntryBytes) := by
    simp only [List.length_append, magic_length, littleEndian_length, entriesLength, count]
    omega
  have split : container.bytes = (utf8 replayMagic ++ (littleEndian 2 replayContainerVersion ++
      (littleEndian 4 manifestJson.length ++ (manifestJson ++ (littleEndian 4 built.length ++
        entries.flatten))))) ++ built.flatMap BuiltChunk.compressed := by
    rw [bytes]
    simp only [List.append_assoc]
  have size := congrArg List.length split
  rw [List.length_append, header] at size
  have index := yields_fullIndex (fun b among => (each b among).1) (fun b among => (each b among).2)
    size.ge small encoded
  refine ⟨(fullIndex (10 + manifestJson.length + (4 + chunks.length * chunkIndexEntryBytes))
    built).map ChunkIndexEntry.stored, ?_, ?_⟩
  · have reads := yields_readContainer short parsed (count ▸ few) index
    rw [root, parseReplayContainer]
    rw [split] at reads ⊢
    exact readAll_yields reads
  · have decoded := decode_fullIndex lawful pairs within (utf8 replayMagic ++
      (littleEndian 2 replayContainerVersion ++ (littleEndian 4 manifestJson.length ++
        (manifestJson ++ (littleEndian 4 built.length ++ entries.flatten)))))
    rw [← split, header] at decoded
    exact decoded

/-! ## Files that nobody built -/

/-- A value, or the format's own error. -/
def ReturnsOrRejects {α : Type} (result : Except Thrown α) : Prop :=
  ∀ e, result = .error e → e.isDecodeError

theorem readAll_error {α : Type} {m : Reader Thrown α} (stays : Stays 0 m) {bytes : Bytes}
    {e : Thrown} (failed : readAll m bytes = .error e) :
    m.run (.whole bytes) 0 = .error (.thrown e) := by
  have inside := stays.inRange (sees_whole bytes)
  unfold readAll at failed
  split at failed
  · cases failed
  · contradiction
  · rename_i e run
    cases failed
    exact run

theorem proper_readEntry (size : Nat) : Proper (fun e => e.isDecodeError) (readEntry size) := by
  refine Proper.bind (Proper.need fun _ => rfl) fun _ => Proper.bind (Proper.uint 4) fun _ =>
    Proper.bind (Proper.uint 4) fun _ => Proper.bind (Proper.uint 4) fun _ =>
    Proper.bind (Proper.uint 4) fun _ => Proper.bind (Proper.uint 4) fun _ =>
    Proper.bind (Proper.take _) fun _ => ?_
  split
  · exact Proper.fail rfl
  · split
    · exact Proper.fail rfl
    · exact Proper.pure _

omit [JsNumber K] in
theorem proper_readContainer (size : Nat) :
    Proper (fun e => e.isDecodeError) (readContainer (K := K) size) := by
  refine Proper.bind (Proper.need fun _ => rfl) fun _ => Proper.bind (Proper.take 4) fun _ => ?_
  split
  · exact Proper.fail rfl
  · refine Proper.bind (Proper.uint 2) fun _ => ?_
    split
    · exact Proper.fail rfl
    · refine Proper.bind (Proper.need fun _ => rfl) fun _ => Proper.bind (Proper.uint 4) fun _ => ?_
      split
      · exact Proper.fail rfl
      · refine Proper.bind (Proper.need fun _ => rfl) fun _ => Proper.bind (Proper.take _) fun _ => ?_
        split
        · exact Proper.fail rfl
        · refine Proper.bind (Proper.need fun _ => rfl) fun _ =>
            Proper.bind (Proper.uint 4) fun _ => ?_
          split
          · exact Proper.fail rfl
          · exact Proper.bind (Proper.times (proper_readEntry size) _) fun _ => Proper.pure _

omit [JsNumber K] in
theorem parse_rejects (bytes : Bytes) : ReturnsOrRejects (parseReplayContainer (K := K) bytes) :=
  fun e failed => proper_readContainer _ _ 0 e (readAll_error (stays_readContainer _) failed)

omit [JsNumber K] in
theorem decodeRawChunk_rejects (raw : Bytes) :
    ReturnsOrRejects (decodeRawChunk (K := K) raw) ↔ ¬ HoldsBrokenEvent K raw := by
  constructor
  · rintro rejects ⟨b, rest, valid, rfl⟩
    have failed : decodeRawChunk (K := K) (b.bytes ++ rest) = .error .syntaxError := by
      rw [decodeRawChunk, readAll, fails_readRawChunk valid rest _ 0 (sees_whole _)]
    exact absurd (rejects _ failed) (by decide)
  · intro sound e failed
    have thrown := readAll_error stays_readRawChunk failed
    rcases throws_readRawChunk raw 0 e thrown with decode | broken
    · exact decode
    · exact absurd broken sound

/-- Everything the chunk decoder checks is right, and the chunk holds a broken event block. -/
def ReachesBrokenEvent (K : Type) [JsonNumber K] (codec : ReplayCodec) (bytes : Bytes)
    (entry : ChunkIndexEntry) : Prop :=
  entry.offset + entry.compressedLen ≤ bytes.length ∧
    ∃ hash raw, codec.sha256 ((bytes.drop entry.offset).take entry.compressedLen) = .ok hash ∧
      toHex hash = entry.sha256 ∧
      codec.gunzip ((bytes.drop entry.offset).take entry.compressedLen) = .ok raw ∧
      raw.length = entry.rawLen ∧ HoldsBrokenEvent K raw

omit [JsNumber K] in
theorem decodeChunk_rejects {codec : ReplayCodec} (lawful : codec.Lawful) (bytes : Bytes)
    (entry : ChunkIndexEntry) : ReturnsOrRejects (decodeChunk (K := K) bytes entry codec) ↔
      ¬ ReachesBrokenEvent K codec bytes entry := by
  constructor
  · rintro rejects ⟨inside, hash, raw, hashed, same, unzipped, length, broken⟩
    rw [decodeChunk_of inside rfl hashed same unzipped length] at rejects
    exact (decodeRawChunk_rejects raw).mp rejects broken
  · intro sound e failed
    unfold decodeChunk at failed
    split at failed
    · cases failed
      rfl
    · rename_i inside
      dsimp only at failed
      cases hashed : codec.sha256 ((bytes.drop entry.offset).take entry.compressedLen) with
      | error hashing =>
        rw [hashed] at failed
        cases failed
        exact lawful.hashing _ _ hashed
      | ok hash =>
        rw [hashed, ok_bind] at failed
        split at failed
        · cases failed
          rfl
        · rename_i same
          cases unzipped : codec.gunzip ((bytes.drop entry.offset).take entry.compressedLen) with
          | error inflating =>
            rw [unzipped] at failed
            cases failed
            exact lawful.inflating _ _ unzipped
          | ok raw =>
            rw [unzipped, ok_bind] at failed
            split at failed
            · cases failed
              rfl
            · rename_i length
              refine (decodeRawChunk_rejects raw).mpr (fun broken => sound ?_) e failed
              exact ⟨Nat.not_lt.mp inside, hash, raw, hashed, not_not.mp same, unzipped,
                not_not.mp length, broken⟩

/-! ## What survives -/

/-- The recorder's values are ones that the fields of a chunk can hold. -/
structure ChunkAccumulator.Kept (chunk : ChunkAccumulator (ReplayEvent K)) : Prop where
  frames : ∀ frame ∈ chunk.frames, frame.tick < 2 ^ 32
  visibilities : ∀ vis ∈ chunk.visibilities, vis.tick < 2 ^ 32 ∧ vis.masks.length = 8
  events : ∀ rec ∈ chunk.events,
    rec.tick < 2 ^ 32 ∧ ∀ n ∈ rec.event.toJson.numbers, Json.Exact n

theorem map_eq_self {α : Type} {f : α → α} {xs : List α} :
    xs.map f = xs ↔ ∀ x ∈ xs, f x = x := by
  have named : xs.map f = xs ↔ xs.map f = xs.map id := by rw [List.map_id]
  rw [named, List.map_inj_left]
  rfl

theorem RecordedFrame.stored_eq_iff (frame : RecordedFrame) :
    frame.stored = frame ↔ frame.tick < 2 ^ 32 := by
  cases frame
  simp only [RecordedFrame.stored, RecordedFrame.mk.injEq, and_true]
  exact Nat.mod_eq_iff_lt (by decide)

theorem RecordedVisibility.stored_eq_iff (vis : RecordedVisibility) :
    vis.stored = vis ↔ vis.tick < 2 ^ 32 ∧ vis.masks.length = 8 := by
  constructor
  · intro same
    have eight := stored_masks_length vis
    rw [same] at eight
    exact ⟨(Nat.mod_eq_iff_lt (by decide)).mp (congrArg RecordedVisibility.tick same), eight⟩
  · rintro ⟨small, eight⟩
    obtain ⟨tick, masks⟩ := vis
    simp only [RecordedVisibility.stored, Nat.mod_eq_of_lt small, RecordedVisibility.mk.injEq,
      true_and]
    rw [eight, Nat.sub_self, List.replicate_zero, List.append_nil, List.take_of_length_le eight.le]

omit [JsNumber K] in
theorem RecordedEvent.stored_eq_iff (rec : RecordedEvent (ReplayEvent K)) :
    rec.stored = ⟨rec.tick, rec.event.toJson⟩ ↔
      rec.tick < 2 ^ 32 ∧ ∀ n ∈ rec.event.toJson.numbers, Json.Exact n := by
  rw [RecordedEvent.stored, RecordedEvent.mk.injEq, Json.stored_eq_iff]
  exact and_congr_left fun _ => Nat.mod_eq_iff_lt (by decide)

omit [JsNumber K] in
/-- Exactly the chunks whose values fit come back as they were recorded. -/
theorem ChunkAccumulator.stored_eq_iff (chunk : ChunkAccumulator (ReplayEvent K)) :
    chunk.stored = chunk.toJson ↔ chunk.Kept := by
  have events : chunk.events.map RecordedEvent.stored =
      chunk.events.map (fun rec => (⟨rec.tick, rec.event.toJson⟩ : RecordedEvent (Json K))) ↔
        ∀ rec ∈ chunk.events,
          rec.tick < 2 ^ 32 ∧ ∀ n ∈ rec.event.toJson.numbers, Json.Exact n := by
    rw [List.map_inj_left]
    exact forall₂_congr fun rec _ => rec.stored_eq_iff
  rw [ChunkAccumulator.stored, ChunkAccumulator.toJson, ChunkAccumulator.mk.injEq, events,
    map_eq_self, map_eq_self]
  constructor
  · rintro ⟨frames, visibilities, events⟩
    exact ⟨fun frame among => frame.stored_eq_iff.mp (frames frame among),
      fun vis among => vis.stored_eq_iff.mp (visibilities vis among), events⟩
  · rintro ⟨frames, visibilities, events⟩
    exact ⟨fun frame among => frame.stored_eq_iff.mpr (frames frame among),
      fun vis among => vis.stored_eq_iff.mpr (visibilities vis among), events⟩

/-- Parsing the file and decoding every chunk gives the manifest and the chunks. -/
def Restores (codec : ReplayCodec) (bytes : Bytes) (manifest : ReplayManifest K)
    (chunks : List (ChunkAccumulator (ReplayEvent K))) : Prop :=
  ∃ index, parseReplayContainer bytes = .ok (manifest.toJson, index) ∧
    index.mapM (fun entry => decodeChunk bytes entry codec) =
      .ok (chunks.map ChunkAccumulator.toJson)

/-- A file that was built within the limits, and below 4 GiB, gives back exactly the manifests and
chunks whose values fit their fields. Whatever the bytes, the parser and the chunk decoder return or
throw a decode error, but for a chunk with an event block that is no JSON. -/
theorem replay_container {codec : ReplayCodec} (lawful : codec.Lawful) :
    (∀ (manifestBase : ReplayManifestBase K) (chunks : List (ChunkAccumulator (ReplayEvent K)))
        (container : ReplayContainer),
      buildReplayContainer manifestBase chunks codec = .ok container →
      (∀ chunk ∈ chunks, chunk.Within) → container.bytes.length < 2 ^ 32 →
      (Restores codec container.bytes
          (manifestBase.manifest chunks.length container.rootHash) chunks ↔
        (∀ n ∈ (manifestBase.manifest chunks.length container.rootHash).toJson.numbers,
          Json.Exact n) ∧ ∀ chunk ∈ chunks, chunk.Kept)) ∧
    (∀ bytes, ReturnsOrRejects (parseReplayContainer (K := K) bytes)) ∧
    ∀ bytes entry, ReturnsOrRejects (decodeChunk (K := K) bytes entry codec) ↔
      ¬ ReachesBrokenEvent K codec bytes entry := by
  refine ⟨?_, parse_rejects, decodeChunk_rejects lawful⟩
  intro manifestBase chunks container ok within small
  obtain ⟨index, parsed, decoded⟩ := parse_build lawful ok within small
  rw [← Json.stored_eq_iff]
  constructor
  · rintro ⟨other, reparsed, redecoded⟩
    rw [parsed] at reparsed
    obtain ⟨manifest, rfl⟩ := Prod.mk.inj (Except.ok.inj reparsed)
    rw [decoded] at redecoded
    have chunksKept := List.map_inj_left.mp (Except.ok.inj redecoded)
    exact ⟨manifest, fun chunk among => chunk.stored_eq_iff.mp (chunksKept chunk among)⟩
  · rintro ⟨manifest, kept⟩
    refine ⟨index, by rw [parsed, manifest], ?_⟩
    rw [decoded]
    exact congrArg Except.ok (List.map_congr_left fun chunk among =>
      chunk.stored_eq_iff.mpr (kept chunk among))

/-! ### One recorded chunk, and a file with a broken event -/

def sampleManifest : ReplayManifestBase ℚ where
  replayFormatVersion := 1
  matchId := "match-format-test"
  mapId := "BattleField"
  snapshotHz := 30
  startTick := 2
  endTick := 400
  durationTicks := 398
  buildId := "test-build"
  protocolVersion := 2
  rulesVersion := "rules-1"
  mapBundleHash := "deadbeef"
  visibilityCoreVersion := 1
  recordedAt := none
  participants := [⟨1, "P1", 0, false⟩]

def sampleChunk : ChunkAccumulator (ReplayEvent ℚ) where
  frames := [⟨2, true, [2, 0, 1, 2, 3]⟩]
  visibilities := [⟨2, [1, 2, 3, 4, 5, 6, 7, 8]⟩]
  events := [⟨3, { kind := .tagged, playerId := 1, taggedBy := some 2 }⟩]

def sampleRaw : Bytes :=
  [1, 0, 0, 0, 2, 0, 0, 0, 1, 5, 0, 0, 0, 2, 0, 1, 2, 3, 1, 0, 0, 0, 2, 0, 0, 0, 1, 2, 3, 4, 5, 6,
    7, 8, 1, 0, 0, 0, 3, 0, 0, 0, 37, 0, 123, 34, 107, 105, 110, 100, 34, 58, 34, 116, 97, 103, 103,
    101, 100, 34, 44, 34, 112, 108, 97, 121, 101, 114, 73, 100, 34, 58, 49, 44, 34, 98, 121, 34, 58,
    50, 125]

def sampleZip : Bytes :=
  [31, 139, 8, 0, 0, 0, 0, 0, 0, 3, 99, 100, 96, 96, 96, 2, 98, 70, 86, 48, 131, 145, 137, 153, 17,
    38, 194, 196, 204, 194, 202, 198, 206, 1, 226, 51, 3, 177, 42, 67, 181, 82, 118, 102, 94, 138,
    146, 149, 82, 73, 98, 122, 122, 106, 138, 146, 142, 82, 65, 78, 98, 101, 106, 145, 39, 80, 204,
    80, 71, 41, 169, 82, 201, 202, 168, 22, 0, 25, 97, 184, 82, 81, 0, 0, 0]

def sampleHash : Bytes :=
  [166, 71, 62, 132, 238, 87, 41, 67, 42, 220, 183, 97, 201, 39, 59, 125, 214, 162, 133, 237, 231,
    9, 166, 216, 158, 242, 125, 48, 73, 209, 137, 50]

def sampleRoot : Bytes :=
  [36, 194, 192, 155, 33, 84, 2, 36, 155, 174, 72, 0, 71, 240, 9, 101, 136, 77, 23, 254, 13, 141,
    242, 163, 250, 237, 76, 218, 147, 79, 228, 13]

/-- No frames, no visibility, and one event whose text is `x`. -/
def brokenRaw : Bytes := [0, 0, 0, 0, 0, 0, 0, 0, 1, 0, 0, 0, 0, 0, 0, 0, 1, 0, 120]

def brokenZip : Bytes :=
  [31, 139, 8, 0, 0, 0, 0, 0, 0, 3, 99, 96, 128, 0, 70, 56, 93, 1, 0, 150, 133, 154, 68, 19, 0, 0, 0]

def brokenHash : Bytes :=
  [40, 70, 97, 243, 111, 150, 96, 100, 20, 225, 197, 109, 195, 102, 96, 156, 13, 123, 131, 157, 158,
    200, 88, 39, 15, 59, 237, 205, 234, 121, 83, 116]

def brokenEntry : ChunkIndexEntry := ⟨0, 0, 68, 27, 19, toHex brokenHash⟩

def brokenFile : Bytes :=
  [83, 87, 82, 80, 1, 0, 2, 0, 0, 0, 123, 125, 1, 0, 0, 0] ++ entryBlock brokenEntry brokenHash ++
    brokenZip

/-- `node:zlib` and `node:crypto` on these inputs. -/
def sampleCodec : ReplayCodec where
  gzip raw :=
    if raw = sampleRaw then .ok sampleZip
    else if raw = brokenRaw then .ok brokenZip
    else .error (.error "out of memory")
  gunzip data :=
    if data = sampleZip then .ok sampleRaw
    else if data = brokenZip then .ok brokenRaw
    else .error (.replayDecodeError "incorrect header check")
  sha256 data := .ok
    (if data = sampleZip then sampleHash
    else if data = sampleHash then sampleRoot
    else if data = brokenZip then brokenHash
    else List.replicate 32 0)

theorem sampleCodec_lawful : sampleCodec.Lawful where
  restores := by
    intro raw compressed _ zipped
    simp only [sampleCodec] at zipped ⊢
    split at zipped
    · rename_i sample
      cases zipped
      rw [if_pos rfl, sample]
    · split at zipped
      · rename_i broken
        cases zipped
        rw [if_neg (by decide), if_pos rfl, broken]
      · cases zipped
  digest := by
    intro bytes hash hashed
    simp only [sampleCodec] at hashed
    cases hashed
    split
    · rfl
    · split
      · rfl
      · split <;> rfl
  hashing := nofun
  inflating := by
    intro bytes e failed
    simp only [sampleCodec] at failed
    split at failed
    · cases failed
    · split at failed <;> cases failed
      rfl

theorem sampleChunk_raw : encodeRawChunk sampleChunk = .ok sampleRaw := by decide +kernel

theorem sampleChunk_within : sampleChunk.Within where
  frames := by decide
  visibilities := by decide
  events := by decide
  raw := by
    intro raw encoded
    rw [sampleChunk_raw] at encoded
    cases encoded
    decide

theorem sampleChunk_kept : sampleChunk.Kept where
  frames := by decide
  visibilities := by decide
  events := by
    unfold Json.Exact
    decide +kernel

theorem sampleManifest_exact (rootHash : String) :
    ∀ n ∈ (sampleManifest.manifest 1 rootHash).toJson.numbers, Json.Exact n := by
  have numbers : (sampleManifest.manifest 1 rootHash).toJson.numbers =
      [1, 30, 2, 400, 398, 2, 1, 1, 0, 1] := rfl
  rw [numbers]
  unfold Json.Exact
  decide +kernel

theorem sample_manifest_short : (jsonBytes (sampleManifest.manifest 1 (toHex sampleRoot)).toJson).length ≤
    maxManifestBytes := by
  rw [jsonBytes, utf8, String.toList_ofList]
  decide +kernel

theorem replay_container_sample :
    (∃ container, buildReplayContainer sampleManifest [sampleChunk] sampleCodec = .ok container ∧
      Restores sampleCodec container.bytes (sampleManifest.manifest 1 container.rootHash)
        [sampleChunk]) ∧
    ReturnsOrRejects (parseReplayContainer (K := ℚ) (brokenFile.take 40)) ∧
    ReturnsOrRejects
      (decodeChunk (K := ℚ) sampleZip ⟨2, 2, 0, 85, 81, toHex sampleHash⟩ sampleCodec) := by
  obtain ⟨restores, parses, decodes⟩ := replay_container (K := ℚ) sampleCodec_lawful
  refine ⟨?_, parses _, (decodes _ _).mpr ?_⟩
  · have mapped : [sampleChunk].mapM (buildChunk sampleCodec sampleManifest) =
        .ok [⟨sampleZip, sampleHash, 2, 2, 81⟩] := by rfl
    obtain ⟨container, ok, size⟩ := build_returns sampleCodec_lawful mapped rfl (by decide)
      (by decide) sample_manifest_short
    refine ⟨container, ok, (restores _ _ container ok ?_ ?_).mpr ⟨sampleManifest_exact _, ?_⟩⟩
    · intro chunk among
      rw [List.mem_singleton.mp among]
      exact sampleChunk_within
    · exact Nat.lt_of_le_of_lt size (by decide)
    · intro chunk among
      rw [List.mem_singleton.mp among]
      exact sampleChunk_kept
  · rintro ⟨-, hash, raw, -, -, unzipped, -, broken⟩
    cases unzipped
    have good : decodeRawChunk (K := ℚ) sampleRaw = .ok sampleChunk.stored :=
      decodeRawChunk_encode sampleChunk_within sampleChunk_raw
    refine (decodeRawChunk_rejects sampleRaw).mp ?_ broken
    rw [good]
    exact nofun

/-- The file is parsed, and its chunk makes the decoder throw a `SyntaxError`. -/
theorem broken_event_escapes : sampleCodec.Lawful ∧
    parseReplayContainer (K := ℚ) brokenFile = .ok (.obj [], [brokenEntry]) ∧
    ¬ ReturnsOrRejects (decodeChunk (K := ℚ) brokenFile brokenEntry sampleCodec) := by
  refine ⟨sampleCodec_lawful, by rfl, fun rejects => ?_⟩
  have failed : decodeChunk (K := ℚ) brokenFile brokenEntry sampleCodec = .error .syntaxError := by
    rfl
  exact absurd (rejects _ failed) (by decide)

end SwitchRemake.Replay

import SwitchRemake.Shared.SnapshotReaders

/-!
# The round trip of a snapshot

Sections follow one another whatever stands around them, so that the decoder makes of the encoder's
bytes what each of its sections makes of its own.
-/

namespace SwitchRemake.Wire
open Lib Simulation
open Protocol (Bytes SectionType littleEndian writeSection optional counted effectBits
  flagFull)

variable {K : Type} [JsNumber K]

/-! ## Sections -/

/-- What a section alone makes of the snapshot so far. -/
def sectionValue (s : Snapshot K) (type : Nat) (body : Bytes) :
    Except (Fault SnapshotDecodeError) (Snapshot K) :=
  ((readSection s type).run (.whole body) 0).map Prod.fst

theorem sectionValue_finishes {s r : Snapshot K} {type : Nat} {body : Bytes}
    (reads : Finishes (readSection s type) body r) : sectionValue s type body = .ok r := by
  rw [sectionValue, reads _ _ (sees_whole body)]
  rfl

/-- The bytes of a section of any type. -/
def frame (entry : UInt8 × Bytes) : Bytes :=
  entry.1 :: (littleEndian 2 entry.2.length ++ entry.2)

/-- The sections from the start of these bytes on. -/
def parse (s : Snapshot K) (bytes : Bytes) : Except (Fault SnapshotDecodeError) (Snapshot K) :=
  readSections bytes bytes.length s 0

theorem getUint_drop (count : Nat) {buffer : Bytes} {start : Nat} (inside : start ≤ buffer.length)
    (p : Nat) : getUint (ε := SnapshotDecodeError) count (buffer.drop start) p =
      getUint count buffer (start + p) := by
  rw [getUint, getUint, slice_drop buffer inside]

theorem getUint_ok (count : Nat) {buffer : Bytes} {p : Nat} (fits : p + count ≤ buffer.length) :
    ∃ n, getUint (ε := SnapshotDecodeError) count buffer p = .ok n := by
  rw [getUint, slice, if_pos fits]
  exact ⟨_, rfl⟩

/-- Two windows on the same bytes give a section the same value. -/
theorem readSection_alone (s : Snapshot K) (type : Nat) {buffer : Bytes} {start stop : Nat}
    (ordered : start ≤ stop) (inside : stop ≤ buffer.length) :
    ((readSection s type).run ⟨buffer, stop⟩ start).map Prod.fst =
      sectionValue s type ((buffer.drop start).take (stop - start)) :=
  (readSection_stays s type).alone (sees_window ordered inside)

/-- One round of the loop, the section read on its own. -/
theorem readSections_round (buffer : Bytes) (rounds : Nat) (s : Snapshot K) (offset : Nat) :
    readSections buffer (rounds + 1) s offset =
      if offset + sectionHeaderBytes ≤ buffer.length then do
        let type ← getUint 1 buffer offset
        let length ← getUint 2 buffer (offset + 1)
        let start := offset + sectionHeaderBytes
        let stop := start + length
        if buffer.length < stop then
          .error (.thrown ⟨s!"section 0x{hex type} claims {length} bytes, past end of buffer"⟩)
        else do
          let next ← sectionValue s type ((buffer.drop start).take length)
          readSections buffer rounds next stop
      else .ok s := by
  rw [readSections]
  split
  · rename_i fits
    rw [sectionHeaderBytes] at fits
    have first : offset + 1 ≤ buffer.length := by omega
    have second : offset + 1 + 2 ≤ buffer.length := by omega
    obtain ⟨type, read⟩ := getUint_ok 1 first
    obtain ⟨length, claimed⟩ := getUint_ok 2 second
    rw [read, claimed]
    dsimp only [bind, Except.bind]
    split
    · rfl
    · rename_i inside
      have alone := readSection_alone s type
        (Nat.le_add_right (offset + sectionHeaderBytes) length) (not_lt.mp inside)
      rw [Nat.add_sub_cancel_left] at alone
      rw [← alone]
      generalize (readSection s type).run _ _ = result
      cases result <;> rfl
  · rfl

/-- The loop looks only ahead. -/
theorem readSections_drop {buffer : Bytes} {rounds offset : Nat} (s : Snapshot K)
    (inside : offset ≤ buffer.length) :
    readSections buffer rounds s offset = readSections (buffer.drop offset) rounds s 0 := by
  induction rounds generalizing s offset buffer with
  | zero => rfl
  | succ rounds ih =>
    have same : sectionHeaderBytes ≤ (buffer.drop offset).length ↔
        offset + sectionHeaderBytes ≤ buffer.length := by
      rw [List.length_drop]
      omega
    rw [readSections_round, readSections_round, getUint_drop 1 inside, getUint_drop 2 inside]
    simp only [same, Nat.add_zero, Nat.zero_add]
    split
    · rename_i fits
      cases getUint 1 buffer offset with
      | error fault => rfl
      | ok type =>
        cases getUint 2 buffer (offset + 1) with
        | error fault => rfl
        | ok length =>
          dsimp only [bind, Except.bind]
          have claims : (buffer.drop offset).length < sectionHeaderBytes + length ↔
              buffer.length < offset + sectionHeaderBytes + length := by
            rw [List.length_drop]
            omega
          simp only [claims, List.drop_drop]
          split
          · rfl
          · rename_i ends
            cases sectionValue s type ((buffer.drop (offset + sectionHeaderBytes)).take length) with
            | error fault => rfl
            | ok next =>
              dsimp only
              have here := @ih buffer (offset + sectionHeaderBytes + length) next (not_lt.mp ends)
              have there := @ih (buffer.drop offset) (sectionHeaderBytes + length) next
                (by rw [List.length_drop]; omega)
              rw [here, there, List.drop_drop, Nat.add_assoc]
    · rfl

/-- A round for each byte is enough. -/
theorem readSections_rounds {buffer : Bytes} {rounds offset : Nat} (s : Snapshot K)
    (enough : buffer.length ≤ offset + rounds) (more : Nat) :
    readSections buffer (rounds + more) s offset = readSections buffer rounds s offset := by
  induction rounds generalizing s offset with
  | zero =>
    cases more with
    | zero => rfl
    | succ more =>
      have isOver : ¬ offset + sectionHeaderBytes ≤ buffer.length := by
        rw [sectionHeaderBytes]
        omega
      rw [Nat.zero_add, readSections_round, if_neg isOver, readSections]
  | succ rounds ih =>
    have swap : rounds + 1 + more = rounds + more + 1 := by omega
    rw [swap, readSections_round, readSections_round]
    split
    · cases getUint 1 buffer offset with
      | error fault => rfl
      | ok type =>
        cases getUint 2 buffer (offset + 1) with
        | error fault => rfl
        | ok length =>
          dsimp only [bind, Except.bind]
          split
          · rfl
          · cases sectionValue s type
              ((buffer.drop (offset + sectionHeaderBytes)).take length) with
            | error fault => rfl
            | ok next => exact ih next (by rw [sectionHeaderBytes]; omega)
    · rfl

theorem readSections_inRange (buffer : Bytes) (rounds : Nat) (s : Snapshot K) (offset : Nat) :
    readSections buffer rounds s offset ≠ .error .outOfRange := by
  induction rounds generalizing s offset with
  | zero => exact nofun
  | succ rounds ih =>
    rw [readSections_round]
    split
    · rename_i fits
      rw [sectionHeaderBytes] at fits
      have first : offset + 1 ≤ buffer.length := by omega
      have second : offset + 1 + 2 ≤ buffer.length := by omega
      obtain ⟨type, read⟩ := getUint_ok 1 first
      obtain ⟨length, claimed⟩ := getUint_ok 2 second
      rw [read, claimed]
      dsimp only [bind, Except.bind]
      split
      · exact nofun
      · have inRange := (readSection_stays s type).inRange (sees_whole
          ((buffer.drop (offset + sectionHeaderBytes)).take length))
        rw [sectionValue]
        generalize (readSection s type).run _ _ = result at inRange
        cases result with
        | error fault => exact fun same => inRange (congrArg _ (Except.error.inj same))
        | ok read => exact ih read.1 _
    · exact nofun

/-! ## Section by section -/

theorem parse_nil (s : Snapshot K) : parse s [] = .ok s := rfl

theorem parse_frame (s : Snapshot K) {entry : UInt8 × Bytes} (short : entry.2.length ≤ 65535)
    (rest : Bytes) :
    parse s (frame entry ++ rest) = (do
      let next ← sectionValue s entry.1.toNat entry.2
      parse next rest) := by
  obtain ⟨type, body⟩ := entry
  dsimp only at short ⊢
  have size : (frame (type, body) ++ rest).length = sectionHeaderBytes + body.length + rest.length := by
    simp only [frame, sectionHeaderBytes, List.length_append, List.length_cons, littleEndian_length]
    omega
  have sees : Sees (.whole (frame (type, body) ++ rest)) 0
      ([type] ++ (littleEndian 2 body.length ++ (body ++ rest))) := by
    simpa only [frame, List.cons_append, List.nil_append, List.append_assoc]
      using sees_whole (frame (type, body) ++ rest)
  have first : getUint (ε := SnapshotDecodeError) 1 (frame (type, body) ++ rest) 0 =
      .ok type.toNat := by
    have read := sees.slice (ε := SnapshotDecodeError)
    rw [getUint]
    exact congrArg (Except.map fromLittleEndian) read
  have second : getUint (ε := SnapshotDecodeError) 2 (frame (type, body) ++ rest) (0 + 1) =
      .ok body.length := by
    have read := sees.skip.slice (ε := SnapshotDecodeError)
    rw [littleEndian_length] at read
    rw [getUint, ← fromLittleEndian_littleEndian 2 body.length (by omega)]
    exact congrArg (Except.map fromLittleEndian) read
  have rounds : (frame (type, body) ++ rest).length = rest.length + (2 + body.length) + 1 := by
    rw [size, sectionHeaderBytes]
    omega
  have fits : 0 + sectionHeaderBytes ≤ (frame (type, body) ++ rest).length := by omega
  have inside : 0 + sectionHeaderBytes + body.length ≤ (frame (type, body) ++ rest).length := by
    omega
  have content : ((frame (type, body) ++ rest).drop (0 + sectionHeaderBytes)).take body.length =
      body := by
    have behind : (frame (type, body) ++ rest).drop (0 + sectionHeaderBytes) = body ++ rest := rfl
    rw [behind, List.take_left]
  have after : (frame (type, body) ++ rest).drop (0 + sectionHeaderBytes + body.length) = rest := by
    have behind : (frame (type, body) ++ rest).drop (0 + sectionHeaderBytes) = body ++ rest := rfl
    rw [← List.drop_drop, behind, List.drop_left]
  rw [parse, rounds, readSections_round, if_pos fits, first, second]
  dsimp only [bind, Except.bind]
  rw [if_neg (not_lt.mpr inside), content]
  cases sectionValue s type.toNat body with
  | error fault => rfl
  | ok next =>
    dsimp only
    rw [readSections_drop next inside, after, readSections_rounds next (by omega)]
    rfl

theorem parse_frames (s : Snapshot K) {entries : List (UInt8 × Bytes)}
    (short : ∀ entry ∈ entries, entry.2.length ≤ 65535) (rest : Bytes) :
    parse s (entries.flatMap frame ++ rest) = (do
      let next ← entries.foldlM (fun s entry => sectionValue s entry.1.toNat entry.2) s
      parse next rest) := by
  induction entries generalizing s with
  | nil => rfl
  | cons entry later ih =>
    rw [List.flatMap_cons, List.append_assoc, parse_frame s (short entry List.mem_cons_self),
      List.foldlM_cons]
    cases sectionValue s entry.1.toNat entry.2 with
    | error fault => rfl
    | ok next => exact ih next fun entry member => short entry (List.mem_cons_of_mem _ member)

/-- The snapshot before its sections. -/
def opening (header : Bytes) : Except (Fault SnapshotDecodeError) (Snapshot K) := do
  let version ← getUint 1 header 0
  let flags ← getUint 1 header 1
  let tick ← getUint 4 header 2
  return { version := JsNumber.ofInt version
           full := decide (flags &&& flagFull ≠ 0)
           tick := JsNumber.ofInt tick }

theorem getUint_front {header : Bytes} (rest : Bytes) {p count : Nat}
    (fits : p + count ≤ header.length) :
    getUint (ε := SnapshotDecodeError) count (header ++ rest) p = getUint count header p := by
  rw [getUint, getUint, slice_append header rest fits]

theorem decodeSnapshot_split {header : Bytes} (six : header.length = snapshotHeaderBytes)
    (rest : Bytes) :
    decodeSnapshot (K := K) (header ++ rest) = (do
      let s ← opening header
      parse s rest) := by
  have long : ¬ (header ++ rest).length < snapshotHeaderBytes := by
    rw [List.length_append, six]
    omega
  rw [snapshotHeaderBytes] at six
  have inside : snapshotHeaderBytes ≤ (header ++ rest).length := not_lt.mp long
  have after : (header ++ rest).drop snapshotHeaderBytes = rest := by
    rw [snapshotHeaderBytes, ← six, List.drop_left]
  have size : (header ++ rest).length = rest.length + 6 := by
    rw [List.length_append, six, Nat.add_comm]
  rw [decodeSnapshot, if_neg long, opening, getUint_front rest (by omega),
    getUint_front rest (by omega), getUint_front rest (by omega)]
  cases getUint 1 header 0 with
  | error fault => rfl
  | ok version =>
    cases getUint 1 header 1 with
    | error fault => rfl
    | ok flags =>
      cases getUint 4 header 2 with
      | error fault => rfl
      | ok tick =>
        dsimp only [bind, Except.bind, pure, Except.pure]
        rw [readSections_drop _ inside, after, size, readSections_rounds _ (by omega)]
        rfl

/-! ## The round trip -/

def tag (type : SectionType) : UInt8 := UInt8.ofNat (Protocol.clamp 0 255 type.code).toNat

/-- What a written section makes of the snapshot so far. -/
def written (s : Snapshot K) (entry : SectionType × Bytes) :
    Except (Fault SnapshotDecodeError) (Snapshot K) :=
  sectionValue s (tag entry.1).toNat entry.2

theorem ok_bind {ε α β : Type} (a : α) (g : α → Except ε β) : (Except.ok a >>= g) = g a := rfl

/-- A section that is written only when its field is there. -/
theorem fold_field {α β : Type} {i : Snapshot K} {field : Option α} {type : SectionType}
    {body : α → Bytes} {value : α → β} (set : Option β → Snapshot K) (keeps : set none = i)
    (reads : ∀ a ∈ field, Finishes (readSection i (tag type).toNat) (body a) (set (some (value a)))) :
    ((field.map fun a => (type, body a)).toList).foldlM written i = .ok (set (field.map value)) := by
  cases field with
  | none => exact congrArg Except.ok keeps.symm
  | some a =>
    have read : written i (type, body a) = .ok (set (some (value a))) :=
      sectionValue_finishes (reads a rfl)
    simp only [Option.map_some, Option.toList_some, List.foldlM_cons, List.foldlM_nil, read]
    rfl

theorem nonEmpty_some {α : Type} {list : Option (List α)} {xs : List α}
    (found : nonEmpty list = some xs) : list = some xs := by
  cases list with
  | none => exact absurd found nofun
  | some ys =>
    cases ys with
    | nil => exact absurd found nofun
    | cons y rest => exact found

theorem counted16_short {α : Type} {xs : List α} {write : α → Bytes}
    (three : ∀ x, (write x).length = 3)
    (short : (counted Protocol.u16 xs write).length ≤ 65535) : xs.length ≤ 65535 := by
  have size : (xs.flatMap write).length = xs.length * 3 := length_flatMap_const fun x _ => three x
  rw [counted, List.length_append, size] at short
  omega

section Fields

variable {s : Snapshot K} (fits : s.Fits) (i : Snapshot K)
include fits

theorem fold_map :
    (s.map.map fun map => (SectionType.map, encodeMap map)).toList.foldlM written i =
      .ok { i with map := (s.map.map SnapshotMap.quantise).or i.map } := by
  refine fold_field (fun map => { i with map := map.or i.map }) rfl fun map found => ?_
  have reads := (readMap_yields (fits.map map found)).last fun map => { i with map := some map }
  exact reads.finishes

theorem fold_tileChanges :
    ((nonEmpty s.tileChanges).map fun changes =>
      (SectionType.tileChanges, counted Protocol.u16 changes encodeChange)).toList.foldlM written i =
      .ok { i with tileChanges :=
        ((nonEmpty s.tileChanges).map (List.map TileChange.quantise)).or i.tileChanges } := by
  refine fold_field (fun changes => { i with tileChanges := changes.or i.tileChanges }) rfl
    fun changes found => ?_
  have field := nonEmpty_some found
  have listed : (SectionType.tileChanges, counted Protocol.u16 changes encodeChange) ∈ sections s := by
    simp [sections, Option.mem_def.mp found]
  have few := counted16_short (fun _ => rfl) (fits.lengths _ listed)
  have reads := readRecords_yields 0x02 2 (yields_count16 few) (littleEndian_length 2 _)
    (fun _ => rfl) fun c member => readChange_yields (fits.tileChanges changes field c member)
  exact (reads.last fun changes => { i with tileChanges := some changes }).finishes

theorem fold_tileAlphas :
    (s.tileAlphas.map fun alphas =>
      (SectionType.tileAlphas, counted Protocol.u16 alphas encodeAlpha)).toList.foldlM written i =
      .ok { i with tileAlphas :=
        (s.tileAlphas.map (List.map TileAlpha.quantise)).or i.tileAlphas } := by
  refine fold_field (fun alphas => { i with tileAlphas := alphas.or i.tileAlphas }) rfl
    fun alphas found => ?_
  have listed : (SectionType.tileAlphas, counted Protocol.u16 alphas encodeAlpha) ∈ sections s := by
    simp [sections, Option.mem_def.mp found]
  have few := counted16_short (fun _ => rfl) (fits.lengths _ listed)
  have reads := readRecords_yields 0x03 2 (yields_count16 few) (littleEndian_length 2 _)
    (fun _ => rfl) fun a member => readAlpha_yields (fits.tileAlphas alphas found a member)
  exact (reads.last fun alphas => { i with tileAlphas := some alphas }).finishes

theorem fold_storm :
    (s.storm.map fun storm => (SectionType.storm, encodeStorm storm)).toList.foldlM written i =
      .ok { i with storm := (s.storm.map (Option.map Storm.quantise)).or i.storm } := by
  refine fold_field (fun storm => { i with storm := storm.or i.storm }) rfl
    fun storm found => ?_
  have reads := readStorm_yields (fits.storm storm found)
  exact (reads.last fun storm => { i with storm := some storm }).finishes

theorem fold_players :
    (s.players.map fun players =>
      (SectionType.players, counted Protocol.u8 players encodePlayer)).toList.foldlM written i =
      .ok { i with players :=
        (s.players.map (List.map SnapshotPlayer.quantise)).or i.players } := by
  refine fold_field (fun players => { i with players := players.or i.players }) rfl
    fun players found => ?_
  have reads := readPlayers_yields (fits.playerCount players found) (fits.players players found)
  exact (reads.last fun players => { i with players := some players }).finishes

theorem fold_regions :
    ((nonEmpty s.regions).map fun regions =>
      (SectionType.regions, counted Protocol.u8 regions encodeRegion)).toList.foldlM written i =
      .ok { i with regions :=
        ((nonEmpty s.regions).map (List.map Region.quantise)).or i.regions } := by
  refine fold_field (fun regions => { i with regions := regions.or i.regions }) rfl
    fun regions found => ?_
  have field := nonEmpty_some found
  have reads := readRecords_yields 0x06 1 (yields_count (fits.regionCount regions field)) rfl
    (fun _ => rfl) fun r member => readRegion_yields (fits.regions regions field r member)
  exact (reads.last fun regions => { i with regions := some regions }).finishes

theorem fold_self :
    (s.selfId.map fun selfId => (SectionType.self, encodeSelf selfId s.cooldowns)).toList.foldlM
        written i =
      .ok { i with
        selfId := (s.selfId.map whole).or i.selfId
        cooldowns := (s.cooldowns.map (List.map SlotCooldown.quantise)).or i.cooldowns } := by
  cases found : s.selfId with
  | none =>
    rw [fits.own found]
    rfl
  | some selfId =>
    have reads := (readSelf_finishes (fits.selfId selfId found) fits.cooldownCount
      fits.cooldowns).last fun own =>
        { i with selfId := some own.1, cooldowns := own.2.or i.cooldowns }
    have value : written i (SectionType.self, encodeSelf selfId s.cooldowns) = _ :=
      sectionValue_finishes reads
    simp only [Option.map_some, Option.toList_some, List.foldlM_cons, List.foldlM_nil, value]
    rfl

theorem fold_roster :
    ((nonEmpty s.roster).map fun roster =>
      (SectionType.roster, counted Protocol.u8 roster encodeName)).toList.foldlM written i =
      .ok { i with roster :=
        ((nonEmpty s.roster).map (List.map RosterName.quantise)).or i.roster } := by
  refine fold_field (fun roster => { i with roster := roster.or i.roster }) rfl
    fun roster found => ?_
  have field := nonEmpty_some found
  have reads := readRoster_yields (fits.rosterCount roster field) (fits.roster roster field)
  exact (reads.last fun roster => { i with roster := some roster }).finishes

theorem fold_sections :
    (sections s).foldlM written s.bare = .ok s.quantise := by
  simp only [sections, List.foldlM_append, fold_map fits, fold_tileChanges fits,
    fold_tileAlphas fits, fold_storm fits, fold_players fits, fold_regions fits, fold_self fits,
    fold_roster fits, ok_bind, Snapshot.bare, Option.or_none]
  rfl

end Fields

/-- What stands before the sections. -/
def header (s : Snapshot K) : Bytes :=
  Protocol.u8 Protocol.protocolVersion ++ Protocol.u8 (if s.full then flagFull else 0) ++ u32 s.tick

theorem header_length (s : Snapshot K) : (header s).length = snapshotHeaderBytes := rfl

theorem encodeSnapshot_frames (s : Snapshot K) :
    encodeSnapshot s =
      header s ++ ((sections s).map fun entry => (tag entry.1, entry.2)).flatMap frame := by
  rw [encodeSnapshot, header, List.flatMap_map]
  rfl

theorem opening_header {s : Snapshot K} (version : s.version = JsNumber.ofInt Protocol.protocolVersion)
    (fits : Fits 0 0xffffffff s.tick) : opening (header s) = .ok s.bare := by
  obtain ⟨nonneg, below⟩ := fits
  have sees : Sees (.whole (header s)) 0 (Protocol.u8 Protocol.protocolVersion ++
      (Protocol.u8 (if s.full then flagFull else 0) ++ (u32 s.tick ++ []))) := by
    simpa only [header, List.append_assoc, List.append_nil] using sees_whole (header s)
  have stamp : getUint (ε := SnapshotDecodeError) 1 (header s) 0 = .ok Protocol.protocolVersion :=
    congrArg (Except.map fromLittleEndian) (sees.slice (ε := SnapshotDecodeError))
  have flags : getUint (ε := SnapshotDecodeError) 1 (header s) 1 =
      .ok (if s.full then flagFull else 0) := by
    have read := congrArg (Except.map fromLittleEndian) (sees.skip.slice (ε := SnapshotDecodeError))
    cases full : s.full <;> rw [full] at read <;> exact read
  have ticks : fromLittleEndian (u32 s.tick) = (JsNumber.round s.tick).toNat := by
    rw [u32, Protocol.u32, clamp_of_within nonneg below]
    exact fromLittleEndian_littleEndian 4 _ (by omega)
  have tick : getUint (ε := SnapshotDecodeError) 4 (header s) 2 =
      .ok (JsNumber.round s.tick).toNat := by
    rw [← ticks]
    exact congrArg (Except.map fromLittleEndian) (sees.skip.skip.slice (ε := SnapshotDecodeError))
  have full : decide ((if s.full then flagFull else 0) &&& flagFull ≠ 0) = s.full := by
    cases s.full <;> rfl
  rw [opening, stamp, flags, tick]
  simp only [ok_bind, full, Int.toNat_of_nonneg nonneg]
  rw [Snapshot.bare, version]
  rfl

theorem decode_encode {s : Snapshot K} (fits : s.Fits) :
    decodeSnapshot (encodeSnapshot s) = .ok s.quantise := by
  have short : ∀ entry ∈ (sections s).map fun entry => (tag entry.1, entry.2),
      entry.2.length ≤ 65535 := by
    intro entry member
    obtain ⟨source, listed, rfl⟩ := List.mem_map.mp member
    exact fits.lengths source listed
  have frames := parse_frames s.bare short []
  rw [List.append_nil, List.foldlM_map] at frames
  have folded := fold_sections fits
  rw [encodeSnapshot_frames, decodeSnapshot_split (header_length s), opening_header fits.version fits.tick,
    ok_bind, frames]
  exact congrArg (· >>= fun next => parse next []) folded

/-! ## Writing a quantised snapshot -/

/-- What the arithmetic has to do for a rounded number to be written as before. Exact arithmetic
does, and so do doubles. -/
class WireNumber (K : Type) [JsNumber K] : Prop where
  round_ofInt : ∀ n : Int, |n| ≤ 2 ^ 32 → JsNumber.round (JsNumber.ofInt n : K) = n
  round_steps : ∀ (steps : ℚ) (n : Int), steps = 127 ∨ steps = 255 → |n| ≤ 255 →
    JsNumber.round (JsNumber.ofInt n / JsNumber.ofRat steps * JsNumber.ofRat steps : K) = n

theorem floor_half (n : Int) : Rat.floor ((n : ℚ) + 1 / 2) = n := by
  have floor : ⌊(n : ℚ) + 1 / 2⌋ = n := by
    rw [Int.floor_intCast_add]
    norm_num
  exact floor

instance : WireNumber ℚ where
  round_ofInt n _ := floor_half n
  round_steps steps n known _ := by
    have nonzero : steps ≠ 0 := by rcases known with rfl | rfl <;> norm_num
    have exact_ : (n : ℚ) / steps * steps = n := div_mul_cancel₀ (n : ℚ) nonzero
    have rounded := floor_half n
    rw [← exact_] at rounded
    exact rounded

noncomputable instance : WireNumber ℝ where
  round_ofInt n _ := by
    have rounded : ⌊((n : ℚ) : ℝ) + ((1 / 2 : ℚ) : ℝ)⌋ = n := by
      rw [Rat.cast_intCast, Int.floor_intCast_add]
      norm_num
    exact rounded
  round_steps steps n known _ := by
    have nonzero : ((steps : ℚ) : ℝ) ≠ 0 := by rcases known with rfl | rfl <;> norm_num
    have rounded : ⌊((n : ℚ) : ℝ) / ((steps : ℚ) : ℝ) * ((steps : ℚ) : ℝ) +
        ((1 / 2 : ℚ) : ℝ)⌋ = n := by
      rw [div_mul_cancel₀ _ nonzero, Rat.cast_intCast, Int.floor_intCast_add]
      norm_num
    exact rounded

section Requantised

variable [WireNumber K] {v : K}

theorem round_whole {low high : Int} (fits : Fits low high v) (above : -(2 ^ 32) ≤ low)
    (below : high ≤ 2 ^ 32) : JsNumber.round (whole v) = JsNumber.round v := by
  obtain ⟨from_, to_⟩ := fits
  exact WireNumber.round_ofInt _ (abs_le.mpr ⟨above.trans from_, to_.trans below⟩)

theorem u8_whole (fits : Byte v) : u8 (whole v) = u8 v := by
  rw [u8, u8, round_whole fits (by decide) (by decide)]

theorem u16_whole (fits : Word v) : u16 (whole v) = u16 v := by
  rw [u16, u16, round_whole fits (by decide) (by decide)]

theorem ratio_stepped (fits : Ratio v) : ratio (stepped 255 v) = ratio v := by
  rw [ratio, ratio, u8, u8, stepped, WireNumber.round_steps 255 _ (.inr rfl)]
  exact abs_le.mpr ⟨le_trans (by decide) fits.1, fits.2⟩

theorem i8_stepped (fits : Facing v) :
    i8 (stepped 127 v * JsNumber.ofRat 127) = i8 (v * JsNumber.ofRat 127) := by
  rw [i8, i8, stepped, WireNumber.round_steps 127 _ (.inl rfl)]
  exact abs_le.mpr ⟨le_trans (by decide) fits.1, le_trans fits.2 (by decide)⟩

theorem encodeChange_quantise {c : TileChange K} (fits : c.Fits) :
    encodeChange c.quantise = encodeChange c := by
  simp only [encodeChange, TileChange.quantise, u8_whole fits.x, u8_whole fits.y,
    u8_whole fits.physics]

theorem encodeAlpha_quantise {a : TileAlpha K} (fits : a.Fits) :
    encodeAlpha a.quantise = encodeAlpha a := by
  simp only [encodeAlpha, TileAlpha.quantise, u8_whole fits.x, u8_whole fits.y,
    ratio_stepped fits.alpha]

theorem encodeRegion_quantise {r : Region K} (fits : r.Fits) :
    encodeRegion r.quantise = encodeRegion r := by
  simp only [encodeRegion, Region.quantise, u8_whole fits.x, u8_whole fits.y,
    ratio_stepped fits.remaining]

theorem encodeCooldown_quantise {c : SlotCooldown K} (fits : c.Fits) :
    encodeCooldown c.quantise = encodeCooldown c := by
  simp only [encodeCooldown, SlotCooldown.quantise, u8_whole fits.slot, u16_whole fits.remainingMs]

theorem encodeName_quantise {r : RosterName K} (fits : r.Fits) :
    encodeName r.quantise = encodeName r := by
  simp only [encodeName, RosterName.quantise, u8_whole fits.id]

theorem encodeStorm_quantise {storm : Option (Storm K)} (fits : ∀ rect ∈ storm, rect.Fits) :
    encodeStorm (storm.map Storm.quantise) = encodeStorm storm := by
  cases storm with
  | none => rfl
  | some rect =>
    obtain ⟨x, y, width, height⟩ := fits rect rfl
    simp only [Option.map_some, encodeStorm, Storm.quantise, u16_whole x, u16_whole y,
      u16_whole width, u16_whole height]

theorem encodePlayer_quantise {p : SnapshotPlayer K} (fits : p.Fits) :
    encodePlayer p.quantise = encodePlayer p := by
  have effects (type : EffectType) : optional ((p.effects type).map (stepped 255)) ratio =
      optional (p.effects type) ratio := by
    cases found : p.effects type with
    | none => rfl
    | some v => exact ratio_stepped (fits.effects type v found)
  have emoji : optional (p.emojiId.map whole) u8 = optional p.emojiId u8 := by
    cases found : p.emojiId with
    | none => rfl
    | some v => exact u8_whole (fits.emojiId v found)
  simp only [encodePlayer, SnapshotPlayer.quantise, u8_whole fits.id, u16_whole fits.x,
    u16_whole fits.y, i8_stepped fits.facingX, i8_stepped fits.facingY, u8_whole fits.colorIndex,
    playerFlags, effectMask, encodeEffects, effects, emoji, Option.isSome_map]
  rfl

theorem counted_quantise {α : Type} {count : Int → Bytes} {xs : List α} (quantise : α → α)
    (write : α → Bytes) (same : ∀ x ∈ xs, write (quantise x) = write x) :
    counted count (xs.map quantise) write = counted count xs write := by
  rw [counted, counted, List.length_map, List.flatMap_map]
  exact congrArg _ (List.flatMap_congr same)

theorem encodeMap_quantise {map : SnapshotMap K} (fits : map.Fits) :
    encodeMap map.quantise = encodeMap map := by
  have cell (y x : Nat) : u8 ((((map.tiles.map fun row => row.map whole)[y]?).bind (·[x]?)).getD 0) =
      u8 (((map.tiles[y]?).bind (·[x]?)).getD 0) := by
    rw [List.getElem?_map]
    cases found : map.tiles[y]? with
    | none => rfl
    | some row =>
      dsimp only [Option.map_some, Option.bind_some]
      rw [List.getElem?_map]
      cases inside : row[x]? with
      | none => rfl
      | some tile =>
        have listed := List.mem_of_getElem? found
        exact u8_whole (fits.tiles row listed tile (List.mem_of_getElem? inside))
  simp only [encodeMap, SnapshotMap.quantise, cell]

omit [JsNumber K] [WireNumber K] in
theorem nonEmpty_map {α : Type} (list : Option (List α)) (f : α → α) :
    nonEmpty ((nonEmpty list).map (List.map f)) = (nonEmpty list).map (List.map f) := by
  cases list with
  | none => rfl
  | some xs => cases xs <;> rfl

theorem map_quantise {α β : Type} (field : Option α) (quantise : α → α) (entry : α → β)
    (same : ∀ a ∈ field, entry (quantise a) = entry a) :
    (field.map quantise).map entry = field.map entry := by
  rw [Option.map_map]
  exact Option.map_congr same

theorem sections_quantise {s : Snapshot K} (fits : s.Fits) :
    sections s.quantise = sections s := by
  have own : ∀ id ∈ s.selfId,
      encodeSelf (whole id) (s.cooldowns.map (List.map SlotCooldown.quantise)) =
        encodeSelf id s.cooldowns := by
    intro id found
    rw [encodeSelf, encodeSelf, u8_whole (fits.selfId id found)]
    cases listed : s.cooldowns with
    | none => rfl
    | some cooldowns =>
      have same : counted Protocol.u8 (cooldowns.map SlotCooldown.quantise) encodeCooldown =
          counted Protocol.u8 cooldowns encodeCooldown :=
        counted_quantise _ _ fun c member =>
          encodeCooldown_quantise (fits.cooldowns cooldowns listed c member)
      rw [Option.map_some, Protocol.optional, Protocol.optional, Option.elim_some,
        Option.elim_some, same]
  have map := map_quantise s.map SnapshotMap.quantise
    (fun map => (SectionType.map, encodeMap map))
    fun map found => by rw [encodeMap_quantise (fits.map map found)]
  have tileChanges := map_quantise (nonEmpty s.tileChanges) (List.map TileChange.quantise)
    (fun changes => (SectionType.tileChanges, counted Protocol.u16 changes encodeChange))
    fun changes found => by
      rw [counted_quantise TileChange.quantise encodeChange fun c member =>
        encodeChange_quantise (fits.tileChanges changes (nonEmpty_some found) c member)]
  have tileAlphas := map_quantise s.tileAlphas (List.map TileAlpha.quantise)
    (fun alphas => (SectionType.tileAlphas, counted Protocol.u16 alphas encodeAlpha))
    fun alphas found => by
      rw [counted_quantise TileAlpha.quantise encodeAlpha fun a member =>
        encodeAlpha_quantise (fits.tileAlphas alphas found a member)]
  have storm := map_quantise s.storm (Option.map Storm.quantise)
    (fun storm => (SectionType.storm, encodeStorm storm))
    fun storm found => by rw [encodeStorm_quantise (fits.storm storm found)]
  have players := map_quantise s.players (List.map SnapshotPlayer.quantise)
    (fun players => (SectionType.players, counted Protocol.u8 players encodePlayer))
    fun players found => by
      rw [counted_quantise SnapshotPlayer.quantise encodePlayer fun p member =>
        encodePlayer_quantise (fits.players players found p member)]
  have regions := map_quantise (nonEmpty s.regions) (List.map Region.quantise)
    (fun regions => (SectionType.regions, counted Protocol.u8 regions encodeRegion))
    fun regions found => by
      rw [counted_quantise Region.quantise encodeRegion fun r member =>
        encodeRegion_quantise (fits.regions regions (nonEmpty_some found) r member)]
  have roster := map_quantise (nonEmpty s.roster) (List.map RosterName.quantise)
    (fun roster => (SectionType.roster, counted Protocol.u8 roster encodeName))
    fun roster found => by
      rw [counted_quantise RosterName.quantise encodeName fun r member =>
        encodeName_quantise (fits.roster roster (nonEmpty_some found) r member)]
  have self : (s.selfId.map whole).map (fun id => (SectionType.self,
      encodeSelf id (s.cooldowns.map (List.map SlotCooldown.quantise)))) =
      s.selfId.map fun id => (SectionType.self, encodeSelf id s.cooldowns) := by
    rw [Option.map_map]
    exact Option.map_congr fun id found => congrArg (Prod.mk SectionType.self) (own id found)
  unfold sections Snapshot.quantise
  dsimp only
  rw [nonEmpty_map, nonEmpty_map, nonEmpty_map, map, tileChanges, tileAlphas, storm, players,
    regions, self, roster]

/-- A snapshot that came out of the decoder is written as the one it was read from. -/
theorem encode_quantise {s : Snapshot K} (fits : s.Fits) :
    encodeSnapshot s.quantise = encodeSnapshot s := by
  have tick : u32 (whole s.tick) = u32 s.tick := by
    rw [u32, u32, round_whole fits.tick (by decide) (by decide)]
  rw [encodeSnapshot, encodeSnapshot, sections_quantise fits]
  simp only [Snapshot.quantise, tick]
  rfl

end Requantised

/-! ## Any bytes -/

def knownTypes : List UInt8 := [0x01, 0x02, 0x03, 0x04, 0x05, 0x06, 0x07, 0x09]

theorem readSection_unknown (s : Snapshot K) {type : UInt8} (unknown : type ∉ knownTypes) :
    readSection s type.toNat = pure s := by
  have other (n : Nat) (small : n < 256) (listed : UInt8.ofNat n ∈ knownTypes) : type.toNat ≠ n := by
    intro same
    have back : UInt8.ofNat type.toNat = type := UInt8.ofNat_toNat
    rw [same] at back
    exact unknown (back ▸ listed)
  unfold readSection
  split <;> first | rfl | exact absurd ‹_› (other _ (by decide) (by decide))

theorem decode_skips {head : Bytes} (six : head.length = snapshotHeaderBytes)
    {before : List (UInt8 × Bytes)} (short : ∀ entry ∈ before, entry.2.length ≤ 65535)
    {extra : UInt8 × Bytes} (unknown : extra.1 ∉ knownTypes) (fits : extra.2.length ≤ 65535)
    (after : Bytes) :
    decodeSnapshot (K := K) (head ++ (before.flatMap frame ++ (frame extra ++ after))) =
      decodeSnapshot (head ++ (before.flatMap frame ++ after)) := by
  have skipped (s : Snapshot K) : parse s (frame extra ++ after) = parse s after := by
    rw [parse_frame s fits, sectionValue, readSection_unknown s unknown]
    rfl
  rw [decodeSnapshot_split six, decodeSnapshot_split six]
  simp only [parse_frames _ short, skipped]

theorem decode_inRange (buffer : Bytes) : decodeSnapshot (K := K) buffer ≠ .error .outOfRange := by
  unfold decodeSnapshot
  split
  · exact nofun
  · rename_i long
    rw [snapshotHeaderBytes] at long
    have fits : 0 + 1 ≤ buffer.length ∧ 1 + 1 ≤ buffer.length ∧ 2 + 4 ≤ buffer.length := by omega
    obtain ⟨version, first⟩ := getUint_ok 1 fits.1
    obtain ⟨flags, second⟩ := getUint_ok 1 fits.2.1
    obtain ⟨tick, third⟩ := getUint_ok 4 fits.2.2
    rw [first, second, third]
    exact readSections_inRange buffer _ _ _

/-- Every snapshot the format can hold comes back with its numbers rounded, and from then on
unchanged; sections of unknown types are skipped; whatever the bytes, the decoder returns a value or
throws its own error, and a section is read as if it stood alone. -/
theorem snapshot_codec [WireNumber K] :
    (∀ s : Snapshot K, s.Fits →
      decodeSnapshot (encodeSnapshot s) = .ok s.quantise ∧
      decodeSnapshot (encodeSnapshot s.quantise) = .ok s.quantise) ∧
    (∀ (head : Bytes) (before : List (UInt8 × Bytes)) (extra : UInt8 × Bytes) (after : Bytes),
      head.length = snapshotHeaderBytes → (∀ entry ∈ before, entry.2.length ≤ 65535) →
      extra.1 ∉ knownTypes → extra.2.length ≤ 65535 →
      decodeSnapshot (K := K) (head ++ (before.flatMap frame ++ (frame extra ++ after))) =
        decodeSnapshot (head ++ (before.flatMap frame ++ after))) ∧
    (∀ buffer : Bytes, (∃ s : Snapshot K, decodeSnapshot buffer = .ok s) ∨
      ∃ error, decodeSnapshot (K := K) buffer = .error (.thrown error)) ∧
    ∀ (s : Snapshot K) (type : Nat) (buffer : Bytes) (start stop : Nat), start ≤ stop →
      stop ≤ buffer.length →
      (readSection s type).run ⟨buffer, stop⟩ start ≠ .error .outOfRange ∧
      ((readSection s type).run ⟨buffer, stop⟩ start).map Prod.fst =
        ((readSection s type).run (.whole ((buffer.drop start).take (stop - start))) 0).map
          Prod.fst := by
  refine ⟨fun s fits => ⟨decode_encode fits, ?_⟩, fun head before extra after six short unknown
    fits => decode_skips six short unknown fits after, fun buffer => ?_,
    fun s type buffer start stop ordered inside => ⟨?_, readSection_alone s type ordered inside⟩⟩
  · rw [encode_quantise fits, decode_encode fits]
  · have inRange := decode_inRange (K := K) buffer
    cases result : decodeSnapshot (K := K) buffer with
    | ok s => exact .inl ⟨s, rfl⟩
    | error fault =>
      cases fault with
      | thrown error => exact .inr ⟨error, rfl⟩
      | outOfRange => exact absurd result inRange
  · exact (readSection_stays s type).inRange (sees_window ordered inside)

/-- A snapshot of one section of which only the front is read. -/
theorem decode_front {s r : Snapshot K} (type : SectionType) (front rest : Bytes)
    (only : sections s = [(type, front ++ rest)]) (short : (front ++ rest).length ≤ 65535)
    (version : s.version = JsNumber.ofInt Protocol.protocolVersion) (tick : Fits 0 0xffffffff s.tick)
    (reads : Yields (readSection s.bare (tag type).toNat) front r) :
    decodeSnapshot (encodeSnapshot s) = .ok r := by
  have frames : encodeSnapshot s = header s ++ (frame (tag type, front ++ rest) ++ []) := by
    rw [encodeSnapshot_frames, only]
    rfl
  have value : sectionValue s.bare (tag type).toNat (front ++ rest) = .ok r := by
    rw [sectionValue, reads _ _ rest (sees_whole _)]
    rfl
  rw [frames, decodeSnapshot_split (header_length s), opening_header version tick, ok_bind,
    parse_frame s.bare short, value]
  rfl

def blank : Snapshot ℚ := { version := 2, full := false, tick := 0 }

def corner : Region ℚ := ⟨1, 1, 1⟩
def tired : SlotCooldown ℚ := ⟨1, 100⟩

def manyRegions : Snapshot ℚ := { blank with regions := some (List.replicate 256 corner) }

def manyCooldowns : Snapshot ℚ :=
  { blank with selfId := some 1, cooldowns := some (List.replicate 256 tired) }

theorem manyRegions_cut : decodeSnapshot (encodeSnapshot manyRegions) =
    .ok { blank with regions := some (List.replicate 255 corner) } := by
  have fits : ∀ r ∈ List.replicate 255 corner, r.Fits := by
    intro r member
    rw [List.eq_of_mem_replicate member]
    exact ⟨by decide +kernel, by decide +kernel, by decide +kernel⟩
  have reads := readRecords_yields 0x06 1 (yields_count (List.length_replicate.le)) rfl
    (fun _ => rfl) fun r member => readRegion_yields (fits r member)
  have same : corner.quantise = corner := by decide +kernel
  rw [List.map_replicate, same] at reads
  have front := reads.last fun regions => { manyRegions.bare with regions := some regions }
  have bare : { manyRegions.bare with regions := some (List.replicate 255 corner) } =
      { blank with regions := some (List.replicate 255 corner) } := by decide +kernel
  rw [← bare]
  exact decode_front .regions (counted Protocol.u8 (List.replicate 255 corner) encodeRegion)
    (encodeRegion corner) (by decide +kernel) (by decide +kernel) (by decide +kernel)
    (by decide +kernel) front

theorem manyCooldowns_cut : decodeSnapshot (encodeSnapshot manyCooldowns) =
    .ok { blank with selfId := some 1, cooldowns := some (List.replicate 255 tired) } := by
  have fits : ∀ c ∈ List.replicate 255 tired, c.Fits := by
    intro c member
    rw [List.eq_of_mem_replicate member]
    exact ⟨by decide +kernel, by decide +kernel⟩
  have one : Byte (1 : ℚ) := by decide +kernel
  have reads := readSelf_yields one
    (List.length_replicate.le) fits
  have same : tired.quantise = tired := by decide +kernel
  have own : whole (1 : ℚ) = 1 := by decide +kernel
  rw [List.map_replicate, same, own] at reads
  have front := reads.last fun own =>
    { manyCooldowns.bare with selfId := some own.1, cooldowns := own.2.or none }
  have bare :
      { manyCooldowns.bare with
        selfId := some 1, cooldowns := (some (List.replicate 255 tired)).or none } =
      { blank with selfId := some 1, cooldowns := some (List.replicate 255 tired) } := by
    decide +kernel
  rw [← bare]
  exact decode_front .self (encodeSelf 1 (some (List.replicate 255 tired))) (encodeCooldown tired)
    (by decide +kernel) (by decide +kernel) (by decide +kernel) (by decide +kernel) front

/-- What does not come back: another version, cooldowns without their slot, a byte order mark, a
map that is no grid, and more regions or cooldowns than a byte can count. -/
theorem snapshot_codec_losses :
    decodeSnapshot (encodeSnapshot { blank with version := 1 }) = .ok blank ∧
    decodeSnapshot (encodeSnapshot { blank with cooldowns := some [tired] }) = .ok blank ∧
    decodeSnapshot (encodeSnapshot { blank with roster := some [⟨1, "\uFEFFa"⟩] }) =
      .ok { blank with roster := some [⟨1, "a"⟩] } ∧
    decodeSnapshot (encodeSnapshot { blank with map := some ⟨1, 1, []⟩ }) =
      .ok { blank with map := some ⟨1, 1, [[0]]⟩ } ∧
    decodeSnapshot (encodeSnapshot manyRegions) ≠ .ok manyRegions ∧
    decodeSnapshot (encodeSnapshot manyCooldowns) ≠ .ok manyCooldowns := by
  refine ⟨by decide +kernel, by decide +kernel, by decide +kernel, by decide +kernel, ?_, ?_⟩
  · rw [manyRegions_cut]
    decide +kernel
  · rw [manyCooldowns_cut]
    decide +kernel

/-- A snapshot with every section. -/
def crowded : Snapshot ℚ :=
  { version := 2, full := true, tick := 70000
    map := some ⟨2, 1, [[0, 1]]⟩
    tileChanges := some [⟨1, 0, 3⟩]
    tileAlphas := some []
    storm := some (some ⟨1 / 2, 3, 200, 300⟩)
    players := some [⟨1, 640, 1280, 1, -1 / 3, 3, false, true, fun type =>
      if type = .frenzy then some (1 / 2) else none, some 7⟩]
    regions := some [⟨2, 0, 1 / 4⟩]
    selfId := some 1
    cooldowns := some [⟨1, 4200⟩]
    roster := some [⟨1, "테스트"⟩] }

theorem crowded_fits : crowded.Fits where
  version := by decide +kernel
  tick := by decide +kernel
  map := by
    rintro _ ⟨⟩
    exact ⟨by decide, by decide, rfl, by decide +kernel, by decide +kernel⟩
  tileChanges := by
    rintro _ ⟨⟩
    exact List.forall_mem_singleton.mpr ⟨by decide +kernel, by decide +kernel, by decide +kernel⟩
  tileAlphas := by
    rintro _ ⟨⟩
    exact nofun
  storm := by
    rintro _ ⟨⟩ _ ⟨⟩
    exact ⟨by decide +kernel, by decide +kernel, by decide +kernel, by decide +kernel⟩
  playerCount := by
    rintro _ ⟨⟩
    decide
  players := by
    rintro _ ⟨⟩
    refine List.forall_mem_singleton.mpr ⟨by decide +kernel, by decide +kernel, by decide +kernel,
      by decide +kernel, by decide +kernel, by decide +kernel, fun type => ?_, ?_⟩
    · cases type with
      | frenzy =>
        rintro _ ⟨⟩
        decide +kernel
      | _ => exact nofun
    · rintro _ ⟨⟩
      decide +kernel
  regionCount := by
    rintro _ ⟨⟩
    decide
  regions := by
    rintro _ ⟨⟩
    exact List.forall_mem_singleton.mpr ⟨by decide +kernel, by decide +kernel, by decide +kernel⟩
  selfId := by
    rintro _ ⟨⟩
    decide +kernel
  own := nofun
  cooldownCount := by
    rintro _ ⟨⟩
    decide
  cooldowns := by
    rintro _ ⟨⟩
    exact List.forall_mem_singleton.mpr ⟨by decide +kernel, by decide +kernel⟩
  rosterCount := by
    rintro _ ⟨⟩
    decide
  roster := by
    rintro _ ⟨⟩
    exact List.forall_mem_singleton.mpr ⟨by decide +kernel, by decide +kernel, by decide +kernel⟩
  lengths := by decide +kernel

theorem snapshot_codec_crowded :
    decodeSnapshot (encodeSnapshot crowded) = .ok crowded.quantise ∧
      decodeSnapshot (encodeSnapshot crowded.quantise) = .ok crowded.quantise :=
  (snapshot_codec (K := ℚ)).1 crowded crowded_fits

end SwitchRemake.Wire

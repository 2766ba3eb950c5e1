import SwitchRemake.Lib.RoundRobin
import SwitchRemake.Redis.OutboxRun

/-!
# Batches of the journal

`ResultJournal.entries` of one worker for any limit, an operation on the directory a step. Between
the steps others publish and remove files.
-/

namespace SwitchRemake.Redis
open Lib ResultJournal

/-- A call that has listed the directory: the last name of its batch, what it has still to read, and
the results so far. -/
structure Batch (K : Type) where
  last : String
  next : List String
  results : List (Entry K)

/-- `returned` keeps what the calls that came to their end have returned. -/
structure JournalRun (K : Type) where
  files : Directory
  cursor : String
  call : Option (Batch K)
  returned : List (List (Entry K))

/-- `works` tells whether an operation on the directory goes through or throws. -/
inductive JournalEvent where
  | entries (limit : Int) (works : Bool)
  | read (works : Bool)
  | publish (file : File)
  | remove (name : String)

namespace JournalRun
variable {K : Type} [JsonNumber K]

omit [JsonNumber K] in
/-- The call goes on to the next file, or it moves the cursor and returns. -/
def readFrom (s : JournalRun K) (last : String) (next : List String) (results : List (Entry K)) :
    JournalRun K :=
  if next = [] then { s with cursor := last, call := none, returned := s.returned ++ [results] }
  else { s with call := some ⟨last, next, results⟩ }

omit [JsonNumber K] in
/-- The call throws. -/
def fail (s : JournalRun K) : JournalRun K := { s with call := none }

def apply (hash : String → String) (s : JournalRun K) : JournalEvent → JournalRun K
  | .entries limit works =>
    if s.call.isSome then s
    else if limit < 1 ∨ 9007199254740991 < limit ∨ !works then s
    else
      let batch := batch limit.toNat s.cursor (names s.files)
      s.readFrom (batch.getLastD "") batch []
  | .read works =>
    match s.call with
    | none => s
    | some ⟨_, [], _⟩ => s
    | some ⟨last, name :: later, results⟩ =>
      if works then
        match read name s.files with
        | .error .missing => s.readFrom last later results
        | .error .oversized => s.fail
        | .ok text =>
          match entryOf hash name text with
          | none => s.fail
          | some entry => s.readFrom last later (results ++ [entry])
      else s.fail
  | .publish file => if s.files.has file.name then s else { s with files := s.files.set file }
  | .remove name => { s with files := s.files.delete name }

omit [JsonNumber K] in
/-- The limit is always the same, the file stays, and nobody publishes a file that the cursor comes
by on its way to it. -/
def Spares (limit : Nat) (name : String) (s : JournalRun K) : JournalEvent → Prop
  | .entries limit' _ => limit' = limit
  | .read _ => True
  | .publish file => s.files.has file.name = true ∨ ¬ Ahead s.cursor file.name name
  | .remove other => other ≠ name

end JournalRun

/-- Where the outbox stands with its call. -/
def ResultOutbox.reader {K : Type} (o : ResultOutbox K) (files : Directory)
    (returned : List (List (Entry K))) : JournalRun K :=
  { files, cursor := o.cursor, returned
    call := match o.running with
      | some (.reading last next later results) => some ⟨last, next :: later, results⟩
      | _ => none }

section
variable {K : Type} [JsNumber K] [JsonNumber K] {hash : String → String} {o : ResultOutbox K}

omit [JsNumber K] [JsonNumber K] in
theorem reader_readFrom (files : Directory) (returned : List (List (Entry K))) (last : String)
    (next : List String) (results : List (Entry K)) :
    ((o.reader files returned).readFrom last next results) =
      (o.readFrom last next results).reader files
        ((o.reader files returned).readFrom last next results).returned := by
  cases next <;> rfl

/-- The outbox lists and reads the journal as `entries(128)`. -/
theorem outbox_lists (files : Directory) (returned : List (List (Entry K))) (works : Bool)
    (listing : o.running = some .listing) :
    ∃ returned', (o.reader files returned).apply hash (.entries 128 works) =
      (ResultOutbox.proceed hash o files works .listing).1.reader files returned' := by
  have idle : (o.reader files returned).call = none := by
    unfold ResultOutbox.reader
    rw [listing]
  unfold JournalRun.apply ResultOutbox.proceed
  rw [idle]
  cases works with
  | true => exact ⟨_, reader_readFrom files returned _ _ _⟩
  | false =>
    refine ⟨returned, ?_⟩
    simp [ResultOutbox.reader, ResultOutbox.fail, listing]

theorem outbox_reads (files : Directory) (returned : List (List (Entry K))) (works : Bool)
    {last name : String} {later : List String} {results : List (Entry K)}
    (reading : o.running = some (.reading last name later results)) :
    ∃ returned', (o.reader files returned).apply hash (.read works) =
      (ResultOutbox.proceed hash o files works (.reading last name later results)).1.reader files
        returned' := by
  have under : (o.reader files returned).call = some ⟨last, name :: later, results⟩ := by
    unfold ResultOutbox.reader
    rw [reading]
  have fails : (o.reader files returned).fail = o.fail.reader files returned := rfl
  unfold JournalRun.apply ResultOutbox.proceed
  rw [under]
  cases works with
  | false => exact ⟨returned, fails⟩
  | true =>
    have same : (o.reader files returned).files = files := rfl
    simp only [same, if_true]
    cases ResultJournal.read name files with
    | error failure =>
      cases failure with
      | missing => exact ⟨_, reader_readFrom files returned _ _ _⟩
      | oversized => exact ⟨returned, fails⟩
    | ok text =>
      dsimp only
      cases (entryOf hash name text : Option (Entry K)) with
      | none => exact ⟨returned, fails⟩
      | some entry => exact ⟨_, reader_readFrom files returned _ _ _⟩

end

/-! ## The order of a batch -/

theorem batch_order {cursor : String} {names : List String} (distinct : names.Nodup) :
    ∃ order : List String, order.Perm names ∧ order.Pairwise (Ahead cursor) ∧
      ∀ limit, batch limit cursor names = order.take limit := by
  have same : (names.mergeSort (· ≤ ·)).Perm names := List.mergeSort_perm names _
  have ascending : (names.mergeSort (· ≤ ·)).Pairwise (· < ·) := by
    refine ((List.pairwise_mergeSort' (· ≤ ·) names).and (same.nodup_iff.mpr distinct)).imp ?_
    exact fun both => lt_of_le_of_ne both.1 both.2
  unfold batch
  dsimp only
  generalize names.mergeSort (· ≤ ·) = sorted at same ascending
  cases starts : sorted.findIdx? fun name => cursor < name with
  | none =>
    have below : ∀ x ∈ sorted, ¬ cursor < x := by
      intro x inside
      simpa using List.findIdx?_eq_none_iff.mp starts x inside
    have order : ([] ++ sorted).Pairwise (Ahead cursor) :=
      pairwise_ahead (by rwa [List.append_nil]) below nofun
    exact ⟨sorted, same, order, fun limit => by simp⟩
  | some start =>
    obtain ⟨short, above, below⟩ := List.findIdx?_eq_some_iff_getElem.mp starts
    have split : sorted.take start ++ sorted.drop start = sorted := List.take_append_drop start sorted
    refine ⟨sorted.drop start ++ sorted.take start, ?_, ?_, fun limit => rfl⟩
    · exact (List.perm_append_comm.trans (List.Perm.of_eq split)).trans same
    · refine pairwise_ahead (by rwa [split]) (fun x inside => ?_) fun x inside => ?_
      · obtain ⟨j, bound, rfl⟩ := List.getElem_of_mem inside
        rw [List.length_take] at bound
        rw [List.getElem_take]
        simpa using below j (by omega)
      · obtain ⟨j, bound, rfl⟩ := List.getElem_of_mem inside
        rw [List.getElem_drop]
        have first : cursor < sorted[start] := of_decide_eq_true above
        rcases Nat.eq_zero_or_pos j with rfl | positive
        · exact first
        · exact first.trans (List.pairwise_iff_getElem.mp ascending start (start + j) short
            (by rw [List.length_drop] at bound; omega) (by omega))

/-! ## How far the cursor is -/

/-- The files that the cursor comes by on its way to the name. -/
def left (cursor name : String) (files : Directory) : Nat :=
  ((names files).filter (Ahead cursor · name)).length

section
variable {cursor last name : String} {files : Directory}

theorem left_lt (stays : files.has name = true) : left cursor name files + 1 ≤ files.entries.length := by
  obtain ⟨file, member, same⟩ := KeyedList.has_iff.mp stays
  have inside : name ∈ names files := same ▸ List.mem_map_of_mem member
  have fewer : ((names files).filter (Ahead cursor · name)).length < (names files).length :=
    List.length_filter_lt_length_iff_exists.mpr
      ⟨name, inside, fun ahead => Ahead.irrefl cursor name (of_decide_eq_true ahead)⟩
  have all : (names files).length = files.entries.length := List.length_map ..
  exact all ▸ fewer

theorem left_publish {file : File} (fresh : files.has file.name = false)
    (spared : ¬ Ahead cursor file.name name) :
    left cursor name (files.set file) = left cursor name files := by
  unfold left names
  rw [KeyedList.entries_set_of_absent fresh, List.map_append, List.map_singleton,
    List.filter_append, List.filter_singleton, decide_eq_false spared]
  simp

theorem left_remove (other : String) : left cursor name (files.delete other) ≤ left cursor name files :=
  ((List.filter_sublist.map File.name).filter _).length_le

/-- A batch has the name, or the last of the batch is nearer to it by as many as the batch holds. -/
theorem batch_nearer {limit : Nat} (stays : files.has name = true) (positive : 0 < limit) :
    batch limit cursor (names files) ≠ [] ∧ (name ∈ batch limit cursor (names files) ∨
      Ahead cursor ((batch limit cursor (names files)).getLastD "") name ∧
        left ((batch limit cursor (names files)).getLastD "") name files + limit ≤
          left cursor name files) := by
  have distinct : (names files).Nodup := files.distinct
  obtain ⟨order, same, ahead, takes⟩ : ∃ order : List String, order.Perm (names files) ∧
      order.Pairwise (Ahead cursor) ∧ ∀ limit, batch limit cursor (names files) = order.take limit :=
    batch_order distinct
  obtain ⟨file, member, named⟩ := KeyedList.has_iff.mp stays
  have inside : name ∈ order := same.mem_iff.mpr (named ▸ List.mem_map_of_mem member)
  have count : ∀ cursor, left cursor name files = (order.filter (Ahead cursor · name)).length :=
    fun cursor => ((same.filter _).length_eq).symm
  rw [takes limit]
  rcases served_or_nearer ahead inside positive with served | ⟨last, ends, between, nearer⟩
  · exact ⟨List.ne_nil_of_mem served, .inl served⟩
  · have lastD : (order.take limit).getLastD "" = last := by
      rw [List.getLastD_eq_getLast?, ends]
      rfl
    refine ⟨fun empty => ?_, .inr ?_⟩
    · rw [empty] at ends
      cases ends
    · rw [lastD, count, count]
      exact ⟨between, nearer⟩

end

/-! ## The runs -/

section
variable {K : Type} [JsonNumber K] (hash : String → String)

omit [JsonNumber K] in
def Found (name : String) (results : List (Entry K)) : Prop :=
  ∃ entry ∈ results, nameOf hash entry.matchId = name

omit [JsonNumber K] in
/-- After so many calls without it, the file has so many fewer before it. -/
structure Waits (n limit : Nat) (name : String) (calls : Nat) (s : JournalRun K) : Prop where
  stays : s.files.has name = true
  room : calls * limit + left s.cursor name s.files + 1 ≤ n
  call : ∀ b, s.call = some b → name ∈ b.next ∨ Found hash name b.results ∨
    Ahead s.cursor b.last name ∧ (calls + 1) * limit + left b.last name s.files + 1 ≤ n

end

namespace JournalRun
variable {K : Type} [JsonNumber K] {hash : String → String} {n limit calls : Nat}
  {name : String} {s : JournalRun K}

omit [JsonNumber K] in
theorem readFrom_waits (waits : Waits hash n limit name calls s) {last : String}
    {next : List String} {results : List (Entry K)}
    (call : name ∈ next ∨ Found hash name results ∨
      Ahead s.cursor last name ∧ (calls + 1) * limit + left last name s.files + 1 ≤ n) :
    (s.readFrom last next results).returned = s.returned ∧
        Waits hash n limit name calls (s.readFrom last next results) ∨
      (s.readFrom last next results).returned = s.returned ++ [results] ∧
        (Waits hash n limit name (calls + 1) (s.readFrom last next results) ∨
          Found hash name results) := by
  unfold readFrom
  split
  · rename_i empty
    refine .inr ⟨rfl, ?_⟩
    rcases call with inside | found | ⟨between, nearer⟩
    · rw [empty] at inside
      cases inside
    · exact .inr found
    · exact .inl ⟨waits.stays, nearer, nofun⟩
  · refine .inl ⟨rfl, waits.stays, waits.room, fun b same => ?_⟩
    cases same
    exact call

omit [JsonNumber K] in
theorem fail_waits (waits : Waits hash n limit name calls s) :
    Waits hash n limit name calls s.fail :=
  ⟨waits.stays, waits.room, nofun⟩

theorem entryOf_name {file raw : String} {entry : Entry K}
    (decodes : entryOf hash file raw = some entry) : file = nameOf hash entry.matchId := by
  unfold entryOf at decodes
  simp only [Option.bind_eq_bind, Option.bind_eq_some_iff] at decodes
  obtain ⟨envelope, _, decodes⟩ := decodes
  split at decodes
  · split at decodes
    · simp only [Option.bind_eq_some_iff] at decodes
      obtain ⟨_, _, result, _, decodes⟩ := decodes
      split at decodes
      · simp only [Option.bind_eq_some_iff, Option.guard_eq_some', Option.pure_def,
          Option.some.injEq] at decodes
        obtain ⟨_, ⟨_, named⟩, rfl⟩ := decodes
        exact named
      · cases decodes
    · cases decodes
  · cases decodes

omit [JsonNumber K] in
theorem read_present {files : Directory} (stays : files.has name = true) :
    ResultJournal.read name files ≠ .error .missing := by
  rw [KeyedList.has_eq_isSome] at stays
  obtain ⟨file, there⟩ := Option.isSome_iff_exists.mp stays
  unfold ResultJournal.read
  rw [there]
  dsimp only
  split <;> nofun

theorem apply_waits (waits : Waits hash n limit name calls s) {event : JournalEvent}
    (spares : s.Spares limit name event) :
    (s.apply hash event).returned = s.returned ∧ Waits hash n limit name calls (s.apply hash event) ∨
      ∃ results, (s.apply hash event).returned = s.returned ++ [results] ∧
        (Waits hash n limit name (calls + 1) (s.apply hash event) ∨ Found hash name results) := by
  cases event with
  | entries limit' works =>
    unfold apply
    dsimp only
    split
    · exact .inl ⟨rfl, waits⟩
    split
    · exact .inl ⟨rfl, waits⟩
    rename_i listed
    have same : limit' = limit := spares
    rw [same, Int.toNat_natCast]
    have positive : 0 < limit := by omega
    obtain ⟨some_, nearer⟩ := batch_nearer waits.stays positive
    have room := waits.room
    generalize batch limit s.cursor (names s.files) = next at some_ nearer
    have call : name ∈ next ∨ Found hash name ([] : List (Entry K)) ∨
        Ahead s.cursor (next.getLastD "") name ∧
          (calls + 1) * limit + left (next.getLastD "") name s.files + 1 ≤ n := by
      refine nearer.imp id fun nearer => .inr ⟨nearer.1, ?_⟩
      rw [Nat.succ_mul]
      omega
    exact (readFrom_waits waits call).imp id fun second => ⟨_, second⟩
  | read works =>
    unfold apply
    dsimp only
    split
    · exact .inl ⟨rfl, waits⟩
    · exact .inl ⟨rfl, waits⟩
    rename_i last file later results under
    have call := waits.call _ under
    split
    · split
      · -- the file is gone, so it is not the one that stays
        rename_i missing
        have other : name ≠ file := fun same => read_present waits.stays (same ▸ missing)
        exact (readFrom_waits waits (call.imp (fun inside => (List.mem_cons.mp inside).resolve_left
          other) id)).imp id fun second => ⟨_, second⟩
      · exact .inl ⟨rfl, fail_waits waits⟩
      · rename_i text reads
        split
        · exact .inl ⟨rfl, fail_waits waits⟩
        · rename_i entry decodes
          have call' : name ∈ later ∨ Found hash name (results ++ [entry]) ∨
              Ahead s.cursor last name ∧
                (calls + 1) * limit + left last name s.files + 1 ≤ n := by
            rcases call with inside | ⟨found, member, same⟩ | nearer
            · rcases List.mem_cons.mp inside with same | later
              · exact .inr (.inl ⟨entry, List.mem_append_right _ (List.mem_singleton_self _),
                  same ▸ (entryOf_name decodes).symm⟩)
              · exact .inl later
            · exact .inr (.inl ⟨found, List.mem_append_left _ member, same⟩)
            · exact .inr (.inr nearer)
          exact (readFrom_waits waits call').imp id fun second => ⟨_, second⟩
    · exact .inl ⟨rfl, fail_waits waits⟩
  | publish file =>
    unfold apply
    dsimp only
    split
    · exact .inl ⟨rfl, waits⟩
    rename_i fresh
    have spares : ¬ Ahead s.cursor file.name name := spares.resolve_left fresh
    have fresh : s.files.has file.name = false := by simpa using fresh
    refine .inl ⟨rfl, ?_, ?_, fun b under => ?_⟩
    · obtain ⟨kept, member, same⟩ := KeyedList.has_iff.mp waits.stays
      refine KeyedList.has_iff.mpr ⟨kept, ?_, same⟩
      rw [KeyedList.entries_set_of_absent fresh]
      exact List.mem_append_left _ member
    · dsimp only
      rw [left_publish fresh spares]
      exact waits.room
    · refine (waits.call b under).imp id (Or.imp id fun nearer => ⟨nearer.1, ?_⟩)
      dsimp only
      rw [left_publish fresh fun ahead => spares (nearer.1.of_last ahead)]
      exact nearer.2
  | remove other =>
    refine .inl ⟨rfl, ?_, ?_, fun b under => ?_⟩
    · obtain ⟨kept, member, same⟩ := KeyedList.has_iff.mp waits.stays
      exact KeyedList.has_iff.mpr
        ⟨kept, KeyedList.mem_delete.mpr ⟨member, fun equal => spares (equal ▸ same)⟩, same⟩
    · have fewer : left s.cursor name (s.files.delete other) ≤ left s.cursor name s.files :=
        left_remove other
      have room := waits.room
      change calls * limit + left s.cursor name (s.files.delete other) + 1 ≤ n
      omega
    · refine (waits.call b under).imp id (Or.imp id fun nearer => ⟨nearer.1, ?_⟩)
      have fewer : left b.last name (s.files.delete other) ≤ left b.last name s.files :=
        left_remove other
      change (calls + 1) * limit + left b.last name (s.files.delete other) + 1 ≤ n
      omega

omit [JsonNumber K] in
theorem readFrom_ends (s : JournalRun K) (last : String) (next : List String)
    (results : List (Entry K)) :
    (s.readFrom last next results).returned = s.returned ∧
        (s.readFrom last next results).cursor = s.cursor ∨
      (s.readFrom last next results).returned = s.returned ++ [results] := by
  unfold readFrom
  split
  · exact .inr rfl
  · exact .inl ⟨rfl, rfl⟩

/-- A step ends a call, or it leaves the cursor and what has been returned. -/
theorem apply_ends (hash : String → String) (s : JournalRun K) (event : JournalEvent) :
    (s.apply hash event).returned = s.returned ∧ (s.apply hash event).cursor = s.cursor ∨
      ∃ results, (s.apply hash event).returned = s.returned ++ [results] := by
  have reads : ∀ last next results,
      (s.readFrom last next results).returned = s.returned ∧
          (s.readFrom last next results).cursor = s.cursor ∨
        ∃ results', (s.readFrom last next results).returned = s.returned ++ [results'] :=
    fun last next results => (readFrom_ends s last next results).imp id fun ends => ⟨_, ends⟩
  unfold apply
  cases event with
  | entries limit works =>
    dsimp only
    split
    · exact .inl ⟨rfl, rfl⟩
    split
    · exact .inl ⟨rfl, rfl⟩
    · exact reads _ _ _
  | read works =>
    dsimp only
    split
    · exact .inl ⟨rfl, rfl⟩
    · exact .inl ⟨rfl, rfl⟩
    split
    · split
      · exact reads _ _ _
      · exact .inl ⟨rfl, rfl⟩
      · split
        · exact .inl ⟨rfl, rfl⟩
        · exact reads _ _ _
    · exact .inl ⟨rfl, rfl⟩
  | publish file =>
    dsimp only
    split <;> exact .inl ⟨rfl, rfl⟩
  | remove name => exact .inl ⟨rfl, rfl⟩

/-- Until the file is returned, the calls bring the cursor nearer to it. -/
theorem waits_reach {start t : JournalRun K} (waits : Waits hash n limit name 0 start)
    (run : Reach (fun s event => s.Spares limit name event) (apply hash) start t) :
    ∃ returned, t.returned = start.returned ++ returned ∧
      (Waits hash n limit name returned.length t ∨ ∃ results ∈ returned, Found hash name results) := by
  refine run.invariant (I := fun t => ∃ returned, t.returned = start.returned ++ returned ∧
    (Waits hash n limit name returned.length t ∨ ∃ results ∈ returned, Found hash name results))
    ⟨[], (List.append_nil _).symm, .inl waits⟩ ?_
  rintro s event ⟨returned, same, waits | ⟨results, member, found⟩⟩ spares
  · rcases apply_waits waits spares with ⟨kept, waits'⟩ | ⟨results, more, waits' | found⟩
    · exact ⟨returned, kept.trans same, .inl waits'⟩
    · refine ⟨returned ++ [results], by rw [more, same, List.append_assoc], .inl ?_⟩
      rw [List.length_append, List.length_singleton]
      exact waits'
    · exact ⟨returned ++ [results], by rw [more, same, List.append_assoc],
        .inr ⟨results, List.mem_append_right _ (List.mem_singleton_self _), found⟩⟩
  · obtain ⟨more, grows⟩ : ∃ more, (s.apply hash event).returned = s.returned ++ more := by
      rcases apply_ends hash s event with ⟨kept, _⟩ | ⟨results, ends⟩
      · exact ⟨[], kept.trans (List.append_nil _).symm⟩
      · exact ⟨_, ends⟩
    exact ⟨returned ++ more, by rw [grows, same, List.append_assoc],
      .inr ⟨results, List.mem_append_left _ member, found⟩⟩

end JournalRun

theorem JournalRun.apply_read {K : Type} [JsonNumber K] {hash : String → String} {s : JournalRun K}
    {last name text : String} {later : List String} {results : List (Entry K)} {entry : Entry K}
    (under : s.call = some ⟨last, name :: later, results⟩) (reads : read name s.files = .ok text)
    (decodes : entryOf hash name text = some entry) :
    s.apply hash (.read true) = s.readFrom last later (results ++ [entry]) := by
  unfold JournalRun.apply
  simp only [under, if_true, reads, decodes]

/-- Two calls on a journal with one file. -/
def soleFile : JournalRun ℚ :=
  { files := KeyedList.empty.set (fileOn "first"), cursor := "", call := none, returned := [] }

def twoCalls : JournalRun ℚ :=
  (((soleFile.apply id (.entries 1 true)).apply id (.read true)).apply id (.entries 1 true)).apply id
    (.read true)

theorem sole_call {s : JournalRun ℚ} (files : s.files.entries = [fileOn "first"])
    (idle : s.call = none) : (s.apply id (.entries 1 true)).apply id (.read true) =
      { s with cursor := nameOf id "m", returned := s.returned ++ [[firstEntry]] } := by
  have next : batch 1 s.cursor (names s.files) = [nameOf id "m"] := by
    rw [names, files]
    exact batch_singleton (by decide)
  have found : s.files.get? (nameOf id "m") = some (fileOn "first") := by
    rw [KeyedList.get?_eq_some, files]
    exact ⟨List.mem_singleton_self _, rfl⟩
  have reads : ResultJournal.read (nameOf id "m") s.files = .ok (fileOn "first").text := by
    unfold ResultJournal.read
    rw [found]
    exact if_pos (resultOn_checks (.inl rfl)).1
  have decodes : entryOf id (nameOf id "m") (fileOn "first").text = some firstEntry :=
    entryOf_serialized (resultOn "first") (by decide)
  have lists : s.apply id (.entries 1 true) =
      { s with call := some ⟨nameOf id "m", [nameOf id "m"], []⟩ } := by
    unfold JournalRun.apply
    simp only [idle, Option.isSome_none, Bool.false_eq_true, if_false, Int.toNat_one, next]
    rfl
  rw [lists, JournalRun.apply_read
    (s := { s with call := some ⟨nameOf id "m", [nameOf id "m"], []⟩ }) rfl reads decodes]
  unfold JournalRun.readFrom
  rw [if_pos rfl, List.nil_append, ← idle]

end SwitchRemake.Redis

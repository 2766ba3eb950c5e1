import SwitchRemake.Redis.ResultOutbox

/-!
# No result is lost

What a worker has accepted leaves its queue from the front. With a journal it leaves once its entry
is published, without one once its `xAdd` has succeeded, and an entry leaves the journal once
`isPersisted` has answered true.
-/

namespace SwitchRemake.Redis
open Lib ResultJournal

variable {ι K : Type} [JsNumber K] [JsonNumber K] {hash : String → String}

/-! ## What is safe on the disk -/

omit [JsNumber K] [JsonNumber K] in
/-- `isPersisted` has answered true for an entry that is kept under this name. -/
def Answered (hash : String → String) (persisted : List (Entry K)) (name : String) : Prop :=
  ∃ entry ∈ persisted, nameOf hash entry.matchId = name

/-- The result is in the journal, or its name has been answered for. -/
def Stored (hash : String → String) (files : Directory) (persisted : List (Entry K))
    (result : MatchResultMessage) : Prop :=
  files.get? (nameOf hash result.matchId) =
      some ⟨nameOf hash result.matchId, serialized hash K result⟩ ∨
    Answered hash persisted (nameOf hash result.matchId)

omit [JsNumber K] [JsonNumber K] in
/-- No file goes without an answer for its name. -/
def FilesLast (hash : String → String) (files after : Directory) (persisted : List (Entry K)) :
    Prop :=
  ∀ name file, files.get? name = some file →
    after.get? name = some file ∨ Answered hash persisted name

omit [JsNumber K] [JsonNumber K] in
theorem FilesLast.refl (files : Directory) (persisted : List (Entry K)) :
    FilesLast hash files files persisted :=
  fun _ _ found => .inl found

omit [JsNumber K] [JsonNumber K] in
theorem Answered.append {persisted : List (Entry K)} {name : String}
    (answered : Answered hash persisted name) (more : List (Entry K)) :
    Answered hash (persisted ++ more) name := by
  obtain ⟨entry, member, same⟩ := answered
  exact ⟨entry, List.mem_append_left more member, same⟩

theorem Stored.later {files after : Directory} {persisted more : List (Entry K)}
    {result : MatchResultMessage} (stored : Stored hash files persisted result)
    (last : FilesLast hash files after (persisted ++ more)) :
    Stored hash after (persisted ++ more) result := by
  rcases stored with found | answered
  · exact last _ _ found
  · exact .inr (answered.append more)

omit [JsNumber K] [JsonNumber K] in
theorem filesLast_set {files : Directory} {file : File} (fresh : files.has file.name = false)
    (persisted : List (Entry K)) : FilesLast hash files (files.set file) persisted := by
  intro name old found
  rw [KeyedList.get?_set]
  split
  · rename_i same
    rw [KeyedList.has_eq_isSome, ← same, found] at fresh
    cases fresh
  · exact .inl found

omit [JsNumber K] [JsonNumber K] in
theorem filesLast_delete {files : Directory} {name : String} {persisted : List (Entry K)}
    (answered : Answered hash persisted name) :
    FilesLast hash files (files.delete name) persisted := by
  intro other file found
  by_cases same : other = name
  · exact .inr (same ▸ answered)
  · left
    rw [KeyedList.get?_delete, if_neg same]
    exact found

theorem get?_of_read {name text : String} {files : Directory} (reads : ResultJournal.read name files = .ok text) :
    files.get? name = some ⟨name, text⟩ := by
  unfold ResultJournal.read at reads
  split at reads
  · cases reads
  · rename_i file found
    split at reads
    · cases reads
      obtain ⟨_, rfl⟩ := KeyedList.mem_of_get? found
      exact found
    · cases reads

/-! ## One worker with a journal -/

/-- The sections that claim nothing about the disk. -/
def Section.Quiet : Section K → Prop
  | .finishing _ => False
  | .acknowledging _ _ => False
  | _ => True

structure JournalKeeps (hash : String → String) (files : Directory) (persisted : List (Entry K))
    (accepted : List MatchResultMessage) (o : ResultOutbox K) : Prop where
  journaled : o.journaled = true
  order : ∃ gone, accepted = gone ++ o.queue ∧ ∀ result ∈ gone, Stored hash files persisted result
  finishing : ∀ caller, o.running = some (.finishing caller) →
    ∀ result ∈ o.queue.head?, Stored hash files persisted result
  acknowledging : ∀ entry later, o.running = some (.acknowledging entry later) →
    Answered hash persisted (nameOf hash entry.matchId)
  awaited : ∀ sent, o.awaited ≠ some (.adding sent)

namespace JournalKeeps
variable {files after : Directory} {persisted more : List (Entry K)}
  {accepted : List MatchResultMessage} {o o' : ResultOutbox K}

theorem later (keeps : JournalKeeps hash files persisted accepted o)
    (last : FilesLast hash files after (persisted ++ more)) :
    JournalKeeps hash after (persisted ++ more) accepted o where
  journaled := keeps.journaled
  order := by
    obtain ⟨gone, split, stored⟩ := keeps.order
    exact ⟨gone, split, fun result member => (stored result member).later last⟩
  finishing caller running result member :=
    (keeps.finishing caller running result member).later last
  acknowledging entry later running := (keeps.acknowledging entry later running).append more
  awaited := keeps.awaited

theorem relocated (keeps : JournalKeeps hash files persisted accepted o)
    (last : FilesLast hash files after persisted) :
    JournalKeeps hash after persisted accepted o := by
  rw [← List.append_nil persisted] at last ⊢
  exact keeps.later last

/-- A worker that only moves on, to a place that claims nothing. -/
theorem moved (keeps : JournalKeeps hash files persisted accepted o)
    (journaled : o'.journaled = o.journaled) (queue : o'.queue = o.queue)
    (running : ∀ current ∈ o'.running, current.Quiet)
    (awaited : ∀ sent, o'.awaited ≠ some (.adding sent)) :
    JournalKeeps hash files persisted accepted o' where
  journaled := journaled.trans keeps.journaled
  order := queue ▸ keeps.order
  finishing _ stands := (running _ stands).elim
  acknowledging _ _ stands := (running _ stands).elim
  awaited := awaited

omit [JsNumber K] [JsonNumber K] in
theorem quiet_persistPending (o : ResultOutbox K) (caller : Caller) :
    ∀ current ∈ (o.persistPending caller).running, current.Quiet := by
  intro current member
  unfold ResultOutbox.persistPending at member
  split at member <;> cases member <;> trivial

omit [JsNumber K] [JsonNumber K] in
@[simp] theorem persistPending_queue (o : ResultOutbox K) (caller : Caller) :
    (o.persistPending caller).queue = o.queue := by
  unfold ResultOutbox.persistPending
  split <;> rfl

omit [JsNumber K] [JsonNumber K] in
@[simp] theorem persistPending_journaled (o : ResultOutbox K) (caller : Caller) :
    (o.persistPending caller).journaled = o.journaled := by
  unfold ResultOutbox.persistPending
  split <;> rfl

omit [JsNumber K] [JsonNumber K] in
@[simp] theorem persistPending_awaited (o : ResultOutbox K) (caller : Caller) :
    (o.persistPending caller).awaited = o.awaited := by
  unfold ResultOutbox.persistPending
  split <;> rfl

theorem persistPending (keeps : JournalKeeps hash files persisted accepted o) (caller : Caller) :
    JournalKeeps hash files persisted accepted (o.persistPending caller) := by
  apply keeps.moved
  · simp
  · simp
  · exact quiet_persistPending o caller
  · simpa using keeps.awaited

theorem fail (keeps : JournalKeeps hash files persisted accepted o) :
    JournalKeeps hash files persisted accepted o.fail :=
  keeps.moved rfl rfl nofun keeps.awaited

theorem readFrom (keeps : JournalKeeps hash files persisted accepted o) (last : String)
    (next : List String) (results : List (Entry K)) :
    JournalKeeps hash files persisted accepted (o.readFrom last next results) := by
  cases next with
  | nil => exact keeps.moved rfl rfl (by rintro _ ⟨⟩; trivial) keeps.awaited
  | cons name later => exact keeps.moved rfl rfl (by rintro _ ⟨⟩; trivial) keeps.awaited

theorem deliver (keeps : JournalKeeps hash files persisted accepted o) (entries : List (Entry K)) :
    JournalKeeps hash files persisted accepted (o.deliver entries) := by
  cases entries with
  | nil => exact keeps.moved rfl rfl nofun nofun
  | cons entry later => exact keeps.moved rfl rfl nofun nofun

/-- Its own entry is in the journal, so the result may leave the queue. -/
theorem shift (keeps : JournalKeeps hash files persisted accepted o)
    (stored : ∀ result ∈ o.queue.head?, Stored hash files persisted result) :
    JournalKeeps hash files persisted accepted { o with queue := o.queue.tail, running := none } where
  journaled := keeps.journaled
  order := by
    obtain ⟨gone, split, before⟩ := keeps.order
    cases queue : o.queue with
    | nil => exact ⟨gone, by rw [split, queue]; rfl, before⟩
    | cons result rest =>
      refine ⟨gone ++ [result], by rw [split, queue]; simp, ?_⟩
      intro other member
      rcases List.mem_append.mp member with old | here
      · exact before other old
      · rw [List.mem_singleton.mp here]
        exact stored result (by rw [queue]; rfl)
  finishing := nofun
  acknowledging := nofun
  awaited := keeps.awaited

theorem proceed (keeps : JournalKeeps hash files persisted accepted o) (works : Bool)
    {current : Section K} (running : o.running = some current) :
    FilesLast hash files (o.proceed hash files works current).2 persisted ∧
      JournalKeeps hash (o.proceed hash files works current).2 persisted accepted
        (o.proceed hash files works current).1 := by
  have stays : ∀ o' : ResultOutbox K, JournalKeeps hash files persisted accepted o' →
      FilesLast hash files files persisted ∧ JournalKeeps hash files persisted accepted o' :=
    fun _ moved => ⟨.refl _ _, moved⟩
  cases current with
  | publishing caller =>
    unfold ResultOutbox.proceed
    dsimp only
    split
    · exact stays _ keeps
    rename_i result rest queue
    split
    · split
      · exact stays _ (keeps.moved rfl rfl (by rintro _ ⟨⟩; trivial) keeps.awaited)
      · rename_i fresh
        have last : FilesLast hash files
            (files.set ⟨nameOf hash result.matchId, serialized hash K result⟩) persisted :=
          filesLast_set (Bool.eq_false_iff.mpr fresh) persisted
        refine ⟨last, ?_⟩
        have here := keeps.relocated last
        refine ⟨here.journaled, here.order, ?_, by rintro _ _ ⟨⟩, here.awaited⟩
        intro _ _ other member
        rw [queue] at member
        cases member
        exact .inl (by rw [KeyedList.get?_set, if_pos rfl])
    · exact stays _ keeps.fail
  | comparing caller =>
    unfold ResultOutbox.proceed
    dsimp only
    split
    · exact stays _ keeps
    rename_i result rest queue
    split
    · rename_i text reads
      split
      · rename_i same
        refine ⟨.refl _ _, keeps.journaled, keeps.order, ?_, by rintro _ _ ⟨⟩, keeps.awaited⟩
        intro _ _ other member
        rw [queue] at member
        cases member
        exact .inl (same ▸ get?_of_read reads)
      · exact stays _ keeps.fail
    · exact stays _ keeps.fail
  | finishing caller =>
    unfold ResultOutbox.proceed
    dsimp only
    split
    · refine stays _ (moved (keeps.shift (keeps.finishing caller running)) ?_ ?_
        (quiet_persistPending _ caller) ?_)
      · simp
      · simp
      · simpa using keeps.awaited
    · exact stays _ keeps.fail
  | listing =>
    unfold ResultOutbox.proceed
    dsimp only
    split
    · exact stays _ (keeps.readFrom ..)
    · exact stays _ keeps.fail
  | reading last name later results =>
    unfold ResultOutbox.proceed
    dsimp only
    split
    · split
      · exact stays _ (keeps.readFrom ..)
      · exact stays _ keeps.fail
      · split
        · exact stays _ keeps.fail
        · exact stays _ (keeps.readFrom ..)
    · exact stays _ keeps.fail
  | checkingReady results => exact stays _ keeps
  | acknowledging entry later =>
    unfold ResultOutbox.proceed
    dsimp only
    split
    · have last : FilesLast hash files (files.delete (nameOf hash entry.matchId)) persisted :=
        filesLast_delete (keeps.acknowledging entry later running)
      refine ⟨last, ?_⟩
      exact (keeps.relocated last).moved rfl rfl (by rintro _ ⟨⟩; trivial) keeps.awaited
    · exact stays _ (keeps.moved rfl rfl (by rintro _ ⟨⟩) keeps.awaited)
  | syncing later =>
    unfold ResultOutbox.proceed
    dsimp only
    split
    · exact stays _ (keeps.deliver later)
    · exact stays _ (keeps.moved rfl rfl (by rintro _ ⟨⟩) keeps.awaited)

/-- A flush that waited for an answer. Only the answer of `isPersisted` is remembered. -/
theorem resume (keeps : JournalKeeps hash files persisted accepted o) (answer : Option Bool)
    {call : Awaited K} (awaited : o.awaited = some call) (idle : o.running = none) :
    (o.resume files answer call).files = files ∧ (o.resume files answer call).accepted = [] ∧
      JournalKeeps hash files (persisted ++ (o.resume files answer call).persisted) accepted
        (o.resume files answer call).outbox := by
  have stays : ∀ o' : ResultOutbox K, JournalKeeps hash files persisted accepted o' →
      JournalKeeps hash files (persisted ++ []) accepted o' := by
    intro o' moved
    rwa [List.append_nil]
  have goes : ∀ call : Awaited K, (∀ sent, call ≠ .adding sent) →
      JournalKeeps hash files persisted accepted { o with awaited := some call } := by
    intro call other
    refine keeps.moved rfl rfl (by simp [idle]) ?_
    intro sent same
    exact other sent (Option.some.inj same)
  have ends : JournalKeeps hash files persisted accepted { o with awaited := none } :=
    keeps.moved rfl rfl (by simp [idle]) nofun
  cases call with
  | adding sent => exact absurd awaited (keeps.awaited sent)
  | isPersisted entry later =>
    rcases answer with _ | _ | _
    · exact ⟨rfl, rfl, stays _ ends⟩
    · exact ⟨rfl, rfl, stays _ (goes _ nofun)⟩
    · have here : JournalKeeps hash files (persisted ++ [entry]) accepted o :=
        keeps.later (.refl _ _)
      refine ⟨rfl, rfl, here.journaled, here.order, nofun, ?_, nofun⟩
      rintro _ _ ⟨⟩
      exact ⟨entry, List.mem_append_right _ (List.mem_singleton.mpr rfl), rfl⟩
  | setPxIfAbsent entry later =>
    rcases answer with _ | _ | _
    · exact ⟨rfl, rfl, stays _ ends⟩
    · exact ⟨rfl, rfl, stays _ (keeps.deliver later)⟩
    · exact ⟨rfl, rfl, stays _ (goes _ nofun)⟩
  | xAdd entry later =>
    cases answer with
    | none => exact ⟨rfl, rfl, stays _ (goes _ nofun)⟩
    | some _ => exact ⟨rfl, rfl, stays _ (keeps.deliver later)⟩
  | compareAndDelete => exact ⟨rfl, rfl, stays _ ends⟩

/-- One step of a worker, whatever fails in it. -/
theorem next (keeps : JournalKeeps hash files persisted accepted o) (event : OutboxEvent) :
    FilesLast hash files (o.next hash files event).files
        (persisted ++ (o.next hash files event).persisted) ∧
      JournalKeeps hash (o.next hash files event).files
        (persisted ++ (o.next hash files event).persisted)
        (accepted ++ (o.next hash files event).accepted) (o.next hash files event).outbox := by
  have stays : ∀ o' : ResultOutbox K, JournalKeeps hash files persisted accepted o' →
      FilesLast hash files files (persisted ++ []) ∧
        JournalKeeps hash files (persisted ++ []) (accepted ++ []) o' := by
    intro o' moved
    rw [List.append_nil, List.append_nil]
    exact ⟨.refl _ _, moved⟩
  have journaled := keeps.journaled
  cases event with
  | enqueue result =>
    unfold ResultOutbox.next
    dsimp only
    split
    · exact stays _ keeps
    rename_i idle
    dsimp only
    rw [List.append_nil]
    have grown : JournalKeeps hash files persisted (accepted ++ [result])
        { o with queue := o.queue ++ [result] } := by
      have quiet : o.running = none := by simpa using idle
      refine ⟨journaled, ?_, fun _ running => ?_, fun _ _ running => ?_, keeps.awaited⟩
      · obtain ⟨gone, split, stored⟩ := keeps.order
        exact ⟨gone, by rw [split, List.append_assoc], stored⟩
      · exact absurd (quiet.symm.trans running) nofun
      · exact absurd (quiet.symm.trans running) nofun
    exact ⟨.refl _ _, grown.persistPending .enqueue⟩
  | flush ready =>
    unfold ResultOutbox.next
    dsimp only
    split
    · exact stays _ keeps
    · exact stays _ (keeps.persistPending .flush)
  | file works =>
    unfold ResultOutbox.next
    dsimp only
    split
    · exact stays _ keeps
    · rename_i current running
      dsimp only
      rw [List.append_nil, List.append_nil]
      exact keeps.proceed works running
  | ready ready =>
    unfold ResultOutbox.next
    dsimp only
    split
    · split
      · exact stays _ (keeps.deliver _)
      · exact stays _ (keeps.moved rfl rfl nofun keeps.awaited)
    · exact stays _ keeps
  | answer answer =>
    unfold ResultOutbox.next
    dsimp only
    split
    · rename_i call idle awaited
      obtain ⟨files', none, here⟩ := keeps.resume answer awaited idle
      rw [files', none, List.append_nil]
      exact ⟨.refl _ _, here⟩
    · exact stays _ keeps
  | canStartNewGame works =>
    unfold ResultOutbox.next
    dsimp only
    split
    · rename_i blocked
      refine stays _ (keeps.moved rfl rfl ?_ keeps.awaited)
      intro current running
      have running : o.running = some current := running
      simp [running] at blocked
    · exact stays _ keeps

end JournalKeeps

/-! ## One worker without -/

/-- `sent` results in front of the queue have gone out already and are cut off together. -/
structure MemoryKeeps (accepted delivered : List MatchResultMessage) (o : ResultOutbox K) :
    Prop where
  journaled : o.journaled = false
  running : o.running = none
  order : ∃ gone sent, accepted = gone ++ o.queue ∧ delivered = gone ++ o.queue.take sent ∧
    (o.awaited = none ∧ sent = 0 ∨ o.awaited = some (.adding sent) ∧ sent < o.queue.length)

namespace MemoryKeeps
variable {accepted delivered : List MatchResultMessage} {o : ResultOutbox K}

omit [JsNumber K] [JsonNumber K] in
theorem addNext (journaled : o.journaled = false) (running : o.running = none)
    {gone : List MatchResultMessage} {sent : Nat} (split : accepted = gone ++ o.queue)
    (out : delivered = gone ++ o.queue.take sent) :
    MemoryKeeps accepted delivered (o.addNext sent) := by
  unfold ResultOutbox.addNext
  split
  · rename_i more
    exact ⟨journaled, running, gone, sent, split, out, .inr ⟨rfl, more⟩⟩
  · refine ⟨journaled, running, gone ++ o.queue.take sent, 0, ?_, ?_, .inl ⟨rfl, rfl⟩⟩
    · rw [split, List.append_assoc, List.take_append_drop]
    · rw [out, List.take_zero, List.append_nil]

omit [JsNumber K] [JsonNumber K] in
/-- A flush without a journal goes on: only what has gone out leaves the queue. -/
theorem resume (keeps : MemoryKeeps accepted delivered o) (files : Directory)
    (answer : Option Bool) {call : Awaited K} (awaited : o.awaited = some call) :
    (o.resume files answer call).files = files ∧ (o.resume files answer call).accepted = [] ∧
      (o.resume files answer call).persisted = [] ∧
      MemoryKeeps accepted (delivered ++ (o.resume files answer call).delivered)
        (o.resume files answer call).outbox := by
  obtain ⟨gone, sent, split, out, ⟨idle, _⟩ | ⟨adding, more⟩⟩ := keeps.order
  · rw [awaited] at idle
    cases idle
  rw [awaited] at adding
  cases adding
  cases answer with
  | none =>
    refine ⟨rfl, rfl, rfl, keeps.journaled, keeps.running, gone ++ o.queue.take sent, 0, ?_, ?_,
      .inl ⟨rfl, rfl⟩⟩
    · simp [ResultOutbox.resume, split]
    · simp [ResultOutbox.resume, out]
  | some _ =>
    refine ⟨rfl, rfl, rfl, addNext keeps.journaled keeps.running split ?_⟩
    rw [out, List.append_assoc, List.take_add]
    rfl

theorem next (keeps : MemoryKeeps accepted delivered o) (hash : String → String)
    (files : Directory) (event : OutboxEvent) :
    (o.next hash files event).files = files ∧ (o.next hash files event).persisted = [] ∧
      MemoryKeeps (accepted ++ (o.next hash files event).accepted)
        (delivered ++ (o.next hash files event).delivered) (o.next hash files event).outbox := by
  have stays : ∀ st : OutboxStep K, o.next hash files event = st → st = { outbox := o, files } →
      (o.next hash files event).files = files ∧ (o.next hash files event).persisted = [] ∧
        MemoryKeeps (accepted ++ (o.next hash files event).accepted)
          (delivered ++ (o.next hash files event).delivered) (o.next hash files event).outbox := by
    rintro st step rfl
    rw [step, List.append_nil, List.append_nil]
    exact ⟨rfl, rfl, keeps⟩
  have journaled := keeps.journaled
  have running := keeps.running
  cases event with
  | enqueue result =>
    by_cases full : o.maxEntries ≤ o.queue.length
    · exact stays _ (by simp [ResultOutbox.next, running, journaled, full]) rfl
    have step : o.next hash files (.enqueue result) =
        { outbox := { o with queue := o.queue ++ [result] }, files, accepted := [result] } := by
      simp [ResultOutbox.next, running, journaled, full]
    rw [step]
    refine ⟨rfl, rfl, journaled, running, ?_⟩
    obtain ⟨gone, sent, split, out, flight⟩ := keeps.order
    have inside : sent ≤ o.queue.length := by
      rcases flight with ⟨_, rfl⟩ | ⟨_, more⟩
      · exact Nat.zero_le _
      · exact more.le
    refine ⟨gone, sent, by rw [split, List.append_assoc], ?_, ?_⟩
    · rw [List.append_nil, out, List.take_append_of_le_length inside]
    · rcases flight with idle | ⟨adding, more⟩
      · exact .inl idle
      · exact .inr ⟨adding, by simp only [List.length_append]; omega⟩
  | flush ready =>
    obtain ⟨gone, sent, split, out, ⟨idle, rfl⟩ | ⟨adding, _⟩⟩ := keeps.order
    · cases ready with
      | false => exact stays _ (by simp [ResultOutbox.next, running, journaled, idle]) rfl
      | true =>
        have step : o.next hash files (.flush true) = { outbox := o.addNext 0, files } := by
          simp [ResultOutbox.next, running, journaled, idle]
        rw [step, List.append_nil, List.append_nil]
        exact ⟨rfl, rfl, addNext journaled running split out⟩
    · exact stays _ (by simp [ResultOutbox.next, adding]) rfl
  | file works => exact stays _ (by simp [ResultOutbox.next, running]) rfl
  | ready ready => exact stays _ (by simp [ResultOutbox.next, running]) rfl
  | answer answer =>
    cases awaited : o.awaited with
    | none => exact stays _ (by simp [ResultOutbox.next, running, awaited]) rfl
    | some call =>
      have step : o.next hash files (.answer answer) = o.resume files answer call := by
        simp [ResultOutbox.next, running, awaited]
      obtain ⟨files', none, persisted, here⟩ := keeps.resume files answer awaited
      rw [step, none, List.append_nil]
      exact ⟨files', persisted, here⟩
  | canStartNewGame works => exact stays _ (by simp [ResultOutbox.next, journaled]) rfl

end MemoryKeeps

/-! ## Runs of all workers -/

/-- What holds of every worker between two steps. -/
def OutboxesKeep (hash : String → String) (s : Outboxes ι K) : Prop :=
  ∀ i, JournalKeeps hash s.files s.persisted (s.accepted i) (s.outbox i) ∨
    MemoryKeeps (s.accepted i) (s.delivered i) (s.outbox i)

variable [DecidableEq ι]

/-- A step loses no file of the journal, and keeps every worker right. -/
theorem outboxes_apply {s : Outboxes ι K} (keeps : OutboxesKeep hash s) (event : ι × OutboxEvent) :
    FilesLast hash s.files (s.apply hash event).files (s.apply hash event).persisted ∧
      OutboxesKeep hash (s.apply hash event) := by
  obtain ⟨i, event⟩ := event
  have own : FilesLast hash s.files (s.apply hash (i, event)).files
      (s.apply hash (i, event)).persisted ∧
      (JournalKeeps hash (s.apply hash (i, event)).files (s.apply hash (i, event)).persisted
        ((s.apply hash (i, event)).accepted i) ((s.apply hash (i, event)).outbox i) ∨
      MemoryKeeps ((s.apply hash (i, event)).accepted i) ((s.apply hash (i, event)).delivered i)
        ((s.apply hash (i, event)).outbox i)) := by
    simp only [Outboxes.apply, Function.update_self]
    rcases keeps i with journal | memory
    · obtain ⟨last, after⟩ := journal.next event
      exact ⟨last, .inl after⟩
    · obtain ⟨files, persisted, after⟩ := memory.next hash s.files event
      rw [files]
      exact ⟨.refl _ _, .inr after⟩
  refine ⟨own.1, fun j => ?_⟩
  by_cases same : j = i
  · rw [same]
    exact own.2
  · simp only [Outboxes.apply, Function.update_of_ne same]
    rcases keeps j with journal | memory
    · exact .inl (journal.later own.1)
    · exact .inr memory

/-- Workers that have just been made, on a directory with anything in it. -/
def Fresh (s : Outboxes ι K) : Prop :=
  ∃ (maxEntries : ι → Nat) (journaled : ι → Bool) (cursor : ι → String) (files : Directory),
    s = Outboxes.start (fun i => ResultOutbox.start (maxEntries i) (journaled i) (cursor i)) files

omit [DecidableEq ι] in
theorem outboxes_start {s : Outboxes ι K} (fresh : Fresh s) : OutboxesKeep hash s := by
  obtain ⟨maxEntries, journaled, cursor, files, rfl⟩ := fresh
  intro i
  cases mode : journaled i with
  | true => exact .inl ⟨mode, ⟨[], rfl, nofun⟩, nofun, nofun, nofun⟩
  | false => exact .inr ⟨mode, rfl, [], 0, rfl, rfl, .inl ⟨rfl, rfl⟩⟩

/-- The results a flush without a journal has sent and not yet cut off. -/
def ResultOutbox.inFlight (o : ResultOutbox K) : Nat :=
  match o.awaited with
  | some (.adding sent) => sent
  | _ => 0

/-- What a worker has accepted stands in its queue in the order it came, but for a part in front. Of
that part each result is in the journal or answered for under its name; without a journal it is what
has been delivered. And no file of the journal goes without an answer for its name. -/
theorem results_kept {start s : Outboxes ι K} (fresh : Fresh start)
    (run : Reach (fun _ _ => True) (Outboxes.apply hash) start s) :
    (∀ i, ∃ gone, s.accepted i = gone ++ (s.outbox i).queue ∧
      ((s.outbox i).journaled = true → ∀ result ∈ gone,
        Stored hash s.files s.persisted result) ∧
      ((s.outbox i).journaled = false →
        s.delivered i = gone ++ (s.outbox i).queue.take (s.outbox i).inFlight)) ∧
    ∀ event name file, s.files.get? name = some file →
      (s.apply hash event).files.get? name = some file ∨
        Answered hash (s.apply hash event).persisted name := by
  have keeps : OutboxesKeep hash s :=
    run.invariant (outboxes_start fresh) fun _ event before _ => (outboxes_apply before event).2
  refine ⟨fun i => ?_, fun event => (outboxes_apply keeps event).1⟩
  rcases keeps i with journal | memory
  · obtain ⟨gone, split, stored⟩ := journal.order
    exact ⟨gone, split, fun _ => stored, by simp [journal.journaled]⟩
  · obtain ⟨gone, sent, split, out, flight⟩ := memory.order
    refine ⟨gone, split, by simp [memory.journaled], fun _ => ?_⟩
    have inFlight : (s.outbox i).inFlight = sent := by
      unfold ResultOutbox.inFlight
      rcases flight with ⟨idle, rfl⟩ | ⟨adding, _⟩
      · rw [idle]
      · rw [adding]
    rw [inFlight]
    exact out

/-! ## Two results of one match -/

section
variable (hash) (s : Outboxes ι K) (i : ι)

def publishEvents (result : MatchResultMessage) : List OutboxEvent :=
  [.enqueue result, .file true, .file true]

def listEvents : List OutboxEvent := [.flush true, .file true, .file true, .ready true]

def acknowledgeEvents : List OutboxEvent := [.answer (some true), .file true, .file true]

def Outboxes.applyAll (hash : String → String) (s : Outboxes ι K) (i : ι)
    (events : List OutboxEvent) : Outboxes ι K :=
  (events.map fun event => (i, event)).foldl (Outboxes.apply hash) s

omit [JsNumber K] [JsonNumber K] in
theorem reach_applyAll [JsNumber K] [JsonNumber K] {start s : Outboxes ι K} {i : ι}
    (run : Reach (fun _ _ => True) (Outboxes.apply hash) start s) (events : List OutboxEvent) :
    Reach (fun _ _ => True) (Outboxes.apply hash) start (s.applyAll hash i events) := by
  apply run.trans
  apply Reach.of_list
  generalize events.map (fun event => (i, event)) = steps
  induction steps generalizing s with
  | nil => trivial
  | cons step rest ih => exact ⟨trivial, ih (run.step trivial)⟩

/-- What one worker has done: where it stands then, what is in the directory, and what it has added to
the books. -/
structure Leads (s after : Outboxes ι K) (i : ι) (o : ResultOutbox K) (files : Directory)
    (accepted : List MatchResultMessage) (persisted : List (Entry K)) : Prop where
  own : after.outbox i = o
  others : ∀ j, j ≠ i → after.outbox j = s.outbox j
  files : after.files = files
  accepted : after.accepted i = s.accepted i ++ accepted
  spared : ∀ j, j ≠ i → after.accepted j = s.accepted j
  persisted : after.persisted = s.persisted ++ persisted

/-- A worker that has nothing else to do publishes what it accepts. -/
theorem leads_publish (result : MatchResultMessage) (journaled : (s.outbox i).journaled = true)
    (queue : (s.outbox i).queue = []) (running : (s.outbox i).running = none)
    (checks : appendable hash K result = true)
    (fresh : s.files.has (nameOf hash result.matchId) = false) :
    Leads s (s.applyAll hash i (publishEvents result)) i (s.outbox i)
      (s.files.set ⟨nameOf hash result.matchId, serialized hash K result⟩) [result] [] := by
  have after : s.applyAll hash i (publishEvents result) =
      { s with
        files := s.files.set ⟨nameOf hash result.matchId, serialized hash K result⟩
        accepted := Function.update s.accepted i (s.accepted i ++ [result]) } := by
    simp [Outboxes.applyAll, publishEvents, Outboxes.apply, ResultOutbox.next, ResultOutbox.persistPending,
      ResultOutbox.proceed, journaled, queue, running, checks, fresh]
    rw [← journaled, ← queue, ← running]
  rw [after]
  exact ⟨rfl, fun _ _ => rfl, rfl, by simp, fun j other => by simp [other], by simp⟩

theorem batch_singleton {limit : Nat} {cursor name : String} (positive : 0 < limit) :
    batch limit cursor [name] = [name] := by
  have first : ∀ p : String → Bool, ([name].findIdx? p).getD 0 = 0 := by
    intro p
    rw [List.findIdx?_singleton]
    split <;> rfl
  simp only [batch, List.mergeSort_singleton, first]
  exact List.take_of_length_le positive

/-- The only entry of the journal is asked for. -/
theorem leads_list (result : MatchResultMessage) (journaled : (s.outbox i).journaled = true)
    (queue : (s.outbox i).queue = []) (running : (s.outbox i).running = none)
    (awaited : (s.outbox i).awaited = none) (named : result.matchId ≠ "")
    (checks : fits (serialized hash K result) = true)
    (only : s.files.entries = [⟨nameOf hash result.matchId, serialized hash K result⟩]) :
    Leads s (s.applyAll hash i listEvents) i
      { s.outbox i with
        cursor := nameOf hash result.matchId
        journalFailed := false
        awaited := some (.isPersisted ⟨result.matchId, Json.stored result.toJson⟩ []) }
      s.files [] [] := by
  have found : s.files.get? (nameOf hash result.matchId) =
      some ⟨nameOf hash result.matchId, serialized hash K result⟩ := by
    rw [KeyedList.get?_eq_some, only]
    exact ⟨List.mem_singleton.mpr rfl, rfl⟩
  have reads : entryOf hash (nameOf hash result.matchId) (serialized hash K result) =
      some (⟨result.matchId, Json.stored result.toJson⟩ : Entry K) :=
    entryOf_serialized result named
  have next : batch 128 (s.outbox i).cursor (names s.files) = [nameOf hash result.matchId] := by
    rw [names, only]
    exact batch_singleton (by decide)
  have after : s.applyAll hash i listEvents =
      { s with
        outbox := Function.update s.outbox i
          { s.outbox i with
            cursor := nameOf hash result.matchId
            journalFailed := false
            awaited := some (.isPersisted ⟨result.matchId, Json.stored result.toJson⟩ []) } } := by
    simp [Outboxes.applyAll, listEvents, Outboxes.apply, ResultOutbox.next, ResultOutbox.persistPending,
      ResultOutbox.proceed, ResultOutbox.readFrom, ResultOutbox.deliver, ResultJournal.read,
      journaled, queue, running, awaited, next, found, checks, reads]
  rw [after]
  exact ⟨by simp, fun j other => by simp [other], rfl, by simp, fun _ _ => rfl, by simp⟩

theorem leads_acknowledge (entry : Entry K) (running : (s.outbox i).running = none)
    (awaited : (s.outbox i).awaited = some (.isPersisted entry [])) :
    Leads s (s.applyAll hash i acknowledgeEvents) i { s.outbox i with awaited := none }
      (s.files.delete (nameOf hash entry.matchId)) [] [entry] := by
  have after : s.applyAll hash i acknowledgeEvents =
      { s with
        outbox := Function.update s.outbox i { s.outbox i with awaited := none }
        files := s.files.delete (nameOf hash entry.matchId)
        persisted := s.persisted ++ [entry] } := by
    simp [Outboxes.applyAll, acknowledgeEvents, Outboxes.apply, ResultOutbox.next, ResultOutbox.resume,
      ResultOutbox.proceed, ResultOutbox.deliver, running, awaited]
  rw [after]
  exact ⟨by simp, fun j other => by simp [other], rfl, by simp, fun _ _ => rfl, rfl⟩

end

def resultOn (mapId : String) : MatchResultMessage :=
  { v := 1, matchId := "m", roomId := "r", serverId := "s", mapId, startedAt := 0, endedAt := 9
    durationTicks := 1, buildId := "b", protocolVersion := 2, rulesVersion := "r"
    mapBundleHash := "h", visibilityCoreVersion := 1, winnerPlayerIds := [], replay := none
    players := [] }

theorem resultOn_ne :
    Json.stored ((resultOn "first").toJson : Json ℚ) ≠ Json.stored (resultOn "second").toJson := by
  intro same
  have mapId := congrArg (Json.member? "mapId") same
  simp [Json.stored, Json.storedMembers, Json.member?, MatchResultMessage.toJson, resultOn] at mapId

theorem resultOn_checks {mapId : String} (known : mapId = "first" ∨ mapId = "second") :
    fits (serialized id ℚ (resultOn mapId)) = true ∧ appendable id ℚ (resultOn mapId) = true := by
  have short : (Json.stringify ((resultOn mapId).toJson : Json ℚ)).length ≤ 5000 := by
    rcases known with rfl | rfl <;> decide +kernel
  apply appendable_of_short short
  rwa [id, payloadOf, String.toList_ofList]

def twoWorkers : Outboxes Bool ℚ := Outboxes.start (fun _ => ResultOutbox.start 8 true "") .empty

/-- Both workers ask for the first result. By the time the second of them gets its answer, another
result stands under the name. -/
def lateAnswer : Outboxes Bool ℚ :=
  (((((twoWorkers.applyAll id false (publishEvents (resultOn "first"))).applyAll id false listEvents).applyAll
    id true listEvents).applyAll id false acknowledgeEvents).applyAll id true
    (publishEvents (resultOn "second"))).applyAll id true acknowledgeEvents

def firstEntry : Entry ℚ := ⟨"m", Json.stored (resultOn "first").toJson⟩

def fileOn (mapId : String) : File := ⟨nameOf id "m", serialized id ℚ (resultOn mapId)⟩

def idleAt (cursor : String) : ResultOutbox ℚ := ResultOutbox.start 8 true cursor

def asking : ResultOutbox ℚ :=
  { idleAt (nameOf id "m") with awaited := some (.isPersisted firstEntry []) }

/-- Where both workers and their directory stand. -/
structure Stands (s : Outboxes Bool ℚ) (one two : ResultOutbox ℚ) (files : List File)
    (accepted : List MatchResultMessage) (persisted : List (Entry ℚ)) : Prop where
  one : s.outbox false = one
  two : s.outbox true = two
  files : s.files.entries = files
  accepted : s.accepted true = accepted
  persisted : s.persisted = persisted

theorem lateAnswer_stands :
    Stands lateAnswer (idleAt (nameOf id "m")) (idleAt (nameOf id "m")) [] [resultOn "second"]
      [firstEntry, firstEntry] := by
  obtain ⟨fits₁, checks₁⟩ := resultOn_checks (.inl rfl)
  obtain ⟨_, checks₂⟩ := resultOn_checks (.inr rfl)
  have s₁ : Stands (twoWorkers.applyAll id false (publishEvents (resultOn "first"))) (idleAt "")
      (idleAt "") [fileOn "first"] [] [] := by
    have leads := leads_publish id twoWorkers false (resultOn "first") rfl rfl rfl checks₁ rfl
    exact ⟨leads.own, leads.others true nofun, by rw [leads.files]; rfl, leads.spared true nofun,
      leads.persisted⟩
  unfold lateAnswer
  generalize twoWorkers.applyAll id false (publishEvents (resultOn "first")) = s at s₁ ⊢
  have s₂ : Stands (s.applyAll id false listEvents) asking (idleAt "") [fileOn "first"] [] [] := by
    have leads := leads_list id s false (resultOn "first") (by rw [s₁.one]; rfl) (by rw [s₁.one]; rfl)
      (by rw [s₁.one]; rfl) (by rw [s₁.one]; rfl) (by decide) fits₁ s₁.files
    refine ⟨?_, ?_, ?_, ?_, ?_⟩
    · rw [leads.own, s₁.one]
      rfl
    · rw [leads.others true nofun, s₁.two]
    · rw [leads.files, s₁.files]
    · rw [leads.spared true nofun, s₁.accepted]
    · rw [leads.persisted, s₁.persisted]
      rfl
  generalize s.applyAll id false listEvents = s at s₂ ⊢
  have s₃ : Stands (s.applyAll id true listEvents) asking asking [fileOn "first"] [] [] := by
    have leads := leads_list id s true (resultOn "first") (by rw [s₂.two]; rfl) (by rw [s₂.two]; rfl)
      (by rw [s₂.two]; rfl) (by rw [s₂.two]; rfl) (by decide) fits₁ s₂.files
    refine ⟨?_, ?_, ?_, ?_, ?_⟩
    · rw [leads.others false nofun, s₂.one]
    · rw [leads.own, s₂.two]
      rfl
    · rw [leads.files, s₂.files]
    · rw [leads.accepted, s₂.accepted]
      rfl
    · rw [leads.persisted, s₂.persisted]
      rfl
  generalize s.applyAll id true listEvents = s at s₃ ⊢
  have s₄ : Stands (s.applyAll id false acknowledgeEvents) (idleAt (nameOf id "m")) asking [] []
      [firstEntry] := by
    have leads := leads_acknowledge id s false firstEntry (by rw [s₃.one]; rfl) (by rw [s₃.one]; rfl)
    refine ⟨?_, ?_, ?_, ?_, ?_⟩
    · rw [leads.own, s₃.one]
      rfl
    · rw [leads.others true nofun, s₃.two]
    · rw [leads.files]
      change s.files.entries.filter _ = []
      rw [s₃.files]
      simp [fileOn, firstEntry]
    · rw [leads.spared true nofun, s₃.accepted]
    · rw [leads.persisted, s₃.persisted]
      rfl
  generalize s.applyAll id false acknowledgeEvents = s at s₄ ⊢
  have s₅ : Stands (s.applyAll id true (publishEvents (resultOn "second"))) (idleAt (nameOf id "m")) asking
      [fileOn "second"] [resultOn "second"] [firstEntry] := by
    have absent : s.files.has (nameOf id (resultOn "second").matchId) = false := by
      rw [KeyedList.has, s₄.files]
      rfl
    have leads := leads_publish id s true (resultOn "second") (by rw [s₄.two]; rfl) (by rw [s₄.two]; rfl)
      (by rw [s₄.two]; rfl) checks₂ absent
    refine ⟨?_, ?_, ?_, ?_, ?_⟩
    · rw [leads.others false nofun, s₄.one]
    · rw [leads.own, s₄.two]
    · rw [leads.files, KeyedList.entries_set_of_absent absent, s₄.files]
      rfl
    · rw [leads.accepted, s₄.accepted]
      rfl
    · rw [leads.persisted, s₄.persisted]
      rfl
  generalize s.applyAll id true (publishEvents (resultOn "second")) = s at s₅ ⊢
  have leads := leads_acknowledge id s true firstEntry (by rw [s₅.two]; rfl) (by rw [s₅.two]; rfl)
  refine ⟨?_, ?_, ?_, ?_, ?_⟩
  · rw [leads.others false nofun, s₅.one]
  · rw [leads.own, s₅.two]
    rfl
  · rw [leads.files]
    change s.files.entries.filter _ = []
    rw [s₅.files]
    simp [fileOn, firstEntry]
  · rw [leads.accepted, s₅.accepted]
    rfl
  · rw [leads.persisted, s₅.persisted]
    rfl

theorem reach_lateAnswer :
    Reach (fun _ _ => True) (Outboxes.apply id) twoWorkers lateAnswer :=
  reach_applyAll id (reach_applyAll id (reach_applyAll id (reach_applyAll id (reach_applyAll id
    (reach_applyAll id .refl _) _) _) _) _) _

theorem second_result_lost :
    Fresh twoWorkers ∧ Reach (fun _ _ => True) (Outboxes.apply id) twoWorkers lateAnswer ∧
      (lateAnswer.outbox true).journaled = true ∧
      lateAnswer.accepted true = [resultOn "second"] ∧ (lateAnswer.outbox true).queue = [] ∧
      lateAnswer.files.entries = [] ∧
      ∀ entry ∈ lateAnswer.persisted, entry.result ≠ Json.stored (resultOn "second").toJson := by
  have stands := lateAnswer_stands
  refine ⟨⟨_, _, _, _, rfl⟩, reach_lateAnswer, by rw [stands.two]; rfl, stands.accepted,
    by rw [stands.two]; rfl, stands.files, ?_⟩
  intro entry member
  have first : entry = firstEntry := by simpa [stands.persisted] using member
  rw [first]
  exact resultOn_ne

theorem results_kept_late :
    ∃ gone, lateAnswer.accepted true = gone ++ (lateAnswer.outbox true).queue ∧
      ∀ result ∈ gone, Stored id lateAnswer.files lateAnswer.persisted result := by
  obtain ⟨gone, split, stored, _⟩ := (results_kept ⟨_, _, _, _, rfl⟩ reach_lateAnswer).1 true
  refine ⟨gone, split, stored ?_⟩
  rw [lateAnswer_stands.two]
  rfl

end SwitchRemake.Redis
